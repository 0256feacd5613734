/-
# Machines from one list of transitions

A machine is compiled from one flat list, in which each transition stands together with where it
belongs.  Putting an entry of the list in its place changes one node, or what all states share, and
leaves the others alone (`Definition.foldl_place`).  If no state is declared twice, then at the end
each node holds what its own declaration says, in order, and nothing is lost, doubled or misplaced:
the machine is the one whose nodes are described by their declarations one by one
(`Draft.compile_eq`).

A machine that was built comes of a draft without faults, so no state was declared twice in it
(`Draft.faultless_of_build`).
-/
import Mathlib.Data.List.Nodup
import Macrostep.Draft.Build

namespace Macrostep

variable {S C E K O : Type}

/-- The state to which something belongs. -/
def Placement.state? : Placement S C E K O → Option S
  | on state _ _ | always state _ => some state
  | shared _ _ => none

section

variable [DecidableEq S] [DecidableEq K]

omit [DecidableEq S] in
/-- The node that the declaration of a state describes by itself. -/
def StateDraft.node (d : StateDraft S C E K O) (registry : Registry C E O) : Node S C E K O where
  on := .ofList (d.on.map fun (kind, t) => (kind, t.resolve registry))
  always := d.always.map (·.resolve registry)
  effect := d.effect
  isFinal := d.isFinal

omit [DecidableEq S] in
/-- The machine whose nodes are described by the declarations of their states. -/
def Draft.gathered (d : Draft S C E K O) : Definition S C E K O where
  id := d.id
  initial := d.initial
  context := d.context
  nodes := d.states.map fun s => (s.state, s.node d.registry)
  shared := .ofList (d.shared.map fun (kind, t) => (kind, t.resolve d.registry))

/-! ## Putting things in their places -/

/-- A node is left alone by what belongs elsewhere. -/
lemma Node.foldl_receive_of_forall {state : S} {ps : List (Placement S C E K O)}
    (node : Node S C E K O) (h : ∀ p ∈ ps, p.state? ≠ some state) :
    ps.foldl (Node.receive state) node = node := by
  refine List.foldlRecOn ps _ (motive := fun node' => node' = node) rfl fun node' hnode p hp => ?_
  have hstate := h p hp
  rw [hnode]
  cases p with
  | on state' kind t => exact if_neg fun heq => hstate (congrArg some heq)
  | always state' t => exact if_neg fun heq => hstate (congrArg some heq)
  | shared kind t => rfl

omit [DecidableEq S] in
lemma EventTable.receive_of_state {p : Placement S C E K O} {state : S}
    (h : p.state? = some state) (table : EventTable K (Transition S C E O)) :
    table.receive p = table := by
  cases p with
  | on state' kind t => rfl
  | always state' t => rfl
  | shared kind t => cases h

/-- Each node takes what is its own, whatever happens to the others. -/
lemma Definition.foldl_place (d : Definition S C E K O) (ps : List (Placement S C E K O)) :
    ps.foldl place d = { d with
      nodes := d.nodes.map fun (state, node) => (state, ps.foldl (Node.receive state) node)
      shared := ps.foldl EventTable.receive d.shared } := by
  induction ps generalizing d with
  | nil => simp
  | cons p ps ih =>
    rw [List.foldl_cons, ih]
    simp [place, Function.comp_def]

namespace StateDraft

variable (d : StateDraft S C E K O) (r : Registry C E O)

/-- A state takes what belongs to it, in order. -/
lemma receive_own (node : Node S C E K O) :
    (d.placements r).foldl (Node.receive d.state) node =
      { node with
        on := (d.on.map fun (kind, t) => (kind, t.resolve r)).foldl
          (fun table (kind, t) => table.add kind t) node.on
        always := node.always ++ d.always.map fun t => t.resolve r } := by
  have hon (entries : List (K × TransitionDraft S C E O)) (node : Node S C E K O) :
      (entries.map fun (kind, t) => (.on d.state kind (t.resolve r) : Placement S C E K O)).foldl
          (Node.receive d.state) node =
        { node with
          on := (entries.map fun (kind, t) => (kind, t.resolve r)).foldl
            (fun table (kind, t) => table.add kind t) node.on } := by
    induction entries generalizing node with
    | nil => rfl
    | cons entry entries ih => simp [Node.receive, ih]
  have halways (ts : List (TransitionDraft S C E O)) (node : Node S C E K O) :
      (ts.map fun t => (.always d.state (t.resolve r) : Placement S C E K O)).foldl
          (Node.receive d.state) node =
        { node with always := node.always ++ ts.map fun t => t.resolve r } := by
    induction ts generalizing node with
    | nil => simp
    | cons t ts ih => simp [Node.receive, ih]
  rw [placements, List.foldl_append, hon, halways]

omit [DecidableEq S] [DecidableEq K] in
lemma state_of_mem_placements {p : Placement S C E K O} (hp : p ∈ d.placements r) :
    p.state? = some d.state := by
  rcases List.mem_append.mp hp with hp | hp
  · obtain ⟨entry, -, rfl⟩ := List.mem_map.mp hp
    rfl
  · obtain ⟨t, -, rfl⟩ := List.mem_map.mp hp
    rfl

end StateDraft

namespace Draft

variable (d : Draft S C E K O)

/-- Of what belongs to several states, a state takes what is its own. -/
lemma receive_placements {s : StateDraft S C E K O} {r : Registry C E O}
    {states : List (StateDraft S C E K O)} (hnodup : (states.map StateDraft.state).Nodup)
    (hs : s ∈ states) (node : Node S C E K O) :
    (states.flatMap fun s' => s'.placements r).foldl (Node.receive s.state) node =
      (s.placements r).foldl (Node.receive s.state) node := by
  -- the states on either side of the one in question leave its node alone
  have hother {others : List (StateDraft S C E K O)} (hnot : s.state ∉ others.map StateDraft.state)
      (node : Node S C E K O) :
      (others.flatMap fun s' => s'.placements r).foldl (Node.receive s.state) node = node := by
    refine Node.foldl_receive_of_forall _ fun p hp hstate => hnot ?_
    obtain ⟨s', hs', hp⟩ := List.mem_flatMap.mp hp
    rw [s'.state_of_mem_placements r hp] at hstate
    exact List.mem_map.mpr ⟨s', hs', Option.some.inj hstate⟩
  obtain ⟨front, back, rfl⟩ := List.append_of_mem hs
  rw [List.map_append, List.map_cons, List.nodup_append] at hnodup
  obtain ⟨-, hback, hdisjoint⟩ := hnodup
  have hfront : s.state ∉ front.map StateDraft.state := fun h =>
    hdisjoint _ h _ List.mem_cons_self rfl
  rw [List.flatMap_append, List.flatMap_cons, List.foldl_append, List.foldl_append, hother hfront,
    hother (List.nodup_cons.mp hback).1]

/-- What all states share leaves the nodes alone. -/
lemma receive_shared (state : S) (node : Node S C E K O) :
    (d.shared.map fun (kind, t) =>
        (.shared kind (t.resolve d.registry) : Placement S C E K O)).foldl
      (Node.receive state) node = node := by
  refine Node.foldl_receive_of_forall _ fun p hp hstate => ?_
  obtain ⟨entry, -, rfl⟩ := List.mem_map.mp hp
  cases hstate

/-- At the end the node of a state is the one that its own declaration describes. -/
lemma foldl_receive_node (hnodup : d.declared.Nodup) {s : StateDraft S C E K O}
    (hs : s ∈ d.states) :
    d.placements.foldl (Node.receive s.state) { effect := s.effect, isFinal := s.isFinal } =
      s.node d.registry := by
  rw [placements, List.foldl_append, receive_placements hnodup hs, receive_shared, s.receive_own]
  rfl

omit [DecidableEq S] in
/-- At the end the shared table holds what all states share. -/
lemma foldl_receive_table :
    d.placements.foldl EventTable.receive {} =
      .ofList (d.shared.map fun (kind, t) => (kind, t.resolve d.registry)) := by
  have hstates : (d.states.flatMap fun s => s.placements d.registry).foldl EventTable.receive
      ({} : EventTable K (Transition S C E O)) = {} := by
    refine List.foldlRecOn _ _
      (motive := fun table => table = ({} : EventTable K (Transition S C E O))) rfl
      fun table htable p hp => ?_
    obtain ⟨s, -, hp⟩ := List.mem_flatMap.mp hp
    rw [htable, EventTable.receive_of_state (s.state_of_mem_placements _ hp)]
  rw [placements, List.foldl_append, hstates, EventTable.ofList, List.foldl_map, List.foldl_map]
  rfl

/-- **Each transition comes to its place.**  If no state is declared twice, the machine that is
compiled from the list of all transitions is the one whose nodes are described by the declarations
of their states. -/
theorem compile_eq (hnodup : d.declared.Nodup) : d.compile = d.gathered := by
  rw [compile, Definition.foldl_place, frame, gathered, foldl_receive_table, List.map_map]
  congr 1
  exact List.map_congr_left fun s hs => congrArg _ (d.foldl_receive_node hnodup hs)

/-! ## Machines that were built -/

variable {d}

omit [DecidableEq K] in
/-- A list in which no state stands again has no state twice. -/
lemma nodup_of_repeated {seen l : List S} (h : repeated seen l = []) :
    l.Nodup ∧ ∀ s ∈ l, s ∉ seen := by
  induction l generalizing seen with
  | nil => simp
  | cons s l ih =>
    rw [repeated] at h
    split at h
    · cases h
    · rename_i hnew
      obtain ⟨hnodup, hfresh⟩ := ih h
      refine ⟨List.nodup_cons.mpr ⟨fun hs => hfresh s hs List.mem_cons_self, hnodup⟩, ?_⟩
      exact List.forall_mem_cons.mpr
        ⟨hnew, fun s' hs' hseen => hfresh s' hs' (List.mem_cons_of_mem _ hseen)⟩

/-- What is built comes of a draft without faults, in which no state is declared twice. -/
lemma faultless_of_build [Label S] [Kinded E K] {built : Definition S C E K O}
    (h : d.build = .ok built) : d.faults = [] ∧ d.declared.Nodup ∧ built = d.compile := by
  rw [build] at h
  split at h
  · rename_i hempty
    have hnone := List.isEmpty_iff.mp hempty
    have hrepeated := hnone
    simp only [faults, List.append_eq_nil_iff, List.map_eq_nil_iff] at hrepeated
    exact ⟨hnone, (nodup_of_repeated hrepeated.1.1.1).1, (Except.ok.inj h).symm⟩
  · cases h

omit [DecidableEq K] in
/-- A state that is declared once is found by its name. -/
lemma find?_of_nodup {states : List (StateDraft S C E K O)}
    (hnodup : (states.map StateDraft.state).Nodup) {s : StateDraft S C E K O} (hs : s ∈ states) :
    states.find? (fun s' => s'.state = s.state) = some s := by
  induction states with
  | nil => cases hs
  | cons s' states ih =>
    obtain ⟨hnot, hrest⟩ := List.nodup_cons.mp hnodup
    rcases List.mem_cons.mp hs with rfl | hs
    · simp
    · have hne : s'.state ≠ s.state := fun h => hnot (h ▸ List.mem_map_of_mem hs)
      rw [List.find?_cons_of_neg (by simpa using hne)]
      exact ih hrest hs

/-- The node of a declared state is described by its declaration. -/
lemma node?_compile_of_mem (hnodup : d.declared.Nodup) {s : StateDraft S C E K O}
    (hs : s ∈ d.states) : d.compile.node? s.state = some (s.node d.registry) := by
  have hfind := find?_of_nodup hnodup hs
  rw [d.compile_eq hnodup, Definition.node?, gathered, List.find?_map]
  simp only [Function.comp_def, hfind, Option.map_some]

/-- A state of the machine is described by one of its declarations. -/
lemma node?_compile (hnodup : d.declared.Nodup) {state : S} {node : Node S C E K O}
    (h : d.compile.node? state = some node) : ∃ s ∈ d.states, node = s.node d.registry := by
  rw [d.compile_eq hnodup] at h
  obtain ⟨entry, hentry, rfl⟩ := Option.map_eq_some_iff.mp h
  obtain ⟨s, hs, rfl⟩ := List.mem_map.mp (List.mem_of_find?_eq_some hentry)
  exact ⟨s, hs, rfl⟩

/-- The machine holds exactly the declared states. -/
lemma contains_compile (hnodup : d.declared.Nodup) {state : S} :
    d.compile.contains state = true ↔ state ∈ d.declared := by
  simp [d.compile_eq hnodup, Definition.contains, Definition.node?, gathered, declared]

end Draft

end

end Macrostep
