/-
# What the options retain of a history

The options say whether hops are recorded and how many of them are kept.  Nothing else depends on
that: an interpreter with other such options is the same one with less of its history
(`Interpreter.keeping`), and every call on it returns the same and leaves the same one again
(`Interpreter.Full.foldl_after_keeping`).

An interpreter that records every hop and forgets none is full.  Its history is the itinerary of its
inputs, and it agrees entry by entry with the records of the log.  Both together are
`Interpreter.history_options`.
-/
import Macrostep.Proofs.OptionChange

namespace Macrostep

open Occurrence

variable {S C E K O : Type}

/-! ## Cutting a history -/

namespace History

/-- What is kept of a history: nothing at all, or the last entries up to the limit. -/
def kept (record : Bool) (limit : Option Nat) (history : History S) : History S :=
  if record then ⟨(history.toList.drop (limit.elim 0 (history.length - ·))).toArray⟩ else {}

lemma ext_toList {history history' : History S} (h : history.toList = history'.toList) :
    history = history' := by
  obtain ⟨entries⟩ := history
  obtain ⟨entries'⟩ := history'
  exact congrArg _ (Array.toList_inj.mp h)

lemma toList_kept (record : Bool) (limit : Option Nat) (history : History S) :
    (history.kept record limit).toList =
      if record then history.toList.drop (limit.elim 0 (history.length - ·)) else [] := by
  cases record <;> rfl

lemma length_toList (history : History S) : history.toList.length = history.length := by
  simp [toList, length]

lemma kept_empty (record : Bool) (limit : Option Nat) : ({} : History S).kept record limit = {} := by
  apply ext_toList
  rw [toList_kept]
  simp [toList]

/-- The oldest entries that are dropped one by one are those that are dropped at once. -/
lemma kept_push (limit : Option Nat) (history : History S) (entry : Entry S) :
    (history.kept true limit).push entry limit = (history.push entry none).kept true limit := by
  have hpush : (history.push entry none).toList = history.toList ++ [entry] :=
    toList_record history entry
  have hlength : (history.push entry none).length = history.length + 1 := by
    rw [← length_toList, hpush, List.length_append, length_toList]
    rfl
  apply ext_toList
  rw [toList_kept, if_pos rfl, hpush, hlength]
  cases limit with
  | none =>
    have hkept : (history.kept true none).toList = history.toList := toList_kept true none history
    exact (toList_record _ entry).trans (by rw [hkept]; rfl)
  | some n =>
    have hkept : (history.kept true (some n)).toList = history.toList.drop (history.length - n) :=
      toList_kept true (some n) history
    have hless : history.length - n ≤ history.toList.length := by
      rw [length_toList]
      exact Nat.sub_le ..
    rw [toList_push_some, ← length_toList (history.kept true (some n)), hkept, List.length_drop,
      length_toList, ← List.drop_append_of_le_length hless, List.drop_drop]
    congr 1
    simp only [Option.elim_some]
    omega

end History

/-! ## The hops in a log -/

section

variable [Label S]

/-- The record that a hop leaves in the log of a machine. -/
def Record.ofHop (machine : String) (hop : Hop S) : Record where
  level := .debug
  message := "transition"
  fields :=
    [("machine", machine), ("from", Label.name hop.1), ("to", Label.name hop.2.1),
      ("event", hop.2.2.getD "<eventless>")]

/-- Whether a record tells of a transition. -/
def Record.isTransition (record : Record) : Bool :=
  record.level = .debug && record.message = "transition"

variable [Kinded E K]

/-- Only hops leave such a record. -/
lemma filter_record? (machine : String) (o : Occurrence S C E O) :
    (o.record? machine).filter Record.isTransition = o.hop?.map (Record.ofHop machine) := by
  cases o with
  | transitioned source target event => cases event <;> rfl
  | _ => rfl

lemma Interpreter.transitions_records (it : Interpreter S C E K O) :
    it.records.filter Record.isTransition = it.hops.map (Record.ofHop it.definition.id) := by
  rw [records, hops, List.filter_filterMap, List.map_filterMap]
  simp only [filter_record?]

end

/-- A full record forgets nothing. -/
lemma Options.foldl_retain_of_full {options : Options} (hrecording : options.recordHistory = true)
    (hunlimited : options.historyLimit = none) (past way : List (Hop S)) :
    way.foldl options.retain past = past ++ way := by
  induction way generalizing past with
  | nil => exact (List.append_nil past).symm
  | cons hop way ih =>
    have hfirst : options.retain past hop = past ++ [hop] := by
      rw [retain, hrecording, hunlimited]
      rfl
    rw [List.foldl_cons, hfirst, ih, List.append_assoc]
    rfl

namespace Interpreter

variable {it : Interpreter S C E K O}

/-! ## The same interpreter with less of its history -/

/-- The interpreter with other options about its history, which keeps of it what these say. -/
def keeping (it : Interpreter S C E K O) (record : Bool) (limit : Option Nat) :
    Interpreter S C E K O :=
  { it with
    options := { it.options with recordHistory := record, historyLimit := limit }
    history := it.history.kept record limit }

lemma drop_keeping (it : Interpreter S C E K O) (record : Bool) (limit : Option Nat) :
    (it.keeping record limit).drop = it.drop.keeping record limit :=
  it.drop_recast (fun options => { options with recordHistory := record, historyLimit := limit })
    (History.kept record limit)

/-! ## Full interpreters -/

section

variable [DecidableEq S] [Kinded E K]

/-- Every hop is recorded and none is forgotten. -/
structure Full (it : Interpreter S C E K O) : Prop where
  proper : it.Proper
  recording : it.options.recordHistory = true
  unlimited : it.options.historyLimit = none

namespace Full

variable (record : Bool) (limit : Option Nat)

omit [Kinded E K] in
/-- What is recorded is what is kept of a full record, and nothing else depends on that. -/
lemma recasts (h : it.Full) :
    it.Recasts (fun options => { options with recordHistory := record, historyLimit := limit })
      (History.kept record limit) where
  proper := h.proper
  defers := rfl
  written history entry := by
    rw [Options.written, Options.written, h.recording, h.unlimited]
    cases record with
    | false => rfl
    | true => exact History.kept_push limit history entry
  allows := Nat.le_refl _

variable [Label S] [DecidableEq K]

/-- Any number of calls is the same whatever is kept. -/
theorem foldl_after_keeping (h : it.Full) (calls : List (Call S C E O)) :
    calls.foldl after (it.keeping record limit) =
        (calls.foldl after it).keeping record limit ∧
      (it.keeping record limit).outcomes calls = it.outcomes calls :=
  (h.recasts record limit).foldl_after calls (.inl fun _ => rfl)

end Full

end

/-! ## Other options -/

section

variable [DecidableEq S] [Label S] [DecidableEq K] [Kinded E K]

omit [Label S] [DecidableEq K] [Kinded E K] in
/-- At the beginning there is nothing to keep, whatever the options say. -/
lemma new_keeping (d : Definition S C E K O) (options : Options) (record : Bool)
    (limit : Option Nat) (now : Nat) (timers : Bool) :
    let fresh (record : Bool) (limit : Option Nat) : Interpreter S C E K O :=
      { Interpreter.new d { options with recordHistory := record, historyLimit := limit } with
        now, timers }
    fresh record limit = (fresh true none).keeping record limit := by
  intro fresh
  have hempty : ({} : History S) = History.kept record limit {} :=
    (History.kept_empty record limit).symm
  change ({ fresh record limit with history := {} } : Interpreter S C E K O) = _
  rw [hempty]
  rfl

/-- What a full history tells that began empty: it is the itinerary of the inputs, it agrees with the
transitions of the log, and it leads from where the machine began to where it is. -/
theorem Full.tells {d : Definition S C E K O} {options : Options} {it it₀ : Interpreter S C E K O}
    (h : it₀.Full) (hempty : it₀.history.undated = []) (hfresh : Fresh d options it₀)
    (hcourse : it₀.Course it) :
    it.history.undated =
        d.itinerary options.maxEventlessSteps it₀.snapshot (inputsOf it.journal) ∧
      it.records.filter Record.isTransition = it.history.undated.map (Record.ofHop d.id) ∧
      Leads it₀.state it.history.undated it.state ∧
      it.history.path = pathFrom it₀.state it.history.undated := by
  obtain ⟨hitinerary, hhistory, hleads⟩ := Course.itinerary hfresh hcourse
  have hdefinition := (Course.sound hfresh hcourse).1.definition
  have hall : it.history.undated = it.hops := by
    rw [← hfresh.blank.options,
      Options.foldl_retain_of_full h.recording h.unlimited, hempty] at hhistory
    exact hhistory
  rw [hall, transitions_records, hdefinition]
  rw [← hall] at hleads ⊢
  exact ⟨hall.trans hitinerary, rfl, hleads, History.path_of_leads hleads⟩

/-- **The options about the history** change the history and nothing else, and they change it
exactly.  Interpreters that are made alike but for these options, and on which the same calls are
made, return the same, publish, start, clean up and log the same, and are the same afterwards but for
the options and the history.

With a full record the history is the itinerary that the definition prescribes for the inputs, as
the log tells it, and it leads from the initial state to the current one.  With a limit it is the
last entries of the full one, as many as the limit allows, and without recording it is empty. -/
theorem history_options (d : Definition S C E K O) (options : Options) (now : Nat) (timers : Bool)
    (calls : List (Call S C E O)) :
    let fresh (record : Bool) (limit : Option Nat) : Interpreter S C E K O :=
      { Interpreter.new d { options with recordHistory := record, historyLimit := limit } with
        now, timers }
    let full := calls.foldl after (fresh true none)
    (∀ record limit,
      let it := calls.foldl after (fresh record limit)
      (fresh record limit).outcomes calls = (fresh true none).outcomes calls ∧
        it = { full with options := it.options, history := it.history } ∧
        it.history.toList =
          (if record then full.history.toList.drop (limit.elim 0 (full.history.length - ·))
            else []) ∧
        (∀ event, it.can event = full.can event) ∧
        (∀ id, it.checkpoint id = { full.checkpoint id with history := it.history }) ∧
        it.records = full.records ∧ it.drop.records = full.drop.records) ∧
      full.history.undated =
        d.itinerary options.maxEventlessSteps d.start (inputsOf full.journal) ∧
      full.records.filter Record.isTransition = full.history.undated.map (Record.ofHop d.id) ∧
      Leads d.initial full.history.undated full.state ∧
      full.history.path = pathFrom d.initial full.history.undated := by
  intro fresh full
  have hfresh : Fresh d { options with recordHistory := true, historyLimit := none }
    (fresh true none) := .new now timers
  have hcourse : (fresh true none).Course full := foldl_after_course _ calls
  have hfull : (fresh true none).Full := ⟨rfl, rfl, rfl⟩
  have htells := hfull.tells rfl hfresh hcourse
  refine ⟨fun record limit => ?_, htells⟩
  -- whoever keeps less is the full one with less of its history, now as at the beginning
  obtain ⟨hcalls, houtcomes⟩ := hfull.foldl_after_keeping record limit calls
  have hbegin : fresh record limit = (fresh true none).keeping record limit :=
    new_keeping d options record limit now timers
  have hkeeping : calls.foldl after (fresh record limit) = full.keeping record limit := by
    rw [hbegin, hcalls]
  have hdrop : (full.keeping record limit).drop.records = full.drop.records := by
    rw [full.drop_keeping record limit]
    rfl
  rw [hkeeping, hbegin]
  exact ⟨houtcomes, rfl, History.toList_kept .., fun _ => rfl, fun _ => rfl, rfl, hdrop⟩

end

end Interpreter

end Macrostep
