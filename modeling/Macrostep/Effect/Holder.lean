/-
# Holders of handles

A holder has place for one handle.  A handle that is put in the place of another one, or dropped, is
stopped if it is still active; what its cleanup fails with is lost then.
-/
import Macrostep.Effect.Basic

namespace Macrostep

/-- A place for one handle. -/
structure Holder (E O : Type) where
  /-- The handle. -/
  handle : Option (Handle E O) := none

namespace Holder

variable {E O : Type}

/-- What the cleanup of the handle does, if it is still to run. -/
def farewell (holder : Holder E O) (accepting : Bool) : List (Output E O) :=
  match holder.handle with
  | some handle => (handle.ending accepting).outputs
  | none => []

/-- Puts a handle into the place and tells what the cleanup of the one before did. -/
def put (holder : Holder E O) (accepting : Bool) (handle : Handle E O) :
    Holder E O × List (Output E O) :=
  (⟨some handle⟩, holder.farewell accepting)

/-- Stops the handle and tells what its cleanup did and how it failed; `none` if there is no
handle. -/
def stop (holder : Holder E O) (accepting : Bool) :
    Holder E O × Option (List (Output E O) × Option EffectError) :=
  match holder.handle with
  | some handle =>
    (⟨some handle.stopped⟩,
      some ((handle.ending accepting).outputs, handle.failure? accepting))
  | none => (holder, none)

/-- Drops the handle and tells whether there was one and what its cleanup did. -/
def drop (holder : Holder E O) (accepting : Bool) : Holder E O × Bool × List (Output E O) :=
  (⟨none⟩, holder.handle.isSome, holder.farewell accepting)

end Holder

end Macrostep
