/-
**Traces — the record of what a computation did, newest event first.**

A computation on a state `List α` that only ever puts events in front of it keeps a trace of its
actions. `EachAt P trace` says that every event of the trace satisfied `P` when it happened, `P`
reading the event and the events before it.

* `eachAt_iff` — the same, said of every way to split the trace at one event.
* `Extended P past after` — `after` is `past` with new events in front, each of which satisfied `P`
  among the new events before it. It is what the runs of such computations preserve:
  `Extended.refl`, `Extended.record`.
-/

import Certinspect.Library.Outcome

namespace Certinspect.Library

section Trace

variable {α : Type}

/-- Every event of the trace satisfied `P`, read with the events before it. -/
def EachAt (P : α → List α → Prop) : List α → Prop
  | [] => True
  | event :: earlier => P event earlier ∧ EachAt P earlier

/-- **Every event, wherever the trace is split at it.** -/
theorem eachAt_iff {P : α → List α → Prop} {trace : List α} :
    EachAt P trace ↔ ∀ later event earlier, trace = later ++ event :: earlier → P event earlier := by
  induction trace with
  | nil =>
    refine ⟨fun _ later event earlier split => ?_, fun _ => trivial⟩
    cases later <;> cases split
  | cons head tail ih =>
    refine ⟨?_, ?_⟩
    · rintro ⟨here, rest⟩ later event earlier split
      cases later with
      | nil =>
        obtain ⟨rfl, rfl⟩ := List.cons.inj split
        exact here
      | cons newest later =>
        exact ih.mp rest later event earlier (List.cons.inj split).2
    · intro each
      refine ⟨each [] head tail rfl, ih.mpr fun later event earlier split => ?_⟩
      exact each (head :: later) event earlier (by rw [split, List.cons_append])

/-- The trace `past` with new events in front, each of which satisfied `P` at its turn. -/
structure Extended (P : α → List α → Prop) (past after added : List α) : Prop where
  split : after = added ++ past
  each : EachAt P added

namespace Extended

variable {P : α → List α → Prop} {past after added : List α}

theorem refl (P : α → List α → Prop) (past : List α) : Extended P past past [] :=
  ⟨rfl, trivial⟩

/-- One more event. -/
theorem record (extended : Extended P past after added) {event : α} (here : P event added) :
    Extended P past (event :: after) (event :: added) :=
  ⟨by rw [extended.split, List.cons_append], here, extended.each⟩

end Extended

end Trace

end Certinspect.Library
