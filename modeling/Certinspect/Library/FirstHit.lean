/-
**The first element that answers.**

Many programs walk a list of candidates, try each one and stop at the first that answers: the next
candidate is tried only when the one before gave nothing. `firstHit try candidates` is that loop
for a trial that may change a state and may raise.

* `Skips trial tried s t` — every candidate of `tried`, in order from `s`, gave nothing, and the
  state afterwards is `t`.
* `firstHit_ends` — the loop runs through, or ends as the first candidate that gives something.
* `firstHit_some_iff`, `firstHit_error_iff` — the loop answers or raises exactly when some candidate
  does after all earlier ones were skipped.
* `outcome_firstHit`, `preserves_firstHit` — the induction, packaged: a postcondition or an invariant
  of every single trial is one of the loop.
* `firstHitOr` — the loop with an answer of its own for when no candidate has one. Some answers
  decide and others do not; `Undecided` candidates, asked one by one, give none that does.
* **`firstHitOr_decides_iff`** — the loop gives the first answer that decides exactly when nothing
  stops it before: no earlier candidate raises or gives an answer that does not decide.
* `find?_eq_iff` — of candidates in an order of preference, the same one is chosen as when only one of
  them is wanted exactly when none before it is.
-/

import Certinspect.Library.Outcome

namespace Certinspect.Library

section FirstHit

variable {ε σ α β : Type}

/-- Try the candidates in order; the first that answers ends the loop. -/
def firstHit (trial : α → EStateM ε σ (Option β)) : List α → EStateM ε σ (Option β)
  | [] => pure none
  | candidate :: rest => do
    match ← trial candidate with
    | some answer => pure (some answer)
    | none => firstHit trial rest

/-- Every candidate of the list, in order from the first state, gave nothing. -/
inductive Skips (trial : α → EStateM ε σ (Option β)) : List α → σ → σ → Prop
  | nil (s : σ) : Skips trial [] s s
  | cons {candidate : α} {rest : List α} {s t u : σ} :
      trial candidate s = .ok none t → Skips trial rest t u → Skips trial (candidate :: rest) s u

variable {trial : α → EStateM ε σ (Option β)}

theorem firstHit_cons (candidate : α) (rest : List α) (s : σ) :
    firstHit trial (candidate :: rest) s =
      match trial candidate s with
      | .ok (some answer) t => .ok (some answer) t
      | .ok none t => firstHit trial rest t
      | .error raised t => .error raised t := by
  show (EStateM.bind (trial candidate) _) s = _
  unfold EStateM.bind
  cases trial candidate s with
  | ok answer t => cases answer <;> rfl
  | error raised t => rfl

/-- Candidates that gave nothing leave the rest of the loop to run. -/
theorem firstHit_skips {tried rest : List α} {s u : σ} (skipped : Skips trial tried s u) :
    firstHit trial (tried ++ rest) s = firstHit trial rest u := by
  induction skipped with
  | nil s => rfl
  | cons skip _ ih =>
    rw [List.cons_append, firstHit_cons, skip]
    exact ih

/-- The loop runs through all candidates, or ends as the first of them that gives something does. -/
theorem firstHit_ends (candidates : List α) (s : σ) :
    (∃ t, firstHit trial candidates s = .ok none t) ∨
      ∃ tried candidate rest u, candidates = tried ++ candidate :: rest ∧
        Skips trial tried s u ∧ trial candidate u = firstHit trial candidates s := by
  induction candidates generalizing s with
  | nil => exact Or.inl ⟨s, rfl⟩
  | cons candidate rest ih =>
    rw [firstHit_cons]
    cases tried : trial candidate s with
    | error raised t => exact Or.inr ⟨[], candidate, rest, s, rfl, .nil s, tried⟩
    | ok answer t =>
      cases answer with
      | some found => exact Or.inr ⟨[], candidate, rest, s, rfl, .nil s, tried⟩
      | none =>
        refine (ih t).imp id fun later => ?_
        obtain ⟨skips, next, remaining, u, rfl, skipped, ended⟩ := later
        exact ⟨candidate :: skips, next, remaining, u, rfl, .cons tried skipped, ended⟩

/-- **The loop answers exactly when one candidate does and all earlier ones were skipped.** -/
theorem firstHit_some_iff {candidates : List α} {s t : σ} {answer : β} :
    firstHit trial candidates s = .ok (some answer) t ↔
      ∃ tried candidate rest u, candidates = tried ++ candidate :: rest ∧
        Skips trial tried s u ∧ trial candidate u = .ok (some answer) t := by
  refine ⟨?_, ?_⟩
  · intro answered
    have ends := @firstHit_ends _ _ _ _ trial candidates s
    rw [answered] at ends
    exact ends.resolve_left fun ⟨_, absurd⟩ => by cases absurd
  · intro found
    obtain ⟨tried, candidate, rest, u, rfl, skipped, hit⟩ := found
    rw [firstHit_skips skipped, firstHit_cons, hit]

/-- **The loop raises exactly when one candidate does and all earlier ones were skipped.** -/
theorem firstHit_error_iff {candidates : List α} {s t : σ} {raised : ε} :
    firstHit trial candidates s = .error raised t ↔
      ∃ tried candidate rest u, candidates = tried ++ candidate :: rest ∧
        Skips trial tried s u ∧ trial candidate u = .error raised t := by
  refine ⟨?_, ?_⟩
  · intro failed
    have ends := @firstHit_ends _ _ _ _ trial candidates s
    rw [failed] at ends
    exact ends.resolve_left fun ⟨_, absurd⟩ => by cases absurd
  · intro found
    obtain ⟨tried, candidate, rest, u, rfl, skipped, raises⟩ := found
    rw [firstHit_skips skipped, firstHit_cons, raises]

/-- The loop raises exactly when a candidate it reaches does. -/
theorem raises_firstHit {candidates : List α} {s : σ} :
    Raises (firstHit trial candidates) s ↔
      ∃ tried candidate rest u, candidates = tried ++ candidate :: rest ∧
        Skips trial tried s u ∧ Raises (trial candidate) u := by
  refine ⟨?_, ?_⟩
  · intro found
    obtain ⟨raised, t, failed⟩ := found
    obtain ⟨tried, candidate, rest, u, split, skipped, raises⟩ := firstHit_error_iff.mp failed
    exact ⟨tried, candidate, rest, u, split, skipped, raised, t, raises⟩
  · intro found
    obtain ⟨tried, candidate, rest, u, split, skipped, raised, t, raises⟩ := found
    exact ⟨raised, t, firstHit_error_iff.mpr ⟨tried, candidate, rest, u, split, skipped, raises⟩⟩

/-- **A postcondition of every trial is one of the loop**: an answer satisfies `Q`, a raised
exception `E`, and `I` holds of the state before every trial. -/
theorem outcome_firstHit {I : σ → Prop} {Q : β → σ → Prop} {E : ε → σ → Prop}
    {candidates : List α} {s : σ} (start : I s)
    (each : ∀ candidate ∈ candidates, ∀ t, I t →
      Outcome (trial candidate) t (fun answer after => match answer with
        | some found => Q found after
        | none => I after) E) :
    Outcome (firstHit trial candidates) s (fun answer after => match answer with
      | some found => Q found after
      | none => I after) E := by
  induction candidates generalizing s with
  | nil => exact start
  | cons candidate rest ih =>
    rw [firstHit, outcome_bind]
    refine outcome_mono (each candidate List.mem_cons_self s start) ?_ fun _ _ raised => raised
    intro answer after here
    cases answer with
    | some found => exact here
    | none => exact ih here fun later member => each later (List.mem_cons_of_mem _ member)

/-- What every trial preserves, the loop preserves. -/
theorem preserves_firstHit {I : σ → Prop} {candidates : List α}
    (each : ∀ candidate, Preserves (trial candidate) I) :
    Preserves (firstHit trial candidates) I := by
  induction candidates with
  | nil => exact preserves_pure none
  | cons candidate rest ih =>
    refine preserves_bind (each candidate) fun answer => ?_
    cases answer with
    | some found => exact preserves_pure (some found)
    | none => exact ih

/-! ### Answers that decide -/

variable (trial) (giveUp : β)

/-- The loop, with an answer for when no candidate has one. -/
def firstHitOr (candidates : List α) : EStateM ε σ β := do
  match ← firstHit trial candidates with
  | some answer => pure answer
  | none => pure giveUp

/-- A candidate asked alone. -/
def alone (candidate : α) : EStateM ε σ β := firstHitOr trial giveUp [candidate]

/-- Each of the candidates, asked one after the other, gives no answer that decides. -/
inductive Undecided (ask : α → EStateM ε σ β) (decides : β → Prop) : List α → σ → σ → Prop
  | nil (s : σ) : Undecided ask decides [] s s
  | cons {candidate : α} {rest : List α} {s u : σ} :
      (∀ answer t, ask candidate s = .ok answer t → ¬ decides answer) →
      Undecided ask decides rest (stateAfter (ask candidate) s) u →
      Undecided ask decides (candidate :: rest) s u

variable {trial} {giveUp} {decides : β → Prop}

theorem firstHitOr_run (candidates : List α) (s : σ) :
    firstHitOr trial giveUp candidates s =
      match firstHit trial candidates s with
      | .ok (some answer) t => .ok answer t
      | .ok none t => .ok giveUp t
      | .error raised t => .error raised t := by
  unfold firstHitOr
  rw [run_bind]
  cases firstHit trial candidates s with
  | ok answer t => cases answer <;> rfl
  | error raised t => rfl

theorem alone_run (candidate : α) (s : σ) :
    alone trial giveUp candidate s =
      match trial candidate s with
      | .ok (some answer) t => .ok answer t
      | .ok none t => .ok giveUp t
      | .error raised t => .error raised t := by
  unfold alone
  rw [firstHitOr_run, firstHit_cons]
  cases trial candidate s with
  | ok answer t => cases answer <;> rfl
  | error raised t => rfl

theorem stateAfter_alone (candidate : α) (s : σ) :
    stateAfter (alone trial giveUp candidate) s = stateAfter (trial candidate) s := by
  unfold stateAfter
  rw [alone_run]
  cases trial candidate s with
  | ok answer t => cases answer <;> rfl
  | error raised t => rfl

/-- A list is passed over one candidate after the other. -/
theorem Skips.split {before later : List α} {candidate : α} {s u : σ}
    (skipped : Skips trial (before ++ candidate :: later) s u) :
    ∃ v w, Skips trial before s v ∧ trial candidate v = .ok none w := by
  induction before generalizing s with
  | nil =>
    cases skipped with
    | cons skip _ => exact ⟨s, _, .nil s, skip⟩
  | cons first rest ih =>
    cases skipped with
    | cons skip others =>
      obtain ⟨v, w, skippedRest, here⟩ := ih others
      exact ⟨v, w, .cons skip skippedRest, here⟩

section Decides

/-- What is undecided for one question is undecided for another that decides less. -/
theorem Undecided.transfer {γ : Type} {decides' : γ → Prop} {ask : α → EStateM ε σ β}
    {ask' : α → EStateM ε σ γ} {tried : List α} {s u : σ}
    (state : ∀ candidate v, stateAfter (ask candidate) v = stateAfter (ask' candidate) v)
    (less : ∀ candidate v answer w, ask' candidate v = .ok answer w → decides' answer →
      ∃ other after, ask candidate v = .ok other after ∧ decides other)
    (undecided : Undecided ask decides tried s u) : Undecided ask' decides' tried s u := by
  induction undecided with
  | nil s => exact .nil s
  | @cons candidate rest s u own _ ih =>
    refine .cons ?_ (state candidate s ▸ ih)
    intro answer after answered decided
    obtain ⟨other, last, same, decidedToo⟩ := less candidate s answer after answered decided
    exact own other last same decidedToo

/-- An undecided candidate, asked after those before it, gives no answer that decides. -/
theorem Undecided.here {ask : α → EStateM ε σ β} {before later : List α} {candidate : α}
    {s u v : σ} (undecided : Undecided ask decides (before ++ candidate :: later) s u)
    (reached : Undecided ask decides before s v) :
    ∀ answer w, ask candidate v = .ok answer w → ¬ decides answer := by
  induction reached with
  | nil s =>
    cases undecided with
    | cons own _ => exact own
  | cons _ _ ih =>
    cases undecided with
    | cons _ others => exact ih others

/-- Candidates that are asked alone lead to one state. -/
theorem Undecided.unique {tried : List α} {s u v : σ}
    {ask : α → EStateM ε σ β} (first : Undecided ask decides tried s u)
    (second : Undecided ask decides tried s v) : u = v := by
  induction first with
  | nil s =>
    cases second
    rfl
  | cons _ _ ih =>
    cases second with
    | cons _ rest => exact ih rest

/-- Undecided candidates that never stop the loop are passed over. -/
theorem Undecided.skips {tried : List α} {s u : σ}
    (undecided : Undecided (alone trial giveUp) decides tried s u)
    (passes : ∀ before candidate later v, tried = before ++ candidate :: later →
      Undecided (alone trial giveUp) decides before s v → ∃ w, trial candidate v = .ok none w) :
    Skips trial tried s u := by
  induction undecided with
  | nil s => exact .nil s
  | @cons candidate rest s u own _ ih =>
    obtain ⟨after, here⟩ := passes [] candidate rest s rfl (.nil s)
    have state : stateAfter (alone trial giveUp candidate) s = after := by
      rw [stateAfter_alone]
      unfold stateAfter
      rw [here]
    refine .cons here (state ▸ ih ?_)
    intro before other later v split tried
    exact passes (candidate :: before) other later v (by rw [split]; rfl) (.cons own tried)

variable (noAnswer : ¬ decides giveUp)
include noAnswer

/-- An answer that decides is a candidate's. -/
theorem firstHitOr_decided_iff {candidates : List α} {s t : σ} {answer : β}
    (decided : decides answer) :
    firstHitOr trial giveUp candidates s = .ok answer t ↔
      firstHit trial candidates s = .ok (some answer) t := by
  rw [firstHitOr_run]
  cases firstHit trial candidates s with
  | error raised after =>
    exact ⟨fun absurd => (by cases absurd), fun absurd => (by cases absurd)⟩
  | ok found after =>
    cases found with
    | some other =>
      exact ⟨fun same => (by cases same; rfl), fun same => (by cases same; rfl)⟩
    | none =>
      refine ⟨?_, ?_⟩
      · intro same
        cases same
        exact (noAnswer decided).elim
      · intro absurd
        cases absurd

theorem alone_decided_iff {candidate : α} {s t : σ} {answer : β} (decided : decides answer) :
    alone trial giveUp candidate s = .ok answer t ↔
      trial candidate s = .ok (some answer) t := by
  unfold alone
  rw [firstHitOr_decided_iff noAnswer decided, firstHit_cons]
  cases trial candidate s with
  | error raised after => exact ⟨fun absurd => (by cases absurd), fun absurd => (by cases absurd)⟩
  | ok found after =>
    cases found with
    | some other => exact Iff.rfl
    | none => exact ⟨fun absurd => (by cases absurd), fun absurd => (by cases absurd)⟩

/-- What the loop passes over is undecided. -/
theorem Skips.undecided {tried : List α} {s u : σ} (skipped : Skips trial tried s u) :
    Undecided (alone trial giveUp) decides tried s u := by
  induction skipped with
  | nil s => exact .nil s
  | @cons candidate rest s t u skip _ ih =>
    have own : alone trial giveUp candidate s = .ok giveUp t := by
      rw [alone_run, skip]
    have state : stateAfter (alone trial giveUp candidate) s = t := by
      unfold stateAfter
      rw [own]
    refine .cons ?_ (state.symm ▸ ih)
    intro answer after answered
    rw [own] at answered
    cases answered
    exact noAnswer

/-- Undecided candidates are passed over when the loop gets an answer that decides. -/
theorem Undecided.skips_of_hit {tried rest : List α} {s u t : σ} {answer : β}
    (undecided : Undecided (alone trial giveUp) decides tried s u) (decided : decides answer)
    (hit : firstHit trial (tried ++ rest) s = .ok (some answer) t) : Skips trial tried s u := by
  induction undecided with
  | nil s => exact .nil s
  | @cons candidate later s u own _ ih =>
    rw [List.cons_append, firstHit_cons] at hit
    cases here : trial candidate s with
    | error raised after =>
      rw [here] at hit
      cases hit
    | ok found after =>
      rw [here] at hit
      cases found with
      | some other =>
        cases hit
        exact (own answer t ((alone_decided_iff noAnswer decided).mpr here) decided).elim
      | none =>
        have state : stateAfter (alone trial giveUp candidate) s = after := by
          rw [stateAfter_alone]
          unfold stateAfter
          rw [here]
        exact .cons here (state ▸ ih (state.symm ▸ hit))

/-- **The first answer that decides wins exactly when nothing before it stops the loop.** -/
theorem firstHitOr_decides_iff {tried rest : List α} {candidate : α} {s u t : σ} {answer : β}
    (undecided : Undecided (alone trial giveUp) decides tried s u)
    (own : alone trial giveUp candidate u = .ok answer t) (decided : decides answer) :
    firstHitOr trial giveUp (tried ++ candidate :: rest) s = .ok answer t ↔
      ∀ before other later v, tried = before ++ other :: later →
        Undecided (alone trial giveUp) decides before s v → ∃ w, trial other v = .ok none w := by
  rw [firstHitOr_decided_iff noAnswer decided]
  refine ⟨?_, ?_⟩
  · intro hit before other later v split reached
    have skipped := undecided.skips_of_hit noAnswer decided hit
    rw [split] at skipped
    obtain ⟨v', w, skippedBefore, here⟩ := skipped.split
    rw [reached.unique (skippedBefore.undecided noAnswer)]
    exact ⟨w, here⟩
  · intro passes
    exact firstHit_some_iff.mpr ⟨tried, candidate, rest, u, rfl, undecided.skips passes,
      (alone_decided_iff noAnswer decided).mp own⟩

end Decides

/-- Either no candidate decides, or there is a first one that does. -/
theorem undecided_or_first (ask : α → EStateM ε σ β) (decides : β → Prop) (candidates : List α)
    (s : σ) :
    (∃ u, Undecided ask decides candidates s u) ∨
      ∃ tried candidate rest u answer t, candidates = tried ++ candidate :: rest ∧
        Undecided ask decides tried s u ∧ ask candidate u = .ok answer t ∧ decides answer := by
  induction candidates generalizing s with
  | nil => exact Or.inl ⟨s, .nil s⟩
  | cons candidate rest ih =>
    by_cases own : ∃ answer t, ask candidate s = .ok answer t ∧ decides answer
    · obtain ⟨answer, t, answered, decided⟩ := own
      exact Or.inr ⟨[], candidate, rest, s, answer, t, rfl, .nil s, answered, decided⟩
    have silent : ∀ answer t, ask candidate s = .ok answer t → ¬ decides answer :=
      fun answer t answered decided => own ⟨answer, t, answered, decided⟩
    rcases ih (stateAfter (ask candidate) s) with ⟨u, others⟩ | found
    · exact Or.inl ⟨u, .cons silent others⟩
    · obtain ⟨tried, first, later, u, answer, t, split, undecided, answered, decided⟩ := found
      exact Or.inr ⟨candidate :: tried, first, later, u, answer, t, by rw [split]; rfl,
        .cons silent undecided, answered, decided⟩

end FirstHit

/-! ### An order of preference -/

/-- The only candidate that is wanted is chosen. -/
theorem find?_only {α : Type} {order : List α} {wanted : α → Bool} {own : α}
    (only : ∀ candidate ∈ order, candidate ≠ own → wanted candidate = false)
    (member : own ∈ order) (holds : wanted own = true) : order.find? wanted = some own := by
  cases found : order.find? wanted with
  | none => exact (List.find?_eq_none.mp found own member holds).elim
  | some chosen =>
    by_cases same : chosen = own
    · rw [same]
    · have unwanted := only chosen (List.mem_of_find?_eq_some found) same
      rw [List.find?_some found] at unwanted
      cases unwanted

/-- **The choice is the same as if only one candidate were wanted** exactly when none before it is. -/
theorem find?_eq_iff {α : Type} [DecidableEq α] {order : List α} {wanted alone : α → Bool} {own : α}
    (only : ∀ candidate ∈ order, candidate ≠ own → alone candidate = false)
    (both : own ∈ order → wanted own = true ∧ alone own = true) :
    order.find? wanted = order.find? alone ↔
      ∀ candidate ∈ order.takeWhile fun candidate => candidate ≠ own,
        wanted candidate = false := by
  induction order with
  | nil => simp
  | cons candidate rest ih =>
    by_cases same : candidate = own
    · obtain ⟨left, right⟩ := both (same ▸ List.mem_cons_self)
      rw [same, List.find?_cons_of_pos left, List.find?_cons_of_pos right,
        List.takeWhile_cons_of_neg (by simp)]
      simp
    have unwanted := only candidate List.mem_cons_self same
    have skipped : (candidate :: rest).find? alone = rest.find? alone :=
      List.find?_cons_of_neg (by simp [unwanted])
    rw [skipped, List.takeWhile_cons_of_pos (by simpa using same), List.forall_mem_cons]
    by_cases first : wanted candidate = true
    · rw [List.find?_cons_of_pos first, first]
      refine ⟨fun found => ?_, fun absurd => (by cases absurd.1)⟩
      have chosen := List.find?_some found.symm
      rw [unwanted] at chosen
      cases chosen
    · rw [List.find?_cons_of_neg first, and_iff_right (Bool.eq_false_iff.mpr first)]
      exact ih (fun other member => only other (List.mem_cons_of_mem _ member))
        fun member => both (List.mem_cons_of_mem _ member)

end Certinspect.Library
