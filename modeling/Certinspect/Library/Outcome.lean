/-
**Computations that change a state and may raise — how a run ends.**

A computation is an `EStateM ε σ α`: it reads and updates a state `σ` and either returns an `α` or
raises an `ε`; a raised exception does not roll the state back. `Outcome x s Q E` says how the run
of `x` from `s` ends: it returns with `Q`, or it raises with `E`.

* `outcome_pure`, `outcome_bind`, `outcome_throw`, `outcome_orRaise_ok`, `outcome_ite` are
  equivalences, so a postcondition is computed by rewriting and is exact in both directions.
* `caught catches x` runs `x` and turns the exceptions that `catches` accepts into values: the
  `try … except` of the modelled programs. Every other exception passes (`outcome_caught`).
* `run_bind`, `run_caught_ok`, `run_caught_error` compute one given run.
* `Preserves x I` — the invariant `I` of the state survives every run of `x`, whether it returns or
  raises: `preserves_pure`, `preserves_bind`, `preserves_caught`.
* `narrow x only` — `x` with a narrower type of exceptions; `adaptExcept_narrow` gives it back.
* `Raises x s` — the run of `x` from `s` raises; `raises_bind`, `raises_caught_bind` compute it.
* `outcome_mono`, `outcome_and` weaken and join postconditions; `outcome_ok`, `outcome_error` read
  a postcondition back from a run that is already known.
-/

import Mathlib.Logic.Basic

namespace Certinspect.Library

section Outcome

variable {ε σ α β : Type}

/-- How a run ends: it returns with `Q`, or it raises with `E`. -/
def Outcome (x : EStateM ε σ α) (s : σ) (Q : α → σ → Prop) (E : ε → σ → Prop) : Prop :=
  match x s with
  | .ok value after => Q value after
  | .error raised after => E raised after

/-- A computation that may only raise, run without touching the state. -/
def orRaise (x : Except ε α) : EStateM ε σ α := fun s =>
  match x with
  | .ok value => .ok value s
  | .error raised => .error raised s

/-- The state a run ends in, whether it returns or raises. -/
def stateAfter (x : EStateM ε σ α) (s : σ) : σ :=
  match x s with
  | .ok _ after => after
  | .error _ after => after

/-- Run `x` and hand back the exceptions that `catches` accepts; any other exception passes. -/
def caught (catches : ε → Bool) (x : EStateM ε σ α) : EStateM ε σ (Except ε α) := fun s =>
  match x s with
  | .ok value after => .ok (.ok value) after
  | .error raised after =>
    if catches raised then .ok (.error raised) after else .error raised after

/-- `caught` for a computation without a state. -/
def caughtExcept (catches : ε → Bool) (x : Except ε α) : Except ε (Except ε α) :=
  match x with
  | .ok value => .ok (.ok value)
  | .error raised => if catches raised then .ok (.error raised) else .error raised

/-! ### The computation rules -/

variable {s : σ} {Q : α → σ → Prop} {R : β → σ → Prop} {E : ε → σ → Prop}

@[simp] theorem outcome_pure (value : α) :
    Outcome (pure value : EStateM ε σ α) s Q E ↔ Q value s := Iff.rfl

@[simp] theorem outcome_throw (raised : ε) :
    Outcome (throw raised : EStateM ε σ α) s Q E ↔ E raised s := Iff.rfl

@[simp] theorem outcome_bind (x : EStateM ε σ α) (f : α → EStateM ε σ β) :
    Outcome (x >>= f) s R E ↔ Outcome x s (fun value after => Outcome (f value) after R E) E := by
  show (match (EStateM.bind x f) s with | .ok _ _ => _ | .error _ _ => _) ↔ _
  unfold EStateM.bind Outcome
  cases x s <;> rfl

@[simp] theorem outcome_orRaise_ok (value : α) :
    Outcome (orRaise (.ok value) : EStateM ε σ α) s Q E ↔ Q value s := Iff.rfl

@[simp] theorem outcome_orRaise_error (raised : ε) :
    Outcome (orRaise (.error raised) : EStateM ε σ α) s Q E ↔ E raised s := Iff.rfl

@[simp] theorem outcome_caught (catches : ε → Bool) (x : EStateM ε σ α)
    {R : Except ε α → σ → Prop} :
    Outcome (caught catches x) s R E ↔
      Outcome x s (fun value after => R (.ok value) after)
        (fun raised after => if catches raised then R (.error raised) after else E raised after) := by
  unfold Outcome caught
  cases x s with
  | ok value after => rfl
  | error raised after =>
    by_cases accepted : catches raised = true
    · simp only [accepted, if_true]
    · simp only [accepted, if_false, Bool.false_eq_true]

@[simp] theorem outcome_adaptExcept {ε' : Type} (convert : ε' → ε) (x : EStateM ε' σ α) :
    Outcome (EStateM.adaptExcept convert x) s Q E ↔
      Outcome x s Q (fun raised after => E (convert raised) after) := by
  unfold Outcome EStateM.adaptExcept
  cases x s <;> rfl

theorem outcome_ite (condition : Prop) [Decidable condition] (x y : EStateM ε σ α) :
    Outcome (if condition then x else y) s Q E ↔
      if condition then Outcome x s Q E else Outcome y s Q E := by
  split <;> rfl

@[simp] theorem outcome_get {R : σ → σ → Prop} :
    Outcome (get : EStateM ε σ σ) s R E ↔ R s s := Iff.rfl

@[simp] theorem outcome_modify (f : σ → σ) {R : PUnit → σ → Prop} :
    Outcome (modify f : EStateM ε σ PUnit) s R E ↔ R ⟨⟩ (f s) := Iff.rfl

/-! ### Runs -/

theorem run_bind (x : EStateM ε σ α) (f : α → EStateM ε σ β) (s : σ) :
    (x >>= f) s = match x s with
      | .ok value after => f value after
      | .error raised after => .error raised after := rfl

theorem run_bind_ok_iff {x : EStateM ε σ α} {f : α → EStateM ε σ β} {result : β} {t : σ} :
    (x >>= f) s = .ok result t ↔ ∃ value u, x s = .ok value u ∧ f value u = .ok result t := by
  rw [run_bind]
  cases x s with
  | ok value u =>
    exact ⟨fun ran => ⟨value, u, rfl, ran⟩, fun ⟨_, _, same, ran⟩ => by cases same; exact ran⟩
  | error raised u => exact ⟨fun absurd => (by cases absurd), fun ⟨_, _, absurd, _⟩ => by cases absurd⟩

theorem run_bind_error_iff {x : EStateM ε σ α} {f : α → EStateM ε σ β} {raised : ε} {t : σ} :
    (x >>= f) s = .error raised t ↔
      x s = .error raised t ∨ ∃ value u, x s = .ok value u ∧ f value u = .error raised t := by
  rw [run_bind]
  cases x s with
  | ok value u =>
    refine ⟨?_, ?_⟩
    · exact fun ran => Or.inr ⟨value, u, rfl, ran⟩
    · intro either
      rcases either with absurd | ⟨_, _, same, ran⟩
      · cases absurd
      · cases same
        exact ran
  | error first u =>
    refine ⟨?_, ?_⟩
    · intro same
      cases same
      exact Or.inl rfl
    · intro either
      rcases either with same | ⟨_, _, absurd, _⟩
      · cases same
        rfl
      · cases absurd

theorem run_orRaise_ok_iff {x : Except ε α} {value : α} {t : σ} :
    (orRaise x : EStateM ε σ α) s = .ok value t ↔ x = .ok value ∧ s = t := by
  cases x with
  | ok first => exact ⟨fun same => by cases same; exact ⟨rfl, rfl⟩, fun ⟨same, here⟩ => by
      cases same; cases here; rfl⟩
  | error raised => exact ⟨fun absurd => (by cases absurd), fun ⟨absurd, _⟩ => by cases absurd⟩

theorem run_orRaise_error_iff {x : Except ε α} {raised : ε} {t : σ} :
    (orRaise x : EStateM ε σ α) s = .error raised t ↔ x = .error raised ∧ s = t := by
  cases x with
  | ok first => exact ⟨fun absurd => (by cases absurd), fun ⟨absurd, _⟩ => by cases absurd⟩
  | error other => exact ⟨fun same => by cases same; exact ⟨rfl, rfl⟩, fun ⟨same, here⟩ => by
      cases same; cases here; rfl⟩

theorem run_caught_ok {catches : ε → Bool} {x : EStateM ε σ α} {value : α} {after : σ}
    (ran : x s = .ok value after) : caught catches x s = .ok (.ok value) after := by
  unfold caught
  rw [ran]

theorem run_caught_error {catches : ε → Bool} {x : EStateM ε σ α} {raised : ε} {after : σ}
    (ran : x s = .error raised after) :
    caught catches x s =
      if catches raised then .ok (.error raised) after else .error raised after := by
  unfold caught
  rw [ran]

/-! ### Weakening, joining and reading back -/

theorem outcome_mono {x : EStateM ε σ α} {Q' : α → σ → Prop} {E' : ε → σ → Prop}
    (ends : Outcome x s Q E) (returns : ∀ value after, Q value after → Q' value after)
    (raises : ∀ raised after, E raised after → E' raised after) : Outcome x s Q' E' := by
  unfold Outcome at *
  cases result : x s with
  | ok value after => rw [result] at ends; exact returns value after ends
  | error raised after => rw [result] at ends; exact raises raised after ends

theorem outcome_and {x : EStateM ε σ α} {Q' : α → σ → Prop} {E' : ε → σ → Prop}
    (first : Outcome x s Q E) (second : Outcome x s Q' E') :
    Outcome x s (fun value after => Q value after ∧ Q' value after)
      (fun raised after => E raised after ∧ E' raised after) := by
  unfold Outcome at *
  cases result : x s with
  | ok value after => rw [result] at first second; exact ⟨first, second⟩
  | error raised after => rw [result] at first second; exact ⟨first, second⟩

/-- A postcondition that always holds is met by every run. -/
theorem outcome_of_forall (x : EStateM ε σ α) (returns : ∀ value after, Q value after)
    (raises : ∀ raised after, E raised after) : Outcome x s Q E := by
  unfold Outcome
  cases x s with
  | ok value after => exact returns value after
  | error raised after => exact raises raised after

theorem outcome_ok {x : EStateM ε σ α} {value : α} {after : σ} (ends : Outcome x s Q E)
    (ran : x s = .ok value after) : Q value after := by
  unfold Outcome at ends
  rw [ran] at ends
  exact ends

theorem outcome_error {x : EStateM ε σ α} {raised : ε} {after : σ} (ends : Outcome x s Q E)
    (ran : x s = .error raised after) : E raised after := by
  unfold Outcome at ends
  rw [ran] at ends
  exact ends

/-- What the last step returns, whatever came before it. -/
theorem outcome_last {x : EStateM ε σ α} {f : α → EStateM ε σ β}
    (last : ∀ value after, Outcome (f value) after R fun _ _ => True) :
    Outcome (x >>= f) s R fun _ _ => True := by
  rw [outcome_bind]
  exact outcome_of_forall x (fun value after => last value after) fun _ _ => trivial

/-- What a step promises apart from its value and its state stays true. -/
theorem outcome_kept {x : EStateM ε σ α} {f : α → EStateM ε σ β} {P : Prop}
    (first : Outcome x s (fun _ _ => P) fun _ _ => True) :
    Outcome (x >>= f) s (fun _ _ => P) fun _ _ => True := by
  rw [outcome_bind]
  exact outcome_mono first (fun value after holds =>
    outcome_of_forall (f value) (fun _ _ => holds) fun _ _ => trivial) fun _ _ _ => trivial

/-- The sharpest postcondition: the run itself. -/
theorem outcome_self (x : EStateM ε σ α) (s : σ) :
    Outcome x s (fun value after => x s = .ok value after)
      (fun raised after => x s = .error raised after) := by
  unfold Outcome
  cases result : x s <;> rfl

/-- A property of the state alone, however the run ends. -/
theorem outcome_stateAfter {x : EStateM ε σ α} {P : σ → Prop} :
    Outcome x s (fun _ after => P after) (fun _ after => P after) ↔ P (stateAfter x s) := by
  unfold Outcome stateAfter
  cases x s <;> rfl

/-! ### A narrower type of exceptions -/

section Narrow

variable {P : ε → Prop}

/-- A computation all of whose exceptions satisfy `P`, with that in their type. -/
def narrow (x : EStateM ε σ α) (only : ∀ s, Outcome x s (fun _ _ => True) fun raised _ => P raised) :
    EStateM {raised // P raised} σ α := fun s =>
  match ran : x s with
  | .ok value after => .ok value after
  | .error raised after =>
    have narrower : P raised := outcome_error (only s) ran
    .error ⟨raised, narrower⟩ after

/-- Forgetting the narrower type gives the computation back. -/
theorem adaptExcept_narrow (x : EStateM ε σ α)
    (only : ∀ s, Outcome x s (fun _ _ => True) fun raised _ => P raised) :
    EStateM.adaptExcept Subtype.val (narrow x only) = x := by
  funext s
  unfold EStateM.adaptExcept narrow
  split
  · rename_i raised after narrowed
    split at narrowed
    · cases narrowed
    · rename_i ran
      cases narrowed
      exact ran.symm
  · rename_i value after narrowed
    split at narrowed
    · rename_i ran
      cases narrowed
      exact ran.symm
    · cases narrowed

end Narrow

/-! ### What survives every run -/

section Preserves

variable {I : σ → Prop}

/-- Every run from a state with `I` ends in one. -/
def Preserves (x : EStateM ε σ α) (I : σ → Prop) : Prop :=
  ∀ s, I s → Outcome x s (fun _ after => I after) fun _ after => I after

theorem preserves_pure (value : α) : Preserves (pure value : EStateM ε σ α) I :=
  fun _ holds => holds

theorem preserves_throw (raised : ε) : Preserves (throw raised : EStateM ε σ α) I :=
  fun _ holds => holds

theorem preserves_orRaise (x : Except ε α) : Preserves (orRaise x : EStateM ε σ α) I := by
  intro s holds
  cases x with
  | ok value => exact holds
  | error raised => exact holds

theorem preserves_bind {x : EStateM ε σ α} {f : α → EStateM ε σ β} (first : Preserves x I)
    (rest : ∀ value, Preserves (f value) I) : Preserves (x >>= f) I := by
  intro s holds
  rw [outcome_bind]
  exact outcome_mono (first s holds) (fun value after kept => rest value after kept)
    fun _ _ kept => kept

theorem preserves_caught {catches : ε → Bool} {x : EStateM ε σ α} (kept : Preserves x I) :
    Preserves (caught catches x) I := by
  intro s holds
  rw [outcome_caught]
  refine outcome_mono (kept s holds) (fun _ _ after => after) fun raised after here => ?_
  by_cases accepted : catches raised = true
  · rw [if_pos accepted]
    exact here
  · rw [if_neg accepted]
    exact here

theorem preserves_adaptExcept {ε' : Type} {convert : ε' → ε} {x : EStateM ε' σ α}
    (kept : ∀ s, I s → Outcome x s (fun _ after => I after) fun _ after => I after) :
    Preserves (EStateM.adaptExcept convert x) I := by
  intro s holds
  rw [outcome_adaptExcept]
  exact kept s holds

end Preserves

/-! ### Which runs raise -/

/-- The run from this state raises. -/
def Raises (x : EStateM ε σ α) (s : σ) : Prop := ∃ raised after, x s = .error raised after

theorem not_raises_iff {x : EStateM ε σ α} :
    ¬ Raises x s ↔ ∃ value after, x s = .ok value after := by
  unfold Raises
  cases x s with
  | ok value after => exact ⟨fun _ => ⟨value, after, rfl⟩, fun _ ⟨_, _, absurd⟩ => by cases absurd⟩
  | error raised after =>
    exact ⟨fun returns => (returns ⟨raised, after, rfl⟩).elim, fun ⟨_, _, absurd⟩ => by cases absurd⟩

@[simp] theorem not_raises_pure (value : α) : ¬ Raises (pure value : EStateM ε σ α) s :=
  fun ⟨_, _, absurd⟩ => by cases absurd

@[simp] theorem raises_orRaise {x : Except ε α} :
    Raises (orRaise x : EStateM ε σ α) s ↔ ∃ raised, x = .error raised := by
  unfold Raises orRaise
  cases x with
  | ok value => exact ⟨fun ⟨_, _, absurd⟩ => (by cases absurd), fun ⟨_, absurd⟩ => (by cases absurd)⟩
  | error raised => exact ⟨fun _ => ⟨raised, rfl⟩, fun _ => ⟨raised, s, rfl⟩⟩

theorem raises_bind {x : EStateM ε σ α} {f : α → EStateM ε σ β} :
    Raises (x >>= f) s ↔ Raises x s ∨ ∃ value after, x s = .ok value after ∧ Raises (f value) after := by
  unfold Raises
  rw [run_bind]
  cases x s with
  | ok value after =>
    refine ⟨?_, ?_⟩
    · exact fun fails => Or.inr ⟨value, after, rfl, fails⟩
    · intro either
      rcases either with ⟨_, _, absurd⟩ | ⟨_, _, same, fails⟩
      · cases absurd
      · cases same
        exact fails
  | error raised after =>
    refine ⟨?_, ?_⟩
    · exact fun fails => Or.inl ⟨raised, after, rfl⟩
    · exact fun _ => ⟨raised, after, rfl⟩

/-- A `try … except` raises when its body raises past the handler, or in the handler, or after. -/
theorem raises_caught_bind {catches : ε → Bool} {x : EStateM ε σ α}
    {f : Except ε α → EStateM ε σ β} :
    Raises (caught catches x >>= f) s ↔
      (∃ raised after, x s = .error raised after ∧
        (catches raised = true → Raises (f (.error raised)) after)) ∨
      ∃ value after, x s = .ok value after ∧ Raises (f (.ok value)) after := by
  cases ran : x s with
  | ok value after =>
    have run : (caught catches x >>= f) s = f (.ok value) after := by
      rw [run_bind, run_caught_ok ran]
    refine ⟨?_, ?_⟩
    · intro found
      obtain ⟨raised, final, fails⟩ := found
      exact Or.inr ⟨value, after, rfl, raised, final, run ▸ fails⟩
    · intro either
      rcases either with ⟨_, _, absurd, _⟩ | ⟨_, _, same, raised, final, fails⟩
      · cases absurd
      · cases same
        exact ⟨raised, final, run ▸ fails⟩
  | error raised after =>
    by_cases accepted : catches raised = true
    · have run : (caught catches x >>= f) s = f (.error raised) after := by
        rw [run_bind, run_caught_error ran, if_pos accepted]
      refine ⟨?_, ?_⟩
      · intro found
        obtain ⟨again, final, fails⟩ := found
        exact Or.inl ⟨raised, after, rfl, fun _ => ⟨again, final, run ▸ fails⟩⟩
      · intro either
        rcases either with ⟨_, _, same, handler⟩ | ⟨_, _, absurd, _⟩
        · cases same
          obtain ⟨again, final, fails⟩ := handler accepted
          exact ⟨again, final, run ▸ fails⟩
        · cases absurd
    · have run : (caught catches x >>= f) s = .error raised after := by
        rw [run_bind, run_caught_error ran, if_neg accepted]
      refine ⟨?_, ?_⟩
      · exact fun _ => Or.inl ⟨raised, after, rfl, fun absurd => (accepted absurd).elim⟩
      · exact fun _ => ⟨raised, after, run⟩

end Outcome

/-! ### Computations without a state -/

section Pure

variable {ε α β : Type}

theorem ok_bind (value : α) (f : α → Except ε β) :
    ((.ok value : Except ε α) >>= f) = f value := rfl

theorem error_bind (err : ε) (f : α → Except ε β) :
    ((.error err : Except ε α) >>= f) = .error err := rfl

theorem bind_ok_iff {x : Except ε α} {f : α → Except ε β} {result : β} :
    (x >>= f) = .ok result ↔ ∃ value, x = .ok value ∧ f value = .ok result := by
  cases x with
  | ok value => exact ⟨fun ran => ⟨value, rfl, ran⟩, fun ⟨_, same, ran⟩ => by cases same; exact ran⟩
  | error raised => exact ⟨fun absurd => (by cases absurd), fun ⟨_, absurd, _⟩ => (by cases absurd)⟩

theorem bind_error_iff {x : Except ε α} {f : α → Except ε β} {raised : ε} :
    (x >>= f) = .error raised ↔
      x = .error raised ∨ ∃ value, x = .ok value ∧ f value = .error raised := by
  cases x with
  | ok value =>
    refine ⟨fun ran => Or.inr ⟨value, rfl, ran⟩, ?_⟩
    intro either
    rcases either with absurd | ⟨_, same, ran⟩
    · cases absurd
    · cases same
      exact ran
  | error first =>
    refine ⟨?_, ?_⟩
    · intro ran
      cases ran
      exact Or.inl rfl
    · intro either
      rcases either with same | ⟨_, absurd, _⟩
      · cases same
        rfl
      · cases absurd

theorem pure_ok_iff {value result : α} :
    (pure value : Except ε α) = .ok result ↔ value = result :=
  ⟨fun same => by cases same; rfl, fun same => by rw [same]; rfl⟩

/-- The search finds the first element that passes, when all before it failed. -/
theorem findM_some_iff {test : α → Except ε Bool} {candidates : List α} {found : α} :
    candidates.findM? test = .ok (some found) ↔
      ∃ before rest, candidates = before ++ found :: rest ∧
        (∀ earlier ∈ before, test earlier = .ok false) ∧ test found = .ok true := by
  induction candidates with
  | nil => exact ⟨fun absurd => (by cases absurd), fun ⟨_, _, absurd, _⟩ => (by simp at absurd)⟩
  | cons head tail ih =>
    rw [List.findM?, bind_ok_iff]
    refine ⟨?_, ?_⟩
    · intro search
      obtain ⟨passes, tested, continues⟩ := search
      cases passes with
      | true =>
        cases continues
        exact ⟨[], tail, rfl, fun _ member => (by cases member), tested⟩
      | false =>
        obtain ⟨before, rest, rfl, failed, passed⟩ := ih.mp continues
        exact ⟨head :: before, rest, rfl, List.forall_mem_cons.mpr ⟨tested, failed⟩, passed⟩
    · intro split
      obtain ⟨before, rest, split, failed, passed⟩ := split
      cases before with
      | nil =>
        cases split
        exact ⟨true, passed, rfl⟩
      | cons first before =>
        cases split
        obtain ⟨tested, failed⟩ := List.forall_mem_cons.mp failed
        exact ⟨false, tested, ih.mpr ⟨before, rest, rfl, failed, passed⟩⟩

/-- The first element that passes a test which may raise passed it. -/
theorem findM_some {test : α → Except ε Bool} {candidates : List α} {found : α}
    (search : candidates.findM? test = .ok (some found)) :
    found ∈ candidates ∧ test found = .ok true := by
  obtain ⟨before, rest, rfl, _, passed⟩ := findM_some_iff.mp search
  exact ⟨by simp, passed⟩

/-- Where some element has a property, there is a first one that has it. -/
theorem exists_first {P : α → Prop} {candidates : List α} (found : ∃ one ∈ candidates, P one) :
    ∃ before first rest, candidates = before ++ first :: rest ∧
      (∀ earlier ∈ before, ¬ P earlier) ∧ P first := by
  induction candidates with
  | nil =>
    obtain ⟨_, absurd, _⟩ := found
    cases absurd
  | cons head tail ih =>
    by_cases here : P head
    · exact ⟨[], head, tail, rfl, fun _ member => (by cases member), here⟩
    · obtain ⟨one, member, holds⟩ := found
      have later : one ∈ tail := by
        rcases List.mem_cons.mp member with rfl | later
        · exact (here holds).elim
        · exact later
      obtain ⟨before, first, rest, split, missing, holds⟩ := ih ⟨one, later, holds⟩
      exact ⟨head :: before, first, rest, by rw [split]; rfl,
        List.forall_mem_cons.mpr ⟨here, missing⟩, holds⟩

/-- The search raises at the first element the test raises on, when all before it failed. -/
theorem findM_error_iff {test : α → Except ε Bool} {candidates : List α} {raised : ε} :
    candidates.findM? test = .error raised ↔
      ∃ before candidate rest, candidates = before ++ candidate :: rest ∧
        (∀ earlier ∈ before, test earlier = .ok false) ∧ test candidate = .error raised := by
  induction candidates with
  | nil => exact ⟨fun absurd => (by cases absurd), fun ⟨_, _, _, absurd, _⟩ => (by simp at absurd)⟩
  | cons head tail ih =>
    rw [List.findM?, bind_error_iff]
    refine ⟨?_, ?_⟩
    · intro either
      rcases either with raises | ⟨passes, tested, continues⟩
      · exact ⟨[], head, tail, rfl, fun _ member => (by cases member), raises⟩
      · cases passes with
        | true => cases continues
        | false =>
          obtain ⟨before, candidate, rest, rfl, failed, raises⟩ := ih.mp continues
          exact ⟨head :: before, candidate, rest, rfl, List.forall_mem_cons.mpr ⟨tested, failed⟩,
            raises⟩
    · intro found
      obtain ⟨before, candidate, rest, split, failed, raises⟩ := found
      cases before with
      | nil =>
        cases split
        exact Or.inl raises
      | cons first before =>
        cases split
        obtain ⟨tested, failed⟩ := List.forall_mem_cons.mp failed
        exact Or.inr ⟨false, tested, ih.mpr ⟨before, candidate, rest, rfl, failed, raises⟩⟩

/-- A loop of checks passes exactly when every element passes. -/
theorem forM_ok_iff {check : α → Except ε Unit} {elements : List α} :
    elements.forM check = .ok () ↔ ∀ element ∈ elements, check element = .ok () := by
  induction elements with
  | nil => exact ⟨fun _ _ member => (by cases member), fun _ => rfl⟩
  | cons head rest ih =>
    change (check head >>= fun _ => rest.forM check) = .ok () ↔ _
    rw [bind_ok_iff, List.forall_mem_cons, ← ih]
    exact ⟨fun ⟨_, passed, others⟩ => ⟨passed, others⟩, fun ⟨passed, others⟩ => ⟨(), passed, others⟩⟩

/-- A loop over elements returns exactly when every step does. -/
theorem mapM_ok_iff {f : α → Except ε β} {elements : List α} :
    (∃ results, elements.mapM f = .ok results) ↔ ∀ x ∈ elements, ∃ result, f x = .ok result := by
  induction elements with
  | nil => exact ⟨fun _ => List.forall_mem_nil _, fun _ => ⟨[], rfl⟩⟩
  | cons head rest ih =>
    rw [List.forall_mem_cons, ← ih]
    refine ⟨?_, ?_⟩
    · rintro ⟨results, returned⟩
      rw [List.mapM_cons] at returned
      obtain ⟨first, here, others⟩ := bind_ok_iff.mp returned
      obtain ⟨later, there, _⟩ := bind_ok_iff.mp others
      exact ⟨⟨first, here⟩, later, there⟩
    · rintro ⟨⟨first, here⟩, later, there⟩
      refine ⟨first :: later, ?_⟩
      rw [List.mapM_cons, here, there]
      rfl

/-- What a loop raises, one of its steps raises. -/
theorem mapM_error {f : α → Except ε β} {elements : List α} {raised : ε}
    (failed : elements.mapM f = .error raised) : ∃ x ∈ elements, f x = .error raised := by
  induction elements with
  | nil => cases failed
  | cons head rest ih =>
    rw [List.mapM_cons] at failed
    rcases bind_error_iff.mp failed with here | ⟨first, _, others⟩
    · exact ⟨head, List.mem_cons_self, here⟩
    · rcases bind_error_iff.mp others with there | ⟨later, _, absurd⟩
      · obtain ⟨x, member, raises⟩ := ih there
        exact ⟨x, List.mem_cons_of_mem _ member, raises⟩
      · cases absurd

/-- The result of every step is among those of the loop. -/
theorem mem_of_mapM {f : α → Except ε β} {elements : List α} {results : List β} {x : α}
    (returned : elements.mapM f = .ok results) (member : x ∈ elements) :
    ∃ result ∈ results, f x = .ok result := by
  induction elements generalizing results with
  | nil => cases member
  | cons head rest ih =>
    rw [List.mapM_cons] at returned
    obtain ⟨first, here, others⟩ := bind_ok_iff.mp returned
    obtain ⟨later, there, same⟩ := bind_ok_iff.mp others
    cases same
    rcases List.mem_cons.mp member with rfl | inside
    · exact ⟨first, List.mem_cons_self, here⟩
    · obtain ⟨result, among, ran⟩ := ih there inside
      exact ⟨result, List.mem_cons_of_mem _ among, ran⟩

/-- A loop whose steps all return. -/
theorem mapM_ok_eq {f : α → Except ε β} {g : α → β} {elements : List α}
    (returns : ∀ x ∈ elements, f x = .ok (g x)) : elements.mapM f = .ok (elements.map g) := by
  induction elements with
  | nil => rfl
  | cons head rest ih =>
    obtain ⟨here, there⟩ := List.forall_mem_cons.mp returns
    rw [List.mapM_cons, here, ih there]
    rfl

/-- A loop whose steps can only be refused in one way is refused as soon as one of them is. -/
theorem mapM_eq_ite {f : α → Except ε β} {g : α → β} {Allowed : α → Prop} [DecidablePred Allowed]
    {refusal : ε} (step : ∀ x, f x = if Allowed x then .ok (g x) else .error refusal)
    (elements : List α) : elements.mapM f =
      if ∀ x ∈ elements, Allowed x then .ok (elements.map g) else .error refusal := by
  induction elements with
  | nil => rfl
  | cons head rest ih =>
    rw [List.mapM_cons, step, ih]
    by_cases first : Allowed head
    · by_cases others : ∀ x ∈ rest, Allowed x
      · rw [if_pos first, if_pos others, if_pos (List.forall_mem_cons.mpr ⟨first, others⟩)]
        rfl
      · rw [if_pos first, if_neg others, if_neg fun all => others (List.forall_mem_cons.mp all).2]
        rfl
    · rw [if_neg first, if_neg fun all => first (List.forall_mem_cons.mp all).1]
      rfl

end Pure

end Certinspect.Library
