/-
**Counting by categories in a dictionary.**

A tally starts from zero for each of some keys. Every element is asked for its key, whose count goes
up by one; a key that has no count is an error.

* `fromKeys`, `countOf`, `tally` — the zeros, a count, and the loop.
* `lookup_increment` — one more for the key, and nothing for another one.
* **`tally_run`** — the counts behind the loop, by induction on the elements.
* `tally_ok_iff` — the loop fails for no element exactly when each has a key with a count.
* **`sum_countP_key`** — over different keys that leave no element out, the counts add up to the
  number of elements; `sum_filter_counts` — also when zeros are left out.
-/

import Certinspect.Library.Dict
import Certinspect.Library.Outcome
import Mathlib.Algebra.BigOperators.Group.List.Basic
import Mathlib.Algebra.GroupWithZero.Nat

namespace Certinspect.Library

section Tally

variable {ε κ α : Type} [DecidableEq κ]

/-- A count of zero for each of the keys. -/
def fromKeys (keys : List κ) : Dict κ Nat := Dict.ofPairs (keys.map fun key => (key, 0))

variable (missing : κ → ε)

/-- The count of a key. -/
def countOf (counts : Dict κ Nat) (key : κ) : Except ε Nat :=
  match counts.lookup key with
  | some number => .ok number
  | none => .error (missing key)

/-- One more for a key. -/
def increment (counts : Dict κ Nat) (key : κ) : Except ε (Dict κ Nat) := do
  let number ← countOf missing counts key
  pure (counts.insert key (number + 1))

/-- One more for the key of each element. -/
def tally (keyOf : α → Except ε κ) (counts : Dict κ Nat) (elements : List α) :
    Except ε (Dict κ Nat) :=
  elements.foldlM (fun counts element => do
    let key ← keyOf element
    increment missing counts key) counts

variable {missing} {keyOf : α → Except ε κ} {counts : Dict κ Nat} {elements : List α} {key : κ}
  {number : Nat}

/-! ### One element -/

theorem lookup_fromKeys {keys : List κ} (listed : key ∈ keys) : (fromKeys keys).lookup key = some 0 := by
  unfold fromKeys
  rw [lookup_ofPairs, lastValue_eq_some_iff]
  · exact List.mem_map.mpr ⟨key, listed, rfl⟩
  · intro first second left right
    obtain ⟨_, _, same⟩ := List.mem_map.mp left
    obtain ⟨_, _, again⟩ := List.mem_map.mp right
    cases same
    cases again
    rfl

theorem lookup_fromKeys_isSome_iff {keys : List κ} :
    ((fromKeys keys).lookup key).isSome ↔ key ∈ keys := by
  refine ⟨fun counted => ?_, fun listed => by rw [lookup_fromKeys listed]; rfl⟩
  obtain ⟨number, found⟩ := Option.isSome_iff_exists.mp counted
  unfold fromKeys at found
  rw [lookup_ofPairs] at found
  obtain ⟨before, after, split, _⟩ := lastValue_iff_split.mp found
  have member : (key, number) ∈ keys.map fun key => (key, 0) := by
    rw [split]
    exact List.mem_append_right _ List.mem_cons_self
  obtain ⟨_, listed, same⟩ := List.mem_map.mp member
  cases same
  exact listed

theorem countOf_eq (counted : counts.lookup key = some number) :
    countOf missing counts key = .ok number := by
  unfold countOf
  rw [counted]

theorem increment_eq (counted : counts.lookup key = some number) :
    increment missing counts key = .ok (counts.insert key (number + 1)) := by
  unfold increment
  rw [countOf_eq counted]
  rfl

theorem counted_of_increment {after : Dict κ Nat} (went : increment missing counts key = .ok after) :
    ∃ number, counts.lookup key = some number := by
  unfold increment countOf at went
  cases counted : counts.lookup key with
  | some number => exact ⟨number, rfl⟩
  | none =>
    rw [counted] at went
    cases went

/-- One more for the key, and nothing for another one. -/
theorem lookup_increment (counted : counts.lookup key = some number) (other : κ) :
    (counts.insert key (number + 1)).lookup other =
      (counts.lookup other).map (· + if key = other then 1 else 0) := by
  by_cases same : key = other
  · subst same
    rw [AList.lookup_insert, counted, if_pos rfl]
    rfl
  · rw [AList.lookup_insert_ne (Ne.symm same), if_neg same]
    exact Option.map_id'.symm

/-! ### All elements -/

theorem tally_cons (element : α) (rest : List α) :
    tally missing keyOf counts (element :: rest) =
      (do
        let key ← keyOf element
        let after ← increment missing counts key
        tally missing keyOf after rest) := by
  unfold tally
  rw [List.foldlM_cons]
  cases keyOf element with
  | error raised => rfl
  | ok key => rfl

variable [DecidableEq ε]

/-- **The counts behind the loop**: to the count of each key come the elements that have it. -/
theorem tally_run (each : ∀ element ∈ elements, ∃ key, keyOf element = .ok key ∧
    (counts.lookup key).isSome) :
    ∃ after, tally missing keyOf counts elements = .ok after ∧ ∀ key, after.lookup key =
      (counts.lookup key).map (· + elements.countP fun element => keyOf element = .ok key) := by
  induction elements generalizing counts with
  | nil => exact ⟨counts, rfl, fun key => Option.map_id'.symm⟩
  | cons element rest ih =>
    obtain ⟨here, others⟩ := List.forall_mem_cons.mp each
    obtain ⟨own, named, counted⟩ := here
    obtain ⟨number, found⟩ := Option.isSome_iff_exists.mp counted
    have later : ∀ element ∈ rest, ∃ key, keyOf element = .ok key ∧
        ((counts.insert own (number + 1)).lookup key).isSome := by
      intro element member
      obtain ⟨key, has, inside⟩ := others element member
      exact ⟨key, has, by rw [lookup_increment found, Option.isSome_map]; exact inside⟩
    obtain ⟨after, ran, looked⟩ := ih later
    refine ⟨after, ?_, fun key => ?_⟩
    · rw [tally_cons, named]
      show (increment missing counts own >>= _) = _
      rw [increment_eq found]
      exact ran
    · rw [looked, lookup_increment found, Option.map_map, List.countP_cons, named]
      refine congrArg (fun more => Option.map more (counts.lookup key)) ?_
      funext before
      show before + _ + _ = before + (_ + _)
      simp only [Except.ok.injEq, decide_eq_true_eq]
      omega

/-- **The counts add up.** -/
theorem sum_countP_key {keys : List κ} (distinct : keys.Nodup)
    (each : ∀ element ∈ elements, ∃ key ∈ keys, keyOf element = .ok key) :
    (keys.map fun key => elements.countP fun element => keyOf element = .ok key).sum =
      elements.length := by
  induction elements with
  | nil => simp
  | cons element rest ih =>
    obtain ⟨⟨own, listed, named⟩, others⟩ := List.forall_mem_cons.mp each
    have single : (keys.map fun key => if keyOf element = .ok key then 1 else 0).sum = 1 := by
      rw [List.sum_map_eq_nsmul_single own, List.count_eq_one_of_mem distinct listed, named]
      · simp
      · intro other differs _
        rw [named, if_neg fun same => differs (Except.ok.inj same).symm]
    simp only [List.countP_cons, List.sum_map_add, decide_eq_true_eq, ih others, single,
      List.length_cons]

/-- What is left out counts for nothing. -/
theorem sum_filter_counts {counted : α → Nat} {shown : α → Bool}
    (zero : ∀ element ∈ elements, shown element = false → counted element = 0) :
    ((elements.filter shown).map counted).sum = (elements.map counted).sum := by
  induction elements with
  | nil => rfl
  | cons element rest ih =>
    obtain ⟨here, others⟩ := List.forall_mem_cons.mp zero
    cases kept : shown element with
    | true =>
      rw [List.filter_cons_of_pos kept, List.map_cons, List.sum_cons, ih others, List.map_cons,
        List.sum_cons]
    | false =>
      have dropped : ¬ shown element = true := by rw [kept]; exact Bool.false_ne_true
      rw [List.filter_cons_of_neg dropped, ih others, List.map_cons, List.sum_cons, here kept,
        Nat.zero_add]

/-- **No element fails exactly when each has a key that is counted.** -/
theorem tally_ok_iff : (∃ after, tally missing keyOf counts elements = .ok after) ↔
    ∀ element ∈ elements, ∃ key, keyOf element = .ok key ∧ (counts.lookup key).isSome := by
  refine ⟨fun went => ?_, fun each => ?_⟩
  · obtain ⟨after, went⟩ := went
    induction elements generalizing counts with
    | nil => exact List.forall_mem_nil _
    | cons element rest ih =>
      rw [tally_cons] at went
      obtain ⟨own, named, went⟩ := bind_ok_iff.mp went
      obtain ⟨middle, one, went⟩ := bind_ok_iff.mp went
      obtain ⟨number, found⟩ := counted_of_increment one
      rw [increment_eq found] at one
      cases one
      refine List.forall_mem_cons.mpr ⟨⟨own, named, by rw [found]; rfl⟩, fun other member => ?_⟩
      obtain ⟨key, has, inside⟩ := ih went other member
      rw [lookup_increment found, Option.isSome_map] at inside
      exact ⟨key, has, inside⟩
  · obtain ⟨after, ran, _⟩ := tally_run each
    exact ⟨after, ran⟩

end Tally

end Certinspect.Library
