/-
**Stable sorting.**

A stable sort by a total preorder is determined by what it is for: its result is sorted, and the
elements that tie with any given one stand in it as they stood before.

* `tied` — neither comes before the other.
* `filter_mergeSort_of_ties` — elements that tie with each other are sorted into their own order;
  `filter_mergeSort` — so a class of ties is.
* `eq_of_ties` — two sorted lists with the same classes of ties are the same.
* **`eq_mergeSort_iff`** — the result of the sort, by these two properties.
-/

import Mathlib.Data.List.Basic

namespace Certinspect.Library

section Stable

variable {α : Type} {le : α → α → Bool} {items sorted other : List α}

/-- A relation to sort by. -/
structure TotalPreorder (le : α → α → Bool) : Prop where
  trans : ∀ first second third, le first second = true → le second third = true → le first third = true
  total : ∀ first second, (le first second || le second first) = true

/-- Neither comes before the other. -/
def tied (le : α → α → Bool) (first second : α) : Bool := le first second && le second first

namespace TotalPreorder

theorem refl (order : TotalPreorder le) (x : α) : le x x = true := by
  have either := order.total x x
  rwa [Bool.or_self] at either

theorem tied_self (order : TotalPreorder le) (x : α) : tied le x x = true := by
  unfold tied
  rw [order.refl, Bool.and_self]

/-- All that tie with an element tie with each other. -/
theorem ties (order : TotalPreorder le) {x first second : α} (one : tied le x first = true)
    (two : tied le x second = true) : le first second = true := by
  obtain ⟨_, back⟩ := Bool.and_eq_true_iff.mp one
  obtain ⟨ahead, _⟩ := Bool.and_eq_true_iff.mp two
  exact order.trans _ _ _ back ahead

end TotalPreorder

/-- Elements that tie with each other are sorted into their own order. -/
theorem filter_mergeSort_of_ties (order : TotalPreorder le) {p : α → Bool}
    (ties : ∀ first second, p first = true → p second = true → le first second = true) :
    (items.mergeSort le).filter p = items.filter p := by
  have sorted : (items.filter p).Pairwise fun first second => le first second = true := by
    refine List.pairwise_iff_forall_sublist.mpr fun {first second} pair => ?_
    have firstIn := List.mem_filter.mp (pair.subset List.mem_cons_self)
    have secondIn := List.mem_filter.mp (pair.subset (List.mem_cons_of_mem _ List.mem_cons_self))
    exact ties first second firstIn.2 secondIn.2
  have inside : (items.filter p).Sublist (items.mergeSort le) :=
    List.sublist_mergeSort order.trans order.total sorted List.filter_sublist
  have kept : (items.filter p).Sublist ((items.mergeSort le).filter p) := by
    have filtered := inside.filter p
    rwa [List.filter_filter, List.filter_congr fun y _ => Bool.and_self (p y)] at filtered
  have count := ((List.mergeSort_perm items le).filter p).length_eq
  exact (kept.eq_of_length count.symm).symm

/-- A class of ties is sorted into itself, in its order. -/
theorem filter_mergeSort (order : TotalPreorder le) (x : α) :
    (items.mergeSort le).filter (tied le x) = items.filter (tied le x) :=
  filter_mergeSort_of_ties order fun _ _ one two => order.ties one two

/-- **Two sorted lists with the same classes of ties are the same.** -/
theorem eq_of_ties (order : TotalPreorder le)
    (one : sorted.Pairwise fun first second => le first second = true)
    (two : other.Pairwise fun first second => le first second = true)
    (ties : ∀ x, sorted.filter (tied le x) = other.filter (tied le x)) : sorted = other := by
  have shared (x : α) : x ∈ sorted ↔ x ∈ other := by
    have here := congrArg (x ∈ ·) (ties x)
    simp only [List.mem_filter, order.tied_self, and_true, eq_iff_iff] at here
    exact here
  induction sorted generalizing other with
  | nil =>
    refine (List.eq_nil_iff_forall_not_mem.mpr fun x member => ?_).symm
    cases (shared x).mpr member
  | cons first rest ih =>
    cases other with
    | nil => cases (shared first).mp List.mem_cons_self
    | cons second others =>
      obtain ⟨before, oneRest⟩ := List.pairwise_cons.mp one
      obtain ⟨ahead, twoRest⟩ := List.pairwise_cons.mp two
      -- each of the two heads is in the other list, so neither comes before the other
      have firstLe : le first second = true := by
        rcases List.mem_cons.mp ((shared second).mpr List.mem_cons_self) with rfl | later
        · exact order.refl _
        · exact before second later
      have secondLe : le second first = true := by
        rcases List.mem_cons.mp ((shared first).mp List.mem_cons_self) with rfl | later
        · exact order.refl _
        · exact ahead first later
      have tie : tied le first second = true := by
        unfold tied
        rw [firstLe, secondLe, Bool.and_self]
      have heads := ties first
      rw [List.filter_cons_of_pos (order.tied_self first), List.filter_cons_of_pos tie] at heads
      obtain ⟨rfl, _⟩ := List.cons.inj heads
      have later (x : α) : rest.filter (tied le x) = others.filter (tied le x) := by
        have whole := ties x
        rw [List.filter_cons, List.filter_cons] at whole
        split at whole
        · exact (List.cons.inj whole).2
        · exact whole
      refine congrArg (List.cons first) (ih oneRest twoRest later fun x => ?_)
      have here := congrArg (x ∈ ·) (later x)
      simp only [List.mem_filter, order.tied_self, and_true, eq_iff_iff] at here
      exact here

/-- **The result of a stable sort**: it is sorted, and keeps the order of what ties. -/
theorem eq_mergeSort_iff (order : TotalPreorder le) :
    sorted = items.mergeSort le ↔
      (sorted.Pairwise fun first second => le first second = true) ∧
        ∀ x, sorted.filter (tied le x) = items.filter (tied le x) := by
  have own : (items.mergeSort le).Pairwise fun first second => le first second = true :=
    List.pairwise_mergeSort order.trans order.total items
  refine ⟨?_, fun ⟨ascending, ties⟩ => ?_⟩
  · rintro rfl
    exact ⟨own, fun x => filter_mergeSort order x⟩
  · exact eq_of_ties order ascending own fun x => (ties x).trans (filter_mergeSort order x).symm

end Stable

end Certinspect.Library
