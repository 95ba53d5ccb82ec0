/-
**The worst of several verdicts under a rank.**

Verdicts are ranked, the lowest rank the worst, and a collection is summed up by its worst verdict;
the empty collection counts as `fallback`. When the rank separates verdicts and `fallback` has the
highest rank, `leastBy` is a property of the *set* of verdicts:

* `leastBy_eq_iff` — it is the one verdict of `fallback :: verdicts` that no other outranks;
* `leastBy_perm`, `leastBy_flatten` — neither the order nor the grouping of the verdicts matters;
* `leastBy_eq_fallback_iff` — it is `fallback` exactly when every verdict is.

`foldl_max_scale` — a second scale, on which what is worse never counts less, has its maximum at the
worst verdict.
-/

import Mathlib.Data.List.MinMax

namespace Certinspect.Library

section Severity

variable {α β : Type} [LinearOrder β] (rank : α → β) (fallback : α)

/-- The first verdict of least rank, or `fallback` when there is none. -/
def leastBy (verdicts : List α) : α := (verdicts.argmin rank).getD fallback

theorem leastBy_mem (verdicts : List α) :
    leastBy rank fallback verdicts ∈ fallback :: verdicts := by
  unfold leastBy
  cases least : verdicts.argmin rank with
  | none => exact List.mem_cons_self
  | some verdict => exact List.mem_cons_of_mem _ (List.argmin_mem least)

variable {rank fallback}

theorem rank_leastBy_le {verdicts : List α} {verdict : α} (member : verdict ∈ verdicts) :
    rank (leastBy rank fallback verdicts) ≤ rank verdict := by
  unfold leastBy
  cases least : verdicts.argmin rank with
  | none =>
    rw [List.argmin_eq_none] at least
    rw [least] at member
    cases member
  | some worst => exact List.le_of_mem_argmin member least

section Separating

variable (separates : Function.Injective rank) (highest : ∀ verdict, rank verdict ≤ rank fallback)

include highest in
/-- No verdict, the fallback included, outranks the worst. -/
theorem rank_leastBy_le_cons {verdicts : List α} {verdict : α}
    (member : verdict ∈ fallback :: verdicts) :
    rank (leastBy rank fallback verdicts) ≤ rank verdict := by
  rcases List.mem_cons.mp member with rfl | member
  · exact highest _
  · exact rank_leastBy_le member

include separates highest

/-- **The worst verdict is the one that no other outranks**, the fallback always counting as one. -/
theorem leastBy_eq_iff {verdicts : List α} {worst : α} :
    leastBy rank fallback verdicts = worst ↔
      worst ∈ fallback :: verdicts ∧ ∀ verdict ∈ verdicts, rank worst ≤ rank verdict := by
  refine ⟨?_, ?_⟩
  · rintro rfl
    exact ⟨leastBy_mem rank fallback verdicts, fun verdict member => rank_leastBy_le member⟩
  · intro found
    obtain ⟨member, least⟩ := found
    refine separates (le_antisymm (rank_leastBy_le_cons highest member) ?_)
    rcases List.mem_cons.mp (leastBy_mem rank fallback verdicts)
      with isFallback | isVerdict
    · rw [isFallback]
      exact highest _
    · exact least _ isVerdict

/-- **Only which verdicts there are matters.** -/
theorem leastBy_congr {first second : List α} (same : ∀ verdict, verdict ∈ first ↔ verdict ∈ second) :
    leastBy rank fallback first = leastBy rank fallback second := by
  rw [leastBy_eq_iff separates highest]
  obtain ⟨member, least⟩ := (leastBy_eq_iff separates highest).mp
    (rfl : leastBy rank fallback second = leastBy rank fallback second)
  refine ⟨?_, fun verdict inFirst => least verdict ((same verdict).mp inFirst)⟩
  rcases List.mem_cons.mp member with isFallback | inSecond
  · rw [isFallback]
    exact List.mem_cons_self
  · exact List.mem_cons_of_mem _ ((same _).mpr inSecond)

/-- **The order does not matter.** -/
theorem leastBy_perm {first second : List α} (reordered : first.Perm second) :
    leastBy rank fallback first = leastBy rank fallback second :=
  leastBy_congr separates highest fun _ => reordered.mem_iff

/-- **The grouping does not matter**: the worst of the groups' worst verdicts is the worst of all. -/
theorem leastBy_flatten (groups : List (List α)) :
    leastBy rank fallback (groups.map (leastBy rank fallback)) =
      leastBy rank fallback groups.flatten := by
  rw [leastBy_eq_iff separates highest]
  obtain ⟨member, least⟩ := (leastBy_eq_iff separates highest).mp
    (rfl : leastBy rank fallback groups.flatten = leastBy rank fallback groups.flatten)
  refine ⟨?_, ?_⟩
  · rcases List.mem_cons.mp member with isFallback | inFlat
    · rw [isFallback]
      exact List.mem_cons_self
    · obtain ⟨group, inGroups, inGroup⟩ := List.mem_flatten.mp inFlat
      refine List.mem_cons_of_mem _ (List.mem_map.mpr ⟨group, inGroups, ?_⟩)
      rw [leastBy_eq_iff separates highest]
      exact ⟨List.mem_cons_of_mem _ inGroup, fun verdict inGroup' =>
        least verdict (List.mem_flatten.mpr ⟨group, inGroups, inGroup'⟩)⟩
  · intro verdict inMap
    obtain ⟨group, inGroups, rfl⟩ := List.mem_map.mp inMap
    rcases List.mem_cons.mp (leastBy_mem rank fallback group)
      with isFallback | inGroup
    · rw [isFallback]
      exact highest _
    · exact least _ (List.mem_flatten.mpr ⟨group, inGroups, inGroup⟩)

/-- **The worst verdict is the fallback exactly when every verdict is.** -/
theorem leastBy_eq_fallback_iff {verdicts : List α} :
    leastBy rank fallback verdicts = fallback ↔ ∀ verdict ∈ verdicts, verdict = fallback := by
  rw [leastBy_eq_iff separates highest]
  refine ⟨?_, ?_⟩
  · rintro ⟨_, least⟩ verdict member
    exact separates (le_antisymm (highest verdict) (least verdict member))
  · intro each
    exact ⟨List.mem_cons_self, fun verdict member => by rw [each verdict member]⟩

end Separating

/-! ### A second scale -/

section Scale

variable {γ : Type} [LinearOrder γ]

/-- A running maximum stays below what bounds its start and every item. -/
theorem foldl_max_le_iff {items : List γ} {start bound : γ} :
    items.foldl max start ≤ bound ↔ start ≤ bound ∧ ∀ item ∈ items, item ≤ bound := by
  induction items generalizing start with
  | nil => simp
  | cons item rest ih =>
    rw [List.foldl_cons, ih, max_le_iff, List.forall_mem_cons, and_assoc]

/-- **Two conventions agree when the second follows the first**: if what is at least as bad by rank
counts at least as much on the scale, then the maximum of the scale is that of the worst verdict. -/
theorem foldl_max_scale {scale : α → γ}
    (follows : ∀ first second, rank first ≤ rank second → scale second ≤ scale first)
    (highest : ∀ verdict, rank verdict ≤ rank fallback) (verdicts : List α) :
    (verdicts.map scale).foldl max (scale fallback) = scale (leastBy rank fallback verdicts) := by
  obtain ⟨startBelow, eachBelow⟩ := foldl_max_le_iff.mp
    (le_refl ((verdicts.map scale).foldl max (scale fallback)))
  refine le_antisymm (foldl_max_le_iff.mpr ⟨?_, ?_⟩) ?_
  · exact follows _ _ (highest _)
  · intro value member
    obtain ⟨verdict, inVerdicts, rfl⟩ := List.mem_map.mp member
    exact follows _ _ (rank_leastBy_le inVerdicts)
  · rcases List.mem_cons.mp (leastBy_mem rank fallback verdicts) with isFallback | isVerdict
    · rw [isFallback]
      exact startBelow
    · exact eachBelow _ (List.mem_map_of_mem isVerdict)

end Scale

end Severity

end Certinspect.Library
