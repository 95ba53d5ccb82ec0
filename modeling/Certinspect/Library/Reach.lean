/-
**What can be reached over a list of edges.**

* `Reached` — reached from a start by following edges.
* `expand`, `foundAfter` — rounds that follow every edge once more.
* `found_sound`, `found_persists` — what rounds find is reached; a round without a discovery is the
  last that matters.
* **`mem_found_iff`** — as many rounds as there are edges find everything.
-/

import Mathlib.Data.Finset.Card
import Mathlib.Logic.Relation

namespace Certinspect.Library

section Reach

variable {α : Type} {edges : List (α × α)} {start x : α}

/-- Reached from a start by following edges. -/
def Reached (edges : List (α × α)) (start x : α) : Prop :=
  Relation.ReflTransGen (fun source target => (source, target) ∈ edges) start x

variable [DecidableEq α]

/-- Follow every edge from what is known. -/
def expand (edges : List (α × α)) (known : List α) : List α :=
  known ++ (edges.filter fun edge => edge.1 ∈ known).map Prod.snd

/-- What is found from a start in a number of rounds. -/
def foundAfter (edges : List (α × α)) (start : α) : Nat → List α
  | 0 => [start]
  | rounds + 1 => expand edges (foundAfter edges start rounds)

theorem mem_expand_iff {known : List α} :
    x ∈ expand edges known ↔ x ∈ known ∨ ∃ source ∈ known, (source, x) ∈ edges := by
  unfold expand
  rw [List.mem_append, List.mem_map]
  refine or_congr_right ⟨?_, ?_⟩
  · rintro ⟨⟨source, target⟩, member, rfl⟩
    rw [List.mem_filter] at member
    exact ⟨source, of_decide_eq_true member.2, member.1⟩
  · rintro ⟨source, known, edge⟩
    exact ⟨(source, x), List.mem_filter.mpr ⟨edge, decide_eq_true known⟩, rfl⟩

/-- What rounds find is reached. -/
theorem found_sound {rounds : Nat} (member : x ∈ foundAfter edges start rounds) :
    Reached edges start x := by
  induction rounds generalizing x with
  | zero =>
    rw [List.mem_singleton.mp member]
    exact .refl
  | succ rounds ih =>
    rcases mem_expand_iff.mp member with before | ⟨source, known, edge⟩
    · exact ih before
    · exact (ih known).tail edge

theorem found_mono {fewer more : Nat} (order : fewer ≤ more)
    (member : x ∈ foundAfter edges start fewer) : x ∈ foundAfter edges start more := by
  induction order with
  | refl => exact member
  | step _ ih => exact mem_expand_iff.mpr (Or.inl ih)

/-- After a round without a discovery, everything that is reached is known. -/
theorem found_persists {rounds : Nat}
    (settled : ∀ y ∈ foundAfter edges start (rounds + 1), y ∈ foundAfter edges start rounds)
    (reached : Reached edges start x) : x ∈ foundAfter edges start rounds := by
  induction reached with
  | refl => exact found_mono (Nat.zero_le rounds) (List.mem_singleton_self start)
  | tail _ edge ih => exact settled _ (mem_expand_iff.mpr (Or.inr ⟨_, ih, edge⟩))

/-- Only the start and the ends of edges are found. -/
theorem found_subset (rounds : Nat) :
    (foundAfter edges start rounds).toFinset ⊆ (start :: edges.map Prod.snd).toFinset := by
  intro x member
  rw [List.mem_toFinset] at member ⊢
  induction rounds generalizing x with
  | zero => exact List.mem_cons.mpr (Or.inl (List.mem_singleton.mp member))
  | succ rounds ih =>
    rcases mem_expand_iff.mp member with before | ⟨source, _, edge⟩
    · exact ih before
    · exact List.mem_cons_of_mem _ (List.mem_map.mpr ⟨(source, x), edge, rfl⟩)

/-- Rounds with a discovery each find as many elements. -/
theorem card_found (rounds : Nat) (discovery : ∀ earlier < rounds,
    ∃ y ∈ foundAfter edges start (earlier + 1), y ∉ foundAfter edges start earlier) :
    rounds < (foundAfter edges start rounds).toFinset.card := by
  induction rounds with
  | zero => simp [foundAfter]
  | succ rounds ih =>
    have before := ih fun earlier order => discovery earlier (by omega)
    obtain ⟨y, new, unknown⟩ := discovery rounds (by omega)
    have grown : (foundAfter edges start rounds).toFinset ⊂ (foundAfter edges start (rounds + 1)).toFinset := by
      refine (Finset.ssubset_iff_of_subset fun z member => ?_).mpr ⟨y, ?_, ?_⟩
      · rw [List.mem_toFinset] at member ⊢
        exact found_mono (Nat.le_succ rounds) member
      · exact List.mem_toFinset.mpr new
      · exact fun absurd => unknown (List.mem_toFinset.mp absurd)
    have more := Finset.card_lt_card grown
    omega

/-- **As many rounds as there are edges find everything that is reached.** -/
theorem mem_found_iff : x ∈ foundAfter edges start edges.length ↔ Reached edges start x := by
  refine ⟨found_sound, fun reached => ?_⟩
  by_cases settled : ∃ rounds ≤ edges.length,
      ∀ y ∈ foundAfter edges start (rounds + 1), y ∈ foundAfter edges start rounds
  · obtain ⟨rounds, order, settled⟩ := settled
    exact found_mono order (found_persists settled reached)
  · -- otherwise every round finds an end of an edge that no earlier one has found
    have discovery : ∀ earlier < edges.length + 1,
        ∃ y ∈ foundAfter edges start (earlier + 1), y ∉ foundAfter edges start earlier := by
      intro earlier order
      push Not at settled
      exact settled earlier (by omega)
    have many := card_found (edges.length + 1) discovery
    have few := Finset.card_le_card (@found_subset _ edges start _ (edges.length + 1))
    have ends := List.toFinset_card_le (start :: edges.map Prod.snd)
    rw [List.length_cons, List.length_map] at ends
    omega

end Reach

end Certinspect.Library
