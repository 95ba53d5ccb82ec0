/-
**Dictionaries built from pairs.**

A dictionary is a list of entries without two entries of the same key (`AList`). `Dict.ofPairs`
builds one the way a comprehension does: pair by pair, a later pair replacing an earlier one of its
key.

* `lastValue key pairs` — what the last pair of the key says; `lookup_ofPairs` says that this is
  what the dictionary holds.
* `lookup_ofPairs_append` — merging: the second list of pairs wins.
* `lookup_ofPairs_items`, `lookup_ofPairs_filter` — copying a dictionary, whole or for some keys.
* `setItems` — the same where the order of insertion counts; `mem_setItems_iff` — its values are
  those of the last pairs, which `lastValue_iff_split` finds in the list; `nodup_setItems` — under
  distinct keys.
-/

import Mathlib.Data.List.AList
import Mathlib.Data.List.Induction

namespace Certinspect.Library

section Dict

variable {κ α : Type} [DecidableEq κ]

/-- A dictionary. -/
abbrev Dict (κ α : Type) : Type := AList fun _ : κ => α

/-- The pairs of a dictionary. -/
def Dict.items (d : Dict κ α) : List (κ × α) := d.entries.map fun entry => (entry.1, entry.2)

/-- The dictionary of these pairs; a later pair replaces an earlier one of the same key. -/
def Dict.ofPairs (pairs : List (κ × α)) : Dict κ α :=
  pairs.foldl (fun d pair => d.insert pair.1 pair.2) ∅

/-- The value of the last pair of the key. -/
def lastValue (key : κ) (pairs : List (κ × α)) : Option α :=
  pairs.reverse.findSome? fun pair => if pair.1 = key then some pair.2 else none

theorem lastValue_concat (key : κ) (pairs : List (κ × α)) (pair : κ × α) :
    lastValue key (pairs ++ [pair]) =
      if pair.1 = key then some pair.2 else lastValue key pairs := by
  unfold lastValue
  rw [List.reverse_concat, List.findSome?_cons]
  split <;> simp_all

theorem lastValue_append (key : κ) (first second : List (κ × α)) :
    lastValue key (first ++ second) = (lastValue key second).or (lastValue key first) := by
  unfold lastValue
  rw [List.reverse_append, List.findSome?_append]

/-- **A dictionary holds, for each key, the value of its last pair.** -/
theorem lookup_ofPairs (key : κ) (pairs : List (κ × α)) :
    (Dict.ofPairs pairs).lookup key = lastValue key pairs := by
  induction pairs using List.reverseRecOn with
  | nil => rfl
  | append_singleton pairs pair ih =>
    have built : Dict.ofPairs (pairs ++ [pair]) = (Dict.ofPairs pairs).insert pair.1 pair.2 := by
      unfold Dict.ofPairs
      rw [List.foldl_append]
      rfl
    rw [built, lastValue_concat]
    by_cases same : pair.1 = key
    · rw [if_pos same, ← same, AList.lookup_insert]
    · rw [if_neg same, AList.lookup_insert_ne fun other => same other.symm, ih]

/-- Merging two lists of pairs: the second one wins. -/
theorem lookup_ofPairs_append (key : κ) (first second : List (κ × α)) :
    (Dict.ofPairs (first ++ second)).lookup key =
      ((Dict.ofPairs second).lookup key).or ((Dict.ofPairs first).lookup key) := by
  rw [lookup_ofPairs, lookup_ofPairs, lookup_ofPairs, lastValue_append]

theorem mem_items_iff {d : Dict κ α} {key : κ} {value : α} :
    (key, value) ∈ d.items ↔ d.lookup key = some value := by
  unfold Dict.items
  rw [List.mem_map]
  refine ⟨?_, ?_⟩
  · intro found
    obtain ⟨⟨_, _⟩, member, same⟩ := found
    cases same
    exact AList.mem_lookup_iff.mpr member
  · exact fun found => ⟨⟨key, value⟩, AList.mem_lookup_iff.mp found, rfl⟩

/-- Where a key has one value only, that is the last one. -/
theorem lastValue_eq_some_iff {key : κ} {pairs : List (κ × α)} {value : α}
    (unique : ∀ first second, (key, first) ∈ pairs → (key, second) ∈ pairs → first = second) :
    lastValue key pairs = some value ↔ (key, value) ∈ pairs := by
  have member : ∀ found, lastValue key pairs = some found → (key, found) ∈ pairs := by
    intro found last
    obtain ⟨pair, inside, picked⟩ := List.exists_of_findSome?_eq_some last
    split at picked
    · rename_i same
      cases picked
      rw [← same]
      exact List.mem_reverse.mp inside
    · cases picked
  refine ⟨member value, fun inside => ?_⟩
  cases last : lastValue key pairs with
  | some found => rw [unique found value (member found last) inside]
  | none =>
    have absent := List.findSome?_eq_none_iff.mp last (key, value) (List.mem_reverse.mpr inside)
    rw [if_pos rfl] at absent
    cases absent

/-- **Copying a dictionary for some of its keys.** -/
theorem lookup_ofPairs_filter (d : Dict κ α) (keep : κ → Bool) (key : κ) :
    (Dict.ofPairs (d.items.filter fun item => keep item.1)).lookup key =
      if keep key then d.lookup key else none := by
  have kept : ∀ value, (key, value) ∈ d.items.filter (fun item => keep item.1) ↔
      d.lookup key = some value ∧ keep key = true := by
    intro value
    rw [List.mem_filter, mem_items_iff]
  have unique : ∀ first second, (key, first) ∈ d.items.filter (fun item => keep item.1) →
      (key, second) ∈ d.items.filter (fun item => keep item.1) → first = second := by
    intro first second left right
    have same := ((kept first).mp left).1.symm.trans ((kept second).mp right).1
    exact Option.some.inj same
  rw [lookup_ofPairs]
  apply Option.ext
  intro value
  rw [lastValue_eq_some_iff unique, kept]
  split
  · rename_i holds
    simp [holds]
  · rename_i drops
    simp [drops]

/-- Copying a dictionary. -/
theorem lookup_ofPairs_items (d : Dict κ α) (key : κ) :
    (Dict.ofPairs d.items).lookup key = d.lookup key := by
  have all := lookup_ofPairs_filter d (fun _ => true) key
  rwa [List.filter_true, if_pos rfl] at all

/-- **The last pair of a key, by a split of the list.** -/
theorem lastValue_iff_split {key : κ} {pairs : List (κ × α)} {value : α} :
    lastValue key pairs = some value ↔ ∃ before after, pairs = before ++ (key, value) :: after ∧
      ∀ pair ∈ after, pair.1 ≠ key := by
  induction pairs using List.reverseRecOn with
  | nil => exact ⟨fun absurd => (by cases absurd), fun ⟨_, _, absurd, _⟩ => (by simp at absurd)⟩
  | append_singleton pairs pair ih =>
    rw [lastValue_concat]
    by_cases same : pair.1 = key
    · rw [if_pos same]
      refine ⟨?_, ?_⟩
      · intro last
        cases last
        exact ⟨pairs, [], by rw [← same], fun _ absurd => by cases absurd⟩
      · intro found
        obtain ⟨before, after, split, later⟩ := found
        rcases List.eq_nil_or_concat after with rfl | ⟨rest, last, rfl⟩
        · obtain ⟨_, rfl⟩ := List.append_singleton_inj.mp split
          rfl
        · have ends : pairs ++ [pair] = (before ++ (key, value) :: rest) ++ [last] := by
            rw [split]
            simp
          obtain ⟨_, rfl⟩ := List.append_singleton_inj.mp ends
          exact (later pair (by simp) same).elim
    · rw [if_neg same, ih]
      refine ⟨?_, ?_⟩
      · intro found
        obtain ⟨before, after, rfl, later⟩ := found
        refine ⟨before, after ++ [pair], by simp, fun other member => ?_⟩
        rcases List.mem_append.mp member with inside | last
        · exact later other inside
        · rw [List.mem_singleton.mp last]
          exact same
      · intro found
        obtain ⟨before, after, split, later⟩ := found
        rcases List.eq_nil_or_concat after with rfl | ⟨rest, last, rfl⟩
        · obtain ⟨_, rfl⟩ := List.append_singleton_inj.mp split
          exact (same rfl).elim
        · have ends : pairs ++ [pair] = (before ++ (key, value) :: rest) ++ [last] := by
            rw [split]
            simp
          obtain ⟨rfl, rfl⟩ := List.append_singleton_inj.mp ends
          exact ⟨before, rest, rfl, fun other member => later other (by simp [member])⟩

/-! ### In the order of insertion -/

/-- `d[key] = value`: a key that is there keeps its place. -/
def setItem (key : κ) (value : α) (d : List (κ × α)) : List (κ × α) :=
  if key ∈ d.map Prod.fst then d.map fun item => if item.1 = key then (key, value) else item
  else d ++ [(key, value)]

/-- The dictionary of these pairs, in the order in which its keys were first set. -/
def setItems (pairs : List (κ × α)) : List (κ × α) :=
  pairs.foldl (fun d pair => setItem pair.1 pair.2 d) []

theorem mem_setItem_iff {key other : κ} {value found : α} {d : List (κ × α)} :
    (other, found) ∈ setItem key value d ↔
      if other = key then found = value else (other, found) ∈ d := by
  unfold setItem
  by_cases present : key ∈ d.map Prod.fst
  · rw [if_pos present, List.mem_map]
    refine ⟨?_, ?_⟩
    · intro member
      obtain ⟨item, inside, replaced⟩ := member
      by_cases here : item.1 = key
      · rw [if_pos here] at replaced
        cases replaced
        rw [if_pos rfl]
      · rw [if_neg here] at replaced
        subst replaced
        rw [if_neg here]
        exact inside
    · intro holds
      by_cases here : other = key
      · rw [if_pos here] at holds
        obtain ⟨item, inside, same⟩ := List.mem_map.mp present
        exact ⟨item, inside, by rw [if_pos same, here, holds]⟩
      · rw [if_neg here] at holds
        exact ⟨_, holds, if_neg here⟩
  · rw [if_neg present, List.mem_append, List.mem_singleton, Prod.mk.injEq]
    by_cases here : other = key
    · have absent : (other, found) ∉ d := fun member =>
        present (here ▸ List.mem_map_of_mem (f := Prod.fst) member)
      rw [if_pos here]
      exact ⟨fun either => either.elim (fun member => (absent member).elim) And.right,
        fun same => Or.inr ⟨here, same⟩⟩
    · simp [here]

theorem setItems_concat (pairs : List (κ × α)) (pair : κ × α) :
    setItems (pairs ++ [pair]) = setItem pair.1 pair.2 (setItems pairs) := by
  unfold setItems
  rw [List.foldl_append]
  rfl

/-- **The values are those of the last pairs.** -/
theorem mem_setItems_iff {key : κ} {value : α} {pairs : List (κ × α)} :
    (key, value) ∈ setItems pairs ↔ lastValue key pairs = some value := by
  induction pairs using List.reverseRecOn with
  | nil => exact ⟨fun absurd => (by cases absurd), fun absurd => (by cases absurd)⟩
  | append_singleton pairs pair ih =>
    rw [setItems_concat, mem_setItem_iff, lastValue_concat, ih]
    by_cases same : pair.1 = key
    · rw [if_pos same.symm, if_pos same, Option.some.injEq, eq_comm]
    · rw [if_neg fun other => same other.symm, if_neg same]

theorem map_fst_setItem (key : κ) (value : α) (d : List (κ × α)) :
    (setItem key value d).map Prod.fst =
      if key ∈ d.map Prod.fst then d.map Prod.fst else d.map Prod.fst ++ [key] := by
  unfold setItem
  split
  · rw [List.map_map]
    refine List.map_congr_left fun item _ => ?_
    show (if item.1 = key then (key, value) else item).1 = item.1
    split
    · rename_i here
      exact here.symm
    · rfl
  · rw [List.map_append]
    rfl

/-- Every key is there once. -/
theorem nodup_setItems (pairs : List (κ × α)) : ((setItems pairs).map Prod.fst).Nodup := by
  induction pairs using List.reverseRecOn with
  | nil => exact List.nodup_nil
  | append_singleton pairs pair ih =>
    rw [setItems_concat, map_fst_setItem]
    split
    · exact ih
    · rename_i fresh
      exact List.nodup_append.mpr ⟨ih, List.nodup_singleton _, fun key inside other own same =>
        fresh (List.mem_singleton.mp own ▸ same ▸ inside)⟩

end Dict

end Certinspect.Library
