/-
**Texts as lines, lines as cells.**

A separator that occurs inside a part cannot be told from one between two parts. So joined parts come
apart again exactly when none of them contains the separator, and already their number tells.

* `splitOn_intercalate_flatMap` — joined parts come apart into the parts of each.
* `length_splitOn_intercalate_iff` — into as many as were joined exactly when all are free of the
  separator.
* `writtenTable`, `readTable` — a table as text: its rows end in line feeds, its cells are joined by
  tabs.
* **`readTable_writtenTable_iff`** — a table is read back exactly when its cells are clean.
-/

import Mathlib.Data.List.Basic

namespace Certinspect.Library

/-! ### Joining and splitting -/

section Splitting

variable {α : Type} [BEq α] [LawfulBEq α] {x : α} {text : List α} {parts : List (List α)}

/-- Joined parts come apart into the parts of each. -/
theorem splitOn_intercalate_flatMap (some : parts ≠ []) :
    ([x].intercalate parts).splitOn x = parts.flatMap (List.splitOn x) := by
  induction parts with
  | nil => exact (some rfl).elim
  | cons part rest ih =>
    rw [List.flatMap_cons]
    cases rest with
    | nil => simp
    | cons next others =>
      rw [List.intercalate_cons_cons, List.append_assoc, List.singleton_append,
        List.splitOn_append_cons_self, ih (List.cons_ne_nil _ _)]

omit [BEq α] [LawfulBEq α] in
/-- What is in joined parts is the separator or in a part. -/
theorem mem_intercalate {c : α} (member : c ∈ [x].intercalate parts) :
    c = x ∨ ∃ part ∈ parts, c ∈ part := by
  induction parts with
  | nil => cases member
  | cons part rest ih =>
    cases rest with
    | nil =>
      rw [List.intercalate_singleton] at member
      exact Or.inr ⟨part, List.mem_cons_self, member⟩
    | cons next others =>
      rw [List.intercalate_cons_cons, List.append_assoc, List.mem_append, List.mem_append,
        List.mem_singleton] at member
      rcases member with here | same | later
      · exact Or.inr ⟨part, List.mem_cons_self, here⟩
      · exact Or.inl same
      · refine (ih later).imp_right ?_
        exact fun ⟨other, otherIn, inside⟩ => ⟨other, List.mem_cons_of_mem _ otherIn, inside⟩

/-- A part is free of the separator and taken from the text. -/
theorem part_of_mem_splitOn {part : List α} (member : part ∈ text.splitOn x) :
    x ∉ part ∧ part ⊆ text := by
  induction text generalizing part with
  | nil =>
    rw [List.splitOn_eq_singleton List.not_mem_nil, List.mem_singleton] at member
    rw [member]
    exact ⟨List.not_mem_nil, List.Subset.refl _⟩
  | cons c rest ih =>
    rw [List.splitOn_cons_eq_if_modifyHead] at member
    by_cases separator : (c == x) = true
    · rw [if_pos separator, List.mem_cons] at member
      rcases member with rfl | later
      · exact ⟨List.not_mem_nil, List.nil_subset _⟩
      · exact ⟨(ih later).1, List.subset_cons_of_subset _ (ih later).2⟩
    · rw [if_neg separator] at member
      cases split : rest.splitOn x with
      | nil => exact (List.splitOn_ne_nil x rest split).elim
      | cons first others =>
        rw [split, List.modifyHead_cons, List.mem_cons] at member
        rcases member with rfl | later
        · have here := ih (split ▸ List.mem_cons_self : first ∈ rest.splitOn x)
          rw [List.mem_cons, not_or]
          exact ⟨⟨fun same => separator (beq_iff_eq.mpr same.symm), here.1⟩,
            List.cons_subset_cons _ here.2⟩
        · have there := ih (split ▸ List.mem_cons_of_mem _ later)
          exact ⟨there.1, List.subset_cons_of_subset _ there.2⟩

/-- A text has one part exactly when it is free of the separator. -/
theorem length_splitOn_eq_one_iff : (text.splitOn x).length = 1 ↔ x ∉ text := by
  refine ⟨fun single => ?_, fun absent => by rw [List.splitOn_eq_singleton absent]; rfl⟩
  obtain ⟨part, whole⟩ := List.length_eq_one_iff.mp single
  have joined : [x].intercalate (text.splitOn x) = text := List.intercalate_splitOn x
  rw [whole, List.intercalate_singleton] at joined
  rw [← joined]
  exact (part_of_mem_splitOn (whole ▸ List.mem_singleton_self part)).1

theorem length_flatMap_splitOn_iff :
    parts.length ≤ (parts.flatMap (List.splitOn x)).length ∧
      ((parts.flatMap (List.splitOn x)).length = parts.length ↔ ∀ part ∈ parts, x ∉ part) := by
  induction parts with
  | nil => simp
  | cons part rest ih =>
    have some := List.length_pos_iff.mpr (List.splitOn_ne_nil x part)
    have single := @length_splitOn_eq_one_iff _ _ _ x part
    rw [List.flatMap_cons, List.length_append, List.length_cons, List.forall_mem_cons, ← single,
      ← ih.2]
    omega

/-- **As many parts come out as were joined exactly when none has the separator in it.** -/
theorem length_splitOn_intercalate_iff (some : parts ≠ []) :
    (([x].intercalate parts).splitOn x).length = parts.length ↔ ∀ part ∈ parts, x ∉ part := by
  rw [splitOn_intercalate_flatMap some]
  exact length_flatMap_splitOn_iff.2

end Splitting

/-! ### Tables -/

/-- The lines of a text whose lines end in line feeds. -/
def endedLines (text : List Char) : List (List Char) := (text.splitOn '\n').dropLast

/-- A row: its cells, joined by tabs. -/
def writtenRow (row : List String) : String := "\t".intercalate row

/-- A table, each of its rows ended by a line feed. -/
def writtenTable (rows : List (List String)) : String :=
  String.join (rows.map fun row => writtenRow row ++ "\n")

/-- Read a table. -/
def readTable (text : String) : List (List String) :=
  (endedLines text.toList).map fun line => (line.splitOn '\t').map String.ofList

/-- A cell without a separator in it. -/
def CleanCell (cell : String) : Prop := '\t' ∉ cell.toList ∧ '\n' ∉ cell.toList

instance : DecidablePred CleanCell := fun _ => inferInstanceAs (Decidable (_ ∧ _))

section Tables

variable {rows : List (List String)} {text : String}

/-- What is read consists of clean cells. -/
theorem clean_of_readTable {row : List String} {cell : String} (rowIn : row ∈ readTable text)
    (cellIn : cell ∈ row) : CleanCell cell := by
  obtain ⟨line, lineIn, rfl⟩ := List.mem_map.mp rowIn
  obtain ⟨part, partIn, rfl⟩ := List.mem_map.mp cellIn
  obtain ⟨noFeed, _⟩ := part_of_mem_splitOn (List.dropLast_subset _ lineIn)
  obtain ⟨noTab, inside⟩ := part_of_mem_splitOn partIn
  unfold CleanCell
  rw [String.toList_ofList]
  exact ⟨noTab, fun feed => noFeed (inside feed)⟩

/-- A line is read up to the line feed that ends it. -/
theorem endedLines_append {line : List Char} (noFeed : '\n' ∉ line) (rest : List Char) :
    endedLines (line ++ '\n' :: rest) = line :: endedLines rest := by
  unfold endedLines
  rw [List.splitOn_append_cons_self_of_not_mem noFeed,
    List.dropLast_cons_of_ne_nil (List.splitOn_ne_nil _ _)]

/-- The cells of a clean row are read back. -/
theorem cells_writtenRow {row : List String} (filled : row ≠ [])
    (clean : ∀ cell ∈ row, CleanCell cell) :
    ((writtenRow row).toList.splitOn '\t').map String.ofList = row := by
  have noTab : ∀ part ∈ row.map String.toList, '\t' ∉ part := by
    intro part member
    obtain ⟨cell, cellIn, rfl⟩ := List.mem_map.mp member
    exact (clean cell cellIn).1
  have split : (writtenRow row).toList.splitOn '\t' = row.map String.toList := by
    unfold writtenRow
    rw [String.toList_intercalate]
    exact List.splitOn_intercalate '\t' noTab (by simpa using filled)
  rw [split, List.map_map]
  refine (List.map_congr_left fun cell _ => ?_).trans row.map_id
  exact String.ofList_toList

/-- A clean row is on one line. -/
theorem feed_notMem_writtenRow {row : List String} (clean : ∀ cell ∈ row, CleanCell cell) :
    '\n' ∉ (writtenRow row).toList := by
  unfold writtenRow
  rw [String.toList_intercalate]
  intro feed
  rcases mem_intercalate feed with tab | ⟨part, partIn, inside⟩
  · revert tab
    decide
  · obtain ⟨cell, cellIn, rfl⟩ := List.mem_map.mp partIn
    exact (clean cell cellIn).2 inside

/-- Joined parts are no text at all only when there is at most one, and that one is none. -/
theorem intercalate_eq_empty_iff {sep : String} {parts : List String} (some : sep ≠ "") :
    sep.intercalate parts = "" ↔ parts = [] ∨ parts = [""] := by
  cases parts with
  | nil => simp
  | cons first rest =>
    cases rest with
    | nil => simp
    | cons second others =>
      rw [String.intercalate_cons_cons]
      simp [some]

/-- Rows that are joined by line feeds and ended by one are a table. -/
theorem intercalate_rows (some : rows ≠ []) :
    "\n".intercalate (rows.map writtenRow) ++ "\n" = writtenTable rows := by
  unfold writtenTable
  induction rows with
  | nil => exact (some rfl).elim
  | cons row rest ih =>
    cases rest with
    | nil => simp
    | cons next others =>
      have later := ih (List.cons_ne_nil _ _)
      rw [List.map_cons] at later
      rw [List.map_cons, List.map_cons, String.intercalate_cons_cons, String.append_assoc, later]
      simp

/-- **A table is read back exactly when its cells are clean.** -/
theorem readTable_writtenTable_iff (filled : ∀ row ∈ rows, row ≠ []) :
    readTable (writtenTable rows) = rows ↔ ∀ row ∈ rows, ∀ cell ∈ row, CleanCell cell := by
  refine ⟨?_, ?_⟩
  · intro same row rowIn cell cellIn
    exact clean_of_readTable (same.symm ▸ rowIn) cellIn
  · intro clean
    unfold readTable writtenTable
    induction rows with
    | nil => rfl
    | cons row rest ih =>
      obtain ⟨here, others⟩ := List.forall_mem_cons.mp clean
      obtain ⟨some, someOthers⟩ := List.forall_mem_cons.mp filled
      have shape (more : String) : (writtenRow row ++ "\n" ++ more).toList =
          (writtenRow row).toList ++ '\n' :: more.toList := by
        simp
      rw [List.map_cons, String.join_cons, shape,
        endedLines_append (feed_notMem_writtenRow here), List.map_cons,
        cells_writtenRow some here, ih someOthers others]

end Tables

end Certinspect.Library
