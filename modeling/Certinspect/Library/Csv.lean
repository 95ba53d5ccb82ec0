/-
**Comma-separated values: the text of a table and its reading.**

A table is written the way `csv.writer` does with its default dialect and lines that end with a line
feed: a cell is quoted when a character in it has a meaning, and a quote in it is doubled. It is read
character by character; behind every line of the file the reader is told that the line is over.

* `CsvDialect` — the separator, and what depends on the interpreter and on how the file is opened.
* `csvText` — the text of a table. `readCsv` — the table of a text, if it is one.
* `readFrom_quoted`, `readFrom_plain` — a cell is read.
* `readFrom_csvText` — rows that come back.
* `spoiled_of_cell` — a cell that does not.
* **`readCsv_csvText_iff`** — a table is read back exactly when its cells come back.
-/

import Mathlib.Data.List.Basic
import Mathlib.Data.List.Infix

namespace Certinspect.Library

/-- A format of tables: the separator of cells; whether a carriage return in a cell is a reason to
quote it, which depends on the interpreter; whether the file is opened so that a carriage return ends
a line; and the characters that a reader takes for one cell at most. -/
structure CsvDialect where
  delimiter : Char
  quotesReturn : Bool
  returnEnds : Bool
  limit : Nat

namespace CsvDialect

variable (dialect : CsvDialect)

/-! ### Writing -/

/-- A character for which a cell is quoted. -/
def isSpecial (c : Char) : Bool :=
  c = dialect.delimiter || c = '"' || c = '\n' || (c = '\r' && dialect.quotesReturn)

/-- A cell that is quoted. -/
def quotes (cell : List Char) : Bool := cell.any dialect.isSpecial

/-- A quoted character. -/
def doubled (c : Char) : List Char := if c = '"' then ['"', '"'] else [c]

/-- A cell. -/
def cellText (cell : List Char) : List Char :=
  if dialect.quotes cell then '"' :: (cell.flatMap doubled ++ ['"']) else cell

/-- The cells of a row; a single empty one is quoted, since its line would have no cell at all. -/
def cellsText : List (List Char) → List Char
  | [] => []
  | [[]] => ['"', '"']
  | first :: rest =>
    dialect.cellText first ++ rest.flatMap fun cell => dialect.delimiter :: dialect.cellText cell

/-- A row. -/
def rowText (row : List (List Char)) : List Char := dialect.cellsText row ++ ['\n']

/-- The text of a table. -/
def csvText (rows : List (List (List Char))) : List Char := rows.flatMap dialect.rowText

end CsvDialect

/-! ### Reading -/

/-- What is being read. -/
inductive CsvMode
  | startRow
  | startCell
  | inCell
  | inQuotes
  /-- Behind a quote in quotes: the first of two, or the end. -/
  | quoteInQuotes
  | lineEnd
  deriving DecidableEq, Repr

/-- A state of the reader: the cell that is being read, the cells of its row and the rows before it. -/
structure CsvState where
  mode : CsvMode
  cell : List Char
  row : List (List Char)
  rows : List (List (List Char))

namespace CsvState

/-- The cell is over. -/
def save (state : CsvState) (mode : CsvMode) : CsvState :=
  { state with mode, cell := [], row := state.row ++ [state.cell] }

/-- The row is over. -/
def emit (state : CsvState) : CsvState := ⟨.startRow, [], [], state.rows ++ [state.row]⟩

/-- The rows at the end of the file; quotes that are still open are closed. -/
def table (last : CsvState) : List (List (List Char)) :=
  match last.mode with
  | .inQuotes => (last.save .startRow).emit.rows
  | _ => last.rows

/-- The end of a line of the file. -/
def endLine (state : CsvState) : CsvState :=
  match state.mode with
  | .startRow | .lineEnd => state.emit
  | .startCell | .inCell | .quoteInQuotes => (state.save .startRow).emit
  | .inQuotes => state

end CsvState

namespace CsvDialect

variable (dialect : CsvDialect)

/-- One more character of a cell. -/
def addChar (state : CsvState) (mode : CsvMode) (c : Char) : Option CsvState :=
  if state.cell.length < dialect.limit then some { state with mode, cell := state.cell ++ [c] } else none

/-- A character where a cell begins. -/
def beginCell (state : CsvState) (c : Char) : Option CsvState :=
  if c = '\n' ∨ c = '\r' then some (state.save .lineEnd)
  else if c = '"' then some { state with mode := .inQuotes }
  else if c = dialect.delimiter then some (state.save .startCell)
  else dialect.addChar state .inCell c

/-- One character. -/
def step (state : CsvState) (c : Char) : Option CsvState :=
  match state.mode with
  | .startRow =>
    if c = '\n' ∨ c = '\r' then some { state with mode := .lineEnd } else dialect.beginCell state c
  | .startCell => dialect.beginCell state c
  | .inCell =>
    if c = '\n' ∨ c = '\r' then some (state.save .lineEnd)
    else if c = dialect.delimiter then some (state.save .startCell)
    else dialect.addChar state .inCell c
  | .inQuotes =>
    if c = '"' then some { state with mode := .quoteInQuotes } else dialect.addChar state .inQuotes c
  | .quoteInQuotes =>
    if c = '"' then dialect.addChar state .inQuotes c
    else if c = dialect.delimiter then some (state.save .startCell)
    else if c = '\n' ∨ c = '\r' then some (state.save .lineEnd)
    else dialect.addChar state .inCell c
  | .lineEnd => if c = '\n' ∨ c = '\r' then some state else none

/-- A line of the file ends with this character. -/
def endsLine (c : Char) (rest : List Char) : Bool :=
  c = '\n' || (dialect.returnEnds && c = '\r' && rest.head? ≠ some '\n') || rest.isEmpty

/-- Every character of a file, with the ends of its lines. -/
def readFrom : CsvState → List Char → Option CsvState
  | state, [] => some state
  | state, c :: rest =>
    (dialect.step state c).bind fun next =>
      readFrom (if dialect.endsLine c rest then next.endLine else next) rest

/-- The table of a file, if it is one. -/
def readCsv (text : List Char) : Option (List (List (List Char))) :=
  (dialect.readFrom ⟨.startRow, [], [], []⟩ text).map CsvState.table

/-- The separator has no meaning of its own. -/
def Separates : Prop := dialect.delimiter ≠ '"' ∧ dialect.delimiter ≠ '\n' ∧ dialect.delimiter ≠ '\r'

instance : Decidable dialect.Separates := inferInstanceAs (Decidable (_ ∧ _))

/-- A cell that comes back: it is not too long, and no carriage return in it is left without quotes. -/
def ComesBack (cell : List Char) : Prop :=
  cell.length ≤ dialect.limit ∧ ('\r' ∈ cell → dialect.quotes cell = true)

instance (cell : List Char) : Decidable (dialect.ComesBack cell) := inferInstanceAs (Decidable (_ ∧ _))

end CsvDialect

example : (⟨',', true, true, 9⟩ : CsvDialect).csvText [["a".toList, "b,\"".toList], [[]]] =
    "a,\"b,\"\"\"\n\"\"\n".toList := by decide

namespace CsvDialect

/-! ### Cells that are read -/

section Cells

variable {dialect : CsvDialect} {mode : CsvMode} {cell text rest : List Char}
  {row : List (List Char)} {rows : List (List (List Char))}

/-- A character is kept where the reader is still within its limit. -/
theorem addChar_eq (state : CsvState) (mode : CsvMode) (c : Char) :
    dialect.addChar state mode c = if state.cell.length + 1 ≤ dialect.limit then
      some ⟨mode, state.cell ++ [c], state.row, state.rows⟩ else none := rfl

theorem readFrom_cons (state : CsvState) (c : Char) (rest : List Char) :
    dialect.readFrom state (c :: rest) = (dialect.step state c).bind fun next =>
      dialect.readFrom (if dialect.endsLine c rest then next.endLine else next) rest := rfl

/-- A line does not end in the middle of a text, except behind a line feed or a carriage return. -/
theorem endsLine_plain {c : Char} (noFeed : c ≠ '\n') (noReturn : c ≠ '\r') (more : rest ≠ []) :
    dialect.endsLine c rest = false := by
  have some : rest.isEmpty = false := List.isEmpty_eq_false_iff.mpr more
  simp only [endsLine, noFeed, noReturn, some, decide_false, Bool.and_false, Bool.false_and,
    Bool.or_false]

theorem endsLine_feed : dialect.endsLine '\n' rest = true := by simp [endsLine]

/-- The reader in quotes does not see that a line is over. -/
theorem endLine_inQuotes : (⟨.inQuotes, cell, row, rows⟩ : CsvState).endLine =
    ⟨.inQuotes, cell, row, rows⟩ := rfl

/-- A character that is no quote is kept in quotes, even the end of a line. -/
theorem readFrom_inQuotes {c : Char} (unquoted : c ≠ '"') :
    dialect.readFrom ⟨.inQuotes, cell, row, rows⟩ (c :: rest) =
      if cell.length + 1 ≤ dialect.limit then
        dialect.readFrom ⟨.inQuotes, cell ++ [c], row, rows⟩ rest else none := by
  rw [readFrom_cons]
  simp only [step, if_neg unquoted, addChar_eq]
  split
  · rw [Option.bind_some, endLine_inQuotes, ite_self]
  · rfl

/-- Two quotes in quotes are one. -/
theorem readFrom_twoQuotes (more : rest ≠ []) :
    dialect.readFrom ⟨.inQuotes, cell, row, rows⟩ ('"' :: '"' :: rest) =
      if cell.length + 1 ≤ dialect.limit then
        dialect.readFrom ⟨.inQuotes, cell ++ ['"'], row, rows⟩ rest else none := by
  have first : dialect.endsLine '"' ('"' :: rest) = false :=
    endsLine_plain (by decide) (by decide) (List.cons_ne_nil _ _)
  have second : dialect.endsLine '"' rest = false := endsLine_plain (by decide) (by decide) more
  rw [readFrom_cons, first]
  simp only [step, if_pos, Option.bind_some, Bool.false_eq_true, if_false]
  rw [readFrom_cons, second]
  simp only [step, if_pos, addChar_eq]
  split <;> rfl

/-- **A quoted cell is read up to its closing quote, unless it is too long.** -/
theorem readFrom_quoted (more : rest ≠ []) (fits : cell.length ≤ dialect.limit) :
    dialect.readFrom ⟨.inQuotes, cell, row, rows⟩ (text.flatMap doubled ++ '"' :: rest) =
      if cell.length + text.length ≤ dialect.limit then
        dialect.readFrom ⟨.quoteInQuotes, cell ++ text, row, rows⟩ rest else none := by
  induction text generalizing cell with
  | nil =>
    have closing : dialect.endsLine '"' rest = false := endsLine_plain (by decide) (by decide) more
    rw [List.flatMap_nil, List.nil_append, List.length_nil, Nat.add_zero, if_pos fits,
      List.append_nil, readFrom_cons, closing]
    simp only [step, if_pos, Option.bind_some, Bool.false_eq_true, if_false]
  | cons c text ih =>
    have next (kept : cell.length + 1 ≤ dialect.limit) :
        dialect.readFrom ⟨.inQuotes, cell ++ [c], row, rows⟩ (text.flatMap doubled ++ '"' :: rest) =
          if cell.length + (c :: text).length ≤ dialect.limit then
            dialect.readFrom ⟨.quoteInQuotes, cell ++ c :: text, row, rows⟩ rest else none := by
      have length : (cell ++ [c]).length = cell.length + 1 := List.length_append
      rw [ih (by omega), length, List.append_assoc, List.singleton_append, List.length_cons,
        Nat.add_assoc, Nat.add_comm 1]
    have full (tooLong : ¬ cell.length + 1 ≤ dialect.limit) :
        ¬ cell.length + (c :: text).length ≤ dialect.limit := by
      rw [List.length_cons]
      omega
    have one : dialect.readFrom ⟨.inQuotes, cell, row, rows⟩
        (doubled c ++ (text.flatMap doubled ++ '"' :: rest)) =
          if cell.length + 1 ≤ dialect.limit then dialect.readFrom ⟨.inQuotes, cell ++ [c], row, rows⟩
            (text.flatMap doubled ++ '"' :: rest) else none := by
      by_cases quote : c = '"'
      · have behind : text.flatMap doubled ++ '"' :: rest ≠ [] :=
          List.append_ne_nil_of_right_ne_nil _ (List.cons_ne_nil _ _)
        rw [quote]
        exact readFrom_twoQuotes behind
      · rw [doubled, if_neg quote, List.singleton_append, readFrom_inQuotes quote]
    rw [List.flatMap_cons, List.append_assoc, one]
    split
    · rename_i kept
      exact next kept
    · rename_i tooLong
      rw [if_neg (full tooLong)]

/-- A character without a meaning. -/
def IsPlain (dialect : CsvDialect) (c : Char) : Prop :=
  c ≠ dialect.delimiter ∧ c ≠ '"' ∧ c ≠ '\n' ∧ c ≠ '\r'

/-- **A cell without quotes is read character by character, unless it is too long.** -/
theorem readFrom_plain (more : rest ≠ []) (fits : cell.length ≤ dialect.limit)
    (plain : ∀ c ∈ text, dialect.IsPlain c) :
    dialect.readFrom ⟨.inCell, cell, row, rows⟩ (text ++ rest) =
      if cell.length + text.length ≤ dialect.limit then
        dialect.readFrom ⟨.inCell, cell ++ text, row, rows⟩ rest else none := by
  induction text generalizing cell with
  | nil => rw [List.nil_append, List.length_nil, Nat.add_zero, if_pos fits, List.append_nil]
  | cons c text ih =>
    obtain ⟨⟨noDelimiter, _, noFeed, noReturn⟩, others⟩ := List.forall_mem_cons.mp plain
    have inside : dialect.endsLine c (text ++ rest) = false :=
      endsLine_plain noFeed noReturn (List.append_ne_nil_of_right_ne_nil _ more)
    have length : (cell ++ [c]).length = cell.length + 1 := List.length_append
    rw [List.cons_append, readFrom_cons, inside, List.length_cons]
    simp only [step, noFeed, noReturn, or_self, if_false, if_neg noDelimiter, addChar_eq,
      Bool.false_eq_true]
    split
    · rename_i kept
      rw [Option.bind_some, ih (by omega) others, length, List.append_assoc, List.singleton_append,
        Nat.add_assoc, Nat.add_comm 1]
    · rw [if_neg (by omega)]
      rfl

/-- Where the reader is behind a cell. -/
def behind (dialect : CsvDialect) (cell : List Char) : CsvMode :=
  if dialect.quotes cell then .quoteInQuotes else if cell = [] then .startCell else .inCell

/-- A mode in which the separator and the end of the line end the cell. -/
def Closes (mode : CsvMode) : Prop := mode = .startCell ∨ mode = .inCell ∨ mode = .quoteInQuotes

theorem closes_behind (cell : List Char) : Closes (dialect.behind cell) := by
  unfold behind
  split
  · exact Or.inr (Or.inr rfl)
  split
  · exact Or.inl rfl
  · exact Or.inr (Or.inl rfl)

/-- A text without quotes, from where the cell begins. -/
theorem readFrom_unquoted (more : rest ≠ []) (plain : ∀ c ∈ text, dialect.IsPlain c) :
    dialect.readFrom ⟨.startCell, [], row, rows⟩ (text ++ rest) =
      if text.length ≤ dialect.limit then
        dialect.readFrom ⟨if text = [] then .startCell else .inCell, text, row, rows⟩ rest
      else none := by
  cases text with
  | nil => rw [List.nil_append, List.length_nil, if_pos (Nat.zero_le _), if_pos rfl]
  | cons c text =>
    obtain ⟨⟨noDelimiter, noQuote, noFeed, noReturn⟩, others⟩ := List.forall_mem_cons.mp plain
    have inside : dialect.endsLine c (text ++ rest) = false :=
      endsLine_plain noFeed noReturn (List.append_ne_nil_of_right_ne_nil _ more)
    rw [List.cons_append, readFrom_cons, inside, if_neg (List.cons_ne_nil c text), List.length_cons]
    simp only [step, beginCell, noFeed, noReturn, or_self, if_false, if_neg noQuote,
      if_neg noDelimiter, addChar_eq, Bool.false_eq_true, List.length_nil, Nat.zero_add,
      List.nil_append]
    split
    · rename_i kept
      have fits : [c].length ≤ dialect.limit := kept
      rw [Option.bind_some, readFrom_plain more fits others, List.length_singleton,
        List.singleton_append, Nat.add_comm 1]
    · rw [if_neg (by omega)]
      rfl

/-- A cell that needs no quotes has no character with a meaning, but for carriage returns. -/
theorem plain_of_quotes (unquoted : dialect.quotes cell = false) :
    ∀ c ∈ cell, c ≠ '\r' → dialect.IsPlain c := by
  intro c member noReturn
  have special : dialect.isSpecial c = false := by
    have none := List.any_eq_false.mp unquoted c member
    simpa using none
  simp only [isSpecial, Bool.or_eq_false_iff, decide_eq_false_iff_not] at special
  exact ⟨special.1.1.1, special.1.1.2, special.1.2, noReturn⟩

/-- **A cell that comes back is read.** -/
theorem readFrom_cell (more : rest ≠ []) (back : dialect.ComesBack cell) :
    dialect.readFrom ⟨.startCell, [], row, rows⟩ (dialect.cellText cell ++ rest) =
      dialect.readFrom ⟨dialect.behind cell, cell, row, rows⟩ rest := by
  unfold cellText behind
  cases quoted : dialect.quotes cell with
  | true =>
    have opening : dialect.endsLine '"' (cell.flatMap doubled ++ '"' :: rest) = false :=
      endsLine_plain (by decide) (by decide)
        (List.append_ne_nil_of_right_ne_nil _ (List.cons_ne_nil _ _))
    have fits : ([] : List Char).length + cell.length ≤ dialect.limit := by
      rw [List.length_nil, Nat.zero_add]
      exact back.1
    rw [if_pos rfl, if_pos rfl, List.cons_append, List.append_assoc, List.singleton_append,
      readFrom_cons, opening]
    simp only [step, beginCell, Bool.false_eq_true, if_false, if_true]
    rw [if_neg (by decide), Option.bind_some, readFrom_quoted more (Nat.zero_le _), if_pos fits,
      List.nil_append]
  | false =>
    have noReturn : '\r' ∉ cell := fun member => by simp [back.2 member] at quoted
    have plain : ∀ c ∈ cell, dialect.IsPlain c := fun c member =>
      plain_of_quotes quoted c member fun same => noReturn (same ▸ member)
    rw [if_neg Bool.false_ne_true, if_neg Bool.false_ne_true, readFrom_unquoted more plain,
      if_pos back.1]

/-- The separator ends a cell. -/
theorem readFrom_delimiter (closes : Closes mode) (separates : dialect.Separates)
    (more : rest ≠ []) :
    dialect.readFrom ⟨mode, cell, row, rows⟩ (dialect.delimiter :: rest) =
      dialect.readFrom ⟨.startCell, [], row ++ [cell], rows⟩ rest := by
  obtain ⟨noQuote, noFeed, noReturn⟩ := separates
  have inside : dialect.endsLine dialect.delimiter rest = false := endsLine_plain noFeed noReturn more
  rw [readFrom_cons, inside]
  rcases closes with rfl | rfl | rfl
  · simp [step, beginCell, noQuote, noFeed, noReturn, CsvState.save]
  · simp [step, noFeed, noReturn, CsvState.save]
  · simp [step, noQuote, CsvState.save]

/-- The line feed ends a cell and its row. -/
theorem readFrom_feed (closes : Closes mode) (separates : dialect.Separates) :
    dialect.readFrom ⟨mode, cell, row, rows⟩ ('\n' :: rest) =
      dialect.readFrom ⟨.startRow, [], [], rows ++ [row ++ [cell]]⟩ rest := by
  rw [readFrom_cons, endsLine_feed]
  rcases closes with rfl | rfl | rfl
  · simp [step, beginCell, CsvState.save, CsvState.endLine, CsvState.emit]
  · simp [step, CsvState.save, CsvState.endLine, CsvState.emit]
  · simp [step, separates.2.1.symm, CsvState.save, CsvState.endLine, CsvState.emit]

/-- A row begins like a cell, unless the line is empty. -/
theorem readFrom_startRow {c : Char} (noFeed : c ≠ '\n') (noReturn : c ≠ '\r') :
    dialect.readFrom ⟨.startRow, cell, row, rows⟩ (c :: rest) =
      dialect.readFrom ⟨.startCell, cell, row, rows⟩ (c :: rest) := by
  simp [readFrom_cons, step, noFeed, noReturn, beginCell, CsvState.save, addChar]

end Cells

/-! ### Tables that come back -/

section Tables

variable {dialect : CsvDialect} {mode : CsvMode} {cell rest : List Char}
  {row others : List (List Char)} {rows table : List (List (List Char))} {last : CsvState}

theorem cellsText_cons (notSingle : ¬ (cell = [] ∧ others = [])) :
    dialect.cellsText (cell :: others) = dialect.cellText cell ++
      others.flatMap fun next => dialect.delimiter :: dialect.cellText next := by
  cases cell with
  | cons c cell => rfl
  | nil =>
    cases others with
    | nil => exact absurd ⟨rfl, rfl⟩ notSingle
    | cons next others => rfl

/-- The rest of a row begins with a separator or is over. -/
theorem cellsRest_ne_nil : (others.flatMap fun next => dialect.delimiter :: dialect.cellText next) ++
    '\n' :: rest ≠ [] :=
  List.append_ne_nil_of_right_ne_nil _ (List.cons_ne_nil _ _)

/-- The other cells of a row are read. -/
theorem readFrom_others (separates : dialect.Separates) (closes : Closes mode)
    (back : ∀ next ∈ others, dialect.ComesBack next) :
    dialect.readFrom ⟨mode, cell, row, rows⟩
        ((others.flatMap fun next => dialect.delimiter :: dialect.cellText next) ++ '\n' :: rest) =
      dialect.readFrom ⟨.startRow, [], [], rows ++ [row ++ cell :: others]⟩ rest := by
  induction others generalizing mode cell row with
  | nil => rw [List.flatMap_nil, List.nil_append, readFrom_feed closes separates]
  | cons next others ih =>
    obtain ⟨first, each⟩ := List.forall_mem_cons.mp back
    rw [List.flatMap_cons, List.cons_append, List.cons_append, List.append_assoc,
      readFrom_delimiter closes separates
        (List.append_ne_nil_of_right_ne_nil _ cellsRest_ne_nil),
      readFrom_cell cellsRest_ne_nil first, ih (closes_behind next) each, List.append_assoc,
      List.singleton_append]

/-- The text of a row whose first cell is empty begins with the separator. -/
theorem readFrom_firstCell (separates : dialect.Separates) (notSingle : ¬ (cell = [] ∧ others = []))
    (noReturn : ∀ c ∈ (dialect.cellText cell).head?, c ≠ '\r') :
    dialect.readFrom ⟨.startRow, [], [], rows⟩ (dialect.cellsText (cell :: others) ++ '\n' :: rest) =
      dialect.readFrom ⟨.startCell, [], [], rows⟩
        (dialect.cellsText (cell :: others) ++ '\n' :: rest) := by
  rw [cellsText_cons notSingle]
  cases text : dialect.cellText cell with
  | cons c more =>
    have noFeed : c ≠ '\n' := by
      rintro rfl
      unfold cellText at text
      split at text
      · cases text
      · rename_i unquoted
        exact unquoted (by simp [quotes, isSpecial, text])
    rw [text] at noReturn
    exact readFrom_startRow noFeed (noReturn c rfl)
  | nil =>
    have empty : cell = [] := by
      unfold cellText at text
      split at text
      · cases text
      · exact text
    cases others with
    | nil => exact absurd ⟨empty, rfl⟩ notSingle
    | cons next others => exact readFrom_startRow separates.2.1 separates.2.2

/-- **A row whose cells come back is read.** -/
theorem readFrom_rowText (separates : dialect.Separates)
    (back : ∀ cell ∈ row, dialect.ComesBack cell) :
    dialect.readFrom ⟨.startRow, [], [], rows⟩ (dialect.rowText row ++ rest) =
      dialect.readFrom ⟨.startRow, [], [], rows ++ [row]⟩ rest := by
  rw [rowText, List.append_assoc, List.singleton_append]
  cases row with
  | nil =>
    rw [cellsText, List.nil_append, readFrom_cons, endsLine_feed]
    rfl
  | cons cell others =>
    obtain ⟨first, each⟩ := List.forall_mem_cons.mp back
    by_cases single : cell = [] ∧ others = []
    · obtain ⟨rfl, rfl⟩ := single
      have opening : dialect.endsLine '"' ('"' :: '\n' :: rest) = false := by simp [endsLine]
      have closing : dialect.endsLine '"' ('\n' :: rest) = false := by simp [endsLine]
      have opened : dialect.step ⟨.startRow, [], [], rows⟩ '"' =
          some ⟨.inQuotes, [], [], rows⟩ := rfl
      have closed : dialect.step ⟨.inQuotes, [], [], rows⟩ '"' =
          some ⟨.quoteInQuotes, [], [], rows⟩ := rfl
      rw [cellsText, List.cons_append, List.singleton_append, readFrom_cons, opening, opened,
        Option.bind_some, if_neg Bool.false_ne_true, readFrom_cons, closing, closed,
        Option.bind_some, if_neg Bool.false_ne_true,
        readFrom_feed (Or.inr (Or.inr rfl)) separates, List.nil_append]
    · have noReturn : ∀ c ∈ (dialect.cellText cell).head?, c ≠ '\r' := by
        rintro c head rfl
        unfold cellText at head
        split at head
        · cases head
        · rename_i unquoted
          exact unquoted (first.2 (List.mem_of_head? head))
      rw [readFrom_firstCell separates single noReturn, cellsText_cons single, List.append_assoc,
        readFrom_cell cellsRest_ne_nil first, readFrom_others separates (closes_behind cell) each,
        List.nil_append]

/-- **A table whose cells come back is read.** -/
theorem readFrom_csvText (separates : dialect.Separates)
    (back : ∀ row ∈ table, ∀ cell ∈ row, dialect.ComesBack cell) :
    dialect.readFrom ⟨.startRow, [], [], rows⟩ (dialect.csvText table) =
      some ⟨.startRow, [], [], rows ++ table⟩ := by
  induction table generalizing rows with
  | nil => rw [csvText, List.flatMap_nil, List.append_nil]; rfl
  | cons row table ih =>
    obtain ⟨first, each⟩ := List.forall_mem_cons.mp back
    have split : dialect.csvText (row :: table) = dialect.rowText row ++ dialect.csvText table := rfl
    rw [split, readFrom_rowText separates first, ih each, List.append_assoc, List.singleton_append]

/-! ### Tables that do not -/

theorem step_rows {state next : CsvState} {c : Char} (read : dialect.step state c = some next) :
    next.rows = state.rows := by
  have added {mode : CsvMode} (added : dialect.addChar state mode c = some next) :
      next.rows = state.rows := by
    rw [addChar_eq] at added
    split at added
    · exact (Option.some.inj added) ▸ rfl
    · cases added
  have begun (begun : dialect.beginCell state c = some next) : next.rows = state.rows := by
    unfold beginCell at begun
    split at begun
    · exact (Option.some.inj begun) ▸ rfl
    split at begun
    · exact (Option.some.inj begun) ▸ rfl
    split at begun
    · exact (Option.some.inj begun) ▸ rfl
    · exact added begun
  unfold step at read
  split at read <;> repeat' split at read
  all_goals first
    | exact (Option.some.inj read) ▸ rfl
    | exact added read
    | exact begun read
    | cases read

theorem endLine_rows (state : CsvState) : state.rows <+: state.endLine.rows := by
  unfold CsvState.endLine CsvState.emit CsvState.save
  split
  all_goals first
    | exact List.prefix_append _ _
    | exact List.prefix_rfl

/-- Rows that have been read stay. -/
theorem readFrom_rows {state : CsvState} {text : List Char}
    (read : dialect.readFrom state text = some last) : state.rows <+: last.rows := by
  induction text generalizing state with
  | nil => exact (Option.some.inj read) ▸ List.prefix_rfl
  | cons c rest ih =>
    obtain ⟨next, taken, others⟩ := Option.bind_eq_some_iff.mp read
    refine List.IsPrefix.trans ?_ (ih others)
    rw [← step_rows taken]
    split
    · exact endLine_rows next
    · exact List.prefix_rfl

theorem table_rows (last : CsvState) : last.rows <+: last.table := by
  unfold CsvState.table CsvState.emit CsvState.save
  split
  · exact List.prefix_append _ _
  · exact List.prefix_rfl

/-- Behind the end of a row there is nothing but the end of the line. -/
theorem readFrom_lineEnd {text : List Char} (more : text ≠ [])
    (read : dialect.readFrom ⟨.lineEnd, cell, row, rows⟩ text = some last) :
    rows ++ [row] <+: last.rows := by
  induction text with
  | nil => exact absurd rfl more
  | cons c rest ih =>
    obtain ⟨next, taken, others⟩ := Option.bind_eq_some_iff.mp read
    have same : next = ⟨.lineEnd, cell, row, rows⟩ := by
      simp only [step] at taken
      split at taken
      · exact (Option.some.inj taken).symm
      · cases taken
    rw [same] at others
    split at others
    · exact readFrom_rows others
    · rename_i inside
      refine ih (fun empty => inside ?_) others
      rw [empty]
      simp [endsLine]

/-- A carriage return ends a row, too. -/
theorem readFrom_return (closes : Closes mode) (separates : dialect.Separates) (more : rest ≠ [])
    (read : dialect.readFrom ⟨mode, cell, row, rows⟩ ('\r' :: rest) = some last) :
    rows ++ [row ++ [cell]] <+: last.rows := by
  have taken : dialect.step ⟨mode, cell, row, rows⟩ '\r' =
      some ⟨.lineEnd, [], row ++ [cell], rows⟩ := by
    rcases closes with rfl | rfl | rfl
    · simp [step, beginCell, CsvState.save]
    · simp [step, CsvState.save]
    · simp [step, separates.2.2.symm, CsvState.save]
  rw [readFrom_cons, taken, Option.bind_some] at read
  split at read
  · exact readFrom_rows read
  · exact readFrom_lineEnd more read

/-- **A cell that does not come back spoils its row**, unless the reader refuses it. -/
theorem spoiled_of_cell (separates : dialect.Separates) (more : rest ≠ [])
    (lost : ¬ dialect.ComesBack cell)
    (read : dialect.readFrom ⟨.startCell, [], row, rows⟩ (dialect.cellText cell ++ rest) =
      some last) :
    ∃ short, short ≠ cell ∧ rows ++ [row ++ [short]] <+: last.rows := by
  cases quoted : dialect.quotes cell with
  | true =>
    have long : ¬ ([] : List Char).length + cell.length ≤ dialect.limit := by
      rw [List.length_nil, Nat.zero_add]
      exact fun fits => lost ⟨fits, fun _ => quoted⟩
    have opening : dialect.endsLine '"' (cell.flatMap doubled ++ '"' :: rest) = false :=
      endsLine_plain (by decide) (by decide)
        (List.append_ne_nil_of_right_ne_nil _ (List.cons_ne_nil _ _))
    have opened : dialect.step ⟨.startCell, [], row, rows⟩ '"' =
        some ⟨.inQuotes, [], row, rows⟩ := rfl
    rw [cellText, if_pos quoted, List.cons_append, List.append_assoc, List.singleton_append,
      readFrom_cons, opening, opened, Option.bind_some, if_neg Bool.false_ne_true,
      readFrom_quoted more (Nat.zero_le _), if_neg long] at read
    cases read
  | false =>
    have unquoted : ¬ dialect.quotes cell = true := by rw [quoted]; exact Bool.false_ne_true
    rw [cellText, if_neg unquoted] at read
    by_cases carriage : '\r' ∈ cell
    · obtain ⟨before, after, split, first⟩ := List.eq_append_cons_of_mem carriage
      have plain : ∀ c ∈ before, dialect.IsPlain c := fun c member =>
        plain_of_quotes quoted c (split ▸ List.mem_append_left _ member)
          fun same => first (same ▸ member)
      have behind : after ++ rest ≠ [] := List.append_ne_nil_of_right_ne_nil _ more
      rw [split, List.append_assoc, List.cons_append,
        readFrom_unquoted (List.cons_ne_nil _ _) plain] at read
      refine ⟨before, fun same => first (same ▸ carriage), ?_⟩
      split at read
      · refine readFrom_return ?_ separates behind read
        split
        · exact Or.inl rfl
        · exact Or.inr (Or.inl rfl)
      · cases read
    · have plain : ∀ c ∈ cell, dialect.IsPlain c := fun c member =>
        plain_of_quotes quoted c member fun same => carriage (same ▸ member)
      have long : ¬ cell.length ≤ dialect.limit := fun fits =>
        lost ⟨fits, fun member => absurd member carriage⟩
      rw [readFrom_unquoted more plain, if_neg long] at read
      cases read

/-- One of the other cells does not come back. -/
theorem spoiled_of_others (separates : dialect.Separates) (closes : Closes mode)
    (lost : ¬ ∀ next ∈ others, dialect.ComesBack next)
    (read : dialect.readFrom ⟨mode, cell, row, rows⟩
      ((others.flatMap fun next => dialect.delimiter :: dialect.cellText next) ++ '\n' :: rest) =
        some last) :
    ∃ wrong, wrong ≠ row ++ cell :: others ∧ rows ++ [wrong] <+: last.rows := by
  induction others generalizing mode cell row with
  | nil => exact absurd (List.forall_mem_nil _) lost
  | cons next others ih =>
    have regroup : row ++ cell :: next :: others = (row ++ [cell]) ++ next :: others := by
      rw [List.append_assoc, List.singleton_append]
    rw [List.flatMap_cons, List.cons_append, List.cons_append, List.append_assoc,
      readFrom_delimiter closes separates
        (List.append_ne_nil_of_right_ne_nil _ cellsRest_ne_nil)] at read
    rw [regroup]
    by_cases first : dialect.ComesBack next
    · rw [readFrom_cell cellsRest_ne_nil first] at read
      exact ih (closes_behind next)
        (fun each => lost (List.forall_mem_cons.mpr ⟨first, each⟩)) read
    · obtain ⟨short, different, begins⟩ :=
        spoiled_of_cell separates cellsRest_ne_nil first read
      refine ⟨_, fun same => different ?_, begins⟩
      exact (List.cons.inj (List.append_cancel_left same)).1

/-- One of the cells of a row does not come back. -/
theorem spoiled_of_row (separates : dialect.Separates)
    (lost : ¬ ∀ cell ∈ row, dialect.ComesBack cell)
    (read : dialect.readFrom ⟨.startRow, [], [], rows⟩ (dialect.rowText row ++ rest) = some last) :
    ∃ wrong, wrong ≠ row ∧ rows ++ [wrong] <+: last.rows := by
  cases row with
  | nil => exact absurd (List.forall_mem_nil _) lost
  | cons cell others =>
    have empty : dialect.ComesBack [] := ⟨Nat.zero_le _, fun member => absurd member List.not_mem_nil⟩
    have notSingle : ¬ (cell = [] ∧ others = []) := by
      rintro ⟨rfl, rfl⟩
      exact lost (List.forall_mem_singleton.mpr empty)
    rw [rowText, List.append_assoc, List.singleton_append] at read
    by_cases carriage : ∀ c ∈ (dialect.cellText cell).head?, c ≠ '\r'
    · rw [readFrom_firstCell separates notSingle carriage, cellsText_cons notSingle,
        List.append_assoc] at read
      by_cases first : dialect.ComesBack cell
      · rw [readFrom_cell cellsRest_ne_nil first] at read
        exact spoiled_of_others separates (closes_behind cell)
          (fun each => lost (List.forall_mem_cons.mpr ⟨first, each⟩)) read
      · obtain ⟨short, different, begins⟩ :=
          spoiled_of_cell separates cellsRest_ne_nil first read
        exact ⟨_, fun same => different (List.cons.inj same).1, begins⟩
    · -- the line is empty, and so is the row that is read
      refine ⟨[], (List.cons_ne_nil _ _).symm, ?_⟩
      obtain ⟨text, begins⟩ : ∃ text, dialect.cellText cell = '\r' :: text := by
        cases text : dialect.cellText cell with
        | nil => simp [text] at carriage
        | cons c more =>
          refine ⟨more, ?_⟩
          simpa [text] using carriage
      rw [cellsText_cons notSingle, begins, List.append_assoc, List.cons_append,
        readFrom_cons] at read
      have taken : dialect.step ⟨.startRow, [], [], rows⟩ '\r' =
          some ⟨.lineEnd, [], [], rows⟩ := rfl
      rw [taken, Option.bind_some] at read
      split at read
      · exact readFrom_rows read
      · exact readFrom_lineEnd (List.append_ne_nil_of_right_ne_nil _ cellsRest_ne_nil) read

/-- One of the cells of a table does not come back. -/
theorem spoiled_of_table (separates : dialect.Separates)
    (lost : ¬ ∀ row ∈ table, ∀ cell ∈ row, dialect.ComesBack cell)
    (read : dialect.readFrom ⟨.startRow, [], [], rows⟩ (dialect.csvText table) = some last) :
    last.table ≠ rows ++ table := by
  induction table generalizing rows with
  | nil => exact absurd (List.forall_mem_nil _) lost
  | cons row table ih =>
    have split : dialect.csvText (row :: table) = dialect.rowText row ++ dialect.csvText table := rfl
    rw [split] at read
    by_cases first : ∀ cell ∈ row, dialect.ComesBack cell
    · rw [readFrom_rowText separates first] at read
      have different := ih (fun each => lost (List.forall_mem_cons.mpr ⟨first, each⟩)) read
      rwa [List.append_assoc, List.singleton_append] at different
    · obtain ⟨wrong, different, begins⟩ := spoiled_of_row separates first read
      intro same
      obtain ⟨others, whole⟩ := begins.trans (table_rows last)
      rw [same, List.append_assoc, List.singleton_append] at whole
      exact different (List.cons.inj (List.append_cancel_left whole)).1

/-- **A table is read back exactly when its cells come back.** -/
theorem readCsv_csvText_iff (separates : dialect.Separates) :
    dialect.readCsv (dialect.csvText table) = some table ↔
      ∀ row ∈ table, ∀ cell ∈ row, dialect.ComesBack cell := by
  constructor
  · intro read
    obtain ⟨last, whole, same⟩ := Option.map_eq_some_iff.mp read
    by_contra lost
    exact spoiled_of_table separates lost whole same
  · intro back
    rw [readCsv, readFrom_csvText separates back]
    rfl

end Tables

end CsvDialect

end Certinspect.Library
