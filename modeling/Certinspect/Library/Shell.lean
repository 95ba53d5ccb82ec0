/-
**The words of a shell command.**

A POSIX shell reads a command character by character. Blanks separate its words; between single quotes
every character stands for itself; a backslash quotes the next character, and before a line feed it
continues the line. Other characters outside quotes either stand for themselves (`isBareChar`) or have a
meaning, and then the command is not read here.

* `ShellState.step`, `readWords` — the reading.
* `singleQuoted` — a text between single quotes.
* `run_singleQuoted`, `run_bare` — how a quoted word and a bare word are read.
* **`readWords_append`** — a command is read word by word.
-/

import Mathlib.Data.List.Basic

namespace Certinspect.Library

/-! ### The reading -/

/-- Where the reader is. -/
inductive ShellMode
  | between
  | bare
  | single
  | escaped (inside : Bool)

/-- The word that is read and the words before. -/
structure ShellState where
  mode : ShellMode
  word : List Char
  words : List (List Char)

/-- A character that stands for itself outside quotes. -/
def isBareChar (c : Char) : Bool := c.isAlphanum || c == '-' || c == '_'

namespace ShellState

/-- The next character. -/
def step (s : ShellState) (c : Char) : Option ShellState :=
  match s.mode with
  | .between =>
    if c = ' ' then some s
    else if c = '\'' then some { s with mode := .single }
    else if c = '\\' then some { s with mode := .escaped false }
    else if isBareChar c then some { s with mode := .bare, word := s.word ++ [c] }
    else none
  | .bare =>
    if c = ' ' then some ⟨.between, [], s.words ++ [s.word]⟩
    else if c = '\'' then some { s with mode := .single }
    else if c = '\\' then some { s with mode := .escaped true }
    else if isBareChar c then some { s with word := s.word ++ [c] }
    else none
  | .single =>
    if c = '\'' then some { s with mode := .bare } else some { s with word := s.word ++ [c] }
  | .escaped inside =>
    if c = '\n' then some { s with mode := if inside then .bare else .between }
    else some { s with mode := .bare, word := s.word ++ [c] }

/-- The words, when the command may end here. -/
def finish (s : ShellState) : Option (List (List Char)) :=
  match s.mode with
  | .between => some s.words
  | .bare => some (s.words ++ [s.word])
  | _ => none

end ShellState

/-- The words of a command. -/
def readWords (command : List Char) : Option (List (List Char)) :=
  (command.foldlM ShellState.step ⟨.between, [], []⟩).bind ShellState.finish

/-! ### Quoting -/

/-- A text between single quotes, with each quote in it outside of them. -/
def singleQuoted (text : List Char) : List Char :=
  '\'' :: text.flatMap (fun c => if c = '\'' then ['\'', '\\', '\'', '\''] else [c]) ++ ['\'']

section Reading

variable {word text rest : List Char} {words : List (List Char)}

/-- Between the quotes every character is read as it is. -/
theorem run_quotedText : (text.flatMap fun c => if c = '\'' then ['\'', '\\', '\'', '\''] else [c]).foldlM
    ShellState.step ⟨.single, word, words⟩ = some ⟨.single, word ++ text, words⟩ := by
  induction text generalizing word with
  | nil => rw [List.append_nil]; rfl
  | cons c text ih =>
    rw [List.flatMap_cons, List.foldlM_append]
    have first : (if c = '\'' then ['\'', '\\', '\'', '\''] else [c]).foldlM ShellState.step
        ⟨.single, word, words⟩ = some ⟨.single, word ++ [c], words⟩ := by
      by_cases quote : c = '\''
      · rw [quote]
        rfl
      · simp only [if_neg quote, List.foldlM_cons, List.foldlM_nil, ShellState.step]
        rfl
    rw [first]
    exact ih.trans (by rw [List.append_assoc]; rfl)

/-- A quoted word. -/
theorem run_singleQuoted : (singleQuoted text).foldlM ShellState.step ⟨.between, [], words⟩ =
    some ⟨.bare, text, words⟩ := by
  unfold singleQuoted
  rw [List.cons_append, List.foldlM_cons]
  show (_ ++ ['\'']).foldlM ShellState.step ⟨.single, [], words⟩ = _
  rw [List.foldlM_append, run_quotedText]
  rfl

/-- A character that stands for itself is no blank and quotes nothing. -/
theorem isBareChar_other {c : Char} (bare : isBareChar c = true) : c ≠ ' ' ∧ c ≠ '\'' ∧ c ≠ '\\' := by
  refine ⟨?_, ?_, ?_⟩ <;> rintro rfl <;> revert bare <;> decide

/-- The rest of a bare word. -/
theorem run_bareRest (bare : ∀ c ∈ text, isBareChar c = true) :
    text.foldlM ShellState.step ⟨.bare, word, words⟩ = some ⟨.bare, word ++ text, words⟩ := by
  induction text generalizing word with
  | nil => rw [List.append_nil]; rfl
  | cons c text ih =>
    obtain ⟨own, others⟩ := List.forall_mem_cons.mp bare
    obtain ⟨blank, quote, slash⟩ := isBareChar_other own
    have first : ShellState.step ⟨.bare, word, words⟩ c = some ⟨.bare, word ++ [c], words⟩ := by
      simp only [ShellState.step, if_neg blank, if_neg quote, if_neg slash, if_pos own]
    rw [List.foldlM_cons, first]
    exact (ih others).trans (by rw [List.append_assoc]; rfl)

/-- A bare word. -/
theorem run_bare (bare : ∀ c ∈ text, isBareChar c = true) (filled : text ≠ []) :
    text.foldlM ShellState.step ⟨.between, [], words⟩ = some ⟨.bare, text, words⟩ := by
  cases text with
  | nil => exact (filled rfl).elim
  | cons c text =>
    obtain ⟨own, others⟩ := List.forall_mem_cons.mp bare
    obtain ⟨blank, quote, slash⟩ := isBareChar_other own
    have first : ShellState.step ⟨.between, [], words⟩ c = some ⟨.bare, [c], words⟩ := by
      simp only [ShellState.step, if_neg blank, if_neg quote, if_neg slash, if_pos own]
      rfl
    rw [List.foldlM_cons, first]
    exact run_bareRest others

/-- More words, each written after a gap. -/
theorem run_words {gap : List Char} {written : List Char → List Char} {texts : List (List Char)}
    (apart : ∀ word words, gap.foldlM ShellState.step ⟨.bare, word, words⟩ =
      some ⟨.between, [], words ++ [word]⟩)
    (reads : ∀ text ∈ texts, ∀ words, (written text).foldlM ShellState.step ⟨.between, [], words⟩ =
      some ⟨.bare, text, words⟩) :
    (texts.flatMap fun text => gap ++ written text).foldlM ShellState.step ⟨.bare, word, words⟩ =
      some ⟨.bare, (word :: texts).getLast (List.cons_ne_nil _ _), words ++ (word :: texts).dropLast⟩ := by
  induction texts generalizing word words with
  | nil => rw [List.dropLast_singleton, List.append_nil]; rfl
  | cons text texts ih =>
    obtain ⟨own, others⟩ := List.forall_mem_cons.mp reads
    rw [List.flatMap_cons, List.foldlM_append, List.foldlM_append, apart]
    show ((written text).foldlM ShellState.step ⟨.between, [], words ++ [word]⟩ >>= _) = _
    rw [own]
    refine (ih others).trans ?_
    rw [List.append_assoc]
    rfl

/-- **A command, and more words after it.** -/
theorem readWords_append {command gap : List Char} {written : List Char → List Char}
    {texts : List (List Char)}
    (begun : command.foldlM ShellState.step ⟨.between, [], []⟩ = some ⟨.bare, word, words⟩)
    (apart : ∀ word words, gap.foldlM ShellState.step ⟨.bare, word, words⟩ =
      some ⟨.between, [], words ++ [word]⟩)
    (reads : ∀ text ∈ texts, ∀ words, (written text).foldlM ShellState.step ⟨.between, [], words⟩ =
      some ⟨.bare, text, words⟩) :
    readWords (command ++ texts.flatMap fun text => gap ++ written text) =
      some (words ++ word :: texts) := by
  unfold readWords
  rw [List.foldlM_append, begun]
  show ((texts.flatMap _).foldlM ShellState.step ⟨.bare, word, words⟩).bind ShellState.finish = _
  rw [run_words apart reads, Option.bind_some]
  show some (_ ++ [_]) = _
  rw [List.append_assoc, List.dropLast_append_getLast]

end Reading

end Certinspect.Library
