/-
**The text of any JSON value.**

A value is written with every element and every member on a line of its own, two blanks further in than
what holds it, and with the characters of strings as they are, except those that JSON escapes.

* `quoted` — a string. `Json.text` — a value, at a depth. `Json.literals` — the numbers in it.
* `run_quoted` — a string is read.
* `run_text` — a value is read, wherever it stands.
* **`readJson_text`** — a text is read back, when its numbers are numbers.
-/

import Certinspect.Library.Json
import Mathlib.Data.List.TakeWhile

namespace Certinspect.Library

/-! ### Writing -/

/-- One character of a string that need not be ASCII. -/
def quotedChar (c : Char) : List Char :=
  if c = '"' ∨ c = '\\' then ['\\', c]
  else if c = '\n' then ['\\', 'n']
  else if c = '\r' then ['\\', 'r']
  else if c = '\t' then ['\\', 't']
  else if c.toNat = 12 then ['\\', 'f']
  else if c.toNat = 8 then ['\\', 'b']
  else if c.toNat < 32 then writtenUnit c.toNat
  else [c]

/-- A string that need not be ASCII. -/
def quoted (text : String) : List Char := '"' :: (text.toList.flatMap quotedChar ++ ['"'])

/-- A line feed and the blanks of the next line. -/
def newline (depth : Nat) : List Char := '\n' :: List.replicate (2 * depth) ' '

mutual

/-- A value, so many levels in. -/
def Json.text (depth : Nat) : Json → List Char
  | .null => ['n', 'u', 'l', 'l']
  | .boolean true => ['t', 'r', 'u', 'e']
  | .boolean false => ['f', 'a', 'l', 's', 'e']
  | .number literal => literal.toList
  | .string value => quoted value
  | .array [] => ['[', ']']
  | .array (first :: rest) =>
    '[' :: (newline (depth + 1) ++ (first.text (depth + 1) ++
      (elementsText (depth + 1) rest ++ (newline depth ++ [']']))))
  | .object [] => ['{', '}']
  | .object ((key, value) :: rest) =>
    '{' :: (newline (depth + 1) ++ (quoted key ++ ':' :: ' ' :: (value.text (depth + 1) ++
      (membersText (depth + 1) rest ++ (newline depth ++ ['}'])))))

/-- The elements of an array after the first one. -/
def elementsText (depth : Nat) : List Json → List Char
  | [] => []
  | next :: rest => ',' :: (newline depth ++ (next.text depth ++ elementsText depth rest))

/-- The members of an object after the first one. -/
def membersText (depth : Nat) : List (String × Json) → List Char
  | [] => []
  | (key, value) :: rest =>
    ',' :: (newline depth ++ (quoted key ++ ':' :: ' ' :: (value.text depth ++
      membersText depth rest)))

end

mutual

/-- The numbers in a value. -/
def Json.literals : Json → List String
  | .number literal => [literal]
  | .array elements => elementsLiterals elements
  | .object members => membersLiterals members
  | _ => []

/-- The numbers in the elements of an array. -/
def elementsLiterals : List Json → List String
  | [] => []
  | next :: rest => next.literals ++ elementsLiterals rest

/-- The numbers in the members of an object. -/
def membersLiterals : List (String × Json) → List String
  | [] => []
  | (_, value) :: rest => value.literals ++ membersLiterals rest

end

/-- A text that is read as a number. -/
def IsLiteral (maxDigits : Nat) (literal : String) : Prop :=
  isNumber maxDigits literal.toList = true ∧ ∀ c ∈ literal.toList, isNumeric c = true

instance (maxDigits : Nat) : DecidablePred (IsLiteral maxDigits) :=
  fun _ => inferInstanceAs (Decidable (_ ∧ _))

/-- The numbers of a value are numbers. -/
def Json.Numeric (maxDigits : Nat) (value : Json) : Prop :=
  ∀ literal ∈ value.literals, IsLiteral maxDigits literal

instance (maxDigits : Nat) : DecidablePred (Json.Numeric maxDigits) :=
  fun _ => inferInstanceAs (Decidable (∀ _ ∈ _, _))

/-! ### Integers are numbers -/

section Integers

variable {maxDigits n : Nat}

/-- A numeral has no zero before it. -/
theorem head_toDigits (positive : 0 < n) : (Nat.toDigits 10 n).head? ≠ some '0' := by
  induction n using Nat.strongRecOn with
  | ind n ih =>
    rw [Nat.toDigits_eq_if (by decide)]
    split
    · rename_i small
      have single : ∀ digit : Fin 10, 0 < digit.val → Nat.digitChar digit.val ≠ '0' := by decide
      simpa using single ⟨n, small⟩ positive
    · rename_i large
      have before : (Nat.toDigits 10 (n / 10)).head? ≠ some '0' := ih (n / 10) (by omega) (by omega)
      rwa [List.head?_append_of_ne_nil _ Nat.toDigits_ne_nil]

theorem isDigit_toDigits : ∀ c ∈ Nat.toDigits 10 n, c.isDigit = true :=
  fun _ member => Nat.isDigit_of_mem_toDigits (by decide) (by decide) member

/-- What `isNumber` asks of digits. -/
theorem integral_toDigits (some : 0 < maxDigits) (few : n < 10 ^ maxDigits) :
    (Nat.toDigits 10 n = ['0'] ∨ (Nat.toDigits 10 n).head? ≠ Option.some '0') ∧
      (Nat.toDigits 10 n).length ≤ maxDigits := by
  refine ⟨?_, (Nat.length_toDigits_le_iff (by decide) some).mpr few⟩
  by_cases zero : n = 0
  · left
    rw [zero, Nat.toDigits_zero]
  · exact Or.inr (head_toDigits (by omega))

theorem isNumber_toDigits (some : 0 < maxDigits) (few : n < 10 ^ maxDigits) :
    isNumber maxDigits (Nat.toDigits 10 n) = true ∧
      isNumber maxDigits ('-' :: Nat.toDigits 10 n) = true := by
  obtain ⟨leading, length⟩ := integral_toDigits some few
  have taken : (Nat.toDigits 10 n).takeWhile Char.isDigit = Nat.toDigits 10 n :=
    List.takeWhile_eq_self_iff.mpr isDigit_toDigits
  have dropped : (Nat.toDigits 10 n).dropWhile Char.isDigit = [] :=
    List.dropWhile_eq_nil_iff.mpr isDigit_toDigits
  have unsigned : Nat.toDigits 10 n ≠ [] := Nat.toDigits_ne_nil
  unfold isNumber
  refine ⟨?_, ?_⟩
  · dsimp only
    split
    · rename_i rest same
      have digit : '-'.isDigit = true :=
        (isDigit_toDigits : ∀ c ∈ Nat.toDigits 10 n, c.isDigit = true) '-'
          (by rw [same]; exact List.mem_cons_self)
      exact absurd digit (by decide)
    · simp [taken, dropped, unsigned, leading, length, isFraction, isExponent]
  · simp [taken, dropped, unsigned, leading, length, isFraction, isExponent]

/-- **An integer of so many digits at most is a number.** -/
theorem isLiteral_int (some : 0 < maxDigits) {number : Int} (few : number.natAbs < 10 ^ maxDigits) :
    IsLiteral maxDigits (toString number) := by
  have numeric : ∀ c ∈ (toString number).toList, isNumeric c = true := by
    intro c member
    rcases mem_repr member with digit | sign
    · simp [isNumeric, digit]
    · rw [sign]
      decide
  refine ⟨?_, numeric⟩
  show isNumber maxDigits number.repr.toList = true
  rw [Int.repr_eq_if]
  split
  · rename_i positive
    have same : number.toNat = number.natAbs := by omega
    rw [Nat.toList_repr, same]
    exact (isNumber_toDigits some few).1
  · rename_i negative
    have same : (-number).toNat = number.natAbs := by omega
    rw [String.toList_append, Nat.toList_repr, same]
    exact (isNumber_toDigits some few).2

/-- **The integers that are numbers.** -/
theorem isLiteral_int_iff (some : 0 < maxDigits) {number : Int} :
    IsLiteral maxDigits (toString number) ↔ number.natAbs < 10 ^ maxDigits := by
  refine ⟨fun isLiteral => ?_, isLiteral_int some⟩
  have isNumber : isNumber maxDigits number.repr.toList = true := isLiteral.1
  have few {n : Nat} {rest : List Char} (same : rest = Nat.toDigits 10 n)
      (counted : rest.dropWhile Char.isDigit ≠ [] ∨
        (rest.takeWhile Char.isDigit).length ≤ maxDigits) : n < 10 ^ maxDigits := by
    have taken : rest.takeWhile Char.isDigit = rest :=
      List.takeWhile_eq_self_iff.mpr (same ▸ isDigit_toDigits)
    have dropped : rest.dropWhile Char.isDigit = [] :=
      List.dropWhile_eq_nil_iff.mpr (same ▸ isDigit_toDigits)
    rw [taken, dropped, same] at counted
    exact (Nat.length_toDigits_le_iff (by decide) some).mp (counted.resolve_left fun no => no rfl)
  rw [Int.repr_eq_if] at isNumber
  split at isNumber
  · rename_i positive
    have same : number.toNat = number.natAbs := by omega
    rw [Nat.toList_repr, same] at isNumber
    unfold Library.isNumber at isNumber
    dsimp only at isNumber
    split at isNumber
    · rename_i rest minus
      have digit : '-'.isDigit = true :=
        (isDigit_toDigits : ∀ c ∈ Nat.toDigits 10 number.natAbs, c.isDigit = true) '-'
          (by rw [minus]; exact List.mem_cons_self)
      exact absurd digit (by decide)
    · simp only [Bool.and_eq_true, Bool.or_eq_true, decide_eq_true_eq] at isNumber
      exact few rfl isNumber.2
  · rename_i negative
    have same : (-number).toNat = number.natAbs := by omega
    rw [String.toList_append, Nat.toList_repr, same] at isNumber
    simp only [Library.isNumber, Bool.and_eq_true, Bool.or_eq_true, decide_eq_true_eq] at isNumber
    exact few rfl isNumber.2

end Integers

/-! ### Strings are read -/

open Reading

section Strings

variable {maxDigits : Nat} {stack : List Frame} {units : List Nat} {isKey : Bool}

/-- The units of characters that are taken one for one. -/
theorem joinUnits_toNat (text : List Char) : joinUnits (text.map Char.toNat) = text := by
  induction text with
  | nil => rfl
  | cons c rest ih => rw [List.map_cons, joinUnits_plain, ih]

/-- An escape of a single letter is read. -/
theorem run_letter {letter : Char} {unit : Nat} (escaped : escapedUnit letter = some unit)
    (noHex : letter ≠ 'u') :
    run maxDigits ⟨stack, .text units isKey⟩ ['\\', letter] =
      some ⟨stack, .text (unit :: units) isKey⟩ := by
  have mark : step maxDigits ⟨stack, .text units isKey⟩ '\\' =
      some ⟨stack, .escape units isKey⟩ := rfl
  have letter : step maxDigits ⟨stack, .escape units isKey⟩ letter =
      some ⟨stack, .text (unit :: units) isKey⟩ := by
    simp only [step, if_neg noHex, escaped, Option.map_some]
  simp only [run_cons, run_nil, mark, letter, Option.bind_some]

theorem run_quotedChar (c : Char) :
    run maxDigits ⟨stack, .text units isKey⟩ (quotedChar c) =
      some ⟨stack, .text (c.toNat :: units) isKey⟩ := by
  unfold quotedChar
  split
  · rename_i marked
    rcases marked with rfl | rfl <;> exact run_letter rfl (by decide)
  rename_i unmarked
  obtain ⟨noQuote, noBackslash⟩ := not_or.mp unmarked
  split
  · rename_i same
    rw [same]
    exact run_letter rfl (by decide)
  split
  · rename_i same
    rw [same]
    exact run_letter rfl (by decide)
  split
  · rename_i same
    rw [same]
    exact run_letter rfl (by decide)
  split
  · rename_i same
    rw [same]
    exact run_letter rfl (by decide)
  split
  · rename_i same
    rw [same]
    exact run_letter rfl (by decide)
  split
  · exact run_writtenUnit (by omega)
  · rename_i printed
    have taken : step maxDigits ⟨stack, .text units isKey⟩ c =
        some ⟨stack, .text (c.toNat :: units) isKey⟩ := by
      simp only [step, if_neg noQuote, if_neg noBackslash, if_neg printed]
    rw [run_cons, taken, Option.bind_some, run_nil]

/-- **A string is read**, as a key or as a value. -/
theorem run_quoted (text : String) (stack : List Frame) (isKey : Bool) :
    run maxDigits ⟨stack, .text [] isKey⟩ (text.toList.flatMap quotedChar ++ ['"']) =
      some (if isKey then ⟨stack, .colon text⟩ else ⟨stack, .after (.string text)⟩) := by
  have characters (chars : List Char) (units : List Nat) :
      run maxDigits ⟨stack, .text units isKey⟩ (chars.flatMap quotedChar) =
        some ⟨stack, .text ((chars.map Char.toNat).reverse ++ units) isKey⟩ := by
    induction chars generalizing units with
    | nil => rfl
    | cons c rest ih =>
      rw [List.flatMap_cons, run_append, run_quotedChar, Option.bind_some, ih, List.map_cons,
        List.reverse_cons, List.append_assoc, List.singleton_append]
  have close : step maxDigits ⟨stack, .text (text.toList.map Char.toNat).reverse isKey⟩ '"' =
      some (if isKey then ⟨stack, .colon text⟩ else ⟨stack, .after (.string text)⟩) := by
    have joined : String.ofList (joinUnits (text.toList.map Char.toNat).reverse.reverse) = text := by
      rw [List.reverse_reverse, joinUnits_toNat, String.ofList_toList]
    show some (ended stack _ isKey) = _
    unfold ended
    dsimp only
    rw [joined]
  rw [run_append, characters, Option.bind_some, List.append_nil, run_cons, close, Option.bind_some,
    run_nil]

end Strings

/-! ### Values are read -/

section Values

variable {maxDigits : Nat} {stack : List Frame} {value : Json} {orEnd : Bool} {c : Char}

/-- Where the reader is behind a value: a number is only known to be over when something follows. -/
def behindValue (stack : List Frame) : Json → Reading
  | .number literal => ⟨stack, .number literal.toList.reverse⟩
  | value => ⟨stack, .after value⟩

/-- What follows a value. -/
theorem step_behindValue (numeric : value.Numeric maxDigits) (noNumber : isNumeric c = false)
    (noWord : c ≠ 'I') :
    step maxDigits (behindValue stack value) c = follow stack value c := by
  cases value with
  | number literal =>
    have isLiteral : IsLiteral maxDigits literal := numeric literal (List.mem_singleton_self _)
    have same : String.ofList literal.toList.reverse.reverse = literal := by
      rw [List.reverse_reverse, String.ofList_toList]
    simp only [behindValue, step, noNumber, noWord, and_false, if_false, Bool.false_eq_true,
      List.reverse_reverse, isLiteral.1, if_true, String.ofList_toList]
  | null => rfl
  | boolean value => rfl
  | string value => rfl
  | array elements => rfl
  | object members => rfl

/-- Blanks before a value. -/
theorem run_blanks (text : List Char) (blank : ∀ c ∈ text, isJsonSpace c = true) :
    run maxDigits ⟨stack, .value orEnd⟩ text = some ⟨stack, .value orEnd⟩ := by
  induction text with
  | nil => rfl
  | cons c rest ih =>
    obtain ⟨first, others⟩ := List.forall_mem_cons.mp blank
    have stays : step maxDigits ⟨stack, .value orEnd⟩ c = some ⟨stack, .value orEnd⟩ := if_pos first
    rw [run_cons, stays, Option.bind_some, ih others]

/-- Blanks before a key. -/
theorem run_blanksKey (text : List Char) (blank : ∀ c ∈ text, isJsonSpace c = true) :
    run maxDigits ⟨stack, .key orEnd⟩ text = some ⟨stack, .key orEnd⟩ := by
  induction text with
  | nil => rfl
  | cons c rest ih =>
    obtain ⟨first, others⟩ := List.forall_mem_cons.mp blank
    have stays : step maxDigits ⟨stack, .key orEnd⟩ c = some ⟨stack, .key orEnd⟩ := if_pos first
    rw [run_cons, stays, Option.bind_some, ih others]

/-- Blanks behind a value. -/
theorem run_blanksBehind (text : List Char) (blank : ∀ c ∈ text, isJsonSpace c = true) :
    run maxDigits ⟨stack, .after value⟩ text = some ⟨stack, .after value⟩ := by
  induction text with
  | nil => rfl
  | cons c rest ih =>
    obtain ⟨first, others⟩ := List.forall_mem_cons.mp blank
    have stays : step maxDigits ⟨stack, .after value⟩ c = some ⟨stack, .after value⟩ := if_pos first
    rw [run_cons, stays, Option.bind_some, ih others]

theorem blank_newline (depth : Nat) : ∀ c ∈ newline depth, isJsonSpace c = true := by
  intro c member
  rcases List.mem_cons.mp member with rfl | blank
  · decide
  · rw [List.eq_of_mem_replicate blank]
    decide

/-- The line on which an array or an object ends. -/
theorem run_lastLine (numeric : value.Numeric maxDigits) (depth : Nat) (closing : Char) :
    run maxDigits (behindValue stack value) (newline depth ++ [closing]) =
      step maxDigits ⟨stack, .after value⟩ closing := by
  have first : step maxDigits (behindValue stack value) '\n' = some ⟨stack, .after value⟩ := by
    rw [step_behindValue numeric (by decide) (by decide)]
    rfl
  have blanks : ∀ c ∈ List.replicate (2 * depth) ' ', isJsonSpace c = true :=
    fun c member => by rw [List.eq_of_mem_replicate member]; decide
  rw [newline, List.cons_append, run_cons, first, Option.bind_some, run_append,
    run_blanksBehind _ blanks, Option.bind_some, run_cons]
  cases step maxDigits ⟨stack, .after value⟩ closing <;> rfl

/-- A number is read, up to what ends it. -/
theorem run_literal {literal : String} (isLiteral : IsLiteral maxDigits literal) :
    run maxDigits ⟨stack, .value orEnd⟩ literal.toList =
      some ⟨stack, .number literal.toList.reverse⟩ := by
  have digits (read rest : List Char) (each : ∀ c ∈ rest, isNumeric c = true) :
      run maxDigits ⟨stack, .number read⟩ rest = some ⟨stack, .number (rest.reverse ++ read)⟩ := by
    induction rest generalizing read with
    | nil => rfl
    | cons c rest ih =>
      obtain ⟨first, others⟩ := List.forall_mem_cons.mp each
      have taken : step maxDigits ⟨stack, .number read⟩ c = some ⟨stack, .number (c :: read)⟩ :=
        if_pos first
      rw [run_cons, taken, Option.bind_some, ih _ others, List.reverse_cons, List.append_assoc,
        List.singleton_append]
  obtain ⟨number, numeric⟩ := isLiteral
  revert number numeric
  cases literal.toList with
  | nil => intro number; cases number
  | cons c rest =>
    intro number numeric
    have begins : step maxDigits ⟨stack, .value orEnd⟩ c = some ⟨stack, .number [c]⟩ := by
      have possible : c = '-' ∨ c.isDigit = true := by
        by_cases sign : c = '-'
        · exact Or.inl sign
        · right
          by_contra noDigit
          have none : (c :: rest).takeWhile Char.isDigit = [] := by
            rw [List.takeWhile_cons, if_neg noDigit]
          unfold isNumber at number
          dsimp only at number
          split at number
          · rename_i same
            exact sign (List.cons.inj same).1
          · simp [none] at number
      rcases possible with rfl | digit
      · cases orEnd <;> rfl
      · have blank : isJsonSpace c = false := by
          by_contra space
          revert digit
          simp only [isJsonSpace, Bool.not_eq_false, Bool.or_eq_true, decide_eq_true_eq] at space
          rcases space with ((rfl | rfl) | rfl) | rfl <;> decide
        have noEnd : (orEnd && decide (c = ']')) = false := by
          have different : c ≠ ']' := by
            rintro rfl
            revert digit
            decide
          rw [decide_eq_false different, Bool.and_false]
        simp only [step, blank, noEnd, Bool.false_eq_true, if_false]
        unfold start
        split
        all_goals first
          | exact absurd digit (by decide)
          | exact if_pos digit
    rw [run_cons, begins, Option.bind_some, digits [c] rest (List.forall_mem_cons.mp numeric).2,
      List.reverse_cons]

/-- A key and its colon are read. -/
theorem run_key (key : String) (read : List (String × Json)) (other : String) :
    run maxDigits ⟨.members read other :: stack, .key orEnd⟩ (quoted key ++ [':', ' ']) =
      some ⟨.members read key :: stack, .value false⟩ := by
  have opened : step maxDigits ⟨.members read other :: stack, .key orEnd⟩ '"' =
      some ⟨.members read other :: stack, .text [] true⟩ := by cases orEnd <;> rfl
  have colon : run maxDigits ⟨.members read other :: stack, .colon key⟩ [':', ' '] =
      some ⟨.members read key :: stack, .value false⟩ := rfl
  rw [quoted, List.cons_append, run_cons, opened, Option.bind_some, run_append, run_quoted,
    Option.bind_some, if_pos rfl, colon]

end Values

section Nested

variable {maxDigits : Nat}

mutual

/-- **A value is read, wherever it stands.** -/
theorem run_text : ∀ (value : Json), value.Numeric maxDigits →
    ∀ (depth : Nat) (stack : List Frame) (orEnd : Bool),
      run maxDigits ⟨stack, .value orEnd⟩ (value.text depth) = some (behindValue stack value)
  | .null, _, _, _, orEnd => by cases orEnd <;> rfl
  | .boolean true, _, _, _, orEnd => by cases orEnd <;> rfl
  | .boolean false, _, _, _, orEnd => by cases orEnd <;> rfl
  | .number literal, numeric, _, stack, orEnd =>
    run_literal (numeric literal (List.mem_singleton_self _))
  | .string value, _, _, stack, orEnd => by
    have opened : step maxDigits ⟨stack, .value orEnd⟩ '"' = some ⟨stack, .text [] false⟩ := by
      cases orEnd <;> rfl
    rw [Json.text, quoted, run_cons, opened, Option.bind_some, run_quoted, if_neg Bool.false_ne_true]
    rfl
  | .array [], _, _, _, orEnd => by cases orEnd <;> rfl
  | .array (first :: rest), numeric, depth, stack, orEnd => by
    obtain ⟨here, others⟩ := List.forall_mem_append.mp numeric
    have opened : step maxDigits ⟨stack, .value orEnd⟩ '[' =
        some ⟨.elements [] :: stack, .value true⟩ := by cases orEnd <;> rfl
    rw [Json.text, run_cons, opened, Option.bind_some, run_append,
      run_blanks _ (blank_newline _), Option.bind_some, run_append,
      run_text first here (depth + 1) (.elements [] :: stack) true, Option.bind_some,
      run_elements rest others (depth + 1) depth stack [] first here]
    rfl
  | .object [], _, _, _, orEnd => by cases orEnd <;> rfl
  | .object ((key, value) :: rest), numeric, depth, stack, orEnd => by
    obtain ⟨here, others⟩ := List.forall_mem_append.mp numeric
    have opened : step maxDigits ⟨stack, .value orEnd⟩ '{' =
        some ⟨.members [] "" :: stack, .key true⟩ := by cases orEnd <;> rfl
    have colon (more : List Char) : quoted key ++ ':' :: ' ' :: more =
        (quoted key ++ [':', ' ']) ++ more := by simp
    rw [Json.text, run_cons, opened, Option.bind_some, run_append,
      run_blanksKey _ (blank_newline _), Option.bind_some, colon, run_append, run_key,
      Option.bind_some, run_append,
      run_text value here (depth + 1) (.members [] key :: stack) false, Option.bind_some,
      run_members rest others (depth + 1) depth stack [] key value here]
    rfl

/-- The elements after one that has been read, and the end of the array. -/
theorem run_elements : ∀ (rest : List Json),
    (∀ literal ∈ elementsLiterals rest, IsLiteral maxDigits literal) →
    ∀ (depth outer : Nat) (stack : List Frame) (read : List Json) (value : Json),
      value.Numeric maxDigits →
      run maxDigits (behindValue (.elements read :: stack) value)
          (elementsText depth rest ++ (newline outer ++ [']'])) =
        some ⟨stack, .after (.array (read.reverse ++ value :: rest))⟩
  | [], _, depth, outer, stack, read, value, numeric => by
    rw [elementsText, List.nil_append, run_lastLine numeric]
    show some (Reading.mk stack (.after (.array (value :: read).reverse))) = _
    rw [List.reverse_cons]
  | next :: rest, each, depth, outer, stack, read, value, numeric => by
    obtain ⟨here, others⟩ := List.forall_mem_append.mp each
    have comma : step maxDigits (behindValue (.elements read :: stack) value) ',' =
        some ⟨.elements (value :: read) :: stack, .value false⟩ := by
      rw [step_behindValue numeric (by decide) (by decide)]
      rfl
    rw [elementsText, List.cons_append, List.append_assoc, List.append_assoc, run_cons, comma,
      Option.bind_some, run_append, run_blanks _ (blank_newline _), Option.bind_some, run_append,
      run_text next here depth (.elements (value :: read) :: stack) false, Option.bind_some,
      run_elements rest others depth outer stack (value :: read) next here, List.reverse_cons,
      List.append_assoc, List.singleton_append]

/-- The members after one that has been read, and the end of the object. -/
theorem run_members : ∀ (rest : List (String × Json)),
    (∀ literal ∈ membersLiterals rest, IsLiteral maxDigits literal) →
    ∀ (depth outer : Nat) (stack : List Frame) (read : List (String × Json)) (key : String)
      (value : Json), value.Numeric maxDigits →
      run maxDigits (behindValue (.members read key :: stack) value)
          (membersText depth rest ++ (newline outer ++ ['}'])) =
        some ⟨stack, .after (.object (read.reverse ++ (key, value) :: rest))⟩
  | [], _, depth, outer, stack, read, key, value, numeric => by
    rw [membersText, List.nil_append, run_lastLine numeric]
    show some (Reading.mk stack (.after (.object ((key, value) :: read).reverse))) = _
    rw [List.reverse_cons]
  | (next, element) :: rest, each, depth, outer, stack, read, key, value, numeric => by
    obtain ⟨here, others⟩ := List.forall_mem_append.mp each
    have comma : step maxDigits (behindValue (.members read key :: stack) value) ',' =
        some ⟨.members ((key, value) :: read) "" :: stack, .key false⟩ := by
      rw [step_behindValue numeric (by decide) (by decide)]
      rfl
    have line : membersText depth ((next, element) :: rest) ++ (newline outer ++ ['}']) =
        ',' :: (newline depth ++ ((quoted next ++ [':', ' ']) ++ (element.text depth ++
          (membersText depth rest ++ (newline outer ++ ['}']))))) := by simp [membersText]
    rw [line, run_cons, comma, Option.bind_some, run_append,
      run_blanksKey _ (blank_newline _), Option.bind_some, run_append, run_key, Option.bind_some,
      run_append, run_text element here depth (.members ((key, value) :: read) next :: stack) false,
      Option.bind_some,
      run_members rest others depth outer stack ((key, value) :: read) next element here,
      List.reverse_cons, List.append_assoc, List.singleton_append]

end

/-- **A value is read back from its text**, when its numbers are numbers; whitespace may follow. -/
theorem readJson_text {value : Json} (numeric : value.Numeric maxDigits) (depth : Nat) {blanks : List Char}
    (blank : ∀ c ∈ blanks, isJsonSpace c = true) :
    readJson maxDigits (value.text depth ++ blanks) = some value := by
  have ended : result maxDigits (behindValue [] value) = some value := by
    cases value with
    | number literal =>
      have isLiteral : IsLiteral maxDigits literal := numeric literal (List.mem_singleton_self _)
      simp only [behindValue, result, List.reverse_reverse, isLiteral.1, if_true,
        String.ofList_toList]
    | null => rfl
    | boolean value => rfl
    | string value => rfl
    | array elements => rfl
    | object members => rfl
  unfold readJson
  rw [run_append, run_text value numeric depth [] false, Option.bind_some]
  cases blanks with
  | nil => exact ended
  | cons c blanks =>
    obtain ⟨first, others⟩ := List.forall_mem_cons.mp blank
    have noNumber : isNumeric c = false ∧ c ≠ 'I' := by
      simp only [isJsonSpace, Bool.or_eq_true, decide_eq_true_eq] at first
      rcases first with ((rfl | rfl) | rfl) | rfl <;> decide
    have stays : step maxDigits (behindValue [] value) c = some ⟨[], .after value⟩ := by
      rw [step_behindValue numeric noNumber.1 noNumber.2]
      exact if_pos first
    rw [run_cons, stays, Option.bind_some, run_blanksBehind _ others, Option.bind_some]
    rfl

end Nested

end Certinspect.Library
