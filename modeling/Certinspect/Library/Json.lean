/-
**JSON values and their text.**

A text is read character by character: a state holds the arrays and objects that are open and what is
being read. Numbers are kept as their literals. An object of strings is written with one member on a
line and with everything but printable ASCII escaped.

* `Json` — a value; the members of an object in order, repeated keys included.
* `Reading`, `Reading.step`, `readJson` — reading a text; an integer literal may have so many digits.
* `writtenObject` — the text of an object of strings.
* `joinUnits_utf16` — characters beyond the first plane come back from their surrogates.
* **`readJson_writtenObject`** — the object is read back.
* **`readJson_cut`** — of a text of an object that is cut short nothing is read.
-/

import Certinspect.Library.Numerals
import Mathlib.Data.List.Basic

namespace Certinspect.Library

/-- A JSON value. -/
inductive Json
  | null
  | boolean (value : Bool)
  | number (literal : String)
  | string (value : String)
  | array (elements : List Json)
  | object (members : List (String × Json))

/-! ### Code units -/

/-- The UTF-16 code units of a character. -/
def utf16 (c : Char) : List Nat :=
  if c.toNat < 0x10000 then [c.toNat]
  else [0xD800 + (c.toNat - 0x10000) / 0x400, 0xDC00 + (c.toNat - 0x10000) % 0x400]

/-- The character of a unit on its own; half of a pair is none, and read as U+FFFD. -/
def unitChar (unit : Nat) : Char := if unit.isValidChar then Char.ofNat unit else Char.ofNat 0xFFFD

/-- Two units are the halves of a pair. -/
def IsPair (high low : Nat) : Prop :=
  0xD800 ≤ high ∧ high < 0xDC00 ∧ 0xDC00 ≤ low ∧ low < 0xE000

instance (high low : Nat) : Decidable (IsPair high low) := inferInstanceAs (Decidable (_ ∧ _))

/-- The characters of units. -/
def joinUnits : List Nat → List Char
  | [] => []
  | [unit] => [unitChar unit]
  | high :: low :: rest =>
    if IsPair high low then
      Char.ofNat (0x10000 + (high - 0xD800) * 0x400 + (low - 0xDC00)) :: joinUnits rest
    else unitChar high :: joinUnits (low :: rest)

/-! ### Reading -/

/-- An array or an object that is open: what it has so far, in reverse, and the key of its next
member. -/
inductive Frame
  | elements (read : List Json)
  | members (read : List (String × Json)) (key : String)

/-- What is being read. -/
inductive Mode
  /-- A value is to come, or the end of an array that has just been opened. -/
  | value (orEnd : Bool)
  /-- A key is to come, or the end of an object that has just been opened. -/
  | key (orEnd : Bool)
  | colon (key : String)
  | after (value : Json)
  | text (units : List Nat) (isKey : Bool)
  | escape (units : List Nat) (isKey : Bool)
  | hex (units : List Nat) (isKey : Bool) (digits value : Nat)
  | word (rest : List Char) (value : Json)
  | number (literal : List Char)

/-- A state of the reader. -/
structure Reading where
  stack : List Frame
  mode : Mode

/-- Whitespace of JSON. -/
def isJsonSpace (c : Char) : Bool := c = ' ' || c = '\t' || c = '\n' || c = '\r'

/-- The characters that occur in numbers. -/
def isNumeric (c : Char) : Bool := c.isDigit || c = '-' || c = '+' || c = '.' || c = 'e' || c = 'E'

/-- The exponent of a number, if there is one. -/
def isExponent : List Char → Bool
  | [] => true
  | mark :: rest =>
    let digits := match rest with
      | '+' :: digits => digits
      | '-' :: digits => digits
      | digits => digits
    (mark = 'e' || mark = 'E') && digits ≠ [] && digits.all Char.isDigit

/-- What follows the integral part of a number. -/
def isFraction (rest : List Char) : Bool :=
  match rest with
  | '.' :: rest => rest.takeWhile Char.isDigit ≠ [] && isExponent (rest.dropWhile Char.isDigit)
  | rest => isExponent rest

/-- A literal is a number, and not an integer of more digits than are converted. -/
def isNumber (maxDigits : Nat) (literal : List Char) : Bool :=
  let unsigned := match literal with
    | '-' :: unsigned => unsigned
    | unsigned => unsigned
  let integral := unsigned.takeWhile Char.isDigit
  let rest := unsigned.dropWhile Char.isDigit
  integral ≠ [] && (integral = ['0'] || integral.head? ≠ some '0') && isFraction rest &&
    (rest ≠ [] || integral.length ≤ maxDigits)

/-- The unit of an escaped character. -/
def escapedUnit : Char → Option Nat
  | '"' => some 34
  | '\\' => some 92
  | '/' => some 47
  | 'b' => some 8
  | 'f' => some 12
  | 'n' => some 10
  | 'r' => some 13
  | 't' => some 9
  | _ => none

namespace Reading

/-- The first character of a value. -/
def start (stack : List Frame) (c : Char) : Option Reading :=
  match c with
  | '"' => some ⟨stack, .text [] false⟩
  | '[' => some ⟨.elements [] :: stack, .value true⟩
  | '{' => some ⟨.members [] "" :: stack, .key true⟩
  | 'n' => some ⟨stack, .word ['u', 'l', 'l'] .null⟩
  | 't' => some ⟨stack, .word ['r', 'u', 'e'] (.boolean true)⟩
  | 'f' => some ⟨stack, .word ['a', 'l', 's', 'e'] (.boolean false)⟩
  | 'N' => some ⟨stack, .word ['a', 'N'] (.number "NaN")⟩
  | 'I' => some ⟨stack, .word ['n', 'f', 'i', 'n', 'i', 't', 'y'] (.number "Infinity")⟩
  | '-' => some ⟨stack, .number ['-']⟩
  | c => if c.isDigit then some ⟨stack, .number [c]⟩ else none

/-- A character behind a value. -/
def follow (stack : List Frame) (value : Json) (c : Char) : Option Reading :=
  if isJsonSpace c then some ⟨stack, .after value⟩
  else
    match stack, c with
    | .elements read :: stack, ',' => some ⟨.elements (value :: read) :: stack, .value false⟩
    | .elements read :: stack, ']' => some ⟨stack, .after (.array (value :: read).reverse)⟩
    | .members read key :: stack, ',' => some ⟨.members ((key, value) :: read) "" :: stack, .key false⟩
    | .members read key :: stack, '}' => some ⟨stack, .after (.object ((key, value) :: read).reverse)⟩
    | _, _ => none

/-- What a text is read as when it ends. -/
def ended (stack : List Frame) (units : List Nat) (isKey : Bool) : Reading :=
  let text := String.ofList (joinUnits units.reverse)
  if isKey then ⟨stack, .colon text⟩ else ⟨stack, .after (.string text)⟩

/-- One character. -/
def step (maxDigits : Nat) (reading : Reading) (c : Char) : Option Reading :=
  let stack := reading.stack
  match reading.mode with
  | .value orEnd =>
    if isJsonSpace c then some reading
    else if orEnd && c = ']' then some ⟨stack.tail, .after (.array [])⟩
    else start stack c
  | .key orEnd =>
    if isJsonSpace c then some reading
    else if orEnd && c = '}' then some ⟨stack.tail, .after (.object [])⟩
    else if c = '"' then some ⟨stack, .text [] true⟩
    else none
  | .colon key =>
    if isJsonSpace c then some reading
    else
      match stack, c with
      | .members read _ :: stack, ':' => some ⟨.members read key :: stack, .value false⟩
      | _, _ => none
  | .after value => follow stack value c
  | .text units isKey =>
    if c = '"' then some (ended stack units isKey)
    else if c = '\\' then some ⟨stack, .escape units isKey⟩
    else if c.toNat < 32 then none
    else some ⟨stack, .text (c.toNat :: units) isKey⟩
  | .escape units isKey =>
    if c = 'u' then some ⟨stack, .hex units isKey 0 0⟩
    else (escapedUnit c).map fun unit => ⟨stack, .text (unit :: units) isKey⟩
  | .hex units isKey digits value =>
    (digitValue c).map fun digit =>
      if digits = 3 then ⟨stack, .text ((value * 16 + digit) :: units) isKey⟩
      else ⟨stack, .hex units isKey (digits + 1) (value * 16 + digit)⟩
  | .word rest value =>
    match rest with
    | [] => none
    | [last] => if c = last then some ⟨stack, .after value⟩ else none
    | next :: rest => if c = next then some ⟨stack, .word rest value⟩ else none
  | .number literal =>
    if isNumeric c then some ⟨stack, .number (c :: literal)⟩
    else if literal = ['-'] ∧ c = 'I' then
      some ⟨stack, .word ['n', 'f', 'i', 'n', 'i', 't', 'y'] (.number "-Infinity")⟩
    else if isNumber maxDigits literal.reverse then
      follow stack (.number (String.ofList literal.reverse)) c
    else none

/-- Every character of a text. -/
def run (maxDigits : Nat) (reading : Reading) (text : List Char) : Option Reading :=
  text.foldlM (step maxDigits) reading

/-- The value at the end of a text. -/
def result (maxDigits : Nat) (reading : Reading) : Option Json :=
  match reading.stack, reading.mode with
  | [], .after value => some value
  | [], .number literal =>
    if isNumber maxDigits literal.reverse then some (.number (String.ofList literal.reverse)) else none
  | _, _ => none

end Reading

/-- The value of a text, if it is JSON. -/
def readJson (maxDigits : Nat) (text : List Char) : Option Json :=
  (Reading.run maxDigits ⟨[], .value false⟩ text).bind (Reading.result maxDigits)

/-! ### Writing an object of strings -/

/-- An escaped code unit. -/
def writtenUnit (unit : Nat) : List Char :=
  ['\\', 'u', Nat.digitChar (unit / 4096 % 16), Nat.digitChar (unit / 256 % 16),
    Nat.digitChar (unit / 16 % 16), Nat.digitChar (unit % 16)]

/-- One character of a string. -/
def escapedChar (c : Char) : List Char :=
  if c = '"' ∨ c = '\\' then ['\\', c]
  else if c = '\n' then ['\\', 'n']
  else if c = '\r' then ['\\', 'r']
  else if c = '\t' then ['\\', 't']
  else if c.toNat = 12 then ['\\', 'f']
  else if c.toNat = 8 then ['\\', 'b']
  else if 32 ≤ c.toNat ∧ c.toNat < 127 then [c]
  else (utf16 c).flatMap writtenUnit

/-- A string. -/
def writtenString (text : String) : List Char := '"' :: (text.toList.flatMap escapedChar ++ ['"'])

/-- A member of an object. -/
def writtenMember (member : String × String) : List Char :=
  writtenString member.1 ++ ':' :: ' ' :: writtenString member.2

/-- An object, with its members on lines of their own, two blanks in. -/
def writtenObject : List (String × String) → List Char
  | [] => ['{', '}']
  | first :: rest =>
    '{' :: '\n' :: ' ' :: ' ' :: (writtenMember first ++
      (rest.flatMap (fun member => ',' :: '\n' :: ' ' :: ' ' :: writtenMember member) ++ ['\n', '}']))

/-! ### Code units are joined -/

section Units

variable {c : Char} {units : List Nat}

theorem unitChar_toNat (c : Char) : unitChar c.toNat = c := by
  have valid : c.toNat.isValidChar := c.valid
  unfold unitChar
  rw [if_pos valid, Char.ofNat_toNat]

/-- A character of the first plane is no half of a pair. -/
theorem joinUnits_plain (c : Char) (units : List Nat) :
    joinUnits (c.toNat :: units) = c :: joinUnits units := by
  have valid : c.toNat < 0xD800 ∨ (0xDFFF < c.toNat ∧ c.toNat < 0x110000) := c.valid
  cases units with
  | nil => simp only [joinUnits, unitChar_toNat]
  | cons low rest =>
    have single : ¬ IsPair c.toNat low := by
      unfold IsPair
      omega
    rw [joinUnits, if_neg single, unitChar_toNat]

/-- Any other character is a pair. -/
theorem joinUnits_pair (c : Char) (beyond : ¬ c.toNat < 0x10000) (units : List Nat) :
    joinUnits ((0xD800 + (c.toNat - 0x10000) / 0x400) ::
      (0xDC00 + (c.toNat - 0x10000) % 0x400) :: units) = c :: joinUnits units := by
  have valid : c.toNat < 0xD800 ∨ (0xDFFF < c.toNat ∧ c.toNat < 0x110000) := c.valid
  have pair : IsPair (0xD800 + (c.toNat - 0x10000) / 0x400)
      (0xDC00 + (c.toNat - 0x10000) % 0x400) := by
    unfold IsPair
    omega
  have joined : 0x10000 + (0xD800 + (c.toNat - 0x10000) / 0x400 - 0xD800) * 0x400 +
      (0xDC00 + (c.toNat - 0x10000) % 0x400 - 0xDC00) = c.toNat := by omega
  rw [joinUnits, if_pos pair, joined, Char.ofNat_toNat]

/-- **The characters of a text come back from its code units.** -/
theorem joinUnits_utf16 (text : List Char) : joinUnits (text.flatMap utf16) = text := by
  induction text with
  | nil => rfl
  | cons c rest ih =>
    rw [List.flatMap_cons]
    by_cases plain : c.toNat < 0x10000
    · have units : utf16 c = [c.toNat] := if_pos plain
      rw [units, List.singleton_append, joinUnits_plain, ih]
    · have units : utf16 c = [0xD800 + (c.toNat - 0x10000) / 0x400,
          0xDC00 + (c.toNat - 0x10000) % 0x400] := if_neg plain
      rw [units, List.cons_append, List.singleton_append, joinUnits_pair c plain, ih]

end Units

/-! ### What is written is read -/

open Reading

section Runs

variable {maxDigits : Nat} {stack : List Frame} {units : List Nat} {isKey : Bool}

theorem run_append (reading : Reading) (first second : List Char) :
    run maxDigits reading (first ++ second) =
      (run maxDigits reading first).bind fun middle => run maxDigits middle second :=
  List.foldlM_append

theorem run_cons (reading : Reading) (c : Char) (rest : List Char) :
    run maxDigits reading (c :: rest) =
      (step maxDigits reading c).bind fun next => run maxDigits next rest :=
  List.foldlM_cons

theorem run_nil (reading : Reading) : run maxDigits reading [] = some reading := rfl

theorem step_hex (digits value n : Nat) :
    step maxDigits ⟨stack, .hex units isKey digits value⟩ (Nat.digitChar (n % 16)) =
      some (if digits = 3 then ⟨stack, .text ((value * 16 + n % 16) :: units) isKey⟩
        else ⟨stack, .hex units isKey (digits + 1) (value * 16 + n % 16)⟩) := by
  have digit : digitValue (Nat.digitChar (n % 16)) = some (n % 16) :=
    digitValue_digitChar (Nat.mod_lt n (by decide))
  simp only [step, digit, Option.map_some]

/-- An escaped unit is read. -/
theorem run_writtenUnit {unit : Nat} (small : unit < 65536) :
    run maxDigits ⟨stack, .text units isKey⟩ (writtenUnit unit) =
      some ⟨stack, .text (unit :: units) isKey⟩ := by
  have mark : step maxDigits ⟨stack, .text units isKey⟩ '\\' = some ⟨stack, .escape units isKey⟩ := rfl
  have escape : step maxDigits ⟨stack, .escape units isKey⟩ 'u' =
      some ⟨stack, .hex units isKey 0 0⟩ := rfl
  have whole : (((0 * 16 + unit / 4096 % 16) * 16 + unit / 256 % 16) * 16 + unit / 16 % 16) * 16 +
      unit % 16 = unit := by omega
  have first : step maxDigits ⟨stack, .hex units isKey 0 0⟩ (Nat.digitChar (unit / 4096 % 16)) =
      some ⟨stack, .hex units isKey 1 (0 * 16 + unit / 4096 % 16)⟩ := step_hex 0 0 _
  have second (value : Nat) :
      step maxDigits ⟨stack, .hex units isKey 1 value⟩ (Nat.digitChar (unit / 256 % 16)) =
        some ⟨stack, .hex units isKey 2 (value * 16 + unit / 256 % 16)⟩ := step_hex 1 value _
  have third (value : Nat) :
      step maxDigits ⟨stack, .hex units isKey 2 value⟩ (Nat.digitChar (unit / 16 % 16)) =
        some ⟨stack, .hex units isKey 3 (value * 16 + unit / 16 % 16)⟩ := step_hex 2 value _
  have last (value : Nat) :
      step maxDigits ⟨stack, .hex units isKey 3 value⟩ (Nat.digitChar (unit % 16)) =
        some ⟨stack, .text ((value * 16 + unit % 16) :: units) isKey⟩ := step_hex 3 value _
  unfold writtenUnit
  simp only [run_cons, run_nil, mark, escape, first, second, third, last, whole, Option.bind_some]

/-- A character with an escape of its own is read. -/
theorem run_shortEscape {c letter : Char} {unit : Nat} (same : c.toNat = unit) (small : unit < 65536)
    (escaped : escapedUnit letter = some unit) (noHex : letter ≠ 'u') :
    run maxDigits ⟨stack, .text units isKey⟩ ['\\', letter] =
      some ⟨stack, .text ((utf16 c).reverse ++ units) isKey⟩ := by
  have single : utf16 c = [unit] := by rw [utf16, same, if_pos small]
  have mark : step maxDigits ⟨stack, .text units isKey⟩ '\\' =
      some ⟨stack, .escape units isKey⟩ := rfl
  have letter : step maxDigits ⟨stack, .escape units isKey⟩ letter =
      some ⟨stack, .text (unit :: units) isKey⟩ := by
    simp only [step, if_neg noHex, escaped, Option.map_some]
  simp only [run_cons, run_nil, mark, letter, Option.bind_some, single]
  rfl

/-- A character that stands for itself is read. -/
theorem run_plainChar {c : Char} (unquoted : ¬ (c = '"' ∨ c = '\\'))
    (plain : 32 ≤ c.toNat ∧ c.toNat < 127) :
    run maxDigits ⟨stack, .text units isKey⟩ [c] =
      some ⟨stack, .text ((utf16 c).reverse ++ units) isKey⟩ := by
  obtain ⟨noQuote, noBackslash⟩ := not_or.mp unquoted
  have single : utf16 c = [c.toNat] := if_pos (by omega)
  have taken : step maxDigits ⟨stack, .text units isKey⟩ c =
      some ⟨stack, .text (c.toNat :: units) isKey⟩ := by
    simp only [step, if_neg noQuote, if_neg noBackslash]
    rw [if_neg (by omega)]
  simp only [run_cons, run_nil, taken, Option.bind_some, single]
  rfl

/-- Any other is read from its code units. -/
theorem run_writtenUnits (c : Char) :
    run maxDigits ⟨stack, .text units isKey⟩ ((utf16 c).flatMap writtenUnit) =
      some ⟨stack, .text ((utf16 c).reverse ++ units) isKey⟩ := by
  unfold utf16
  split
  · rename_i plain
    rw [List.flatMap_singleton, run_writtenUnit plain]
    rfl
  · have valid : c.toNat < 0xD800 ∨ (0xDFFF < c.toNat ∧ c.toNat < 0x110000) := c.valid
    rw [List.flatMap_cons, List.flatMap_singleton, run_append, run_writtenUnit (by omega),
      Option.bind_some, run_writtenUnit (by omega)]
    rfl

/-- A character of a string is read. -/
theorem run_escapedChar (c : Char) :
    run maxDigits ⟨stack, .text units isKey⟩ (escapedChar c) =
      some ⟨stack, .text ((utf16 c).reverse ++ units) isKey⟩ := by
  unfold escapedChar
  split
  · rename_i quoted
    rcases quoted with rfl | rfl
    · exact run_shortEscape rfl (by decide) rfl (by decide)
    · exact run_shortEscape rfl (by decide) rfl (by decide)
  rename_i unquoted
  split
  · rename_i same
    exact run_shortEscape (by rw [same]; rfl) (by decide) rfl (by decide)
  split
  · rename_i same
    exact run_shortEscape (by rw [same]; rfl) (by decide) rfl (by decide)
  split
  · rename_i same
    exact run_shortEscape (by rw [same]; rfl) (by decide) rfl (by decide)
  split
  · rename_i same
    exact run_shortEscape same (by decide) rfl (by decide)
  split
  · rename_i same
    exact run_shortEscape same (by decide) rfl (by decide)
  split
  · rename_i plain
    exact run_plainChar unquoted plain
  · exact run_writtenUnits c

/-- **A string is read.** -/
theorem run_writtenString (text : String) (stack : List Frame) (isKey : Bool) :
    run maxDigits ⟨stack, .text [] isKey⟩ (text.toList.flatMap escapedChar ++ ['"']) =
      some (if isKey then ⟨stack, .colon text⟩ else ⟨stack, .after (.string text)⟩) := by
  have characters (chars : List Char) (units : List Nat) :
      run maxDigits ⟨stack, .text units isKey⟩ (chars.flatMap escapedChar) =
        some ⟨stack, .text ((chars.flatMap utf16).reverse ++ units) isKey⟩ := by
    induction chars generalizing units with
    | nil => rfl
    | cons c rest ih =>
      rw [List.flatMap_cons, run_append, run_escapedChar, Option.bind_some, ih, List.flatMap_cons,
        List.reverse_append, List.append_assoc]
  have close : step maxDigits ⟨stack, .text (text.toList.flatMap utf16).reverse isKey⟩ '"' =
      some (if isKey then ⟨stack, .colon text⟩ else ⟨stack, .after (.string text)⟩) := by
    have joined : String.ofList (joinUnits (text.toList.flatMap utf16).reverse.reverse) = text := by
      rw [List.reverse_reverse, joinUnits_utf16, String.ofList_toList]
    show some (ended stack _ isKey) = _
    unfold ended
    dsimp only
    rw [joined]
  rw [run_append, characters, Option.bind_some, List.append_nil, run_cons, close, Option.bind_some,
    run_nil]

/-- A member of an object is read. -/
theorem run_writtenMember (member : String × String) (read : List (String × Json)) (key : String)
    (orEnd : Bool) :
    run maxDigits ⟨.members read key :: stack, .key orEnd⟩ (writtenMember member) =
      some ⟨.members read member.1 :: stack, .after (.string member.2)⟩ := by
  have openKey : step maxDigits ⟨.members read key :: stack, .key orEnd⟩ '"' =
      some ⟨.members read key :: stack, .text [] true⟩ := by cases orEnd <;> rfl
  have colon : step maxDigits ⟨.members read key :: stack, .colon member.1⟩ ':' =
      some ⟨.members read member.1 :: stack, .value false⟩ := rfl
  have blank : step maxDigits ⟨.members read member.1 :: stack, .value false⟩ ' ' =
      some ⟨.members read member.1 :: stack, .value false⟩ := rfl
  have openValue : step maxDigits ⟨.members read member.1 :: stack, .value false⟩ '"' =
      some ⟨.members read member.1 :: stack, .text [] false⟩ := rfl
  unfold writtenMember writtenString
  rw [List.cons_append, run_cons, openKey, Option.bind_some, run_append, run_writtenString,
    Option.bind_some, if_pos rfl, run_cons, colon, Option.bind_some, run_cons, blank,
    Option.bind_some, run_cons, openValue, Option.bind_some, run_writtenString]
  rfl

/-- The members after the first one are read. -/
theorem run_writtenMembers (members : List (String × String)) (read : List (String × Json))
    (key value : String) :
    run maxDigits ⟨.members read key :: stack, .after (.string value)⟩
        (members.flatMap (fun member => ',' :: '\n' :: ' ' :: ' ' :: writtenMember member) ++
          ['\n', '}']) =
      some ⟨stack, .after (.object (read.reverse ++ (key, .string value) ::
        members.map fun member => (member.1, .string member.2)))⟩ := by
  induction members generalizing read key value with
  | nil =>
    show some (Reading.mk stack (.after (.object ((key, Json.string value) :: read).reverse))) = _
    rw [List.reverse_cons]
    rfl
  | cons member rest ih =>
    have comma : run maxDigits ⟨.members read key :: stack, .after (.string value)⟩
        [',', '\n', ' ', ' '] =
        some ⟨.members ((key, .string value) :: read) "" :: stack, .key false⟩ := rfl
    have split : (member :: rest).flatMap
          (fun member => ',' :: '\n' :: ' ' :: ' ' :: writtenMember member) ++ ['\n', '}'] =
        [',', '\n', ' ', ' '] ++ (writtenMember member ++
          (rest.flatMap (fun member => ',' :: '\n' :: ' ' :: ' ' :: writtenMember member) ++
            ['\n', '}'])) := by simp
    rw [split, run_append, comma, Option.bind_some, run_append, run_writtenMember, Option.bind_some,
      ih, List.reverse_cons, List.append_assoc]
    rfl

/-- **An object of strings is read back.** -/
theorem readJson_writtenObject (members : List (String × String)) :
    readJson maxDigits (writtenObject members) =
      some (.object (members.map fun member => (member.1, .string member.2))) := by
  cases members with
  | nil => rfl
  | cons first rest =>
    have opened : run maxDigits ⟨[], .value false⟩ ['{', '\n', ' ', ' '] =
        some ⟨[.members [] ""], .key true⟩ := rfl
    have split : writtenObject (first :: rest) = ['{', '\n', ' ', ' '] ++ (writtenMember first ++
        (rest.flatMap (fun member => ',' :: '\n' :: ' ' :: ' ' :: writtenMember member) ++
          ['\n', '}'])) := rfl
    unfold readJson
    rw [split, run_append, opened, Option.bind_some, run_append, run_writtenMember,
      Option.bind_some, run_writtenMembers]
    rfl

end Runs

/-! ### A text that is cut short -/

section Cut

variable {maxDigits : Nat} {reading next : Reading} {value : Json} {text cut : List Char} {c : Char}

/-- Something is open, or a value has been read. -/
def Reading.Inside (reading : Reading) : Prop :=
  reading.stack ≠ [] ∨ ∃ value, reading.mode = .after value

theorem start_stack {stack : List Frame} (filled : stack ≠ []) (went : start stack c = some next) :
    next.stack ≠ [] := by
  unfold start at went
  split at went
  all_goals first
    | (cases went; exact filled)
    | (cases went; exact List.cons_ne_nil _ _)
    | (split at went <;> cases went; exact filled)

theorem follow_inside {stack : List Frame} (went : follow stack value c = some next) :
    next.Inside := by
  unfold follow at went
  split at went
  · cases went
    exact Or.inr ⟨value, rfl⟩
  · split at went
    · cases went
      exact Or.inl (List.cons_ne_nil _ _)
    · cases went
      exact Or.inr ⟨_, rfl⟩
    · cases went
      exact Or.inl (List.cons_ne_nil _ _)
    · cases went
      exact Or.inr ⟨_, rfl⟩
    · cases went

/-- Within a string nothing is opened or closed. -/
theorem step_text_stack {stack : List Frame} {units : List Nat} {isKey : Bool}
    (went : step maxDigits ⟨stack, .text units isKey⟩ c = some next) : next.stack = stack := by
  unfold step at went
  dsimp only at went
  split at went
  · cases went
    cases isKey with
    | true => rfl
    | false => rfl
  split at went
  · cases went
    rfl
  split at went
  · cases went
  · cases went
    rfl

theorem step_escape_stack {stack : List Frame} {units : List Nat} {isKey : Bool}
    (went : step maxDigits ⟨stack, .escape units isKey⟩ c = some next) : next.stack = stack := by
  unfold step at went
  dsimp only at went
  split at went
  · cases went
    rfl
  · obtain ⟨unit, _, rfl⟩ := Option.map_eq_some_iff.mp went
    rfl

theorem step_hex_stack {stack : List Frame} {units : List Nat} {isKey : Bool} {digits value : Nat}
    (went : step maxDigits ⟨stack, .hex units isKey digits value⟩ c = some next) :
    next.stack = stack := by
  obtain ⟨digit, _, rfl⟩ := Option.map_eq_some_iff.mp went
  split <;> rfl

/-- Nor is it within a word. -/
theorem step_word_stack {stack : List Frame} {rest : List Char}
    (went : step maxDigits ⟨stack, .word rest value⟩ c = some next) : next.stack = stack := by
  unfold step at went
  dsimp only at went
  split at went
  · cases went
  · split at went
    · cases went
      rfl
    · cases went
  · split at went
    · cases went
      rfl
    · cases went

/-- What is open stays open until its value has been read. -/
theorem step_inside (inside : reading.Inside) (went : step maxDigits reading c = some next) :
    next.Inside := by
  obtain ⟨stack, mode⟩ := reading
  by_cases read : ∃ value, mode = .after value
  · obtain ⟨value, rfl⟩ := read
    exact follow_inside went
  have filled : stack ≠ [] := inside.resolve_right read
  cases mode with
  | after value => exact (read ⟨value, rfl⟩).elim
  | text units isKey => exact Or.inl (step_text_stack went ▸ filled)
  | escape units isKey => exact Or.inl (step_escape_stack went ▸ filled)
  | hex units isKey digits value => exact Or.inl (step_hex_stack went ▸ filled)
  | word rest value => exact Or.inl (step_word_stack went ▸ filled)
  | value orEnd =>
    unfold step at went
    dsimp only at went
    split at went
    · cases went
      exact Or.inl filled
    split at went
    · cases went
      exact Or.inr ⟨_, rfl⟩
    · exact Or.inl (start_stack filled went)
  | key orEnd =>
    unfold step at went
    dsimp only at went
    split at went
    · cases went
      exact Or.inl filled
    split at went
    · cases went
      exact Or.inr ⟨_, rfl⟩
    split at went
    · cases went
      exact Or.inl filled
    · cases went
  | colon key =>
    unfold step at went
    dsimp only at went
    split at went
    · cases went
      exact Or.inl filled
    split at went
    · cases went
      exact Or.inl (List.cons_ne_nil _ _)
    · cases went
  | number literal =>
    unfold step at went
    dsimp only at went
    split at went
    · cases went
      exact Or.inl filled
    split at went
    · cases went
      exact Or.inl filled
    split at went
    · exact follow_inside went
    · cases went

/-- What ends inside has read a value, and nothing is open. -/
theorem Reading.Inside.closed (inside : reading.Inside)
    (ended : result maxDigits reading = some value) : ∃ read, reading = ⟨[], .after read⟩ := by
  obtain ⟨stack, mode⟩ := reading
  cases stack with
  | cons frame rest => cases ended
  | nil =>
    obtain ⟨read, same⟩ := inside.resolve_left fun filled => filled rfl
    exact ⟨read, by rw [← same]⟩

theorem run_inside (inside : reading.Inside) (went : run maxDigits reading text = some next) :
    next.Inside := by
  induction text generalizing reading with
  | nil =>
    cases went
    exact inside
  | cons c rest ih =>
    rw [run_cons] at went
    obtain ⟨middle, here, there⟩ := Option.bind_eq_some_iff.mp went
    exact ih (step_inside inside here) there

/-- Behind a whole value there is only whitespace. -/
theorem space_of_run (went : run maxDigits ⟨[], .after value⟩ text = some next) :
    ∀ c ∈ text, isJsonSpace c = true := by
  induction text with
  | nil => exact List.forall_mem_nil _
  | cons c rest ih =>
    rw [run_cons] at went
    obtain ⟨middle, here, there⟩ := Option.bind_eq_some_iff.mp went
    have followed : follow [] value c = some middle := here
    unfold follow at followed
    by_cases space : isJsonSpace c = true
    · rw [if_pos space] at followed
      cases followed
      exact List.forall_mem_cons.mpr ⟨space, ih there⟩
    · rw [if_neg space] at followed
      cases followed

/-- **Of a text of an object that is cut short nothing is read.** -/
theorem readJson_cut (whole : readJson maxDigits text = some value) (opens : text.head? = some '{')
    (closes : text.getLast? = some '}') (isPrefix : cut <+: text) (proper : cut ≠ text) :
    readJson maxDigits cut = none := by
  obtain ⟨rest, rfl⟩ := isPrefix
  have more : rest ≠ [] := fun none => proper (by rw [none, List.append_nil])
  cases cut with
  | nil => rfl
  | cons c others =>
    have brace : c = '{' := by simpa using opens
    refine Option.eq_none_iff_forall_not_mem.mpr fun early found => ?_
    unfold readJson at whole found
    obtain ⟨middle, first, ended⟩ := Option.bind_eq_some_iff.mp found
    obtain ⟨final, all, _⟩ := Option.bind_eq_some_iff.mp whole
    rw [run_append, first, Option.bind_some] at all
    have inside : middle.Inside := by
      rw [run_cons, brace] at first
      exact run_inside (Or.inl (List.cons_ne_nil _ _)) first
    -- the cut text ends behind a whole value, and the brace that is missing is no whitespace
    obtain ⟨read, same⟩ := inside.closed ended
    rw [same] at all
    have blank := space_of_run all
    rw [List.getLast?_append_of_ne_nil _ more] at closes
    have absurd := blank '}' (List.mem_of_getLast? closes)
    revert absurd
    decide

end Cut

end Certinspect.Library
