/-
**How Python shows values: `str` and `repr`.**

An integer is shown in decimal, unless it has more digits than the interpreter converts. A list or a
dict in an f-string is shown by the `repr` of what it holds, and `repr` escapes the characters of a
string that do not print. Which characters beyond ASCII print is an argument.

* `strInt`, `boolStr`, `reprStr`, `reprInstant` — the texts.
* `cleanCell_append`, `cleanCell_intercalate` — cells that are put together.
* `cleanCell_int`, `cleanCell_instant`, `cleanCell_bool`, **`cleanCell_reprStr`** — no value but a
  string can bring a tab or a line feed into a text.
-/

import Certinspect.Library.Exposition
import Certinspect.Library.Numerals
import Certinspect.Library.Table
import Certinspect.Python

namespace Certinspect

open Library

/-! ### The texts -/

/-- The digits that `str` writes of an integer at most: `sys.int_info.default_max_str_digits`. -/
def maxStrDigits : Nat := 4300

/-- An integer that has no more digits. -/
def HasDecimal (n : Int) : Prop := n.natAbs < 10 ^ maxStrDigits

instance : DecidablePred HasDecimal := fun _ => inferInstanceAs (Decidable (_ < _))

/-- What `str` raises for a longer one. -/
def tooManyDigits : PyErr :=
  ⟨.valueError, "Exceeds the limit (4300 digits) for integer string conversion; use " ++
    "sys.set_int_max_str_digits() to increase the limit"⟩

/-- `str(n)`. -/
def strInt (n : Int) : Except PyErr String :=
  if HasDecimal n then .ok (toString n) else .error tooManyDigits

/-- `str(flag)`. -/
def boolStr (flag : Bool) : String := if flag then "True" else "False"

section Repr

variable (printable : Char → Bool)

/-- One character of a string literal, in quotes of the given kind. -/
def reprChar (quote c : Char) : String :=
  if c = quote ∨ c = '\\' then String.ofList ['\\', c]
  else if c = '\t' then "\\t"
  else if c = '\n' then "\\n"
  else if c = '\r' then "\\r"
  else if c.toNat < 32 ∨ c.toNat = 127 then escapeChar c
  else if c.toNat < 127 ∨ printable c = true then String.ofList [c]
  else escapeChar c

/-- `repr(text)`. -/
def reprStr (text : String) : String :=
  let quote := if text.toList.contains '\'' && !text.toList.contains '"' then '"' else '\''
  String.ofList [quote] ++ String.join (text.toList.map (reprChar printable quote)) ++
    String.ofList [quote]

/-- `repr(instant)`: seconds and microseconds are left out when they are zero. -/
def reprInstant (instant : Instant) : String :=
  let (year, month, dayOfMonth) := Instant.civil (instant / Instant.day)
  let second := instant % Instant.day / 1000000
  let micro := instant % 1000000
  let clock := [second / 3600, second / 60 % 60] ++
    (if second % 60 = 0 ∧ micro = 0 then [] else [second % 60]) ++
    (if micro = 0 then [] else [micro])
  "datetime.datetime(" ++
    ", ".intercalate (([year, month, dayOfMonth] ++ clock).map toString) ++
    ", tzinfo=datetime.timezone.utc)"

end Repr

/-! ### Clean cells -/

section Clean

variable {first second text sep : String} {parts : List String}

theorem cleanCell_append : CleanCell (first ++ second) ↔ CleanCell first ∧ CleanCell second := by
  unfold CleanCell
  rw [String.toList_append, List.mem_append, List.mem_append]
  tauto

theorem cleanCell_of_forall (each : ∀ c ∈ text.toList, c ≠ '\t' ∧ c ≠ '\n') : CleanCell text :=
  ⟨fun tab => (each _ tab).1 rfl, fun feed => (each _ feed).2 rfl⟩

/-- Joined parts are clean when the parts and the separator are. -/
theorem cleanCell_intercalate (plain : CleanCell sep) :
    CleanCell (sep.intercalate parts) ↔ ∀ part ∈ parts, CleanCell part := by
  induction parts with
  | nil => simp [CleanCell]
  | cons part rest ih =>
    cases rest with
    | nil => simp
    | cons next others =>
      have split : (∀ one ∈ part :: next :: others, CleanCell one) ↔
          CleanCell part ∧ ∀ one ∈ next :: others, CleanCell one := List.forall_mem_cons
      rw [String.intercalate_cons_cons, cleanCell_append, cleanCell_append, ih, split]
      exact ⟨fun clean => ⟨clean.1.1, clean.2⟩, fun clean => ⟨⟨clean.1, plain⟩, clean.2⟩⟩

theorem cleanCell_join : CleanCell (String.join parts) ↔ ∀ part ∈ parts, CleanCell part := by
  induction parts with
  | nil => simp [CleanCell]
  | cons part rest ih => rw [String.join_cons, cleanCell_append, ih, List.forall_mem_cons]

theorem cleanCell_int (n : Int) : CleanCell (toString n) := by
  refine cleanCell_of_forall fun c member => ?_
  rcases mem_repr member with digit | sign
  · refine ⟨?_, ?_⟩ <;> exact fun same => absurd (same ▸ digit) (by decide)
  · rw [sign]
    decide

theorem cleanCell_bool (flag : Bool) : CleanCell (boolStr flag) := by
  cases flag <;> decide

theorem cleanCell_padded (width : Nat) (n : Int) : CleanCell (Instant.padded width n) := by
  unfold Instant.padded
  refine cleanCell_append.mpr ⟨cleanCell_of_forall fun c member => ?_, cleanCell_int n⟩
  rw [String.toList_ofList] at member
  rw [List.eq_of_mem_replicate member]
  decide

theorem cleanCell_instant (instant : Instant) : CleanCell (Instant.str instant) := by
  have fraction (micro : Int) :
      CleanCell (if micro = 0 then "" else "." ++ Instant.padded 6 micro) := by
    split
    · decide
    · exact cleanCell_append.mpr ⟨by decide, cleanCell_padded _ _⟩
  unfold Instant.str Instant.dateStr
  dsimp only
  simp only [cleanCell_append, cleanCell_padded, fraction]
  decide

/-- A numeral of a base up to 16 is clean. -/
theorem notMem_toDigits {base : Nat} {c : Char} (large : 1 < base) (small : base ≤ 16)
    (noDigit : digitValue c = none) (n : Nat) : c ∉ Nat.toDigits base n :=
  fun member => digit_of_readDigits (readDigits_toDigits large small n) c member noDigit

theorem cleanCell_escapeChar (c : Char) : CleanCell (escapeChar c) := by
  have filled (width : Nat) : CleanCell (String.ofList (List.replicate
      (width - (Nat.toDigits 16 c.toNat).length) '0' ++ Nat.toDigits 16 c.toNat)) := by
    have noTab : '\t' ∉ Nat.toDigits 16 c.toNat := notMem_toDigits (by decide) (by decide) rfl _
    have noFeed : '\n' ∉ Nat.toDigits 16 c.toNat := notMem_toDigits (by decide) (by decide) rfl _
    simp [CleanCell, noTab, noFeed]
  unfold escapeChar
  dsimp only
  split
  · exact cleanCell_append.mpr ⟨by decide, filled 2⟩
  split
  · exact cleanCell_append.mpr ⟨by decide, filled 4⟩
  · exact cleanCell_append.mpr ⟨by decide, filled 8⟩

theorem cleanCell_reprChar {printable : Char → Bool} {quote c : Char}
    (plain : quote ≠ '\t' ∧ quote ≠ '\n') : CleanCell (reprChar printable quote c) := by
  unfold reprChar
  by_cases marked : c = quote ∨ c = '\\'
  · rw [if_pos marked]
    rcases marked with rfl | rfl
    · simp [CleanCell, plain.1.symm, plain.2.symm]
    · decide
  rw [if_neg marked]
  by_cases tab : c = '\t'
  · rw [if_pos tab]
    decide
  rw [if_neg tab]
  by_cases feed : c = '\n'
  · rw [if_pos feed]
    decide
  rw [if_neg feed]
  split
  · decide
  split
  · exact cleanCell_escapeChar c
  split
  · simp [CleanCell, Ne.symm tab, Ne.symm feed]
  · exact cleanCell_escapeChar c

/-- **The `repr` of a string is clean, whatever the string.** -/
theorem cleanCell_reprStr (printable : Char → Bool) (text : String) :
    CleanCell (reprStr printable text) := by
  have quoted (quote : Char) (plain : quote ≠ '\t' ∧ quote ≠ '\n') :
      CleanCell (String.ofList [quote] ++
        String.join (text.toList.map (reprChar printable quote)) ++ String.ofList [quote]) := by
    have mark : CleanCell (String.ofList [quote]) := by
      simp [CleanCell, plain.1.symm, plain.2.symm]
    refine cleanCell_append.mpr ⟨cleanCell_append.mpr ⟨mark, cleanCell_join.mpr ?_⟩, mark⟩
    intro part member
    obtain ⟨c, _, rfl⟩ := List.mem_map.mp member
    exact cleanCell_reprChar plain
  unfold reprStr
  dsimp only
  split
  · exact quoted '"' (by decide)
  · exact quoted '\'' (by decide)

theorem cleanCell_reprInstant (instant : Instant) : CleanCell (reprInstant instant) := by
  unfold reprInstant
  dsimp only
  rw [cleanCell_append, cleanCell_append, cleanCell_intercalate (by decide)]
  refine ⟨⟨by decide, ?_⟩, by decide⟩
  intro part member
  obtain ⟨n, _, rfl⟩ := List.mem_map.mp member
  exact cleanCell_int n

end Clean

end Certinspect
