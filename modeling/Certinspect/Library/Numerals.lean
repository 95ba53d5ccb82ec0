/-
**Reading numerals.**

`readDigits base acc digits` reads digits of a base up to 16, in either case, behind a number read
so far. It is the inverse of `Nat.toDigits`.

* `readDigits_append`, `readDigits_toDigits` — reading on, and the round trip.
* `readDigits_map` — a change of the characters that keeps the value of each keeps the number.
* `readInt`, `readInt_repr` — the same for integers, with zeros before them or not.
* `fromBase`, `digitsOf`, `fromBase_digitsOf` — a number and its digits to a power of two.
-/

import Mathlib.Algebra.Group.Nat.Defs
import Mathlib.Data.List.Basic
import Mathlib.Logic.Basic

namespace Certinspect.Library

section Numerals

/-- The value of a digit. -/
def digitValue (c : Char) : Option Nat :=
  if '0' ≤ c ∧ c ≤ '9' then some (c.toNat - 48)
  else if 'a' ≤ c ∧ c ≤ 'f' then some (c.toNat - 87)
  else if 'A' ≤ c ∧ c ≤ 'F' then some (c.toNat - 55)
  else none

/-- The number that digits write behind a number. -/
def readDigits (base acc : Nat) : List Char → Option Nat
  | [] => some acc
  | c :: rest =>
    match digitValue c with
    | some value => if value < base then readDigits base (acc * base + value) rest else none
    | none => none

variable {base acc n : Nat}

theorem readDigits_append (first second : List Char) :
    readDigits base acc (first ++ second) =
      (readDigits base acc first).bind fun read => readDigits base read second := by
  induction first generalizing acc with
  | nil => rfl
  | cons c rest ih =>
    rw [List.cons_append, readDigits, readDigits]
    cases digitValue c with
    | none => rfl
    | some value =>
      dsimp only
      by_cases small : value < base
      · rw [if_pos small, if_pos small, ih]
      · rw [if_neg small, if_neg small]
        rfl

theorem digitValue_digitChar {digit : Nat} (small : digit < 16) :
    digitValue (Nat.digitChar digit) = some digit := by
  have each : ∀ d : Fin 16, digitValue (Nat.digitChar d) = some d.val := by decide
  exact each ⟨digit, small⟩

/-- **What `Nat.toDigits` writes is read back.** -/
theorem readDigits_toDigits (large : 1 < base) (small : base ≤ 16) (n : Nat) :
    readDigits base 0 (Nat.toDigits base n) = some n := by
  have single (acc digit : Nat) (below : digit < base) :
      readDigits base acc [Nat.digitChar digit] = some (acc * base + digit) := by
    rw [readDigits, digitValue_digitChar (Nat.lt_of_lt_of_le below small)]
    dsimp only
    rw [if_pos below]
    rfl
  induction n using Nat.strongRecOn with
  | ind n ih =>
    rw [Nat.toDigits_eq_if large]
    by_cases below : n < base
    · rw [if_pos below, single 0 n below, Nat.zero_mul, Nat.zero_add]
    · have shorter : n / base < n := Nat.div_lt_self (by omega) large
      rw [if_neg below, readDigits_append, ih (n / base) shorter, Option.bind_some,
        single _ _ (Nat.mod_lt n (by omega)), Nat.mul_comm, Nat.div_add_mod]

/-- What is read consists of digits. -/
theorem digit_of_readDigits {digits : List Char} (read : readDigits base acc digits = some n) :
    ∀ c ∈ digits, digitValue c ≠ none := by
  induction digits generalizing acc with
  | nil => exact fun _ absurd => by cases absurd
  | cons c rest ih =>
    rw [readDigits] at read
    cases value : digitValue c with
    | none =>
      rw [value] at read
      cases read
    | some digit =>
      rw [value] at read
      dsimp only at read
      by_cases below : digit < base
      · rw [if_pos below] at read
        refine List.forall_mem_cons.mpr ⟨?_, ih read⟩
        rw [value]
        exact Option.some_ne_none digit
      · rw [if_neg below] at read
        cases read

/-- What keeps the value of every digit keeps the number. -/
theorem readDigits_map {f : Char → Char} (keeps : ∀ c, digitValue (f c) = digitValue c)
    (digits : List Char) : readDigits base acc (digits.map f) = readDigits base acc digits := by
  induction digits generalizing acc with
  | nil => rfl
  | cons c rest ih =>
    rw [List.map_cons, readDigits, readDigits, keeps]
    cases digitValue c with
    | none => rfl
    | some value =>
      dsimp only
      rw [ih]

/-! ### Integers -/

/-- A number is written with digits and a sign. -/
theorem mem_repr {c : Char} {number : Int} (member : c ∈ number.repr.toList) :
    c.isDigit = true ∨ c = '-' := by
  have digits (n : Nat) (inside : c ∈ n.repr.toList) : c.isDigit = true := by
    rw [Nat.toList_repr] at inside
    exact Nat.isDigit_of_mem_toDigits (by decide) (by decide) inside
  rw [Int.repr_eq_if] at member
  split at member
  · exact Or.inl (digits _ member)
  · rw [String.toList_append, List.mem_append] at member
    rcases member with sign | inside
    · exact Or.inr (by simpa using sign)
    · exact Or.inl (digits _ inside)

/-- No separator occurs in a number. -/
theorem notMem_repr {c : Char} (noDigit : c.isDigit = false) (noSign : c ≠ '-') (number : Int) :
    c ∉ number.repr.toList := by
  intro member
  rcases mem_repr member with digit | sign
  · rw [noDigit] at digit
    cases digit
  · exact noSign sign

theorem repr_ne_nil (number : Int) : number.repr.toList ≠ [] := by
  rw [Int.repr_eq_if]
  split
  · rw [Nat.toList_repr]
    exact Nat.toDigits_ne_nil
  · rw [String.toList_append]
    exact List.append_ne_nil_of_left_ne_nil (by decide) _

/-- The integer that a numeral writes, with zeros before it or not. -/
def readInt (text : List Char) : Option Int :=
  let digits := text.dropWhile fun c => c = '0'
  if digits.head? = some '-' then (readDigits 10 0 digits.tail).map fun n => -(n : Int)
  else (readDigits 10 0 digits).map fun n => (n : Int)

/-- Zeros before a numeral are read as nothing. -/
theorem readDigits_dropZeros (text : List Char) :
    readDigits 10 0 (text.dropWhile fun c => c = '0') = readDigits 10 0 text := by
  induction text with
  | nil => rfl
  | cons c rest ih =>
    by_cases zero : c = '0'
    · rw [List.dropWhile_cons, if_pos (decide_eq_true zero), ih, zero]
      rfl
    · rw [List.dropWhile_cons, if_neg (by simpa using zero)]

/-- **What `str` writes of an integer is read back**, with zeros before it or not. -/
theorem readInt_repr (zeros : Nat) (n : Int) :
    readInt (List.replicate zeros '0' ++ n.repr.toList) = some n := by
  have dropped : (List.replicate zeros '0' ++ n.repr.toList).dropWhile (fun c => c = '0') =
      n.repr.toList.dropWhile fun c => c = '0' :=
    List.dropWhile_append_of_pos fun c member => decide_eq_true (List.eq_of_mem_replicate member)
  unfold readInt
  dsimp only
  rw [dropped, Int.repr_eq_if]
  by_cases sign : 0 ≤ n
  · rw [if_pos sign, Nat.toList_repr]
    have noSign : ((Nat.toDigits 10 n.toNat).dropWhile fun c => c = '0').head? ≠ some '-' := by
      intro head
      have member := (List.dropWhile_sublist _).subset (List.mem_of_head? head)
      exact digit_of_readDigits (readDigits_toDigits (by decide) (by decide) n.toNat) _ member rfl
    rw [if_neg noSign, readDigits_dropZeros, readDigits_toDigits (by decide) (by decide)]
    exact congrArg some (Int.toNat_of_nonneg sign)
  · rw [if_neg sign, String.toList_append, Nat.toList_repr]
    have kept : ("-".toList ++ Nat.toDigits 10 (-n).toNat).dropWhile (fun c => c = '0') =
        '-' :: Nat.toDigits 10 (-n).toNat := rfl
    rw [kept, if_pos (List.head?_cons), List.tail_cons,
      readDigits_toDigits (by decide) (by decide)]
    have negated : -((-n).toNat : Int) = n := by omega
    exact congrArg some negated

/-! ### Digits to a power of two -/

/-- The number with these digits to the base `2 ^ width`, most significant first. -/
def fromBase (width : Nat) (digits : List Nat) : Nat :=
  digits.foldl (fun acc digit => acc * 2 ^ width + digit) 0

/-- The lowest digits of a number to the base `2 ^ width`, most significant first. -/
def digitsOf (width n : Nat) : Nat → List Nat
  | 0 => []
  | k + 1 => n / 2 ^ (width * k) % 2 ^ width :: digitsOf width n k

/-- The digits of a number behind what is above them. -/
theorem foldl_digitsOf (width n k : Nat) :
    (digitsOf width n k).foldl (fun acc digit => acc * 2 ^ width + digit) (n / 2 ^ (width * k)) =
      n := by
  induction k with
  | zero => exact Nat.div_one n
  | succ k ih =>
    have step : n / 2 ^ (width * (k + 1)) * 2 ^ width + n / 2 ^ (width * k) % 2 ^ width =
        n / 2 ^ (width * k) := by
      rw [Nat.mul_succ, Nat.pow_add, ← Nat.div_div_eq_div_mul, Nat.mul_comm, Nat.div_add_mod]
    rw [digitsOf, List.foldl_cons, step]
    exact ih

/-- **A number is made of its digits.** -/
theorem fromBase_digitsOf {width k : Nat} (below : n < 2 ^ (width * k)) :
    fromBase width (digitsOf width n k) = n := by
  have made := foldl_digitsOf width n k
  rw [Nat.div_eq_of_lt below] at made
  exact made

end Numerals

end Certinspect.Library
