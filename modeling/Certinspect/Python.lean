/-
**The Python the program is written in: exceptions, text, instants.**

* `ExcClass` — the exception classes the program raises, catches or lets pass, with the class
  hierarchy among them (`ExcClass.bases`); `PyErr` is a raised exception with its message.
* `Py σ α` — a computation on a state `σ` that returns an `α` or raises a `PyErr`;
  `except classes x` is `try: x` with one `except (classes)` clause, `exceptPure` the same for a
  computation that reads no state.
* `Uncaught classes x` — `x` raises past `except classes`; computed by `uncaught_bind` and
  `uncaught_except_bind`.
* `RaisesOnly classes x` — every exception of `x` is of these classes (`raisesOnly_bind`,
  `raisesOnly_except_bind`).
* `lower`, `startsWith`, `endsWith`, `occursIn`, `without`, `partition`, `strip`, `splitlines` — the
  string methods the code calls, on the list of characters; `reprBytes`, `base64Encode` — what it
  does with `bytes`.
* `SplitResult` — what `urlsplit` makes of a URL.
* `Instant` — a `datetime` in UTC, counted in microseconds, its arithmetic within the range of
  `datetime` (`Instant.shift`) and its text (`Instant.str`).
-/

import Certinspect.Library.Outcome
import Mathlib.Data.List.Infix

namespace Certinspect

open Library

/-! ### Exceptions -/

/-- The exception classes the program meets. -/
inductive ExcClass
  | osError
  | timeoutError
  | connectionError
  | gaierror
  | sslError
  | sslCertVerificationError
  | valueError
  | certificateLoadError
  | typeError
  | attributeError
  | httpException
  | invalidSignature
  | unsupportedAlgorithm
  | duplicateExtension
  | assertionError
  | unusableRevocationData
  | verificationError
  | keyError
  | overflowError
  | recursionError
  deriving DecidableEq, Repr

/-- The classes a class inherits from, among those above. -/
def ExcClass.bases : ExcClass → List ExcClass
  | .timeoutError | .connectionError | .gaierror | .sslError => [.osError]
  | .sslCertVerificationError => [.sslError, .osError, .valueError]
  | .certificateLoadError => [.valueError]
  | _ => []

/-- A raised exception: its class and its message, `str(err)`. -/
structure PyErr where
  cls : ExcClass
  message : String
  deriving DecidableEq, Repr

/-- Whether an `except (classes)` clause catches the exception. -/
def PyErr.isA (classes : List ExcClass) (err : PyErr) : Bool :=
  classes.any fun cls => err.cls == cls || err.cls.bases.contains cls

/-- A computation of the program: it may change the state and may raise. -/
abbrev Py (σ α : Type) : Type := EStateM PyErr σ α

/-- `raise cls(message)`. -/
def raise {σ α : Type} (cls : ExcClass) (message : String) : Py σ α := throw ⟨cls, message⟩

/-- `try: x` with one `except classes` clause; a caught exception is handed to the handler. -/
def except {σ α : Type} (classes : List ExcClass) (x : Py σ α) : Py σ (Except PyErr α) :=
  caught (PyErr.isA classes) x

/-- `except` for a computation that reads no state. -/
def exceptPure {α : Type} (classes : List ExcClass) (x : Except PyErr α) :
    Except PyErr (Except PyErr α) :=
  caughtExcept (PyErr.isA classes) x

section Rules

variable {σ α : Type} {s : σ} {E : PyErr → σ → Prop}

@[simp] theorem outcome_raise (cls : ExcClass) (message : String) {Q : α → σ → Prop} :
    Outcome (raise cls message : Py σ α) s Q E ↔ E ⟨cls, message⟩ s := Iff.rfl

@[simp] theorem outcome_except (classes : List ExcClass) (x : Py σ α)
    {R : Except PyErr α → σ → Prop} :
    Outcome (except classes x) s R E ↔
      Outcome x s (fun value after => R (.ok value) after)
        (fun raised after =>
          if raised.isA classes then R (.error raised) after else E raised after) :=
  outcome_caught _ _

theorem raises_except_bind {β : Type} {classes : List ExcClass} {x : Py σ α}
    {f : Except PyErr α → Py σ β} :
    Raises (except classes x >>= f) s ↔
      (∃ err after, x s = .error err after ∧
        (err.isA classes = true → Raises (f (.error err)) after)) ∨
      ∃ value after, x s = .ok value after ∧ Raises (f (.ok value)) after :=
  raises_caught_bind

@[simp] theorem exceptPure_ok (classes : List ExcClass) (value : α) :
    exceptPure classes (.ok value) = .ok (.ok value) := rfl

theorem exceptPure_error (classes : List ExcClass) (raised : PyErr) :
    exceptPure classes (.error raised : Except PyErr α) =
      if raised.isA classes then .ok (.error raised) else .error raised := rfl

end Rules

/-! ### What passes a handler -/

section Uncaught

variable {α β : Type} {classes : List ExcClass}

/-- The computation raises an exception that `except classes` does not catch. -/
def Uncaught (classes : List ExcClass) (x : Except PyErr α) : Prop :=
  ∃ err, x = .error err ∧ err.isA classes = false

theorem PyErr.isA_iff {err : PyErr} :
    err.isA classes = true ↔ ∃ cls ∈ classes, err.cls = cls ∨ cls ∈ err.cls.bases := by
  unfold PyErr.isA
  rw [List.any_eq_true]
  simp only [Bool.or_eq_true, beq_iff_eq, List.contains_iff_mem]

theorem PyErr.isA_cons (err : PyErr) (cls : ExcClass) (classes : List ExcClass) :
    err.isA (cls :: classes) = (err.isA [cls] || err.isA classes) := by
  simp [PyErr.isA]

theorem PyErr.isA_append (err : PyErr) (first second : List ExcClass) :
    err.isA (first ++ second) = (err.isA first || err.isA second) := List.any_append

theorem PyErr.isA_mono {err : PyErr} {classes wider : List ExcClass}
    (caught : err.isA classes = true) (sub : classes ⊆ wider) : err.isA wider = true := by
  obtain ⟨cls, member, same⟩ := PyErr.isA_iff.mp caught
  exact PyErr.isA_iff.mpr ⟨cls, sub member, same⟩

/-- A class without bases is caught only by name. -/
theorem PyErr.not_isA {err : PyErr} {cls : ExcClass} (raised : err.cls = cls)
    (bare : cls.bases = []) (absent : cls ∉ classes) : err.isA classes = false := by
  unfold PyErr.isA
  rw [List.any_eq_false]
  intro caught member
  have other : cls ≠ caught := fun same => absent (same ▸ member)
  simp [raised, bare, other]

@[simp] theorem not_uncaught_ok (value : α) : ¬ Uncaught classes (.ok value : Except PyErr α) :=
  fun ⟨_, absurd, _⟩ => by cases absurd

@[simp] theorem not_uncaught_pure (value : α) : ¬ Uncaught classes (pure value : Except PyErr α) :=
  not_uncaught_ok value

@[simp] theorem uncaught_error (err : PyErr) :
    Uncaught classes (.error err : Except PyErr α) ↔ err.isA classes = false :=
  ⟨fun ⟨_, same, passes⟩ => by cases same; exact passes, fun passes => ⟨err, rfl, passes⟩⟩

@[simp] theorem uncaught_nil (x : Except PyErr α) :
    Uncaught [] x ↔ ∃ err, x = .error err :=
  ⟨fun ⟨err, raised, _⟩ => ⟨err, raised⟩, fun ⟨err, raised⟩ => ⟨err, raised, rfl⟩⟩

theorem uncaught_bind {x : Except PyErr α} {f : α → Except PyErr β} :
    Uncaught classes (x >>= f) ↔
      Uncaught classes x ∨ ∃ value, x = .ok value ∧ Uncaught classes (f value) := by
  cases x with
  | ok value =>
    refine ⟨?_, ?_⟩
    · exact fun passes => Or.inr ⟨value, rfl, passes⟩
    · intro either
      rcases either with absurd | ⟨_, same, passes⟩
      · exact (not_uncaught_ok value absurd).elim
      · cases same
        exact passes
  | error err =>
    refine ⟨?_, ?_⟩
    · exact fun passes => Or.inl ((uncaught_error err).mpr ((uncaught_error err).mp passes))
    · intro either
      rcases either with passes | ⟨_, absurd, _⟩
      · exact (uncaught_error err).mpr ((uncaught_error err).mp passes)
      · cases absurd

/-- A conjunction evaluated from the left. -/
theorem uncaught_and {first second : Except PyErr Bool} :
    Uncaught classes (do if ← first then second else pure false) ↔
      Uncaught classes first ∨ (first = .ok true ∧ Uncaught classes second) := by
  rw [uncaught_bind]
  refine or_congr_right ⟨?_, fun ⟨holds, passes⟩ => ⟨true, holds, passes⟩⟩
  intro found
  obtain ⟨answer, holds, passes⟩ := found
  cases answer with
  | true => exact ⟨holds, passes⟩
  | false => exact (not_uncaught_pure false passes).elim

/-- A `try … except` inside: what passes its handler, or is raised in it or after it. -/
theorem uncaught_except_bind {inner : List ExcClass} {x : Except PyErr α}
    {f : Except PyErr α → Except PyErr β} :
    Uncaught classes (exceptPure inner x >>= f) ↔
      (∃ err, x = .error err ∧ (if err.isA inner then Uncaught classes (f (.error err))
        else err.isA classes = false)) ∨
      ∃ value, x = .ok value ∧ Uncaught classes (f (.ok value)) := by
  cases x with
  | ok value =>
    refine ⟨?_, ?_⟩
    · exact fun passes => Or.inr ⟨value, rfl, passes⟩
    · intro either
      rcases either with ⟨_, absurd, _⟩ | ⟨_, same, passes⟩
      · cases absurd
      · cases same
        exact passes
  | error err =>
    have here : Uncaught classes (exceptPure inner (.error err : Except PyErr α) >>= f) ↔
        (if err.isA inner then Uncaught classes (f (.error err)) else err.isA classes = false) := by
      rw [exceptPure_error]
      by_cases caught : err.isA inner = true
      · rw [if_pos caught, if_pos caught]
        exact Iff.rfl
      · rw [if_neg caught, if_neg caught]
        exact uncaught_error err
    rw [here]
    refine ⟨?_, ?_⟩
    · exact fun passes => Or.inl ⟨err, rfl, passes⟩
    · intro either
      rcases either with ⟨_, same, passes⟩ | ⟨_, absurd, _⟩
      · cases same
        exact passes
      · cases absurd

end Uncaught

/-! ### What a computation raises -/

section RaisesOnly

variable {σ α β : Type} {classes : List ExcClass}

/-- Every exception of the computation is of these classes. -/
def RaisesOnly (classes : List ExcClass) (x : Py σ α) : Prop :=
  ∀ s, Outcome x s (fun _ _ => True) fun err _ => err.isA classes = true

theorem raisesOnly_pure (value : α) : RaisesOnly classes (pure value : Py σ α) := fun _ => trivial

theorem raisesOnly_get : RaisesOnly classes (get : Py σ σ) := fun _ => trivial

theorem raisesOnly_modify (f : σ → σ) : RaisesOnly classes (modify f : Py σ PUnit) :=
  fun _ => trivial

theorem raisesOnly_throw {err : PyErr} (caught : err.isA classes = true) :
    RaisesOnly classes (throw err : Py σ α) := fun _ => caught

theorem raisesOnly_orRaise {x : Except PyErr α}
    (raises : ∀ err, x = .error err → err.isA classes = true) :
    RaisesOnly classes (orRaise x : Py σ α) := by
  intro s
  cases x with
  | ok value => exact trivial
  | error err => exact raises err rfl

theorem raisesOnly_bind {x : Py σ α} {f : α → Py σ β} (first : RaisesOnly classes x)
    (rest : ∀ value, RaisesOnly classes (f value)) : RaisesOnly classes (x >>= f) := by
  intro s
  rw [outcome_bind]
  exact outcome_mono (first s) (fun value after _ => rest value after) fun _ _ caught => caught

theorem raisesOnly_orRaise_bind {x : Except PyErr α} {f : α → Py σ β}
    (raises : ∀ err, x = .error err → err.isA classes = true)
    (rest : ∀ value, x = .ok value → RaisesOnly classes (f value)) :
    RaisesOnly classes (orRaise x >>= f) := by
  intro s
  cases x with
  | ok value => exact rest value rfl s
  | error err => exact raises err rfl

theorem RaisesOnly.mono {wider : List ExcClass} {x : Py σ α} (only : RaisesOnly classes x)
    (sub : classes ⊆ wider) : RaisesOnly wider x := by
  intro s
  exact outcome_mono (only s) (fun _ _ _ => trivial) fun _ _ caught => PyErr.isA_mono caught sub

/-- **A `try` raises what passes its handler and what the handler raises.** -/
theorem raisesOnly_except_bind {inner caught : List ExcClass} {x : Py σ α}
    {f : Except PyErr α → Py σ β} (only : RaisesOnly inner x)
    (passes : ∀ err : PyErr, err.isA inner = true → err.isA caught = false →
      err.isA classes = true)
    (returns : ∀ value, RaisesOnly classes (f (.ok value)))
    (handles : ∀ err : PyErr, err.isA inner = true → err.isA caught = true →
      RaisesOnly classes (f (.error err))) :
    RaisesOnly classes (except caught x >>= f) := by
  intro s
  rw [outcome_bind, outcome_except]
  refine outcome_mono (only s) (fun value after _ => returns value after) ?_
  intro err after known
  by_cases accepted : err.isA caught = true
  · rw [if_pos accepted]
    exact handles err known accepted after
  · rw [if_neg accepted]
    exact passes err known (Bool.eq_false_iff.mpr accepted)

end RaisesOnly

/-! ### Text and bytes -/

/-- A `bytes` object. -/
abbrev Bytes : Type := List UInt8

/-- The lower case of a character, as far as the result is ASCII: the Kelvin sign is the only other
one. -/
def lowerChar (c : Char) : Char := if c = Char.ofNat 0x212A then 'k' else c.toLower

/-- `text.lower()`, exact for comparisons with ASCII text. -/
def lower (text : String) : String := String.ofList (text.toList.map lowerChar)

@[simp] theorem toList_lower (text : String) : (lower text).toList = text.toList.map lowerChar :=
  String.toList_ofList

/-- A character in lower case is the character itself, or a lower-case letter. -/
theorem lowerChar_eq_or_letter (c : Char) :
    lowerChar c = c ∨ ('a' ≤ lowerChar c ∧ lowerChar c ≤ 'z') := by
  by_cases kelvin : c = Char.ofNat 0x212A
  · rw [kelvin]
    decide
  have lowered : lowerChar c = c.toLower := if_neg kelvin
  rw [lowered]
  by_cases upper : c.val ≥ 'A'.val ∧ c.val ≤ 'Z'.val
  · have code : c.toLower.val = c.val + ('a'.val - 'A'.val) := congrArg Char.val (dif_pos upper)
    have letters : ('a'.val - 'A'.val : UInt32) = 32 ∧ 'A'.val = 65 ∧ 'Z'.val = 90 := by decide
    rw [letters.1] at code
    rw [letters.2.1, letters.2.2] at upper
    obtain ⟨low, high⟩ := upper
    refine Or.inr ⟨?_, ?_⟩
    · show (97 : UInt32) ≤ c.toLower.val
      grind
    · show c.toLower.val ≤ (122 : UInt32)
      grind
  · exact Or.inl (dif_neg upper)

/-- What is no upper-case letter stays. -/
theorem lowerChar_of_not_upper {c : Char} (notKelvin : c ≠ Char.ofNat 0x212A)
    (other : ¬ (c.val ≥ 'A'.val ∧ c.val ≤ 'Z'.val)) : lowerChar c = c := by
  unfold lowerChar
  rw [if_neg notKelvin]
  exact dif_neg other

/-- A lower-case letter stays. -/
theorem lowerChar_of_letter {c : Char} (low : 'a' ≤ c) (high : c ≤ 'z') : lowerChar c = c := by
  refine lowerChar_of_not_upper ?_ ?_
  · intro same
    rw [same] at high
    revert high
    decide
  · intro upper
    have below : (97 : UInt32) ≤ c.val := low
    have above : c.val ≤ (90 : UInt32) := upper.2
    grind

/-- What comes before the letters stays. -/
theorem lowerChar_of_lt {c : Char} (before : c < 'A') : lowerChar c = c := by
  refine lowerChar_of_not_upper ?_ ?_
  · intro same
    rw [same] at before
    revert before
    decide
  · intro upper
    have below : c.val < (65 : UInt32) := before
    have above : (65 : UInt32) ≤ c.val := upper.1
    grind

/-- A character in lower case stays. -/
theorem lowerChar_lowerChar (c : Char) : lowerChar (lowerChar c) = lowerChar c := by
  rcases lowerChar_eq_or_letter c with same | letter
  · rw [same, same]
  · exact lowerChar_of_letter letter.1 letter.2

/-- Only a character that is no letter becomes one that is no letter. -/
theorem lowerChar_eq_iff {c symbol : Char} (other : ¬ ('a' ≤ symbol ∧ symbol ≤ 'z'))
    (still : lowerChar symbol = symbol) : lowerChar c = symbol ↔ c = symbol := by
  refine ⟨fun same => ?_, fun same => same ▸ still⟩
  rcases lowerChar_eq_or_letter c with itself | letter
  · exact itself.symm.trans same
  · exact (other (same ▸ letter)).elim

/-- `text.startswith(prefix)`. -/
def startsWith (text start : String) : Bool := start.toList.isPrefixOf text.toList

/-- `part in text`. -/
def occursIn (part text : String) : Bool := text.toList.tails.any part.toList.isPrefixOf

theorem occursIn_iff {part text : String} :
    occursIn part text = true ↔ part.toList <:+: text.toList := by
  unfold occursIn
  rw [List.any_eq_true, List.infix_iff_prefix_suffix]
  refine exists_congr fun rest => ?_
  rw [List.mem_tails, List.isPrefixOf_iff_prefix, and_comm]

/-- `text.replace(c, "")` for one character. -/
def without (c : Char) (text : String) : String := String.ofList (text.toList.filter (· != c))

/-- `text.replace(c, new)` for one character. -/
def replaceChar (c : Char) (new : String) (text : String) : String :=
  String.ofList (text.toList.flatMap fun d => if d = c then new.toList else [d])

/-- `text.partition(c)`, without the separator itself. -/
def partition (c : Char) (text : String) : String × String :=
  (String.ofList (text.toList.takeWhile (· != c)),
    String.ofList ((text.toList.dropWhile (· != c)).drop 1))

/-- `text.endswith(end)`. -/
def endsWith (text tail : String) : Bool := tail.toList.isSuffixOf text.toList

/-- `c.isspace()`. -/
def isSpace (c : Char) : Bool :=
  let n := c.toNat
  (9 ≤ n && n ≤ 13) || (28 ≤ n && n ≤ 32) || n == 0x85 || n == 0xA0 || n == 0x1680 ||
    (0x2000 ≤ n && n ≤ 0x200A) || n == 0x2028 || n == 0x2029 || n == 0x202F || n == 0x205F ||
    n == 0x3000

/-- `text.rstrip(chars)`, for the characters that `drop` accepts. -/
def rstripBy (drop : Char → Bool) (text : String) : String :=
  String.ofList (text.toList.reverse.dropWhile drop).reverse

/-- `text.strip(chars)`, for the characters that `drop` accepts. -/
def stripBy (drop : Char → Bool) (text : String) : String :=
  rstripBy drop (String.ofList (text.toList.dropWhile drop))

/-- `text.strip()`. -/
def strip (text : String) : String := stripBy isSpace text

/-- Where `splitlines` ends a line. -/
def isLineBoundary (c : Char) : Bool :=
  let n := c.toNat
  (10 ≤ n && n ≤ 13) || (28 ≤ n && n ≤ 30) || n == 0x85 || n == 0x2028 || n == 0x2029

/-- The lines of a text, the one being read so far in reverse. -/
def linesFrom (line : List Char) : List Char → List (List Char)
  | [] => if line = [] then [] else [line.reverse]
  | '\r' :: '\n' :: rest => line.reverse :: linesFrom [] rest
  | c :: rest =>
    if isLineBoundary c then line.reverse :: linesFrom [] rest else linesFrom (c :: line) rest

/-- `text.splitlines()`. -/
def splitlines (text : String) : List String := (linesFrom [] text.toList).map String.ofList

/-- A string option that is given and not empty: a true value. -/
def given (option : Option String) : Option String := option.filter (· != "")

/-- `data.startswith(prefix)` of two `bytes` objects. -/
def bytesStartWith (data start : Bytes) : Bool := start.isPrefixOf data

/-- `part in data` of two `bytes` objects. -/
def bytesContain (data part : Bytes) : Bool := data.tails.any part.isPrefixOf

/-- The bytes of an ASCII literal. -/
def ascii (text : String) : Bytes := text.toList.map fun c => UInt8.ofNat c.toNat

/-- The hexadecimal digits of a byte. -/
def hexDigits (alphabet : String) (byte : UInt8) : List Char :=
  [alphabet.toList.getD (byte.toNat / 16) '0', alphabet.toList.getD (byte.toNat % 16) '0']

/-- One byte of a `bytes` literal, in quotes of the given kind. -/
def reprByte (quote : Char) (byte : UInt8) : String :=
  let c := Char.ofNat byte.toNat
  if c = quote ∨ c = '\\' then String.ofList ['\\', c]
  else if c = '\t' then "\\t"
  else if c = '\n' then "\\n"
  else if c = '\r' then "\\r"
  else if 32 ≤ byte.toNat ∧ byte.toNat < 127 then String.ofList [c]
  else String.ofList ('\\' :: 'x' :: hexDigits "0123456789abcdef" byte)

/-- `repr(data)` of a `bytes` object. -/
def reprBytes (data : Bytes) : String :=
  let quote := if data.contains 39 && !data.contains 34 then '"' else '\''
  "b" ++ String.ofList [quote] ++ String.join (data.map (reprByte quote)) ++ String.ofList [quote]

/-- The base64 alphabet. -/
def base64Alphabet : List Char :=
  "ABCDEFGHIJKLMNOPQRSTUVWXYZabcdefghijklmnopqrstuvwxyz0123456789+/".toList

/-- The base64 character of a number below 64. -/
def base64Char (sextet : Nat) : Char := base64Alphabet.getD sextet '='

/-- `base64.b64encode(data)`, as characters. -/
def base64Encode : Bytes → List Char
  | [] => []
  | [a] => [base64Char (a.toNat / 4), base64Char (a.toNat % 4 * 16), '=', '=']
  | [a, b] => [base64Char (a.toNat / 4), base64Char (a.toNat % 4 * 16 + b.toNat / 16),
      base64Char (b.toNat % 16 * 4), '=']
  | a :: b :: c :: rest => base64Char (a.toNat / 4) ::
      base64Char (a.toNat % 4 * 16 + b.toNat / 16) ::
      base64Char (b.toNat % 16 * 4 + c.toNat / 64) :: base64Char (c.toNat % 64) ::
      base64Encode rest

/-- Whether a character is ASCII. -/
def isAscii (c : Char) : Bool := c.toNat < 128

/-- A non-ASCII character as an error message quotes it. -/
def escapeChar (c : Char) : String :=
  let digits := Nat.toDigits 16 c.toNat
  let filled (width : Nat) := String.ofList (List.replicate (width - digits.length) '0' ++ digits)
  if c.toNat < 0x100 then "\\x" ++ filled 2
  else if c.toNat < 0x10000 then "\\u" ++ filled 4
  else "\\U" ++ filled 8

/-- `text.encode("ascii")`; a `UnicodeEncodeError` is a `ValueError`. -/
def encodeAscii (text : String) : Except PyErr Bytes :=
  match text.toList.dropWhile isAscii with
  | [] => .ok (ascii text)
  | first :: rest =>
    let start := (text.toList.takeWhile isAscii).length
    let more := (rest.takeWhile fun c => !isAscii c).length
    let place :=
      if more = 0 then s!"character '{escapeChar first}' in position {start}"
      else s!"characters in position {start}-{start + more}"
    .error ⟨.valueError, s!"'ascii' codec can't encode {place}: ordinal not in range(128)"⟩

/-- `text.encode()`. -/
def encodeUtf8 (text : String) : Bytes := text.toList.flatMap String.utf8EncodeChar

/-- `data.decode("latin-1").strip()`. -/
def decodeStripped (data : Bytes) : String :=
  let isSpace (byte : UInt8) : Bool :=
    (9 ≤ byte && byte ≤ 13) || (28 ≤ byte && byte ≤ 32) || byte == 0x85 || byte == 0xa0
  let stripped := ((data.dropWhile isSpace).reverse.dropWhile isSpace).reverse
  String.ofList (stripped.map fun byte => Char.ofNat byte.toNat)

/-- `data.split()` of a `bytes` object. -/
def splitFields (data : Bytes) : List Bytes :=
  (data.splitOnP fun byte => (9 ≤ byte && byte ≤ 13) || byte == 32).filter (· != [])

/-- `data.split(b"\r\n", 1)[0]`. -/
def firstLine : Bytes → Bytes
  | [] => []
  | [byte] => [byte]
  | byte :: next :: rest =>
    if byte = 13 ∧ next = 10 then [] else byte :: firstLine (next :: rest)

/-- The result of `urlsplit`, as far as the program reads it; `.port` raises on a bad port. -/
structure SplitResult where
  hostname : Option String
  port : Except PyErr (Option Nat)
  username : Option String := none
  password : Option String := none

/-! ### Instants -/

/-- A `datetime` in UTC, in microseconds since 1970-01-01. -/
abbrev Instant : Type := Int

namespace Instant

/-- `timedelta(minutes=n)`. -/
def minutes (n : Int) : Int := n * 60000000

/-- `timedelta(days=1)`. -/
def day : Int := 86400000000

/-- `datetime.min`, the first microsecond of year 1. -/
def earliest : Instant := -62135596800000000

/-- `datetime.max`, the last microsecond of year 9999. -/
def latest : Instant := 253402300799999999

/-- The instants that a `datetime` can hold. -/
def InRange (instant : Instant) : Prop := earliest ≤ instant ∧ instant ≤ latest

instance (instant : Instant) : Decidable (InRange instant) :=
  inferInstanceAs (Decidable (_ ∧ _))

/-- `instant + delta`, an `OverflowError` outside the range of `datetime`. -/
def shift (instant : Instant) (delta : Int) : Except PyErr Instant :=
  if InRange (instant + delta) then .ok (instant + delta)
  else .error ⟨.overflowError, "date value out of range"⟩

theorem shift_ok_iff {instant moved : Instant} {delta : Int} :
    shift instant delta = .ok moved ↔ InRange (instant + delta) ∧ instant + delta = moved := by
  unfold shift
  split <;> simp_all

theorem shift_error_iff {instant : Instant} {delta : Int} {err : PyErr} :
    shift instant delta = .error err ↔
      ¬ InRange (instant + delta) ∧ err = ⟨.overflowError, "date value out of range"⟩ := by
  unfold shift
  split <;> simp_all [eq_comm]

/-- `(later - earlier).days`: whole days, rounded towards the past. -/
def daysBetween (earlier later : Instant) : Int := (later - earlier) / day

/-- The civil date of a day counted from 1970-01-01, as (year, month, day). -/
def civil (days : Int) : Int × Int × Int :=
  let shifted := days + 719468
  let era := shifted / 146097
  let dayOfEra := shifted % 146097
  let yearOfEra :=
    (dayOfEra - dayOfEra / 1460 + dayOfEra / 36524 - dayOfEra / 146096) / 365
  let dayOfYear := dayOfEra - (365 * yearOfEra + yearOfEra / 4 - yearOfEra / 100)
  let monthIndex := (5 * dayOfYear + 2) / 153
  let month := if monthIndex < 10 then monthIndex + 3 else monthIndex - 9
  (yearOfEra + era * 400 + (if month ≤ 2 then 1 else 0), month,
    dayOfYear - (153 * monthIndex + 2) / 5 + 1)

/-- A decimal numeral, filled with zeros up to `width` digits. -/
def padded (width : Nat) (n : Int) : String :=
  let digits := toString n
  String.ofList (List.replicate (width - digits.length) '0') ++ digits

/-- The day of a civil date, counted from 1970-01-01. -/
def ofCivil (year month dayOfMonth : Int) : Int :=
  let shifted := if month ≤ 2 then year - 1 else year
  let era := shifted / 400
  let yearOfEra := shifted % 400
  let dayOfYear := (153 * (if month > 2 then month - 3 else month + 9) + 2) / 5 + dayOfMonth - 1
  let dayOfEra := yearOfEra * 365 + yearOfEra / 4 - yearOfEra / 100 + dayOfYear
  era * 146097 + dayOfEra - 719468

example : earliest = ofCivil 1 1 1 * day ∧ latest + 1 = ofCivil 10000 1 1 * day := by decide

/-- `f"{instant:%Y-%m-%d}"`. -/
def dateStr (instant : Instant) : String :=
  let (year, month, dayOfMonth) := civil (instant / day)
  padded 4 year ++ "-" ++ padded 2 month ++ "-" ++ padded 2 dayOfMonth

/-- `str(instant)`. -/
def str (instant : Instant) : String :=
  let second := instant % day / 1000000
  let micro := instant % 1000000
  let fraction := if micro = 0 then "" else "." ++ padded 6 micro
  dateStr instant ++ " " ++
    padded 2 (second / 3600) ++ ":" ++ padded 2 (second / 60 % 60) ++ ":" ++
    padded 2 (second % 60) ++ fraction ++ "+00:00"

end Instant

end Certinspect
