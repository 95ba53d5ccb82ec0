/-
**The performance data of a monitoring plugin.**

A plugin prints a line `STATE: text | label=value;warning;critical`. A threshold is a range of values
that are no reason to alert: `N:` is everything from `N` on. Whoever draws a graph evaluates the ranges
again, the critical one before the warning one.

* `Range`, `Datum` — a range and a datum; `Range.alerts`, `Datum.state` evaluate them.
* `readRange`, `readDatum`, `printedState`, `graphedState` — reading the line of a plugin.
* `readDatum_below` — a datum with two thresholds `N:` is read back.
* **`state_below`** — its state, by comparing the value with the two numbers.
-/

import Certinspect.Library.Exposition

namespace Certinspect.Library

/-! ### Ranges and data -/

/-- What a check reports when it has an answer. -/
inductive PluginState
  | ok
  | warning
  | critical
  deriving DecidableEq, Repr

/-- The word a line starts with. -/
def PluginState.label : PluginState → String
  | .ok => "OK"
  | .warning => "WARNING"
  | .critical => "CRITICAL"

/-- The values from `low` to `high`, a missing bound being infinite. -/
structure Range where
  low : Option Int
  high : Option Int
  inverted : Bool := false
  deriving DecidableEq, Repr

namespace Range

def contains (range : Range) (value : Int) : Bool :=
  range.low.all (fun low => low ≤ value) && range.high.all fun high => value ≤ high

/-- A value outside the range alerts, of an inverted range one inside. -/
def alerts (range : Range) (value : Int) : Bool := range.contains value == range.inverted

/-- The range that alerts below a number. -/
def below (low : Int) : Range := ⟨some low, none, false⟩

end Range

/-- One datum: a value and its thresholds. -/
structure Datum where
  label : String
  value : Int
  warning : Option Range
  critical : Option Range
  deriving DecidableEq, Repr

/-- The state of a datum: the critical range is tried first. -/
def Datum.state (datum : Datum) : PluginState :=
  if datum.critical.any fun range => range.alerts datum.value then .critical
  else if datum.warning.any fun range => range.alerts datum.value then .warning
  else .ok

/-! ### Reading -/

/-- A bound of a range: `~` is minus infinity, and nothing is the bound that goes without saying. -/
def readBound (unsaid : Option Int) (text : List Char) : Option (Option Int) :=
  if text = [] then some unsaid
  else if text = ['~'] then some none
  else (String.ofList text).toInt?.map some

/-- `[start:][end]`, from 0 when there is no start. -/
def readBounds (text : List Char) : Option Range :=
  match text.splitOn ':' with
  | [high] => do
    let high ← readBound none high
    pure ⟨some 0, high, false⟩
  | [low, high] => do
    let low ← readBound (some 0) low
    let high ← readBound none high
    pure ⟨low, high, false⟩
  | _ => none

/-- `[@][start:][end]`. -/
def readRange : List Char → Option Range
  | '@' :: text => (readBounds text).map fun range => { range with inverted := true }
  | text => readBounds text

/-- A threshold, which may be left out. -/
def readThreshold (text : List Char) : Option (Option Range) :=
  if text = [] then some none else (readRange text).map some

/-- `label=value;warning;critical`; what follows the thresholds is not read. -/
def readDatum (text : List Char) : Option Datum :=
  match ((text.dropWhile (· != '=')).drop 1).splitOn ';' with
  | value :: thresholds => do
    let value ← (String.ofList value).toInt?
    let warning ← readThreshold (thresholds.getD 0 [])
    let critical ← readThreshold (thresholds.getD 1 [])
    pure ⟨String.ofList (text.takeWhile (· != '=')), value, warning, critical⟩
  | [] => none

/-- The word before the first colon. -/
def printedState (line : String) : String := String.ofList (line.toList.takeWhile (· != ':'))

/-- What follows the last `|`, less leading blanks. -/
def perfdata (line : List Char) : List Char :=
  (line.reverse.takeWhile (· != '|')).reverse.dropWhile (· == ' ')

/-- The state of the datum on a line. -/
def graphedState (line : String) : Option PluginState :=
  (readDatum (perfdata line.toList)).map Datum.state

/-! ### Thresholds of the form `N:` -/

section Below

/-- A datum that warns below one number and is critical below another. -/
def datumBelow (label : String) (value warning critical : Int) : Datum :=
  ⟨label, value, some (.below warning), some (.below critical)⟩

/-- That datum, as it is written. -/
def writeBelow (label : String) (value warning critical : Int) : String :=
  label ++ "=" ++ value.repr ++ ";" ++ warning.repr ++ ":;" ++ critical.repr ++ ":"

theorem alerts_below {low value : Int} : (Range.below low).alerts value = decide (value < low) := by
  unfold Range.alerts Range.contains Range.below
  by_cases under : value < low
  · simp [under]
  · simp [under, Int.not_lt.mp under]

/-- **The state, by comparing with the two numbers.** -/
theorem state_below (label : String) (value warning critical : Int) :
    (datumBelow label value warning critical).state =
      if value < critical then .critical else if value < warning then .warning else .ok := by
  unfold Datum.state datumBelow
  simp only [Option.any_some, alerts_below, decide_eq_true_eq]

/-- A bound that is a number. -/
theorem readBound_repr (unsaid : Option Int) (number : Int) :
    readBound unsaid number.repr.toList = some (some number) := by
  unfold readBound
  rw [if_neg (repr_ne_nil number), if_neg, String.ofList_toList, Int.toInt?_repr]
  · rfl
  · intro tilde
    have member : '~' ∈ number.repr.toList := tilde ▸ List.mem_singleton_self _
    exact notMem_repr rfl (by decide) number member

/-- A range without the mark of an inverted one. -/
theorem readRange_plain {text : List Char} (plain : '@' ∉ text) :
    readRange text = readBounds text := by
  cases text with
  | nil => rfl
  | cons first rest =>
    have other : first ≠ '@' := fun same => plain (same ▸ List.mem_cons_self)
    unfold readRange
    split
    · rename_i mark
      exact (other (List.cons.inj mark).1).elim
    · rfl

/-- A threshold that alerts below a number, as it is written. -/
def writtenBelow (low : Int) : List Char := low.repr.toList ++ [':']

theorem notMem_writtenBelow {c : Char} (noDigit : c.isDigit = false) (noSign : c ≠ '-')
    (noColon : c ≠ ':') (low : Int) : c ∉ writtenBelow low := by
  unfold writtenBelow
  rw [List.mem_append, List.mem_singleton, not_or]
  exact ⟨notMem_repr noDigit noSign low, noColon⟩

theorem readThreshold_below (low : Int) :
    readThreshold (writtenBelow low) = some (some (.below low)) := by
  have noColon : ':' ∉ low.repr.toList := notMem_repr rfl (by decide) low
  have bounds : (writtenBelow low).splitOn ':' = [low.repr.toList, []] := by
    unfold writtenBelow
    rw [List.splitOn_append_cons_self_of_not_mem noColon, List.splitOn_nil]
  have filled : writtenBelow low ≠ [] :=
    List.append_ne_nil_of_right_ne_nil _ (List.cons_ne_nil _ _)
  unfold readThreshold
  rw [if_neg filled,
    readRange_plain (notMem_writtenBelow rfl (by decide) (by decide) low)]
  unfold readBounds
  rw [bounds]
  simp only [readBound_repr, Option.bind_eq_bind, Option.bind_some]
  rfl

/-- **A written datum is read back.** -/
theorem readDatum_below {label : String} (clean : '=' ∉ label.toList) (value warning critical : Int) :
    readDatum (writeBelow label value warning critical).toList =
      some (datumBelow label value warning critical) := by
  have shape : (writeBelow label value warning critical).toList = label.toList ++ '=' ::
      (value.repr.toList ++ ';' :: (writtenBelow warning ++ ';' :: writtenBelow critical)) := by
    unfold writeBelow writtenBelow
    simp
  obtain ⟨name, rest⟩ := takeWhile_append_stop (value.repr.toList ++ ';' ::
    (writtenBelow warning ++ ';' :: writtenBelow critical)) clean
  have fields : (value.repr.toList ++ ';' ::
      (writtenBelow warning ++ ';' :: writtenBelow critical)).splitOn ';' =
        [value.repr.toList, writtenBelow warning, writtenBelow critical] := by
    have noSemicolon (low : Int) : ';' ∉ writtenBelow low :=
      notMem_writtenBelow rfl (by decide) (by decide) low
    rw [List.splitOn_append_cons_self_of_not_mem (notMem_repr rfl (by decide) value),
      List.splitOn_append_cons_self_of_not_mem (noSemicolon warning),
      List.splitOn_eq_singleton (noSemicolon critical)]
  unfold readDatum
  rw [shape, name, rest, List.drop_one, List.tail_cons, fields]
  simp only [String.ofList_toList, Int.toInt?_repr, Option.bind_eq_bind, Option.bind_some,
    List.getD_cons_zero, List.getD_cons_succ, readThreshold_below]
  rfl

/-- The datum at the end of a line. -/
theorem perfdata_append {text data : List Char} (noBar : '|' ∉ data)
    (start : data.head? ≠ some ' ') : perfdata (text ++ '|' :: ' ' :: data) = data := by
  have reversed : (text ++ '|' :: ' ' :: data).reverse =
      (' ' :: data).reverse ++ '|' :: text.reverse := by
    simp
  have noBarToo : '|' ∉ (' ' :: data).reverse := by
    simp [noBar]
  unfold perfdata
  rw [reversed, (takeWhile_append_stop text.reverse noBarToo).1, List.reverse_reverse,
    List.dropWhile_cons_of_pos (by decide)]
  cases data with
  | nil => rfl
  | cons first rest =>
    rw [List.dropWhile_cons_of_neg]
    intro blank
    exact start (congrArg some (beq_iff_eq.mp blank))

end Below

end Certinspect.Library
