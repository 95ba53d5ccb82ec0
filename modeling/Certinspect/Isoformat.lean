/-
**Instants as ISO 8601 texts, `datetime.isoformat`.**

The text of an instant in UTC has fields of a fixed width behind the year, so it is read from both ends
of its date and from the start of its time.

* `isoformat` — the text; `ofIsoformat` — the instant of a text.
* `ofCivil_civil` — a day is the day of its civil date.
* `readDate_dateStr`, `readClock_clockText` — the two parts.
* **`ofIsoformat_isoformat`** — the instant is read back, to the microsecond.
-/

import Certinspect.Library.Numerals
import Certinspect.Python

namespace Certinspect.Instant

open Library

/-! ### The text -/

/-- The microseconds of a second, left out when there are none. -/
def fractionText (micro : Int) : String := if micro = 0 then "" else "." ++ padded 6 micro

/-- The time of a day, counted in microseconds. -/
def clockText (passed : Int) : String :=
  let second := passed / 1000000
  padded 2 (second / 3600) ++ ":" ++ padded 2 (second / 60 % 60) ++ ":" ++ padded 2 (second % 60) ++
    fractionText (passed % 1000000) ++ "+00:00"

/-- `instant.isoformat()`. -/
def isoformat (instant : Instant) : String :=
  dateStr instant ++ "T" ++ clockText (instant % day)

/-! ### Reading it -/

/-- The day that a date writes, counted from 1970-01-01. -/
def readDate (date : List Char) : Option Int := do
  let year ← readInt (date.take (date.length - 6))
  let month ← readInt ((date.drop (date.length - 5)).take 2)
  let dayOfMonth ← readInt (date.drop (date.length - 2))
  pure (ofCivil year month dayOfMonth)

/-- The microseconds of a second, none when there is no fraction. -/
def readFraction (text : List Char) : Option Int :=
  if text.head? = some '.' then readInt (text.tail.take 6) else some 0

/-- The microseconds that a time of day writes. -/
def readClock (clock : List Char) : Option Int := do
  let hour ← readInt (clock.take 2)
  let minute ← readInt ((clock.drop 3).take 2)
  let second ← readInt ((clock.drop 6).take 2)
  let micro ← readFraction (clock.drop 8)
  pure ((hour * 3600 + minute * 60 + second) * 1000000 + micro)

/-- The instant that a text writes. -/
def ofIsoformat (text : String) : Option Instant := do
  let days ← readDate (text.toList.takeWhile fun c => c ≠ 'T')
  let passed ← readClock (text.toList.dropWhile fun c => c ≠ 'T').tail
  pure (days * day + passed)

/-! ### The calendar -/

section Calendar

/-- The day of a year that starts in March is within it. -/
theorem dayOfYear_bounds {dayOfEra years centuries eras yearOfEra : Int} (low : 0 ≤ dayOfEra)
    (high : dayOfEra < 146097) (fourth : years = dayOfEra / 1460)
    (hundredth : centuries = dayOfEra / 36524) (last : eras = dayOfEra / 146096)
    (year : yearOfEra = (dayOfEra - years + centuries - eras) / 365) :
    0 ≤ dayOfEra - (365 * yearOfEra + yearOfEra / 4 - yearOfEra / 100) ∧
      dayOfEra - (365 * yearOfEra + yearOfEra / 4 - yearOfEra / 100) ≤ 365 := by
  have century : centuries = 0 ∨ centuries = 1 ∨ centuries = 2 ∨ centuries = 3 ∨
    centuries = 4 := by omega
  have era : eras = 0 ∨ eras = 1 := by omega
  have skipped : yearOfEra / 100 = 0 ∨ yearOfEra / 100 = 1 ∨ yearOfEra / 100 = 2 ∨
    yearOfEra / 100 = 3 := by omega
  rcases century with rfl | rfl | rfl | rfl | rfl <;> rcases era with rfl | rfl <;>
    rcases skipped with skipped | skipped | skipped | skipped <;> omega

/-- The day of a date that is counted in years from March of year 0. -/
theorem ofCivil_parts {era yearOfEra dayOfYear index month : Int} (firstYear : 0 ≤ yearOfEra)
    (lastYear : yearOfEra ≤ 399) (first : 0 ≤ dayOfYear) (last : dayOfYear ≤ 365)
    (counted : index = (5 * dayOfYear + 2) / 153)
    (shifted : month = if index < 10 then index + 3 else index - 9) :
    ofCivil (yearOfEra + era * 400 + (if month ≤ 2 then 1 else 0)) month
        (dayOfYear - (153 * index + 2) / 5 + 1) =
      era * 146097 + (yearOfEra * 365 + yearOfEra / 4 - yearOfEra / 100 + dayOfYear) - 719468 := by
  unfold ofCivil
  by_cases early : index < 10
  · rw [if_pos early] at shifted
    rw [if_neg (by omega : ¬ month ≤ 2), if_neg (by omega : ¬ month ≤ 2),
      if_pos (by omega : month > 2)]
    dsimp only
    omega
  · rw [if_neg early] at shifted
    rw [if_pos (by omega : month ≤ 2), if_pos (by omega : month ≤ 2),
      if_neg (by omega : ¬ month > 2)]
    dsimp only
    omega

/-- **A day is the day of its civil date.** -/
theorem ofCivil_civil (days : Int) :
    ofCivil (civil days).1 (civil days).2.1 (civil days).2.2 = days := by
  have low : 0 ≤ (days + 719468) % 146097 := Int.emod_nonneg _ (by decide)
  have high : (days + 719468) % 146097 < 146097 := Int.emod_lt_of_pos _ (by decide)
  obtain ⟨first, last⟩ := dayOfYear_bounds low high rfl rfl rfl rfl
  refine (ofCivil_parts ?_ ?_ first last rfl rfl).trans ?_
  all_goals omega

/-- A month and a day of a month have at most two digits. -/
theorem civil_bounds (days : Int) : 0 ≤ (civil days).2.1 ∧ (civil days).2.1 < 100 ∧
    0 ≤ (civil days).2.2 ∧ (civil days).2.2 < 100 := by
  have low : 0 ≤ (days + 719468) % 146097 := Int.emod_nonneg _ (by decide)
  have high : (days + 719468) % 146097 < 146097 := Int.emod_lt_of_pos _ (by decide)
  obtain ⟨first, last⟩ := dayOfYear_bounds low high rfl rfl rfl rfl
  unfold civil
  dsimp only
  refine ⟨?_, ?_, ?_, ?_⟩
  · split <;> omega
  · split <;> omega
  · omega
  · omega

end Calendar

/-! ### Padded numerals -/

section Padded

variable {width : Nat} {n : Int}

theorem padded_toList (width : Nat) (n : Int) : (padded width n).toList =
    List.replicate (width - n.repr.length) '0' ++ n.repr.toList := by
  unfold padded
  rw [String.toList_append, String.toList_ofList]
  rfl

theorem readInt_padded (width : Nat) (n : Int) : readInt (padded width n).toList = some n := by
  rw [padded_toList, readInt_repr]

theorem notMem_padded {c : Char} (noDigit : c.isDigit = false) (noSign : c ≠ '-') (noZero : c ≠ '0')
    (width : Nat) (n : Int) : c ∉ (padded width n).toList := by
  rw [padded_toList, List.mem_append, not_or]
  exact ⟨fun zero => noZero (List.eq_of_mem_replicate zero), notMem_repr noDigit noSign n⟩

/-- A number that fits is as long as its field. -/
theorem length_padded (some : 0 < width) (low : 0 ≤ n) (high : n.toNat < 10 ^ width) :
    (padded width n).toList.length = width := by
  have digits : n.repr.toList.length ≤ width := by
    rw [Int.repr_eq_if, if_pos low, Nat.toList_repr, Nat.length_toDigits_le_iff (by decide) some]
    exact high
  rw [padded_toList, List.length_append, List.length_replicate, ← String.length_toList]
  omega

/-- A field of two digits. -/
theorem length_field (low : 0 ≤ n) (high : n < 100) : (padded 2 n).toList.length = 2 :=
  length_padded (by decide) low (by omega)

end Padded

/-! ### Reading back -/

/-- A date with two digits for the month and for the day. -/
theorem readDate_parts {year month dayOfMonth : List Char} (monthWidth : month.length = 2)
    (dayWidth : dayOfMonth.length = 2) :
    readDate (year ++ '-' :: (month ++ '-' :: dayOfMonth)) = (do
      let year ← readInt year
      let month ← readInt month
      let dayOfMonth ← readInt dayOfMonth
      pure (ofCivil year month dayOfMonth)) := by
  have width : (year ++ '-' :: (month ++ '-' :: dayOfMonth)).length = year.length + 6 := by
    simp [monthWidth, dayWidth]
  have beforeMonth : year ++ '-' :: (month ++ '-' :: dayOfMonth) =
      (year ++ ['-']) ++ (month ++ '-' :: dayOfMonth) := by simp
  have beforeDay : year ++ '-' :: (month ++ '-' :: dayOfMonth) =
      (year ++ '-' :: (month ++ ['-'])) ++ dayOfMonth := by simp
  have first : (year ++ '-' :: (month ++ '-' :: dayOfMonth)).take (year.length + 6 - 6) = year :=
    List.take_left' (by omega)
  have second : ((year ++ '-' :: (month ++ '-' :: dayOfMonth)).drop (year.length + 6 - 5)).take 2 =
      month := by
    rw [beforeMonth, List.drop_left' (by simp), List.take_left' monthWidth]
  have third : (year ++ '-' :: (month ++ '-' :: dayOfMonth)).drop (year.length + 6 - 2) =
      dayOfMonth := by
    rw [beforeDay, List.drop_left' (by simp [monthWidth])]
  unfold readDate
  rw [width, first, second, third]

theorem dateStr_toList (instant : Instant) :
    (dateStr instant).toList = (padded 4 (civil (instant / day)).1).toList ++
      '-' :: ((padded 2 (civil (instant / day)).2.1).toList ++
        '-' :: (padded 2 (civil (instant / day)).2.2).toList) := by
  simp [dateStr]

/-- **A date is read back.** -/
theorem readDate_dateStr (instant : Instant) :
    readDate (dateStr instant).toList = some (instant / day) := by
  obtain ⟨monthLow, monthHigh, dayLow, dayHigh⟩ := civil_bounds (instant / day)
  rw [dateStr_toList, readDate_parts (length_field monthLow monthHigh) (length_field dayLow dayHigh)]
  simp only [readInt_padded]
  exact congrArg some (ofCivil_civil _)

/-- The fields of a time of day. -/
theorem readClock_parts {hour minute second rest : List Char} (hourWidth : hour.length = 2)
    (minuteWidth : minute.length = 2) (secondWidth : second.length = 2) :
    readClock (hour ++ ':' :: (minute ++ ':' :: (second ++ rest))) = (do
      let hour ← readInt hour
      let minute ← readInt minute
      let second ← readInt second
      let micro ← readFraction rest
      pure ((hour * 3600 + minute * 60 + second) * 1000000 + micro)) := by
  obtain ⟨hourHigh, hourLow, rfl⟩ := List.length_eq_two.mp hourWidth
  obtain ⟨minuteHigh, minuteLow, rfl⟩ := List.length_eq_two.mp minuteWidth
  obtain ⟨secondHigh, secondLow, rfl⟩ := List.length_eq_two.mp secondWidth
  cases rest <;> rfl

theorem readFraction_fractionText {micro : Int} (low : 0 ≤ micro) (high : micro < 1000000) :
    readFraction ((fractionText micro).toList ++ "+00:00".toList) = some micro := by
  unfold fractionText readFraction
  by_cases whole : micro = 0
  · rw [if_pos whole, whole]
    rfl
  · have width := length_padded (by decide : 0 < 6) low (by omega : micro.toNat < 10 ^ 6)
    have digits : (("." ++ padded 6 micro).toList ++ "+00:00".toList).tail.take 6 =
        (padded 6 micro).toList := by
      rw [String.toList_append]
      exact List.take_left' width
    have point : (("." ++ padded 6 micro).toList ++ "+00:00".toList).head? = some '.' := by
      rw [String.toList_append]
      rfl
    rw [if_neg whole, if_pos point, digits, readInt_padded]

/-- **A time of day is read back.** -/
theorem readClock_clockText {passed : Int} (low : 0 ≤ passed) (high : passed < day) :
    readClock (clockText passed).toList = some passed := by
  have within : passed < 86400000000 := high
  have written : (clockText passed).toList = (padded 2 (passed / 1000000 / 3600)).toList ++
      ':' :: ((padded 2 (passed / 1000000 / 60 % 60)).toList ++
        ':' :: ((padded 2 (passed / 1000000 % 60)).toList ++
          ((fractionText (passed % 1000000)).toList ++ "+00:00".toList))) := by
    simp [clockText]
  rw [written, readClock_parts (length_field (by omega) (by omega))
    (length_field (by omega) (by omega)) (length_field (by omega) (by omega))]
  simp only [readInt_padded]
  rw [readFraction_fractionText (by omega) (by omega)]
  refine congrArg some ?_
  omega

/-- **The instant is read back, to the microsecond.** -/
theorem ofIsoformat_isoformat (instant : Instant) : ofIsoformat (isoformat instant) = some instant := by
  have positive : (0 : Int) < day := by decide
  have noMark : ∀ c ∈ (dateStr instant).toList, decide (c ≠ 'T') = true := by
    rw [dateStr_toList]
    intro c member
    have plain (width : Nat) (n : Int) : 'T' ∉ (padded width n).toList :=
      notMem_padded rfl (by decide) (by decide) width n
    refine decide_eq_true fun mark => ?_
    rw [mark] at member
    simp [plain] at member
  have written : (isoformat instant).toList =
      (dateStr instant).toList ++ 'T' :: (clockText (instant % day)).toList := by
    simp [isoformat]
  have date : (isoformat instant).toList.takeWhile (fun c => c ≠ 'T') =
      (dateStr instant).toList := by
    rw [written, List.takeWhile_append_of_pos noMark]
    simp
  have clock : (isoformat instant).toList.dropWhile (fun c => c ≠ 'T') =
      'T' :: (clockText (instant % day)).toList := by
    rw [written, List.dropWhile_append_of_pos noMark]
    simp
  unfold ofIsoformat
  rw [date, clock, List.tail_cons, readDate_dateStr,
    readClock_clockText (Int.emod_nonneg _ (by decide)) (Int.emod_lt_of_pos _ positive)]
  refine congrArg some ?_
  exact Int.ediv_mul_add_emod _ _

/-! ### With a blank between date and time -/

/-- The instant that a text of `str` writes. -/
def ofStr (text : String) : Option Instant :=
  ofIsoformat (String.ofList (text.toList.map fun c => if c = ' ' then 'T' else c))

/-- `str` and `isoformat` differ in the mark between date and time. -/
theorem str_marked (instant : Instant) :
    (str instant).toList.map (fun c => if c = ' ' then 'T' else c) = (isoformat instant).toList := by
  have micro : instant % day % 1000000 = instant % 1000000 := Int.emod_emod_of_dvd instant (by decide)
  have kept {text : List Char} (noBlank : ' ' ∉ text) :
      text.map (fun c => if c = ' ' then 'T' else c) = text := by
    refine (List.map_congr_left fun c member => ?_).trans (List.map_id text)
    exact if_neg fun blank : c = ' ' => noBlank (blank ▸ member)
  have plain (width : Nat) (n : Int) : ' ' ∉ (padded width n).toList :=
    notMem_padded rfl (by decide) (by decide) width n
  have fraction : ' ' ∉ (fractionText (instant % 1000000)).toList := by
    unfold fractionText
    split
    · decide
    · simp [plain]
  have date : ' ' ∉ (dateStr instant).toList := by
    rw [dateStr_toList]
    simp [plain]
  have clock : ' ' ∉ (clockText (instant % day)).toList := by
    simp [clockText, plain, micro, fraction]
  have parts : (str instant).toList = (dateStr instant).toList ++
      ' ' :: (clockText (instant % day)).toList := by
    simp [str, clockText, micro, fractionText]
  have written : (isoformat instant).toList =
      (dateStr instant).toList ++ 'T' :: (clockText (instant % day)).toList := by
    simp [isoformat]
  rw [parts, written, List.map_append, List.map_cons, kept date, kept clock, if_pos rfl]

/-- **The instant is read back from its `str`, too.** -/
theorem ofStr_str (instant : Instant) : ofStr (str instant) = some instant := by
  rw [ofStr, str_marked, String.ofList_toList, ofIsoformat_isoformat]

end Certinspect.Instant
