/-
**The CSV of a batch, `format_csv`.**

A header and a line for each result. The cells that hold text from outside, the target and the two
names, may have any character in them; the other cells are read back to what they show. The common
name is taken from the distinguished name that the analysis wrote, which is parsed again; the parser is
an argument.

* `csvColumns`, `csvRow`, `formatCsv` — the table and its text.
* `CsvRecord`, `readRow`, `readResults` — what a reader finds in it.
* `formatCsv_eq` — the text, and the one way in which it is refused.
* **`csv_exact`** — the table is read back exactly when its cells come back, and then the results are.
-/

import Certinspect.Display
import Certinspect.Formatter.Document
import Certinspect.Library.Csv

namespace Certinspect.Formatter

open Library Cli

/-! ### The table -/

section Table

variable (fromRfc4514 : String → Except PyErr X509Name)

/-- `_common_name`: of the name that the text parses as, or the text. -/
def commonNameOf (dn : String) : Except PyErr String := do
  match ← exceptPure [.valueError] (fromRfc4514 dn) with
  | .ok name => pure (Parser.commonName name)
  | .error _ => pure dn

/-- `str` of a flag, and nothing for `None`. -/
def flagCell (flag : Option Bool) : String := (flag.map boolStr).getD ""

/-- `_CSV_COLUMNS`, with what the writer makes of the values. -/
def csvColumns : List (String × (InspectionResult → Except PyErr String)) :=
  [("target", fun result => pure ((given result.label).getD "")),
    ("common_name", fun result => commonNameOf fromRfc4514 result.info.subject),
    ("status", fun result => pure result.info.status.str),
    ("days_to_expire", fun result => strInt result.info.daysToExpire),
    ("valid_from", fun result => pure result.info.notValidBefore.str),
    ("valid_until", fun result => pure result.info.notValidAfter.str),
    ("issuer", fun result => commonNameOf fromRfc4514 result.info.issuer),
    ("hostname_match", fun result => pure (flagCell result.info.hostnameMatch))]

/-- The header. -/
def csvHeader : List String := (csvColumns fromRfc4514).map Prod.fst

/-- The cells of a result. -/
def csvRow (result : InspectionResult) : Except PyErr (List String) :=
  (csvColumns fromRfc4514).mapM fun column => column.2 result

/-- A table as the lists of characters of its cells. -/
def characters (rows : List (List String)) : List (List (List Char)) :=
  rows.map fun row => row.map String.toList

/-- `format_csv`. -/
def formatCsv (dialect : CsvDialect) (results : List InspectionResult) : Except PyErr String := do
  let rows ← results.mapM (csvRow fromRfc4514)
  pure (String.ofList (dialect.csvText (characters (csvHeader fromRfc4514 :: rows))))

end Table

/-! ### How it is read -/

/-- What a row tells of a result. -/
structure CsvRecord where
  target : String
  commonName : String
  status : Status
  daysToExpire : Int
  validFrom : Instant
  validUntil : Instant
  issuer : String
  hostnameMatch : Option Bool
  deriving DecidableEq, Repr

/-- The flag of a cell. -/
def readFlag (cell : String) : Option (Option Bool) :=
  [none, some true, some false].find? fun flag => flagCell flag = cell

/-- The record of a row. -/
def readRow : List (List Char) → Option CsvRecord
  | [target, commonName, status, days, validFrom, validUntil, issuer, hostnameMatch] => do
    let status ← namedStatus (String.ofList status)
    let days ← readInt days
    let validFrom ← Instant.ofStr (String.ofList validFrom)
    let validUntil ← Instant.ofStr (String.ofList validUntil)
    let hostnameMatch ← readFlag (String.ofList hostnameMatch)
    pure ⟨String.ofList target, String.ofList commonName, status, days, validFrom, validUntil,
      String.ofList issuer, hostnameMatch⟩
  | _ => none

/-- The records of a file, behind its header. -/
def readResults (dialect : CsvDialect) (text : String) : Option (List CsvRecord) := do
  let table ← dialect.readCsv text.toList
  table.tail.mapM readRow

/-! ### The table in closed form -/

section Shown

variable {fromRfc4514 : String → Except PyErr X509Name} {dialect : CsvDialect}
  {results : List InspectionResult} {result : InspectionResult} {text : String}

/-- The parser refuses a name in no other way than it is documented to. -/
def RefusesNames (fromRfc4514 : String → Except PyErr X509Name) : Prop :=
  ∀ dn err, fromRfc4514 dn = .error err → err.isA [.valueError] = true

/-- The common name that is shown of a distinguished name. -/
def shownName (fromRfc4514 : String → Except PyErr X509Name) (dn : String) : String :=
  match fromRfc4514 dn with
  | .ok name => Parser.commonName name
  | .error _ => dn

/-- The cells of a result when nothing is refused. -/
def shownCells (fromRfc4514 : String → Except PyErr X509Name) (result : InspectionResult) :
    List String :=
  [(given result.label).getD "", shownName fromRfc4514 result.info.subject, result.info.status.str,
    toString result.info.daysToExpire, result.info.notValidBefore.str,
    result.info.notValidAfter.str, shownName fromRfc4514 result.info.issuer,
    flagCell result.info.hostnameMatch]

/-- What the row of a result tells. -/
def csvRecord (fromRfc4514 : String → Except PyErr X509Name) (result : InspectionResult) :
    CsvRecord where
  target := (given result.label).getD ""
  commonName := shownName fromRfc4514 result.info.subject
  status := result.info.status
  daysToExpire := result.info.daysToExpire
  validFrom := result.info.notValidBefore
  validUntil := result.info.notValidAfter
  issuer := shownName fromRfc4514 result.info.issuer
  hostnameMatch := result.info.hostnameMatch

/-- The table when nothing is refused. -/
def shownCsv (fromRfc4514 : String → Except PyErr X509Name) (results : List InspectionResult) :
    List (List String) :=
  csvHeader fromRfc4514 :: results.map (shownCells fromRfc4514)

theorem commonNameOf_eq (documented : RefusesNames fromRfc4514) (dn : String) :
    commonNameOf fromRfc4514 dn = .ok (shownName fromRfc4514 dn) := by
  unfold commonNameOf shownName
  cases parsed : fromRfc4514 dn with
  | ok name => rfl
  | error err =>
    rw [exceptPure_error, if_pos (documented dn err parsed)]
    rfl

theorem csvRow_eq (documented : RefusesNames fromRfc4514) (result : InspectionResult) :
    csvRow fromRfc4514 result = if HasDecimal result.info.daysToExpire then
      .ok (shownCells fromRfc4514 result) else .error tooManyDigits := by
  have subject := commonNameOf_eq documented result.info.subject
  have issuer := commonNameOf_eq documented result.info.issuer
  unfold csvRow csvColumns strInt
  simp only [List.mapM_cons, List.mapM_nil, subject, issuer]
  split <;> rfl

/-- **The text, and the one way in which it is refused.** -/
theorem formatCsv_eq (documented : RefusesNames fromRfc4514) :
    formatCsv fromRfc4514 dialect results =
      if ∀ result ∈ results, HasDecimal result.info.daysToExpire then
        .ok (String.ofList (dialect.csvText (characters (shownCsv fromRfc4514 results))))
      else .error tooManyDigits := by
  unfold formatCsv
  rw [mapM_eq_ite (csvRow_eq documented)]
  split <;> rfl

/-- The cells that a file keeps. -/
def CsvKept (fromRfc4514 : String → Except PyErr X509Name) (dialect : CsvDialect)
    (results : List InspectionResult) : Prop :=
  ∀ result ∈ results, ∀ cell ∈ shownCells fromRfc4514 result, dialect.ComesBack cell.toList

instance (fromRfc4514 : String → Except PyErr X509Name) (dialect : CsvDialect)
    (results : List InspectionResult) : Decidable (CsvKept fromRfc4514 dialect results) :=
  inferInstanceAs (Decidable (∀ _ ∈ _, ∀ _ ∈ _, _))

/-- No label of the header is longer than this. -/
theorem header_comesBack (long : 14 ≤ dialect.limit) :
    ∀ cell ∈ csvHeader fromRfc4514, dialect.ComesBack cell.toList := by
  intro cell member
  have plain : cell.toList.length ≤ 14 ∧ '\r' ∉ cell.toList := by
    simp only [csvHeader, csvColumns, List.map_cons, List.map_nil, List.mem_cons, List.not_mem_nil,
      or_false] at member
    rcases member with rfl | rfl | rfl | rfl | rfl | rfl | rfl | rfl <;> decide
  exact ⟨plain.1.trans long, fun carriage => absurd carriage plain.2⟩

/-- **The table is read back exactly when its cells come back.** -/
theorem readCsv_shownCsv_iff (separates : dialect.Separates) (long : 14 ≤ dialect.limit) :
    dialect.readCsv (dialect.csvText (characters (shownCsv fromRfc4514 results))) =
        some (characters (shownCsv fromRfc4514 results)) ↔
      CsvKept fromRfc4514 dialect results := by
  rw [CsvDialect.readCsv_csvText_iff separates]
  unfold characters shownCsv
  rw [List.forall_mem_map, List.forall_mem_cons, List.forall_mem_map,
    and_iff_right (header_comesBack long), List.forall_mem_map]
  exact forall₂_congr fun result _ => List.forall_mem_map

theorem readFlag_flagCell (flag : Option Bool) : readFlag (flagCell flag) = some flag := by
  rcases flag with _ | _ | _ <;> decide

theorem namedStatus_str (status : Status) : namedStatus status.str = some status := by
  cases status <;> decide

/-- A row tells its result. -/
theorem readRow_shownCells (result : InspectionResult) :
    readRow ((shownCells fromRfc4514 result).map String.toList) =
      some (csvRecord fromRfc4514 result) := by
  have days : readInt (toString result.info.daysToExpire).toList = some result.info.daysToExpire :=
    readInt_toString _
  simp only [shownCells, List.map_cons, List.map_nil, readRow, String.ofList_toList,
    namedStatus_str, days, Instant.ofStr_str, readFlag_flagCell]
  rfl

/-- **A batch is read back from its CSV**, when its cells come back. -/
theorem readResults_shownCsv (separates : dialect.Separates) (long : 14 ≤ dialect.limit)
    (kept : CsvKept fromRfc4514 dialect results) :
    readResults dialect
        (String.ofList (dialect.csvText (characters (shownCsv fromRfc4514 results)))) =
      some (results.map (csvRecord fromRfc4514)) := by
  have each : ((results.map (shownCells fromRfc4514)).map fun row => row.map String.toList).mapM
      readRow = some (results.map (csvRecord fromRfc4514)) := by
    induction results with
    | nil => rfl
    | cons result rest ih =>
      have others := ih (List.forall_mem_cons.mp kept).2
      rw [List.map_cons, List.map_cons, List.mapM_cons, readRow_shownCells, others]
      rfl
  unfold readResults
  rw [String.toList_ofList, (readCsv_shownCsv_iff separates long).mpr kept]
  exact each

/-- **The CSV of a batch is exact.** It is refused only for a number of days that is too long; its table
is read back exactly when every cell comes back, and then every result is. An interpreter that quotes
carriage returns brings back every cell that is not too long. -/
theorem csv_exact (fromRfc4514 : String → Except PyErr X509Name) (dialect : CsvDialect)
    (results : List InspectionResult) (documented : RefusesNames fromRfc4514)
    (separates : dialect.Separates) (long : 14 ≤ dialect.limit) :
    ((∃ text, formatCsv fromRfc4514 dialect results = .ok text) ↔
        ∀ result ∈ results, HasDecimal result.info.daysToExpire) ∧
      (∀ text, formatCsv fromRfc4514 dialect results = .ok text →
        (dialect.readCsv text.toList = some (characters (shownCsv fromRfc4514 results)) ↔
          CsvKept fromRfc4514 dialect results) ∧
        (CsvKept fromRfc4514 dialect results →
          readResults dialect text = some (results.map (csvRecord fromRfc4514)))) ∧
      (dialect.quotesReturn = true → (CsvKept fromRfc4514 dialect results ↔
        ∀ result ∈ results, ∀ cell ∈ shownCells fromRfc4514 result,
          cell.toList.length ≤ dialect.limit)) := by
  rw [formatCsv_eq documented]
  refine ⟨?_, ?_, fun quotesReturn => ?_⟩
  · by_cases shown : ∀ result ∈ results, HasDecimal result.info.daysToExpire
    · rw [if_pos shown]
      exact iff_of_true ⟨_, rfl⟩ shown
    · rw [if_neg shown]
      exact iff_of_false (fun ⟨_, absurd⟩ => by cases absurd) shown
  · intro text written
    split at written
    · cases written
      refine ⟨?_, readResults_shownCsv separates long⟩
      rw [String.toList_ofList]
      exact readCsv_shownCsv_iff separates long
    · cases written
  · refine forall₂_congr fun result _ => forall₂_congr fun cell _ => and_iff_left fun carriage => ?_
    exact List.any_eq_true.mpr ⟨'\r', carriage, by simp [CsvDialect.isSpecial, quotesReturn]⟩

/-- The dialect of `--csv`, for a file that is opened as the `csv` module asks. -/
def commaDialect : CsvDialect := ⟨',', true, true, 131072⟩

/-- The parser, for names of one common name in which nothing is escaped. -/
def plainNames (dn : String) : Except PyErr X509Name :=
  match dn.toList with
  | 'C' :: 'N' :: '=' :: commonName => .ok (Revocation.sampleName (String.ofList commonName))
  | _ => .error ⟨.valueError, ""⟩

theorem plainNames_refuses : RefusesNames plainNames := by
  intro dn err refused
  unfold plainNames at refused
  split at refused
  · cases refused
  · cases refused
    rfl

theorem csv_exact_sample :
    ((∃ text, formatCsv plainNames commaDialect fileResults = .ok text) ↔
        ∀ result ∈ fileResults, HasDecimal result.info.daysToExpire) ∧
      (∀ text, formatCsv plainNames commaDialect fileResults = .ok text →
        (commaDialect.readCsv text.toList = some (characters (shownCsv plainNames fileResults)) ↔
          CsvKept plainNames commaDialect fileResults) ∧
        (CsvKept plainNames commaDialect fileResults →
          readResults commaDialect text = some (fileResults.map (csvRecord plainNames)))) ∧
      (commaDialect.quotesReturn = true → (CsvKept plainNames commaDialect fileResults ↔
        ∀ result ∈ fileResults, ∀ cell ∈ shownCells plainNames result,
          cell.toList.length ≤ commaDialect.limit)) :=
  csv_exact plainNames commaDialect fileResults plainNames_refuses (by decide) (by decide)

end Shown

end Certinspect.Formatter
