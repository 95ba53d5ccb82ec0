/-
**The Certificate Transparency inventory as it is printed, `--discover-only`.**

The run of `--discover-only` with its output: what was found for each domain is reported on stderr, up
to the first domain that fails, and the inventory goes to stdout in one of three forms. In the JSON form
it is read back whatever names and issuers the log has; in the CSV form when its cells come back, and in
the text form when its texts have no separators.

* `InventoryForm`, `formatInventory` — `format_ct_inventory`.
* `Output`, `runInventory` — `_run_discover_only`, with what it prints.
* `runInventory_outcome` — printing does not change the outcome.
* `readInventory`, `readInventoryCsv` — the records that a text was made of.
* `Lists` — what a record says of a certificate that was found; `csvRows`, `textRow` — how the records
  look in the two other forms.
* **`inventory_reported`** — a run that returns has listed what was found for every domain, in order,
  and its exit code is POLICY exactly when a certificate has an unexpected issuer.
-/

import Certinspect.Formatter.Csv
import Certinspect.Formatter.Tabular

namespace Certinspect.Formatter

open Library Cli Discover

/-! ### The three forms -/

/-- The form of the inventory, as `--json` and `--csv` select it. -/
inductive InventoryForm
  | json
  | csv (dialect : CsvDialect)
  | text

/-- A record of the inventory; its issuer is judged with `--expect-issuer` only. -/
structure InventoryRecord where
  domain : String
  hostnames : List String
  issuer : String
  notBefore : String
  notAfter : String
  unexpectedIssuer : Option Bool
  deriving DecidableEq, Repr

/-- A record as JSON. -/
def inventoryObject : Codec InventoryRecord :=
  ((Fields.none InventoryRecord.mk).key "domain" .text InventoryRecord.domain
    |>.key "hostnames" texts InventoryRecord.hostnames
    |>.key "issuer" .text InventoryRecord.issuer
    |>.key "not_before" .text InventoryRecord.notBefore
    |>.key "not_after" .text InventoryRecord.notAfter
    |>.optionalKey "unexpected_issuer" .flag InventoryRecord.unexpectedIssuer).codec
      (fun _ => rfl) (by decide)

/-- The record of a row. -/
def inventoryRecord (flagIssuer : Bool) (row : String × DiscoveredCert × Bool) : InventoryRecord where
  domain := row.1
  hostnames := row.2.1.hostnames
  issuer := row.2.1.issuer
  notBefore := row.2.1.notBefore
  notAfter := row.2.1.notAfter
  unexpectedIssuer := if flagIssuer then some row.2.2 else none

/-- The header of the CSV form. -/
def inventoryHeader (flagIssuer : Bool) : List String :=
  ["domain", "hostnames", "issuer", "not_before", "not_after"] ++
    if flagIssuer then ["unexpected_issuer"] else []

/-- A row of the CSV form. -/
def inventoryCells (flagIssuer : Bool) (row : String × DiscoveredCert × Bool) : List String :=
  [row.1, " ".intercalate row.2.1.hostnames, row.2.1.issuer, row.2.1.notBefore, row.2.1.notAfter] ++
    if flagIssuer then [if row.2.2 then "yes" else "no"] else []

/-- The table of the CSV form. -/
def inventoryTable (flagIssuer : Bool) (rows : List (String × DiscoveredCert × Bool)) :
    List (List String) :=
  inventoryHeader flagIssuer :: rows.map (inventoryCells flagIssuer)

/-- `format_ct_inventory`. -/
def formatInventory (form : InventoryForm) (flagIssuer : Bool)
    (rows : List (String × DiscoveredCert × Bool)) : Except PyErr String :=
  match form with
  | .json => do
    let text ← dumps (inventoryObject.list.write (rows.map (inventoryRecord flagIssuer)))
    pure (text ++ "\n")
  | .csv dialect => pure (String.ofList (dialect.csvText (characters (inventoryTable flagIssuer rows))))
  | .text => pure (formatCtInventory rows)

/-! ### The run -/

/-- What a run prints, and how it ends. -/
structure Output where
  stdout : String
  stderr : List String
  outcome : Except Stop ExitCode

/-- What `_discover` reports of a domain whose lookup succeeded. -/
def foundMessage {α : Type} (noun domain : String) (found : List α) : String :=
  if found ≠ [] then
    "discovered " ++ toString found.length ++ " " ++ noun ++ "(s) for " ++ domain
  else "warning: no certificates found for " ++ domain

/-- The lines of `_discover` on stderr, up to the first domain that fails. -/
def discoverMessages {α : Type} (noun : String) :
    List (String × Except String (List α)) → List String
  | [] => []
  | (domain, .error err) :: _ => ["error: discovery for " ++ domain ++ ": " ++ err]
  | (domain, .ok found) :: rest => foundMessage noun domain found :: discoverMessages noun rest

section Run

variable (lowercase : String → String)

/-- What `_run_discover_only` does with the inventory; the form is refused with the delimiter. -/
def reportInventory (form : Except PyErr InventoryForm) (expected : List String)
    (inventory : List (String × List DiscoveredCert)) (messages : List String) : Output :=
  let rows := inventoryRows lowercase expected inventory
  let unexpected := rows.countP fun row => row.2.2
  match form.bind fun form => formatInventory form (!expected.isEmpty) rows with
  | .error err => ⟨"", messages, .error (.raises err)⟩
  | .ok text =>
    if unexpected ≠ 0 then
      ⟨text, messages ++ ["warning: " ++ toString unexpected ++
        " certificate(s) from an unexpected issuer"], .ok .policy⟩
    else ⟨text, messages, .ok .ok⟩

/-- `_run_discover_only`. -/
def runInventory (form : Except PyErr InventoryForm) (args : DiscoverArgs) (crtSh : Nat → CrtSh)
    (schedule : List PoolAction) : Option Output :=
  (mapItems (args.discover.mapIdx fun i domain =>
    discoverOne domain (discoverCertificates lowercase (crtSh i) domain)) args.concurrency
    schedule).map fun
    | .error err => ⟨"", [], .error (.raises err)⟩
    | .ok entries =>
      match collectFound entries with
      | .error stop => ⟨"", discoverMessages "certificate" entries, .error stop⟩
      | .ok inventory => reportInventory lowercase form args.expectIssuer inventory
          (discoverMessages "certificate" entries)

end Run

/-! ### How it is read -/

/-- The records of the JSON form. -/
def readInventory (text : String) : Option (List InventoryRecord) :=
  inventoryObject.list.readText maxStrDigits text.toList

/-- The record of a row of the CSV form. -/
def readInventoryRow : List (List Char) → Option InventoryRecord
  | [domain, hostnames, issuer, notBefore, notAfter] =>
    some ⟨String.ofList domain, (hostnames.splitOn ' ').map String.ofList, String.ofList issuer,
      String.ofList notBefore, String.ofList notAfter, none⟩
  | [domain, hostnames, issuer, notBefore, notAfter, unexpected] =>
    if unexpected = "yes".toList ∨ unexpected = "no".toList then
      some ⟨String.ofList domain, (hostnames.splitOn ' ').map String.ofList, String.ofList issuer,
        String.ofList notBefore, String.ofList notAfter, some (unexpected = "yes".toList)⟩
    else none
  | _ => none

/-- The records of the CSV form. -/
def readInventoryCsv (dialect : CsvDialect) (text : String) : Option (List InventoryRecord) := do
  let table ← dialect.readCsv text.toList
  table.tail.mapM readInventoryRow

/-! ### What is to be listed -/

/-- What the record of a certificate says; only a run with `--expect-issuer` judges the issuer. -/
structure Lists (lowercase : String → String) (expected : List String)
    (found : String × DiscoveredCert) (record : InventoryRecord) : Prop where
  domain : record.domain = found.1
  hostnames : record.hostnames = found.2.hostnames
  issuer : record.issuer = found.2.issuer
  notBefore : record.notBefore = found.2.notBefore
  notAfter : record.notAfter = found.2.notAfter
  unjudged : record.unexpectedIssuer = none ↔ expected = []
  unexpected : record.unexpectedIssuer = some true ↔
    expected ≠ [] ∧ UnexpectedIssuer lowercase expected found.2.issuer

/-- The rows of the CSV form, under their header. -/
def csvRows (expected : List String) (records : List InventoryRecord) : List (List String) :=
  (["domain", "hostnames", "issuer", "not_before", "not_after"] ++
    if expected = [] then [] else ["unexpected_issuer"]) ::
  records.map fun record =>
    [record.domain, " ".intercalate record.hostnames, record.issuer, record.notBefore,
      record.notAfter] ++
      match record.unexpectedIssuer with
      | none => []
      | some unexpected => [if unexpected then "yes" else "no"]

/-- A line of the text form. -/
def textRow (record : InventoryRecord) : List String :=
  [record.notAfter, record.issuer, ", ".intercalate record.hostnames] ++
    if record.unexpectedIssuer = some true then ["UNEXPECTED"] else []

/-- No host name has a blank in it. -/
def NamesSplit (records : List InventoryRecord) : Prop :=
  ∀ record ∈ records, ∀ name ∈ record.hostnames, ' ' ∉ name.toList

/-- No text of a line has a separator in it. -/
def CleanRecords (records : List InventoryRecord) : Prop :=
  ∀ record ∈ records, CleanCell record.notAfter ∧ CleanCell record.issuer ∧
    ∀ host ∈ record.hostnames, CleanCell host

/-! ### What a run has listed -/

section Listed

variable {lowercase : String → String} {form : InventoryForm}
  {asked : Except PyErr InventoryForm} {args : DiscoverArgs}
  {crtSh : Nat → CrtSh} {schedule : List PoolAction} {output : Output} {expected : List String}
  {flagIssuer : Bool} {rows : List (String × DiscoveredCert × Bool)} {dialect : CsvDialect}
  {inventory : List (String × List DiscoveredCert)} {text : String} {code : ExitCode}

/-- Each certificate has its record. -/
theorem records_listed : List.Forall₂ (Lists lowercase expected) (foundCerts inventory)
    ((inventoryRows lowercase expected inventory).map (inventoryRecord (!expected.isEmpty))) := by
  rw [inventoryRows_eq, List.map_map, List.forall₂_map_right_iff, List.forall₂_same]
  intro found _
  have mark := @mark_iff lowercase expected found.2.issuer
  refine ⟨rfl, rfl, rfl, rfl, rfl, ?_, ?_⟩
  · cases expected with
    | nil => exact iff_of_true rfl rfl
    | cons token rest => exact iff_of_false (fun absurd => by cases absurd) (List.cons_ne_nil _ _)
  · cases expected with
    | nil => exact iff_of_false (fun absurd => by cases absurd) fun both => both.1 rfl
    | cons token rest =>
      rw [← mark]
      exact Option.some_inj

/-- A row is marked when the run judges the issuers only. -/
theorem judged_of_marked {row : String × DiscoveredCert × Bool}
    (member : row ∈ inventoryRows lowercase expected inventory) (marked : row.2.2 = true) :
    (!expected.isEmpty) = true := by
  rw [inventoryRows_eq] at member
  obtain ⟨found, _, rfl⟩ := List.mem_map.mp member
  exact ((Bool.and_eq_true _ _).mp marked).1

/-- The table of the CSV form has the rows of the records. -/
theorem inventoryTable_eq : inventoryTable (!expected.isEmpty) rows =
    csvRows expected (rows.map (inventoryRecord (!expected.isEmpty))) := by
  unfold inventoryTable csvRows
  rw [List.map_map]
  cases expected with
  | nil => rfl
  | cons token rest => rfl

/-- The text form has the lines of the records. -/
theorem ctRow_eq : (inventoryRows lowercase expected inventory).map ctRow =
    ((inventoryRows lowercase expected inventory).map (inventoryRecord (!expected.isEmpty))).map
      textRow := by
  rw [List.map_map]
  refine List.map_congr_left fun row member => ?_
  have judged := judged_of_marked member
  unfold Function.comp textRow ctRow inventoryRecord
  cases marked : row.2.2 with
  | false => cases !expected.isEmpty <;> rfl
  | true =>
    rw [judged marked]
    rfl

theorem cleanInventory_iff :
    CleanInventory rows ↔ CleanRecords (rows.map (inventoryRecord flagIssuer)) := by
  unfold CleanInventory CleanRecords
  rw [List.forall_mem_map]
  exact Iff.rfl

theorem readInventory_json (written : formatInventory .json flagIssuer rows = .ok text) :
    readInventory text = some (rows.map (inventoryRecord flagIssuer)) := by
  obtain ⟨dumped, wrote, same⟩ := bind_ok_iff.mp written
  cases same
  exact readText_dumps wrote

/-- Every inventory can be written: no record has an integer in it. -/
theorem formatInventory_ok : ∃ text, formatInventory form flagIssuer rows = .ok text := by
  cases form with
  | json =>
    have plain (record : InventoryRecord) : inventoryObject.integers record = [] := by
      have word (value : String) : Codec.text.integers value = [] := rfl
      have mark : (record.unexpectedIssuer.map Codec.flag.integers).getD [] = [] :=
        integers_none (fun _ => rfl) _
      simp only [inventoryObject, Fields.codec, Fields.key, Fields.optionalKey, Fields.none, word,
        texts_integers, mark, List.append_nil]
    have none : ∀ n ∈ inventoryObject.list.integers (rows.map (inventoryRecord flagIssuer)),
        HasDecimal n := by
      rw [list_integers_none plain]
      exact List.forall_mem_nil _
    unfold formatInventory
    rw [dumps_write, if_pos none, ok_bind]
    exact ⟨_, rfl⟩
  | csv dialect => exact ⟨_, rfl⟩
  | text => exact ⟨_, rfl⟩

/-- **Printing does not change how a run ends.** -/
theorem runInventory_outcome :
    (runInventory lowercase (.ok form) args crtSh schedule).map Output.outcome =
      runDiscoverOnly lowercase args crtSh schedule := by
  unfold runInventory runDiscoverOnly discover
  rw [Option.map_map, Option.map_map]
  congr 1
  funext answers
  cases answers with
  | error err => rfl
  | ok entries =>
    dsimp only [Function.comp_apply]
    cases collected : collectFound entries with
    | error stop => rfl
    | ok inventory =>
      obtain ⟨text, written⟩ := @formatInventory_ok form (!args.expectIssuer.isEmpty)
        (inventoryRows lowercase args.expectIssuer inventory)
      unfold reportInventory
      dsimp only [Except.bind]
      rw [written, ok_bind]
      dsimp only
      split <;> rfl

/-- A row of the CSV form tells its record. -/
theorem readInventoryRow_cells {row : String × DiscoveredCert × Bool}
    (some_name : row.2.1.hostnames ≠ []) (noBlank : ∀ name ∈ row.2.1.hostnames, ' ' ∉ name.toList) :
    readInventoryRow ((inventoryCells flagIssuer row).map String.toList) =
      some (inventoryRecord flagIssuer row) := by
  have names : ((" ".intercalate row.2.1.hostnames).toList.splitOn ' ').map String.ofList =
      row.2.1.hostnames := by
    have blanks : (" ".intercalate row.2.1.hostnames).toList =
        [' '].intercalate (row.2.1.hostnames.map String.toList) := String.toList_intercalate
    have each : ∀ part ∈ row.2.1.hostnames.map String.toList, ' ' ∉ part :=
      List.forall_mem_map.mpr noBlank
    rw [blanks, List.splitOn_intercalate ' ' each (by simpa using some_name), List.map_map]
    exact List.map_id'' (fun _ => String.ofList_toList) _
  cases flagIssuer with
  | false =>
    simp only [inventoryCells, Bool.false_eq_true, if_false, List.append_nil, List.map_cons,
      List.map_nil, readInventoryRow, String.ofList_toList, names]
    rfl
  | true =>
    have mark : (if row.2.2 then "yes" else "no").toList = "yes".toList ∨
        (if row.2.2 then "yes" else "no").toList = "no".toList := by
      cases row.2.2
      · exact Or.inr rfl
      · exact Or.inl rfl
    have flag : decide ((if row.2.2 then "yes" else "no").toList = "yes".toList) = row.2.2 := by
      cases row.2.2 <;> decide
    simp only [inventoryCells, if_true, List.cons_append, List.nil_append, List.map_cons,
      List.map_nil, readInventoryRow, String.ofList_toList, names]
    rw [if_pos mark, flag]
    rfl

/-- The CSV form, when its cells come back. -/
theorem readInventoryCsv_table (separates : dialect.Separates)
    (kept : ∀ row ∈ characters (inventoryTable flagIssuer rows), ∀ cell ∈ row, dialect.ComesBack cell)
    (named : ∀ row ∈ rows, row.2.1.hostnames ≠ [])
    (split : NamesSplit (rows.map (inventoryRecord flagIssuer))) :
    readInventoryCsv dialect
        (String.ofList (dialect.csvText (characters (inventoryTable flagIssuer rows)))) =
      some (rows.map (inventoryRecord flagIssuer)) := by
  have noBlank := List.forall_mem_map.mp split
  have each : ((rows.map (inventoryCells flagIssuer)).map fun row => row.map String.toList).mapM
      readInventoryRow = some (rows.map (inventoryRecord flagIssuer)) := by
    clear kept split
    induction rows with
    | nil => rfl
    | cons row rest ih =>
      obtain ⟨rowNamed, othersNamed⟩ := List.forall_mem_cons.mp named
      obtain ⟨rowSplits, othersSplit⟩ := List.forall_mem_cons.mp noBlank
      rw [List.map_cons, List.map_cons, List.mapM_cons, readInventoryRow_cells rowNamed rowSplits,
        ih othersNamed othersSplit]
      rfl
  unfold readInventoryCsv
  rw [String.toList_ofList, (CsvDialect.readCsv_csvText_iff separates).mpr kept]
  exact each

/-- What was found for every domain, when no lookup failed. -/
theorem collectFound_ok {α : Type} {entries : List (String × Except String (List α))}
    {inventory : List (String × List α)} (noun : String)
    (collected : collectFound entries = .ok inventory) :
    entries = inventory.map (fun entry => (entry.1, .ok entry.2)) ∧
      discoverMessages noun entries =
        inventory.map fun entry => foundMessage noun entry.1 entry.2 := by
  induction entries generalizing inventory with
  | nil =>
    cases collected
    exact ⟨rfl, rfl⟩
  | cons entry rest ih =>
    obtain ⟨domain, outcome⟩ := entry
    cases outcome with
    | error err => cases collected
    | ok found =>
      obtain ⟨others, later, same⟩ := bind_ok_iff.mp collected
      cases same
      obtain ⟨entries, messages⟩ := ih later
      exact ⟨congrArg (List.cons _) entries, congrArg (List.cons _) messages⟩

theorem discoverOne_ok {α : Type} {domain name : String} {answer : Except PyErr (List α)}
    {found : List α} (looked : discoverOne domain answer = .ok (name, .ok found)) :
    name = domain ∧ answer = .ok found := by
  unfold discoverOne at looked
  cases answer with
  | ok result =>
    cases looked
    exact ⟨rfl, rfl⟩
  | error err =>
    rw [exceptPure_error] at looked
    split at looked <;> cases looked

/-- The lookups of a run whose entries are these. -/
theorem lookups_of_entries {lookUp : Nat → String → Except PyErr (List DiscoveredCert)}
    {domains : List String}
    (entries : (domains.mapIdx fun i domain => discoverOne domain (lookUp i domain)) =
      (inventory.map fun entry => (entry.1, (.ok entry.2 : Except String (List DiscoveredCert)))).map
        .ok) :
    ∃ certs : Nat → List DiscoveredCert,
      (∀ i domain, domains[i]? = some domain → lookUp i domain = .ok (certs i)) ∧
        inventory = domains.mapIdx fun i domain => (domain, certs i) := by
  induction domains generalizing lookUp inventory with
  | nil =>
    cases inventory with
    | nil => exact ⟨fun _ => [], fun _ _ absurd => (by cases absurd), rfl⟩
    | cons entry others => cases entries
  | cons domain rest ih =>
    rw [List.mapIdx_cons] at entries
    cases inventory with
    | nil => cases entries
    | cons entry others =>
      rw [List.map_cons, List.map_cons] at entries
      obtain ⟨first, later⟩ := List.cons.inj entries
      obtain ⟨name, found⟩ := discoverOne_ok first
      obtain ⟨certs, looked, listed⟩ := @ih others (fun i => lookUp (i + 1)) later
      refine ⟨fun place => place.casesOn entry.2 certs, ?_, ?_⟩
      · intro i other place
        cases i with
        | zero =>
          cases place
          exact found
        | succ i => exact looked i other place
      · rw [List.mapIdx_cons, listed]
        exact congrArg₂ List.cons (Prod.ext name rfl) rfl

/-- Every certificate of a row has a name, when the lookups returned it. -/
theorem rows_named {domains : List String} {certs : Nat → List DiscoveredCert}
    (looked : ∀ i domain, domains[i]? = some domain →
      discoverCertificates lowercase (crtSh i) domain = .ok (certs i)) :
    ∀ row ∈ inventoryRows lowercase expected (domains.mapIdx fun i domain => (domain, certs i)),
      row.2.1.hostnames ≠ [] := by
  rw [inventoryRows_eq, List.forall_mem_map]
  intro found member
  obtain ⟨i, here, listed⟩ := mem_foundCerts_iff.mp member
  obtain ⟨_, _, discovered⟩ := discoverCertificates_discovered (looked i _ here)
  exact discovered.named listed

/-- What is printed of an inventory, when it is. -/
theorem reportInventory_ok {messages : List String}
    (returned : (reportInventory lowercase asked expected inventory messages).outcome = .ok code) :
    (asked.bind fun form =>
        formatInventory form (!expected.isEmpty) (inventoryRows lowercase expected inventory)) =
        .ok (reportInventory lowercase asked expected inventory messages).stdout ∧
      (code = .policy ∨ code = .ok) ∧
      (code = .policy ↔
        (inventoryRows lowercase expected inventory).countP (fun row => row.2.2) ≠ 0) ∧
      messages <+: (reportInventory lowercase asked expected inventory messages).stderr := by
  revert returned
  unfold reportInventory
  dsimp only
  cases formatted : asked.bind fun form =>
      formatInventory form (!expected.isEmpty) (inventoryRows lowercase expected inventory) with
  | error err => exact fun absurd => (by cases absurd)
  | ok text =>
    dsimp only
    split
    · rename_i some
      intro returned
      cases returned
      exact ⟨rfl, Or.inl rfl, iff_of_true rfl some, List.prefix_append _ _⟩
    · rename_i none
      intro returned
      cases returned
      exact ⟨rfl, Or.inr rfl, iff_of_false (by decide) none, List.prefix_rfl⟩

theorem reportInventory_error {messages : List String} {stop : Stop}
    (stopped : (reportInventory lowercase asked expected inventory messages).outcome = .error stop) :
    (reportInventory lowercase asked expected inventory messages).stdout = "" := by
  revert stopped
  unfold reportInventory
  dsimp only
  cases asked.bind fun form =>
      formatInventory form (!expected.isEmpty) (inventoryRows lowercase expected inventory) with
  | error err => exact fun _ => rfl
  | ok text =>
    dsimp only
    split
    · exact fun absurd => (by cases absurd)
    · exact fun absurd => (by cases absurd)

/-- How a run ends: it stops before it has an inventory, or it has looked every domain up and reports what
was found. -/
theorem runInventory_cases (ran : runInventory lowercase asked args crtSh schedule = some output) :
    (∃ stop, output.outcome = .error stop) ∧ output.stdout = "" ∨ ∃ certs : Nat → List DiscoveredCert,
      (∀ i domain, args.discover[i]? = some domain →
        discoverCertificates lowercase (crtSh i) domain = .ok (certs i)) ∧
      output = reportInventory lowercase asked args.expectIssuer
        (args.discover.mapIdx fun i domain => (domain, certs i))
        (args.discover.mapIdx fun i domain => foundMessage "certificate" domain (certs i)) := by
  obtain ⟨answers, mapped, made⟩ := Option.map_eq_some_iff.mp ran
  cases answers with
  | error err =>
    rw [← made]
    exact Or.inl ⟨⟨_, rfl⟩, rfl⟩
  | ok entries =>
    dsimp only at made
    cases collected : collectFound entries with
    | error stop =>
      rw [collected] at made
      rw [← made]
      exact Or.inl ⟨⟨_, rfl⟩, rfl⟩
    | ok inventory =>
      rw [collected] at made
      obtain ⟨shape, messages⟩ := collectFound_ok "certificate" collected
      have calls := inOrder_ok_iff.mp (mapItems_eq mapped).symm
      rw [shape] at calls
      obtain ⟨certs, looked, rfl⟩ := lookups_of_entries calls
      have each : (args.discover.mapIdx fun i domain => (domain, certs i)).map
          (fun entry => foundMessage "certificate" entry.1 entry.2) =
          args.discover.mapIdx fun i domain => foundMessage "certificate" domain (certs i) := by
        rw [List.mapIdx_eq_zipIdx_map, List.mapIdx_eq_zipIdx_map, List.map_map]
        rfl
      dsimp only at made
      rw [messages, each] at made
      exact Or.inr ⟨certs, looked, made.symm⟩

/-- **What a run of `--discover-only` has listed.** A run that returns has an answer for every domain,
and one record for each certificate found, in order. Its JSON is read back to these records, its CSV
when the cells come back and the names have no blanks, and its lines are those of the records exactly
when their texts are clean. The result is POLICY exactly when a certificate has an unexpected issuer,
else OK; and a run that stops prints no inventory. -/
theorem inventory_reported (lowercase : String → String) (asked : Except PyErr InventoryForm)
    (args : DiscoverArgs) (crtSh : Nat → CrtSh) (schedule : List PoolAction) (output : Output)
    (ran : runInventory lowercase asked args crtSh schedule = some output) :
    (∀ code, output.outcome = .ok code → ∃ (certs : Nat → List DiscoveredCert)
      (records : List InventoryRecord),
      let found := foundCerts (args.discover.mapIdx fun i domain => (domain, certs i))
      let table := characters (csvRows args.expectIssuer records)
      (∀ i domain, args.discover[i]? = some domain →
        ∃ served, fetchRecords (crtSh i) domain = .ok served ∧
          Discovered lowercase domain served (certs i)) ∧
      List.Forall₂ (Lists lowercase args.expectIssuer) found records ∧
      (asked = .ok .json → readInventory output.stdout = some records) ∧
      (∀ dialect, asked = .ok (.csv dialect) → dialect.Separates →
        (dialect.readCsv output.stdout.toList = some table ↔
          ∀ row ∈ table, ∀ cell ∈ row, dialect.ComesBack cell) ∧
        ((∀ row ∈ table, ∀ cell ∈ row, dialect.ComesBack cell) → NamesSplit records →
          readInventoryCsv dialect output.stdout = some records)) ∧
      (asked = .ok .text →
        (readTable output.stdout = records.map textRow ↔ CleanRecords records)) ∧
      (code = .policy ∨ code = .ok) ∧
      (code = .policy ↔ args.expectIssuer ≠ [] ∧
        ∃ cert ∈ found, UnexpectedIssuer lowercase args.expectIssuer cert.2.issuer) ∧
      (args.discover.mapIdx fun i domain => foundMessage "certificate" domain (certs i)) <+:
        output.stderr) ∧
    ∀ stop, output.outcome = .error stop → output.stdout = "" := by
  rcases runInventory_cases ran with ⟨⟨stop, stopped⟩, empty⟩ | ⟨certs, looked, made⟩
  · rw [stopped]
    exact ⟨fun code absurd => (by cases absurd), fun _ _ => empty⟩
  have stops : ∀ stop, output.outcome = .error stop → output.stdout = "" := by
    rw [made]
    exact fun stop => reportInventory_error
  refine ⟨fun code returned => ?_, stops⟩
  rw [made] at returned
  obtain ⟨formatted, either, policy, reported⟩ := reportInventory_ok returned
  rw [← made] at formatted reported
  refine ⟨certs, _, fun i domain place => discoverCertificates_discovered (looked i domain place),
    records_listed, ?_, ?_, ?_, either, policy.trans marked_iff, reported⟩
  · intro json
    rw [json] at formatted
    exact readInventory_json formatted
  · intro dialect csv separates
    rw [csv] at formatted
    have text := (Except.ok.inj formatted).symm
    rw [text, ← inventoryTable_eq]
    refine ⟨?_, fun kept split => readInventoryCsv_table separates kept (rows_named looked) split⟩
    rw [String.toList_ofList]
    exact CsvDialect.readCsv_csvText_iff separates
  · intro plain
    rw [plain] at formatted
    have text := (Except.ok.inj formatted).symm
    rw [text, ← ctRow_eq, ← cleanInventory_iff]
    exact readTable_formatCtInventory_iff

/-- `--discover example.com --discover-only --expect-issuer "Let's Encrypt" --json`, when the log has one
certificate from another issuer. -/
def sketchyOutput : Output :=
  (runInventory lower (.ok .json) sampleInventory (fun _ => sampleCrtSh [sampleSketchy]) []).getD
    ⟨"", [], .ok .ok⟩

theorem ran_sketchy : runInventory lower (.ok .json) sampleInventory
    (fun _ => sampleCrtSh [sampleSketchy]) [] = some sketchyOutput := by
  have returns : (runInventory lower (.ok .json) sampleInventory
      (fun _ => sampleCrtSh [sampleSketchy]) []).isSome = true := by
    unfold runInventory
    rw [Option.isSome_map]
    rfl
  obtain ⟨output, ran⟩ := Option.isSome_iff_exists.mp returns
  unfold sketchyOutput
  rw [ran, Option.getD_some]

theorem inventory_reported_sketchy :
    (∀ code, sketchyOutput.outcome = .ok code → ∃ (certs : Nat → List DiscoveredCert)
      (records : List InventoryRecord),
      let found := foundCerts (sampleInventory.discover.mapIdx fun i domain => (domain, certs i))
      let table := characters (csvRows sampleInventory.expectIssuer records)
      (∀ i domain, sampleInventory.discover[i]? = some domain →
        ∃ served, fetchRecords (sampleCrtSh [sampleSketchy]) domain = .ok served ∧
          Discovered lower domain served (certs i)) ∧
      List.Forall₂ (Lists lower sampleInventory.expectIssuer) found records ∧
      ((.ok .json : Except PyErr InventoryForm) = .ok .json →
        readInventory sketchyOutput.stdout = some records) ∧
      (∀ dialect, (.ok .json : Except PyErr InventoryForm) = .ok (.csv dialect) → dialect.Separates →
        (dialect.readCsv sketchyOutput.stdout.toList = some table ↔
          ∀ row ∈ table, ∀ cell ∈ row, dialect.ComesBack cell) ∧
        ((∀ row ∈ table, ∀ cell ∈ row, dialect.ComesBack cell) → NamesSplit records →
          readInventoryCsv dialect sketchyOutput.stdout = some records)) ∧
      ((.ok .json : Except PyErr InventoryForm) = .ok .text →
        (readTable sketchyOutput.stdout = records.map textRow ↔ CleanRecords records)) ∧
      (code = .policy ∨ code = .ok) ∧
      (code = .policy ↔ sampleInventory.expectIssuer ≠ [] ∧
        ∃ cert ∈ found, UnexpectedIssuer lower sampleInventory.expectIssuer cert.2.issuer) ∧
      (sampleInventory.discover.mapIdx fun i domain =>
        foundMessage "certificate" domain (certs i)) <+: sketchyOutput.stderr) ∧
    ∀ stop, sketchyOutput.outcome = .error stop → sketchyOutput.stdout = "" :=
  inventory_reported lower (.ok .json) sampleInventory (fun _ => sampleCrtSh [sampleSketchy]) []
    sketchyOutput ran_sketchy

end Listed

end Certinspect.Formatter
