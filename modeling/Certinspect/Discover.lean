/-
**Certificate Transparency discovery, `discover.py`.**

crt.sh answers a query for a domain with records; their names are untrusted text. `extractNames`
keeps the names under the domain, `discoverHostnames` lists them, and `discoverCertificates` keeps
one entry for each certificate, under a key composed of the issuer and the serial number, or of the
names when there is no serial number.

Python's `str.lower` is an argument, `lowercase`; what crt.sh serves and how `json.loads` reads it is
a `CrtSh`.

* `IsNameOf` — the names of a record under a domain; `mem_extractNames_iff` — they are what
  `extractNames` keeps.
* `mem_discoverCertificates_iff` — an entry is listed exactly when it is of the last record of its
  key.
* `Discovered`, `discoverCertificates_discovered` — the certificates of a domain: one for each key, soonest
  expiry first.
-/

import Certinspect.Library.Dict
import Certinspect.Python
import Mathlib.Data.List.Dedup
import Mathlib.Data.List.Sort
import Mathlib.Data.String.Basic
import Mathlib.Tactic.Choose

namespace Certinspect.Discover

open Library

/-! ### Records and certificates -/

/-- A crt.sh record: the fields that are read, each a string or absent. -/
structure CtRecord where
  commonName : Option String := none
  nameValue : Option String := none
  issuerName : Option String := none
  serialNumber : Option String := none
  notBefore : Option String := none
  notAfter : Option String := none
  deriving DecidableEq, Repr

/-- `DiscoveredCert`. -/
structure DiscoveredCert where
  hostnames : List String
  issuer : String
  notBefore : String
  notAfter : String
  deriving DecidableEq, Repr

/-- What `json.loads` makes of a body. -/
inductive JsonAnswer
  | array (records : List CtRecord)
  | other
  | malformed (message : String)
  | raises (err : PyErr)

/-- crt.sh, behind `fetch`, and `json.loads`. -/
structure CrtSh where
  fetch : String → Except PyErr Bytes
  jsonLoads : Bytes → JsonAnswer

/-- `sorted(names)`, for strings. -/
def sorted (names : List String) : List String := names.insertionSort (· ≤ ·)

/-! ### The query -/

/-- One byte of a query value. -/
def quoteByte (byte : UInt8) : List Char :=
  let c := Char.ofNat byte.toNat
  if c = ' ' then ['+']
  else if isAscii c && (c.isAlphanum || c ∈ ['_', '.', '-', '~']) then [c]
  else '%' :: hexDigits "0123456789ABCDEF" byte

/-- `urlencode` of the query for a domain. -/
def crtShQuery (domain : String) : String :=
  "q=" ++ String.ofList ((encodeUtf8 ("%." ++ domain)).flatMap quoteByte) ++ "&output=json"

/-- `_CRT_SH_URL`. -/
def crtShUrl : String := "https://crt.sh/"

/-- `_fetch_records`. -/
def fetchRecords (crtSh : CrtSh) (domain : String) : Except PyErr (List CtRecord) := do
  let body ← crtSh.fetch (crtShUrl ++ "?" ++ crtShQuery domain)
  match crtSh.jsonLoads body with
  | .array records => pure records
  | .other => .error ⟨.valueError, "unexpected crt.sh response: expected a JSON array"⟩
  | .malformed message => .error ⟨.valueError, s!"could not parse the crt.sh response: {message}"⟩
  | .raises err => .error err

section Discovery

variable (lowercase : String → String)

/-! ### The names -/

/-- A domain as it is compared: lower case, without outer dots. -/
def bareDomain (domain : String) : String := stripBy (· == '.') (lowercase domain)

/-- The lines of a record. -/
def recordLines (record : CtRecord) : List String :=
  splitlines (record.commonName.getD "" ++ "\n" ++ record.nameValue.getD "")

/-- A line as a name: lower case, without outer whitespace and without dots at its end. -/
def lineName (line : String) : String := rstripBy (· == '.') (lowercase (strip line))

/-- `_extract_names`. -/
def extractNames (records : List CtRecord) (domain : String) (keepWildcards : Bool) :
    List String :=
  let domain := bareDomain lowercase domain
  let suffix := "." ++ domain
  (records.flatMap fun record => (recordLines record).filterMap fun line =>
    let name := lineName lowercase line
    if name = "" ∨ (occursIn "*" name = true ∧ keepWildcards = false) then none
    else if name = domain ∨ endsWith name suffix = true then some name
    else none).dedup

/-- `discover_hostnames`. -/
def discoverHostnames (crtSh : CrtSh) (domain : String) : Except PyErr (List String) := do
  let records ← fetchRecords crtSh domain
  pure (sorted (extractNames lowercase records domain false))

/-! ### The certificates -/

/-- The issuer of a record. -/
def recordIssuer (record : CtRecord) : String := strip (record.issuerName.getD "")

/-- The key of a record with these names. -/
def certificateKey (record : CtRecord) (names : List String) : String :=
  let serial := record.serialNumber.getD ""
  if serial ≠ "" then recordIssuer record ++ "\n" ++ serial else String.intercalate "\n" (sorted names)

/-- The entry of a record with these names. -/
def discoveredCert (record : CtRecord) (names : List String) : DiscoveredCert where
  hostnames := sorted names
  issuer := recordIssuer record
  notBefore := record.notBefore.getD ""
  notAfter := record.notAfter.getD ""

/-- The keys and the entries of the records, in order; a record without names is dropped. -/
def keyedCerts (records : List CtRecord) (domain : String) : List (String × DiscoveredCert) :=
  records.filterMap fun record =>
    let names := extractNames lowercase [record] domain true
    if names = [] then none else some (certificateKey record names, discoveredCert record names)

/-- `discover_certificates`. -/
def discoverCertificates (crtSh : CrtSh) (domain : String) : Except PyErr (List DiscoveredCert) := do
  let records ← fetchRecords crtSh domain
  let seen := setItems (keyedCerts lowercase records domain)
  pure ((seen.map Prod.snd).insertionSort fun first second => first.notAfter ≤ second.notAfter)

/-! ### What they return -/

/-- A name is the domain, or under it. -/
def UnderDomain (domain name : String) : Prop :=
  name = bareDomain lowercase domain ∨
    ('.' :: (bareDomain lowercase domain).toList) <:+ name.toList

/-- A name of the record at or under the domain, wildcards included. -/
def IsNameOf (record : CtRecord) (domain name : String) : Prop :=
  name ≠ "" ∧ (∃ line ∈ recordLines record, lineName lowercase line = name) ∧
    UnderDomain lowercase domain name

/-- The key of the record, for its names under the domain. -/
def recordKey (domain : String) (record : CtRecord) : String :=
  certificateKey record (extractNames lowercase [record] domain true)

/-- What a record leaves in the dictionary. -/
def recordEntry (domain : String) (record : CtRecord) : String × DiscoveredCert :=
  (recordKey lowercase domain record,
    discoveredCert record (extractNames lowercase [record] domain true))

/-- The certificate of a record: its names under the domain in order, its issuer and its dates. -/
structure CertOf (domain : String) (record : CtRecord) (cert : DiscoveredCert) : Prop where
  names : ∀ name, name ∈ cert.hostnames ↔ IsNameOf lowercase record domain name
  inOrder : cert.hostnames.Pairwise (· < ·)
  issuer : cert.issuer = strip (record.issuerName.getD "")
  notBefore : cert.notBefore = record.notBefore.getD ""
  notAfter : cert.notAfter = record.notAfter.getD ""

/-- The record has a name under the domain, and none of the later ones that have one has its key. -/
def LastOfKey (domain : String) (record : CtRecord) (later : List CtRecord) : Prop :=
  (∃ name, IsNameOf lowercase record domain name) ∧
    ∀ other ∈ later, (∃ name, IsNameOf lowercase other domain name) →
      recordKey lowercase domain other ≠ recordKey lowercase domain record

/-- The certificates of a domain whose records are these: one for each key, that of the last record of the
key, soonest expiry first. -/
structure Discovered (domain : String) (records : List CtRecord) (certs : List DiscoveredCert) : Prop where
  kept : ∃ kept : List CtRecord, List.Forall₂ (CertOf lowercase domain) kept certs ∧
    (kept.map (recordKey lowercase domain)).Nodup ∧
    ∀ record, record ∈ kept ↔ ∃ earlier later, records = earlier ++ record :: later ∧
      LastOfKey lowercase domain record later
  soonest : certs.Pairwise fun first second => first.notAfter ≤ second.notAfter

variable {lowercase} {records : List CtRecord} {domain name : String} {crtSh : CrtSh}

theorem underDomain_iff :
    (name = bareDomain lowercase domain ∨
      endsWith name ("." ++ bareDomain lowercase domain) = true) ↔
      UnderDomain lowercase domain name := by
  unfold UnderDomain endsWith
  rw [List.isSuffixOf_iff_suffix, String.toList_append]
  exact Iff.rfl

/-- **What `_extract_names` keeps**: the names under the domain, and no wildcards unless asked. -/
theorem mem_extractNames_iff {keepWildcards : Bool} :
    name ∈ extractNames lowercase records domain keepWildcards ↔
      ∃ record ∈ records, IsNameOf lowercase record domain name ∧
        (keepWildcards = true ∨ '*' ∉ name.toList) := by
  have wildcard : occursIn "*" name = true ↔ '*' ∈ name.toList :=
    occursIn_iff.trans (List.singleton_infix_iff '*' name.toList)
  unfold extractNames
  rw [List.mem_dedup, List.mem_flatMap]
  refine exists_congr fun record => and_congr_right fun _ => ?_
  rw [List.mem_filterMap]
  refine ⟨?_, ?_⟩
  · intro found
    obtain ⟨line, member, kept⟩ := found
    dsimp only at kept
    split at kept
    · cases kept
    rename_i concrete
    split at kept
    · rename_i under
      cases kept
      simp only [not_or, not_and, Bool.not_eq_false] at concrete
      refine ⟨⟨concrete.1, ⟨line, member, rfl⟩, underDomain_iff.mp under⟩, ?_⟩
      by_cases starred : occursIn "*" (lineName lowercase line) = true
      · exact Or.inl (concrete.2 starred)
      · exact Or.inr fun star => starred (wildcard.mpr star)
    · cases kept
  · intro found
    obtain ⟨⟨nonempty, ⟨line, member, rfl⟩, under⟩, concrete⟩ := found
    refine ⟨line, member, ?_⟩
    dsimp only
    rw [if_neg, if_pos (underDomain_iff.mpr under)]
    intro dropped
    rcases dropped with empty | ⟨starred, excluded⟩
    · exact nonempty empty
    · rcases concrete with kept | noStar
      · rw [excluded] at kept
        cases kept
      · exact noStar (wildcard.mp starred)

theorem mem_recordNames_iff {record : CtRecord} :
    name ∈ extractNames lowercase [record] domain true ↔ IsNameOf lowercase record domain name := by
  rw [mem_extractNames_iff]
  simp

/-- A record has no names under the domain, or some. -/
theorem extractNames_ne_nil_iff {record : CtRecord} :
    extractNames lowercase [record] domain true ≠ [] ↔
      ∃ name, IsNameOf lowercase record domain name := by
  refine ⟨?_, fun ⟨name, isName⟩ => List.ne_nil_of_mem (mem_recordNames_iff.mpr isName)⟩
  intro named
  obtain ⟨name, member⟩ := List.exists_mem_of_ne_nil _ named
  exact ⟨name, mem_recordNames_iff.mp member⟩

theorem mem_discoverHostnames_iff (served : fetchRecords crtSh domain = .ok records) :
    ∃ names, discoverHostnames lowercase crtSh domain = .ok names ∧
      ∀ name, name ∈ names ↔
        ∃ record ∈ records, IsNameOf lowercase record domain name ∧ '*' ∉ name.toList := by
  refine ⟨sorted (extractNames lowercase records domain false), ?_, ?_⟩
  · unfold discoverHostnames
    rw [served]
    rfl
  · intro name
    rw [sorted, List.mem_insertionSort, mem_extractNames_iff]
    simp

/-- The keyed entries are those of the records with names, in order. -/
theorem keyedCerts_split {before after : List (String × DiscoveredCert)} {key : String}
    {cert : DiscoveredCert} :
    keyedCerts lowercase records domain = before ++ (key, cert) :: after →
      ∃ earlier record later, records = earlier ++ record :: later ∧
        (∃ name, IsNameOf lowercase record domain name) ∧ key = recordKey lowercase domain record ∧
        cert = discoveredCert record (extractNames lowercase [record] domain true) ∧
        after = keyedCerts lowercase later domain := by
  intro split
  obtain ⟨earlier, rest, rfl, _, tail⟩ := List.filterMap_eq_append_iff.mp split
  obtain ⟨skipped, record, later, rfl, _, kept, remaining⟩ := List.filterMap_eq_cons_iff.mp tail
  refine ⟨earlier ++ skipped, record, later, by simp, ?_⟩
  dsimp only at kept
  by_cases empty : extractNames lowercase [record] domain true = []
  · rw [if_pos empty] at kept
    cases kept
  · rw [if_neg empty] at kept
    cases kept
    exact ⟨extractNames_ne_nil_iff.mp empty, rfl, rfl, remaining.symm⟩

theorem keyedCerts_append (first second : List CtRecord) :
    keyedCerts lowercase (first ++ second) domain =
      keyedCerts lowercase first domain ++ keyedCerts lowercase second domain :=
  List.filterMap_append

theorem mem_keyedCerts_iff {key : String} {cert : DiscoveredCert} :
    (key, cert) ∈ keyedCerts lowercase records domain ↔ ∃ record ∈ records,
      (∃ name, IsNameOf lowercase record domain name) ∧ key = recordKey lowercase domain record ∧
        cert = discoveredCert record (extractNames lowercase [record] domain true) := by
  unfold keyedCerts
  rw [List.mem_filterMap]
  refine exists_congr fun record => and_congr_right fun _ => ?_
  rw [← extractNames_ne_nil_iff]
  dsimp only
  by_cases empty : extractNames lowercase [record] domain true = []
  · rw [if_pos empty]
    exact ⟨fun absurd => (by cases absurd), fun ⟨named, _⟩ => (named empty).elim⟩
  · rw [if_neg empty]
    refine ⟨?_, ?_⟩
    · intro same
      cases same
      exact ⟨empty, rfl, rfl⟩
    · intro found
      obtain ⟨_, rfl, rfl⟩ := found
      rfl

/-- The dictionary has the entries of the records that no later one of the same key replaces. -/
theorem mem_seen_iff {entry : String × DiscoveredCert} :
    entry ∈ setItems (keyedCerts lowercase records domain) ↔
      ∃ earlier record later, records = earlier ++ record :: later ∧
        LastOfKey lowercase domain record later ∧ entry = recordEntry lowercase domain record := by
  obtain ⟨key, cert⟩ := entry
  rw [mem_setItems_iff, lastValue_iff_split]
  refine ⟨?_, ?_⟩
  · rintro ⟨before, after, split, last⟩
    obtain ⟨earlier, record, later, rfl, named, rfl, rfl, rfl⟩ := keyedCerts_split split
    refine ⟨earlier, record, later, rfl, ⟨named, fun other inside otherNamed => ?_⟩, rfl⟩
    exact last (recordKey lowercase domain other, _)
      (mem_keyedCerts_iff.mpr ⟨other, inside, otherNamed, rfl, rfl⟩)
  · rintro ⟨earlier, record, later, rfl, ⟨named, last⟩, same⟩
    cases same
    refine ⟨keyedCerts lowercase earlier domain, keyedCerts lowercase later domain, ?_, ?_⟩
    · have own : keyedCerts lowercase [record] domain = [recordEntry lowercase domain record] := by
        unfold keyedCerts
        rw [List.filterMap_cons]
        dsimp only
        rw [if_neg (extractNames_ne_nil_iff.mpr named)]
        rfl
      have cut : earlier ++ record :: later = earlier ++ ([record] ++ later) := rfl
      rw [cut, keyedCerts_append, keyedCerts_append, own]
      rfl
    · intro pair member
      obtain ⟨key, other⟩ := pair
      obtain ⟨record', inside, otherNamed, rfl, _⟩ := mem_keyedCerts_iff.mp member
      exact last record' inside otherNamed

/-- **Which certificates are listed**: those of the records that no later record of the same key
replaces. -/
theorem mem_discoverCertificates_iff (served : fetchRecords crtSh domain = .ok records) :
    ∃ certs, discoverCertificates lowercase crtSh domain = .ok certs ∧
      ∀ cert, cert ∈ certs ↔ ∃ earlier record later, records = earlier ++ record :: later ∧
        (∃ name, IsNameOf lowercase record domain name) ∧
        cert = discoveredCert record (extractNames lowercase [record] domain true) ∧
        ∀ other ∈ later, (∃ name, IsNameOf lowercase other domain name) →
          recordKey lowercase domain other ≠ recordKey lowercase domain record := by
  refine ⟨((setItems (keyedCerts lowercase records domain)).map Prod.snd).insertionSort
    fun first second => first.notAfter ≤ second.notAfter, ?_, ?_⟩
  · unfold discoverCertificates
    rw [served]
    rfl
  intro cert
  rw [List.mem_insertionSort, List.mem_map]
  refine ⟨?_, ?_⟩
  · rintro ⟨entry, member, rfl⟩
    obtain ⟨earlier, record, later, split, ⟨named, last⟩, rfl⟩ := mem_seen_iff.mp member
    exact ⟨earlier, record, later, split, named, rfl, last⟩
  · rintro ⟨earlier, record, later, split, named, rfl, last⟩
    exact ⟨_, mem_seen_iff.mpr ⟨earlier, record, later, split, ⟨named, last⟩, rfl⟩, rfl⟩

/-! ### The certificates of a domain -/

/-- The entry that a record leaves is its certificate. -/
theorem certOf_recordEntry (record : CtRecord) :
    CertOf lowercase domain record (recordEntry lowercase domain record).2 where
  names name := (List.mem_insertionSort _).trans mem_recordNames_iff
  inOrder := by
    have distinct : (sorted (extractNames lowercase [record] domain true)).Nodup :=
      (List.perm_insertionSort _ _).nodup_iff.mpr (List.nodup_dedup _)
    exact (List.pairwise_insertionSort _ _).imp₂ (fun _ _ => lt_of_le_of_ne) distinct
  issuer := rfl
  notBefore := rfl
  notAfter := rfl

/-- Of the records of one key with a name one is the last. -/
theorem LastOfKey.unique {earlier earlier' later later' : List CtRecord} {record record' : CtRecord}
    (last : LastOfKey lowercase domain record later) (last' : LastOfKey lowercase domain record' later')
    (same : recordKey lowercase domain record = recordKey lowercase domain record')
    (split : earlier ++ record :: later = earlier' ++ record' :: later') : record = record' := by
  rcases List.append_eq_append_iff.mp split with ⟨between, _, rest⟩ | ⟨between, _, rest⟩
  · cases between with
    | nil => exact (List.cons.inj rest).1
    | cons first others =>
      obtain ⟨_, inside⟩ := List.cons.inj rest
      exact (last.2 record' (inside ▸ by simp) last'.1 same.symm).elim
  · cases between with
    | nil => exact (List.cons.inj rest).1.symm
    | cons first others =>
      obtain ⟨_, inside⟩ := List.cons.inj rest
      exact (last'.2 record (inside ▸ by simp) last.1 same).elim

/-- The records of the entries of the dictionary, in their order. -/
theorem exists_keptRecords (records : List CtRecord) : ∃ kept : List CtRecord,
    setItems (keyedCerts lowercase records domain) = kept.map (recordEntry lowercase domain) ∧
    ∀ record, record ∈ kept ↔ ∃ earlier later, records = earlier ++ record :: later ∧
      LastOfKey lowercase domain record later := by
  have each (entry : String × DiscoveredCert) : ∃ record : CtRecord,
      entry ∈ setItems (keyedCerts lowercase records domain) →
        (∃ earlier later, records = earlier ++ record :: later ∧
          LastOfKey lowercase domain record later) ∧ entry = recordEntry lowercase domain record := by
    by_cases member : entry ∈ setItems (keyedCerts lowercase records domain)
    · obtain ⟨earlier, record, later, split, last, same⟩ := mem_seen_iff.mp member
      exact ⟨record, fun _ => ⟨⟨earlier, later, split, last⟩, same⟩⟩
    · exact ⟨{}, fun absurd => (member absurd).elim⟩
  choose source own using each
  refine ⟨(setItems (keyedCerts lowercase records domain)).map source, ?_, fun record => ?_⟩
  · rw [List.map_map]
    exact (List.map_id'' (fun entry => rfl) _).symm.trans
      (List.map_congr_left fun entry member => (own entry member).2)
  · rw [List.mem_map]
    refine ⟨?_, ?_⟩
    · rintro ⟨entry, member, rfl⟩
      exact (own entry member).1
    · rintro ⟨earlier, later, split, last⟩
      have member : recordEntry lowercase domain record ∈
          setItems (keyedCerts lowercase records domain) :=
        mem_seen_iff.mpr ⟨earlier, record, later, split, last, rfl⟩
      obtain ⟨⟨earlier', later', split', last'⟩, same⟩ := own _ member
      exact ⟨_, member, last'.unique last (congrArg Prod.fst same).symm (split'.symm.trans split)⟩

/-- **What `discover_certificates` returns**: the certificates of the domain. -/
theorem discoverCertificates_discovered {certs : List DiscoveredCert}
    (found : discoverCertificates lowercase crtSh domain = .ok certs) :
    ∃ records, fetchRecords crtSh domain = .ok records ∧ Discovered lowercase domain records certs := by
  obtain ⟨records, served, sorts⟩ := bind_ok_iff.mp found
  cases sorts
  obtain ⟨kept, seen, members⟩ := @exists_keptRecords lowercase domain records
  have distinct : (kept.map (recordKey lowercase domain)).Nodup := by
    have keys := nodup_setItems (keyedCerts lowercase records domain)
    rw [seen, List.map_map] at keys
    exact keys
  have ordered : (kept.map (Prod.snd ∘ recordEntry lowercase domain)).insertionSort
      (fun first second => first.notAfter ≤ second.notAfter) =
      (kept.insertionSort fun first second => first.notAfter.getD "" ≤ second.notAfter.getD "").map
        (Prod.snd ∘ recordEntry lowercase domain) :=
    (List.map_insertionSort (fun first second : CtRecord =>
        first.notAfter.getD "" ≤ second.notAfter.getD "")
      (fun first second : DiscoveredCert => first.notAfter ≤ second.notAfter)
      (Prod.snd ∘ recordEntry lowercase domain) kept fun _ _ _ _ => Iff.rfl).symm
  refine ⟨records, served, ⟨?_, List.pairwise_insertionSort _ _⟩⟩
  rw [seen, List.map_map, ordered]
  refine ⟨kept.insertionSort fun first second => first.notAfter.getD "" ≤ second.notAfter.getD "",
    ?_, ?_, fun record => ?_⟩
  · rw [List.forall₂_map_right_iff, List.forall₂_same]
    exact fun record _ => certOf_recordEntry record
  · exact ((List.perm_insertionSort _ _).map _).nodup_iff.mpr distinct
  · rw [List.mem_insertionSort]
    exact members record

theorem exists_certified {kept : List CtRecord} {certs : List DiscoveredCert} {cert : DiscoveredCert}
    (certified : List.Forall₂ (CertOf lowercase domain) kept certs) (member : cert ∈ certs) :
    ∃ record ∈ kept, CertOf lowercase domain record cert := by
  induction certified with
  | nil => cases member
  | cons own _ ih =>
    rcases List.mem_cons.mp member with rfl | later
    · exact ⟨_, List.mem_cons_self, own⟩
    · obtain ⟨record, inside, own⟩ := ih later
      exact ⟨record, List.mem_cons_of_mem _ inside, own⟩

/-- A certificate that is found has a name. -/
theorem Discovered.named {certs : List DiscoveredCert} {cert : DiscoveredCert}
    (discovered : Discovered lowercase domain records certs) (member : cert ∈ certs) :
    cert.hostnames ≠ [] := by
  obtain ⟨kept, certified, _, last⟩ := discovered.kept
  obtain ⟨record, inside, own⟩ := exists_certified certified member
  obtain ⟨_, _, _, ⟨name, isName⟩, _⟩ := (last record).mp inside
  exact List.ne_nil_of_mem ((own.names name).mpr isName)

end Discovery

end Certinspect.Discover
