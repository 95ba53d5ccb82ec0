/-
**The Certificate Transparency inventory, `--discover-only` in `cli.py`.**

Every domain is looked up, in order or by a pool of workers; the certificates found are listed, and
with `--expect-issuer` one from another issuer makes the result POLICY. A certificate is the last of
the records of its key, so a record can be replaced before anybody looks at its issuer.

* `discover` — `_discover`: the first domain that fails ends the program.
* `runDiscoverOnly` — `_run_discover_only`, its printing left out.
* `foundCerts`, `marked_iff` — the certificates that were found, and when one of their rows is marked.
* `Unexpected` — a record with a name under its domain whose issuer is none of the expected ones;
  `Replaced` — followed by one of the same key whose issuer is expected.
* **`runDiscoverOnly_policy_iff`** — the result is POLICY exactly when there is an unexpected record,
  unless there are such records and all of them are replaced.
-/

import Certinspect.Cli.Batch
import Certinspect.Discover

namespace Certinspect.Cli

open Library Discover

/-! ### Looking up the domains -/

/-- What ends the program early: an exception, `sys.exit`, or `parser.error`. -/
inductive Stop
  | raises (err : PyErr)
  | exits (code : Nat)
  | usage (message : String)

section Lookup

variable {α : Type}

/-- `_discover_one`. -/
def discoverOne (domain : String) (found : Except PyErr (List α)) :
    Except PyErr (String × Except String (List α)) := do
  match ← exceptPure [.osError, .valueError] found with
  | .ok result => pure (domain, .ok result)
  | .error err => pure (domain, .error err.message)

/-- The loop of `_discover` over what was found, its printing left out. -/
def collectFound : List (String × Except String (List α)) → Except Stop (List (String × List α))
  | [] => .ok []
  | (_, .error _) :: _ => .error (.exits 1)
  | (domain, .ok result) :: rest => do
    let found ← collectFound rest
    pure ((domain, result) :: found)

/-- `_discover`; `lookUp i` is the lookup of the `i`-th domain. -/
def discover (domains : List String) (workers : Int)
    (lookUp : Nat → String → Except PyErr (List α)) (schedule : List PoolAction) :
    Option (Except Stop (List (String × List α))) :=
  (mapItems (domains.mapIdx fun i domain => discoverOne domain (lookUp i domain)) workers
    schedule).map fun
    | .error err => .error (.raises err)
    | .ok entries => collectFound entries

/-- Lookups that all succeed are collected. -/
theorem discover_found {domains : List String} {workers : Int}
    {lookUp : Nat → String → Except PyErr (List α)} {schedule : List PoolAction}
    {outcome : Except Stop (List (String × List α))} {results : Nat → List α}
    (found : ∀ i domain, domains[i]? = some domain → lookUp i domain = .ok (results i))
    (ran : discover domains workers lookUp schedule = some outcome) :
    outcome = .ok (domains.mapIdx fun i domain => (domain, results i)) := by
  unfold discover at ran
  obtain ⟨entries, mapped, rfl⟩ := Option.map_eq_some_iff.mp ran
  have calls : (domains.mapIdx fun i domain => discoverOne domain (lookUp i domain)) =
      (domains.mapIdx fun i domain => ((domain, .ok (results i)) :
        String × Except String (List α))).map .ok := by
    apply List.ext_getElem?
    intro i
    rw [List.getElem?_map, List.getElem?_mapIdx, List.getElem?_mapIdx]
    cases place : domains[i]? with
    | none => rfl
    | some domain =>
      rw [Option.map_some, Option.map_some, Option.map_some, found i domain place]
      rfl
  rw [mapItems_eq mapped, inOrder_ok_iff.mpr calls]
  show collectFound _ = _
  clear found ran mapped calls
  induction domains generalizing results with
  | nil => rfl
  | cons domain rest ih =>
    have others := @ih fun i => results (i + 1)
    rw [List.mapIdx_cons, List.mapIdx_cons, collectFound, others]
    rfl

end Lookup

/-! ### The inventory -/

section Inventory

variable (lowercase : String → String)

/-- The parsed command line, as far as `--discover-only` reads it. -/
structure DiscoverArgs where
  discover : List String
  expectIssuer : List String := []
  concurrency : Int := 1

/-- `_issuer_is_expected`. -/
def issuerIsExpected (issuer : String) (expected : List String) : Bool :=
  expected.any fun token => occursIn (lowercase token) (lowercase issuer)

/-- The rows of the inventory, each with whether its issuer is unexpected. -/
def inventoryRows (expected : List String) (inventory : List (String × List DiscoveredCert)) :
    List (String × DiscoveredCert × Bool) :=
  inventory.flatMap fun (domain, certs) => certs.map fun cert =>
    (domain, cert, !expected.isEmpty && !issuerIsExpected lowercase cert.issuer expected)

/-- The certificates that were found, each with its domain. -/
def foundCerts (inventory : List (String × List DiscoveredCert)) : List (String × DiscoveredCert) :=
  inventory.flatMap fun entry => entry.2.map fun cert => (entry.1, cert)

/-- `_run_discover_only`, its printing left out; `crtSh i` answers for the `i`-th domain. -/
def runDiscoverOnly (args : DiscoverArgs) (crtSh : Nat → CrtSh) (schedule : List PoolAction) :
    Option (Except Stop ExitCode) :=
  (discover args.discover args.concurrency
    (fun i domain => discoverCertificates lowercase (crtSh i) domain) schedule).map
    fun found => do
      let inventory ← found
      let unexpected := (inventoryRows lowercase args.expectIssuer inventory).countP fun row => row.2.2
      pure (if unexpected ≠ 0 then .policy else .ok)

/-! ### Unexpected issuers -/

variable (expected : List String) (domain : String)

/-- The issuer contains none of the expected substrings, case-insensitively. -/
def UnexpectedIssuer (issuer : String) : Prop :=
  ∀ token ∈ expected, ¬ (lowercase token).toList <:+: (lowercase issuer).toList

/-- A record with a name under the domain and an unexpected issuer. -/
structure Unexpected (record : CtRecord) : Prop where
  named : ∃ name, IsNameOf lowercase record domain name
  issuer : UnexpectedIssuer lowercase expected (recordIssuer record)

/-- A later record of the same key has names under the domain and an expected issuer. -/
def Replaced (record : CtRecord) (later : List CtRecord) : Prop :=
  ∃ other ∈ later, (∃ name, IsNameOf lowercase other domain name) ∧
    recordKey lowercase domain other = recordKey lowercase domain record ∧
    ¬ UnexpectedIssuer lowercase expected (recordIssuer other)

/-- Some domain has an unexpected record. -/
def SomeUnexpected (domains : List String) (records : Nat → List CtRecord) : Prop :=
  ∃ i domain, domains[i]? = some domain ∧
    ∃ record ∈ records i, Unexpected lowercase expected domain record

/-- Some domain has an unexpected record that is not replaced. -/
def SomeLasting (domains : List String) (records : Nat → List CtRecord) : Prop :=
  ∃ i domain earlier record later, domains[i]? = some domain ∧
    records i = earlier ++ record :: later ∧ Unexpected lowercase expected domain record ∧
    ¬ Replaced lowercase expected domain record later

variable {lowercase expected domain}

theorem issuerIsExpected_false_iff {issuer : String} :
    issuerIsExpected lowercase issuer expected = false ↔
      UnexpectedIssuer lowercase expected issuer := by
  unfold issuerIsExpected UnexpectedIssuer
  rw [List.any_eq_false]
  exact forall₂_congr fun token _ => not_congr occursIn_iff

/-- The certificates of a domain, one of which has an unexpected issuer. -/
theorem unexpected_listed_iff {records : List CtRecord} {certs : List DiscoveredCert}
    (listed : ∀ cert, cert ∈ certs ↔ ∃ earlier record later, records = earlier ++ record :: later ∧
      (∃ name, IsNameOf lowercase record domain name) ∧
      cert = discoveredCert record (extractNames lowercase [record] domain true) ∧
      ∀ other ∈ later, (∃ name, IsNameOf lowercase other domain name) →
        recordKey lowercase domain other ≠ recordKey lowercase domain record) :
    (∃ cert ∈ certs, UnexpectedIssuer lowercase expected cert.issuer) ↔
      ∃ earlier record later, records = earlier ++ record :: later ∧
        Unexpected lowercase expected domain record ∧
        ¬ Replaced lowercase expected domain record later := by
  refine ⟨?_, ?_⟩
  · intro found
    obtain ⟨cert, member, unexpected⟩ := found
    obtain ⟨earlier, record, later, split, named, rfl, last⟩ := (listed cert).mp member
    refine ⟨earlier, record, later, split, ⟨named, unexpected⟩, ?_⟩
    intro replaced
    obtain ⟨other, inside, otherNamed, sameKey, _⟩ := replaced
    exact last other inside otherNamed sameKey
  · intro found
    obtain ⟨earlier, record, later, split, unexpected, lasting⟩ := found
    -- The certificate of this key is the last of its records, which is not expected either.
    by_cases repeated : ∃ other ∈ later.reverse, (∃ name, IsNameOf lowercase other domain name) ∧
        recordKey lowercase domain other = recordKey lowercase domain record
    · obtain ⟨after, last, between, cut, none_after, named, sameKey⟩ := exists_first repeated
      have order : later = between.reverse ++ last :: after.reverse := by
        rw [← List.reverse_reverse later, cut]
        simp
      have issuer : UnexpectedIssuer lowercase expected (recordIssuer last) := by
        by_contra isExpected
        exact lasting ⟨last, by simp [order], named, sameKey, isExpected⟩
      refine ⟨discoveredCert last _, (listed _).mpr ⟨earlier ++ record :: between.reverse, last,
        after.reverse, by simp [split, order], named, rfl, ?_⟩, issuer⟩
      intro other inside otherNamed same
      exact none_after other (List.mem_reverse.mp inside) ⟨otherNamed, same.trans sameKey⟩
    · refine ⟨discoveredCert record _, (listed _).mpr ⟨earlier, record, later, split,
        unexpected.named, rfl, ?_⟩, unexpected.issuer⟩
      intro other inside otherNamed same
      exact repeated ⟨other, List.mem_reverse.mpr inside, otherNamed, same⟩

/-- The rows of the inventory are those of the certificates that were found. -/
theorem inventoryRows_eq {inventory : List (String × List DiscoveredCert)} :
    inventoryRows lowercase expected inventory = (foundCerts inventory).map fun found =>
      (found.1, found.2, !expected.isEmpty && !issuerIsExpected lowercase found.2.issuer expected) := by
  unfold inventoryRows foundCerts
  rw [List.map_flatMap]
  refine List.flatMap_congr fun entry _ => ?_
  rw [List.map_map]
  rfl

theorem mem_foundCerts_iff {domains : List String} {certs : Nat → List DiscoveredCert}
    {found : String × DiscoveredCert} :
    found ∈ foundCerts (domains.mapIdx fun i domain => (domain, certs i)) ↔
      ∃ i, domains[i]? = some found.1 ∧ found.2 ∈ certs i := by
  unfold foundCerts
  rw [List.mem_flatMap]
  refine ⟨?_, ?_⟩
  · rintro ⟨entry, inside, own⟩
    obtain ⟨i, place, rfl⟩ := List.mem_mapIdx.mp inside
    obtain ⟨cert, member, rfl⟩ := List.mem_map.mp own
    exact ⟨i, List.getElem?_eq_getElem place, member⟩
  · rintro ⟨i, here, member⟩
    obtain ⟨place, same⟩ := List.getElem?_eq_some_iff.mp here
    refine ⟨(found.1, certs i), List.mem_mapIdx.mpr ⟨i, place, by rw [same]⟩, ?_⟩
    exact List.mem_map.mpr ⟨found.2, member, rfl⟩

/-- A certificate is marked exactly when its issuer is judged, and unexpected. -/
theorem mark_iff {issuer : String} :
    (!expected.isEmpty && !issuerIsExpected lowercase issuer expected) = true ↔
      expected ≠ [] ∧ UnexpectedIssuer lowercase expected issuer := by
  rw [Bool.and_eq_true, Bool.not_eq_true', Bool.not_eq_true', issuerIsExpected_false_iff,
    List.isEmpty_eq_false_iff]

/-- Some row is marked exactly when a certificate has an unexpected issuer. -/
theorem marked_iff {inventory : List (String × List DiscoveredCert)} :
    (inventoryRows lowercase expected inventory).countP (fun row => row.2.2) ≠ 0 ↔
      expected ≠ [] ∧ ∃ found ∈ foundCerts inventory,
        UnexpectedIssuer lowercase expected found.2.issuer := by
  rw [Nat.ne_zero_iff_zero_lt, List.countP_pos_iff, inventoryRows_eq]
  refine ⟨?_, ?_⟩
  · rintro ⟨row, member, marked⟩
    obtain ⟨found, inside, rfl⟩ := List.mem_map.mp member
    obtain ⟨judged, unexpected⟩ := mark_iff.mp marked
    exact ⟨judged, found, inside, unexpected⟩
  · rintro ⟨judged, found, inside, unexpected⟩
    exact ⟨_, List.mem_map_of_mem inside, mark_iff.mpr ⟨judged, unexpected⟩⟩

/-- **What `_run_discover_only` returns**: POLICY exactly when an unexpected record lasts. -/
theorem runDiscoverOnly_eq {args : DiscoverArgs} {crtSh : Nat → CrtSh}
    {records : Nat → List CtRecord} {schedule : List PoolAction} {outcome : Except Stop ExitCode}
    (given : args.expectIssuer ≠ [])
    (served : ∀ i domain, args.discover[i]? = some domain →
      fetchRecords (crtSh i) domain = .ok (records i))
    (ran : runDiscoverOnly lowercase args crtSh schedule = some outcome) :
    outcome = .ok .policy ↔ SomeLasting lowercase args.expectIssuer args.discover records := by
  have certificates : ∀ i, ∃ certs, ∀ domain, args.discover[i]? = some domain →
      discoverCertificates lowercase (crtSh i) domain = .ok certs ∧
      ((∃ cert ∈ certs, UnexpectedIssuer lowercase args.expectIssuer cert.issuer) ↔
        ∃ earlier record later, records i = earlier ++ record :: later ∧
          Unexpected lowercase args.expectIssuer domain record ∧
          ¬ Replaced lowercase args.expectIssuer domain record later) := by
    intro i
    cases place : args.discover[i]? with
    | none => exact ⟨[], fun _ absurd => by cases absurd⟩
    | some domain =>
      obtain ⟨certs, found, listed⟩ :=
        @mem_discoverCertificates_iff lowercase _ _ _ (served i domain place)
      refine ⟨certs, fun other same => ?_⟩
      cases same
      exact ⟨found, unexpected_listed_iff listed⟩
  choose results each using certificates
  unfold runDiscoverOnly at ran
  obtain ⟨found, looked, rfl⟩ := Option.map_eq_some_iff.mp ran
  have inventory := discover_found (fun i domain place => (each i domain place).1) looked
  subst inventory
  dsimp only [bind, Except.bind, pure, Except.pure]
  have code (condition : Prop) [Decidable condition] :
      (Except.ok (if condition then .policy else .ok) : Except Stop ExitCode) = .ok .policy ↔
        condition := by
    by_cases holds : condition
    · simp [holds]
    · simp [holds]
  rw [code, marked_iff, and_iff_right given]
  refine ⟨?_, ?_⟩
  · rintro ⟨found, member, unexpected⟩
    obtain ⟨i, here, listed⟩ := mem_foundCerts_iff.mp member
    obtain ⟨earlier, record, later, lasting⟩ := (each i _ here).2.mp ⟨_, listed, unexpected⟩
    exact ⟨i, _, earlier, record, later, here, lasting⟩
  · rintro ⟨i, domain, earlier, record, later, here, lasting⟩
    obtain ⟨cert, listed, unexpected⟩ := (each i domain here).2.mpr ⟨earlier, record, later, lasting⟩
    exact ⟨(domain, cert), mem_foundCerts_iff.mpr ⟨i, here, listed⟩, unexpected⟩

/-- **POLICY means an unexpected issuer, unless every unexpected record is replaced.** -/
theorem runDiscoverOnly_policy_iff {args : DiscoverArgs} {crtSh : Nat → CrtSh}
    {records : Nat → List CtRecord} {schedule : List PoolAction} {outcome : Except Stop ExitCode}
    (given : args.expectIssuer ≠ [])
    (served : ∀ i domain, args.discover[i]? = some domain →
      fetchRecords (crtSh i) domain = .ok (records i))
    (ran : runDiscoverOnly lowercase args crtSh schedule = some outcome) :
    (outcome = .ok .policy ↔ SomeUnexpected lowercase args.expectIssuer args.discover records) ↔
      (SomeUnexpected lowercase args.expectIssuer args.discover records →
        SomeLasting lowercase args.expectIssuer args.discover records) := by
  rw [runDiscoverOnly_eq given served ran]
  refine ⟨Iff.mpr, fun lasts => ⟨?_, lasts⟩⟩
  intro found
  obtain ⟨i, domain, earlier, record, later, place, split, unexpected, _⟩ := found
  exact ⟨i, domain, place, record, by simp [split], unexpected⟩

end Inventory

/-! ### Two certificates without a serial number -/

section SameNames

/-- A certificate from an issuer nobody expects. -/
def sampleSketchy : CtRecord :=
  { commonName := some "a.example.com", issuerName := some "CN=Sketchy CA" }

/-- A certificate for the same name from the usual issuer. -/
def sampleUsual : CtRecord :=
  { commonName := some "a.example.com", issuerName := some "O=Let's Encrypt, CN=R3" }

/-- A crt.sh that has these records. -/
def sampleCrtSh (records : List CtRecord) : CrtSh := ⟨fun _ => .ok [], fun _ => .array records⟩

/-- `--discover example.com --discover-only --expect-issuer "Let's Encrypt"`. -/
def sampleInventory : DiscoverArgs :=
  { discover := ["example.com"], expectIssuer := ["Let's Encrypt"] }

theorem sampleSketchy_unexpected :
    Unexpected lower sampleInventory.expectIssuer "example.com" sampleSketchy :=
  ⟨⟨"a.example.com", by decide, ⟨"a.example.com", by decide, by decide⟩, Or.inr (by decide)⟩,
    fun token member => by
      rw [List.mem_singleton.mp member]
      decide⟩

/-- Served alone, the unexpected certificate is reported. -/
theorem runDiscoverOnly_policy_iff_alone :
    runDiscoverOnly lower sampleInventory (fun _ => sampleCrtSh [sampleSketchy]) [] =
        some (.ok .policy) ∧
      (((.ok .policy : Except Stop ExitCode) = .ok .policy ↔
        SomeUnexpected lower ["Let's Encrypt"] ["example.com"] fun _ => [sampleSketchy]) ↔
      (SomeUnexpected lower ["Let's Encrypt"] ["example.com"] (fun _ => [sampleSketchy]) →
        SomeLasting lower ["Let's Encrypt"] ["example.com"] fun _ => [sampleSketchy])) := by
  have ran : runDiscoverOnly lower sampleInventory (fun _ => sampleCrtSh [sampleSketchy]) [] =
      some (.ok .policy) := by rfl
  exact ⟨ran, runDiscoverOnly_policy_iff (by decide) (fun _ _ _ => rfl) ran⟩

/-- The usual certificate, listed after it for the same name, hides it. -/
theorem runDiscoverOnly_policy_counterexample :
    let records := [sampleSketchy, sampleUsual]
    ∃ outcome, runDiscoverOnly lower sampleInventory (fun _ => sampleCrtSh records) [] =
        some outcome ∧
      ¬ (outcome = .ok .policy ↔
        SomeUnexpected lower ["Let's Encrypt"] ["example.com"] fun _ => records) := by
  intro records
  refine ⟨.ok .ok, by rfl, fun exactly => ?_⟩
  have absurd := exactly.mpr ⟨0, "example.com", rfl, sampleSketchy, List.mem_cons_self,
    sampleSketchy_unexpected⟩
  cases absurd

end SameNames

end Certinspect.Cli
