/-
**Which addresses a certificate covers: `hostname_matches` on an IP literal.**

`analyze` lists the iPAddress entries as text beside the dNSName entries, and the rules for host
names decide on all of them. So an address is found by its spelling, and a dNSName entry that looks
like an address counts as one.

* `NamedBy` — some dNSName entry accepts the name.
* `hostnameMatches_address` — what the code accepts for a literal: a dNSName entry that accepts it,
  or its address in the spelling that `analyze` lists.
* **`hostnameMatches_address_iff`** — where the code decides by the value of the address.
-/

import Certinspect.IpText
import Certinspect.Parser.Names

namespace Certinspect.Parser

open Library

/-! ### The entries of a certificate -/

section Entries

variable {now : Instant} {cert : Certificate} {info : Analysis}

/-- The general names of the SAN extension; none when there is no extension. -/
def subjectAltNames (cert : Certificate) : List GeneralName :=
  match findExtension ExtensionValue.subjectAlternativeName? cert.extensions with
  | .ok (some names) => names
  | _ => []

/-- The names of an analysis are the texts of the entries. -/
theorem AnalyzedWith.san_eq {key : PublicKey} (analyzed : AnalyzedWith key now cert info) :
    info.san = dnsNames (subjectAltNames cert) ++
      (ipAddresses (subjectAltNames cert)).map IpAddress.str := by
  have read := analyzed.san
  unfold sanNames at read
  obtain ⟨found, extension, names⟩ := bind_ok_iff.mp read
  unfold subjectAltNames
  rw [extension]
  cases found <;> exact (Except.ok.inj names).symm

end Entries

/-! ### Literals -/

section Literals

variable {name : String} {names : List GeneralName} {ip address : IpAddress}

/-- Some dNSName entry accepts the name, as it accepts host names. -/
def NamedBy (names : List GeneralName) (name : String) : Prop :=
  Covered (dnsNames names) name ∨ ("*." ∈ dnsNames names ∧ ¬ Dotted name)

instance (names : List GeneralName) (name : String) : Decidable (NamedBy names name) :=
  inferInstanceAs (Decidable (_ ∨ _))

/-- The name is the text of the address, up to case. -/
def Spells (name : String) (ip : IpAddress) : Prop := lower name = lower ip.str

instance (name : String) (ip : IpAddress) : Decidable (Spells name ip) :=
  inferInstanceAs (Decidable (_ = _))

/-- A name spells at most the address it denotes. -/
theorem Spells.denotes (spells : Spells name ip) : IpAddress.parse name = some ip := by
  rw [← IpAddress.parse_lower, spells, IpAddress.parse_lower, IpAddress.parse_str]

/-- A literal is no wildcard. -/
theorem not_wildcard (literal : IpAddress.parse name = some ip) : startsWith name "*." = false := by
  refine Bool.eq_false_iff.mpr fun wild => ?_
  obtain ⟨rest, rfl⟩ := startsWith_wildcard.mp wild
  have star : '*' ∈ ("*." ++ rest).toList := by
    rw [String.toList_append]
    exact List.mem_append_left _ (by decide)
  have plain := IpAddress.isLiteral_of_parse literal '*' star
  revert plain
  decide

/-- As an entry, an address accepts what spells it. -/
theorem nameMatches_str : nameMatches ip.str name = true ↔ Spells name ip := by
  have literal := not_wildcard (IpAddress.parse_str ip)
  unfold nameMatches Spells
  simp only [startsWith_lower, literal, if_false, Bool.false_eq_true, beq_iff_eq]
  exact eq_comm

end Literals

/-! ### Matching by value -/

section Matching

variable {now : Instant} {cert : Certificate} {info : Analysis} {name : String} {address : IpAddress}

/-- **What the code accepts for a literal**: what a dNSName entry accepts, and the address of an
iPAddress entry in the spelling of `str`. -/
theorem hostnameMatches_address (analyzed : analyze now cert = .ok info)
    (literal : IpAddress.parse name = some address) :
    hostnameMatches info name = true ↔ NamedBy (subjectAltNames cert) name ∨
      (address ∈ ipAddresses (subjectAltNames cert) ∧ Spells name address) := by
  obtain ⟨key, fields⟩ := analyze_ok analyzed
  unfold hostnameMatches
  rw [fields.san_eq, List.any_append, Bool.or_eq_true, List.any_eq_true, any_nameMatches_iff,
    List.any_map, List.any_eq_true]
  refine or_congr_right ⟨?_, ?_⟩
  · intro found
    obtain ⟨ip, member, spells⟩ := found
    rw [Function.comp_apply, nameMatches_str] at spells
    -- a name spells no other address than its own
    obtain rfl := Option.some.inj (spells.denotes.symm.trans literal)
    exact ⟨member, spells⟩
  · intro both
    refine ⟨address, both.1, ?_⟩
    rw [Function.comp_apply, nameMatches_str]
    exact both.2

/-- **Matching decides by the value of an address exactly when its spelling does.** -/
theorem hostnameMatches_address_iff (now : Instant) (cert : Certificate) (info : Analysis)
    (name : String) (address : IpAddress) (analyzed : analyze now cert = .ok info)
    (literal : IpAddress.parse name = some address) :
    (hostnameMatches info name = true ↔ address ∈ ipAddresses (subjectAltNames cert)) ↔
      if address ∈ ipAddresses (subjectAltNames cert) then
        Spells name address ∨ NamedBy (subjectAltNames cert) name
      else ¬ NamedBy (subjectAltNames cert) name := by
  rw [hostnameMatches_address analyzed literal]
  by_cases member : address ∈ ipAddresses (subjectAltNames cert)
  · rw [if_pos member]
    simp only [member, true_and, iff_true]
    exact or_comm
  · rw [if_neg member]
    simp only [member, false_and, or_false, iff_false]

/-- A certificate with these SAN entries. -/
def sampleCertificate (names : List GeneralName) : Certificate where
  der := []
  subject := ⟨[("2.5.4.3", .text "sample")], "CN=sample"⟩
  issuer := ⟨[("2.5.4.3", .text "sample ca")], "CN=sample ca"⟩
  serialNumber := 1
  notValidBefore := 0
  notValidAfter := 90 * Instant.day
  signatureAlgorithmOid := "1.2.840.10045.4.3.2"
  fingerprintSha256 := []
  publicKey := .ok ⟨.ec, some 256, []⟩
  extensions := .ok [⟨"2.5.29.17", false, .subjectAlternativeName names⟩]

/-- The analysis of a certificate that can be read. -/
def sampleInfo (cert : Certificate) : Analysis :=
  (analyze 0 cert).toOption.getD sampleAnalysis

theorem analyze_sample {cert : Certificate} {extensions : List Extension} {key : PublicKey}
    (readable : cert.extensions = .ok extensions) (keyed : cert.publicKey = .ok key) :
    analyze 0 cert = .ok (sampleInfo cert) := by
  cases analyzed : analyze 0 cert with
  | error raised =>
    rcases analyze_error_iff.mp analyzed with absurd | ⟨_, absurd⟩
    · rw [readable] at absurd
      cases absurd
    · rw [keyed] at absurd
      cases absurd
  | ok info =>
    unfold sampleInfo
    rw [analyzed]
    rfl

/-- A certificate with a host name and the address `10.0.0.5`. -/
def addressed : Certificate :=
  sampleCertificate [.dnsName "example.com", .ipAddress (.v4 0x0a000005#32)]

theorem hostnameMatches_address_iff_sample :
    (hostnameMatches (sampleInfo addressed) "10.0.0.5" = true ↔
      .v4 0x0a000005#32 ∈ ipAddresses (subjectAltNames addressed)) ↔
    if .v4 0x0a000005#32 ∈ ipAddresses (subjectAltNames addressed) then
      Spells "10.0.0.5" (.v4 0x0a000005#32) ∨ NamedBy (subjectAltNames addressed) "10.0.0.5"
    else ¬ NamedBy (subjectAltNames addressed) "10.0.0.5" :=
  hostnameMatches_address_iff 0 addressed (sampleInfo addressed) "10.0.0.5" (.v4 0x0a000005#32)
    (analyze_sample rfl rfl) (by decide +kernel)

/-- A certificate with a dNSName that covers the text of an address. -/
def addressWildcard : Certificate := sampleCertificate [.dnsName "*.0.0.5"]

/-- The address `2001:db8::1`. -/
def sampleAddress : IpAddress := .v6 0x20010db8000000000000000000000001#128

/-- A certificate with that address. -/
def addressedV6 : Certificate := sampleCertificate [.ipAddress sampleAddress]

/-- The dNSName entry `*.0.0.5` makes `10.0.0.5` match, and an uncompressed spelling of the address
of an iPAddress entry does not match. -/
theorem not_hostnameMatches_address :
    (IpAddress.parse "10.0.0.5" = some (.v4 0x0a000005#32) ∧
      ¬ (hostnameMatches (sampleInfo addressWildcard) "10.0.0.5" = true ↔
        .v4 0x0a000005#32 ∈ ipAddresses (subjectAltNames addressWildcard))) ∧
    (IpAddress.parse "2001:db8:0:0:0:0:0:1" = some sampleAddress ∧
      ¬ (hostnameMatches (sampleInfo addressedV6) "2001:db8:0:0:0:0:0:1" = true ↔
        sampleAddress ∈ ipAddresses (subjectAltNames addressedV6))) := by
  refine ⟨⟨?_, ?_⟩, ?_, ?_⟩ <;> decide +kernel

end Matching

end Certinspect.Parser
