/-
**The policy gate and the certificate, `policy_violations`.**

The gate compares facts that `analyze` has rounded or turned into text: whole days, and the name of the
signature algorithm, in which a hash shows only when the name spells it.

* `Meets`, `policyViolations_eq_nil_iff` — what the gate accepts, said of the analysis.
* `Admitted`, `policyViolations_admitted_iff` — the same, said of the certificate.
* `Satisfies` — the requirements themselves.
* **`policyViolations_exact_iff`** — where the gate is exact.
* `Stricter`, `Meets.weaken` — a stricter policy is stricter.
-/

import Certinspect.Parser.Expiry

namespace Certinspect.Parser

open Library

/-! ### What the gate accepts -/

section Gate

variable {info : Analysis} {tlsVersion : Option String} {policy : Policy}

/-- The analysis passes every check of the policy. -/
structure Meets (info : Analysis) (tlsVersion : Option String) (policy : Policy) : Prop where
  validity : ∀ limit, policy.notAfterMax = some limit → info.validityDays ≤ limit
  keySize : ∀ limit size, policy.minKeySize = some limit → info.keySize = some size →
    info.keyType ∈ sizeCheckedKeyTypes → limit ≤ size
  weak : policy.failWeak = true → info.weak = []
  sct : policy.requireSct = true → info.sctCount ≠ 0
  mustStaple : policy.requireMustStaple = true → info.mustStaple = true
  tls : ∀ required, policy.minTlsVersion = some required →
    ∀ version, given tlsVersion = some version → ∀ rank, tlsVersionRank version = some rank →
      ∀ least, tlsVersionRank required = some least → least ≤ rank

theorem validityViolations_eq_nil_iff {limit : Option Int} :
    validityViolations info limit = [] ↔ ∀ days, limit = some days → info.validityDays ≤ days := by
  unfold validityViolations
  cases limit with
  | none => simp
  | some days => simp

theorem keySizeViolations_eq_nil_iff {limit : Option Int} :
    keySizeViolations info limit = [] ↔ ∀ bits size, limit = some bits → info.keySize = some size →
      info.keyType ∈ sizeCheckedKeyTypes → bits ≤ size := by
  unfold keySizeViolations
  cases limit with
  | none => simp
  | some bits =>
    cases info.keySize with
    | none => simp
    | some size => simp

theorem tlsViolations_eq_nil_iff {required : Option String} :
    tlsViolations tlsVersion required = [] ↔ ∀ minimum, required = some minimum →
      ∀ version, given tlsVersion = some version → ∀ rank, tlsVersionRank version = some rank →
        ∀ least, tlsVersionRank minimum = some least → least ≤ rank := by
  unfold tlsViolations
  cases required with
  | none => simp
  | some minimum =>
    cases given tlsVersion with
    | none => simp
    | some version =>
      cases known : tlsVersionRank version with
      | none => simp [known]
      | some rank =>
        cases wanted : tlsVersionRank minimum with
        | none => simp [known, wanted]
        | some least => simp [known, wanted]

/-- **No violation is reported exactly when the analysis passes every check.** -/
theorem policyViolations_eq_nil_iff :
    policyViolations info tlsVersion policy = [] ↔ Meets info tlsVersion policy := by
  unfold policyViolations
  simp only [List.append_eq_nil_iff, validityViolations_eq_nil_iff, keySizeViolations_eq_nil_iff,
    tlsViolations_eq_nil_iff, ite_eq_right_iff, List.cons_ne_nil, imp_false, not_and,
    Bool.not_eq_false]
  refine ⟨?_, ?_⟩
  · intro all
    obtain ⟨⟨⟨⟨⟨validity, keySize⟩, weak⟩, sct⟩, staple⟩, tls⟩ := all
    exact ⟨validity, keySize, weak, sct, staple, tls⟩
  · exact fun meets => ⟨⟨⟨⟨⟨meets.validity, meets.keySize⟩, meets.weak⟩, meets.sct⟩,
      meets.mustStaple⟩, meets.tls⟩

/-! ### Stricter policies -/

/-- The first minimum is at least the second: the same, or both are known and rank so. -/
def AtLeastVersion (first second : String) : Prop :=
  first = second ∨ ∃ rank least, tlsVersionRank first = some rank ∧
    tlsVersionRank second = some least ∧ least ≤ rank

/-- **The first policy is at least as strict as the second.** -/
structure Stricter (first second : Policy) : Prop where
  validity : ∀ limit, second.notAfterMax = some limit →
    ∃ cap, first.notAfterMax = some cap ∧ cap ≤ limit
  keySize : ∀ bits, second.minKeySize = some bits →
    ∃ more, first.minKeySize = some more ∧ bits ≤ more
  weak : second.failWeak = true → first.failWeak = true
  sct : second.requireSct = true → first.requireSct = true
  mustStaple : second.requireMustStaple = true → first.requireMustStaple = true
  tls : ∀ required, second.minTlsVersion = some required →
    ∃ version, first.minTlsVersion = some version ∧ AtLeastVersion version required

/-- **What passes a policy passes a weaker one.** -/
theorem Meets.weaken {weaker : Policy} (stricter : Stricter policy weaker)
    (meets : Meets info tlsVersion policy) : Meets info tlsVersion weaker where
  validity limit asked := by
    obtain ⟨cap, enforced, tighter⟩ := stricter.validity limit asked
    exact Int.le_trans (meets.validity cap enforced) tighter
  keySize bits size asked has checked := by
    obtain ⟨more, enforced, larger⟩ := stricter.keySize bits asked
    exact Int.le_trans larger (meets.keySize more size enforced has checked)
  weak asked := meets.weak (stricter.weak asked)
  sct asked := meets.sct (stricter.sct asked)
  mustStaple asked := meets.mustStaple (stricter.mustStaple asked)
  tls required asked version reported rank known least wanted := by
    obtain ⟨minimum, enforced, newer⟩ := stricter.tls required asked
    rcases newer with rfl | ⟨high, low, first, second, order⟩
    · exact meets.tls minimum enforced version reported rank known least wanted
    · obtain rfl := Option.some.inj (second.symm.trans wanted)
      exact Nat.le_trans order (meets.tls minimum enforced version reported rank known high first)

end Gate

/-! ### The signature's hash -/

section Hash

variable {oid : String}

/-- The algorithm identifiers in whose names the gate finds a broken hash, with that hash. -/
def namedHashes : List (String × String) :=
  [("1.2.840.113549.1.1.4", "md5"), ("1.2.840.113549.1.1.5", "sha1"), ("1.2.840.10045.4.1", "sha1"),
    ("1.2.840.10040.4.3", "sha1")]

/-- The identifier is one of those. -/
def NamesBroken (oid : String) : Prop := oid ∈ namedHashes.map Prod.fst

instance : DecidablePred NamesBroken := fun oid => inferInstanceAs (Decidable (oid ∈ _))

/-- The text of an object identifier: numbers with dots. -/
def IsDotted (oid : String) : Prop := ∀ c ∈ oid.toList, c = '.' ∨ c.isDigit = true

instance : DecidablePred IsDotted := fun oid => List.decidableBAll _ oid.toList

/-- The name of the algorithm spells a broken hash. -/
def spellsBroken (name : String) : Bool :=
  occursIn "sha1" (lower name) || occursIn "md5" (lower name)

/-- An identifier spells no letter. -/
theorem spellsBroken_dotted (dotted : IsDotted oid) : spellsBroken oid = false := by
  have letters (part : String) (c : Char) (inside : c ∈ part.toList) (letter : ¬ c < 'A') :
      occursIn part (lower oid) = false := by
    refine Bool.eq_false_iff.mpr fun occurs => ?_
    have found := (occursIn_iff.mp occurs).subset inside
    rw [toList_lower] at found
    obtain ⟨d, member, same⟩ := List.mem_map.mp found
    have before : d < 'A' := by
      rcases dotted d member with dot | digit
      · rw [dot]
        decide
      · exact Nat.lt_of_le_of_lt (Char.isDigit_iff_toNat.mp digit).2 (by decide)
    rw [lowerChar_of_lt before] at same
    exact letter (same ▸ before)
  unfold spellsBroken
  rw [letters "sha1" 's' (by decide) (by decide), letters "md5" 'm' (by decide) (by decide)]
  rfl

/-- **The names tell exactly four identifiers.** -/
theorem spellsBroken_iff (dotted : IsDotted oid) :
    spellsBroken (oidName oid signatureAlgorithmNames) = true ↔ NamesBroken oid := by
  have each : ∀ entry ∈ signatureAlgorithmNames,
      spellsBroken entry.2 = true ↔ NamesBroken entry.1 := by
    decide +kernel
  have known : ∀ name ∈ namedHashes.map Prod.fst, (signatureAlgorithmNames.lookup name).isSome := by
    decide +kernel
  unfold oidName
  cases found : signatureAlgorithmNames.lookup oid with
  | some name =>
    obtain ⟨before, after, split, _⟩ := List.lookup_eq_some_iff.mp found
    refine each (oid, name) ?_
    rw [split]
    exact List.mem_append_right _ List.mem_cons_self
  | none =>
    have absent : ¬ NamesBroken oid := by
      intro named
      have listed := known oid named
      rw [found] at listed
      cases listed
    exact iff_of_false (Bool.eq_false_iff.mp (spellsBroken_dotted dotted)) absent

end Hash

/-! ### The requirements -/

section Requirements

variable {signatureHash : Certificate → Option String} {now : Instant} {cert : Certificate}
  {info : Analysis} {key : PublicKey} {tlsVersion : Option String} {policy : Policy}

/-- The key has at least so many bits. -/
def HasBits (key : PublicKey) (bits : Int) : Prop := ∃ size, key.keySize = some size ∧ bits ≤ size

/-- The key is large enough for its family. -/
def StrongKey (key : PublicKey) : Prop :=
  (key.family = .rsa ∨ key.family = .dsa → HasBits key 2048) ∧ (key.family = .ec → HasBits key 256)

/-- The hash is SHA-1 or MD5. -/
def BrokenHash (hash : Option String) : Prop := hash = some "sha1" ∨ hash = some "md5"

/-- The total validity. -/
def lifetime (cert : Certificate) : Int := cert.notValidAfter - cert.notValidBefore

/-- What a policy requires of a certificate with this key, under a rule for its validity and one for
its signature. -/
structure Requires (fits : Int → Prop) (signed : Prop) (cert : Certificate) (key : PublicKey)
    (policy : Policy) : Prop where
  validity : ∀ limit, policy.notAfterMax = some limit → fits limit
  keySize : ∀ limit, policy.minKeySize = some limit → key.family = .rsa ∨ key.family = .dsa →
    HasBits key limit
  strongKey : policy.failWeak = true → StrongKey key
  signature : policy.failWeak = true → signed
  sct : policy.requireSct = true → ∃ count, 0 < count ∧ findExtension
    ExtensionValue.precertificateSignedCertificateTimestamps? cert.extensions = .ok (some count)
  mustStaple : policy.requireMustStaple = true →
    findExtension ExtensionValue.tlsFeature? cert.extensions = .ok (some true)

/-- **The certificate satisfies the policy.** -/
def Satisfies (signatureHash : Certificate → Option String) : Certificate → PublicKey → Policy → Prop :=
  fun cert => Requires (fun limit => lifetime cert ≤ limit * Instant.day)
    (¬ BrokenHash (signatureHash cert)) cert

/-- The gate lets the certificate pass: it counts whole days, and sees the hashes that names spell. -/
def Admitted : Certificate → PublicKey → Policy → Prop :=
  fun cert => Requires (fun limit => lifetime cert < (limit + 1) * Instant.day)
    (¬ NamesBroken cert.signatureAlgorithmOid) cert

/-- Keys as the package reads them: those of the three families with a size have one, and the other
classes are not called after two of them. -/
structure KeyDocumented (key : PublicKey) : Prop where
  sized : key.family = .rsa ∨ key.family = .dsa ∨ key.family = .ec → ∃ size, key.keySize = some size
  named : ∀ className, key.family = .other className → className ∉ sizeCheckedKeyTypes

/-- What the standards say of the four identifiers. -/
def HashDocumented (signatureHash : Certificate → Option String) : Prop :=
  ∀ cert, ∀ entry ∈ namedHashes, cert.signatureAlgorithmOid = entry.1 →
    signatureHash cert = some entry.2

theorem hasBits_iff {bits : Int} {size : Nat} (given : key.keySize = some size) :
    HasBits key bits ↔ bits ≤ size := by
  unfold HasBits
  rw [given]
  exact ⟨fun ⟨found, same, enough⟩ => Option.some.inj same ▸ enough, fun enough => ⟨size, rfl, enough⟩⟩

/-- A size is warned of exactly below its limit. -/
theorem warning_eq_none_iff {size limit : Nat} {warning : String} :
    (if size < limit then some warning else none) = none ↔ (limit : Int) ≤ size := by
  by_cases small : size < limit
  · rw [if_pos small]
    exact iff_of_false (fun absurd => by cases absurd) (by omega)
  · rw [if_neg small]
    exact iff_of_true rfl (by omega)

theorem weakKey_eq_none_iff (documented : KeyDocumented key) : weakKey key = none ↔ StrongKey key := by
  have sized := documented.sized
  unfold weakKey StrongKey
  cases family : key.family with
  | rsa =>
    obtain ⟨size, given⟩ := sized (Or.inl family)
    rw [hasBits_iff given, hasBits_iff given, given]
    exact warning_eq_none_iff.trans (by simp)
  | dsa =>
    obtain ⟨size, given⟩ := sized (Or.inr (Or.inl family))
    rw [hasBits_iff given, hasBits_iff given, given]
    exact warning_eq_none_iff.trans (by simp)
  | ec =>
    obtain ⟨size, given⟩ := sized (Or.inr (Or.inr family))
    rw [hasBits_iff given, hasBits_iff given, given]
    exact warning_eq_none_iff.trans (by simp)
  | ed25519 => simp
  | ed448 => simp
  | other className => simp

theorem sizeChecked_iff (documented : KeyDocumented key) :
    keyType key ∈ sizeCheckedKeyTypes ↔ key.family = .rsa ∨ key.family = .dsa := by
  unfold keyType
  cases family : key.family with
  | other className => simp [documented.named className family]
  | _ => decide

theorem weaknesses_eq_nil_iff (documented : KeyDocumented key)
    (dotted : IsDotted cert.signatureAlgorithmOid) :
    weaknesses key (oidName cert.signatureAlgorithmOid signatureAlgorithmNames) = [] ↔
      StrongKey key ∧ ¬ NamesBroken cert.signatureAlgorithmOid := by
  unfold weaknesses
  rw [List.append_eq_nil_iff, Option.toList_eq_nil_iff, weakKey_eq_none_iff documented,
    ← spellsBroken_iff dotted]
  refine and_congr_right fun _ => ?_
  show (if spellsBroken _ = true then _ else _) = [] ↔ _
  simp

theorem sctCount_iff {count : Nat} (read : sctCount cert = .ok count) :
    count ≠ 0 ↔ ∃ embedded, 0 < embedded ∧ findExtension
      ExtensionValue.precertificateSignedCertificateTimestamps? cert.extensions =
        .ok (some embedded) := by
  unfold sctCount at read
  obtain ⟨found, extension, value⟩ := bind_ok_iff.mp read
  rw [extension]
  cases found with
  | none =>
    cases value
    simp
  | some embedded =>
    cases value
    simp [Nat.pos_iff_ne_zero]

theorem mustStaple_iff {staple : Bool} (read : mustStaple cert = .ok staple) :
    staple = true ↔ findExtension ExtensionValue.tlsFeature? cert.extensions = .ok (some true) := by
  unfold mustStaple at read
  obtain ⟨found, extension, value⟩ := bind_ok_iff.mp read
  rw [extension]
  cases found with
  | none =>
    cases value
    simp
  | some status =>
    cases value
    simp

/-- **What the gate admits.** -/
theorem policyViolations_admitted_iff (analyzed : AnalyzedWith key now cert info)
    (documented : KeyDocumented key) (dotted : IsDotted cert.signatureAlgorithmOid)
    (noTls : policy.minTlsVersion = none) :
    policyViolations info tlsVersion policy = [] ↔ Admitted cert key policy := by
  have fits (limit : Int) :
      info.validityDays ≤ limit ↔ lifetime cert < (limit + 1) * Instant.day := by
    rw [analyzed.validityDays, ← Int.lt_add_one_iff, daysBetween_lt_iff]
    rfl
  have sized (limit : Int) :
      (∀ size, info.keySize = some size → info.keyType ∈ sizeCheckedKeyTypes → limit ≤ size) ↔
        (key.family = .rsa ∨ key.family = .dsa → HasBits key limit) := by
    rw [analyzed.keySize, analyzed.keyType, sizeChecked_iff documented]
    refine ⟨?_, ?_⟩
    · intro large family
      obtain ⟨size, given⟩ := documented.sized (by tauto)
      exact ⟨size, given, large size given family⟩
    · intro large size given family
      obtain ⟨found, same, enough⟩ := large family
      rw [Option.some.inj (given.symm.trans same)]
      exact enough
  have weak : info.weak = [] ↔ StrongKey key ∧ ¬ NamesBroken cert.signatureAlgorithmOid := by
    rw [analyzed.weak, weaknesses_eq_nil_iff documented dotted]
  rw [policyViolations_eq_nil_iff]
  refine ⟨?_, ?_⟩
  · intro meets
    exact ⟨fun limit given => (fits limit).mp (meets.validity limit given),
      fun limit given => (sized limit).mp fun size => (meets.keySize limit size given ·),
      fun enabled => (weak.mp (meets.weak enabled)).1,
      fun enabled => (weak.mp (meets.weak enabled)).2,
      fun enabled => (sctCount_iff analyzed.sctCount).mp (meets.sct enabled),
      fun enabled => (mustStaple_iff analyzed.mustStaple).mp (meets.mustStaple enabled)⟩
  · intro admitted
    refine ⟨fun limit given => (fits limit).mpr (admitted.validity limit given),
      fun limit size given => (sized limit).mpr (admitted.keySize limit given) size,
      fun enabled => weak.mpr ⟨admitted.strongKey enabled, admitted.signature enabled⟩,
      fun enabled => (sctCount_iff analyzed.sctCount).mpr (admitted.sct enabled),
      fun enabled => (mustStaple_iff analyzed.mustStaple).mpr (admitted.mustStaple enabled), ?_⟩
    intro required given
    rw [noTls] at given
    cases given

/-! ### Where the gate is exact -/

/-- A broken hash that no name spells. -/
def HiddenHash (signatureHash : Certificate → Option String) (cert : Certificate) : Prop :=
  BrokenHash (signatureHash cert) ∧ ¬ NamesBroken cert.signatureAlgorithmOid

/-- The validity exceeds the limit by less than a day. -/
def ExceedsWithinDay (limit : Int) (cert : Certificate) : Prop :=
  limit * Instant.day < lifetime cert ∧ lifetime cert < (limit + 1) * Instant.day

/-- **The requirements are what the gate admits, without the two gaps.** -/
theorem satisfies_iff (documented : HashDocumented signatureHash) :
    Satisfies signatureHash cert key policy ↔ Admitted cert key policy ∧
      (∀ limit, policy.notAfterMax = some limit → ¬ ExceedsWithinDay limit cert) ∧
      (policy.failWeak = true → ¬ HiddenHash signatureHash cert) := by
  have spelled : NamesBroken cert.signatureAlgorithmOid → BrokenHash (signatureHash cert) := by
    intro named
    obtain ⟨entry, member, same⟩ := List.mem_map.mp named
    have hash := documented cert entry member same.symm
    have broken : ∀ entry ∈ namedHashes, entry.2 = "sha1" ∨ entry.2 = "md5" := by decide
    unfold BrokenHash
    rw [hash, Option.some_inj, Option.some_inj]
    exact broken entry member
  have rounds (limit : Int) : limit * Instant.day < (limit + 1) * Instant.day := by
    rw [Int.add_mul, Int.one_mul]
    exact Int.lt_add_of_pos_right _ (by decide)
  unfold ExceedsWithinDay HiddenHash
  refine ⟨?_, ?_⟩
  · intro all
    refine ⟨{ all with validity := ?_, signature := ?_ }, ?_, ?_⟩
    · exact fun limit given => Int.lt_of_le_of_lt (all.validity limit given) (rounds limit)
    · exact fun enabled named => all.signature enabled (spelled named)
    · exact fun limit given exceeds => Int.not_lt.mpr (all.validity limit given) exceeds.1
    · exact fun enabled hidden => all.signature enabled hidden.1
  · intro both
    obtain ⟨admitted, fraction, hidden⟩ := both
    refine { admitted with validity := ?_, signature := ?_ }
    · intro limit given
      refine Int.not_lt.mp fun exceeds => ?_
      exact fraction limit given ⟨exceeds, admitted.validity limit given⟩
    · exact fun enabled broken => hidden enabled ⟨broken, admitted.signature enabled⟩

/-- **The gate is exact if and only if neither gap decides.** -/
theorem policyViolations_exact_iff (signatureHash : Certificate → Option String)
    (standard : HashDocumented signatureHash) (now : Instant) (cert : Certificate)
    (info : Analysis) (key : PublicKey) (analyzed : analyze now cert = .ok info)
    (read : cert.publicKey = .ok key) (documented : KeyDocumented key)
    (dotted : IsDotted cert.signatureAlgorithmOid) (tlsVersion : Option String) (policy : Policy)
    (noTls : policy.minTlsVersion = none) :
    (policyViolations info tlsVersion policy = [] ↔ Satisfies signatureHash cert key policy) ↔
      (Admitted cert key policy →
        (∀ limit, policy.notAfterMax = some limit → ¬ ExceedsWithinDay limit cert) ∧
        (policy.failWeak = true → ¬ HiddenHash signatureHash cert)) := by
  obtain ⟨found, fields⟩ := analyze_ok analyzed
  obtain rfl := Except.ok.inj (fields.publicKey.symm.trans read)
  rw [policyViolations_admitted_iff fields documented dotted noTls, satisfies_iff standard]
  tauto

/-- The hashes of the four identifiers, and SHA-1 for RSASSA-PSS. -/
def sampleHash (cert : Certificate) : Option String :=
  if cert.signatureAlgorithmOid = "1.2.840.113549.1.1.10" then some "sha1"
  else namedHashes.lookup cert.signatureAlgorithmOid

theorem sampleHash_documented : HashDocumented sampleHash := by
  have each : ∀ entry ∈ namedHashes, entry.1 ≠ "1.2.840.113549.1.1.10" ∧
      namedHashes.lookup entry.1 = some entry.2 := by
    decide +kernel
  intro cert entry member same
  unfold sampleHash
  rw [same, if_neg (each entry member).1, (each entry member).2]

/-- A certificate that is valid for 398 days and an hour. -/
def longLived : Certificate :=
  { sampleCertificate [] with notValidAfter := 398 * Instant.day + Instant.minutes 60 }

/-- A certificate with an RSASSA-PSS signature. -/
def signedPss : Certificate :=
  { sampleCertificate [] with signatureAlgorithmOid := "1.2.840.113549.1.1.10" }

/-- The key of the sample certificates. -/
def sampleEcKey : PublicKey := ⟨.ec, some 256, []⟩

theorem sampleEcKey_documented : KeyDocumented sampleEcKey :=
  ⟨fun _ => ⟨256, rfl⟩, fun _ absurd => by cases absurd⟩

theorem policyViolations_exact_iff_longLived :
    (policyViolations (sampleInfo longLived) none { notAfterMax := some 398 } = [] ↔
      Satisfies sampleHash longLived sampleEcKey { notAfterMax := some 398 }) ↔
      (Admitted longLived sampleEcKey { notAfterMax := some 398 } →
        (∀ limit, some 398 = some limit → ¬ ExceedsWithinDay limit longLived) ∧
        (false = true → ¬ HiddenHash sampleHash longLived)) :=
  policyViolations_exact_iff sampleHash sampleHash_documented 0 longLived (sampleInfo longLived)
    sampleEcKey (analyze_sample rfl rfl) rfl sampleEcKey_documented (by decide +kernel) none
    { notAfterMax := some 398 } rfl

/-- The gate passes a validity of 398 days and an hour under a limit of 398 days, and SHA-1 under
RSASSA-PSS. -/
theorem not_policyViolations_exact :
    (policyViolations (sampleInfo longLived) none { notAfterMax := some 398 } = [] ∧
      ¬ Satisfies sampleHash longLived sampleEcKey { notAfterMax := some 398 }) ∧
    (policyViolations (sampleInfo signedPss) none { failWeak := true } = [] ∧
      ¬ Satisfies sampleHash signedPss sampleEcKey { failWeak := true }) := by
  refine ⟨⟨by decide +kernel, ?_⟩, by decide +kernel, ?_⟩
  · intro satisfies
    have fits := satisfies.validity 398 rfl
    revert fits
    decide
  · exact fun satisfies => satisfies.signature rfl (Or.inl (by decide +kernel))

end Requirements

end Certinspect.Parser
