/-
**Every revocation verdict is backed by authenticated evidence.**

The network is the adversary: it serves what it likes at every URL. Still, a verdict of
`checkRevocation` other than UNAVAILABLE comes with an issuer that really signed the certificate and
with evidence anchored on it, `OcspEvidence` or `CrlEvidence`.

The predicates say what the evidence is, in terms of the objects and of the package's functions
(`Issued`, `AuthorizedSigner`, `ProvesByOcsp`, `AuthenticCrl`, `ProvesByCrl`); the lemmas
`signedBy_true_iff` … `crlVerdict_proves` read each from the function that checks it, and
`checkOcsp_evidence`, `checkCrl_evidence`, `anchor_issued` carry them through the network code.
-/

import Certinspect.Revocation.Model

namespace Certinspect.Revocation

open Library

/-! ### What counts as evidence -/

section Evidence

variable (lib : Cryptography)

/-- `verify_directly_issued_by(cert, issuer)` succeeds. -/
def Issued (cert issuer : Certificate) : Prop := lib.verifyDirectlyIssuedBy cert issuer = .ok ()

/-- The ResponderID of the response designates the certificate, by name or by key hash. -/
def Designates (response : OcspResponse) (cert : Certificate) : Prop :=
  response.responderName = some cert.subject ∨
    response.responderName = none ∧ ∃ key, cert.publicKey = .ok key ∧
      response.responderKeyHash = some (lib.subjectKeyIdentifier key)

/-- The certificate carries the OCSPSigning extended key usage. -/
def CarriesOcspSigning (cert : Certificate) : Prop :=
  ∃ eku, findExtension ExtensionValue.extendedKeyUsage? cert.extensions = .ok (some eku) ∧
    ocspSigningOid ∈ eku

/-- The issuer, or a delegate embedded in the response that the issuer signed, with the OCSPSigning
usage and inside its validity window; designated by the ResponderID either way. -/
def AuthorizedSigner (now : Instant) (response : OcspResponse) (issuer signer : Certificate) :
    Prop :=
  Designates lib response signer ∧
    (signer = issuer ∨ ∃ embedded, response.certificates = .ok embedded ∧ signer ∈ embedded ∧
      Issued lib signer issuer ∧ CarriesOcspSigning signer ∧
      signer.notValidBefore ≤ now ∧ now ≤ signer.notValidAfter)

/-- The response is about the certificate the request asked about. -/
structure AnswersRequest (single : SingleResponse) (request : OcspRequest) : Prop where
  serialNumber : single.serialNumber = request.serialNumber
  issuerNameHash : single.issuerNameHash = request.issuerNameHash
  issuerKeyHash : single.issuerKeyHash = request.issuerKeyHash

/-- The signature of the response verifies under the key of the certificate. -/
def SignedWithKeyOf (response : OcspResponse) (signer : Certificate) : Prop :=
  ∃ key hash, signer.publicKey = .ok key ∧ response.signatureHashAlgorithm = .ok hash ∧
    verifySignature lib key response.signature response.tbsResponseBytes hash = .ok ()

/-- `now` is within the window, give or take the clock skew, unless its ends cannot be read. -/
def Fresh (now : Instant) (thisUpdate nextUpdate : Except PyErr (Option Instant)) : Prop :=
  ∀ opens closes, thisUpdate = .ok opens → nextUpdate = .ok closes →
    (∀ instant, opens = some instant → instant - ocspClockSkew ≤ now) ∧
      (∀ instant, closes = some instant → now ≤ instant + ocspClockSkew)

/-- The revocation status of an OCSP certificate status. -/
def statusOf : OcspCertStatus → RevocationStatus
  | .good => .good
  | .revoked => .revoked
  | .unknown => .unknown

/-- What an OCSP response must be to prove `status` of the certificate under the issuer. -/
def ProvesByOcsp (now : Instant) (request : OcspRequest) (issuer : Certificate) (raw : Bytes)
    (status : RevocationStatus) : Prop :=
  ∃ response single signer,
    lib.loadDerOcspResponse raw = .ok response ∧ response.responseStatus = .successful ∧
    response.single = .ok single ∧ AnswersRequest single request ∧
    AuthorizedSigner lib now response issuer signer ∧ SignedWithKeyOf lib response signer ∧
    status = statusOf single.certificateStatus ∧
    (status = .good → Fresh now single.thisUpdate single.nextUpdate)

/-- The scope of the CRL does not exclude the certificate, and the CRL has no critical extension
the program does not know. -/
structure Covers (isCa : Bool) (extension : Extension) : Prop where
  scope : ∀ scope, extension.value = .issuingDistributionPoint scope →
    scope.indirectCrl = false ∧ scope.onlyContainsAttributeCerts = false ∧
      (scope.onlyContainsCaCerts = true → isCa = true) ∧
      (scope.onlyContainsUserCerts = true → isCa = false)
  understood : extension.critical = true →
    (∃ scope, extension.value = .issuingDistributionPoint scope) ∨
      extension.value = .deltaCrlIndicator

/-- The CRL is the issuer's, validly signed, and covers the certificate. -/
structure AuthenticCrl (crl : CertificateRevocationList) (cert issuer : Certificate) : Prop where
  sameIssuer : crl.issuer = cert.issuer
  signed : ∃ key, issuer.publicKey = .ok key ∧ isSigningKey key = true ∧
    lib.isSignatureValid crl key = .ok true
  covers : ∃ isCa extensions, Parser.isCaCertificate cert = .ok isCa ∧
    crl.extensions = .ok extensions ∧ ∀ extension ∈ extensions, Covers isCa extension

/-- The CRL is neither a delta CRL nor limited to some reasons: it can prove absence. -/
def Complete (crl : CertificateRevocationList) : Prop :=
  ∃ extensions, crl.extensions = .ok extensions ∧ ∀ extension ∈ extensions,
    extension.value ≠ .deltaCrlIndicator ∧
      ∀ scope, extension.value = .issuingDistributionPoint scope →
        scope.onlySomeReasons.getD [] = []

/-- What a CRL must be to prove `status` of the certificate under the issuer. -/
def ProvesByCrl (now : Instant) (cert issuer : Certificate) (raw : Bytes)
    (status : RevocationStatus) : Prop :=
  ∃ crl, loadCrl lib raw = .ok (some crl) ∧ AuthenticCrl lib crl cert issuer ∧
    (status = .revoked ∧ (∃ entry ∈ crl.entries, entry.serialNumber = cert.serialNumber) ∨
      status = .good ∧ (∀ entry ∈ crl.entries, entry.serialNumber ≠ cert.serialNumber) ∧
        Complete crl ∧ Fresh now crl.lastUpdate crl.nextUpdate)

variable {σ : Type} (web : Web σ)

/-- The network served these bytes at the URL, in some state, to a request with this body. -/
def Served (url : String) (data : Option Bytes) (raw : Bytes) : Prop :=
  ∃ before after, web.serve url data before = .ok raw after

/-- A served OCSP response proves `status`. -/
def OcspEvidence (now : Instant) (cert issuer : Certificate) (status : RevocationStatus) : Prop :=
  ∃ url raw, Served web url (some (lib.ocspRequest cert issuer).der) raw ∧
    ProvesByOcsp lib now (lib.ocspRequest cert issuer) issuer raw status

/-- A CRL served at a distribution point of the certificate proves `status`. -/
def CrlEvidence (now : Instant) (cert issuer : Certificate) (status : RevocationStatus) : Prop :=
  ∃ urls url raw, crlUrls cert = .ok urls ∧ url ∈ urls ∧ Served web url none raw ∧
    ProvesByCrl lib now cert issuer raw status

end Evidence

/-! ### What each check establishes -/

section Checks

variable {lib : Cryptography} {now : Instant}

theorem exceptPure_ok_iff {α : Type} {classes : List ExcClass} {x : Except PyErr α} {value : α} :
    exceptPure classes x = .ok (.ok value) ↔ x = .ok value := by
  cases x with
  | ok first => exact ⟨fun same => (by cases same; rfl), fun same => (by cases same; rfl)⟩
  | error raised =>
    rw [exceptPure_error]
    refine ⟨fun absurd => ?_, fun absurd => by cases absurd⟩
    split at absurd <;> cases absurd

theorem signedBy_true_iff {cert issuer : Certificate} :
    signedBy lib cert issuer = .ok true ↔ Issued lib cert issuer := by
  unfold signedBy Issued
  rw [bind_ok_iff]
  refine ⟨?_, ?_⟩
  · intro found
    obtain ⟨outcome, verified, signed⟩ := found
    cases outcome with
    | error raised => cases signed
    | ok _ => exact exceptPure_ok_iff.mp verified
  · intro issued
    exact ⟨.ok (), exceptPure_ok_iff.mpr issued, rfl⟩

theorem namesResponder_true_iff {response : OcspResponse} {cert : Certificate} :
    namesResponder lib response cert = .ok true ↔ Designates lib response cert := by
  unfold namesResponder Designates
  cases named : response.responderName with
  | some name => simp
  | none =>
    simp only [reduceCtorEq, false_or, true_and]
    rw [bind_ok_iff]
    simp only [pure_ok_iff, beq_iff_eq]

theorem hasOcspSigning_true_iff {cert : Certificate} :
    hasOcspSigning cert = .ok true ↔ CarriesOcspSigning cert := by
  unfold hasOcspSigning CarriesOcspSigning
  rw [bind_ok_iff]
  refine ⟨?_, ?_⟩
  · intro here
    obtain ⟨value, found, carries⟩ := here
    cases value with
    | none => cases carries
    | some eku => exact ⟨eku, found, by simpa [pure_ok_iff] using carries⟩
  · intro here
    obtain ⟨eku, found, member⟩ := here
    exact ⟨some eku, found, by simpa [pure_ok_iff] using member⟩

theorem ite_bind_true_iff {first second : Except PyErr Bool} :
    (do if ← first then second else pure false : Except PyErr Bool) = .ok true ↔
      first = .ok true ∧ second = .ok true := by
  rw [bind_ok_iff]
  refine ⟨?_, ?_⟩
  · intro found
    obtain ⟨passes, ran, rest⟩ := found
    cases passes with
    | true => exact ⟨ran, rest⟩
    | false => cases rest
  · intro found
    obtain ⟨ran, rest⟩ := found
    exact ⟨true, ran, rest⟩

theorem isDelegate_true_iff {response : OcspResponse} {issuer candidate : Certificate} :
    isDelegate lib now response issuer candidate = .ok true ↔
      Designates lib response candidate ∧ Issued lib candidate issuer ∧
        CarriesOcspSigning candidate ∧
        candidate.notValidBefore ≤ now ∧ now ≤ candidate.notValidAfter := by
  unfold isDelegate
  rw [ite_bind_true_iff, ite_bind_true_iff, ite_bind_true_iff, namesResponder_true_iff,
    signedBy_true_iff, hasOcspSigning_true_iff, pure_ok_iff, decide_eq_true_eq]

/-- **The signer is authorized.** -/
theorem ocspSigner_some {response : OcspResponse} {issuer signer : Certificate}
    (found : ocspSigner lib now response issuer = .ok (some signer)) :
    AuthorizedSigner lib now response issuer signer := by
  unfold ocspSigner at found
  rw [bind_ok_iff] at found
  obtain ⟨isIssuer, named, search⟩ := found
  cases isIssuer with
  | true =>
    cases search
    exact ⟨namesResponder_true_iff.mp named, Or.inl rfl⟩
  | false =>
    rw [if_neg Bool.false_ne_true, bind_ok_iff] at search
    obtain ⟨embedded, read, search⟩ := search
    obtain ⟨member, delegate⟩ := findM_some search
    obtain ⟨designated, issued, carries, window⟩ := isDelegate_true_iff.mp delegate
    exact ⟨designated, Or.inr ⟨embedded, read, member, issued, carries, window⟩⟩

theorem checkResponseSignature_ok {response : OcspResponse} {signer : Certificate}
    (passed : checkResponseSignature lib response signer = .ok ()) :
    SignedWithKeyOf lib response signer := by
  unfold checkResponseSignature at passed
  simp only at passed
  split at passed
  · rename_i verified
    rw [bind_ok_iff] at verified
    obtain ⟨key, loaded, verified⟩ := verified
    rw [bind_ok_iff] at verified
    obtain ⟨hash, read, verified⟩ := verified
    exact ⟨key, hash, loaded, read, verified⟩
  · split at passed
    · cases passed
    · split at passed <;> cases passed

/-- A response that passes answers the request and is signed by the certificate that is picked. -/
theorem authenticateOcspResponse_signer {response : OcspResponse} {request : OcspRequest}
    {issuer : Certificate}
    (passed : authenticateOcspResponse lib now response request issuer = .ok ()) :
    ∃ single signer, response.single = .ok single ∧ AnswersRequest single request ∧
      ocspSigner lib now response issuer = .ok (some signer) ∧
      SignedWithKeyOf lib response signer := by
  unfold authenticateOcspResponse at passed
  rw [bind_ok_iff] at passed
  obtain ⟨single, read, passed⟩ := passed
  split at passed
  · cases passed
  rename_i same
  simp only [not_or, not_not] at same
  rw [bind_ok_iff] at passed
  obtain ⟨found, searched, passed⟩ := passed
  cases found with
  | none => cases passed
  | some signer =>
    exact ⟨single, signer, read, ⟨same.1, same.2.1, same.2.2⟩, searched,
      checkResponseSignature_ok passed⟩

/-- **An authenticated response answers the request and is signed by an authorized responder.** -/
theorem authenticateOcspResponse_ok {response : OcspResponse} {request : OcspRequest}
    {issuer : Certificate}
    (passed : authenticateOcspResponse lib now response request issuer = .ok ()) :
    ∃ single signer, response.single = .ok single ∧ AnswersRequest single request ∧
      AuthorizedSigner lib now response issuer signer ∧ SignedWithKeyOf lib response signer := by
  obtain ⟨single, signer, read, answers, searched, signed⟩ := authenticateOcspResponse_signer passed
  exact ⟨single, signer, read, answers, ocspSigner_some searched, signed⟩

/-- What passes one end of the window check. -/
theorem requireBound_ok_iff {bound : Option Instant} {delta : Int} {outside : Instant → Bool}
    {message : Instant → String} :
    requireBound bound delta outside message = .ok () ↔ ∀ instant, bound = some instant →
      Instant.InRange (instant + delta) ∧ outside (instant + delta) = false := by
  unfold requireBound
  cases bound with
  | none => exact ⟨fun _ _ absurd => (by cases absurd), fun _ => rfl⟩
  | some instant =>
    rw [bind_ok_iff]
    refine ⟨?_, ?_⟩
    · rintro ⟨moved, shifted, inside⟩ _ ⟨⟩
      obtain ⟨range, rfl⟩ := Instant.shift_ok_iff.mp shifted
      refine ⟨range, Bool.eq_false_iff.mpr fun left => ?_⟩
      rw [if_pos left] at inside
      cases inside
    · intro within
      obtain ⟨range, inside⟩ := within instant rfl
      exact ⟨_, Instant.shift_ok_iff.mpr ⟨range, rfl⟩, by rw [inside]; rfl⟩

/-- A window has begun. -/
theorem requireBound_opens_iff {opens : Option Instant} {message : Instant → String} :
    requireBound opens (-ocspClockSkew) (fun moved => decide (moved > now)) message = .ok () ↔
      ∀ instant, opens = some instant →
        Instant.InRange (instant - ocspClockSkew) ∧ instant - ocspClockSkew ≤ now := by
  simp only [requireBound_ok_iff, decide_eq_false_iff_not, gt_iff_lt, not_lt, Int.sub_eq_add_neg]

/-- A window has not ended. -/
theorem requireBound_closes_iff {closes : Option Instant} {message : Instant → String} :
    requireBound closes ocspClockSkew (fun moved => decide (moved < now)) message = .ok () ↔
      ∀ instant, closes = some instant →
        Instant.InRange (instant + ocspClockSkew) ∧ now ≤ instant + ocspClockSkew := by
  simp only [requireBound_ok_iff, decide_eq_false_iff_not, not_lt]

/-- **What passes the window check is fresh**, unless its times are unreadable. -/
theorem requireFresh_ok {notYetValid stale : Instant → String}
    {thisUpdate nextUpdate : Except PyErr (Option Instant)}
    (passed : requireFresh notYetValid stale now thisUpdate nextUpdate = .ok ()) :
    Fresh now thisUpdate nextUpdate := by
  rintro opens closes rfl rfl
  have passed : (do
      requireBound opens (-ocspClockSkew) (fun moved => decide (moved > now)) notYetValid
      requireBound closes ocspClockSkew (fun moved => decide (moved < now)) stale) = .ok () := passed
  obtain ⟨_, begun, passed⟩ := bind_ok_iff.mp passed
  exact ⟨fun instant known => (requireBound_opens_iff.mp begun instant known).2,
    fun instant known => (requireBound_closes_iff.mp passed instant known).2⟩

/-- The only verdict returned before the response is authenticated is UNAVAILABLE. -/
theorem ocspAnswer_early {request : OcspRequest} {issuer : Certificate} {raw : Bytes}
    {verdict : Verdict} (answered : ocspAnswer lib now request issuer raw = .ok (.inl verdict)) :
    verdict.1 = .unavailable := by
  unfold ocspAnswer at answered
  rw [bind_ok_iff] at answered
  obtain ⟨response, _, answered⟩ := answered
  split at answered
  · cases answered
    rfl
  rw [bind_ok_iff] at answered
  obtain ⟨_, _, answered⟩ := answered
  rw [bind_ok_iff] at answered
  obtain ⟨single, _, answered⟩ := answered
  split at answered
  · rw [bind_ok_iff] at answered
    obtain ⟨_, _, absurd⟩ := answered
    cases absurd
  · cases answered

theorem ocspAnswer_proves {request : OcspRequest} {issuer : Certificate} {raw : Bytes}
    {single : SingleResponse} (answered : ocspAnswer lib now request issuer raw = .ok (.inr single)) :
    ProvesByOcsp lib now request issuer raw (statusOf single.certificateStatus) := by
  unfold ocspAnswer at answered
  rw [bind_ok_iff] at answered
  obtain ⟨response, loaded, answered⟩ := answered
  split at answered
  · cases answered
  rename_i successful
  rw [bind_ok_iff] at answered
  obtain ⟨_, authentic, answered⟩ := answered
  obtain ⟨answer, signer, read, same, authorized, signed⟩ := authenticateOcspResponse_ok authentic
  rw [bind_ok_iff] at answered
  obtain ⟨again, readAgain, answered⟩ := answered
  have unique : again = answer := by rw [read] at readAgain; cases readAgain; rfl
  subst unique
  have fresh : again = single ∧ (again.certificateStatus = .good →
      Fresh now again.thisUpdate again.nextUpdate) := by
    split at answered
    · rw [bind_ok_iff] at answered
      obtain ⟨_, passed, answered⟩ := answered
      cases answered
      exact ⟨rfl, fun _ => requireFresh_ok passed⟩
    · rename_i notGood
      cases answered
      exact ⟨rfl, fun absurd => (notGood absurd).elim⟩
  obtain ⟨rfl, fresh⟩ := fresh
  refine ⟨response, again, signer, loaded, not_not.mp successful, read, same, authorized, signed,
    rfl, fun good => fresh ?_⟩
  cases status : again.certificateStatus with
  | good => rfl
  | revoked => rw [status] at good; cases good
  | unknown => rw [status] at good; cases good

@[simp] theorem answerVerdict_status (single : SingleResponse) :
    (answerVerdict single).1 = statusOf single.certificateStatus := by
  unfold answerVerdict
  cases single.certificateStatus <;> rfl

/-- **A decided OCSP verdict is the status of an authenticated response.** -/
theorem ocspVerdict_proves {request : OcspRequest} {issuer : Certificate} {raw : Bytes}
    {verdict : Verdict} (answered : ocspVerdict lib now request issuer raw = .ok verdict)
    (decided : verdict.1 ≠ .unavailable) :
    ProvesByOcsp lib now request issuer raw verdict.1 := by
  unfold ocspVerdict at answered
  split at answered
  · rename_i early
    cases answered
    exact (decided (ocspAnswer_early early)).elim
  · rename_i single answer
    cases answered
    rw [answerVerdict_status]
    exact ocspAnswer_proves answer
  · split at answered
    · cases answered
      exact (decided rfl).elim
    · split at answered
      · cases answered
        exact (decided rfl).elim
      · cases answered

theorem checkCrlExtension_ok_iff {isCa : Bool} {extension : Extension} :
    checkCrlExtension isCa extension = .ok () ↔ Covers isCa extension := by
  obtain ⟨oid, critical, value⟩ := extension
  cases value with
  | issuingDistributionPoint scope =>
    have reads : checkCrlExtension isCa ⟨oid, critical, .issuingDistributionPoint scope⟩ = .ok () ↔
        excludedByScope isCa scope = false := by
      change (if excludedByScope isCa scope = true then unusable _ else Except.ok ()) = .ok () ↔ _
      by_cases excluded : excludedByScope isCa scope = true
      · rw [if_pos excluded, excluded]
        exact ⟨fun absurd => (by cases absurd), fun absurd => (by cases absurd)⟩
      · rw [if_neg excluded]
        exact ⟨fun _ => Bool.eq_false_iff.mpr excluded, fun _ => rfl⟩
    rw [reads]
    refine ⟨?_, ?_⟩
    · intro covers
      refine ⟨fun other same => ?_, fun _ => Or.inl ⟨scope, rfl⟩⟩
      cases same
      simpa [excludedByScope, and_assoc] using covers
    · intro covers
      simpa [excludedByScope, and_assoc] using covers.scope scope rfl
  | deltaCrlIndicator =>
    exact ⟨fun _ => ⟨fun _ same => (by cases same), fun _ => Or.inr rfl⟩, fun _ => rfl⟩
  | _ =>
    unfold checkCrlExtension
    cases critical with
    | true =>
      refine ⟨fun absurd => (by cases absurd), fun covers => ?_⟩
      rcases covers.understood rfl with ⟨_, absurd⟩ | absurd <;> cases absurd
    | false =>
      exact ⟨fun _ => ⟨fun _ same => (by cases same), fun absurd => (by cases absurd)⟩, fun _ => rfl⟩

theorem authenticateCrl_ok_iff {crl : CertificateRevocationList} {cert issuer : Certificate} :
    authenticateCrl lib crl cert issuer = .ok () ↔ AuthenticCrl lib crl cert issuer := by
  unfold authenticateCrl
  refine ⟨?_, ?_⟩
  · intro passed
    split at passed
    · cases passed
    rename_i sameIssuer
    rw [bind_ok_iff] at passed
    obtain ⟨key, loaded, passed⟩ := passed
    split at passed
    · rename_i signing
      rw [bind_ok_iff] at passed
      obtain ⟨valid, verified, passed⟩ := passed
      cases valid with
      | false => cases passed
      | true =>
        rw [if_pos rfl, bind_ok_iff] at passed
        obtain ⟨isCa, basic, passed⟩ := passed
        rw [bind_ok_iff] at passed
        obtain ⟨extensions, read, passed⟩ := passed
        exact ⟨not_not.mp sameIssuer, ⟨key, loaded, signing, verified⟩, isCa, extensions, basic,
          read, fun extension member => checkCrlExtension_ok_iff.mp (forM_ok_iff.mp passed _ member)⟩
    · cases passed
  · intro found
    obtain ⟨sameIssuer, ⟨key, loaded, signing, verified⟩, isCa, extensions, basic, read, covers⟩ := found
    rw [if_neg (not_not.mpr sameIssuer), bind_ok_iff]
    refine ⟨key, loaded, ?_⟩
    rw [if_pos signing, bind_ok_iff]
    refine ⟨true, verified, ?_⟩
    rw [if_pos rfl, bind_ok_iff]
    refine ⟨isCa, basic, bind_ok_iff.mpr ⟨extensions, read, forM_ok_iff.mpr fun extension member => ?_⟩⟩
    exact checkCrlExtension_ok_iff.mpr (covers extension member)

theorem crlIsPartial_false_iff {crl : CertificateRevocationList} :
    crlIsPartial crl = .ok false ↔ Complete crl := by
  have each : ∀ extension : Extension, limitsCrl extension = false ↔
      extension.value ≠ .deltaCrlIndicator ∧
        ∀ scope, extension.value = .issuingDistributionPoint scope →
          scope.onlySomeReasons.getD [] = [] := by
    intro extension
    unfold limitsCrl
    cases extension.value with
    | issuingDistributionPoint scope =>
      rcases reasons : scope.onlySomeReasons with _ | (_ | _) <;> simp [reasons]
    | _ => simp
  unfold crlIsPartial Complete
  rw [bind_ok_iff]
  refine exists_congr fun extensions => and_congr_right fun _ => ?_
  rw [pure_ok_iff, List.any_eq_false]
  exact forall₂_congr fun extension _ => by rw [Bool.not_eq_true, each extension]

/-- What a CRL must be to prove its silence about the certificate: GOOD. -/
structure ProvesGood (lib : Cryptography) (now : Instant) (crl : CertificateRevocationList)
    (cert issuer : Certificate) : Prop where
  authentic : AuthenticCrl lib crl cert issuer
  absent : crl.revokedBySerial cert.serialNumber = none
  complete : Complete crl
  current : requireFreshCrl now crl = .ok ()

/-- **What a CRL can say of a certificate**: once authenticated, that its serial is listed, that it
is too early or too late to tell, or that all is well. -/
theorem judgeCrl_cases {cert issuer : Certificate} {crl : CertificateRevocationList}
    {verdict : Verdict} (judged : judgeCrl lib now cert issuer crl = .ok (some verdict)) :
    (AuthenticCrl lib crl cert issuer ∧ verdict.1 = .revoked ∧
        ∃ revoked, crl.revokedBySerial cert.serialNumber = some revoked) ∨
      verdict.1 = .unavailable ∨
      (ProvesGood lib now crl cert issuer ∧ verdict = (.good, some "via CRL")) := by
  unfold judgeCrl at judged
  rw [bind_ok_iff] at judged
  obtain ⟨checks, passed, judged⟩ := judged
  cases checks with
  | error refused => cases judged
  | ok isPartial =>
    rw [exceptPure_ok_iff, bind_ok_iff] at passed
    obtain ⟨_, authenticated, limits⟩ := passed
    have authentic := authenticateCrl_ok_iff.mp authenticated
    simp only at judged
    split at judged
    · rename_i revoked found
      cases judged
      exact Or.inl ⟨authentic, rfl, revoked, found⟩
    · rename_i absent
      split at judged
      · cases judged
      rename_i complete
      rw [Bool.not_eq_true] at complete
      subst complete
      rw [bind_ok_iff] at judged
      obtain ⟨fresh, window, judged⟩ := judged
      cases fresh with
      | error late =>
        cases judged
        exact Or.inr (Or.inl rfl)
      | ok _ =>
        cases judged
        exact Or.inr (Or.inr ⟨⟨authentic, absent, crlIsPartial_false_iff.mp limits,
          exceptPure_ok_iff.mp window⟩, rfl⟩)

/-- **A CRL that proves GOOD makes the certificate GOOD.** -/
theorem judgeCrl_good {cert issuer : Certificate} {crl : CertificateRevocationList}
    (proves : ProvesGood lib now crl cert issuer) :
    judgeCrl lib now cert issuer crl = .ok (some (.good, some "via CRL")) := by
  unfold judgeCrl
  have passed : (do
      authenticateCrl lib crl cert issuer
      crlIsPartial crl) = .ok false :=
    bind_ok_iff.mpr ⟨(), authenticateCrl_ok_iff.mpr proves.authentic,
      crlIsPartial_false_iff.mpr proves.complete⟩
  rw [bind_ok_iff]
  refine ⟨.ok false, exceptPure_ok_iff.mpr passed, ?_⟩
  simp only [proves.absent, Bool.false_eq_true, if_false]
  exact bind_ok_iff.mpr ⟨.ok (), exceptPure_ok_iff.mpr proves.current, rfl⟩

theorem revokedBySerial_eq_none_iff {crl : CertificateRevocationList} {serial : Int} :
    crl.revokedBySerial serial = none ↔ ∀ entry ∈ crl.entries, entry.serialNumber ≠ serial := by
  unfold CertificateRevocationList.revokedBySerial
  rw [List.find?_eq_none]
  simp only [beq_iff_eq, ne_eq]

theorem revokedBySerial_some {crl : CertificateRevocationList} {serial : Int}
    {revoked : RevokedCertificate} (found : crl.revokedBySerial serial = some revoked) :
    revoked ∈ crl.entries ∧ revoked.serialNumber = serial :=
  ⟨List.mem_of_find?_eq_some found,
    beq_iff_eq.mp (List.find?_some
      (p := fun entry : RevokedCertificate => entry.serialNumber == serial) found)⟩

theorem crlVerdict_loaded {cert issuer : Certificate} {raw : Bytes}
    {crl : CertificateRevocationList} (loaded : loadCrl lib raw = .ok (some crl)) :
    crlVerdict lib now cert issuer raw = judgeCrl lib now cert issuer crl := by
  unfold crlVerdict
  rw [loaded]
  rfl

/-- **A decided CRL verdict is proved by an authentic CRL.** -/
theorem crlVerdict_proves {cert issuer : Certificate} {raw : Bytes} {verdict : Verdict}
    (answered : crlVerdict lib now cert issuer raw = .ok (some verdict))
    (decided : verdict.1 ≠ .unavailable) : ProvesByCrl lib now cert issuer raw verdict.1 := by
  unfold crlVerdict at answered
  rw [bind_ok_iff] at answered
  obtain ⟨loaded, load, answered⟩ := answered
  cases loaded with
  | none => cases answered
  | some crl =>
    rcases judgeCrl_cases answered with ⟨authentic, listed, revoked, found⟩ | unavailable |
      ⟨proves, rfl⟩
    · exact ⟨crl, load, authentic, Or.inl ⟨listed, revoked, revokedBySerial_some found⟩⟩
    · exact (decided unavailable).elim
    · exact ⟨crl, load, proves.authentic, Or.inr ⟨rfl, revokedBySerial_eq_none_iff.mp proves.absent,
        proves.complete, requireFresh_ok proves.current⟩⟩

end Checks

/-! ### A certification authority with one CRL -/

/-- A common name. -/
def sampleName (commonName : String) : X509Name :=
  ⟨[("2.5.4.3", .text commonName)], "CN=" ++ commonName⟩

/-- The key of the authority. -/
def sampleKey : PublicKey := ⟨.ec, some 256, ascii "ca key"⟩

/-- The authority: a self-signed CA certificate. -/
def sampleCa : Certificate where
  der := ascii "ca"
  subject := sampleName "ca"
  issuer := sampleName "ca"
  serialNumber := 1
  notValidBefore := 0
  notValidAfter := 1000 * Instant.day
  signatureAlgorithmOid := "1.2.840.10045.4.3.2"
  fingerprintSha256 := ascii "ca"
  publicKey := .ok sampleKey
  extensions := .ok [⟨"2.5.29.19", true, .basicConstraints true⟩]

/-- A certificate of the authority with these extensions. -/
def sampleLeaf (extensions : List Extension) : Certificate where
  der := ascii "leaf"
  subject := sampleName "leaf"
  issuer := sampleName "ca"
  serialNumber := 7
  notValidBefore := 0
  notValidAfter := 90 * Instant.day
  signatureAlgorithmOid := "1.2.840.10045.4.3.2"
  fingerprintSha256 := ascii "leaf"
  publicKey := .ok ⟨.ec, some 256, ascii "leaf key"⟩
  extensions := .ok extensions

/-- A CRLDistributionPoints extension with one point of one URL. -/
def sampleCrlPoint (url : String) : Extension :=
  ⟨"2.5.29.31", false, .crlDistributionPoints [⟨some [.uniformResourceIdentifier url]⟩]⟩

/-- A CRL of the authority, valid for a week, with these extensions and entries. -/
def sampleCrl (extensions : List Extension) (entries : List RevokedCertificate) :
    CertificateRevocationList where
  der := ascii "crl"
  issuer := sampleName "ca"
  lastUpdate := .ok (some 0)
  nextUpdate := .ok (some (7 * Instant.day))
  extensions := .ok extensions
  entries := entries

/-- The package, on the encodings of the authority and of one CRL: what the authority signed
verifies, and anything else cannot be parsed or does not verify. -/
def samplePackage (crl : CertificateRevocationList) : Cryptography where
  loadDerX509Certificate raw :=
    if raw = ascii "ca" then .ok sampleCa else .error ⟨.valueError, "error parsing asn1 value"⟩
  loadPemX509Certificate _ := .error ⟨.valueError, "Unable to load PEM file."⟩
  loadPemX509Certificates _ := .error ⟨.valueError, "Unable to load PEM file."⟩
  loadDerX509Crl raw :=
    if raw = crl.der then .ok crl else .error ⟨.valueError, "error parsing asn1 value"⟩
  loadPemX509Crl _ := .error ⟨.valueError, "Unable to load PEM file."⟩
  loadDerOcspResponse _ := .error ⟨.valueError, "error parsing asn1 value"⟩
  verifyDirectlyIssuedBy cert issuer :=
    if cert.issuer ≠ issuer.subject then
      .error ⟨.valueError, "Issuer certificate subject does not match certificate issuer"⟩
    else match issuer.publicKey with
      | .error _ => .error ⟨.unsupportedAlgorithm, "Unknown key type"⟩
      | .ok key => if key = sampleKey then .ok () else .error ⟨.invalidSignature, ""⟩
  verify _ _ _ _ := .error ⟨.invalidSignature, ""⟩
  isSignatureValid signed key := .ok (decide (signed.issuer = sampleName "ca" ∧ key = sampleKey))
  subjectKeyIdentifier key := key.spki
  ocspRequest cert issuer :=
    ⟨cert.serialNumber, ascii issuer.subject.rfc4514, issuer.der, ascii "ocsp request"⟩

/-- A network that serves the same bytes at every URL. -/
def sampleWeb (raw : Bytes) : Web Unit := ⟨fun _ _ => pure raw⟩

/-! ### Through the network -/

section Network

variable {lib : Cryptography} {σ : Type} {web : Web σ} {now : Instant} {s : σ}

/-- What `fetch` returns was served, at the text of the URL. -/
theorem fetch_served (url : PyValue) (data : Option Bytes) :
    Outcome (fetch web url data) s
      (fun raw _ => ∃ text, url = .str text ∧ Served web text data raw) fun _ _ => True := by
  unfold fetch
  cases scheme : HttpFetch.checkScheme url with
  | error raised => exact trivial
  | ok text =>
    have isText := (HttpFetch.checkScheme_ok_iff.mp scheme).1
    rw [outcome_bind, outcome_orRaise_ok, outcome_adaptExcept]
    exact outcome_mono (outcome_self _ s) (fun raw after ran => ⟨text, isText, s, after, ran⟩)
      fun _ _ _ => trivial

theorem checkOcsp_evidence {cert issuer : Certificate} :
    Outcome (checkOcsp lib web now cert (some issuer)) s
      (fun verdict _ => verdict.1 ≠ .unavailable → OcspEvidence lib web now cert issuer verdict.1)
      fun _ _ => True := by
  unfold checkOcsp
  cases Parser.aiaUrls cert with
  | error raised => exact trivial
  | ok urls =>
    rw [outcome_bind, outcome_orRaise_ok]
    cases urls.1 with
    | nil => exact fun absurd => (absurd rfl).elim
    | cons url rest =>
      simp only [outcome_bind, outcome_except]
      refine outcome_mono (fetch_served url _) ?_ fun raised _ _ => ?_
      · intro raw after found
        obtain ⟨text, _, served⟩ := found
        cases answer : ocspVerdict lib now (lib.ocspRequest cert issuer) issuer raw with
        | error raised => exact trivial
        | ok verdict => exact fun decided => ⟨text, raw, served, ocspVerdict_proves answer decided⟩
      · split
        · exact fun absurd => (absurd rfl).elim
        · exact trivial

/-- Without an issuer, neither source decides. -/
theorem checkOcsp_none {cert : Certificate} :
    Outcome (checkOcsp lib web now cert none) s (fun verdict _ => verdict.1 = .unavailable)
      fun _ _ => True := by
  unfold checkOcsp
  cases Parser.aiaUrls cert with
  | error raised => exact trivial
  | ok urls =>
    rw [outcome_bind, outcome_orRaise_ok]
    cases urls.1 <;> rfl

theorem tryCrl_evidence {cert issuer : Certificate} {urls : List String} {url : String}
    (points : crlUrls cert = .ok urls) (member : url ∈ urls) :
    Outcome (tryCrl lib web now cert issuer url) s
      (fun answer _ => ∀ verdict, answer = some verdict → verdict.1 ≠ .unavailable →
        CrlEvidence lib web now cert issuer verdict.1) fun _ _ => True := by
  unfold tryCrl
  simp only [outcome_bind, outcome_except]
  refine outcome_mono (fetch_served (.str url) none) ?_ fun raised _ _ => ?_
  · intro raw after found
    obtain ⟨text, same, served⟩ := found
    cases same
    cases answer : crlVerdict lib now cert issuer raw with
    | error raised => exact trivial
    | ok found =>
      rintro verdict rfl decided
      exact ⟨urls, url, raw, points, member, served, crlVerdict_proves answer decided⟩
  · split
    · exact fun _ absurd => by cases absurd
    · exact trivial

/-- **The CRL check is its loop**, once there are a URL and an issuer. -/
theorem checkCrl_listed {cert issuer : Certificate} {url : String} {rest : List String}
    (points : crlUrls cert = .ok (url :: rest)) :
    checkCrl lib web now cert (some issuer) =
      firstHitOr (tryCrl lib web now cert issuer)
        (.unavailable, some "no usable CRL could be retrieved") (url :: rest) := by
  unfold checkCrl firstHitOr
  rw [points]
  refine (pure_bind _ _).trans (bind_congr fun found => ?_)
  cases found <;> rfl

theorem checkCrl_evidence {cert issuer : Certificate} :
    Outcome (checkCrl lib web now cert (some issuer)) s
      (fun verdict _ => verdict.1 ≠ .unavailable → CrlEvidence lib web now cert issuer verdict.1)
      fun _ _ => True := by
  unfold checkCrl
  cases points : crlUrls cert with
  | error raised => exact trivial
  | ok urls =>
    rw [outcome_bind, outcome_orRaise_ok]
    cases urls with
    | nil => exact fun absurd => (absurd rfl).elim
    | cons url rest =>
      rw [outcome_bind]
      refine outcome_mono (outcome_firstHit (I := fun _ => True) trivial
        (Q := fun verdict _ => verdict.1 ≠ .unavailable →
          CrlEvidence lib web now cert issuer verdict.1)
        fun candidate member t _ => outcome_mono (tryCrl_evidence points member) ?_
          fun _ _ raised => raised) ?_ fun _ _ _ => trivial
      · intro answer after proves
        cases answer with
        | none => exact trivial
        | some verdict => exact proves verdict rfl
      · intro answer after proves
        cases answer with
        | none => exact fun absurd => (absurd rfl).elim
        | some verdict => exact proves

theorem checkCrl_none {cert : Certificate} :
    Outcome (checkCrl lib web now cert none) s (fun verdict _ => verdict.1 = .unavailable)
      fun _ _ => True := by
  unfold checkCrl
  cases crlUrls cert with
  | error raised => exact trivial
  | ok urls =>
    rw [outcome_bind, outcome_orRaise_ok]
    cases urls <;> rfl

theorem tryIssuer_issued {cert : Certificate} (url : PyValue) :
    Outcome (tryIssuer lib web cert url) s
      (fun answer _ => ∀ issuer, answer = some issuer → Issued lib cert issuer)
      fun _ _ => True := by
  unfold tryIssuer
  simp only [outcome_bind, outcome_except]
  refine outcome_mono (fetch_served url none) ?_ fun raised _ _ => ?_
  · intro raw after _
    cases lib.loadDerX509Certificate raw with
    | error raised =>
      rw [outcome_orRaise_error]
      split
      · exact fun _ absurd => by cases absurd
      · exact trivial
    | ok candidate =>
      rw [outcome_orRaise_ok]
      cases signed : signedBy lib cert candidate with
      | error raised => exact trivial
      | ok verified =>
        rintro issuer same
        cases verified with
        | false => cases same
        | true =>
          cases same
          exact signedBy_true_iff.mp signed
  · split
    · exact fun _ absurd => by cases absurd
    · exact trivial

/-- **Whatever issuer the check is anchored on, it really signed the certificate.** -/
theorem anchor_issued {cert : Certificate} (issuer : Option Certificate) :
    Outcome (anchor lib web cert issuer) s
      (fun found _ => ∀ ca, found = some ca → Issued lib cert ca) fun _ _ => True := by
  have downloaded : Outcome (fetchIssuer lib web cert) s
      (fun found _ => ∀ ca, found = some ca → Issued lib cert ca) fun _ _ => True := by
    unfold fetchIssuer
    cases Parser.aiaUrls cert with
    | error raised => exact trivial
    | ok urls =>
      rw [outcome_bind, outcome_orRaise_ok]
      refine outcome_mono (outcome_firstHit (I := fun _ => True) trivial
        (Q := fun ca _ => Issued lib cert ca)
        fun url _ t _ => outcome_mono (tryIssuer_issued url) ?_ fun _ _ raised => raised) ?_
        fun _ _ _ => trivial
      · intro answer after issued
        cases answer with
        | none => exact trivial
        | some ca => exact issued ca rfl
      · rintro answer after issued ca rfl
        exact issued
  unfold anchor
  cases issuer with
  | none => exact downloaded
  | some ca =>
    simp only [outcome_bind]
    cases signed : signedBy lib cert ca with
    | error raised => exact trivial
    | ok verified =>
      cases verified with
      | false => exact downloaded
      | true =>
        rintro other same
        cases same
        exact signedBy_true_iff.mp signed

variable (lib web now)

/-- **Every decided verdict is backed by authenticated evidence**: an issuer that really signed the
certificate, and an OCSP response or a CRL the network served that proves the verdict under it. -/
theorem checkRevocation_verdict_evidence (cert : Certificate) (issuer : Option Certificate) (s : σ)
    {verdict : Verdict} {t : σ} (answered : checkRevocation lib web now cert issuer s = .ok verdict t)
    (decided : verdict.1 ≠ .unavailable) :
    ∃ ca, Issued lib cert ca ∧
      (OcspEvidence lib web now cert ca verdict.1 ∨ CrlEvidence lib web now cert ca verdict.1) := by
  have ends : Outcome (checkRevocation lib web now cert issuer) s
      (fun verdict _ => verdict.1 ≠ .unavailable → ∃ ca, Issued lib cert ca ∧
        (OcspEvidence lib web now cert ca verdict.1 ∨ CrlEvidence lib web now cert ca verdict.1))
      fun _ _ => True := by
    unfold checkRevocation
    rw [outcome_bind]
    refine outcome_mono (anchor_issued issuer) ?_ fun _ _ _ => trivial
    intro found after issued
    rw [outcome_bind]
    cases found with
    | none =>
      refine outcome_mono checkOcsp_none ?_ fun _ _ _ => trivial
      intro ocsp _ unavailable
      rw [if_neg (not_not.mpr unavailable), outcome_bind]
      refine outcome_mono checkCrl_none ?_ fun _ _ _ => trivial
      intro crl _ noCrl
      rw [if_neg (not_not.mpr noCrl)]
      exact fun decided => (decided unavailable).elim
    | some ca =>
      refine outcome_mono checkOcsp_evidence ?_ fun _ _ _ => trivial
      intro ocsp _ byOcsp
      split
      · exact fun decided => ⟨ca, issued ca rfl, Or.inl (byOcsp decided)⟩
      · rename_i unavailable
        rw [outcome_bind]
        refine outcome_mono checkCrl_evidence ?_ fun _ _ _ => trivial
        intro crl _ byCrl
        split
        · exact fun decided => ⟨ca, issued ca rfl, Or.inr (byCrl decided)⟩
        · exact fun decided => (unavailable decided).elim
  exact outcome_ok ends answered decided

theorem checkRevocation_verdict_evidence_sample :
    let package := samplePackage (sampleCrl [] [])
    let leaf := sampleLeaf [sampleCrlPoint "http://ca/crl"]
    checkRevocation package (sampleWeb (ascii "crl")) Instant.day leaf (some sampleCa) () =
        .ok (.good, some "via CRL") () ∧
      ∃ ca, Issued package leaf ca ∧
        (OcspEvidence package (sampleWeb (ascii "crl")) Instant.day leaf ca .good ∨
          CrlEvidence package (sampleWeb (ascii "crl")) Instant.day leaf ca .good) := by
  have answered : checkRevocation (samplePackage (sampleCrl [] [])) (sampleWeb (ascii "crl"))
      Instant.day (sampleLeaf [sampleCrlPoint "http://ca/crl"]) (some sampleCa) () =
        .ok (.good, some "via CRL") () := by rfl
  exact ⟨answered, checkRevocation_verdict_evidence (samplePackage (sampleCrl [] []))
    (sampleWeb (ascii "crl")) Instant.day (sampleLeaf [sampleCrlPoint "http://ca/crl"])
    (some sampleCa) () answered (by decide)⟩

end Network

end Certinspect.Revocation
