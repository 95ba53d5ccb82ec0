/-
**Which OCSP responses are accepted — the signer is chosen before the signature is checked.**

`_ocsp_signer` picks one certificate, the issuer or the first embedded delegate that the ResponderID
designates, and `_authenticate_ocsp_response` checks the signature under the key of that one alone.

* `Genuine` — the response answers the request, and some authorized signer signed it.
* `ocspSigner_some_iff`, `authenticateOcspResponse_ok_iff` — which certificate is picked, and what
  is accepted.
* `Obstructed` — the certificate that stops the search is not the one that signed.
* **`authenticateOcspResponse_iff`** — exactly the genuine responses are accepted, unless a genuine
  one is obstructed.
-/

import Certinspect.Revocation.SoftFail

namespace Certinspect.Revocation

open Library

/-! ### What is accepted -/

section Accepted

variable (lib : Cryptography) (now : Instant) (response : OcspResponse) (request : OcspRequest)
  (issuer : Certificate)

/-- The response answers the request, and an authorized signer signed it. -/
def Genuine : Prop :=
  ∃ single signer, response.single = .ok single ∧ AnswersRequest single request ∧
    AuthorizedSigner lib now response issuer signer ∧ SignedWithKeyOf lib response signer

/-- The certificate at which the search for the signer stops is not one that signed: the issuer or
a delegate that comes first, or a certificate that cannot be read. -/
inductive Obstructed : Prop
  /-- The ResponderID designates the issuer, which did not sign. -/
  | namesake : Designates lib response issuer → ¬ SignedWithKeyOf lib response issuer → Obstructed
  /-- The key of the issuer is needed and cannot be read. -/
  | unreadableIssuer {err : PyErr} : namesResponder lib response issuer = .error err → Obstructed
  /-- The first embedded delegate did not sign. -/
  | shadowed {earlier later : List Certificate} {candidate : Certificate} :
      response.certificates = .ok (earlier ++ candidate :: later) →
      (∀ other ∈ earlier, isDelegate lib now response issuer other = .ok false) →
      isDelegate lib now response issuer candidate = .ok true →
      ¬ Designates lib response issuer → ¬ SignedWithKeyOf lib response candidate → Obstructed
  /-- An embedded certificate before the first delegate cannot be read. -/
  | unreadable {earlier later : List Certificate} {candidate : Certificate} {err : PyErr} :
      response.certificates = .ok (earlier ++ candidate :: later) →
      (∀ other ∈ earlier, isDelegate lib now response issuer other = .ok false) →
      isDelegate lib now response issuer candidate = .error err →
      ¬ Designates lib response issuer → Obstructed

variable {lib now response request issuer}

/-- **Which certificate is the signer**: the issuer if it is designated, else the first embedded
delegate. -/
theorem ocspSigner_some_iff {signer : Certificate} :
    ocspSigner lib now response issuer = .ok (some signer) ↔
      (Designates lib response issuer ∧ signer = issuer) ∨
        (namesResponder lib response issuer = .ok false ∧ ∃ earlier later,
          response.certificates = .ok (earlier ++ signer :: later) ∧
          (∀ other ∈ earlier, isDelegate lib now response issuer other = .ok false) ∧
          isDelegate lib now response issuer signer = .ok true) := by
  unfold ocspSigner
  rw [bind_ok_iff, ← namesResponder_true_iff]
  refine ⟨?_, ?_⟩
  · intro found
    obtain ⟨isIssuer, named, search⟩ := found
    cases isIssuer with
    | true =>
      cases search
      exact Or.inl ⟨named, rfl⟩
    | false =>
      rw [if_neg Bool.false_ne_true, bind_ok_iff] at search
      obtain ⟨embedded, read, search⟩ := search
      obtain ⟨earlier, later, rfl, failed, passed⟩ := findM_some_iff.mp search
      exact Or.inr ⟨named, earlier, later, read, failed, passed⟩
  · intro either
    rcases either with ⟨named, rfl⟩ | ⟨named, earlier, later, read, failed, passed⟩
    · exact ⟨true, named, rfl⟩
    · refine ⟨false, named, ?_⟩
      rw [if_neg Bool.false_ne_true, bind_ok_iff]
      exact ⟨_, read, findM_some_iff.mpr ⟨earlier, later, rfl, failed, passed⟩⟩

theorem checkResponseSignature_ok_iff {signer : Certificate} :
    checkResponseSignature lib response signer = .ok () ↔ SignedWithKeyOf lib response signer := by
  refine ⟨checkResponseSignature_ok, fun signed => ?_⟩
  obtain ⟨key, hash, loaded, read, verified⟩ := signed
  unfold checkResponseSignature
  rw [loaded, read]
  dsimp only [bind, Except.bind]
  rw [verified]

/-- **What is accepted**: an answer to the request, signed by the certificate that is picked. -/
theorem authenticateOcspResponse_ok_iff :
    authenticateOcspResponse lib now response request issuer = .ok () ↔
      ∃ single signer, response.single = .ok single ∧ AnswersRequest single request ∧
        ocspSigner lib now response issuer = .ok (some signer) ∧
        SignedWithKeyOf lib response signer := by
  refine ⟨authenticateOcspResponse_signer, ?_⟩
  intro found
  obtain ⟨single, signer, read, answers, searched, signed⟩ := found
  have same : ¬ (single.serialNumber ≠ request.serialNumber ∨
      single.issuerNameHash ≠ request.issuerNameHash ∨
      single.issuerKeyHash ≠ request.issuerKeyHash) := by
    simp only [not_or, not_not]
    exact ⟨answers.serialNumber, answers.issuerNameHash, answers.issuerKeyHash⟩
  unfold authenticateOcspResponse
  rw [bind_ok_iff]
  refine ⟨single, read, ?_⟩
  rw [if_neg same, bind_ok_iff]
  exact ⟨some signer, searched, checkResponseSignature_ok_iff.mpr signed⟩

/-! ### What is in the way -/

/-- What is accepted is genuine. -/
theorem genuine_of_accepted
    (accepted : authenticateOcspResponse lib now response request issuer = .ok ()) :
    Genuine lib now response request issuer := by
  obtain ⟨single, signer, read, answers, searched, signed⟩ :=
    authenticateOcspResponse_ok_iff.mp accepted
  exact ⟨single, signer, read, answers, ocspSigner_some searched, signed⟩

/-- **An obstructed response is not accepted.** -/
theorem Obstructed.refused (obstructed : Obstructed lib now response issuer) :
    authenticateOcspResponse lib now response request issuer ≠ .ok () := by
  intro accepted
  obtain ⟨_, signer, _, _, searched, signed⟩ := authenticateOcspResponse_ok_iff.mp accepted
  rcases ocspSigner_some_iff.mp searched with ⟨designated, rfl⟩ |
    ⟨named, earlier, later, read, failed, passed⟩
  · cases obstructed with
    | namesake _ unsigned => exact unsigned signed
    | unreadableIssuer raises =>
      rw [namesResponder_true_iff.mpr designated] at raises
      cases raises
    | shadowed _ _ _ undesignated => exact undesignated designated
    | unreadable _ _ _ undesignated => exact undesignated designated
  · cases obstructed with
    | namesake designated =>
      rw [namesResponder_true_iff.mpr designated] at named
      cases named
    | unreadableIssuer raises =>
      rw [named] at raises
      cases raises
    | shadowed readToo failedToo passedToo _ unsigned =>
      rw [read] at readToo
      have search := findM_some_iff.mpr ⟨earlier, later, rfl, failed, passed⟩
      rw [Except.ok.inj readToo, findM_some_iff.mpr ⟨_, _, rfl, failedToo, passedToo⟩] at search
      cases search
      exact unsigned signed
    | unreadable readToo failedToo raises =>
      rw [read] at readToo
      have search := findM_some_iff.mpr ⟨earlier, later, rfl, failed, passed⟩
      rw [Except.ok.inj readToo, findM_error_iff.mpr ⟨_, _, _, rfl, failedToo, raises⟩] at search
      cases search

/-- **A genuine response that is not obstructed is accepted.** -/
theorem Genuine.accepted (genuine : Genuine lib now response request issuer)
    (free : ¬ Obstructed lib now response issuer) :
    authenticateOcspResponse lib now response request issuer = .ok () := by
  obtain ⟨single, signer, read, answers, ⟨designated, role⟩, signed⟩ := genuine
  refine authenticateOcspResponse_ok_iff.mpr ?_
  cases named : namesResponder lib response issuer with
  | error err => exact (free (.unreadableIssuer named)).elim
  | ok isIssuer =>
    cases isIssuer with
    | true =>
      have designatesIssuer := namesResponder_true_iff.mp named
      by_cases issuerSigned : SignedWithKeyOf lib response issuer
      · exact ⟨single, issuer, read, answers, ocspSigner_some_iff.mpr (Or.inl ⟨designatesIssuer, rfl⟩),
          issuerSigned⟩
      · exact (free (.namesake designatesIssuer issuerSigned)).elim
    | false =>
      have notIssuer : ¬ Designates lib response issuer := by
        intro absurd
        rw [namesResponder_true_iff.mpr absurd] at named
        cases named
      rcases role with rfl | ⟨embedded, certificates, member, delegate⟩
      · exact (notIssuer designated).elim
      -- The search stops at the first certificate that is not plainly no delegate.
      have passes := isDelegate_true_iff.mpr ⟨designated, delegate⟩
      obtain ⟨earlier, first, later, rfl, before, stops⟩ := exists_first
        (P := fun candidate => isDelegate lib now response issuer candidate ≠ .ok false)
        ⟨signer, member, by rw [passes]; intro absurd; cases absurd⟩
      have failed : ∀ other ∈ earlier, isDelegate lib now response issuer other = .ok false :=
        fun other here => not_not.mp (before other here)
      cases tested : isDelegate lib now response issuer first with
      | error err => exact (free (.unreadable certificates failed tested notIssuer)).elim
      | ok isFirst =>
        cases isFirst with
        | false => exact (stops tested).elim
        | true =>
          by_cases firstSigned : SignedWithKeyOf lib response first
          · exact ⟨single, first, read, answers,
              ocspSigner_some_iff.mpr (Or.inr ⟨named, earlier, later, certificates, failed, tested⟩),
              firstSigned⟩
          · exact (free (.shadowed certificates failed tested notIssuer firstSigned)).elim

variable (lib now response request issuer)

/-- **Exactly the genuine responses are accepted, unless a genuine one is obstructed.** -/
theorem authenticateOcspResponse_iff :
    (authenticateOcspResponse lib now response request issuer = .ok () ↔
      Genuine lib now response request issuer) ↔
    (Obstructed lib now response issuer → ¬ Genuine lib now response request issuer) := by
  refine ⟨?_, ?_⟩
  · intro exactly obstructed genuine
    exact obstructed.refused (exactly.mpr genuine)
  · intro apart
    refine ⟨genuine_of_accepted, fun genuine => genuine.accepted fun obstructed => ?_⟩
    exact apart obstructed genuine

end Accepted

/-! ### A responder that renewed its certificate -/

section Renewal

/-- The delegated responder of the authority, with this key. -/
def sampleResponder (key : String) : Certificate :=
  { sampleLeaf [⟨"2.5.29.37", false, .extendedKeyUsage [ocspSigningOid]⟩] with
    der := ascii key, subject := sampleName "ocsp", publicKey := .ok ⟨.ec, some 256, ascii key⟩ }

/-- A response signed with the new key, which embeds the old and the new certificate. -/
def sampleRenewed : OcspResponse where
  responseStatus := .successful
  single := .ok ⟨7, ascii "CN=ca", ascii "ca", .good, .ok (some 0), .ok none, none⟩
  responderName := some (sampleName "ocsp")
  responderKeyHash := none
  certificates := .ok [sampleResponder "old", sampleResponder "new"]
  signature := ascii "signature"
  tbsResponseBytes := ascii "response"
  signatureHashAlgorithm := .ok (some "sha256")

/-- The package, under which that signature verifies with the new key. -/
def sampleVerifier : Cryptography :=
  { samplePackage (sampleCrl [] []) with
    verify := fun key _ _ _ =>
      if key.spki = ascii "new" then .ok () else .error ⟨.invalidSignature, ""⟩ }

/-- The old certificate is listed first and hides the new one, which signed. -/
theorem authenticateOcspResponse_counterexample :
    ¬ (authenticateOcspResponse sampleVerifier Instant.day sampleRenewed
        (sampleVerifier.ocspRequest (sampleLeaf []) sampleCa) sampleCa = .ok () ↔
      Genuine sampleVerifier Instant.day sampleRenewed
        (sampleVerifier.ocspRequest (sampleLeaf []) sampleCa) sampleCa) := by
  intro exactly
  have delegate : isDelegate sampleVerifier Instant.day sampleRenewed sampleCa
      (sampleResponder "new") = .ok true := rfl
  obtain ⟨designated, rest⟩ := isDelegate_true_iff.mp delegate
  have genuine : Genuine sampleVerifier Instant.day sampleRenewed
      (sampleVerifier.ocspRequest (sampleLeaf []) sampleCa) sampleCa :=
    ⟨_, sampleResponder "new", rfl, ⟨rfl, rfl, rfl⟩,
      ⟨designated, Or.inr ⟨_, rfl, by simp, rest⟩⟩, _, _, rfl, rfl, rfl⟩
  have refused : authenticateOcspResponse sampleVerifier Instant.day sampleRenewed
      (sampleVerifier.ocspRequest (sampleLeaf []) sampleCa) sampleCa =
        unusable "OCSP response signature is invalid" := rfl
  have absurd := refused.symm.trans (exactly.mpr genuine)
  cases absurd

end Renewal

end Certinspect.Revocation
