/-
**When revocation checking raises.**

`check_revocation` is meant to soft-fail on everything. Each helper catches its own list of
exceptions; `Escapes` lists what passes through all of them, and **`checkRevocation_returns_iff`**
says that nothing else does, for a package that raises what it documents.

* a CA Issuers or OCSP location that is not text: `_check_url` calls `.lower()` on it
  (`fetch_notText`);
* an issuer, given or downloaded, with a key of an unknown type: `_signed_by` does not catch
  `UnsupportedAlgorithm` (`UnknownKey`);
* an embedded OCSP responder that is unreadable the same way, or has a repeated extension
  (`HostileResponse`);
* a CRL of the issuer with a repeated extension (`HostileCrl`);
* an authenticated GOOD response, or an authentic and complete CRL that does not list the
  certificate, with a time so close to an end of the range of `datetime` that the clock skew leaves
  it (`Unmeasurable`): `_require_fresh_ocsp_response` and `_require_fresh_crl` do not catch the
  `OverflowError`.
-/

import Certinspect.Revocation.Scope

namespace Certinspect.Revocation

open Library

/-! ### What escapes -/

section Hostile

variable (lib : Cryptography)

/-- The issuer has a key of a type the package does not know. -/
def UnknownKey (cert issuer : Certificate) : Prop :=
  ∃ err, lib.verifyDirectlyIssuedBy cert issuer = .error err ∧ err.cls = .unsupportedAlgorithm

/-- A location that is not text: a directory name, an IP address, an OID or raw bytes. -/
def NotText (url : PyValue) : Prop := ∀ text, url ≠ .str text

/-- An embedded certificate that `_ocsp_signer` cannot read. -/
def UnreadableResponder (response : OcspResponse) (issuer candidate : Certificate) : Prop :=
  (response.responderName = none ∧
      ∃ err, candidate.publicKey = .error err ∧ err.cls = .unsupportedAlgorithm) ∨
    (Designates lib response candidate ∧ Issued lib candidate issuer ∧
      ∃ err, candidate.extensions = .error err ∧ err.cls = .duplicateExtension)

/-- A response to the request that embeds an unreadable certificate before any authorized one, and
that the issuer did not sign itself. -/
def HostileResponse (now : Instant) (request : OcspRequest) (issuer : Certificate) (raw : Bytes) :
    Prop :=
  ∃ response single before candidate rest,
    lib.loadDerOcspResponse raw = .ok response ∧ response.responseStatus = .successful ∧
    response.single = .ok single ∧ AnswersRequest single request ∧
    ¬ Designates lib response issuer ∧ response.certificates = .ok (before ++ candidate :: rest) ∧
    (∀ earlier ∈ before, isDelegate lib now response issuer earlier = .ok false) ∧
    UnreadableResponder lib response issuer candidate

/-- A CRL of the issuer, validly signed, with a repeated extension. -/
def HostileCrl (cert issuer : Certificate) (raw : Bytes) : Prop :=
  ∃ crl key err, loadCrl lib raw = .ok (some crl) ∧ crl.issuer = cert.issuer ∧
    issuer.publicKey = .ok key ∧ isSigningKey key = true ∧
    lib.isSignatureValid crl key = .ok true ∧
    crl.extensions = .error err ∧ err.cls = .duplicateExtension

/-- A window that opens or closes where the clock skew leaves the range of `datetime`; the end is not
looked at when the window opens too late anyway. -/
def Unmeasurable (now : Instant) (thisUpdate nextUpdate : Except PyErr (Option Instant)) : Prop :=
  ∃ opens closes, thisUpdate = .ok opens ∧ nextUpdate = .ok closes ∧
    ((∃ instant, opens = some instant ∧ ¬ Instant.InRange (instant - ocspClockSkew)) ∨
      ((∀ instant, opens = some instant → instant - ocspClockSkew ≤ now) ∧
        ∃ instant, closes = some instant ∧ ¬ Instant.InRange (instant + ocspClockSkew)))

/-- An authenticated answer that the certificate is good, in an unmeasurable window. -/
def UnmeasurableResponse (now : Instant) (request : OcspRequest) (issuer : Certificate)
    (raw : Bytes) : Prop :=
  ∃ response single, lib.loadDerOcspResponse raw = .ok response ∧
    response.responseStatus = .successful ∧
    authenticateOcspResponse lib now response request issuer = .ok () ∧
    response.single = .ok single ∧ single.certificateStatus = .good ∧
    Unmeasurable now single.thisUpdate single.nextUpdate

/-- An authentic and complete CRL without the certificate, in an unmeasurable window. -/
def UnmeasurableCrl (now : Instant) (cert issuer : Certificate) (raw : Bytes) : Prop :=
  ∃ crl, loadCrl lib raw = .ok (some crl) ∧ AuthenticCrl lib crl cert issuer ∧ Complete crl ∧
    (∀ entry ∈ crl.entries, entry.serialNumber ≠ cert.serialNumber) ∧
    Unmeasurable now crl.lastUpdate crl.nextUpdate

variable {σ : Type} (web : Web σ)

/-- A CA Issuers location that is not text, or serves a certificate with an unknown key type. -/
def HostileLocation (cert : Certificate) (url : PyValue) (u : σ) : Prop :=
  NotText url ∨ ∃ raw t candidate, fetch web url none u = .ok raw t ∧
    lib.loadDerX509Certificate raw = .ok candidate ∧ UnknownKey lib cert candidate

/-- The ways an exception escapes from `check_revocation`. -/
inductive Escapes (now : Instant) (cert : Certificate) (issuer : Option Certificate) (s : σ) : Prop
  /-- The given issuer has an unknown key type. -/
  | issuerKey {ca : Certificate} : issuer = some ca → UnknownKey lib cert ca →
      Escapes now cert issuer s
  /-- No issuer is given, or not the right one, and a reached CA Issuers location is hostile. -/
  | issuerLocation {ocsp tried rest : List PyValue} {url : PyValue} {u : σ} :
      (∀ ca, issuer = some ca → signedBy lib cert ca = .ok false) →
      Parser.aiaUrls cert = .ok (ocsp, tried ++ url :: rest) →
      Skips (tryIssuer lib web cert) tried s u → HostileLocation lib web cert url u →
      Escapes now cert issuer s
  /-- There is an issuer and the OCSP location is not text. -/
  | ocspLocation {ca : Certificate} {u : σ} {url : PyValue} {rest issuers : List PyValue} :
      anchor lib web cert issuer s = .ok (some ca) u →
      Parser.aiaUrls cert = .ok (url :: rest, issuers) → NotText url → Escapes now cert issuer s
  /-- The OCSP responder sends a hostile response. -/
  | ocspResponse {ca : Certificate} {u t : σ} {url : PyValue} {rest issuers : List PyValue}
      {raw : Bytes} :
      anchor lib web cert issuer s = .ok (some ca) u →
      Parser.aiaUrls cert = .ok (url :: rest, issuers) →
      fetch web url (some (lib.ocspRequest cert ca).der) u = .ok raw t →
      HostileResponse lib now (lib.ocspRequest cert ca) ca raw → Escapes now cert issuer s
  /-- OCSP gives no answer and a reached distribution point serves a hostile CRL. -/
  | crl {ca : Certificate} {u v w t : σ} {ocsp : Verdict} {tried rest : List String} {url : String}
      {raw : Bytes} :
      anchor lib web cert issuer s = .ok (some ca) u →
      checkOcsp lib web now cert (some ca) u = .ok ocsp v → ocsp.1 = .unavailable →
      crlUrls cert = .ok (tried ++ url :: rest) →
      Skips (tryCrl lib web now cert ca) tried v w → fetch web (.str url) none w = .ok raw t →
      HostileCrl lib cert ca raw → Escapes now cert issuer s
  /-- The OCSP responder sends a response with an unmeasurable window. -/
  | ocspWindow {ca : Certificate} {u t : σ} {url : PyValue} {rest issuers : List PyValue}
      {raw : Bytes} :
      anchor lib web cert issuer s = .ok (some ca) u →
      Parser.aiaUrls cert = .ok (url :: rest, issuers) →
      fetch web url (some (lib.ocspRequest cert ca).der) u = .ok raw t →
      UnmeasurableResponse lib now (lib.ocspRequest cert ca) ca raw → Escapes now cert issuer s
  /-- OCSP gives no answer and a reached distribution point serves a CRL with an unmeasurable
  window. -/
  | crlWindow {ca : Certificate} {u v w t : σ} {ocsp : Verdict} {tried rest : List String}
      {url : String} {raw : Bytes} :
      anchor lib web cert issuer s = .ok (some ca) u →
      checkOcsp lib web now cert (some ca) u = .ok ocsp v → ocsp.1 = .unavailable →
      crlUrls cert = .ok (tried ++ url :: rest) →
      Skips (tryCrl lib web now cert ca) tried v w → fetch web (.str url) none w = .ok raw t →
      UnmeasurableCrl lib now cert ca raw → Escapes now cert issuer s

end Hostile

/-! ### Fetching -/

section Fetching

variable {σ : Type} {web : Web σ} {u : σ} {data : Option Bytes}

/-- A URL that is text: what `fetch` raises is caught. -/
theorem fetch_text_error {url : String} {err : PyErr} {t : σ}
    (failed : fetch web (.str url) data u = .error err t) :
    err.isA [.osError, .valueError] = true := by
  have ends : Outcome (fetch web (.str url) data) u (fun _ _ => True)
      (fun err _ => err.isA [.osError, .valueError] = true) := by
    unfold fetch
    rw [outcome_bind]
    cases scheme : HttpFetch.checkScheme (.str url) with
    | error raised =>
      have unsupported : raised.cls = .valueError := HttpFetch.checkScheme_str_error scheme
      show raised.isA _ = true
      simp [PyErr.isA, unsupported]
    | ok text =>
      rw [outcome_orRaise_ok, outcome_adaptExcept]
      exact outcome_of_forall _ (fun _ _ => trivial) fun raised _ => raised.2
  have caught := outcome_error ends failed
  exact caught

/-- A URL that is not text: what `fetch` raises is not caught. -/
theorem fetch_notText {url : PyValue} (notText : NotText url) :
    ∃ err, fetch web url data u = .error err u ∧ err.isA [.osError, .valueError] = false := by
  cases url with
  | str text => exact (notText text rfl).elim
  | _ => exact ⟨_, rfl, rfl⟩

end Fetching

/-! ### What each check raises -/

section Checks

variable {lib : Cryptography} {now : Instant}

/-- An unusable response or CRL is caught wherever it is raised. -/
theorem not_uncaught_unusable {α : Type} {message : String} {classes : List ExcClass}
    (caught : ExcClass.unusableRevocationData ∈ classes) :
    ¬ Uncaught classes (unusable message : Except PyErr α) := by
  intro found
  obtain ⟨err, raised, free⟩ := found
  cases raised
  rw [PyErr.isA, List.any_eq_false] at free
  exact free _ caught rfl

/-- One end of the window check raises past its handler exactly where the clock skew leaves the
range of `datetime`. -/
theorem requireBound_uncaught_iff {bound : Option Instant} {delta : Int}
    {outside : Instant → Bool} {message : Instant → String} {classes : List ExcClass}
    (caught : ExcClass.unusableRevocationData ∈ classes)
    (free : ExcClass.overflowError ∉ classes) :
    Uncaught classes (requireBound bound delta outside message) ↔
      ∃ instant, bound = some instant ∧ ¬ Instant.InRange (instant + delta) := by
  unfold requireBound
  cases bound with
  | none =>
    refine ⟨fun absurd => (not_uncaught_pure () absurd).elim, ?_⟩
    rintro ⟨_, absurd, _⟩
    cases absurd
  | some instant =>
    rw [uncaught_bind]
    refine ⟨?_, ?_⟩
    · rintro (⟨err, failed, _⟩ | ⟨moved, _, passes⟩)
      · exact ⟨instant, rfl, (Instant.shift_error_iff.mp failed).1⟩
      · split at passes
        · exact (not_uncaught_unusable caught passes).elim
        · exact (not_uncaught_pure () passes).elim
    · rintro ⟨_, ⟨⟩, beyond⟩
      exact Or.inl ⟨_, Instant.shift_error_iff.mpr ⟨beyond, rfl⟩, PyErr.not_isA rfl rfl free⟩

/-- **The window check raises past its handlers exactly on an unmeasurable window.** -/
theorem requireFresh_uncaught_iff {notYetValid stale : Instant → String}
    {thisUpdate nextUpdate : Except PyErr (Option Instant)}
    (this : ∀ err, thisUpdate = .error err → err.isA [.valueError, .attributeError] = true)
    (next : ∀ err, nextUpdate = .error err → err.isA [.valueError, .attributeError] = true)
    {classes : List ExcClass} (caught : ExcClass.unusableRevocationData ∈ classes)
    (free : ExcClass.overflowError ∉ classes) :
    Uncaught classes (requireFresh notYetValid stale now thisUpdate nextUpdate) ↔
      Unmeasurable now thisUpdate nextUpdate := by
  unfold requireFresh
  rw [uncaught_except_bind]
  refine ⟨?_, ?_⟩
  · rintro (⟨err, failed, passes⟩ | ⟨⟨opens, closes⟩, read, passes⟩)
    · have handled : err.isA [.valueError, .attributeError] = true := by
        rcases bind_error_iff.mp failed with failed | ⟨_, _, failed⟩
        · exact this err failed
        rcases bind_error_iff.mp failed with failed | ⟨_, _, absurd⟩
        · exact next err failed
        · cases absurd
      rw [if_pos handled] at passes
      exact (not_uncaught_pure () passes).elim
    · obtain ⟨_, opensRead, read⟩ := bind_ok_iff.mp read
      obtain ⟨_, closesRead, ⟨⟩⟩ := bind_ok_iff.mp read
      refine ⟨opens, closes, opensRead, closesRead, ?_⟩
      rcases uncaught_bind.mp passes with passes | ⟨_, begun, passes⟩
      · exact Or.inl ((requireBound_uncaught_iff caught free).mp passes)
      · refine Or.inr ⟨fun instant known => ?_, (requireBound_uncaught_iff caught free).mp passes⟩
        exact (requireBound_opens_iff.mp begun instant known).2
  · rintro ⟨opens, closes, rfl, rfl, window⟩
    refine Or.inr ⟨(opens, closes), rfl, uncaught_bind.mpr ?_⟩
    rw [requireBound_uncaught_iff caught free, requireBound_uncaught_iff caught free]
    rcases window with early | ⟨begun, late⟩
    · exact Or.inl early
    · by_cases early : ∃ instant, opens = some instant ∧
          ¬ Instant.InRange (instant - ocspClockSkew)
      · exact Or.inl early
      · refine Or.inr ⟨(), requireBound_opens_iff.mpr fun instant known => ?_, late⟩
        exact ⟨not_not.mp fun beyond => early ⟨instant, known, beyond⟩, begun instant known⟩

/-- The loop over the extensions of a CRL raises nothing but that the CRL is unusable. -/
theorem not_uncaught_checkExtensions {isCa : Bool} {extensions : List Extension}
    {classes : List ExcClass} (caught : ExcClass.unusableRevocationData ∈ classes) :
    ¬ Uncaught classes (extensions.forM (checkCrlExtension isCa)) := by
  induction extensions with
  | nil => exact not_uncaught_ok ()
  | cons extension rest ih =>
    intro passes
    rcases uncaught_bind.mp passes with passes | ⟨_, _, passes⟩
    · unfold checkCrlExtension at passes
      split at passes
      · split at passes
        · exact not_uncaught_unusable caught passes
        · exact not_uncaught_ok () passes
      · exact not_uncaught_ok () passes
      · split at passes
        · exact not_uncaught_unusable caught passes
        · exact not_uncaught_ok () passes
    · exact ih passes

section Documented

variable (documented : lib.Documented)
include documented

/-! #### The issuer -/

theorem signedBy_uncaught_iff {cert issuer : Certificate} {classes : List ExcClass}
    (absent : ExcClass.unsupportedAlgorithm ∉ classes) :
    Uncaught classes (signedBy lib cert issuer) ↔ UnknownKey lib cert issuer := by
  unfold signedBy
  rw [uncaught_except_bind]
  refine ⟨?_, ?_⟩
  · intro either
    rcases either with ⟨err, verified, passes⟩ | ⟨_, _, absurd⟩
    · rcases documented.verifyDirectlyIssuedBy _ _ _ verified with caught | ⟨unknown, _⟩
      · rw [if_pos caught] at passes
        exact (not_uncaught_ok _ passes).elim
      · exact ⟨err, verified, unknown⟩
    · exact (not_uncaught_ok _ absurd).elim
  · intro found
    obtain ⟨err, verified, unknown⟩ := found
    have free : err.isA [.invalidSignature, .typeError, .valueError] = false :=
      PyErr.not_isA unknown rfl (by decide)
    refine Or.inl ⟨err, verified, ?_⟩
    rw [free]
    exact PyErr.not_isA unknown rfl absent

/-- Under an issuer that signed something, no signature check raises. -/
theorem signedBy_known {cert issuer other : Certificate} (issued : Issued lib other issuer) :
    ∃ signed, signedBy lib cert issuer = .ok signed := by
  obtain ⟨key, known⟩ := documented.issuerKey _ _ issued
  cases signed : signedBy lib cert issuer with
  | ok answer => exact ⟨answer, rfl⟩
  | error err =>
    have raises : Uncaught [] (signedBy lib cert issuer) := (uncaught_nil _).mpr ⟨err, signed⟩
    obtain ⟨raised, verified, unknown⟩ :=
      (signedBy_uncaught_iff documented (by decide)).mp raises
    rcases documented.verifyDirectlyIssuedBy _ _ _ verified with caught | ⟨_, noKey⟩
    · have free : raised.isA [.invalidSignature, .typeError, .valueError] = false :=
        PyErr.not_isA unknown rfl (by decide)
      rw [caught] at free
      cases free
    · exact (noKey key known).elim

/-! #### The OCSP response -/

/-- **Reading an embedded certificate raises past the handlers exactly when it is unreadable.** -/
theorem isDelegate_uncaught_iff {response : OcspResponse} {issuer candidate other : Certificate}
    (issued : Issued lib other issuer) (embedded : candidate.Documented) :
    Uncaught [.unusableRevocationData, .valueError] (isDelegate lib now response issuer candidate) ↔
      UnreadableResponder lib response issuer candidate := by
  have names : Uncaught [.unusableRevocationData, .valueError]
      (namesResponder lib response candidate) ↔ response.responderName = none ∧
        ∃ err, candidate.publicKey = .error err ∧ err.cls = .unsupportedAlgorithm := by
    unfold namesResponder
    cases response.responderName with
    | some name => simp
    | none =>
      simp only [true_and]
      rw [uncaught_bind]
      refine ⟨?_, ?_⟩
      · intro either
        rcases either with ⟨err, read, free⟩ | ⟨_, _, absurd⟩
        · rcases embedded.publicKey err read with caught | unknown
          · rw [PyErr.isA_mono caught (by simp)] at free
            cases free
          · exact ⟨err, read, unknown⟩
        · exact (not_uncaught_ok _ absurd).elim
      · intro found
        obtain ⟨err, read, unknown⟩ := found
        exact Or.inl ⟨err, read, PyErr.not_isA unknown rfl (by decide)⟩
  have usage : Uncaught [.unusableRevocationData, .valueError] (hasOcspSigning candidate) ↔
      ∃ err, candidate.extensions = .error err ∧ err.cls = .duplicateExtension := by
    unfold hasOcspSigning
    rw [uncaught_bind]
    refine ⟨?_, ?_⟩
    · intro either
      rcases either with ⟨err, read, free⟩ | ⟨found, _, absurd⟩
      · have failed := findExtension_error_iff.mp read
        rcases embedded.extensions err failed with caught | repeated
        · rw [PyErr.isA_mono caught (by simp)] at free
          cases free
        · exact ⟨err, failed, repeated⟩
      · cases found <;> exact (not_uncaught_pure _ absurd).elim
    · intro found
      obtain ⟨err, failed, repeated⟩ := found
      exact Or.inl ⟨err, findExtension_error_iff.mpr failed, PyErr.not_isA repeated rfl (by decide)⟩
  obtain ⟨signed, known⟩ : ∃ signed, signedBy lib candidate issuer = .ok signed :=
    signedBy_known documented issued
  have signature : ¬ Uncaught [.unusableRevocationData, .valueError]
      (signedBy lib candidate issuer) := by
    rw [known]
    exact not_uncaught_ok signed
  unfold isDelegate UnreadableResponder
  rw [uncaught_and, uncaught_and, uncaught_and, names, usage, namesResponder_true_iff,
    signedBy_true_iff]
  have window : ∀ inside, ¬ Uncaught [.unusableRevocationData, .valueError]
      (pure inside : Except PyErr Bool) := not_uncaught_pure
  simp only [signature, window, and_false, or_false, false_or]

/-- **Looking for the signer raises past the handlers exactly at an unreadable certificate**. -/
theorem ocspSigner_uncaught_iff {response : OcspResponse} {issuer other : Certificate}
    (issued : Issued lib other issuer) (attributes : response.Documented) :
    Uncaught [.unusableRevocationData, .valueError] (ocspSigner lib now response issuer) ↔
      ¬ Designates lib response issuer ∧ ∃ before candidate rest,
        response.certificates = .ok (before ++ candidate :: rest) ∧
        (∀ earlier ∈ before, isDelegate lib now response issuer earlier = .ok false) ∧
        UnreadableResponder lib response issuer candidate := by
  obtain ⟨key, known⟩ := documented.issuerKey _ _ issued
  obtain ⟨names, named⟩ : ∃ names, namesResponder lib response issuer = .ok names := by
    unfold namesResponder
    cases response.responderName with
    | some name => exact ⟨_, rfl⟩
    | none => exact ⟨_, by rw [known]; rfl⟩
  unfold ocspSigner
  rw [named]
  cases names with
  | true =>
    have designated := namesResponder_true_iff.mp named
    refine ⟨?_, ?_⟩
    · exact fun absurd => (not_uncaught_pure (some issuer) absurd).elim
    · exact fun ⟨other, _⟩ => (other designated).elim
  | false =>
    have notIssuer : ¬ Designates lib response issuer := fun designated => by
      rw [namesResponder_true_iff.mpr designated] at named
      cases named
    show Uncaught _ (response.certificates >>= fun candidates =>
      candidates.findM? (isDelegate lib now response issuer)) ↔ _
    rw [uncaught_bind]
    refine ⟨?_, ?_⟩
    · intro either
      rcases either with ⟨err, read, free⟩ | ⟨candidates, read, err, search, free⟩
      · rw [PyErr.isA_mono (attributes.certificates err read) (by simp)] at free
        cases free
      · obtain ⟨before, candidate, rest, rfl, skipped, raised⟩ := findM_error_iff.mp search
        have embedded := attributes.embedded _ read candidate (by simp)
        exact ⟨notIssuer, before, candidate, rest, read, skipped,
          (isDelegate_uncaught_iff documented issued embedded).mp ⟨err, raised, free⟩⟩
    · intro found
      obtain ⟨_, before, candidate, rest, read, skipped, unreadable⟩ := found
      have embedded := attributes.embedded _ read candidate (by simp)
      obtain ⟨err, raised, free⟩ :=
        (isDelegate_uncaught_iff documented issued embedded).mpr unreadable
      exact Or.inr ⟨_, read, err,
        findM_error_iff.mpr ⟨before, candidate, rest, rfl, skipped, raised⟩, free⟩

/-- **The signature check of a response raises nothing that is not caught.** -/
theorem not_uncaught_checkResponseSignature {response : OcspResponse} {signer : Certificate}
    (attributes : response.Documented)
    (readable : ∀ err, signer.publicKey = .error err →
      err.isA [.unsupportedAlgorithm, .valueError] = true) :
    ¬ Uncaught [.unusableRevocationData, .valueError] (checkResponseSignature lib response signer) := by
  unfold checkResponseSignature
  have raises : ∀ err, (do
      let key ← signer.publicKey
      let hash ← response.signatureHashAlgorithm
      verifySignature lib key response.signature response.tbsResponseBytes hash) = .error err →
      err.isA [.unsupportedAlgorithm, .invalidSignature, .typeError, .valueError] = true := by
    intro err checked
    rcases bind_error_iff.mp checked with failed | ⟨key, _, checked⟩
    · exact PyErr.isA_mono (readable err failed) (by simp)
    rcases bind_error_iff.mp checked with failed | ⟨hash, _, checked⟩
    · exact PyErr.isA_mono (attributes.signatureHashAlgorithm err failed) (by simp)
    unfold verifySignature at checked
    split at checked
    · exact documented.verify _ _ _ _ _ checked
    · exact documented.verify _ _ _ _ _ checked
    · exact documented.verify _ _ _ _ _ checked
    · exact documented.verify _ _ _ _ _ checked
    · cases checked
      rfl
  simp only
  split
  · exact not_uncaught_ok ()
  · rename_i err checked
    split
    · exact not_uncaught_unusable (by simp)
    · rename_i supported
      split
      · exact not_uncaught_unusable (by simp)
      · rename_i valid
        have caught := raises err checked
        rw [PyErr.isA_cons, Bool.or_eq_true] at caught
        exact (caught.elim supported valid).elim

/-- **Authenticating a response raises past the handlers exactly when looking for its signer
does.** -/
theorem authenticateOcspResponse_uncaught_iff {response : OcspResponse} {request : OcspRequest}
    {issuer other : Certificate} (issued : Issued lib other issuer)
    (attributes : response.Documented) :
    Uncaught [.unusableRevocationData, .valueError]
        (authenticateOcspResponse lib now response request issuer) ↔
      ∃ single, response.single = .ok single ∧ AnswersRequest single request ∧
        Uncaught [.unusableRevocationData, .valueError] (ocspSigner lib now response issuer) := by
  obtain ⟨key, known⟩ := documented.issuerKey _ _ issued
  unfold authenticateOcspResponse
  rw [uncaught_bind]
  refine ⟨?_, ?_⟩
  · intro either
    rcases either with ⟨err, read, free⟩ | ⟨single, read, passes⟩
    · rw [PyErr.isA_mono (attributes.single err read) (by simp)] at free
      cases free
    · split at passes
      · exact (not_uncaught_unusable (by simp) passes).elim
      rename_i same
      simp only [not_or, not_not] at same
      refine ⟨single, read, ⟨same.1, same.2.1, same.2.2⟩, ?_⟩
      rcases uncaught_bind.mp passes with passes | ⟨found, searched, passes⟩
      · exact passes
      cases found with
      | none => exact (not_uncaught_unusable (by simp) passes).elim
      | some signer =>
        have readable : ∀ err, signer.publicKey = .error err →
            err.isA [.unsupportedAlgorithm, .valueError] = true := by
          intro err unread
          obtain ⟨_, rfl | ⟨embedded, certificates, member, _⟩⟩ := ocspSigner_some searched
          · rw [known] at unread
            cases unread
          · rcases (attributes.embedded _ certificates _ member).publicKey err unread with
              value | unknown
            · exact PyErr.isA_mono value (by simp)
            · exact PyErr.isA_iff.mpr ⟨_, by simp, Or.inl unknown⟩
        exact (not_uncaught_checkResponseSignature documented attributes readable passes).elim
  · intro found
    obtain ⟨single, read, same, passes⟩ := found
    refine Or.inr ⟨single, read, ?_⟩
    have equal : ¬ (single.serialNumber ≠ request.serialNumber ∨
        single.issuerNameHash ≠ request.issuerNameHash ∨
        single.issuerKeyHash ≠ request.issuerKeyHash) := by
      simp [same.serialNumber, same.issuerNameHash, same.issuerKeyHash]
    rw [if_neg equal]
    exact uncaught_bind.mpr (Or.inl passes)

omit documented in
/-- Reading a response raises what its two handlers do not catch. -/
theorem ocspVerdict_raises_iff {request : OcspRequest} {issuer : Certificate} {raw : Bytes} :
    (∃ err, ocspVerdict lib now request issuer raw = .error err) ↔
      Uncaught [.unusableRevocationData, .valueError] (ocspAnswer lib now request issuer raw) := by
  unfold ocspVerdict
  cases ocspAnswer lib now request issuer raw with
  | ok answer => cases answer <;> simp
  | error err =>
    rw [uncaught_error, PyErr.isA_cons]
    by_cases unusable : err.isA [.unusableRevocationData] = true
    · simp [unusable]
    · by_cases unparsed : err.isA [.valueError] = true
      · simp [unusable, unparsed]
      · simp [unusable, unparsed]

/-- **Reading a response raises exactly when it is hostile or its window is unmeasurable.** -/
theorem ocspVerdict_error_iff {request : OcspRequest} {issuer other : Certificate} {raw : Bytes}
    (issued : Issued lib other issuer) :
    (∃ err, ocspVerdict lib now request issuer raw = .error err) ↔
      HostileResponse lib now request issuer raw ∨
        UnmeasurableResponse lib now request issuer raw := by
  rw [ocspVerdict_raises_iff]
  unfold ocspAnswer
  rw [uncaught_bind]
  refine ⟨?_, ?_⟩
  · intro either
    rcases either with ⟨err, failed, free⟩ | ⟨response, loaded, passes⟩
    · rw [PyErr.isA_mono (documented.loadDerOcspResponse raw err failed) (by simp)] at free
      cases free
    have attributes := documented.ocspResponse raw response loaded
    split at passes
    · exact (not_uncaught_pure _ passes).elim
    rename_i successful
    rcases uncaught_bind.mp passes with passes | ⟨_, authentic, passes⟩
    · obtain ⟨single, read, same, passes⟩ :=
        (authenticateOcspResponse_uncaught_iff documented issued attributes).mp passes
      obtain ⟨notIssuer, before, candidate, rest, certificates, skipped, unreadable⟩ :=
        (ocspSigner_uncaught_iff documented issued attributes).mp passes
      exact Or.inl ⟨response, single, before, candidate, rest, loaded, not_not.mp successful, read,
        same, notIssuer, certificates, skipped, unreadable⟩
    rcases uncaught_bind.mp passes with ⟨err, read, free⟩ | ⟨single, read, passes⟩
    · rw [PyErr.isA_mono (attributes.single err read) (by simp)] at free
      cases free
    split at passes
    · rename_i good
      rcases uncaught_bind.mp passes with passes | ⟨_, _, absurd⟩
      · exact Or.inr ⟨response, single, loaded, not_not.mp successful, authentic, read, good,
          (requireFresh_uncaught_iff (attributes.thisUpdate single · read)
            (attributes.nextUpdate single · read) (by simp) (by simp)).mp passes⟩
      · exact (not_uncaught_pure _ absurd).elim
    · exact (not_uncaught_pure _ passes).elim
  · rintro (⟨response, single, before, candidate, rest, loaded, successful, read, same, notIssuer,
      certificates, skipped, unreadable⟩ | ⟨response, single, loaded, successful, authentic, read,
      good, window⟩)
    · have attributes := documented.ocspResponse raw response loaded
      refine Or.inr ⟨response, loaded, ?_⟩
      rw [if_neg (not_not.mpr successful)]
      have signer := (ocspSigner_uncaught_iff documented issued attributes).mpr
        ⟨notIssuer, before, candidate, rest, certificates, skipped, unreadable⟩
      exact uncaught_bind.mpr (Or.inl ((authenticateOcspResponse_uncaught_iff documented issued
        attributes).mpr ⟨single, read, same, signer⟩))
    · have attributes := documented.ocspResponse raw response loaded
      refine Or.inr ⟨response, loaded, ?_⟩
      rw [if_neg (not_not.mpr successful)]
      refine uncaught_bind.mpr (Or.inr ⟨(), authentic, uncaught_bind.mpr (Or.inr ⟨single, read, ?_⟩)⟩)
      rw [if_pos good]
      exact uncaught_bind.mpr (Or.inl ((requireFresh_uncaught_iff
        (attributes.thisUpdate single · read) (attributes.nextUpdate single · read) (by simp)
        (by simp)).mpr window))

/-! #### The CRL -/

/-- Loading a CRL never raises; what it loads raises what is documented. -/
theorem loadCrl_returns (raw : Bytes) :
    ∃ loaded, loadCrl lib raw = .ok loaded ∧ ∀ crl, loaded = some crl → crl.Documented := by
  unfold loadCrl
  cases der : lib.loadDerX509Crl raw with
  | ok crl =>
    refine ⟨some crl, rfl, ?_⟩
    rintro _ ⟨⟩
    exact documented.derCrl raw crl der
  | error err =>
    rw [exceptPure_error, if_pos (documented.loadDerX509Crl raw err der)]
    cases pem : lib.loadPemX509Crl raw with
    | ok crl =>
      refine ⟨some crl, rfl, ?_⟩
      rintro _ ⟨⟩
      exact documented.pemCrl raw crl pem
    | error err =>
      show ∃ loaded, (exceptPure [.valueError] (Except.error err) >>= _) = Except.ok loaded ∧ _
      rw [exceptPure_error, if_pos (documented.loadPemX509Crl raw err pem)]
      exact ⟨none, rfl, fun _ absurd => by cases absurd⟩

/-- **Authenticating a CRL raises past the handler exactly when its extensions are repeated.** -/
theorem authenticateCrl_uncaught_iff {crl : CertificateRevocationList}
    {cert issuer other : Certificate} (issued : Issued lib other issuer)
    (attributes : crl.Documented) {isCa : Bool} (basic : Parser.isCaCertificate cert = .ok isCa) :
    Uncaught [.unusableRevocationData, .typeError, .valueError] (authenticateCrl lib crl cert issuer) ↔
      ∃ key err, crl.issuer = cert.issuer ∧ issuer.publicKey = .ok key ∧ isSigningKey key = true ∧
        lib.isSignatureValid crl key = .ok true ∧
        crl.extensions = .error err ∧ err.cls = .duplicateExtension := by
  obtain ⟨key, known⟩ := documented.issuerKey _ _ issued
  unfold authenticateCrl
  rw [known, basic]
  refine ⟨?_, ?_⟩
  · intro passes
    split at passes
    · exact (not_uncaught_unusable (by simp) passes).elim
    rename_i same
    rcases uncaught_bind.mp passes with absurd | ⟨_, loaded, passes⟩
    · exact (not_uncaught_ok key absurd).elim
    cases loaded
    split at passes
    · rename_i signing
      rcases uncaught_bind.mp passes with ⟨err, failed, free⟩ | ⟨valid, verified, passes⟩
      · rw [PyErr.isA_mono (documented.isSignatureValid crl key err failed) (by simp)] at free
        cases free
      cases valid with
      | false => exact (not_uncaught_unusable (by simp) passes).elim
      | true =>
        rcases uncaught_bind.mp passes with absurd | ⟨_, _, passes⟩
        · exact (not_uncaught_ok isCa absurd).elim
        rcases uncaught_bind.mp passes with ⟨err, read, free⟩ | ⟨extensions, _, passes⟩
        · rcases attributes.extensions err read with value | repeated
          · rw [PyErr.isA_mono value (by simp)] at free
            cases free
          · exact ⟨key, err, not_not.mp same, rfl, signing, verified, read, repeated⟩
        · exact (not_uncaught_checkExtensions (by simp) passes).elim
    · exact (not_uncaught_unusable (by simp) passes).elim
  · intro found
    obtain ⟨_, err, same, loaded, signing, verified, read, repeated⟩ := found
    cases loaded
    rw [if_neg (not_not.mpr same)]
    refine uncaught_bind.mpr (Or.inr ⟨key, rfl, ?_⟩)
    rw [if_pos signing]
    refine uncaught_bind.mpr (Or.inr ⟨true, verified, ?_⟩)
    refine uncaught_bind.mpr (Or.inr ⟨isCa, rfl, uncaught_bind.mpr (Or.inl ?_)⟩)
    exact ⟨err, read, PyErr.not_isA repeated rfl (by decide)⟩

omit documented in
/-- The extensions of an authentic CRL are readable. -/
theorem crlIsPartial_ne_error {crl : CertificateRevocationList} {cert issuer : Certificate}
    (passed : authenticateCrl lib crl cert issuer = .ok ()) (err : PyErr) :
    crlIsPartial crl ≠ .error err := by
  intro failed
  obtain ⟨_, _, _, extensions, _, read, _⟩ := authenticateCrl_ok_iff.mp passed
  unfold crlIsPartial at failed
  rw [read] at failed
  cases failed

omit documented in
/-- Judging a parsed CRL raises exactly what escapes from authenticating it, or from the window check
of one that could prove the certificate good. -/
theorem judgeCrl_error_iff {crl : CertificateRevocationList} {cert issuer : Certificate}
    (attributes : crl.Documented) :
    (∃ err, judgeCrl lib now cert issuer crl = .error err) ↔
      Uncaught [.unusableRevocationData, .typeError, .valueError]
          (authenticateCrl lib crl cert issuer) ∨
        AuthenticCrl lib crl cert issuer ∧ Complete crl ∧
          (∀ entry ∈ crl.entries, entry.serialNumber ≠ cert.serialNumber) ∧
          Unmeasurable now crl.lastUpdate crl.nextUpdate := by
  have window : Uncaught [.unusableRevocationData] (requireFreshCrl now crl) ↔
      Unmeasurable now crl.lastUpdate crl.nextUpdate :=
    requireFresh_uncaught_iff attributes.lastUpdate attributes.nextUpdate (by simp) (by simp)
  rw [← uncaught_nil]
  unfold judgeCrl
  rw [uncaught_except_bind]
  refine ⟨?_, ?_⟩
  · intro either
    rcases either with ⟨err, failed, passes⟩ | ⟨isPartial, read, passes⟩
    · rcases bind_error_iff.mp failed with failed | ⟨_, passed, failed⟩
      · split at passes
        · exact (not_uncaught_pure _ passes).elim
        · rename_i free
          exact Or.inl ⟨err, failed, Bool.eq_false_iff.mpr free⟩
      · exact (crlIsPartial_ne_error passed err failed).elim
    · simp only at passes
      split at passes
      · exact (not_uncaught_pure _ passes).elim
      rename_i silent
      split at passes
      · exact (not_uncaught_pure _ passes).elim
      rename_i isComplete
      rw [Bool.not_eq_true] at isComplete
      subst isComplete
      obtain ⟨_, passed, limits⟩ := bind_ok_iff.mp read
      rcases uncaught_except_bind.mp passes with ⟨err, failed, passes⟩ | ⟨_, _, absurd⟩
      · split at passes
        · exact (not_uncaught_pure _ passes).elim
        · rename_i free
          exact Or.inr ⟨authenticateCrl_ok_iff.mp passed, crlIsPartial_false_iff.mp limits,
            revokedBySerial_eq_none_iff.mp silent,
            window.mp ⟨err, failed, Bool.eq_false_iff.mpr free⟩⟩
      · exact (not_uncaught_pure _ absurd).elim
  · rintro (⟨err, failed, free⟩ | ⟨passed, complete, silent, unmeasurable⟩)
    · refine Or.inl ⟨err, bind_error_iff.mpr (Or.inl failed), ?_⟩
      rw [free]
      exact rfl
    · obtain ⟨err, failed, free⟩ := window.mpr unmeasurable
      have examined : (do
          authenticateCrl lib crl cert issuer
          crlIsPartial crl) = .ok false :=
        bind_ok_iff.mpr ⟨(), authenticateCrl_ok_iff.mpr passed, crlIsPartial_false_iff.mpr complete⟩
      refine Or.inr ⟨false, examined, ?_⟩
      simp only [revokedBySerial_eq_none_iff.mpr silent, Bool.false_eq_true, if_false]
      refine uncaught_except_bind.mpr (Or.inl ⟨err, failed, ?_⟩)
      rw [free]
      exact rfl

/-- **Judging a CRL raises exactly when it is hostile or its window is unmeasurable.** -/
theorem crlVerdict_error_iff {cert issuer other : Certificate} {raw : Bytes}
    (issued : Issued lib other issuer) {isCa : Bool}
    (basic : Parser.isCaCertificate cert = .ok isCa) :
    (∃ err, crlVerdict lib now cert issuer raw = .error err) ↔
      HostileCrl lib cert issuer raw ∨ UnmeasurableCrl lib now cert issuer raw := by
  obtain ⟨loaded, load, attributes⟩ := loadCrl_returns documented raw
  cases loaded with
  | none =>
    have none : crlVerdict lib now cert issuer raw = .ok none := by
      unfold crlVerdict
      rw [load]
      rfl
    rw [none]
    refine ⟨?_, ?_⟩
    · exact fun ⟨_, absurd⟩ => by cases absurd
    · rintro (⟨_, _, _, absurd, _⟩ | ⟨_, absurd, _⟩) <;> rw [load] at absurd <;> cases absurd
  | some crl =>
    rw [crlVerdict_loaded load, judgeCrl_error_iff (attributes crl rfl),
      authenticateCrl_uncaught_iff documented issued (attributes crl rfl) basic]
    refine or_congr ⟨?_, ?_⟩ ⟨fun window => ⟨crl, load, window⟩, ?_⟩
    · intro found
      obtain ⟨key, raised, hostile⟩ := found
      exact ⟨crl, key, raised, load, hostile⟩
    · intro found
      obtain ⟨other, key, raised, loadOther, hostile⟩ := found
      rw [load] at loadOther
      cases loadOther
      exact ⟨key, raised, hostile⟩
    · intro found
      obtain ⟨other, loadOther, window⟩ := found
      rw [load] at loadOther
      cases loadOther
      exact window

end Documented

end Checks

/-! ### What the whole check raises -/

section Network

variable {lib : Cryptography} {σ : Type} {web : Web σ} {now : Instant} {cert : Certificate}
variable {u : σ} (documented : lib.Documented)
include documented

/-- One CA Issuers location raises exactly when it is hostile. -/
theorem tryIssuer_raises_iff {url : PyValue} :
    Raises (tryIssuer lib web cert url) u ↔ HostileLocation lib web cert url u := by
  unfold tryIssuer
  rw [raises_except_bind]
  refine ⟨?_, ?_⟩
  · intro either
    rcases either with ⟨err, t, failed, handler⟩ | ⟨candidate, t, loaded, raises⟩
    · refine Or.inl ?_
      rintro text rfl
      have caught : err.isA [.osError, .valueError] = true := by
        rcases run_bind_error_iff.mp failed with failed | ⟨raw, v, _, failed⟩
        · exact fetch_text_error failed
        · obtain ⟨refused, _⟩ := run_orRaise_error_iff.mp failed
          exact PyErr.isA_mono (documented.loadDerX509Certificate raw err refused) (by simp)
      exact not_raises_pure _ (handler caught)
    · obtain ⟨raw, v, fetched, loaded⟩ := run_bind_ok_iff.mp loaded
      obtain ⟨parsed, rfl⟩ := run_orRaise_ok_iff.mp loaded
      refine Or.inr ⟨raw, v, candidate, fetched, parsed, ?_⟩
      rcases raises_bind.mp raises with raises | ⟨signed, _, _, absurd⟩
      · exact (signedBy_uncaught_iff documented (by decide)).mp
          ((uncaught_nil _).mpr (raises_orRaise.mp raises))
      · exact (not_raises_pure _ absurd).elim
  · intro either
    rcases either with notText | ⟨raw, t, candidate, fetched, loaded, unknown⟩
    · obtain ⟨err, failed, free⟩ : ∃ err, fetch web url none u = .error err u ∧
          err.isA [.osError, .valueError] = false := fetch_notText notText
      refine Or.inl ⟨err, u, run_bind_error_iff.mpr (Or.inl failed), fun caught => ?_⟩
      rw [free] at caught
      cases caught
    · refine Or.inr ⟨candidate, t, run_bind_ok_iff.mpr ⟨raw, t, fetched, ?_⟩, ?_⟩
      · exact run_orRaise_ok_iff.mpr ⟨loaded, rfl⟩
      · have raises : Uncaught [] (signedBy lib cert candidate) :=
          (signedBy_uncaught_iff documented (by decide)).mpr unknown
        exact raises_bind.mpr (Or.inl (raises_orRaise.mpr ((uncaught_nil _).mp raises)))

/-- Downloading the issuer raises exactly when it reaches a hostile location. -/
theorem fetchIssuer_raises_iff {ocsp issuers : List PyValue}
    (urls : Parser.aiaUrls cert = .ok (ocsp, issuers)) :
    Raises (fetchIssuer lib web cert) u ↔
      ∃ tried url rest v, issuers = tried ++ url :: rest ∧
        Skips (tryIssuer lib web cert) tried u v ∧ HostileLocation lib web cert url v := by
  unfold fetchIssuer
  rw [urls]
  show Raises (firstHit (tryIssuer lib web cert) issuers) u ↔ _
  rw [raises_firstHit]
  simp only [tryIssuer_raises_iff documented]

/-- Choosing the issuer raises on an unknown key type, or when the download does. -/
theorem anchor_raises_iff {issuer : Option Certificate} :
    Raises (anchor lib web cert issuer) u ↔
      (∃ ca, issuer = some ca ∧ UnknownKey lib cert ca) ∨
        ((∀ ca, issuer = some ca → signedBy lib cert ca = .ok false) ∧
          Raises (fetchIssuer lib web cert) u) := by
  cases issuer with
  | none => simp [anchor]
  | some ca =>
    have unknown : UnknownKey lib cert ca ↔ ∃ err, signedBy lib cert ca = .error err :=
      (signedBy_uncaught_iff documented (List.not_mem_nil)).symm.trans (uncaught_nil _)
    show Raises (orRaise (signedBy lib cert ca) >>= _) u ↔ _
    rw [raises_bind, raises_orRaise, ← unknown]
    refine ⟨?_, ?_⟩
    · intro either
      rcases either with key | ⟨signed, v, checked, raises⟩
      · exact Or.inl ⟨ca, rfl, key⟩
      · obtain ⟨answered, rfl⟩ := run_orRaise_ok_iff.mp checked
        cases signed with
        | true => exact (not_raises_pure _ raises).elim
        | false =>
          refine Or.inr ⟨?_, raises⟩
          rintro _ ⟨⟩
          exact answered
    · intro either
      rcases either with ⟨_, ⟨⟩, key⟩ | ⟨other, raises⟩
      · exact Or.inl key
      · exact Or.inr ⟨false, u, run_orRaise_ok_iff.mpr ⟨other ca rfl, rfl⟩, raises⟩

/-- The OCSP check raises when the location is not text, or the response is hostile or its window
unmeasurable. -/
theorem checkOcsp_raises_iff {ca : Certificate} {ocsp issuers : List PyValue}
    (urls : Parser.aiaUrls cert = .ok (ocsp, issuers)) (issued : Issued lib cert ca) :
    Raises (checkOcsp lib web now cert (some ca)) u ↔
      ∃ url rest, ocsp = url :: rest ∧ (NotText url ∨ ∃ raw t,
        fetch web url (some (lib.ocspRequest cert ca).der) u = .ok raw t ∧
        (HostileResponse lib now (lib.ocspRequest cert ca) ca raw ∨
          UnmeasurableResponse lib now (lib.ocspRequest cert ca) ca raw)) := by
  unfold checkOcsp
  rw [urls]
  cases ocsp with
  | nil =>
    refine ⟨?_, ?_⟩
    · exact fun absurd => (not_raises_pure _ absurd).elim
    · intro found
      obtain ⟨_, _, absurd, _⟩ := found
      cases absurd
  | cons url rest =>
    show Raises (except [.osError, .valueError]
      (fetch web url (some (lib.ocspRequest cert ca).der)) >>= _) u ↔ _
    rw [raises_except_bind]
    refine ⟨?_, ?_⟩
    · intro either
      rcases either with ⟨err, t, failed, handler⟩ | ⟨raw, t, fetched, raises⟩
      · refine ⟨url, rest, rfl, Or.inl ?_⟩
        rintro text rfl
        exact not_raises_pure _ (handler (fetch_text_error failed))
      · exact ⟨url, rest, rfl, Or.inr ⟨raw, t, fetched,
          (ocspVerdict_error_iff documented issued).mp (raises_orRaise.mp raises)⟩⟩
    · intro found
      obtain ⟨_, _, ⟨⟩, notText | ⟨raw, t, fetched, hostile⟩⟩ := found
      · obtain ⟨err, failed, free⟩ : ∃ err,
            fetch web url (some (lib.ocspRequest cert ca).der) u = .error err u ∧
              err.isA [.osError, .valueError] = false := fetch_notText notText
        refine Or.inl ⟨err, u, failed, fun caught => ?_⟩
        rw [free] at caught
        cases caught
      · exact Or.inr ⟨raw, t, fetched,
          raises_orRaise.mpr ((ocspVerdict_error_iff documented issued).mpr hostile)⟩

/-- One distribution point raises exactly when it serves a hostile CRL or one with an unmeasurable
window. -/
theorem tryCrl_raises_iff {ca : Certificate} {url : String} (issued : Issued lib cert ca)
    {isCa : Bool} (basic : Parser.isCaCertificate cert = .ok isCa) :
    Raises (tryCrl lib web now cert ca url) u ↔
      ∃ raw t, fetch web (.str url) none u = .ok raw t ∧
        (HostileCrl lib cert ca raw ∨ UnmeasurableCrl lib now cert ca raw) := by
  unfold tryCrl
  rw [raises_except_bind]
  refine ⟨?_, ?_⟩
  · intro either
    rcases either with ⟨err, t, failed, handler⟩ | ⟨raw, t, fetched, raises⟩
    · exact (not_raises_pure _ (handler (fetch_text_error failed))).elim
    · exact ⟨raw, t, fetched,
        (crlVerdict_error_iff documented issued basic).mp (raises_orRaise.mp raises)⟩
  · intro found
    obtain ⟨raw, t, fetched, hostile⟩ := found
    exact Or.inr ⟨raw, t, fetched,
      raises_orRaise.mpr ((crlVerdict_error_iff documented issued basic).mpr hostile)⟩

/-- The CRL check raises exactly when its loop reaches a hostile CRL or one with an unmeasurable
window. -/
theorem checkCrl_raises_iff {ca : Certificate} {urls : List String}
    (points : crlUrls cert = .ok urls) (issued : Issued lib cert ca) {isCa : Bool}
    (basic : Parser.isCaCertificate cert = .ok isCa) :
    Raises (checkCrl lib web now cert (some ca)) u ↔
      ∃ tried url rest v, urls = tried ++ url :: rest ∧
        Skips (tryCrl lib web now cert ca) tried u v ∧
        ∃ raw t, fetch web (.str url) none v = .ok raw t ∧
          (HostileCrl lib cert ca raw ∨ UnmeasurableCrl lib now cert ca raw) := by
  have loop : Raises (checkCrl lib web now cert (some ca)) u ↔
      Raises (firstHit (tryCrl lib web now cert ca) urls) u := by
    cases urls with
    | nil =>
      unfold checkCrl
      rw [points]
      exact ⟨fun absurd => (not_raises_pure _ absurd).elim, fun absurd => (not_raises_pure _ absurd).elim⟩
    | cons url rest =>
      rw [checkCrl_listed points]
      unfold firstHitOr
      rw [raises_bind]
      refine ⟨?_, Or.inl⟩
      intro either
      rcases either with raises | ⟨answer, _, _, absurd⟩
      · exact raises
      · cases answer <;> exact (not_raises_pure _ absurd).elim
  rw [loop, raises_firstHit]
  simp only [tryCrl_raises_iff documented issued basic]

end Network

/-! ### The whole check -/

section Check

variable {lib : Cryptography} {σ : Type} {web : Web σ} {now : Instant} {cert : Certificate}

/-- What the checks read off a certificate with readable extensions. -/
theorem readable_extensions {extensions : List Extension}
    (readable : cert.extensions = .ok extensions) :
    ∃ ocsp issuers urls isCa, Parser.aiaUrls cert = .ok (ocsp, issuers) ∧
      crlUrls cert = .ok urls ∧ Parser.isCaCertificate cert = .ok isCa := by
  have read : ∀ {α : Type} (pick : ExtensionValue → Option α),
      ∃ found, findExtension pick cert.extensions = .ok found := by
    intro α pick
    rw [readable]
    exact ⟨_, rfl⟩
  obtain ⟨aia, aiaRead⟩ := read ExtensionValue.authorityInformationAccess?
  obtain ⟨points, pointsRead⟩ := read ExtensionValue.crlDistributionPoints?
  obtain ⟨basic, basicRead⟩ := read ExtensionValue.basicConstraints?
  have urls : ∃ urls, Parser.aiaUrls cert = .ok urls := by
    unfold Parser.aiaUrls
    rw [aiaRead]
    cases aia <;> exact ⟨_, rfl⟩
  have crls : ∃ urls, crlUrls cert = .ok urls := by
    unfold crlUrls
    rw [pointsRead]
    cases points <;> exact ⟨_, rfl⟩
  have flag : ∃ isCa, Parser.isCaCertificate cert = .ok isCa := by
    unfold Parser.isCaCertificate
    rw [basicRead]
    cases basic <;> exact ⟨_, rfl⟩
  obtain ⟨⟨ocsp, issuers⟩, aia⟩ := urls
  obtain ⟨urls, crls⟩ := crls
  obtain ⟨isCa, flag⟩ := flag
  exact ⟨ocsp, issuers, urls, isCa, aia, crls, flag⟩

/-- Without an issuer the OCSP check raises nothing. -/
theorem not_raises_checkOcsp_none {ocsp issuers : List PyValue} {u : σ}
    (urls : Parser.aiaUrls cert = .ok (ocsp, issuers)) :
    ¬ Raises (checkOcsp lib web now cert none) u := by
  unfold checkOcsp
  rw [urls]
  cases ocsp <;> exact not_raises_pure _

/-- Without an issuer the CRL check raises nothing. -/
theorem not_raises_checkCrl_none {urls : List String} {u : σ}
    (points : crlUrls cert = .ok urls) : ¬ Raises (checkCrl lib web now cert none) u := by
  unfold checkCrl
  rw [points]
  cases urls <;> exact not_raises_pure _

/-- **What escapes from `check_revocation`**: exactly the seven kinds of `Escapes`. -/
theorem checkRevocation_raises (documented : lib.Documented) {extensions : List Extension}
    (readable : cert.extensions = .ok extensions) (issuer : Option Certificate) (s : σ) :
    Raises (checkRevocation lib web now cert issuer) s ↔ Escapes lib web now cert issuer s := by
  obtain ⟨ocsp, issuers, urls, isCa, aia, points, basic⟩ := readable_extensions readable
  unfold checkRevocation
  rw [raises_bind, anchor_raises_iff documented, fetchIssuer_raises_iff documented aia]
  refine ⟨?_, ?_⟩
  · rintro ((⟨ca, given, unknown⟩ | ⟨other, tried, url, rest, v, rfl, skipped, hostile⟩) |
      ⟨found, u, anchored, raises⟩)
    · exact .issuerKey given unknown
    · exact .issuerLocation other aia skipped hostile
    cases found with
    | none =>
      rcases raises_bind.mp raises with absurd | ⟨verdict, v, _, raises⟩
      · exact (not_raises_checkOcsp_none aia absurd).elim
      · split at raises
        · exact (not_raises_pure _ raises).elim
        rcases raises_bind.mp raises with absurd | ⟨crl, _, _, absurd⟩
        · exact (not_raises_checkCrl_none points absurd).elim
        · split at absurd <;> exact (not_raises_pure _ absurd).elim
    | some ca =>
      have issued : Issued lib cert ca := outcome_ok (anchor_issued issuer) anchored ca rfl
      rcases raises_bind.mp raises with raises | ⟨verdict, v, answered, raises⟩
      · obtain ⟨url, rest, rfl, notText | ⟨raw, t, fetched, hostile | window⟩⟩ :=
          (checkOcsp_raises_iff documented aia issued).mp raises
        · exact .ocspLocation anchored aia notText
        · exact .ocspResponse anchored aia fetched hostile
        · exact .ocspWindow anchored aia fetched window
      · split at raises
        · exact (not_raises_pure _ raises).elim
        rename_i unavailable
        rcases raises_bind.mp raises with raises | ⟨crl, _, _, absurd⟩
        · obtain ⟨tried, url, rest, w, rfl, skipped, raw, t, fetched, hostile | window⟩ :=
            (checkCrl_raises_iff documented points issued basic).mp raises
          · exact .crl anchored answered (not_not.mp unavailable) points skipped fetched hostile
          · exact .crlWindow anchored answered (not_not.mp unavailable) points skipped fetched window
        · split at absurd <;> exact (not_raises_pure _ absurd).elim
  · intro escapes
    cases escapes with
    | issuerKey given unknown => exact Or.inl (Or.inl ⟨_, given, unknown⟩)
    | issuerLocation other read skipped hostile =>
      rw [aia] at read
      cases read
      exact Or.inl (Or.inr ⟨other, _, _, _, _, rfl, skipped, hostile⟩)
    | ocspLocation anchored read notText =>
      rw [aia] at read
      cases read
      have issued := outcome_ok (anchor_issued issuer) anchored _ rfl
      refine Or.inr ⟨_, _, anchored, raises_bind.mpr (Or.inl ?_)⟩
      exact (checkOcsp_raises_iff documented aia issued).mpr ⟨_, _, rfl, Or.inl notText⟩
    | ocspResponse anchored read fetched hostile =>
      rw [aia] at read
      cases read
      have issued := outcome_ok (anchor_issued issuer) anchored _ rfl
      refine Or.inr ⟨_, _, anchored, raises_bind.mpr (Or.inl ?_)⟩
      exact (checkOcsp_raises_iff documented aia issued).mpr
        ⟨_, _, rfl, Or.inr ⟨_, _, fetched, Or.inl hostile⟩⟩
    | crl anchored answered unavailable read skipped fetched hostile =>
      rw [points] at read
      cases read
      have issued := outcome_ok (anchor_issued issuer) anchored _ rfl
      refine Or.inr ⟨_, _, anchored, raises_bind.mpr (Or.inr ⟨_, _, answered, ?_⟩)⟩
      rw [if_neg (not_not.mpr unavailable)]
      refine raises_bind.mpr (Or.inl ?_)
      exact (checkCrl_raises_iff documented points issued basic).mpr
        ⟨_, _, _, _, rfl, skipped, _, _, fetched, Or.inl hostile⟩
    | ocspWindow anchored read fetched window =>
      rw [aia] at read
      cases read
      have issued := outcome_ok (anchor_issued issuer) anchored _ rfl
      refine Or.inr ⟨_, _, anchored, raises_bind.mpr (Or.inl ?_)⟩
      exact (checkOcsp_raises_iff documented aia issued).mpr
        ⟨_, _, rfl, Or.inr ⟨_, _, fetched, Or.inr window⟩⟩
    | crlWindow anchored answered unavailable read skipped fetched window =>
      rw [points] at read
      cases read
      have issued := outcome_ok (anchor_issued issuer) anchored _ rfl
      refine Or.inr ⟨_, _, anchored, raises_bind.mpr (Or.inr ⟨_, _, answered, ?_⟩)⟩
      rw [if_neg (not_not.mpr unavailable)]
      refine raises_bind.mpr (Or.inl ?_)
      exact (checkCrl_raises_iff documented points issued basic).mpr
        ⟨_, _, _, _, rfl, skipped, _, _, fetched, Or.inr window⟩

/-- **`check_revocation` returns exactly when nothing escapes.** -/
theorem checkRevocation_returns_iff (documented : lib.Documented) {extensions : List Extension}
    (readable : cert.extensions = .ok extensions) (issuer : Option Certificate) (s : σ) :
    (∃ verdict t, checkRevocation lib web now cert issuer s = .ok verdict t) ↔
      ¬ Escapes lib web now cert issuer s :=
  not_raises_iff.symm.trans (not_congr (checkRevocation_raises documented readable issuer s))

end Check

/-! ### A certificate whose OCSP location is a directory name -/

/-- The package on the encodings of the sample authority raises what is documented. -/
theorem samplePackage_documented {crl : CertificateRevocationList} (attributes : crl.Documented) :
    (samplePackage crl).Documented where
  loadDerX509Certificate raw err failed := by
    simp only [samplePackage] at failed
    split at failed <;> cases failed
    rfl
  loadDerX509Crl raw err failed := by
    simp only [samplePackage] at failed
    split at failed <;> cases failed
    rfl
  loadPemX509Crl raw err failed := by
    cases failed
    rfl
  loadDerOcspResponse raw err failed := by
    cases failed
    rfl
  derCrl raw loaded load := by
    simp only [samplePackage] at load
    split at load <;> cases load
    exact attributes
  pemCrl raw loaded absurd := by cases absurd
  ocspResponse raw response absurd := by cases absurd
  verifyDirectlyIssuedBy cert issuer err failed := by
    simp only [samplePackage] at failed
    split at failed
    · cases failed
      exact Or.inl rfl
    split at failed
    · rename_i raised unknown
      cases failed
      exact Or.inr ⟨rfl, fun key known => by rw [unknown] at known; cases known⟩
    · split at failed <;> cases failed
      exact Or.inl rfl
  issuerKey cert issuer issued := by
    simp only [samplePackage] at issued
    split at issued
    · cases issued
    split at issued
    · cases issued
    · rename_i key known
      exact ⟨key, known⟩
  verify key scheme signature data err failed := by
    cases failed
    rfl
  isSignatureValid crl key err absurd := by cases absurd

theorem sampleCrl_documented (extensions : List Extension) (entries : List RevokedCertificate) :
    (sampleCrl extensions entries).Documented :=
  ⟨fun _ absurd => (by cases absurd), fun _ absurd => (by cases absurd),
    fun _ absurd => (by cases absurd)⟩

/-- An AIA extension whose OCSP responder is located by a directory name. -/
def sampleDirectoryResponder : Extension :=
  ⟨"1.3.6.1.5.5.7.1.1", false,
    .authorityInformationAccess [⟨Parser.ocspOid, .directoryName (sampleName "responder")⟩]⟩

theorem checkRevocation_returns_iff_sample :
    (∃ verdict t, checkRevocation (samplePackage (sampleCrl [] [])) (sampleWeb (ascii "crl"))
      Instant.day (sampleLeaf [sampleDirectoryResponder]) (some sampleCa) () = .ok verdict t) ↔
      ¬ Escapes (samplePackage (sampleCrl [] [])) (sampleWeb (ascii "crl")) Instant.day
        (sampleLeaf [sampleDirectoryResponder]) (some sampleCa) () :=
  checkRevocation_returns_iff (samplePackage_documented (sampleCrl_documented [] [])) rfl
    (some sampleCa) ()

/-- With the right issuer at hand, a directory name as OCSP location is an `AttributeError`. -/
theorem checkRevocation_returns_counterexample :
    ¬ ∃ verdict t, checkRevocation (samplePackage (sampleCrl [] [])) (sampleWeb (ascii "crl"))
      Instant.day (sampleLeaf [sampleDirectoryResponder]) (some sampleCa) () = .ok verdict t := by
  intro found
  obtain ⟨verdict, t, returned⟩ := found
  have raised : checkRevocation (samplePackage (sampleCrl [] [])) (sampleWeb (ascii "crl"))
      Instant.day (sampleLeaf [sampleDirectoryResponder]) (some sampleCa) () =
        .error ⟨.attributeError, "'Name' object has no attribute 'lower'"⟩ () := rfl
  rw [raised] at returned
  cases returned

end Certinspect.Revocation
