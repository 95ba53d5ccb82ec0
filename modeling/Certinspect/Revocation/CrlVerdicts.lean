/-
**Several CRLs and one verdict — the loop of `_check_crl`.**

A certificate may name several distribution points. `_check_crl` tries them in order; a CRL that it
cannot use is passed over, but one that is outside its validity window ends the loop, and one whose
window cannot be compared with the clock raises out of it.

* `Judgement` — everything that judging one CRL can end with (`judgeCrl_judgement`).
* `Settles`, `Blocks` — the downloads that give a verdict, GOOD or REVOKED, and those that stop the
  loop without one; any other is passed over (`crlVerdict_decides_iff`, `crlVerdict_none_iff`).
* `FirstVerdictWins` — the first URL with a verdict of its own decides, where `verdictOf` a URL is
  what `_check_crl` returns on it alone.
* **`checkCrl_first_iff`** — the first verdict wins exactly when no URL before it serves a download
  that blocks (`Hides`).
* **`checkCrl_revokes_iff`** — REVOKED comes from an entry that revokes exactly when the CRL does not
  list the certificate only to remove it.
-/

import Certinspect.Revocation.SoftFail

namespace Certinspect.Revocation

open Library

/-! ### Judging one CRL -/

section Judging

variable (lib : Cryptography) (now : Instant) (cert issuer : Certificate)
  (crl : CertificateRevocationList)

/-- The exceptions of the examination that make `_check_crl` pass over a CRL. -/
def passedOver : List ExcClass := [.unusableRevocationData, .typeError, .valueError]

/-- The examination of a CRL, which gives whether it is partial. -/
def examineCrl : Except PyErr Bool := do
  authenticateCrl lib crl cert issuer
  crlIsPartial crl

/-- What judging a CRL can end with. -/
inductive Judgement : Except PyErr (Option Verdict) → Prop
  /-- The CRL does not pass the examination. -/
  | refused {err : PyErr} : examineCrl lib cert issuer crl = .error err →
      err.isA passedOver = true → Judgement (.ok none)
  /-- The examination raises past its handler. -/
  | escaped {err : PyErr} : examineCrl lib cert issuer crl = .error err →
      err.isA passedOver = false → Judgement (.error err)
  /-- The CRL has an entry for the serial. -/
  | listed {isPartial : Bool} {entry : RevokedCertificate} :
      examineCrl lib cert issuer crl = .ok isPartial →
      crl.revokedBySerial cert.serialNumber = some entry →
      Judgement (.ok (some (.revoked, some s!"{revokedDetail entry.revocationDate} (via CRL)")))
  /-- The CRL is partial and silent. -/
  | partialSilence : examineCrl lib cert issuer crl = .ok true →
      crl.revokedBySerial cert.serialNumber = none → Judgement (.ok none)
  /-- The CRL is complete and silent, and outside its window. -/
  | untimely {err : PyErr} : examineCrl lib cert issuer crl = .ok false →
      crl.revokedBySerial cert.serialNumber = none → requireFreshCrl now crl = .error err →
      err.isA [.unusableRevocationData] = true →
      Judgement (.ok (some (.unavailable, some err.message)))
  /-- The CRL is complete and silent, and its window raises past its handler. -/
  | timeless {err : PyErr} : examineCrl lib cert issuer crl = .ok false →
      crl.revokedBySerial cert.serialNumber = none → requireFreshCrl now crl = .error err →
      err.isA [.unusableRevocationData] = false → Judgement (.error err)
  /-- The CRL is complete, silent and within its window. -/
  | good : examineCrl lib cert issuer crl = .ok false →
      crl.revokedBySerial cert.serialNumber = none → requireFreshCrl now crl = .ok () →
      Judgement (.ok (some (.good, some "via CRL")))

variable {lib now cert issuer crl}

/-- **Judging a CRL ends in one of these ways.** -/
theorem judgeCrl_judgement :
    Judgement lib now cert issuer crl (judgeCrl lib now cert issuer crl) := by
  have folded : (do
      authenticateCrl lib crl cert issuer
      crlIsPartial crl) = examineCrl lib cert issuer crl := rfl
  unfold judgeCrl
  rw [folded]
  cases examined : examineCrl lib cert issuer crl with
  | error err =>
    rw [exceptPure_error]
    by_cases handled : err.isA passedOver = true
    · have taken : err.isA [.unusableRevocationData, .typeError, .valueError] = true := handled
      rw [if_pos taken]
      exact .refused examined handled
    · have passes : ¬ err.isA [.unusableRevocationData, .typeError, .valueError] = true := handled
      rw [if_neg passes]
      exact .escaped examined (Bool.eq_false_iff.mpr handled)
  | ok isPartial =>
    rw [exceptPure_ok]
    dsimp only [bind, Except.bind]
    cases found : crl.revokedBySerial cert.serialNumber with
    | some entry => exact .listed examined found
    | none =>
      cases isPartial with
      | true => exact .partialSilence examined found
      | false =>
        cases window : requireFreshCrl now crl with
        | ok _ => exact .good examined found window
        | error err =>
          rw [exceptPure_error]
          by_cases handled : err.isA [.unusableRevocationData] = true
          · rw [if_pos handled]
            exact .untimely examined found window handled
          · rw [if_neg handled]
            exact .timeless examined found window (Bool.eq_false_iff.mpr handled)

/-- What the examination of a CRL without an entry for the serial establishes. -/
theorem examineCrl_complete_iff :
    examineCrl lib cert issuer crl = .ok false ↔ AuthenticCrl lib crl cert issuer ∧ Complete crl := by
  unfold examineCrl
  rw [bind_ok_iff, ← authenticateCrl_ok_iff, ← crlIsPartial_false_iff]
  exact ⟨fun ⟨_, passed, limits⟩ => ⟨passed, limits⟩, fun ⟨passed, limits⟩ => ⟨(), passed, limits⟩⟩

/-- An authentic CRL passes the examination. -/
theorem examineCrl_authentic (authentic : AuthenticCrl lib crl cert issuer) :
    ∃ isPartial, examineCrl lib cert issuer crl = .ok isPartial := by
  obtain ⟨_, extensions, _, read, _⟩ := authentic.covers
  refine ⟨extensions.any limitsCrl, bind_ok_iff.mpr ⟨(), authenticateCrl_ok_iff.mpr authentic, ?_⟩⟩
  unfold crlIsPartial
  rw [read]
  rfl

/-- An authentic CRL that lists the certificate makes it REVOKED. -/
theorem judgeCrl_listed {entry : RevokedCertificate} (authentic : AuthenticCrl lib crl cert issuer)
    (found : crl.revokedBySerial cert.serialNumber = some entry) :
    judgeCrl lib now cert issuer crl =
      .ok (some (.revoked, some s!"{revokedDetail entry.revocationDate} (via CRL)")) := by
  obtain ⟨isPartial, examined⟩ := examineCrl_authentic authentic
  generalize judged : judgeCrl lib now cert issuer crl = outcome
  have ends : Judgement lib now cert issuer crl outcome := judged ▸ judgeCrl_judgement
  cases ends with
  | refused failed => rw [examined] at failed; cases failed
  | escaped failed => rw [examined] at failed; cases failed
  | listed _ same => rw [found] at same; cases same; rfl
  | partialSilence _ silent => rw [found] at silent; cases silent
  | untimely _ silent => rw [found] at silent; cases silent
  | timeless _ silent => rw [found] at silent; cases silent
  | good _ silent => rw [found] at silent; cases silent

end Judging

/-! ### What a download does to the loop -/

section Downloads

variable (lib : Cryptography) (now : Instant) (cert ca : Certificate) (raw : Bytes)

/-- The verdicts GOOD and REVOKED. -/
def Decides (verdict : Verdict) : Prop := verdict.1 = .good ∨ verdict.1 = .revoked

/-- A download that gives a verdict: an authentic CRL that lists the certificate, or one that proves
it good. -/
inductive Settles : Prop
  | revoked {crl : CertificateRevocationList} {entry : RevokedCertificate} :
      loadCrl lib raw = .ok (some crl) → AuthenticCrl lib crl cert ca → entry ∈ crl.entries →
      entry.serialNumber = cert.serialNumber → Settles
  | good {crl : CertificateRevocationList} : loadCrl lib raw = .ok (some crl) →
      ProvesGood lib now crl cert ca → Settles

/-- A download that stops the loop without a verdict: one that raises past the handlers when it is
loaded or examined, or a CRL of the issuer, complete and without the certificate, that is outside
its validity window or whose window check overflows. -/
inductive Blocks : Prop
  | unloadable {err : PyErr} : loadCrl lib raw = .error err → Blocks
  | escaping {crl : CertificateRevocationList} : loadCrl lib raw = .ok (some crl) →
      Uncaught passedOver (examineCrl lib cert ca crl) → Blocks
  | untimely {crl : CertificateRevocationList} {err : PyErr} : loadCrl lib raw = .ok (some crl) →
      AuthenticCrl lib crl cert ca → Complete crl →
      (∀ entry ∈ crl.entries, entry.serialNumber ≠ cert.serialNumber) →
      requireFreshCrl now crl = .error err → Blocks

variable {lib now cert ca raw}

/-- **The downloads that settle are the ones with a verdict.** -/
theorem crlVerdict_decides_iff :
    (∃ verdict, crlVerdict lib now cert ca raw = .ok (some verdict) ∧ Decides verdict) ↔
      Settles lib now cert ca raw := by
  refine ⟨?_, ?_⟩
  · intro found
    obtain ⟨verdict, answered, decided⟩ := found
    unfold crlVerdict at answered
    rw [bind_ok_iff] at answered
    obtain ⟨crl, loaded, answered⟩ := answered
    cases crl with
    | none => cases answered
    | some crl =>
      rcases judgeCrl_cases answered with ⟨authentic, _, entry, listed⟩ | unavailable | ⟨proves, _⟩
      · obtain ⟨member, serial⟩ := revokedBySerial_some listed
        exact .revoked loaded authentic member serial
      · rcases decided with absurd | absurd <;> rw [unavailable] at absurd <;> cases absurd
      · exact .good loaded proves
  · intro settles
    cases settles with
    | @revoked crl entry loaded authentic member serial =>
      cases listed : crl.revokedBySerial cert.serialNumber with
      | none => exact (revokedBySerial_eq_none_iff.mp listed entry member serial).elim
      | some first =>
        rw [crlVerdict_loaded loaded, judgeCrl_listed authentic listed]
        exact ⟨_, rfl, Or.inr rfl⟩
    | good loaded proves =>
      rw [crlVerdict_loaded loaded, judgeCrl_good proves]
      exact ⟨_, rfl, Or.inl rfl⟩

/-- A download that does not block is passed over, or has a verdict. -/
theorem crlVerdict_of_not_blocks (free : ¬ Blocks lib now cert ca raw) :
    crlVerdict lib now cert ca raw = .ok none ∨
      ∃ verdict, crlVerdict lib now cert ca raw = .ok (some verdict) ∧ Decides verdict := by
  cases loaded : loadCrl lib raw with
  | error err => exact (free (.unloadable loaded)).elim
  | ok found =>
    cases found with
    | none =>
      refine Or.inl ?_
      unfold crlVerdict
      rw [loaded]
      rfl
    | some crl =>
      rw [crlVerdict_loaded loaded]
      have current {err : PyErr} (examined : examineCrl lib cert ca crl = .ok false)
          (silent : crl.revokedBySerial cert.serialNumber = none)
          (outside : requireFreshCrl now crl = .error err) : False := by
        obtain ⟨authentic, complete⟩ := examineCrl_complete_iff.mp examined
        exact free (.untimely loaded authentic complete (revokedBySerial_eq_none_iff.mp silent)
          outside)
      generalize judged : judgeCrl lib now cert ca crl = outcome
      have ends : Judgement lib now cert ca crl outcome := judged ▸ judgeCrl_judgement
      cases ends with
      | refused => exact Or.inl rfl
      | partialSilence => exact Or.inl rfl
      | escaped examined passes => exact (free (.escaping loaded ⟨_, examined, passes⟩)).elim
      | listed => exact Or.inr ⟨_, rfl, Or.inr rfl⟩
      | untimely examined silent outside _ => exact (current examined silent outside).elim
      | timeless examined silent outside _ => exact (current examined silent outside).elim
      | good => exact Or.inr ⟨_, rfl, Or.inl rfl⟩

/-- A download that blocks is not passed over. -/
theorem Blocks.stops (blocks : Blocks lib now cert ca raw) :
    crlVerdict lib now cert ca raw ≠ .ok none := by
  intro skipped
  cases blocks with
  | unloadable loaded =>
    unfold crlVerdict at skipped
    rw [loaded] at skipped
    cases skipped
  | @escaping crl loaded escapes =>
    obtain ⟨err, examined, passes⟩ := escapes
    have ends : Judgement lib now cert ca crl (.ok none) := by
      rw [← skipped, crlVerdict_loaded loaded]
      exact judgeCrl_judgement
    cases ends with
    | refused same handled =>
      rw [examined] at same
      cases same
      rw [passes] at handled
      cases handled
    | partialSilence passed => rw [examined] at passed; cases passed
  | @untimely crl err loaded authentic complete silent outside =>
    have examined := examineCrl_complete_iff.mpr ⟨authentic, complete⟩
    have ends : Judgement lib now cert ca crl (.ok none) := by
      rw [← skipped, crlVerdict_loaded loaded]
      exact judgeCrl_judgement
    cases ends with
    | refused failed => rw [examined] at failed; cases failed
    | partialSilence limited => rw [examined] at limited; cases limited

/-- **A download without a verdict is passed over exactly when it does not block.** -/
theorem crlVerdict_none_iff (unsettled : ¬ Settles lib now cert ca raw) :
    crlVerdict lib now cert ca raw = .ok none ↔ ¬ Blocks lib now cert ca raw := by
  refine ⟨fun skipped blocks => blocks.stops skipped, fun free => ?_⟩
  rcases crlVerdict_of_not_blocks free with skipped | found
  · exact skipped
  · exact (unsettled (crlVerdict_decides_iff.mp found)).elim

end Downloads

/-! ### The loop over the URLs -/

section Loop

variable (lib : Cryptography) {σ : Type} (web : Web σ) (now : Instant) (cert : Certificate)
  (issuer : Option Certificate)

/-- What the loop downloads from a URL. -/
def download (url : String) : Py σ Bytes := fetch web (.str url) none

/-- The verdict of `_check_crl` when no URL gives one. -/
def noUsableCrl : Verdict := (.unavailable, some "no usable CRL could be retrieved")

/-- `_check_crl` on these URLs. -/
def checkCrlAt (urls : List String) : Py σ Verdict :=
  match urls, issuer with
  | [], _ => pure (.unavailable, some "no CRL distribution point in extension")
  | _ :: _, none =>
    pure (.unavailable, some "CRL cannot be verified without the issuer certificate")
  | url :: rest, some issuer =>
    firstHitOr (tryCrl lib web now cert issuer) noUsableCrl (url :: rest)

/-- The verdict of a URL: what `_check_crl` returns if it is the only one. -/
def verdictOf (url : String) : Py σ Verdict := checkCrlAt lib web now cert issuer [url]

/-- **The first verdict wins**, from a state of the network on: `_check_crl` returns the verdict of
the first URL that has one, and UNAVAILABLE only when none has. -/
structure FirstVerdictWins (s : σ) : Prop where
  wins : ∀ tried url rest u verdict t, crlUrls cert = .ok (tried ++ url :: rest) →
    Undecided (verdictOf lib web now cert issuer) Decides tried s u →
    verdictOf lib web now cert issuer url u = .ok verdict t → Decides verdict →
    checkCrl lib web now cert issuer s = .ok verdict t
  unavailable : ∀ verdict t, checkCrl lib web now cert issuer s = .ok verdict t →
    verdict.1 = .unavailable →
    ∃ urls u, crlUrls cert = .ok urls ∧
      Undecided (verdictOf lib web now cert issuer) Decides urls s u

/-- A URL serves a download that blocks, and a later one is the first to serve one that settles. -/
structure Hides (ca : Certificate) (s : σ) (before between rest : List String)
    (blocked url : String) : Prop where
  urls : crlUrls cert = .ok (before ++ blocked :: between ++ url :: rest)
  blocks : ∃ u raw v, Undecided (download web) (Settles lib now cert ca) before s u ∧
    download web blocked u = .ok raw v ∧ Blocks lib now cert ca raw
  settles : ∃ u raw v,
    Undecided (download web) (Settles lib now cert ca) (before ++ blocked :: between) s u ∧
      download web url u = .ok raw v ∧ Settles lib now cert ca raw

variable {lib web now cert issuer} {ca : Certificate} {s : σ}

theorem checkCrl_at {urls : List String} (read : crlUrls cert = .ok urls) :
    checkCrl lib web now cert issuer = checkCrlAt lib web now cert issuer urls := by
  cases urls with
  | nil =>
    unfold checkCrl
    rw [read]
    rfl
  | cons url rest =>
    cases issuer with
    | none =>
      unfold checkCrl
      rw [read]
      rfl
    | some ca => exact checkCrl_listed read

theorem checkCrlAt_some {urls : List String} (listed : urls ≠ []) :
    checkCrlAt lib web now cert (some ca) urls =
      firstHitOr (tryCrl lib web now cert ca) noUsableCrl urls := by
  cases urls with
  | nil => exact (listed rfl).elim
  | cons url rest => rfl

theorem not_decides_noUsableCrl : ¬ Decides noUsableCrl := by
  intro decided
  rcases decided with absurd | absurd <;> cases absurd

theorem not_decides_unavailable {verdict : Verdict} (unavailable : verdict.1 = .unavailable) :
    ¬ Decides verdict := by
  intro decided
  rcases decided with absurd | absurd <;> rw [unavailable] at absurd <;> cases absurd

/-- An answer of the loop's trial that decides is a download that settles. -/
theorem tryCrl_decides_iff {url : String} {u v : σ} :
    (∃ verdict, tryCrl lib web now cert ca url u = .ok (some verdict) v ∧ Decides verdict) ↔
      ∃ raw, download web url u = .ok raw v ∧ Settles lib now cert ca raw := by
  refine ⟨?_, ?_⟩
  · intro found
    obtain ⟨verdict, answered, decided⟩ := found
    obtain ⟨raw, fetched, judged⟩ := tryCrl_some answered
    exact ⟨raw, fetched, crlVerdict_decides_iff.mp ⟨verdict, judged, decided⟩⟩
  · intro found
    obtain ⟨raw, fetched, settles⟩ := found
    obtain ⟨verdict, judged, decided⟩ := crlVerdict_decides_iff.mpr settles
    refine ⟨verdict, ?_, decided⟩
    rw [tryCrl_fetched fetched, judged]
    rfl

/-- **A URL has a verdict exactly when it serves a download that settles.** -/
theorem verdictOf_decides_iff {url : String} {u v : σ} :
    (∃ verdict, verdictOf lib web now cert (some ca) url u = .ok verdict v ∧ Decides verdict) ↔
      ∃ raw, download web url u = .ok raw v ∧ Settles lib now cert ca raw := by
  rw [← tryCrl_decides_iff]
  refine exists_congr fun verdict => and_congr_left fun decided => ?_
  have asked : verdictOf lib web now cert (some ca) url =
      alone (tryCrl lib web now cert ca) noUsableCrl url := rfl
  rw [asked, alone_decided_iff not_decides_noUsableCrl decided]

/-- Trying a URL changes the network as downloading from it does. -/
theorem stateAfter_tryCrl (url : String) (u : σ) :
    stateAfter (tryCrl lib web now cert ca url) u = stateAfter (download web url) u := by
  unfold stateAfter download
  cases fetched : fetch web (.str url) none u with
  | ok raw v =>
    rw [tryCrl_fetched fetched]
    cases crlVerdict lib now cert ca raw <;> rfl
  | error err v =>
    rw [tryCrl_failed fetched, if_pos (fetch_text_error fetched)]

theorem stateAfter_verdictOf (url : String) (u : σ) :
    stateAfter (verdictOf lib web now cert (some ca) url) u = stateAfter (download web url) u := by
  have asked : verdictOf lib web now cert (some ca) url =
      alone (tryCrl lib web now cert ca) noUsableCrl url := rfl
  rw [asked, stateAfter_alone, stateAfter_tryCrl]

/-- **URLs without a verdict are those whose downloads do not settle.** -/
theorem undecided_iff {tried : List String} {u : σ} :
    Undecided (verdictOf lib web now cert (some ca)) Decides tried s u ↔
      Undecided (download web) (Settles lib now cert ca) tried s u := by
  refine ⟨Undecided.transfer stateAfter_verdictOf ?_,
    Undecided.transfer (fun url v => (stateAfter_verdictOf url v).symm) ?_⟩
  · intro url v raw w fetched settles
    obtain ⟨verdict, found⟩ := verdictOf_decides_iff.mpr ⟨raw, fetched, settles⟩
    exact ⟨verdict, w, found⟩
  · intro url v verdict w answered decided
    obtain ⟨raw, found⟩ := verdictOf_decides_iff.mp ⟨verdict, answered, decided⟩
    exact ⟨raw, w, found⟩

/-- **A URL without a verdict is passed over exactly when its download does not block.** -/
theorem tryCrl_none_iff {url : String} {v : σ}
    (silent : ∀ raw w, download web url v = .ok raw w → ¬ Settles lib now cert ca raw) :
    (∃ w, tryCrl lib web now cert ca url v = .ok none w) ↔
      ∀ raw w, download web url v = .ok raw w → ¬ Blocks lib now cert ca raw := by
  cases fetched : fetch web (.str url) none v with
  | error err w =>
    refine ⟨fun _ raw after downloaded => ?_, fun _ => ⟨w, ?_⟩⟩
    · have absurd := fetched.symm.trans downloaded
      cases absurd
    · rw [tryCrl_failed fetched, if_pos (fetch_text_error fetched)]
  | ok raw w =>
    have unsettled : ¬ Settles lib now cert ca raw := silent raw w fetched
    rw [tryCrl_fetched fetched]
    refine ⟨fun passed other after downloaded => ?_, fun free => ⟨w, ?_⟩⟩
    · have same := fetched.symm.trans downloaded
      cases same
      obtain ⟨after, passed⟩ := passed
      exact (crlVerdict_none_iff unsettled).mp (run_orRaise_ok_iff.mp passed).1
    · exact run_orRaise_ok_iff.mpr
        ⟨(crlVerdict_none_iff unsettled).mpr (free raw w fetched), rfl⟩

/-- **The first URL with a verdict wins exactly when no download before it blocks.** -/
theorem checkCrl_wins_iff {tried rest : List String} {url : String} {u t : σ} {verdict : Verdict}
    (read : crlUrls cert = .ok (tried ++ url :: rest))
    (undecided : Undecided (download web) (Settles lib now cert ca) tried s u)
    (own : verdictOf lib web now cert (some ca) url u = .ok verdict t) (decided : Decides verdict) :
    checkCrl lib web now cert (some ca) s = .ok verdict t ↔
      ∀ before blocked between v, tried = before ++ blocked :: between →
        Undecided (download web) (Settles lib now cert ca) before s v →
        ∀ raw w, download web blocked v = .ok raw w → ¬ Blocks lib now cert ca raw := by
  rw [checkCrl_at read, checkCrlAt_some (by simp),
    firstHitOr_decides_iff not_decides_noUsableCrl (undecided_iff.mpr undecided) own decided]
  have each {before between : List String} {blocked : String} {v : σ}
      (split : tried = before ++ blocked :: between)
      (reached : Undecided (download web) (Settles lib now cert ca) before s v) :=
    tryCrl_none_iff ((split ▸ undecided).here reached)
  refine ⟨?_, ?_⟩
  · intro passes before blocked between v split reached
    exact (each split reached).mp (passes before blocked between v split (undecided_iff.mpr reached))
  · intro free before blocked between v split reached
    have served := undecided_iff.mp reached
    exact (each split served).mpr (free before blocked between v split served)

/-- Where the first verdict wins, UNAVAILABLE means that there is none. -/
theorem FirstVerdictWins.of_wins
    (wins : ∀ tried url rest u verdict t, crlUrls cert = .ok (tried ++ url :: rest) →
      Undecided (verdictOf lib web now cert issuer) Decides tried s u →
      verdictOf lib web now cert issuer url u = .ok verdict t → Decides verdict →
      checkCrl lib web now cert issuer s = .ok verdict t) :
    FirstVerdictWins lib web now cert issuer s := by
  refine ⟨wins, fun verdict t answered unavailable => ?_⟩
  cases read : crlUrls cert with
  | error err =>
    unfold checkCrl at answered
    rw [read] at answered
    cases answered
  | ok urls =>
    rcases undecided_or_first (verdictOf lib web now cert issuer) Decides urls s with
      ⟨u, undecided⟩ | ⟨tried, url, rest, u, first, w, split, undecided, own, decided⟩
    · exact ⟨urls, u, rfl, undecided⟩
    · subst split
      have won := wins tried url rest u first w read undecided own decided
      rw [answered] at won
      cases won
      exact (not_decides_unavailable unavailable decided).elim

variable (lib web now cert issuer)

/-- **The first verdict wins exactly when nothing hides it**: no URL before the first one that
serves a verdict serves a download that blocks. -/
theorem checkCrl_first_iff (s : σ) :
    FirstVerdictWins lib web now cert issuer s ↔
      ∀ ca before blocked between url rest, issuer = some ca →
        ¬ Hides lib web now cert ca s before between rest blocked url := by
  cases issuer with
  | none =>
    refine ⟨fun _ ca before blocked between url rest absurd => (by cases absurd), fun _ => ?_⟩
    refine .of_wins fun _ url _ u verdict t _ _ answered decided => ?_
    have noIssuer : verdictOf lib web now cert none url u = .ok
        (.unavailable, some "CRL cannot be verified without the issuer certificate") u := rfl
    rw [noIssuer] at answered
    cases answered
    exact (not_decides_unavailable rfl decided).elim
  | some ca =>
    refine ⟨?_, ?_⟩
    · intro first ca' before blocked between url rest known hides
      cases known
      obtain ⟨v, raw, w, reached, served, blocks⟩ := hides.blocks
      obtain ⟨u, late, t, undecided, downloaded, settles⟩ := hides.settles
      obtain ⟨verdict, own, decided⟩ := verdictOf_decides_iff.mpr ⟨late, downloaded, settles⟩
      have won := first.wins _ url rest u verdict t hides.urls (undecided_iff.mpr undecided) own decided
      exact (checkCrl_wins_iff hides.urls undecided own decided).mp won before blocked between v rfl
        reached raw w served blocks
    · intro free
      refine .of_wins fun tried url rest u verdict t read undecided own decided => ?_
      have served := undecided_iff.mp undecided
      refine (checkCrl_wins_iff read served own decided).mpr ?_
      intro before blocked between v split reached raw w downloaded blocks
      subst split
      obtain ⟨late, settled⟩ := verdictOf_decides_iff.mp ⟨verdict, own, decided⟩
      exact free ca before blocked between url rest rfl
        ⟨read, ⟨v, raw, w, reached, downloaded, blocks⟩, u, late, t, served, settled⟩

end Loop

/-! ### A stale CRL before a fresh one -/

section StaleBeforeFresh

/-- The CRL of the authority for the second week. -/
def sampleNextCrl : CertificateRevocationList :=
  { sampleCrl [] [] with
    der := ascii "next", lastUpdate := .ok (some (7 * Instant.day)),
    nextUpdate := .ok (some (14 * Instant.day)) }

/-- The package on both CRLs. -/
def sampleTwoCrls : Cryptography :=
  { samplePackage (sampleCrl [] []) with
    loadDerX509Crl := fun raw =>
      if raw = ascii "next" then .ok sampleNextCrl
      else (samplePackage (sampleCrl [] [])).loadDerX509Crl raw }

/-- A network whose first location was not updated. -/
def sampleMirrors : Web Unit :=
  ⟨fun url _ => pure (if url = "http://ca/2.crl" then ascii "next" else ascii "crl")⟩

/-- On the tenth day the first location still serves the CRL of the first week, and the one of the
second location is not looked at. -/
theorem checkCrl_first_counterexample :
    ¬ FirstVerdictWins sampleTwoCrls sampleMirrors (10 * Instant.day)
      (sampleLeaf [⟨"2.5.29.31", false, .crlDistributionPoints
        [⟨some [.uniformResourceIdentifier "http://ca/1.crl"]⟩,
          ⟨some [.uniformResourceIdentifier "http://ca/2.crl"]⟩]⟩]) (some sampleCa) () := by
  intro first
  have won := first.wins ["http://ca/1.crl"] "http://ca/2.crl" [] () (.good, some "via CRL") () rfl
    (.cons (by
      intro verdict t answered decided
      cases answered
      exact not_decides_unavailable rfl decided) (.nil ())) rfl (Or.inl rfl)
  cases won

end StaleBeforeFresh

/-! ### Entries that revoke -/

section Entries

variable (lib : Cryptography) {σ : Type} (web : Web σ) (now : Instant) (cert ca : Certificate)
  (s : σ) (crl : CertificateRevocationList)

/-- The loop of `_check_crl` comes to a URL that serves this CRL. -/
structure ReachedAt (tried rest : List String) (url : String) (u t : σ) : Prop where
  urls : crlUrls cert = .ok (tried ++ url :: rest)
  skipped : Skips (tryCrl lib web now cert ca) tried s u
  served : ∃ raw, download web url u = .ok raw t ∧ loadCrl lib raw = .ok (some crl)

/-- `_check_crl` returns REVOKED on this CRL, the one that the loop came to. -/
def RevokedOn (url : String) (u t : σ) : Prop :=
  ∃ detail, tryCrl lib web now cert ca url u = .ok (some (.revoked, detail)) t ∧
    checkCrl lib web now cert (some ca) s = .ok (.revoked, detail) t

/-- An entry for the certificate's serial that revokes it. -/
def HasRevokingEntry : Prop :=
  ∃ entry ∈ crl.entries, entry.serialNumber = cert.serialNumber ∧
    entry.reason ≠ some .removeFromCrl

/-- The CRL lists the certificate's serial, and only to remove it. -/
structure OnlyRemoves : Prop where
  lists : ∃ entry ∈ crl.entries, entry.serialNumber = cert.serialNumber
  removes : ∀ entry ∈ crl.entries, entry.serialNumber = cert.serialNumber →
    entry.reason = some .removeFromCrl

variable {lib web now cert ca s crl}

/-- A CRL that lists the certificate has an entry that revokes it, or only entries that remove it. -/
theorem not_onlyRemoves_iff (lists : ∃ entry ∈ crl.entries, entry.serialNumber = cert.serialNumber) :
    ¬ OnlyRemoves cert crl ↔ HasRevokingEntry cert crl := by
  refine ⟨?_, ?_⟩
  · intro some_revokes
    by_contra none_revokes
    refine some_revokes ⟨lists, fun entry member serial => ?_⟩
    by_contra revokes
    exact none_revokes ⟨entry, member, serial, revokes⟩
  · intro revokes only
    obtain ⟨entry, member, serial, reason⟩ := revokes
    exact reason (only.removes entry member serial)

/-- **`_check_crl` returns REVOKED on an authentic CRL exactly when it lists the certificate.** -/
theorem revokedOn_iff {tried rest : List String} {url : String} {u t : σ}
    (reached : ReachedAt lib web now cert ca s crl tried rest url u t)
    (authentic : AuthenticCrl lib crl cert ca) :
    RevokedOn lib web now cert ca s url u t ↔
      ∃ entry ∈ crl.entries, entry.serialNumber = cert.serialNumber := by
  obtain ⟨raw, downloaded, loaded⟩ := reached.served
  have turn : tryCrl lib web now cert ca url u = orRaise (judgeCrl lib now cert ca crl) t := by
    rw [tryCrl_fetched downloaded, crlVerdict_loaded loaded]
  refine ⟨?_, ?_⟩
  · intro revoked
    obtain ⟨detail, answered, _⟩ := revoked
    rw [turn] at answered
    rcases judgeCrl_cases (run_orRaise_ok_iff.mp answered).1 with
      ⟨_, _, entry, listed⟩ | absurd | ⟨_, absurd⟩
    · exact ⟨entry, revokedBySerial_some listed⟩
    · cases absurd
    · cases absurd
  · intro lists
    cases listed : crl.revokedBySerial cert.serialNumber with
    | none =>
      obtain ⟨entry, member, serial⟩ := lists
      exact (revokedBySerial_eq_none_iff.mp listed entry member serial).elim
    | some entry =>
      have answered : tryCrl lib web now cert ca url u =
          .ok (some (.revoked, some s!"{revokedDetail entry.revocationDate} (via CRL)")) t := by
        rw [turn, judgeCrl_listed authentic listed]
        rfl
      refine ⟨_, answered, ?_⟩
      rw [checkCrl_at reached.urls, checkCrlAt_some (by simp),
        firstHitOr_decided_iff not_decides_noUsableCrl (Or.inr rfl)]
      exact firstHit_some_iff.mpr ⟨tried, url, rest, u, rfl, reached.skipped, answered⟩

/-- **REVOKED comes from an entry that revokes exactly when the CRL does not list the certificate
only to remove it.** -/
theorem checkCrl_revokes_iff {tried rest : List String} {url : String} {u t : σ}
    (reached : ReachedAt lib web now cert ca s crl tried rest url u t)
    (authentic : AuthenticCrl lib crl cert ca) :
    (RevokedOn lib web now cert ca s url u t → HasRevokingEntry cert crl) ↔
      ¬ OnlyRemoves cert crl := by
  rw [revokedOn_iff reached authentic]
  refine ⟨?_, ?_⟩
  · intro revokes only
    exact (not_onlyRemoves_iff only.lists).mpr (revokes only.lists) only
  · intro notOnly lists
    exact (not_onlyRemoves_iff lists).mp notOnly

/-- The extension of a delta CRL. -/
def sampleDelta : Extension := ⟨"2.5.29.27", true, .deltaCrlIndicator⟩

/-- The CRL with these extensions and entries, at the one URL of the certificate. -/
theorem sampleCrl_reached (extensions : List Extension) (entries : List RevokedCertificate) :
    ReachedAt (samplePackage (sampleCrl extensions entries)) (sampleWeb (ascii "crl")) Instant.day
      (sampleLeaf [sampleCrlPoint "http://ca/1.crl"]) sampleCa () (sampleCrl extensions entries)
      [] [] "http://ca/1.crl" () () :=
  ⟨rfl, .nil (), ascii "crl", rfl, rfl⟩

/-- A revocation in a delta CRL. -/
theorem checkCrl_revokes_iff_delta :
    let crl := sampleCrl [sampleDelta] [⟨7, some 0, some .keyCompromise⟩]
    let cert := sampleLeaf [sampleCrlPoint "http://ca/1.crl"]
    (RevokedOn (samplePackage crl) (sampleWeb (ascii "crl")) Instant.day cert sampleCa ()
      "http://ca/1.crl" () () → HasRevokingEntry cert crl) ↔ ¬ OnlyRemoves cert crl :=
  checkCrl_revokes_iff (sampleCrl_reached [sampleDelta] [⟨7, some 0, some .keyCompromise⟩])
    (authenticateCrl_ok_iff.mp rfl)

/-- The end of a hold, published in a delta CRL, makes the certificate REVOKED. -/
theorem checkCrl_revokes_counterexample :
    let crl := sampleCrl [sampleDelta] [⟨7, some 0, some .removeFromCrl⟩]
    let cert := sampleLeaf [sampleCrlPoint "http://ca/1.crl"]
    AuthenticCrl (samplePackage crl) crl cert sampleCa ∧
      ¬ (RevokedOn (samplePackage crl) (sampleWeb (ascii "crl")) Instant.day cert sampleCa ()
        "http://ca/1.crl" () () → HasRevokingEntry cert crl) := by
  intro crl cert
  refine ⟨authenticateCrl_ok_iff.mp rfl, fun revokes => ?_⟩
  have revoked : RevokedOn (samplePackage crl) (sampleWeb (ascii "crl")) Instant.day cert sampleCa
      () "http://ca/1.crl" () () := ⟨_, rfl, rfl⟩
  obtain ⟨entry, member, _, reason⟩ := revokes revoked
  rw [List.mem_singleton.mp member] at reason
  exact reason rfl

end Entries

end Certinspect.Revocation
