/-
**The records `_inspect` returns.**

Each check writes its keys and leaves the others alone. So a record has the analysis and the status
of the moment of its inspection, and the keys of one check are present or absent together.

* `InspectedAt` — the record was made of a certificate at an instant.
* `Paired` — keys that one check sets are there together.
* `inspectCertificate_extends` — what the first step describes, the later ones keep.
* **`inspect_at`** — under a clock that stands still, a record is of that instant.
* **`inspect_paired`** — every record has its keys in pairs.
-/

import Certinspect.Cli.Findings

namespace Certinspect.Cli

open Library Fetch

/-- A record of a certificate, read and judged at an instant. -/
structure InspectedAt (now : Instant) (warnDays : Int) (criticalDays : Option Int)
    (cert : Certificate) (info : CertificateInfo) : Prop where
  analyzed : Parser.analyze now cert = .ok info.toAnalysis
  status : info.status = Parser.certificateStatus now info.toAnalysis warnDays criticalDays

/-- Keys that one check sets are there together, and a list of warnings only with a warning. -/
structure Paired (info : CertificateInfo) : Prop where
  cipher : info.cipher.isSome = info.tlsVersion.isSome
  error : info.chainError.isSome = info.chainTrusted.isSome
  diagnosis : info.chainTrusted = none → info.chainDiagnosis = none
  warnings : info.chainWarnings ≠ some []
  detail : info.revocationDetail.isSome = info.revocationStatus.isSome

section Records

variable {ω : Type} {lib : Cryptography} {out : Outside ω} {web : Revocation.Web ω} {w : World ω}
  {opts : InspectOptions} {target : Option String} {port : Int} {info : CertificateInfo}
  {der : Bytes} {cert : Certificate} {conn : Option ConnectionInfo}
  {bundle : Option (List Certificate)}

/-! ### The moment of an inspection -/

/-- The later steps keep the analysis, the status, the name check and the handshake. -/
theorem inspectCertificate_extends {analysis : Analysis} :
    Outcome (inspectCertificate lib out web target port opts der conn cert analysis) w
      (fun result _ => ∃ started,
        Extends (describe (out.now started) analysis target conn opts) result.1)
      fun _ _ => True := by
  refine outcome_mono inspectCertificate_steps ?_ fun _ _ _ => trivial
  rintro ⟨info, code⟩ _ ⟨started, _, judged, _, recorded, _, described, _, _, _, kept, rfl, _⟩
  exact ⟨started, described.trans (kept.trans (checkRecord_keeps out.today)).toExtends⟩

/-- **A record is of the instant of its inspection.** -/
theorem inspect_at {now : Instant} (clock : ∀ w, out.now w = now) :
    Outcome (inspect lib out web target port opts) w
      (fun result _ => ∃ cert, InspectedAt now opts.days opts.criticalDays cert result.1)
      fun _ _ => True := by
  refine outcome_last fun fetched _ => ?_
  obtain ⟨der, conn⟩ := fetched
  refine outcome_last fun cert _ => ?_
  rw [outcome_bind, outcome_get, clock, outcome_bind]
  cases analyzed : Parser.analyze now cert with
  | error raised => exact trivial
  | ok analysis =>
    rw [outcome_orRaise_ok]
    refine outcome_mono inspectCertificate_extends ?_ fun _ _ _ => trivial
    rintro ⟨info, code⟩ after ⟨started, kept⟩
    refine ⟨cert, ?_, ?_⟩
    · rw [kept.analysis]
      exact analyzed
    · rw [kept.status, kept.analysis, ← clock started]
      rfl

/-- The same for an inspection in its surroundings. -/
theorem inspectIn_at {place : Surroundings ω} {now : Instant} {code : Code}
    (clock : ∀ w, place.out.now w = now)
    (returned : inspectIn lib place target port opts = .ok (info, code)) :
    ∃ cert, InspectedAt now opts.days opts.criticalDays cert info := by
  unfold inspectIn at returned
  split at returned
  · rename_i result after ran
    cases returned
    exact outcome_ok (inspect_at clock) ran
  · cases returned

/-! ### Keys in pairs -/

theorem describe_paired (now : Instant) (analysis : Analysis) :
    Paired (describe now analysis target conn opts) := by
  refine ⟨?_, rfl, fun _ => rfl, fun absurd => (by cases absurd), rfl⟩
  cases conn <;> rfl

theorem checkChain_paired (paired : Paired info) :
    Outcome (checkChain lib out info target port cert conn opts bundle) w
      (fun result _ => Paired result.1) fun _ _ => True := by
  unfold checkChain
  rw [outcome_ite]
  split
  · refine outcome_last fun found _ => ?_
    cases found with
    | none => exact paired
    | some verdict =>
      dsimp only
      rw [outcome_ite]
      split
      · exact ⟨paired.cipher, rfl, fun absurd => (by cases absurd), paired.warnings, paired.detail⟩
      · refine outcome_last fun _ _ => ?_
        exact ⟨paired.cipher, rfl, fun absurd => (by cases absurd), paired.warnings, paired.detail⟩
  · exact paired

theorem checkRevocation_paired (paired : Paired info) {verified : List Certificate} :
    Outcome (checkRevocation lib out web info cert verified) w
      (fun result _ => Paired result.1) fun _ _ => True := by
  refine outcome_last fun _ _ => outcome_last fun _ _ => outcome_last fun verdict _ => ?_
  exact ⟨paired.cipher, paired.error, paired.diagnosis, paired.warnings, rfl⟩

theorem checkTrust_paired (paired : Paired info) :
    Outcome (checkTrust lib out web info target port cert conn opts bundle) w
      (fun result _ => Paired result.1) fun _ _ => True := by
  unfold checkTrust
  rw [outcome_bind]
  refine outcome_mono (checkChain_paired paired) ?_ fun _ _ _ => trivial
  rintro ⟨judged, untrusted, verified⟩ checked kept
  dsimp only at kept ⊢
  rw [outcome_ite]
  split
  · rw [outcome_bind]
    exact outcome_mono (checkRevocation_paired kept) (fun _ _ asked => asked) fun _ _ _ => trivial
  · exact kept

theorem checkWarnings_paired (paired : Paired info) (chain : List Certificate) :
    Outcome (checkWarnings out info chain opts) w (fun later _ => Paired later)
      fun _ _ => True := by
  refine outcome_last fun _ _ => outcome_last fun now _ => ?_
  refine ⟨paired.cipher, paired.error, paired.diagnosis, ?_, paired.detail⟩
  dsimp only
  split
  · exact fun absurd => by cases absurd
  · rename_i some
    exact fun empty => some (Option.some.inj empty)

theorem recordChain_paired {presented : List Certificate} {later : CertificateInfo}
    (paired : Paired info) (recorded : recordChain info presented opts = .ok later) :
    Paired later := by
  unfold recordChain at recorded
  split at recorded
  · obtain ⟨summaries, _, same⟩ := bind_ok_iff.mp recorded
    cases same
    exact ⟨paired.cipher, paired.error, paired.diagnosis, paired.warnings, paired.detail⟩
  · cases recorded
    exact paired

theorem checkRecord_paired (paired : Paired info) (today : Int) :
    Paired (checkRecord today info opts).1 := by
  rw [checkRecord_info]
  exact ⟨paired.cipher, paired.error, paired.diagnosis, paired.warnings, paired.detail⟩

theorem inspectCertificate_paired {analysis : Analysis} :
    Outcome (inspectCertificate lib out web target port opts der conn cert analysis) w
      (fun result _ => Paired result.1) fun _ _ => True := by
  refine outcome_last fun _ started => ?_
  rw [outcome_bind, outcome_get, outcome_bind]
  cases parsed : fileBundle lib der opts with
  | error raised => exact trivial
  | ok bundle =>
    rw [outcome_orRaise_ok, outcome_bind]
    refine outcome_mono (checkTrust_paired (describe_paired _ _)) ?_ fun _ _ _ => trivial
    rintro ⟨judged, trust, verified⟩ checked paired
    dsimp only at paired ⊢
    rw [outcome_bind]
    refine outcome_mono (checkWarnings_paired paired _) ?_ fun _ _ _ => trivial
    intro warned final kept
    rw [outcome_bind]
    cases recorded : recordChain warned (displayedChain cert conn bundle) opts with
    | error raised => exact trivial
    | ok result =>
      rw [outcome_orRaise_ok]
      exact checkRecord_paired (recordChain_paired kept recorded) out.today

/-- **Every record has its keys in pairs.** -/
theorem inspect_paired :
    Outcome (inspect lib out web target port opts) w (fun result _ => Paired result.1)
      fun _ _ => True :=
  outcome_last fun _ _ => outcome_last fun _ _ => outcome_last fun _ _ => outcome_last fun _ _ =>
    inspectCertificate_paired

/-- The same for an inspection in its surroundings. -/
theorem inspectIn_paired {place : Surroundings ω} {code : Code}
    (returned : inspectIn lib place target port opts = .ok (info, code)) : Paired info := by
  unfold inspectIn at returned
  split at returned
  · rename_i result after ran
    cases returned
    exact outcome_ok inspect_paired ran
  · cases returned

end Records

end Certinspect.Cli
