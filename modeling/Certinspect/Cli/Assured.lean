/-
**What a revocation status in a record is based on.**

The record says only what the status is. Behind every status that was decided there is evidence: an
issuer that signed the certificate the server presented, and a response or a list that this issuer
authorized, which the network served during the inspection.

* `Decided` — there is authenticated evidence of a status.
* `Backed` — the status of a record has such evidence, at some moment of the inspection.
* `Assured` — what an inspection has established of the certificate that the server presented.
* **`inspect_assured`** — every inspection of a host that returns has established it.
* **`secured_of_passed`** — with `--require-revocation-check` that is trust, and evidence of GOOD.
-/

import Certinspect.Cli.ExitStatus
import Certinspect.Cli.Recorded
import Certinspect.Cli.Trust
import Certinspect.Revocation.Evidence

namespace Certinspect.Cli

open Library Fetch

section Decided

variable {σ : Type} (lib : Cryptography) (web : Revocation.Web σ) (now : Instant)

/-- There is authenticated evidence, at some time, that the certificate has this status. -/
def Decided (cert : Certificate) (status : RevocationStatus) : Prop :=
  ∃ ca, Revocation.Issued lib cert ca ∧
    (Revocation.OcspEvidence lib web now cert ca status ∨
      Revocation.CrlEvidence lib web now cert ca status)

variable {lib web now} {cert : Certificate} {issuer : Option Certificate} {s : σ}

/-- OCSP decides nothing without an issuer, and with one nothing without evidence. -/
theorem checkOcsp_decided (issued : ∀ ca, issuer = some ca → Revocation.Issued lib cert ca) :
    Outcome (Revocation.checkOcsp lib web now cert issuer) s
      (fun verdict _ => verdict.1 ≠ .unavailable → Decided lib web now cert verdict.1)
      fun _ _ => True := by
  cases issuer with
  | none =>
    refine outcome_mono Revocation.checkOcsp_none ?_ fun _ _ _ => trivial
    exact fun _ _ nothing decided => absurd nothing decided
  | some ca =>
    refine outcome_mono Revocation.checkOcsp_evidence ?_ fun _ _ _ => trivial
    exact fun _ _ found decided => ⟨ca, issued ca rfl, Or.inl (found decided)⟩

/-- So it is with the CRLs. -/
theorem checkCrl_decided (issued : ∀ ca, issuer = some ca → Revocation.Issued lib cert ca) :
    Outcome (Revocation.checkCrl lib web now cert issuer) s
      (fun verdict _ => verdict.1 ≠ .unavailable → Decided lib web now cert verdict.1)
      fun _ _ => True := by
  cases issuer with
  | none =>
    refine outcome_mono Revocation.checkCrl_none ?_ fun _ _ _ => trivial
    exact fun _ _ nothing decided => absurd nothing decided
  | some ca =>
    refine outcome_mono Revocation.checkCrl_evidence ?_ fun _ _ _ => trivial
    exact fun _ _ found decided => ⟨ca, issued ca rfl, Or.inr (found decided)⟩

/-- A verdict of `check_revocation` is that of one of them. -/
theorem checkRevocation_decided :
    Outcome (Revocation.checkRevocation lib web now cert issuer) s
      (fun verdict _ => verdict.1 ≠ .unavailable → Decided lib web now cert verdict.1)
      fun _ _ => True := by
  unfold Revocation.checkRevocation
  rw [outcome_bind]
  refine outcome_mono (Revocation.anchor_issued issuer) ?_ fun _ _ _ => trivial
  intro found _ issued
  rw [outcome_bind]
  refine outcome_mono (checkOcsp_decided issued) ?_ fun _ _ _ => trivial
  intro ocsp _ byOcsp
  rw [outcome_ite]
  split
  · exact byOcsp
  · rw [outcome_bind]
    refine outcome_mono (checkCrl_decided issued) ?_ fun _ _ _ => trivial
    intro crl _ byCrl
    rw [outcome_ite]
    split
    · exact byCrl
    · exact byOcsp

end Decided

/-! ### During an inspection -/

section Backed

variable {ω : Type} (lib : Cryptography) (out : Outside ω) (web : Revocation.Web ω)

/-- The status in a record, if one was decided, has evidence at a moment of the inspection, which has
logged what is given. -/
def Backed (cert : Certificate) (info : CertificateInfo) (logged : List Event) : Prop :=
  ∀ status, info.revocationStatus = some status → status ≠ .unavailable →
    ∃ moment : World ω, moment.log <:+ logged ∧ Decided lib web (out.now moment) cert status

variable {lib out web} {cert : Certificate} {info final : CertificateInfo} {logged : List Event}
  {w : World ω} {target : Option String} {port : Int} {conn : Option ConnectionInfo}
  {opts : InspectOptions} {bundle : Option (List Certificate)}

theorem backed_of_none (silent : info.revocationStatus = none) :
    Backed lib out web cert info logged := by
  intro status recorded
  rw [silent] at recorded
  cases recorded

/-- What is recorded and logged later leaves the evidence as it is. -/
theorem Backed.later {longer : List Event} (backed : Backed lib out web cert info logged)
    (same : final.revocationStatus = info.revocationStatus) (more : logged <:+ longer) :
    Backed lib out web cert final longer := by
  intro status recorded decided
  obtain ⟨moment, earlier, evidence⟩ := backed status (same ▸ recorded) decided
  exact ⟨moment, earlier.trans more, evidence⟩

/-- What a computation on the network of the revocation check returns, and that it logs nothing. -/
theorem onWeb_returns {α : Type} {x : Py ω α} {Q : α → Prop}
    (returns : Outcome x w.web (fun value _ => Q value) fun _ _ => True) :
    Outcome (onWeb x) w (fun value after => after.log = w.log ∧ Q value) fun _ _ => True := by
  unfold Outcome onWeb at *
  cases ran : x w.web with
  | ok value after =>
    rw [ran] at returns
    exact ⟨rfl, returns⟩
  | error raised after => trivial

theorem checkRevocation_backed (verified : List Certificate) :
    Outcome (checkRevocation lib out web info cert verified) w
      (fun result after => Backed lib out web cert result.1 after.log) fun _ _ => True := by
  unfold checkRevocation log
  rw [outcome_bind, outcome_modify, outcome_bind, outcome_get, outcome_bind]
  refine outcome_mono (onWeb_returns checkRevocation_decided) ?_ fun _ _ _ => trivial
  rintro ⟨status, detail⟩ after ⟨same, evidence⟩ recorded fills decided
  cases fills
  exact ⟨_, same ▸ List.suffix_rfl, evidence decided⟩

theorem checkTrust_backed (silent : info.revocationStatus = none) :
    Outcome (checkTrust lib out web info target port cert conn opts bundle) w
      (fun result after => Backed lib out web cert result.1 after.log) fun _ _ => True := by
  unfold checkTrust
  rw [outcome_bind]
  refine outcome_mono (checkChain_silent silent) ?_ fun _ _ _ => trivial
  rintro ⟨judged, untrusted, verified⟩ checked kept
  dsimp only at kept ⊢
  rw [outcome_ite]
  split
  · rw [outcome_bind]
    exact outcome_mono (checkRevocation_backed verified) (fun _ _ found => found) fun _ _ _ => trivial
  · exact backed_of_none kept

theorem checkWarnings_backed (backed : Backed lib out web cert info w.log) (chain : List Certificate) :
    Outcome (checkWarnings out info chain opts) w
      (fun warned after => Backed lib out web cert warned after.log) fun _ _ => True :=
  backed.later rfl (List.suffix_cons _ _)

/-- `_inspect`, from the analysis on. -/
theorem inspectCertificate_backed {der : Bytes} {analysis : Analysis} :
    Outcome (inspectCertificate lib out web target port opts der conn cert analysis) w
      (fun result after => Backed lib out web cert result.1 after.log) fun _ _ => True := by
  refine outcome_last fun _ started => ?_
  rw [outcome_bind, outcome_get, outcome_bind]
  cases parsed : fileBundle lib der opts with
  | error raised => exact trivial
  | ok bundle =>
    rw [outcome_orRaise_ok, outcome_bind]
    refine outcome_mono (checkTrust_backed rfl) ?_ fun _ _ _ => trivial
    rintro ⟨judged, trust, verified⟩ checked backed
    dsimp only at backed ⊢
    rw [outcome_bind]
    refine outcome_mono (checkWarnings_backed backed _) ?_ fun _ _ _ => trivial
    intro warned last kept
    rw [outcome_bind]
    cases recorded : recordChain warned (displayedChain cert conn bundle) opts with
    | error raised => exact trivial
    | ok result =>
      rw [outcome_orRaise_ok]
      have same : (checkRecord out.today result opts).1.revocationStatus = result.revocationStatus := by
        rw [checkRecord_info]
      exact kept.later (same.trans (recordChain_revocation recorded)) List.suffix_rfl

/-- What an inspection of a host has established of the certificate that the server presented. -/
structure Assured (lib : Cryptography) (out : Outside ω) (web : Revocation.Web ω) (cert : Certificate)
    (info : CertificateInfo) (logged : List Event) : Prop where
  inspected : Inspected lib logged cert
  analyzed : ∃ now, Parser.analyze now cert = .ok info.toAnalysis
  vouched : info.chainTrusted = some true → ∃ chain, Vouched lib logged cert chain
  backed : Backed lib out web cert info logged

/-- **What the record of a host says of trust and revocation holds of the certificate that the server
presented**, on the evidence of the inspection itself. -/
theorem inspect_assured (network : ω) :
    Outcome (inspect lib out web target port { opts with file := none }) ⟨[], network⟩
      (fun result after => ∃ cert, Assured lib out web cert result.1 after.log) fun _ _ => True := by
  unfold inspect
  rw [outcome_bind]
  refine outcome_mono (fetchSource_session lib out opts target port network) ?_ fun _ _ _ => trivial
  rintro ⟨der, _⟩ after ⟨each, conn, session, rfl, latest, presented, sent⟩
  dsimp only at presented ⊢
  rw [outcome_bind]
  cases loaded : Parser.loadCertificate lib der with
  | error raised => exact trivial
  | ok cert =>
    rw [outcome_orRaise_ok, outcome_bind, outcome_get, outcome_bind]
    cases analyzed : Parser.analyze (out.now after) cert with
    | error raised => exact trivial
    | ok analysis =>
      rw [outcome_orRaise_ok]
      have sound : Sound lib cert conn.chain after.log :=
        ⟨each, ⟨session, der, latest, presented, loaded⟩, ⟨session, latest, sent⟩⟩
      refine outcome_mono (outcome_and (inspectCertificate_stage rfl sound) inspectCertificate_backed)
        ?_ fun _ _ _ => trivial
      rintro result last ⟨⟨verified, stage⟩, backed⟩
      exact ⟨cert, stage.sound.inspected, ⟨out.now after, stage.analysis ▸ analyzed⟩,
        fun marked => ⟨verified, stage.trusted marked⟩, backed⟩

end Backed

/-! ### A target that passed -/

section Secured

variable {ω : Type} (lib : Cryptography) (urlsplit : String → Except PyErr SplitResult) (args : Args)

/-- The certificate that a target presented is trusted and not revoked, on the evidence of its
inspection, and no check of it failed. -/
def Secured (raw : String) (place : Surroundings ω) : Prop :=
  ∃ default host port info code after cert, defaultPort args = .ok default ∧
    splitTarget urlsplit raw default = .ok (host, port) ∧
    inspect lib place.out place.web (some host) port (.fromArgs args) ⟨[], place.network⟩ =
      .ok (info, code) after ∧
    Cli.Passed (.fromArgs args) (some host) place.out.today info ∧
    Inspected lib after.log cert ∧ (∃ now, Parser.analyze now cert = .ok info.toAnalysis) ∧
    (∃ chain, Vouched lib after.log cert chain) ∧
    ∃ moment : World ω, moment.log <:+ after.log ∧
      Decided lib place.web (place.out.now moment) cert .good

variable {lib urlsplit args} {raw : String} {place : Surroundings ω}

/-- `--require-revocation-check` passes only a record with the status GOOD. -/
theorem good_of_passed {opts : InspectOptions} {target : Option String} {today : Int}
    {info : CertificateInfo} (required : opts.requireRevocationCheck = true)
    (passed : Cli.Passed opts target today info) : info.revocationStatus = some .good := by
  have requested : opts.policyRequested = true := by
    unfold InspectOptions.policyRequested
    rw [required, Bool.or_true, Bool.true_or]
  by_contra bad
  have violated : policyViolated opts today info = true := by
    unfold policyViolated
    rw [requested, required, bne_iff_ne.mpr bad, Bool.and_true, Bool.or_true, Bool.and_true]
  rw [passed.policy] at violated
  cases violated

/-- A record with a status passes only when its chain is marked as trusted. -/
theorem trusted_of_passed {opts : InspectOptions} {target : Option String} {today : Int}
    {info : CertificateInfo} (passed : Cli.Passed opts target today info)
    (judged : info.chainTrusted.isSome) : info.chainTrusted = some true := by
  have trusted := passed.trusted
  unfold distrusted at trusted
  cases verdict : info.chainTrusted with
  | none =>
    rw [verdict] at judged
    cases judged
  | some vouched =>
    cases vouched with
    | true => rfl
    | false =>
      rw [verdict] at trusted
      cases trusted

/-- **A target that passes `--require-revocation-check` is secured.** -/
theorem secured_of_passed (required : args.requireRevocationCheck = true)
    (passed : Job.Passed lib urlsplit args ⟨.host raw, place⟩) :
    Secured lib urlsplit args raw place := by
  obtain ⟨info, code, returned, passed⟩ := passed
  change Cli.Passed (.fromArgs args) _ place.out.today info at passed
  have demanded : (InspectOptions.fromArgs args).requireRevocationCheck = true := required
  have good : info.revocationStatus = some .good := good_of_passed demanded passed
  have checked := (Job.inspected_ok returned).2
  obtain ⟨default, known, there⟩ := bind_ok_iff.mp returned
  obtain ⟨⟨host, port⟩, split, ran⟩ := bind_ok_iff.mp there
  change inspectIn lib place (some host) port (.fromArgs args) = .ok (info, code) at ran
  have target : Job.target urlsplit ⟨.host raw, place⟩ = some host := splitTarget_host split
  rw [target] at passed checked
  obtain ⟨verifies, named⟩ := inspectIn_asked ran (by rw [good]; rfl)
  have trusted := trusted_of_passed passed (checked.chain verifies (Or.inr named))
  unfold inspectIn at ran
  split at ran
  · rename_i result after inspected
    obtain rfl := Except.ok.inj ran
    obtain ⟨cert, assured⟩ := outcome_ok (@inspect_assured ω lib place.out place.web (some host) port
      args.toInspectOptions place.network) inspected
    obtain ⟨moment, earlier, evidence⟩ := assured.backed .good good (by decide)
    exact ⟨default, host, port, info, code, after, cert, known, split, inspected, passed,
      assured.inspected, assured.analyzed, assured.vouched trusted, moment, earlier, evidence⟩
  · cases ran

end Secured

end Certinspect.Cli
