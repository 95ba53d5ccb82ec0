/-
**The exit code of an inspection, from its record alone.**

Every check that can fail leaves its outcome in the record, and a check that was not requested leaves
nothing. So the code of an inspection does not depend on anything that the record does not show: not on
the options, nor on the day.

* `Unchecked`, `Requested` — the record before and after the checks that need only the record.
* `recordedCodes` — the codes that a record shows.
* `inspect_asked` — a revocation status is only recorded of a host whose chain is verified.
* `inspect_requested` — every record has the outcomes of the requested checks and no others.
* `findings_recorded` — what a record shows is what the source deserves.
* **`inspectIn_recorded`** — the code of an inspection is the most severe of those its record shows.
-/

import Certinspect.Cli.Records

namespace Certinspect.Cli

open Library Fetch

/-- The keys of the last checks are not there yet. -/
structure Unchecked (info : CertificateInfo) : Prop where
  pin : info.pinMatch = none
  san : info.expectedSanMissing = none
  policy : info.policyViolations = none

/-- The keys of the last checks are there exactly when they were requested. -/
structure Requested (opts : InspectOptions) (today : Int) (info : CertificateInfo) : Prop where
  pin : info.pinMatch = (given opts.pin).map (Parser.pinMatches info.toAnalysis)
  san : info.expectedSanMissing = if opts.expectSan.getD [] = [] then none
    else some (Parser.missingSanNames info.toAnalysis (opts.expectSan.getD []))
  policy : info.policyViolations =
    if opts.policyRequested then some (violations today info opts) else none

/-- The codes that a record shows. -/
def recordedCodes (info : CertificateInfo) : List Code :=
  (if distrusted info then [.exit .untrustedOrRevoked] else []) ++
    (if info.pinMatch == some false then [.exit .pinMismatch] else []) ++
    [.exit (exitByStatus info.status)] ++
    (if info.hostnameMatch == some false then [.exit .hostnameMismatch] else []) ++
    (if info.expectedSanMissing.getD [] != [] then [.exit .sanMismatch] else []) ++
    (if info.policyViolations.getD [] != [] then [.exit .policy] else [])

theorem mem_recordedCodes {info : CertificateInfo} {code : Code} : code ∈ recordedCodes info ↔
    ((info.chainTrusted == some false) = true ∨ (info.revocationStatus == some .revoked) = true) ∧
      code = .exit .untrustedOrRevoked ∨
    (info.pinMatch == some false) = true ∧ code = .exit .pinMismatch ∨
    code = .exit (exitByStatus info.status) ∨
    (info.hostnameMatch == some false) = true ∧ code = .exit .hostnameMismatch ∨
    (info.expectedSanMissing.getD [] != []) = true ∧ code = .exit .sanMismatch ∨
    (info.policyViolations.getD [] != []) = true ∧ code = .exit .policy := by
  have chosen (condition : Prop) [Decidable condition] (own : Code) :
      code ∈ (if condition then [own] else []) ↔ condition ∧ code = own := by
    split <;> simp_all
  unfold recordedCodes distrusted
  simp only [List.mem_append, chosen, List.mem_singleton, Bool.or_eq_true, or_assoc]

section Recorded

variable {ω : Type} {lib : Cryptography} {out : Outside ω} {web : Revocation.Web ω} {w : World ω}
  {opts : InspectOptions} {target : Option String} {port : Int} {info : CertificateInfo}
  {der : Bytes} {cert : Certificate} {conn : Option ConnectionInfo}
  {bundle : Option (List Certificate)} {today : Int}

/-! ### Before the last checks -/

theorem checkChain_unchecked (unchecked : Unchecked info) :
    Outcome (checkChain lib out info target port cert conn opts bundle) w
      (fun result _ => Unchecked result.1) fun _ _ => True := by
  unfold checkChain
  rw [outcome_ite]
  split
  · refine outcome_last fun found _ => ?_
    cases found with
    | none => exact unchecked
    | some verdict =>
      dsimp only
      rw [outcome_ite]
      split
      · exact ⟨unchecked.pin, unchecked.san, unchecked.policy⟩
      · exact outcome_last fun _ _ => ⟨unchecked.pin, unchecked.san, unchecked.policy⟩
  · exact unchecked

theorem checkRevocation_unchecked (unchecked : Unchecked info) {verified : List Certificate} :
    Outcome (checkRevocation lib out web info cert verified) w
      (fun result _ => Unchecked result.1) fun _ _ => True :=
  outcome_last fun _ _ => outcome_last fun _ _ => outcome_last fun _ _ =>
    ⟨unchecked.pin, unchecked.san, unchecked.policy⟩

theorem checkTrust_unchecked (unchecked : Unchecked info) :
    Outcome (checkTrust lib out web info target port cert conn opts bundle) w
      (fun result _ => Unchecked result.1) fun _ _ => True := by
  unfold checkTrust
  rw [outcome_bind]
  refine outcome_mono (checkChain_unchecked unchecked) ?_ fun _ _ _ => trivial
  rintro ⟨judged, untrusted, verified⟩ checked kept
  dsimp only at kept ⊢
  rw [outcome_ite]
  split
  · rw [outcome_bind]
    exact outcome_mono (checkRevocation_unchecked kept) (fun _ _ asked => asked) fun _ _ _ => trivial
  · exact kept

theorem checkWarnings_unchecked (unchecked : Unchecked info) (chain : List Certificate) :
    Outcome (checkWarnings out info chain opts) w (fun later _ => Unchecked later) fun _ _ => True :=
  outcome_last fun _ _ => outcome_last fun _ _ => ⟨unchecked.pin, unchecked.san, unchecked.policy⟩

theorem recordChain_unchecked {presented : List Certificate} {later : CertificateInfo}
    (unchecked : Unchecked info) (recorded : recordChain info presented opts = .ok later) :
    Unchecked later := by
  unfold recordChain at recorded
  split at recorded
  · obtain ⟨summaries, _, same⟩ := bind_ok_iff.mp recorded
    cases same
    exact ⟨unchecked.pin, unchecked.san, unchecked.policy⟩
  · cases recorded
    exact unchecked

/-! ### After them -/

theorem checkRecord_requested (unchecked : Unchecked info) :
    Requested opts today (checkRecord today info opts).1 := by
  rw [checkRecord_info, unchecked.pin, unchecked.san, unchecked.policy, Option.or_none]
  exact ⟨rfl, rfl, rfl⟩

/-- **Every record has the outcomes of the requested checks**, and no others. -/
theorem inspect_requested :
    Outcome (inspect lib out web target port opts) w
      (fun result _ => Requested opts out.today result.1) fun _ _ => True := by
  refine outcome_last fun fetched _ => outcome_last fun cert _ => outcome_last fun now _ =>
    outcome_last fun analysis _ => ?_
  refine outcome_last fun _ started => ?_
  rw [outcome_bind, outcome_get, outcome_bind]
  cases parsed : fileBundle lib fetched.1 opts with
  | error raised => exact trivial
  | ok bundle =>
    have before : Unchecked (describe (out.now started) analysis target fetched.2 opts) :=
      ⟨rfl, rfl, rfl⟩
    rw [outcome_orRaise_ok, outcome_bind]
    refine outcome_mono (checkTrust_unchecked before) ?_ fun _ _ _ => trivial
    rintro ⟨judged, trust, verified⟩ checked unchecked
    dsimp only at unchecked ⊢
    rw [outcome_bind]
    refine outcome_mono (checkWarnings_unchecked unchecked _) ?_ fun _ _ _ => trivial
    intro warned final kept
    rw [outcome_bind]
    cases recorded : recordChain warned (displayedChain cert fetched.2 bundle) opts with
    | error raised => exact trivial
    | ok result =>
      rw [outcome_orRaise_ok]
      exact checkRecord_requested (recordChain_unchecked kept recorded)

theorem inspectIn_requested {place : Surroundings ω} {code : Code}
    (returned : inspectIn lib place target port opts = .ok (info, code)) :
    Requested opts place.out.today info := by
  unfold inspectIn at returned
  split at returned
  · rename_i result after ran
    cases returned
    have found := outcome_ok inspect_requested ran
    exact found
  · cases returned

/-! ### Revocation -/

/-- A revocation status is that of a host whose chain is verified, too. -/
def Asked (opts : InspectOptions) (target : Option String) (info : CertificateInfo) : Prop :=
  info.revocationStatus.isSome → opts.verify = true ∧ (given target).isSome

theorem asked_of_none (silent : info.revocationStatus = none) : Asked opts target info := by
  intro some
  rw [silent] at some
  cases some

theorem checkChain_silent (silent : info.revocationStatus = none) :
    Outcome (checkChain lib out info target port cert conn opts bundle) w
      (fun result _ => result.1.revocationStatus = none) fun _ _ => True := by
  unfold checkChain
  rw [outcome_ite]
  split
  · refine outcome_last fun found _ => ?_
    cases found with
    | none => exact silent
    | some verdict =>
      dsimp only
      rw [outcome_ite]
      split
      · exact silent
      · exact outcome_last fun _ _ => silent
  · exact silent

theorem checkTrust_asked (silent : info.revocationStatus = none) :
    Outcome (checkTrust lib out web info target port cert conn opts bundle) w
      (fun result _ => Asked opts target result.1) fun _ _ => True := by
  unfold checkTrust
  rw [outcome_bind]
  refine outcome_mono (checkChain_silent silent) ?_ fun _ _ _ => trivial
  rintro ⟨judged, untrusted, verified⟩ checked kept
  dsimp only at kept ⊢
  rw [outcome_ite]
  split
  · rename_i asked
    exact outcome_last fun _ _ _ => Bool.and_eq_true_iff.mp asked
  · exact asked_of_none kept

theorem checkWarnings_asked (asked : Asked opts target info) (chain : List Certificate) :
    Outcome (checkWarnings out info chain opts) w (fun later _ => Asked opts target later)
      fun _ _ => True :=
  outcome_last fun _ _ => outcome_last fun _ _ => asked

theorem recordChain_revocation {presented : List Certificate} {later : CertificateInfo}
    (recorded : recordChain info presented opts = .ok later) :
    later.revocationStatus = info.revocationStatus := by
  unfold recordChain at recorded
  split at recorded
  · obtain ⟨summaries, _, same⟩ := bind_ok_iff.mp recorded
    cases same
    rfl
  · cases recorded
    rfl

/-- **Revocation is only recorded of a host whose chain is verified.** -/
theorem inspect_asked :
    Outcome (inspect lib out web target port opts) w
      (fun result _ => Asked opts target result.1) fun _ _ => True := by
  refine outcome_last fun fetched _ => outcome_last fun cert _ => outcome_last fun now _ =>
    outcome_last fun analysis _ => ?_
  refine outcome_last fun _ started => ?_
  rw [outcome_bind, outcome_get, outcome_bind]
  cases parsed : fileBundle lib fetched.1 opts with
  | error raised => exact trivial
  | ok bundle =>
    have silent : (describe (out.now started) analysis target fetched.2 opts).revocationStatus = none :=
      rfl
    rw [outcome_orRaise_ok, outcome_bind]
    refine outcome_mono (checkTrust_asked silent) ?_ fun _ _ _ => trivial
    rintro ⟨judged, trust, verified⟩ checked asked
    dsimp only at asked ⊢
    rw [outcome_bind]
    refine outcome_mono (checkWarnings_asked asked _) ?_ fun _ _ _ => trivial
    intro warned final kept
    rw [outcome_bind]
    cases recorded : recordChain warned (displayedChain cert fetched.2 bundle) opts with
    | error raised => exact trivial
    | ok result =>
      rw [outcome_orRaise_ok]
      have same := recordChain_revocation recorded
      have last : (checkRecord out.today result opts).1.revocationStatus = result.revocationStatus := by
        rw [checkRecord_info]
      exact fun some => kept (same ▸ last ▸ some)

theorem inspectIn_asked {place : Surroundings ω} {code : Code}
    (returned : inspectIn lib place target port opts = .ok (info, code)) :
    Asked opts target info := by
  unfold inspectIn at returned
  split at returned
  · rename_i result after ran
    cases returned
    have found := outcome_ok inspect_asked ran
    exact found
  · cases returned

/-! ### The codes -/

theorem hostMismatched_recorded (checked : Checked opts target info) :
    hostMismatched opts target info = (info.hostnameMatch == some false) := by
  unfold hostMismatched
  rw [checked.host]
  cases opts.checkName target with
  | none => rfl
  | some name =>
    rw [Option.any_some, Option.map_some]
    cases Parser.hostnameMatches info.toAnalysis name <;> rfl

theorem pinMismatched_recorded (requested : Requested opts today info) :
    pinMismatched opts info = (info.pinMatch == some false) := by
  unfold pinMismatched
  rw [requested.pin]
  cases given opts.pin with
  | none => rfl
  | some pin =>
    rw [Option.any_some, Option.map_some]
    cases Parser.pinMatches info.toAnalysis pin <;> rfl

theorem sanMissing_recorded (requested : Requested opts today info) :
    sanMissing opts info = (info.expectedSanMissing.getD [] != []) := by
  have missing : sanMissing opts info = true ↔
      Parser.missingSanNames info.toAnalysis (opts.expectSan.getD []) ≠ [] := by
    unfold sanMissing Parser.missingSanNames
    rw [List.any_eq_true, ne_eq, List.filter_eq_nil_iff]
    push Not
    rfl
  rw [requested.san, Bool.eq_iff_iff, missing]
  split
  · rename_i none
    simp [Parser.missingSanNames, none]
  · simp

theorem policyViolated_recorded (requested : Requested opts today info) :
    policyViolated opts today info = (info.policyViolations.getD [] != []) := by
  have violated : policyViolated opts today info =
      (opts.policyRequested && violations today info opts != []) := by
    unfold policyViolated
    congr 1
    rw [Bool.eq_iff_iff, bne_iff_ne, ne_eq, violations_eq_nil_iff, Bool.or_eq_true, bne_iff_ne,
      Bool.and_eq_true, bne_iff_ne, not_and_or, Classical.not_imp]
  rw [violated, requested.policy]
  cases opts.policyRequested <;> rfl

/-- **What a record shows is what the source deserves.** -/
theorem findings_recorded (checked : Checked opts target info)
    (requested : Requested opts today info) :
    findings opts target today info = recordedCodes info := by
  unfold findings recordedCodes
  rw [hostMismatched_recorded checked, pinMismatched_recorded requested,
    sanMissing_recorded requested, policyViolated_recorded requested]

/-- **The code of an inspection is the most severe of those its record shows.** -/
theorem inspectIn_recorded {place : Surroundings ω} {code : Code}
    (returned : inspectIn lib place target port opts = .ok (info, code)) :
    code = mostSevere (recordedCodes info) := by
  obtain ⟨severe, checked⟩ := inspectIn_findings returned
  rw [severe, findings_recorded checked (inspectIn_requested returned)]

end Recorded

end Certinspect.Cli
