/-
**What is wrong with an inspected source.**

`findings` says, from the options and the record of an inspection, which exit codes the source
deserves: one for each failed check and one for its validity status. It does not say how `_inspect`
collects them; that is `inspect_findings`.

* `findings`, `Passed` — the codes, and that no check failed; `findings_ok_iff` connects them.
* `Checked` — the requested checks were made and recorded.
* `checkChain_codes`, `checkRevocation_codes`, `checkTrust_codes`, `checkRecord_codes` — the codes of
  each step, read off the record.
* `inspectCertificate_steps` — the steps together, as far as any result about a record needs them.
* **`inspect_findings`** — the code of an inspection is the most severe of its findings, and the
  requested checks were made.
-/

import Certinspect.Cli.Inspect
import Mathlib.Data.List.ReduceOption

namespace Certinspect.Cli

open Library Fetch

/-! ### The findings -/

/-- The chain is not trusted, or the certificate is revoked. -/
def distrusted (info : CertificateInfo) : Bool :=
  info.chainTrusted == some false || info.revocationStatus == some .revoked

/-- A pin was requested, not empty, and the fingerprint is another. -/
def pinMismatched (opts : InspectOptions) (info : CertificateInfo) : Bool :=
  (given opts.pin).any fun pin => !Parser.pinMatches info.toAnalysis pin

/-- The certificate does not cover the name it is checked against. -/
def hostMismatched (opts : InspectOptions) (target : Option String) (info : CertificateInfo) :
    Bool :=
  (opts.checkName target).any fun name => !Parser.hostnameMatches info.toAnalysis name

/-- The certificate does not cover an expected name. -/
def sanMissing (opts : InspectOptions) (info : CertificateInfo) : Bool :=
  (opts.expectSan.getD []).any fun name => !Parser.hostnameMatches info.toAnalysis name

/-- A requested policy check is violated: one on the certificate or the handshake, or
`--require-revocation-check` when the status is not GOOD. -/
def policyViolated (opts : InspectOptions) (today : Int) (info : CertificateInfo) : Bool :=
  opts.policyRequested &&
    (Parser.policyViolations info.toAnalysis info.tlsVersion.join (opts.policy today) != [] ||
      (opts.requireRevocationCheck && info.revocationStatus != some .good))

/-- **The codes an inspected source deserves**, on the day of the inspection. -/
def findings (opts : InspectOptions) (target : Option String) (today : Int)
    (info : CertificateInfo) : List Code :=
  (if distrusted info then [.exit .untrustedOrRevoked] else []) ++
    (if pinMismatched opts info then [.exit .pinMismatch] else []) ++
    [.exit (exitByStatus info.status)] ++
    (if hostMismatched opts target info then [.exit .hostnameMismatch] else []) ++
    (if sanMissing opts info then [.exit .sanMismatch] else []) ++
    (if policyViolated opts today info then [.exit .policy] else [])

/-- No check failed and the certificate is valid. -/
structure Passed (opts : InspectOptions) (target : Option String) (today : Int)
    (info : CertificateInfo) : Prop where
  trusted : distrusted info = false
  pinned : pinMismatched opts info = false
  valid : info.status = .valid
  host : hostMismatched opts target info = false
  names : sanMissing opts info = false
  policy : policyViolated opts today info = false

/-- The requested checks were made: those of the chain and of revocation left their verdict, those
of the name and of the status recorded what they found. -/
structure Checked (opts : InspectOptions) (target : Option String) (info : CertificateInfo) :
    Prop where
  chain : opts.verify = true → (given opts.file).isSome ∨ (given target).isSome →
    info.chainTrusted.isSome
  revocation : opts.verify = true → (given target).isSome → info.revocationStatus.isSome
  host : info.hostnameMatch = (opts.checkName target).map (Parser.hostnameMatches info.toAnalysis)
  status : ∃ now,
    info.status = Parser.certificateStatus now info.toAnalysis opts.days opts.criticalDays

section Findings

variable {opts : InspectOptions} {target : Option String} {today : Int} {info : CertificateInfo}

/-- The one code of a check that failed. -/
theorem mem_when {failed : Bool} {own code : Code} :
    code ∈ (if failed then [own] else []) ↔ failed = true ∧ code = own := by
  cases failed with
  | true => exact ⟨fun member => ⟨rfl, List.mem_singleton.mp member⟩, fun found => by
      rw [found.2]
      exact List.mem_singleton_self own⟩
  | false => exact ⟨fun absurd => (by cases absurd), fun absurd => (by cases absurd.1)⟩

theorem mem_findings_iff {code : Code} :
    code ∈ findings opts target today info ↔
      (distrusted info = true ∧ code = .exit .untrustedOrRevoked) ∨
      (pinMismatched opts info = true ∧ code = .exit .pinMismatch) ∨
      code = .exit (exitByStatus info.status) ∨
      (hostMismatched opts target info = true ∧ code = .exit .hostnameMismatch) ∨
      (sanMissing opts info = true ∧ code = .exit .sanMismatch) ∨
      (policyViolated opts today info = true ∧ code = .exit .policy) := by
  unfold findings
  simp only [List.mem_append, mem_when, List.mem_singleton, or_assoc]

theorem exitByStatus_ok_iff {status : Status} :
    Code.exit (exitByStatus status) = .exit .ok ↔ status = .valid := by
  cases status <;> decide

/-- **No finding but `ok` exactly when every check passed.** -/
theorem findings_ok_iff :
    (∀ code ∈ findings opts target today info, code = .exit .ok) ↔
      Passed opts target today info := by
  have clean {failed : Bool} {own : Code} (serious : own ≠ .exit .ok)
      (all : ∀ code, failed = true ∧ code = own → code = .exit .ok) : failed = false := by
    cases failed with
    | false => rfl
    | true => exact (serious (all own ⟨rfl, rfl⟩)).elim
  simp only [mem_findings_iff]
  refine ⟨?_, ?_⟩
  · intro all
    refine ⟨clean (by decide) fun code found => all code (Or.inl found),
      clean (by decide) fun code found => all code (Or.inr (Or.inl found)),
      exitByStatus_ok_iff.mp (all _ (Or.inr (Or.inr (Or.inl rfl)))),
      clean (by decide) fun code found => all code (Or.inr (Or.inr (Or.inr (Or.inl found)))),
      clean (by decide) fun code found => all code (Or.inr (Or.inr (Or.inr (Or.inr (Or.inl found))))),
      clean (by decide) fun code found => all code (Or.inr (Or.inr (Or.inr (Or.inr (Or.inr found)))))⟩
  · rintro ⟨trusted, pinned, valid, host, names, policy⟩ code found
    rw [trusted, pinned, host, names, policy, valid] at found
    simp only [Bool.false_eq_true, false_and, or_false, false_or] at found
    exact found

end Findings

/-! ### The codes of the last checks -/

section Record

variable {opts : InspectOptions} {target : Option String} {today : Int} {info : CertificateInfo}

theorem checkPin_code :
    (checkPin info opts).2 = if pinMismatched opts info then some .pinMismatch else none := by
  unfold checkPin pinMismatched
  cases given opts.pin with
  | none => rfl
  | some pin =>
    by_cases same : Parser.pinMatches info.toAnalysis pin = true
    · simp only [same, Option.any_some, Bool.not_true, Bool.false_eq_true, if_true, if_false]
    · rw [Bool.not_eq_true] at same
      simp only [same, Option.any_some, Bool.not_false, Bool.false_eq_true, if_true, if_false]

theorem checkExpectSan_code :
    (checkExpectSan info opts).2 = if sanMissing opts info then some .sanMismatch else none := by
  unfold checkExpectSan sanMissing
  cases opts.expectSan.getD [] with
  | nil => rfl
  | cons name rest =>
    have covered : Parser.missingSanNames info.toAnalysis (name :: rest) = [] ↔
        ¬ (name :: rest).any (fun name => !Parser.hostnameMatches info.toAnalysis name) = true := by
      unfold Parser.missingSanNames
      rw [List.filter_eq_nil_iff, List.any_eq_true]
      push Not
      rfl
    dsimp only
    by_cases none : Parser.missingSanNames info.toAnalysis (name :: rest) = []
    · rw [if_pos none, if_neg (covered.mp none)]
    · rw [if_neg none, if_pos (not_not.mp (mt covered.mpr none))]

/-- The revocation requirement is violated unless the status is GOOD. -/
theorem revocationPolicyViolation_eq_none_iff :
    revocationPolicyViolation info = none ↔ info.revocationStatus = some .good := by
  unfold revocationPolicyViolation
  split
  · rename_i good
    exact ⟨fun _ => good, fun _ => rfl⟩
  · rename_i bad
    exact ⟨fun absurd => (by cases absurd), fun good => (bad good).elim⟩

theorem violations_eq_nil_iff :
    violations today info opts = [] ↔
      Parser.policyViolations info.toAnalysis info.tlsVersion.join (opts.policy today) = [] ∧
        (opts.requireRevocationCheck = true → info.revocationStatus = some .good) := by
  unfold violations
  rw [List.append_eq_nil_iff]
  refine and_congr_right fun _ => ?_
  cases opts.requireRevocationCheck with
  | false => exact ⟨fun _ absurd => (by cases absurd), fun _ => rfl⟩
  | true =>
    rw [if_pos rfl, Option.toList_eq_nil_iff, revocationPolicyViolation_eq_none_iff]
    exact ⟨fun good _ => good, fun good => good rfl⟩

theorem checkPolicy_code :
    (checkPolicy today info opts).2 =
      if policyViolated opts today info then some .policy else none := by
  unfold checkPolicy policyViolated
  cases opts.policyRequested with
  | false => rfl
  | true =>
    rw [if_pos rfl, Bool.true_and]
    dsimp only
    by_cases clean : violations today info opts = []
    · obtain ⟨none, good⟩ := violations_eq_nil_iff.mp clean
      rw [if_pos clean, none]
      cases required : opts.requireRevocationCheck with
      | false => rfl
      | true => rw [good required]; rfl
    · have broken : ¬ (Parser.policyViolations info.toAnalysis info.tlsVersion.join
            (opts.policy today) = [] ∧
          (opts.requireRevocationCheck = true → info.revocationStatus = some .good)) :=
        mt violations_eq_nil_iff.mpr clean
      rw [if_neg clean, if_pos]
      rw [Bool.or_eq_true, bne_iff_ne, Bool.and_eq_true, bne_iff_ne]
      by_cases none : Parser.policyViolations info.toAnalysis info.tlsVersion.join
          (opts.policy today) = []
      · right
        push Not at broken
        exact broken none
      · exact Or.inl none

/-- **The codes of the checks that need only the record.** -/
theorem checkRecord_codes :
    (checkRecord today info opts).2 =
      [if pinMismatched opts info then some .pinMismatch else none,
        if sanMissing opts info then some .sanMismatch else none,
        if policyViolated opts today info then some .policy else none] := by
  have pin : (checkPin info opts).1 = { info with pinMatch := (checkPin info opts).1.pinMatch } := by
    unfold checkPin
    cases given opts.pin <;> rfl
  have san (info : CertificateInfo) : (checkExpectSan info opts).1 =
      { info with expectedSanMissing := (checkExpectSan info opts).1.expectedSanMissing } := by
    unfold checkExpectSan
    cases opts.expectSan.getD [] <;> rfl
  change [(checkPin info opts).2, (checkExpectSan (checkPin info opts).1 opts).2,
    (checkPolicy today (checkExpectSan (checkPin info opts).1 opts).1 opts).2] = _
  rw [checkPin_code, checkExpectSan_code, checkPolicy_code, san, pin]
  rfl

end Record

/-! ### The codes of the chain and of revocation -/

section Trust

variable {ω : Type} {lib : Cryptography} {out : Outside ω} {web : Revocation.Web ω} {w : World ω}
  {opts : InspectOptions} {target : Option String} {port : Int} {info : CertificateInfo}
  {cert : Certificate} {conn : Option ConnectionInfo} {bundle : Option (List Certificate)}

/-- The code for a chain or a certificate that is not to be trusted. -/
def untrustedWhen (failed : Bool) : Option ExitCode :=
  if failed then some .untrustedOrRevoked else none

/-- A source with a chain gets a verdict on it. -/
theorem verifySource_isSome
    (source : ((given opts.file).bind fun _ => bundle).isSome ∨ (given target).isSome) :
    Outcome (verifySource lib out target port cert conn opts bundle) w
      (fun verdict _ => verdict.isSome) fun _ _ => True := by
  unfold verifySource
  cases bundled : (given opts.file).bind fun _ => bundle with
  | some certs => exact outcome_last fun _ _ => rfl
  | none =>
    cases named : given target with
    | some host => exact outcome_last fun _ _ => rfl
    | none =>
      rw [bundled, named] at source
      simp at source

/-- **`_check_chain` gives its code exactly when it records that the chain is not trusted**, and with
verification on it records a verdict for every source with a chain. -/
theorem checkChain_codes (unset : info.chainTrusted = none) :
    Outcome (checkChain lib out info target port cert conn opts bundle) w
      (fun result _ => Extends info result.1 ∧
        result.1.revocationStatus = info.revocationStatus ∧
        result.2.1 = untrustedWhen (result.1.chainTrusted == some false) ∧
        (opts.verify = true →
          ((given opts.file).bind fun _ => bundle).isSome ∨ (given target).isSome →
          result.1.chainTrusted.isSome))
      fun _ _ => True := by
  unfold checkChain
  rw [outcome_ite]
  split
  · rw [outcome_bind]
    have verdicts : Outcome (verifySource lib out target port cert conn opts bundle) w
        (fun verdict _ =>
          ((given opts.file).bind fun _ => bundle).isSome ∨ (given target).isSome →
            verdict.isSome) fun _ _ => True := by
      by_cases source : ((given opts.file).bind fun _ => bundle).isSome ∨ (given target).isSome
      · exact outcome_mono (verifySource_isSome source) (fun _ _ found _ => found) fun _ _ _ => trivial
      · exact outcome_of_forall _ (fun _ _ absurd => (source absurd).elim) fun _ _ => trivial
    refine outcome_mono verdicts ?_ fun _ _ _ => trivial
    rintro (_ | ⟨verdict, presented⟩) after found
    · refine ⟨⟨rfl, rfl, rfl, rfl⟩, rfl, ?_, fun _ source => ?_⟩
      · rw [unset]
        rfl
      · cases found source
    · dsimp only
      rw [outcome_ite]
      split
      · rename_i trusted
        refine ⟨⟨rfl, rfl, rfl, rfl⟩, rfl, ?_, fun _ _ => rfl⟩
        rw [trusted]
        rfl
      · rename_i untrusted
        refine outcome_last fun diagnosis _ => ⟨⟨rfl, rfl, rfl, rfl⟩, rfl, ?_, fun _ _ => rfl⟩
        rw [Bool.not_eq_true] at untrusted
        rw [untrusted]
        rfl
  · rename_i off
    refine ⟨⟨rfl, rfl, rfl, rfl⟩, rfl, ?_, fun on => (off on).elim⟩
    rw [unset]
    rfl

/-- **`_check_revocation` gives its code exactly when it records REVOKED.** -/
theorem checkRevocation_codes {verified : List Certificate} :
    Outcome (checkRevocation lib out web info cert verified) w
      (fun result _ => Extends info result.1 ∧ result.1.chainTrusted = info.chainTrusted ∧
        result.2 = untrustedWhen (result.1.revocationStatus == some .revoked) ∧
        result.1.revocationStatus.isSome)
      fun _ _ => True := by
  refine outcome_last fun _ _ => outcome_last fun _ _ => outcome_last fun verdict _ => ?_
  refine ⟨⟨rfl, rfl, rfl, rfl⟩, rfl, ?_, rfl⟩
  obtain ⟨status, detail⟩ := verdict
  cases status <;> rfl

/-- **The codes of the chain and of revocation together.** -/
theorem checkTrust_codes (unset : info.chainTrusted = none)
    (unasked : info.revocationStatus = none) :
    Outcome (checkTrust lib out web info target port cert conn opts bundle) w
      (fun result _ => Extends info result.1 ∧
        (∀ code, some code ∈ result.2.1 ↔
          distrusted result.1 = true ∧ code = .untrustedOrRevoked) ∧
        (opts.verify = true →
          ((given opts.file).bind fun _ => bundle).isSome ∨ (given target).isSome →
          result.1.chainTrusted.isSome) ∧
        (opts.verify = true → (given target).isSome → result.1.revocationStatus.isSome))
      fun _ _ => True := by
  unfold checkTrust
  rw [outcome_bind]
  refine outcome_mono (checkChain_codes unset) ?_ fun _ _ _ => trivial
  rintro ⟨judged, untrusted, verified⟩ after ⟨kept, same, codes, verdict⟩
  dsimp only at kept same codes verdict ⊢
  rw [outcome_ite]
  split
  · rw [outcome_bind]
    refine outcome_mono checkRevocation_codes ?_ fun _ _ _ => trivial
    rintro ⟨asked, revoked⟩ final ⟨keptToo, sameChain, revokedCode, status⟩
    dsimp only at keptToo sameChain revokedCode status ⊢
    refine ⟨kept.trans keptToo, fun code => ?_, ?_, fun _ _ => status⟩
    · rw [codes, revokedCode, ← sameChain]
      unfold distrusted untrustedWhen
      generalize (asked.chainTrusted == some false) = first
      generalize (asked.revocationStatus == some .revoked) = second
      cases first <;> cases second <;> simp [eq_comm]
    · rw [sameChain]
      exact verdict
  · rename_i off
    refine ⟨kept, fun code => ?_, verdict, fun on host => (off ?_).elim⟩
    · rw [codes]
      unfold distrusted untrustedWhen
      rw [same, unasked]
      generalize (judged.chainTrusted == some false) = first
      cases first <;> simp [eq_comm]
    · rw [on, host]
      rfl

end Trust

/-! ### The whole inspection -/

section Inspect

variable {ω : Type} {lib : Cryptography} {out : Outside ω} {web : Revocation.Web ω} {w : World ω}
  {opts : InspectOptions} {target : Option String} {port : Int}

theorem mem_exitCodes_iff {codes : List (Option ExitCode)} {code : Code} :
    code ∈ exitCodes codes ↔ ∃ own, some own ∈ codes ∧ code = .exit own := by
  unfold exitCodes
  rw [List.mem_map]
  simp only [List.reduceOption_mem_iff]
  exact exists_congr fun own => and_congr_right fun _ => eq_comm

theorem some_eq_when {failed : Bool} {own code : ExitCode} :
    some code = (if failed then some own else none) ↔ failed = true ∧ code = own := by
  cases failed <;> simp

/-- The codes of all checks, whatever their order, are the findings. -/
theorem mostSevere_findings {info : CertificateInfo} {trust : List (Option ExitCode)} {today : Int}
    (trusted : ∀ code, some code ∈ trust ↔
      distrusted info = true ∧ code = .untrustedOrRevoked) :
    mostSevere (exitCodes ([some (exitByStatus info.status),
        if hostMismatched opts target info then some .hostnameMismatch else none] ++ trust ++
      [if pinMismatched opts info then some .pinMismatch else none,
        if sanMissing opts info then some .sanMismatch else none,
        if policyViolated opts today info then some .policy else none])) =
      mostSevere (findings opts target today info) := by
  refine mostSevere_congr fun code => ?_
  rw [mem_exitCodes_iff, mem_findings_iff]
  simp only [List.mem_append, List.mem_cons, List.not_mem_nil, or_false, trusted,
    Option.some.injEq, some_eq_when, or_and_right, exists_or, and_assoc, exists_and_left,
    exists_eq_left]
  simp only [or_assoc, or_left_comm, or_comm]

theorem findings_congr {info later : CertificateInfo} {today : Int} (kept : Keeps info later) :
    findings opts target today later = findings opts target today info := by
  unfold findings distrusted pinMismatched hostMismatched sanMissing policyViolated
  rw [kept.analysis, kept.status, kept.tlsVersion, kept.chain, kept.revocation]

theorem hostMismatched_congr {info later : CertificateInfo} (kept : Extends info later) :
    hostMismatched opts target later = hostMismatched opts target info := by
  unfold hostMismatched
  rw [kept.analysis]

/-- The last checks give the same codes on a later record. -/
theorem checkRecord_codes_congr {info later : CertificateInfo} {today : Int}
    (kept : Keeps info later) :
    (checkRecord today later opts).2 =
      [if pinMismatched opts info then some .pinMismatch else none,
        if sanMissing opts info then some .sanMismatch else none,
        if policyViolated opts today info then some .policy else none] := by
  rw [checkRecord_codes]
  unfold pinMismatched sanMissing policyViolated
  rw [kept.analysis, kept.tlsVersion, kept.revocation]

/-- What was checked stays recorded. -/
theorem checked_of_keeps {info later : CertificateInfo} (kept : Keeps info later)
    (checked : Checked opts target info) : Checked opts target later where
  chain := by
    rw [kept.chain]
    exact checked.chain
  revocation := by
    rw [kept.revocation]
    exact checked.revocation
  host := by
    rw [kept.hostnameMatch, kept.analysis]
    exact checked.host
  status := by
    rw [kept.status, kept.analysis]
    exact checked.status

/-- The record before the first check of the chain has the code of its name check. -/
theorem describe_host (now : Instant) (analysis : Analysis) (conn : Option ConnectionInfo) :
    (if (describe now analysis target conn opts).hostnameMatch = some false then
        some ExitCode.hostnameMismatch else none) =
      if hostMismatched opts target (describe now analysis target conn opts) then
        some .hostnameMismatch else none := by
  have same : (describe now analysis target conn opts).hostnameMatch = some false ↔
      hostMismatched opts target (describe now analysis target conn opts) = true := by
    unfold describe hostMismatched
    cases opts.checkName target with
    | none => simp
    | some name => simp
  by_cases failed : hostMismatched opts target (describe now analysis target conn opts) = true
  · rw [if_pos failed, if_pos (same.mpr failed)]
  · rw [if_neg failed, if_neg (mt same.mp failed)]

/-- A bundle is parsed whenever a file is verified. -/
theorem fileBundle_isSome {der : Bytes} {bundle : Option (List Certificate)}
    (parsed : fileBundle lib der opts = .ok bundle) (verified : opts.verify = true)
    (file : (given opts.file).isSome) : ((given opts.file).bind fun _ => bundle).isSome := by
  unfold fileBundle at parsed
  rw [file, verified, Bool.true_or, Bool.and_self, if_pos rfl] at parsed
  obtain ⟨path, named⟩ := Option.isSome_iff_exists.mp file
  cases loaded : Parser.loadCertificates lib der with
  | error raised =>
    rw [loaded] at parsed
    cases parsed
  | ok certs =>
    rw [loaded] at parsed
    cases parsed
    rw [named]
    rfl

/-- The steps of `_inspect` from the analysis on: the record that the chain and revocation are judged
on (`judged`), the one before the last checks (`recorded`), and the code from all of them. -/
theorem inspectCertificate_steps {der : Bytes} {conn : Option ConnectionInfo}
    {cert : Certificate} {analysis : Analysis} :
    Outcome (inspectCertificate lib out web target port opts der conn cert analysis) w
      (fun result _ => ∃ started bundle judged trust recorded,
        fileBundle lib der opts = .ok bundle ∧
        Extends (describe (out.now started) analysis target conn opts) judged ∧
        (∀ code, some code ∈ trust ↔ distrusted judged = true ∧ code = .untrustedOrRevoked) ∧
        (opts.verify = true →
          ((given opts.file).bind fun _ => bundle).isSome ∨ (given target).isSome →
          judged.chainTrusted.isSome) ∧
        (opts.verify = true → (given target).isSome → judged.revocationStatus.isSome) ∧
        Keeps judged recorded ∧
        result.1 = (checkRecord out.today recorded opts).1 ∧
        result.2 = mostSevere (exitCodes ([some (exitByStatus result.1.status),
          if hostMismatched opts target (describe (out.now started) analysis target conn opts) then
            some .hostnameMismatch else none] ++ trust ++ (checkRecord out.today recorded opts).2)))
      fun _ _ => True := by
  refine outcome_last fun _ started => ?_
  rw [outcome_bind, outcome_get, outcome_bind]
  cases parsed : fileBundle lib der opts with
  | error raised => exact trivial
  | ok bundle =>
    rw [outcome_orRaise_ok, describe_host, outcome_bind]
    refine outcome_mono (checkTrust_codes rfl rfl) ?_ fun _ _ _ => trivial
    rintro ⟨judged, trust, verified⟩ checked ⟨described, trusted, chain, revocation⟩
    dsimp only at described trusted chain revocation ⊢
    rw [outcome_bind]
    refine outcome_mono (checkWarnings_keeps _) ?_ fun _ _ _ => trivial
    intro warned final kept
    rw [outcome_bind]
    cases recorded : recordChain warned (displayedChain cert conn bundle) opts with
    | error raised => exact trivial
    | ok result =>
      rw [outcome_orRaise_ok]
      exact ⟨started, bundle, judged, trust, result, rfl, described, trusted, chain, revocation,
        kept.trans (recordChain_keeps recorded), rfl, rfl⟩

/-- `_inspect`, from the analysis on. -/
theorem inspectCertificate_findings {der : Bytes} {conn : Option ConnectionInfo}
    {cert : Certificate} {analysis : Analysis} :
    Outcome (inspectCertificate lib out web target port opts der conn cert analysis) w
      (fun result _ => result.2 = mostSevere (findings opts target out.today result.1) ∧
        Checked opts target result.1) fun _ _ => True := by
  refine outcome_mono inspectCertificate_steps ?_ fun _ _ _ => trivial
  rintro ⟨info, code⟩ _ ⟨started, bundle, judged, trust, recorded, parsed, described, trusted, chain,
    revocation, kept, rfl, severe⟩
  dsimp only at severe ⊢
  have later : Keeps judged (checkRecord out.today recorded opts).1 :=
    kept.trans (checkRecord_keeps out.today)
  refine ⟨?_, checked_of_keeps later ?_⟩
  · rw [severe, findings_congr later, later.status, checkRecord_codes_congr kept,
      ← hostMismatched_congr described]
    exact mostSevere_findings trusted
  · refine ⟨fun on source => chain on ?_, revocation, ?_, out.now started, ?_⟩
    · exact source.imp_left (fileBundle_isSome parsed on)
    · rw [described.hostnameMatch, described.analysis]
      rfl
    · rw [described.status, described.analysis]
      rfl

/-- **`_inspect` masks no finding**: whenever it returns, its code is the most severe of the findings
on the record it returns, and the record shows that the requested checks were made. -/
theorem inspect_findings :
    Outcome (inspect lib out web target port opts) w
      (fun result _ => result.2 = mostSevere (findings opts target out.today result.1) ∧
        Checked opts target result.1) fun _ _ => True :=
  outcome_last fun _ _ => outcome_last fun _ _ => outcome_last fun _ _ => outcome_last fun _ _ =>
    inspectCertificate_findings

/-- `inspect_findings`, for an inspection in its surroundings. -/
theorem inspectIn_findings {place : Surroundings ω} {info : CertificateInfo} {code : Code}
    (returned : inspectIn lib place target port opts = .ok (info, code)) :
    code = mostSevere (findings opts target place.out.today info) ∧ Checked opts target info := by
  unfold inspectIn at returned
  split at returned
  · rename_i result after ran
    cases returned
    have found := outcome_ok inspect_findings ran
    exact found
  · cases returned

end Inspect

end Certinspect.Cli
