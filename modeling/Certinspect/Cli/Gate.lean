/-
**The policy gate on the parsed options, `_check_policy` in `cli.py`.**

An option that a config file sets may hold any value, and neither `load_config` nor `_validate_args`
looks at those of the policy. So the gate is modelled here on values: a comparison raises for what is no
number, and a version that is no text is unknown.

* `compareValue`, `tlsVersionRank` — what the gate makes of a value.
* `policyViolations`, `checkPolicy` — the gate; `checkPolicy_typed` — on options of the declared types
  it is that of `InspectOptions`.
* `Passes`, `passes_iff` — that it gives no exit code.
* `KnownInConfig` — the minimum of the config file is a known version, where it is in effect;
  `minTlsVersion_known` — then so is the minimum of the run.
* **`tlsGate_iff`** — which handshakes the minimum lets pass.
-/

import Certinspect.Cli.Overrides
import Certinspect.Parser.Policy
import Mathlib.Algebra.Order.Ring.Int

namespace Certinspect.Cli.Gate

open Library

/-! ### Values -/

/-- A whole number against a float; there is no order to what is no number. -/
def compareFloat (n : Int) (bits : UInt64) : Option Ordering :=
  let negative := bits.toNat / 2 ^ 63 == 1
  let exponent : Nat := bits.toNat / 2 ^ 52 % 2 ^ 11
  let fraction : Nat := bits.toNat % 2 ^ 52
  if exponent = 2047 then
    if fraction = 0 then some (if negative then .gt else .lt) else none
  else
    let significand : Int := if exponent = 0 then fraction else 2 ^ 52 + fraction
    -- The float is the significand times `2 ^ (max exponent 1 - 1075)`.
    some (compare (n * 2 ^ 1075) ((if negative then -significand else significand) *
      2 ^ max exponent 1))

/-- A whole number against a value: an ordering, or the class of the exception. -/
def compareValue (n : Int) : Value → Except ExcClass (Option Ordering)
  | .scalar (.int m) => .ok (some (compare n m))
  | .scalar (.bool b) => .ok (some (compare n (if b then 1 else 0)))
  | .scalar (.float bits) => .ok (compareFloat n bits)
  | _ => .error .typeError

/-- `tls_version_rank`: what is no text is unknown, and what has no hash raises. -/
def tlsVersionRank : Value → Except ExcClass (Option Nat)
  | .scalar (.str version) => .ok (Parser.tlsVersionRank version)
  | .scalar _ => .ok none
  | .list _ | .table _ => .error .typeError

/-- A float is compared exactly: `2048.0`, `398.5`, `-inf`, and no number. -/
example : compareFloat 2048 0x40A0000000000000 = some .eq ∧
    compareFloat 398 0x4078E80000000000 = some .lt ∧ compareFloat 0 0xFFF0000000000000 = some .gt ∧
    compareFloat 0 0x7FF8000000000000 = none := by
  decide +kernel

/-! ### The gate -/

/-- `_POLICY_OPTIONS`. -/
def policyOptions : List String :=
  ["not_after_max", "cab_forum", "min_key_size", "fail_weak", "require_sct", "require_must_staple",
    "require_revocation_check", "min_tls_version"]

/-- `value is None or value is False`. -/
def isOff : Value → Bool
  | .scalar .none | .scalar (.bool false) => true
  | _ => false

/-- `policy_requested`. -/
def policyRequested (args : Namespace) : Bool :=
  policyOptions.any fun name => !isOff (args name)

/-- What `_check_policy` enforces. -/
structure Enforced where
  notAfterMax : Value
  minKeySize : Value
  failWeak : Bool
  requireSct : Bool
  requireMustStaple : Bool
  minTlsVersion : Value
  requireRevocationCheck : Bool

/-- What `_check_policy` enforces with these arguments. -/
def enforced (today : Int) (args : Namespace) : Enforced where
  notAfterMax := validityCap today args
  minKeySize := args "min_key_size"
  failWeak := (args "fail_weak").truthy
  requireSct := (args "require_sct").truthy
  requireMustStaple := (args "require_must_staple").truthy
  minTlsVersion := args "min_tls_version"
  requireRevocationCheck := (args "require_revocation_check").truthy

section Gate

variable (shown : Value → String)

/-- The `not_after_max` check. -/
def validityViolations (info : Analysis) (notAfterMax : Value) : Except ExcClass (List String) :=
  if isNone notAfterMax then .ok []
  else (compareValue info.validityDays notAfterMax).map fun order =>
    if order = some .gt then
      [s!"total validity {info.validityDays} days exceeds the {shown notAfterMax}-day maximum"]
    else []

/-- The `min_key_size` check. -/
def keySizeViolations (info : Analysis) (minKeySize : Value) : Except ExcClass (List String) :=
  match info.keySize with
  | none => .ok []
  | some size =>
    if !isNone minKeySize && Parser.sizeCheckedKeyTypes.contains info.keyType then
      (compareValue size minKeySize).map fun order =>
        if order = some .lt then
          [s!"key size {size} bit is below the {shown minKeySize}-bit minimum"]
        else []
    else .ok []

/-- The `min_tls_version` check, on the version the handshake reported, if there was one. -/
def tlsViolations (negotiated : Option String) (minTlsVersion : Value) :
    Except ExcClass (List String) :=
  if isNone minTlsVersion then .ok []
  else (tlsVersionRank minTlsVersion).map fun minRank =>
    match given negotiated, minRank with
    | some version, some least =>
      match Parser.tlsVersionRank version with
      | some rank =>
        if rank < least then
          [s!"TLS version {version} is below the required {shown minTlsVersion}"]
        else []
      | none => []
    | _, _ => []

/-- `policy_violations`. -/
def policyViolations (info : Analysis) (tlsVersion : Option String) (policy : Enforced) :
    Except ExcClass (List String) := do
  let validity ← validityViolations shown info policy.notAfterMax
  let keySize ← keySizeViolations shown info policy.minKeySize
  let tls ← tlsViolations shown tlsVersion policy.minTlsVersion
  pure (validity ++ keySize ++ (if policy.failWeak then info.weak else []) ++
    (if policy.requireSct ∧ info.sctCount = 0 then
      ["no embedded Signed Certificate Timestamps (Certificate Transparency)"] else []) ++
    (if policy.requireMustStaple ∧ info.mustStaple = false then
      ["missing OCSP Must-Staple extension"] else []) ++ tls)

/-- `_check_policy`. -/
def checkPolicy (today : Int) (info : CertificateInfo) (args : Namespace) :
    Except ExcClass (CertificateInfo × Option ExitCode) :=
  if policyRequested args then do
    let policy := enforced today args
    let found ← policyViolations shown info.toAnalysis info.tlsVersion.join policy
    let violations := found ++
      if policy.requireRevocationCheck then (revocationPolicyViolation info).toList else []
    pure ({ info with policyViolations := some violations },
      if violations = [] then none else some .policy)
  else pure (info, none)

end Gate

/-! ### Options of the declared types -/

section Typed

variable {shown : Value → String} {args : Namespace} {opts : InspectOptions} {today : Int}
  {info : CertificateInfo} {negotiated : Option String}

/-- A text that may be missing. -/
def textOf : Option String → Scalar
  | some text => .str text
  | none => .none

/-- The options of the policy are these, as the parser stores them. -/
structure Reads (args : Namespace) (opts : InspectOptions) : Prop where
  notAfterMax : args "not_after_max" = .scalar (limitOf opts.notAfterMax)
  cabForum : args "cab_forum" = .scalar (.bool opts.cabForum)
  minKeySize : args "min_key_size" = .scalar (limitOf opts.minKeySize)
  failWeak : args "fail_weak" = .scalar (.bool opts.failWeak)
  requireSct : args "require_sct" = .scalar (.bool opts.requireSct)
  requireMustStaple : args "require_must_staple" = .scalar (.bool opts.requireMustStaple)
  requireRevocationCheck :
    args "require_revocation_check" = .scalar (.bool opts.requireRevocationCheck)
  minTlsVersion : args "min_tls_version" = .scalar (textOf opts.minTlsVersion)

/-- Numbers and texts are shown as they are. -/
structure ShownPlain (shown : Value → String) : Prop where
  int : ∀ n : Int, shown (.scalar (.int n)) = toString n
  str : ∀ text, shown (.scalar (.str text)) = text

theorem validityViolations_typed (plain : ShownPlain shown) {limit : Option Int} :
    validityViolations shown info.toAnalysis (.scalar (limitOf limit)) =
      .ok (Parser.validityViolations info.toAnalysis limit) := by
  cases limit with
  | none => rfl
  | some days =>
    simp only [validityViolations, Parser.validityViolations, limitOf, isNone, compareValue, Except.map,
      plain.int, Option.some_inj, compare_gt_iff_gt, Bool.false_eq_true, if_false]
    rfl

theorem keySizeViolations_typed (plain : ShownPlain shown) {limit : Option Int} :
    keySizeViolations shown info.toAnalysis (.scalar (limitOf limit)) =
      .ok (Parser.keySizeViolations info.toAnalysis limit) := by
  unfold keySizeViolations Parser.keySizeViolations
  cases info.keySize with
  | none => cases limit <;> rfl
  | some size =>
    cases limit with
    | none => rfl
    | some bits =>
      dsimp only [limitOf, isNone]
      by_cases checked : Parser.sizeCheckedKeyTypes.contains info.keyType = true
      · simp only [checked, compareValue, Except.map, plain.int, Option.some_inj, compare_lt_iff_lt,
          Bool.not_false, Bool.and_self, if_true, true_and]
        rfl
      · simp only [checked, Bool.not_false, Bool.and_false, Bool.false_eq_true, if_false, false_and]

theorem tlsViolations_typed (plain : ShownPlain shown) {required : Option String} :
    tlsViolations shown negotiated (.scalar (textOf required)) =
      .ok (Parser.tlsViolations negotiated required) := by
  cases required with
  | none => rfl
  | some minimum =>
    unfold tlsViolations Parser.tlsViolations
    rw [textOf, plain.str]
    show Except.ok _ = _
    cases given negotiated with
    | none => rfl
    | some version =>
      cases wanted : Parser.tlsVersionRank minimum with
      | none => cases known : Parser.tlsVersionRank version <;> simp [known, wanted]
      | some least => cases known : Parser.tlsVersionRank version <;> simp [known, wanted]

theorem isOff_limitOf (limit : Option Int) : (!isOff (.scalar (limitOf limit))) = limit.isSome := by
  cases limit <;> rfl

theorem isOff_textOf (text : Option String) : (!isOff (.scalar (textOf text))) = text.isSome := by
  cases text <;> rfl

theorem isOff_bool (b : Bool) : (!isOff (.scalar (.bool b))) = b := by
  cases b <;> rfl

/-- **On options of the declared types the gate is that of `InspectOptions`.** -/
theorem checkPolicy_typed (plain : ShownPlain shown) (reads : Reads args opts) :
    checkPolicy shown today info args = .ok (Cli.checkPolicy today info opts) := by
  have requested : policyRequested args = opts.policyRequested := by
    unfold policyRequested policyOptions InspectOptions.policyRequested
    simp only [List.any_cons, List.any_nil, reads.notAfterMax, reads.cabForum, reads.minKeySize,
      reads.failWeak, reads.requireSct, reads.requireMustStaple, reads.requireRevocationCheck,
      reads.minTlsVersion, isOff_limitOf, isOff_textOf, isOff_bool, Bool.or_assoc, Bool.or_false]
  have policy : policyViolations shown info.toAnalysis info.tlsVersion.join (enforced today args) =
      .ok (Parser.policyViolations info.toAnalysis info.tlsVersion.join (opts.policy today)) := by
    unfold policyViolations enforced Parser.policyViolations
    simp only [validityCap_policy today opts args reads.cabForum reads.notAfterMax, reads.minKeySize,
      reads.failWeak, reads.requireSct, reads.requireMustStaple, reads.minTlsVersion,
      validityViolations_typed plain, keySizeViolations_typed plain, tlsViolations_typed plain]
    rfl
  have revocation : (enforced today args).requireRevocationCheck = opts.requireRevocationCheck := by
    unfold enforced
    rw [reads.requireRevocationCheck]
    rfl
  unfold checkPolicy Cli.checkPolicy violations
  dsimp only
  rw [requested, revocation, policy]
  cases opts.policyRequested <;> rfl

end Typed

/-! ### The minimum of a run -/

section Minimum

variable {shown : Value → String} {readers : Readers} {config : Dict String Value} {cmd : CommandLine}
  {args filled : Namespace} {preset : Parser.PolicyProfile} {value : Value}
  {negotiated : Option String}

/-- The value names a version that the program knows. -/
def KnownVersion (value : Value) : Prop :=
  ∃ version rank, value = .scalar (.str version) ∧ Parser.tlsVersionRank version = some rank

/-- The config file sets a minimum only that names a version, unless the command line overrides it. -/
def KnownInConfig (config : Dict String Value) (cmd : CommandLine) : Prop :=
  ¬ buildParser.Explicit cmd "min_tls_version" →
    ∀ value, config.lookup "min_tls_version" = some value → KnownVersion value

/-- The negotiated version and the required one are known, and the former is as new. -/
def NewEnough (negotiated : Option String) (required : Value) : Prop :=
  ∃ version minimum rank least, negotiated = some version ∧ required = .scalar (.str minimum) ∧
    Parser.tlsVersionRank version = some rank ∧ Parser.tlsVersionRank minimum = some least ∧
    least ≤ rank

/-- What `--min-tls-version` accepts. -/
theorem buildParser_minTlsVersion : ∀ action ∈ buildParser.actions,
    action.dest = "min_tls_version" →
      action.kind = .store .text (some [.str "TLSv1", .str "TLSv1.1", .str "TLSv1.2", .str "TLSv1.3"])
      := by
  decide +kernel

/-- A preset is one of `POLICY_PROFILES`. -/
theorem presetOf_mem (found : presetOf value = .ok preset) :
    ∃ name, value = .scalar (.str name) ∧ (name, preset) ∈ Parser.policyProfiles := by
  unfold presetOf at found
  split at found
  · rename_i name
    split at found
    · rename_i listed
      cases found
      obtain ⟨before, after, split, _⟩ := List.lookup_eq_some_iff.mp listed
      exact ⟨name, rfl, split ▸ List.mem_append_right _ List.mem_cons_self⟩
    · cases found
  · cases found
  · cases found
  · cases found

/-- `_apply_profile` fills in a preset, or nothing. -/
theorem applyProfile_cases (applied : applyProfile args = .ok filled) :
    filled = args ∨
      ∃ name preset, (name, preset) ∈ Parser.policyProfiles ∧ filled = fillIn preset args := by
  unfold applyProfile at applied
  split at applied
  · cases named : presetOf (args "profile") with
    | error raised =>
      rw [named] at applied
      cases applied
    | ok preset =>
      rw [named] at applied
      obtain ⟨name, _, member⟩ := presetOf_mem named
      exact Or.inr ⟨name, preset, member, (Except.ok.inj applied).symm⟩
  · exact Or.inl (Except.ok.inj applied).symm

/-- The minimum that was parsed is a known version, unless another one of the config file is in
effect. -/
theorem args_minTlsVersion (parsed : buildParser.parse readers config cmd = some args)
    (known : KnownInConfig config cmd) :
    isNone (args "min_tls_version") = true ∨ KnownVersion (args "min_tls_version") := by
  by_cases explicit : buildParser.Explicit cmd "min_tls_version"
  · right
    obtain ⟨value, given, stored⟩ := args_stored parsed explicit fun action member own => by
      rw [Action.appends, buildParser_minTlsVersion action member own]
    obtain ⟨action, member, own, argument, read⟩ := Parser.lastGiven_read given
    obtain ⟨_, _, choice⟩ := Action.read_store (buildParser_minTlsVersion action member own) read
    have ranked : ∀ choice ∈ [Scalar.str "TLSv1", .str "TLSv1.1", .str "TLSv1.2", .str "TLSv1.3"],
        ∃ version rank, choice = .str version ∧ Parser.tlsVersionRank version = some rank := by
      simp only [List.forall_mem_cons]
      exact ⟨⟨_, 2, rfl, by decide⟩, ⟨_, 3, rfl, by decide⟩, ⟨_, 4, rfl, by decide⟩,
        ⟨_, 5, rfl, by decide⟩, fun _ absurd => (by cases absurd)⟩
    obtain ⟨version, rank, same, ranks⟩ := ranked value (choice _ rfl)
    exact ⟨version, rank, by rw [stored, same], ranks⟩
  · have default := args_absent parsed (fun action member own => by
      rw [Action.type, buildParser_minTlsVersion action member own]) (by decide) explicit
    rw [Parser.initial_eq] at default
    cases set : config.lookup "min_tls_version" with
    | none =>
      left
      rw [default, set]
      decide +kernel
    | some value =>
      right
      rw [default, set]
      exact known explicit value set

/-- **So is the minimum of a run.** -/
theorem minTlsVersion_known (parsed : buildParser.parse readers config cmd = some args)
    (known : KnownInConfig config cmd)
    (applied : applyProfile args = .ok filled) :
    isNone (filled "min_tls_version") = true ∨ KnownVersion (filled "min_tls_version") := by
  have presets : ∀ entry ∈ Parser.policyProfiles, ∀ version, entry.2.minTlsVersion = some version →
      (Parser.tlsVersionRank version).isSome := by
    decide
  rcases applyProfile_cases applied with same | ⟨name, preset, member, same⟩
  · rw [same]
    exact args_minTlsVersion parsed known
  · rw [same, fillIn_minTlsVersion]
    split
    · rename_i fills
      rw [Bool.and_eq_true, Bool.and_eq_true] at fills
      obtain ⟨version, set⟩ := Option.isSome_iff_exists.mp fills.1.1
      obtain ⟨rank, ranks⟩ := Option.isSome_iff_exists.mp (presets _ member version set)
      exact Or.inr ⟨version, rank, by rw [set]; rfl, ranks⟩
    · exact args_minTlsVersion parsed known

theorem tlsViolations_known_iff {required : String} {least : Nat}
    (known : Parser.tlsVersionRank required = some least) :
    tlsViolations shown negotiated (.scalar (.str required)) = .ok [] ↔
      ∀ version, given negotiated = some version →
        ∀ rank, Parser.tlsVersionRank version = some rank → least ≤ rank := by
  unfold tlsViolations
  simp only [isNone, tlsVersionRank, known, Except.map, Bool.false_eq_true, if_false,
    Except.ok.injEq]
  cases given negotiated with
  | none => simp
  | some version =>
    cases ranks : Parser.tlsVersionRank version with
    | none => simp [ranks]
    | some rank => simp [ranks]

/-- **Which handshakes the minimum lets pass**: those of an unknown version, and those that are as new
as it. -/
theorem tlsGate_iff (shown : Value → String) (readers : Readers) (config : Dict String Value)
    (cmd : CommandLine) (args filled : Namespace)
    (parsed : buildParser.parse readers config cmd = some args)
    (applied : applyProfile args = .ok filled)
    (known : KnownInConfig config cmd)
    (asked : isNone (filled "min_tls_version") = false) (negotiated : Option String) :
    ∃ required least, filled "min_tls_version" = .scalar (.str required) ∧
      Parser.tlsVersionRank required = some least ∧
      (tlsViolations shown negotiated (filled "min_tls_version") = .ok [] ↔
        ∀ version, given negotiated = some version →
          ∀ rank, Parser.tlsVersionRank version = some rank → least ≤ rank) := by
  rcases minTlsVersion_known parsed known applied with none | ⟨required, least, same, ranks⟩
  · rw [asked] at none
    cases none
  · exact ⟨required, least, same, ranks, same ▸ tlsViolations_known_iff ranks⟩

theorem isStr_iff {text : String} : isStr text value = true ↔ value = .scalar (.str text) := by
  unfold isStr
  split
  · rw [beq_iff_eq, Value.scalar.injEq, Scalar.str.injEq]
  · rename_i other
    exact iff_of_false Bool.false_ne_true (other text)

/-- `certinspect --min-tls-version TLSv1.3 a.com`. -/
def tlsCommand : CommandLine := ⟨[("--min-tls-version", some "TLSv1.3")], ["a.com"]⟩

/-- What is read of it. -/
theorem tlsCommand_args : ∃ args, buildParser.parse sampleReaders ∅ tlsCommand = some args ∧
    applyProfile args = .ok args ∧ args "min_tls_version" = .scalar (.str "TLSv1.3") := by
  have accepted : ((buildParser.parse sampleReaders ∅ tlsCommand).map fun args =>
      !(args "profile").truthy && isStr "TLSv1.3" (args "min_tls_version")) = some true := by
    decide +kernel
  obtain ⟨args, parsed, both⟩ := Option.map_eq_some_iff.mp accepted
  obtain ⟨plain, version⟩ := Bool.and_eq_true_iff.mp both
  refine ⟨args, parsed, ?_, isStr_iff.mp version⟩
  unfold applyProfile
  rw [if_neg]
  exact Bool.eq_false_iff.mp (Bool.not_eq_eq_eq_not.mp plain)

theorem tlsGate_iff_command : ∃ args : Namespace, ∃ required least,
    args "min_tls_version" = .scalar (.str required) ∧
      Parser.tlsVersionRank required = some least ∧
      (tlsViolations (fun _ => "TLSv1.3") (some "TLSv1.2") (args "min_tls_version") = .ok [] ↔
        ∀ version, given (some "TLSv1.2") = some version →
          ∀ rank, Parser.tlsVersionRank version = some rank → least ≤ rank) := by
  obtain ⟨args, parsed, applied, same⟩ := tlsCommand_args
  exact ⟨args, tlsGate_iff (fun _ => "TLSv1.3") sampleReaders ∅ tlsCommand args args parsed applied
    (fun _ _ absurd => by cases absurd) (by rw [same]; rfl) (some "TLSv1.2")⟩

/-- Without a version, and with an unknown one, nothing is reported. -/
theorem not_tlsGate_closed : ∃ args, buildParser.parse sampleReaders ∅ tlsCommand = some args ∧
    applyProfile args = .ok args ∧
    ∀ negotiated ∈ [none, some "TLSv1.4"],
      tlsViolations (fun _ => "TLSv1.3") negotiated (args "min_tls_version") = .ok [] ∧
        ¬ NewEnough negotiated (args "min_tls_version") := by
  obtain ⟨args, parsed, applied, same⟩ := tlsCommand_args
  refine ⟨args, parsed, applied, ?_⟩
  rw [same]
  intro negotiated member
  rcases List.mem_pair.mp member with rfl | rfl
  · refine ⟨rfl, fun enough => ?_⟩
    obtain ⟨version, _, _, _, absurd, _⟩ := enough
    cases absurd
  · refine ⟨by decide, fun enough => ?_⟩
    obtain ⟨version, _, rank, _, there, _, known, _⟩ := enough
    cases there
    have unknown : Parser.tlsVersionRank "TLSv1.4" = none := by decide
    rw [unknown] at known
    cases known

end Minimum

end Certinspect.Cli.Gate
