/-
**The ladder of the policy profiles, `_apply_profile` and `_check_policy`.**

A preset fills in the options that are unset, skips one for `--file`, sets the boolean ones, and sets
the cap of the CA/Browser Forum only without another cap. What the gate then enforces may come from a
config file, so it is compared as values: each is at least as strict as itself and as none.

* `AtLeastAsStrict` — one set of options against another; `policyViolations_weaken` — what passes the
  stricter passes the other.
* `policyProfiles_ladder` — each preset is above those before it; `enforced_above` — with any other
  arguments, so is what it enforces.
* `fillIn_explicit` — an explicit option keeps its value.
* **`profiles_ladder`** — a stricter policy is stricter, and strict is above standard, standard above
  lenient.
-/

import Certinspect.Cli.Findings
import Certinspect.Cli.Gate

namespace Certinspect.Cli.Gate

open Library

/-! ### At least as strict -/

section Strictness

variable {shown : Value → String} {info : Analysis} {tlsVersion : Option String}
  {first second : Value}

/-- A value is at least as strict as itself and as none. -/
def AtLeast (first second : Value) : Prop := first = second ∨ isNone second = true

/-- So is a smaller cap than a larger one. -/
def AtLeastCap (first second : Value) : Prop :=
  AtLeast first second ∨
    ∃ cap limit, first = .scalar (.int cap) ∧ second = .scalar (.int limit) ∧ cap ≤ limit

/-- So is a larger size than a smaller one. -/
def AtLeastSize (first second : Value) : Prop :=
  AtLeast first second ∨
    ∃ more bits, first = .scalar (.int more) ∧ second = .scalar (.int bits) ∧ bits ≤ more

/-- So is a newer version than an older one, both known. -/
def AtLeastTls (first second : Value) : Prop :=
  AtLeast first second ∨ ∃ version required, first = .scalar (.str version) ∧
    second = .scalar (.str required) ∧ Parser.AtLeastVersion version required

/-- **The first enforces at least as much as the second.** -/
structure AtLeastAsStrict (first second : Enforced) : Prop where
  notAfterMax : AtLeastCap first.notAfterMax second.notAfterMax
  minKeySize : AtLeastSize first.minKeySize second.minKeySize
  failWeak : second.failWeak = true → first.failWeak = true
  requireSct : second.requireSct = true → first.requireSct = true
  requireMustStaple : second.requireMustStaple = true → first.requireMustStaple = true
  minTlsVersion : AtLeastTls first.minTlsVersion second.minTlsVersion
  requireRevocationCheck : second.requireRevocationCheck = true → first.requireRevocationCheck = true

theorem validityViolations_weaken (stricter : AtLeastCap first second)
    (passes : validityViolations shown info first = .ok []) :
    validityViolations shown info second = .ok [] := by
  have limited (days : Int) :
      validityViolations shown info (.scalar (.int days)) = .ok [] ↔ info.validityDays ≤ days := by
    simp [validityViolations, isNone, compareValue, Except.map, compare_gt_iff_gt]
  rcases stricter with (rfl | none) | ⟨cap, limit, rfl, rfl, smaller⟩
  · exact passes
  · unfold validityViolations
    rw [if_pos none]
  · exact (limited limit).mpr (Int.le_trans ((limited cap).mp passes) smaller)

theorem keySizeViolations_weaken (stricter : AtLeastSize first second)
    (passes : keySizeViolations shown info first = .ok []) :
    keySizeViolations shown info second = .ok [] := by
  have limited (bits : Int) : keySizeViolations shown info (.scalar (.int bits)) = .ok [] ↔
      ∀ size, info.keySize = some size → info.keyType ∈ Parser.sizeCheckedKeyTypes → bits ≤ size := by
    unfold keySizeViolations
    cases info.keySize with
    | none => simp
    | some size =>
      by_cases checked : info.keyType ∈ Parser.sizeCheckedKeyTypes
      · simp [isNone, checked, compareValue, Except.map, compare_lt_iff_lt]
      · simp [checked]
  rcases stricter with (rfl | none) | ⟨more, bits, rfl, rfl, larger⟩
  · exact passes
  · unfold keySizeViolations
    cases info.keySize with
    | none => rfl
    | some size =>
      dsimp only
      rw [none]
      rfl
  · refine (limited bits).mpr fun size given checked => ?_
    exact Int.le_trans larger ((limited more).mp passes size given checked)

theorem tlsViolations_weaken (stricter : AtLeastTls first second)
    (passes : tlsViolations shown tlsVersion first = .ok []) :
    tlsViolations shown tlsVersion second = .ok [] := by
  rcases stricter with (rfl | none) | ⟨version, required, rfl, rfl, same | ranks⟩
  · exact passes
  · unfold tlsViolations
    rw [if_pos none]
  · rw [← same]
    exact passes
  · obtain ⟨rank, least, high, low, older⟩ := ranks
    refine (tlsViolations_known_iff low).mpr fun reported given own known => ?_
    exact Nat.le_trans older ((tlsViolations_known_iff high).mp passes reported given own known)

/-- No violation is reported exactly when each check reports none. -/
theorem policyViolations_ok_iff {policy : Enforced} :
    policyViolations shown info tlsVersion policy = .ok [] ↔
      validityViolations shown info policy.notAfterMax = .ok [] ∧
      keySizeViolations shown info policy.minKeySize = .ok [] ∧
      tlsViolations shown tlsVersion policy.minTlsVersion = .ok [] ∧
      (policy.failWeak = true → info.weak = []) ∧
      (policy.requireSct = true → info.sctCount ≠ 0) ∧
      (policy.requireMustStaple = true → info.mustStaple = true) := by
  unfold policyViolations
  simp only [bind_ok_iff]
  refine ⟨?_, ?_⟩
  · intro passes
    obtain ⟨validity, validated, keySize, sized, tls, shaken, none⟩ := passes
    have empty := Except.ok.inj none
    simp only [List.append_eq_nil_iff, ite_eq_right_iff, List.cons_ne_nil, imp_false, not_and,
      Bool.not_eq_false] at empty
    obtain ⟨⟨⟨⟨⟨noValidity, noKeySize⟩, weak⟩, sct⟩, staple⟩, noTls⟩ := empty
    rw [noValidity] at validated
    rw [noKeySize] at sized
    rw [noTls] at shaken
    exact ⟨validated, sized, shaken, weak, sct, staple⟩
  · intro checks
    obtain ⟨validated, sized, shaken, weak, sct, staple⟩ := checks
    refine ⟨[], validated, [], sized, [], shaken, congrArg Except.ok ?_⟩
    simp only [List.append_eq_nil_iff, ite_eq_right_iff, List.cons_ne_nil, imp_false, not_and,
      Bool.not_eq_false, and_self, true_and, and_true]
    exact ⟨⟨weak, sct⟩, staple⟩

/-- **What passes the stricter options passes the others.** -/
theorem policyViolations_weaken {first second : Enforced} (stricter : AtLeastAsStrict first second)
    (passes : policyViolations shown info tlsVersion first = .ok []) :
    policyViolations shown info tlsVersion second = .ok [] := by
  obtain ⟨validated, sized, shaken, weak, sct, staple⟩ := policyViolations_ok_iff.mp passes
  exact policyViolations_ok_iff.mpr ⟨validityViolations_weaken stricter.notAfterMax validated,
    keySizeViolations_weaken stricter.minKeySize sized,
    tlsViolations_weaken stricter.minTlsVersion shaken,
    fun asked => weak (stricter.failWeak asked), fun asked => sct (stricter.requireSct asked),
    fun asked => staple (stricter.requireMustStaple asked)⟩

end Strictness

/-! ### Passing the gate -/

section Passing

variable {shown : Value → String} {today : Int} {info : CertificateInfo} {args other : Namespace}

/-- `_check_policy` gives no exit code. -/
def Passes (shown : Value → String) (today : Int) (info : CertificateInfo) (args : Namespace) : Prop :=
  ∃ after, checkPolicy shown today info args = .ok (after, none)

/-- A gate that is requested passes exactly without a violation. -/
theorem passes_iff (requested : policyRequested args = true) :
    Passes shown today info args ↔
      policyViolations shown info.toAnalysis info.tlsVersion.join (enforced today args) = .ok [] ∧
        ((enforced today args).requireRevocationCheck = true → info.revocationStatus = some .good) := by
  unfold Passes checkPolicy
  rw [if_pos requested]
  dsimp only
  cases policyViolations shown info.toAnalysis info.tlsVersion.join (enforced today args) with
  | error raised =>
    refine ⟨fun passes => ?_, fun passes => ?_⟩
    · obtain ⟨_, absurd⟩ := passes
      cases absurd
    · cases passes.1
  | ok found =>
    have revocation : (if (enforced today args).requireRevocationCheck = true then
        (revocationPolicyViolation info).toList else []) = [] ↔
        ((enforced today args).requireRevocationCheck = true →
          info.revocationStatus = some .good) := by
      rw [ite_eq_right_iff, Option.toList_eq_nil_iff, revocationPolicyViolation_eq_none_iff]
    rw [← revocation, Except.ok.injEq, ← List.append_eq_nil_iff]
    dsimp only [bind, Except.bind, pure, Except.pure]
    refine ⟨?_, ?_⟩
    · intro passes
      obtain ⟨after, same⟩ := passes
      by_contra violated
      rw [if_neg violated] at same
      cases same
    · intro none
      rw [if_pos none]
      exact ⟨_, rfl⟩

/-- **Whoever passes stricter options passes the others**, when both are requested. -/
theorem Passes.weaken (requested : policyRequested args = true)
    (requested' : policyRequested other = true)
    (stricter : AtLeastAsStrict (enforced today args) (enforced today other))
    (passes : Passes shown today info args) : Passes shown today info other := by
  obtain ⟨clean, good⟩ := (passes_iff requested).mp passes
  exact (passes_iff requested').mpr ⟨policyViolations_weaken stricter clean,
    fun asked => good (stricter.requireRevocationCheck asked)⟩

end Passing

/-! ### The presets -/

section Presets

variable {preset stronger : Parser.PolicyProfile} {args : Namespace} {today : Int}

/-- The first preset sets at least as much as the second. -/
structure PresetAbove (first second : Parser.PolicyProfile) : Prop where
  minKeySize : ∀ bits, second.minKeySize = some bits →
    ∃ more, first.minKeySize = some more ∧ bits ≤ more
  minTlsVersion : ∀ required, second.minTlsVersion = some required →
    ∃ version, first.minTlsVersion = some version ∧ Parser.AtLeastVersion version required
  failWeak : second.failWeak = true → first.failWeak = true
  requireSct : second.requireSct = true → first.requireSct = true
  requireMustStaple : second.requireMustStaple = true → first.requireMustStaple = true
  cabForum : second.cabForum = true → first.cabForum = true

/-- **Each preset is above those before it.** -/
theorem policyProfiles_ladder :
    Parser.policyProfiles.Pairwise fun weaker stricter => PresetAbove stricter.2 weaker.2 := by
  have newer : Parser.AtLeastVersion "TLSv1.3" "TLSv1.2" :=
    Or.inr ⟨5, 4, by decide, by decide, by decide⟩
  refine .cons ?_ (.cons ?_ (.cons ?_ .nil))
  · intro stricter member
    rcases List.mem_pair.mp member with rfl | rfl
    · exact ⟨fun _ absurd => (by cases absurd),
        fun _ same => ⟨"TLSv1.2", rfl, Or.inl (Option.some.inj same)⟩, id, id, id, id⟩
    · refine ⟨fun _ absurd => (by cases absurd), fun required same => ?_, id, fun _ => rfl, id,
        fun _ => rfl⟩
      obtain rfl := Option.some.inj same
      exact ⟨"TLSv1.3", rfl, newer⟩
  · intro stricter member
    obtain rfl := List.mem_singleton.mp member
    refine ⟨fun bits same => ?_, fun required same => ?_, id, fun _ => rfl, id, fun _ => rfl⟩
    · obtain rfl := Option.some.inj same
      exact ⟨2048, rfl, Int.le_refl _⟩
    · obtain rfl := Option.some.inj same
      exact ⟨"TLSv1.3", rfl, newer⟩
  · exact fun _ absurd => by cases absurd

/-- What fills in an option where it is unset keeps the order of what it fills in. -/
theorem filled_above {α : Type} {R : Value → Value → Prop} {wrap : α → Scalar} {high low : Option α}
    {first second : α} {fills : Bool} {old : Value} (same : ∀ value, R value value)
    (least : ∀ value other, isNone other = true → R value other)
    (unset : fills = true → isNone old = true)
    (above : ∀ value, low = some value →
      ∃ more, high = some more ∧ R (.scalar (wrap more)) (.scalar (wrap value))) :
    R (if high.isSome && fills then .scalar (wrap (high.getD first)) else old)
      (if low.isSome && fills then .scalar (wrap (low.getD second)) else old) := by
  by_cases filled : fills = true
  · rw [filled, Bool.and_true, Bool.and_true]
    cases set : low with
    | none => exact least _ _ (unset filled)
    | some value =>
      obtain ⟨more, set', order⟩ := above value set
      rw [set']
      exact order
  · rw [Bool.eq_false_iff.mpr filled, Bool.and_false, Bool.and_false]
    exact same old

/-- So does what sets a boolean option. -/
theorem set_above {high low : Bool} {value : Value} (above : low = true → high = true)
    (on : (if low then Value.scalar (.bool true) else value).truthy = true) :
    (if high then Value.scalar (.bool true) else value).truthy = true := by
  rw [truthy_when, Bool.or_eq_true] at on ⊢
  exact on.imp_left above

/-- **With the same other arguments, a preset enforces at least as much as one below it.** -/
theorem enforced_above (above : PresetAbove stronger preset) :
    AtLeastAsStrict (enforced today (fillIn stronger args)) (enforced today (fillIn preset args)) where
  notAfterMax := by
    show AtLeastCap (validityCap today _) (validityCap today _)
    unfold validityCap
    rw [fillIn_cabForum, fillIn_cabForum, fillIn_other (by decide), fillIn_other (by decide)]
    by_cases forum : (args "cab_forum").truthy = true
    · rw [forum, Bool.or_true, Bool.or_true]
      exact Or.inl (Or.inl rfl)
    · rw [Bool.eq_false_iff.mpr forum, Bool.or_false, Bool.or_false]
      by_cases none : isNone (args "not_after_max") = true
      · rw [none, Bool.and_true, Bool.and_true]
        by_cases capped : preset.cabForum = true
        · rw [if_pos capped, if_pos (above.cabForum capped)]
          exact Or.inl (Or.inl rfl)
        · rw [if_neg capped]
          exact Or.inl (Or.inr none)
      · rw [Bool.eq_false_iff.mpr none, Bool.and_false, Bool.and_false]
        exact Or.inl (Or.inl rfl)
  minKeySize := by
    show AtLeastSize (fillIn _ _ _) (fillIn _ _ _)
    rw [fillIn_minKeySize, fillIn_minKeySize]
    refine filled_above (fun _ => Or.inl (Or.inl rfl)) (fun _ _ none => Or.inl (Or.inr none)) id ?_
    intro bits set
    obtain ⟨more, set', larger⟩ := above.minKeySize bits set
    exact ⟨more, set', Or.inr ⟨more, bits, rfl, rfl, larger⟩⟩
  failWeak := by
    show (fillIn _ _ _).truthy = true → (fillIn _ _ _).truthy = true
    rw [fillIn_flags.1, fillIn_flags.1]
    exact set_above above.failWeak
  requireSct := by
    show (fillIn _ _ _).truthy = true → (fillIn _ _ _).truthy = true
    rw [fillIn_flags.2.1, fillIn_flags.2.1]
    exact set_above above.requireSct
  requireMustStaple := by
    show (fillIn _ _ _).truthy = true → (fillIn _ _ _).truthy = true
    rw [fillIn_flags.2.2, fillIn_flags.2.2]
    exact set_above above.requireMustStaple
  minTlsVersion := by
    show AtLeastTls (fillIn _ _ _) (fillIn _ _ _)
    rw [fillIn_minTlsVersion, fillIn_minTlsVersion, Bool.and_assoc, Bool.and_assoc]
    refine filled_above (fun _ => Or.inl (Or.inl rfl)) (fun _ _ none => Or.inl (Or.inr none))
      (fun fills => (Bool.and_eq_true_iff.mp fills).1) ?_
    intro required set
    obtain ⟨version, set', newer⟩ := above.minTlsVersion required set
    exact ⟨version, set', Or.inr ⟨version, required, rfl, rfl, newer⟩⟩
  requireRevocationCheck := by
    show (fillIn _ _ _).truthy = true → (fillIn _ _ _).truthy = true
    rw [fillIn_other (by decide), fillIn_other (by decide)]
    exact id

end Presets

/-! ### Explicit options -/

section Explicit

variable {readers : Readers} {config : Dict String Value} {cmd : CommandLine}
  {args filled : Namespace} {preset : Parser.PolicyProfile} {dest : String}

/-- The options that a preset touches store an argument, or `True`. -/
theorem buildParser_policy :
    (∀ action ∈ buildParser.actions,
      action.dest ∈ ["fail_weak", "require_sct", "require_must_staple", "cab_forum"] →
        action.kind = .storeConst (.bool true)) ∧
    (∀ action ∈ buildParser.actions, action.dest = "min_key_size" → action.kind = .store .int none) := by
  decide +kernel

/-- **An explicit option keeps its value.** -/
theorem fillIn_explicit (parsed : buildParser.parse readers config cmd = some args)
    (explicit : buildParser.Explicit cmd dest) : fillIn preset args dest = args dest := by
  have flag (member : dest ∈ ["fail_weak", "require_sct", "require_must_staple", "cab_forum"]) :
      args dest = .scalar (.bool true) :=
    const_explicit parsed explicit fun action inActions own =>
      buildParser_policy.1 action inActions (own ▸ member)
  by_cases touched : dest ∈ ["min_key_size", "min_tls_version", "fail_weak", "require_sct",
    "require_must_staple", "cab_forum"]
  · simp only [List.mem_cons, List.not_mem_nil, or_false] at touched
    rcases touched with rfl | rfl | rfl | rfl | rfl | rfl
    · rw [fillIn_minKeySize, isNone_explicit parsed explicit fun action member own =>
        ⟨_, _, buildParser_policy.2 action member own⟩, Bool.and_false, if_neg Bool.false_ne_true]
    · rw [fillIn_minTlsVersion, isNone_explicit parsed explicit fun action member own =>
        ⟨_, _, buildParser_minTlsVersion action member own⟩, Bool.and_false, Bool.false_and,
        if_neg Bool.false_ne_true]
    · rw [fillIn_flags.1, flag (by decide), ite_self]
    · rw [fillIn_flags.2.1, flag (by decide), ite_self]
    · rw [fillIn_flags.2.2, flag (by decide), ite_self]
    · rw [fillIn_cab, flag (by decide), ite_self]
  · exact fillIn_other touched

/-- So it does under any profile. -/
theorem applyProfile_explicit (parsed : buildParser.parse readers config cmd = some args)
    (applied : applyProfile args = .ok filled) (explicit : buildParser.Explicit cmd dest) :
    filled dest = args dest := by
  rcases applyProfile_cases applied with rfl | ⟨name, preset, _, rfl⟩
  · rfl
  · exact fillIn_explicit parsed explicit

end Explicit

/-! ### The ladder -/

section Ladder

variable {preset : Parser.PolicyProfile} {args : Namespace} {today : Int} {name : String}

/-- The arguments under another profile. -/
def profiled (name : String) (args : Namespace) : Namespace :=
  Function.update args "profile" (.scalar (.str name))

theorem applyProfile_profiled (found : Parser.policyProfiles.lookup name = some preset)
    (named : name ≠ "") :
    applyProfile (profiled name args) = .ok (fillIn preset (profiled name args)) := by
  have own : profiled name args "profile" = .scalar (.str name) := Function.update_self ..
  have on : (Value.scalar (.str name)).truthy = true := bne_iff_ne.mpr named
  unfold applyProfile
  rw [own, if_pos on, presetOf, found]
  rfl

/-- Only the name of the profile differs. -/
theorem enforced_profiled :
    enforced today (fillIn preset (profiled name args)) = enforced today (fillIn preset args) := by
  have others (dest : String) (other : dest ≠ "profile") : profiled name args dest = args dest :=
    Function.update_of_ne other _ _
  unfold enforced validityCap
  rw [fillIn_cabForum, fillIn_cabForum, fillIn_minKeySize, fillIn_minKeySize, fillIn_flags.1,
    fillIn_flags.1, fillIn_flags.2.1, fillIn_flags.2.1, fillIn_flags.2.2, fillIn_flags.2.2,
    fillIn_minTlsVersion, fillIn_minTlsVersion]
  simp (disch := decide) only [fillIn_other, others]

/-- Every preset requests the gate. -/
theorem policyRequested_fillIn (weak : preset.failWeak = true) :
    policyRequested (fillIn preset args) = true := by
  refine List.any_eq_true.mpr ⟨"fail_weak", by decide, ?_⟩
  rw [fillIn_flags.1, if_pos weak]
  rfl

/-- **A stricter policy is stricter, and the profiles are a ladder.** What passes a policy passes one
that is at most as strict. On every day and with any other arguments, each profile enforces at least as
much as those below it, and a certificate that passes it passes them. Whatever was parsed, an explicit
option keeps its value. -/
theorem profiles_ladder (shown : Value → String) :
    (∀ info tlsVersion first second, Parser.Stricter first second →
      Parser.policyViolations info tlsVersion first = [] →
        Parser.policyViolations info tlsVersion second = []) ∧
    (∀ weaker stricter,
      (weaker, stricter) ∈ [("lenient", "standard"), ("standard", "strict"), ("lenient", "strict")] →
      ∀ today args, ∃ high low, applyProfile (profiled stricter args) = .ok high ∧
        applyProfile (profiled weaker args) = .ok low ∧
        AtLeastAsStrict (enforced today high) (enforced today low) ∧
        ∀ info, Passes shown today info high → Passes shown today info low) ∧
    ∀ readers config cmd args filled, buildParser.parse readers config cmd = some args →
      applyProfile args = .ok filled →
        ∀ dest, buildParser.Explicit cmd dest → filled dest = args dest := by
  refine ⟨?_, ?_, ?_⟩
  · intro info tlsVersion first second stricter clean
    exact Parser.policyViolations_eq_nil_iff.mpr
      ((Parser.policyViolations_eq_nil_iff.mp clean).weaken stricter)
  · intro weaker stricter neighbours today args
    have found : ∃ low high, Parser.policyProfiles.lookup weaker = some low ∧
        Parser.policyProfiles.lookup stricter = some high ∧ low.failWeak = true ∧
        high.failWeak = true ∧ PresetAbove high low ∧ weaker ≠ "" ∧ stricter ≠ "" := by
      obtain ⟨first, rest⟩ := List.pairwise_cons.mp policyProfiles_ladder
      obtain ⟨second, _⟩ := List.pairwise_cons.mp rest
      simp only [List.mem_cons, List.not_mem_nil, or_false, Prod.mk.injEq] at neighbours
      rcases neighbours with ⟨rfl, rfl⟩ | ⟨rfl, rfl⟩ | ⟨rfl, rfl⟩
      · exact ⟨_, _, rfl, rfl, rfl, rfl, first _ List.mem_cons_self, by decide, by decide⟩
      · exact ⟨_, _, rfl, rfl, rfl, rfl, second _ List.mem_cons_self, by decide, by decide⟩
      · exact ⟨_, _, rfl, rfl, rfl, rfl, first _ (List.mem_cons_of_mem _ List.mem_cons_self),
          by decide, by decide⟩
    obtain ⟨low, high, isLow, isHigh, lowWeak, highWeak, above, lowNamed, highNamed⟩ := found
    have strict : AtLeastAsStrict (enforced today (fillIn high (profiled stricter args)))
        (enforced today (fillIn low (profiled weaker args))) := by
      rw [enforced_profiled, enforced_profiled]
      exact enforced_above above
    exact ⟨_, _, applyProfile_profiled isHigh highNamed, applyProfile_profiled isLow lowNamed, strict,
      fun info => Passes.weaken (policyRequested_fillIn highWeak) (policyRequested_fillIn lowWeak)
        strict⟩
  · exact fun _ _ _ _ _ parsed applied _ explicit => applyProfile_explicit parsed applied explicit

/-- `certinspect --profile strict --min-tls-version TLSv1.2 a.com`. -/
def strictCommand : CommandLine :=
  ⟨[("--profile", some "strict"), ("--min-tls-version", some "TLSv1.2")], ["a.com"]⟩

/-- Its minimum stays. -/
theorem profiles_ladder_strict : ∃ args filled,
    buildParser.parse sampleReaders ∅ strictCommand = some args ∧ applyProfile args = .ok filled ∧
      filled "min_tls_version" = args "min_tls_version" := by
  have accepted : ((buildParser.parse sampleReaders ∅ strictCommand).bind fun args =>
      (applyProfile args).toOption).isSome = true := by
    decide +kernel
  obtain ⟨filled, found⟩ := Option.isSome_iff_exists.mp accepted
  obtain ⟨args, parsed, profile⟩ := Option.bind_eq_some_iff.mp found
  have explicit : buildParser.Explicit strictCommand "min_tls_version" := by
    unfold Parser.Explicit
    decide +kernel
  have applied : applyProfile args = .ok filled := by
    cases result : applyProfile args with
    | error raised =>
      rw [result] at profile
      cases profile
    | ok value =>
      rw [result] at profile
      exact congrArg Except.ok (Option.some.inj profile)
  exact ⟨args, filled, parsed, applied, (profiles_ladder fun _ => "").2.2 sampleReaders ∅ strictCommand
    args filled parsed applied "min_tls_version" explicit⟩

end Ladder

end Certinspect.Cli.Gate
