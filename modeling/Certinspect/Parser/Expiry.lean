/-
**When a certificate expires: `certificate_status`, `chain_expiry_warnings`, `diagnose_chain`.**

The first two compare thresholds with whole days left, rounded down; the third compares instants. A
threshold in days is below the whole days left exactly when it is below the time left, so all three
decide by the instant.

* `Expired`, `Within` — the rules, said of instants.
* `lifetimeStatus` — the status by the time left; `lifetimeStatus_worsens` — it only gets worse.
* `chainExpiryWarnings_eq`, `diagnoseChain_expired`, `diagnoseChain_current` — the checks of a chain.
* **`certificateStatus_exact`** — the three agree, to the microsecond.
-/

import Certinspect.Parser.Addresses

namespace Certinspect.Parser

/-! ### The rules -/

/-- The certificate has expired. -/
def Expired (now : Instant) (cert : Certificate) : Prop := cert.notValidAfter < now

/-- The certificate has not expired and does within so many days. -/
def Within (days : Int) (now : Instant) (cert : Certificate) : Prop :=
  0 ≤ cert.notValidAfter - now ∧ cert.notValidAfter - now < days * Instant.day

instance (now : Instant) : DecidablePred (Expired now) := fun cert =>
  inferInstanceAs (Decidable (cert.notValidAfter < now))

instance (days : Int) (now : Instant) : DecidablePred (Within days now) := fun _ =>
  inferInstanceAs (Decidable (_ ∧ _))

section Days

variable {now : Instant} {cert : Certificate} {days : Int}

theorem left_neg_iff : cert.notValidAfter - now < 0 ↔ Expired now cert :=
  ⟨Int.lt_of_sub_neg, Int.sub_neg_of_lt⟩

theorem left_below_iff (current : ¬ Expired now cert) :
    cert.notValidAfter - now < days * Instant.day ↔ Within days now cert :=
  (and_iff_right (Int.not_lt.mp fun early => current (left_neg_iff.mp early))).symm

/-- **Rounding down loses nothing against a threshold in whole days.** -/
theorem daysBetween_lt_iff {earlier later : Instant} :
    Instant.daysBetween earlier later < days ↔ later - earlier < days * Instant.day :=
  Int.ediv_lt_iff_lt_mul (by decide)

theorem daysBetween_neg_iff : Instant.daysBetween now cert.notValidAfter < 0 ↔ Expired now cert := by
  rw [daysBetween_lt_iff, Int.zero_mul, left_neg_iff]

theorem daysBetween_within_iff (current : ¬ Expired now cert) :
    Instant.daysBetween now cert.notValidAfter < days ↔ Within days now cert := by
  rw [daysBetween_lt_iff, left_below_iff current]

end Days

/-! ### The status -/

section Status

variable {now : Instant} {cert : Certificate} {info : Analysis} {warnDays : Int}
  {criticalDays : Option Int}

/-- The status of a certificate in use, by the time left. -/
def lifetimeStatus (left warnDays : Int) (criticalDays : Option Int) : Status :=
  if left < 0 then .expired
  else if criticalDays.any fun critical => left < critical * Instant.day then .critical
  else if left < warnDays * Instant.day then .expiring
  else .valid

/-- The statuses of a certificate in use, in the order in which they come. -/
def lifecycle : List Status := [.valid, .expiring, .critical, .expired]

/-- The status moves along the lifecycle. -/
def Worsens (status next : Status) : Prop :=
  status ∈ lifecycle ∧ next ∈ lifecycle ∧ lifecycle.idxOf status ≤ lifecycle.idxOf next

/-- **The less time is left, the worse.** -/
theorem lifetimeStatus_worsens {left less : Int} (fewer : less ≤ left) :
    Worsens (lifetimeStatus left warnDays criticalDays)
      (lifetimeStatus less warnDays criticalDays) := by
  have critical : (criticalDays.any fun critical => left < critical * Instant.day) = true →
      (criticalDays.any fun critical => less < critical * Instant.day) = true := by
    cases criticalDays with
    | none => exact id
    | some days =>
      intro below
      exact decide_eq_true (Int.lt_of_le_of_lt fewer (of_decide_eq_true below))
  unfold Worsens lifetimeStatus
  by_cases gone : less < 0
  · rw [if_pos gone]
    split_ifs <;> decide
  rw [if_neg gone, if_neg fun early => gone (Int.lt_of_le_of_lt fewer early)]
  by_cases soon : (criticalDays.any fun critical => less < critical * Instant.day) = true
  · rw [if_pos soon]
    split_ifs <;> decide
  rw [if_neg soon, if_neg fun early => soon (critical early)]
  by_cases near : less < warnDays * Instant.day
  · rw [if_pos near]
    split_ifs <;> decide
  · rw [if_neg near, if_neg fun early => near (Int.lt_of_le_of_lt fewer early)]
    decide

/-- What the status of a certificate in use is to say. -/
structure StatusByRules (now : Instant) (cert : Certificate) (warnDays : Int)
    (criticalDays : Option Int) (status : Status) : Prop where
  expired : status = .expired ↔ Expired now cert
  critical : status = .critical ↔ ∃ days, criticalDays = some days ∧ Within days now cert
  expiring : status = .expiring ↔ ¬ Expired now cert ∧
    ¬ (∃ days, criticalDays = some days ∧ Within days now cert) ∧ Within warnDays now cert
  valid : status = .valid ↔ ¬ Expired now cert ∧
    ¬ (∃ days, criticalDays = some days ∧ Within days now cert) ∧ ¬ Within warnDays now cert

/-- The code's status is that of the time left. -/
theorem certificateStatus_eq (analyzed : analyze now cert = .ok info)
    (ordered : cert.notValidBefore ≤ cert.notValidAfter) (started : cert.notValidBefore ≤ now) :
    certificateStatus now info warnDays criticalDays =
      lifetimeStatus (cert.notValidAfter - now) warnDays criticalDays := by
  obtain ⟨key, fields⟩ := analyze_ok analyzed
  have zero : Instant.daysBetween now cert.notValidAfter < 0 ↔ cert.notValidAfter - now < 0 := by
    rw [daysBetween_lt_iff, Int.zero_mul]
  unfold certificateStatus lifetimeStatus
  rw [fields.notValidBefore, fields.notValidAfter, fields.daysToExpire,
    if_neg (Int.not_lt.mpr ordered), if_neg (Int.not_lt.mpr started)]
  simp only [zero, daysBetween_lt_iff]

theorem Within.current {days : Int} (soon : Within days now cert) : ¬ Expired now cert := by
  intro expired
  exact absurd (left_neg_iff.mpr expired) (Int.not_lt.mpr soon.1)

theorem lifetimeStatus_byRules :
    StatusByRules now cert warnDays criticalDays
      (lifetimeStatus (cert.notValidAfter - now) warnDays criticalDays) := by
  unfold lifetimeStatus
  by_cases expired : Expired now cert
  · rw [if_pos (left_neg_iff.mpr expired)]
    have never (days : Int) : ¬ Within days now cert := fun soon => soon.current expired
    refine ⟨?_, ?_, ?_, ?_⟩ <;> simp [expired, never]
  rw [if_neg (mt left_neg_iff.mp expired)]
  have soon : (criticalDays.any fun critical =>
      cert.notValidAfter - now < critical * Instant.day) = true ↔
      ∃ days, criticalDays = some days ∧ Within days now cert := by
    cases criticalDays with
    | none => simp
    | some days =>
      simp only [Option.any_some, decide_eq_true_eq, Option.some.injEq, exists_eq_left']
      exact left_below_iff expired
  by_cases critical : ∃ days, criticalDays = some days ∧ Within days now cert
  · rw [if_pos (soon.mpr critical)]
    refine ⟨?_, ?_, ?_, ?_⟩ <;> simp [expired, critical]
  rw [if_neg (mt soon.mp critical)]
  by_cases near : Within warnDays now cert
  · rw [if_pos ((left_below_iff expired).mpr near)]
    refine ⟨?_, ?_, ?_, ?_⟩ <;> simp [expired, critical, near]
  · rw [if_neg (mt (left_below_iff expired).mp near)]
    refine ⟨?_, ?_, ?_, ?_⟩ <;> simp [expired, critical, near]

end Status

/-! ### The chain -/

section Chain

variable {now : Instant} {warnDays : Int}

/-- The warning about a certificate of the chain, by the rules. -/
def expiryWarning (now : Instant) (warnDays : Int) (cert : Certificate) : Option String :=
  if Expired now cert then
    some s!"chain certificate '{shortName cert}' expired {-Instant.daysBetween now cert.notValidAfter} days ago"
  else if Within warnDays now cert then
    some s!"chain certificate '{shortName cert}' expires in {Instant.daysBetween now cert.notValidAfter} days"
  else none

/-- The diagnosis of an expired certificate. -/
def expiredDiagnosis (role : String) (cert : Certificate) : ChainDiagnosis :=
  ⟨"EXPIRED_IN_CHAIN", s!"{role} '{shortName cert}' expired on {Instant.dateStr cert.notValidAfter}"⟩

theorem chainExpiryWarnings_eq (leaf : Certificate) (others : List Certificate) :
    chainExpiryWarnings now (leaf :: others) warnDays =
      others.filterMap (expiryWarning now warnDays) := by
  refine List.filterMap_congr fun cert _ => ?_
  unfold chainWarning expiryWarning
  by_cases expired : Expired now cert
  · simp only [daysBetween_neg_iff, expired, if_true]
  · dsimp only
    rw [if_neg (mt daysBetween_neg_iff.mp expired), if_neg expired]
    simp only [daysBetween_within_iff expired]

/-- The code's diagnosis of one certificate. -/
def diagnosed (now : Instant) (role : String) (cert : Certificate) : Option ChainDiagnosis :=
  if Expired now cert then some (expiredDiagnosis role cert) else none

theorem expiredInChain_eq (leaf : Certificate) (intermediates : List Certificate) :
    expiredInChain now leaf intermediates = (diagnosed now "leaf" leaf).or
      (intermediates.findSome? (diagnosed now "chain certificate")) := rfl

theorem diagnosed_none {certs : List Certificate} {role : String}
    (current : ∀ cert ∈ certs, ¬ Expired now cert) :
    certs.findSome? (diagnosed now role) = none :=
  List.findSome?_eq_none_iff.mpr fun cert member => if_neg (current cert member)

/-- **The first expired certificate is the one named.** -/
theorem diagnoseChain_expired {before after : List Certificate} {cert : Certificate}
    (current : ∀ earlier ∈ before, ¬ Expired now earlier) (expired : Expired now cert) :
    diagnoseChain now (before ++ cert :: after) =
      .ok (some (expiredDiagnosis (if before = [] then "leaf" else "chain certificate") cert)) := by
  cases before with
  | nil =>
    have found : expiredInChain now cert after = some (expiredDiagnosis "leaf" cert) := by
      rw [expiredInChain_eq]
      unfold diagnosed
      rw [if_pos expired]
      rfl
    show diagnoseChain now (cert :: after) = _
    unfold diagnoseChain
    simp only [found]
    rfl
  | cons leaf earlier =>
    obtain ⟨first, others⟩ := List.forall_mem_cons.mp current
    have found : expiredInChain now leaf (earlier ++ cert :: after) =
        some (expiredDiagnosis "chain certificate" cert) := by
      rw [expiredInChain_eq, List.findSome?_append, diagnosed_none others]
      unfold diagnosed
      rw [if_neg first, List.findSome?_cons, if_pos expired]
      rfl
    show diagnoseChain now (leaf :: (earlier ++ cert :: after)) = _
    unfold diagnoseChain
    simp only [found]
    rfl

/-- **Without an expired certificate the diagnosis is another one.** -/
theorem diagnoseChain_current {presented : List Certificate} {diagnosis : ChainDiagnosis}
    (current : ∀ cert ∈ presented, ¬ Expired now cert)
    (diagnosed : diagnoseChain now presented = .ok (some diagnosis)) :
    diagnosis.code ≠ "EXPIRED_IN_CHAIN" := by
  cases presented with
  | nil => cases diagnosed
  | cons leaf intermediates =>
    obtain ⟨first, others⟩ := List.forall_mem_cons.mp current
    have none : expiredInChain now leaf intermediates = none := by
      rw [expiredInChain_eq, diagnosed_none others, Option.or_none]
      exact if_neg first
    unfold diagnoseChain at diagnosed
    simp only [none] at diagnosed
    by_cases complete : (intermediates.any fun cert => leaf.issuer == cert.subject) = true
    · rw [if_pos complete] at diagnosed
      cases diagnosed
      show "UNTRUSTED_ROOT" ≠ "EXPIRED_IN_CHAIN"
      decide
    rw [if_neg complete] at diagnosed
    by_cases some : intermediates ≠ []
    · rw [if_pos some] at diagnosed
      cases diagnosed
      show "CHAIN_MISMATCH" ≠ "EXPIRED_IN_CHAIN"
      decide
    rw [if_neg some] at diagnosed
    obtain ⟨urls, _, diagnosed⟩ := Library.bind_ok_iff.mp diagnosed
    cases published : urls.2 with
    | nil =>
      rw [published] at diagnosed
      cases diagnosed
      show "UNTRUSTED_ROOT" ≠ "EXPIRED_IN_CHAIN"
      decide
    | cons url more =>
      rw [published] at diagnosed
      cases diagnosed
      show "INCOMPLETE_CHAIN" ≠ "EXPIRED_IN_CHAIN"
      decide

end Chain

/-! ### The three together -/

section Agreement

/-- The checks of a chain report a certificate by the same rules. -/
structure ChainByRules (now : Instant) (warnDays : Int) : Prop where
  warnings : ∀ leaf others, chainExpiryWarnings now (leaf :: others) warnDays =
    others.filterMap (expiryWarning now warnDays)
  expired : ∀ before cert after, (∀ earlier ∈ before, ¬ Expired now earlier) → Expired now cert →
    diagnoseChain now (before ++ cert :: after) =
      .ok (some (expiredDiagnosis (if before = [] then "leaf" else "chain certificate") cert))
  current : ∀ presented diagnosis, (∀ cert ∈ presented, ¬ Expired now cert) →
    diagnoseChain now presented = .ok (some diagnosis) → diagnosis.code ≠ "EXPIRED_IN_CHAIN"

/-- **The status is exact to the microsecond, only worsens, and the checks of a chain agree with
it.** -/
theorem certificateStatus_exact (now : Instant) (cert : Certificate) (info : Analysis)
    (warnDays : Int) (criticalDays : Option Int) (analyzed : analyze now cert = .ok info)
    (ordered : cert.notValidBefore ≤ cert.notValidAfter) (started : cert.notValidBefore ≤ now) :
    StatusByRules now cert warnDays criticalDays
        (certificateStatus now info warnDays criticalDays) ∧
      (∀ later next, now ≤ later → analyze later cert = .ok next →
        Worsens (certificateStatus now info warnDays criticalDays)
          (certificateStatus later next warnDays criticalDays)) ∧
      ChainByRules now warnDays := by
  rw [certificateStatus_eq analyzed ordered started]
  refine ⟨lifetimeStatus_byRules, ?_, ⟨chainExpiryWarnings_eq, ?_, ?_⟩⟩
  · intro later next passed reanalyzed
    rw [certificateStatus_eq reanalyzed ordered (Int.le_trans started passed)]
    exact lifetimeStatus_worsens (Int.sub_le_sub_left passed _)
  · exact fun _ _ _ => diagnoseChain_expired
  · exact fun _ _ => diagnoseChain_current

/-- A certificate of 90 days on its first day. -/
theorem certificateStatus_exact_sample :
    StatusByRules 0 (sampleCertificate []) 30 (some 7)
        (certificateStatus 0 (sampleInfo (sampleCertificate [])) 30 (some 7)) ∧
      (∀ later next, 0 ≤ later → analyze later (sampleCertificate []) = .ok next →
        Worsens (certificateStatus 0 (sampleInfo (sampleCertificate [])) 30 (some 7))
          (certificateStatus later next 30 (some 7))) ∧
      ChainByRules 0 30 :=
  certificateStatus_exact 0 (sampleCertificate []) (sampleInfo (sampleCertificate [])) 30 (some 7)
    (analyze_sample rfl rfl) (by decide) (by decide)

end Agreement

end Certinspect.Parser
