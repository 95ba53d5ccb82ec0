/-
**The port of a target, from `_default_port`, `_split_target` and `_inspect_all`.**

A port is written in the target, given by `--port`, or that of the STARTTLS protocol. The code takes the
default value of `--port` for its absence, and so it does with a written 0.

* `requestedArgs` — the arguments of a command line with or without `--port`.
* `targetParts` — the host and the port written in a target, as `urlsplit` reads it.
* `inspection` — what `_inspect_all` makes of a target.
* `wantedPort` — the port by presence; `fallbackPort` — the one the code falls back to.
* `inspection_eq` — the code, by what is written and given.
* **`inspection_port_iff`** — an explicit port wins, except for two values.
-/

import Certinspect.Cli.Batch
import Certinspect.Urlsplit

namespace Certinspect.Cli

open Library

/-! ### The code -/

/-- The arguments of a command line; argparse gives `--port` the default 443. -/
def requestedArgs (args : Args) (port : Option Int) (starttls : Option String) : Args :=
  { args with port := port.getD 443, starttls := starttls }

section Targets

variable (urlsplit : String → Except PyErr SplitResult)

/-- The host of a target and the port that is written in it. -/
def targetParts (raw : String) : Except PyErr (String × Option Nat) := do
  let parts ← urlsplit (if occursIn "://" raw then raw else "//" ++ raw)
  let port ← parts.port
  pure ((given parts.hostname).getD raw, port)

/-- What becomes of a target in `_inspect_all`. -/
def inspection (args : Args) (inspect : Inspector) (raw : String) : Inspection := do
  let port ← defaultPort args
  outcomeOf urlsplit (.fromArgs args) port inspect (.host raw)

end Targets

/-! ### The ports -/

section Ports

/-- A `--starttls` choice, or none. -/
def KnownProtocol (starttls : Option String) : Prop :=
  ∀ protocol, starttls = some protocol → protocol ∈ starttlsPorts.map Prod.fst

instance : DecidablePred KnownProtocol := fun starttls =>
  match starttls with
  | none => isTrue fun _ absurd => by cases absurd
  | some protocol => decidable_of_iff (protocol ∈ starttlsPorts.map Prod.fst)
      ⟨fun known _ same => Option.some.inj same ▸ known, fun known => known protocol rfl⟩

/-- The port of the protocol. -/
def protocolPort (starttls : Option String) : Option Int :=
  starttls.bind fun protocol => starttlsPorts.lookup protocol

/-- **The port a target is to be connected to**: the written one, else the given one, else that of the
protocol, else 443. -/
def wantedPort (written : Option Nat) (port : Option Int) (starttls : Option String) : Int :=
  ((written.map Int.ofNat).or (port.or (protocolPort starttls))).getD 443

/-- The port the code falls back to. -/
def fallbackPort (port : Option Int) (starttls : Option String) : Int :=
  if port.getD 443 = 443 then (protocolPort starttls).getD 443 else port.getD 443

/-- The port the code connects to. -/
def takenPort (written : Option Nat) (port : Option Int) (starttls : Option String) : Int :=
  ((written.filter (· != 0)).map Int.ofNat).getD (fallbackPort port starttls)

/-- A written port 0 is also given, and the default of `--port` is not given for a protocol. -/
structure PortsKept (written : Option Nat) (port : Option Int) (starttls : Option String) : Prop where
  zero : written = some 0 → port = some 0
  default : written = none → port = some 443 → starttls = none

variable {written : Option Nat} {port : Option Int} {starttls : Option String}

/-- A known protocol has a port, which is neither 0 nor 443. -/
theorem protocolPort_known {protocol : String} (known : KnownProtocol (some protocol)) :
    given (some protocol) = some protocol ∧
      ∃ own, starttlsPorts.lookup protocol = some own ∧ own ≠ 0 ∧ own ≠ 443 := by
  have each : ∀ name ∈ starttlsPorts.map Prod.fst, given (some name) = some name ∧
      ((starttlsPorts.lookup name).any fun own => own != 0 && own != 443) = true := by
    decide
  obtain ⟨filled, found⟩ := each protocol (known protocol rfl)
  refine ⟨filled, ?_⟩
  rw [Option.any_eq_true] at found
  obtain ⟨own, same, distinct⟩ := found
  rw [Bool.and_eq_true, bne_iff_ne, bne_iff_ne] at distinct
  exact ⟨own, same, distinct⟩

/-- `_default_port` returns the port to fall back to. -/
theorem defaultPort_requested (args : Args) (known : KnownProtocol starttls) :
    defaultPort (requestedArgs args port starttls) = .ok (fallbackPort port starttls) := by
  unfold defaultPort requestedArgs fallbackPort protocolPort
  cases starttls with
  | none =>
    show Except.ok (port.getD 443) = _
    by_cases default : port.getD 443 = 443
    · rw [if_pos default, default]
      rfl
    · rw [if_neg default]
  | some protocol =>
    obtain ⟨filled, own, found, _⟩ := protocolPort_known known
    dsimp only
    rw [filled]
    simp only [Option.bind_some, found]
    split <;> rfl

theorem fallbackPort_eq_zero_iff (known : KnownProtocol starttls) :
    fallbackPort port starttls = 0 ↔ port = some 0 := by
  have own : (protocolPort starttls).getD 443 ≠ 0 := by
    unfold protocolPort
    cases starttls with
    | none => decide
    | some protocol =>
      obtain ⟨_, own, found, notZero, _⟩ := protocolPort_known known
      rw [Option.bind_some, found]
      exact notZero
  unfold fallbackPort
  cases port with
  | none => exact iff_of_false own fun absurd => by cases absurd
  | some given =>
    rw [Option.getD_some, Option.some.injEq]
    by_cases default : given = 443
    · rw [if_pos default]
      exact iff_of_false own fun zero => absurd (zero.symm.trans default) (by decide)
    · rw [if_neg default]

/-- Without a written port, the code takes the wanted one unless the default is given. -/
theorem fallbackPort_eq_iff (known : KnownProtocol starttls) :
    fallbackPort port starttls = wantedPort none port starttls ↔
      (port = some 443 → starttls = none) := by
  unfold fallbackPort wantedPort
  cases port with
  | none => simp
  | some given =>
    by_cases default : given = 443
    · rw [default]
      unfold protocolPort
      cases starttls with
      | none => simp
      | some protocol =>
        obtain ⟨_, own, found, _, notDefault⟩ := protocolPort_known known
        simp [found, notDefault]
    · simp [default]

/-- **The code takes the wanted port exactly when the ports are kept.** -/
theorem takenPort_eq_iff (known : KnownProtocol starttls) :
    takenPort written port starttls = wantedPort written port starttls ↔
      PortsKept written port starttls := by
  cases written with
  | none =>
    refine (fallbackPort_eq_iff known).trans ⟨fun kept => ⟨?_, fun _ => kept⟩, fun kept => ?_⟩
    · exact fun absurd => by cases absurd
    · exact kept.default rfl
  | some number =>
    by_cases zero : number = 0
    · rw [zero]
      refine (fallbackPort_eq_zero_iff known).trans ⟨fun given => ⟨fun _ => given, ?_⟩, fun kept => ?_⟩
      · exact fun absurd => by cases absurd
      · exact kept.zero rfl
    · refine iff_of_true ?_ ⟨fun same => (zero (Option.some.inj same)).elim, ?_⟩
      · have kept : (some number).filter (· != 0) = some number := by simp [Option.filter, zero]
        unfold takenPort wantedPort
        rw [kept]
        rfl
      · exact fun absurd => by cases absurd

end Ports

/-! ### The inspection -/

section Inspections

variable {urlsplit : String → Except PyErr SplitResult} {args : Args} {raw host : String}
  {written : Option Nat} {port : Option Int} {starttls : Option String}

/-- A target is split into its host and its port, or the default. -/
theorem splitTarget_eq (default : Int) (parts : targetParts urlsplit raw = .ok (host, written)) :
    splitTarget urlsplit raw default =
      .ok (host, ((written.filter (· != 0)).map Int.ofNat).getD default) := by
  unfold targetParts at parts
  obtain ⟨split, read, parts⟩ := bind_ok_iff.mp parts
  obtain ⟨number, port, parts⟩ := bind_ok_iff.mp parts
  cases parts
  unfold splitTarget
  rw [bind_ok_iff]
  refine ⟨split, read, ?_⟩
  rw [bind_ok_iff]
  exact ⟨_, port, rfl⟩

/-- **The code, by what is written and given.** -/
theorem inspection_eq (inspect : Inspector) (known : KnownProtocol starttls)
    (parts : targetParts urlsplit raw = .ok (host, written)) :
    inspection urlsplit (requestedArgs args port starttls) inspect raw =
      inspect (some host) (takenPort written port starttls)
        (.fromArgs (requestedArgs args port starttls)) := by
  unfold inspection
  rw [defaultPort_requested args known]
  show (splitTarget urlsplit raw (fallbackPort port starttls) >>= fun found =>
    inspect (some found.1) found.2 _) = _
  rw [splitTarget_eq _ parts]
  rfl

/-- Whatever the inspection does, the target is inspected at a port. -/
def InspectedAtPort (urlsplit : String → Except PyErr SplitResult) (args : Args) (raw host : String)
    (port : Int) : Prop :=
  ∀ inspect : Inspector,
    inspection urlsplit args inspect raw = inspect (some host) port (.fromArgs args)

theorem inspectedAtPort_iff (known : KnownProtocol starttls)
    (parts : targetParts urlsplit raw = .ok (host, written)) (wanted : Int) :
    InspectedAtPort urlsplit (requestedArgs args port starttls) raw host wanted ↔
      takenPort written port starttls = wanted := by
  unfold InspectedAtPort
  refine ⟨fun always => ?_, fun same inspect => ?_⟩
  · -- an inspection that tells the wanted port from all others
    have told := always fun _ port _ =>
      .error ⟨if port = wanted then .valueError else .osError, ""⟩
    rw [inspection_eq _ known parts, if_pos rfl] at told
    by_contra other
    rw [if_neg other] at told
    cases told
  · rw [inspection_eq _ known parts, same]

/-- **An explicit port wins, except that a written 0 is taken for no port and a given 443, with a
protocol, for no `--port`**; so two written ports are taken unless one is 0. -/
theorem inspection_port_iff (urlsplit : String → Except PyErr SplitResult) (args : Args)
    (raw host : String) (written : Option Nat) (port : Option Int) (starttls : Option String)
    (known : KnownProtocol starttls) (parts : targetParts urlsplit raw = .ok (host, written)) :
    (InspectedAtPort urlsplit (requestedArgs args port starttls) raw host
        (wantedPort written port starttls) ↔ PortsKept written port starttls) ∧
      ∀ other first second, written = some first →
        targetParts urlsplit other = .ok (host, some second) →
        (InspectedAtPort urlsplit (requestedArgs args port starttls) raw host first ∧
            InspectedAtPort urlsplit (requestedArgs args port starttls) other host second ↔
          (first = 0 ∨ second = 0 → port = some 0)) := by
  refine ⟨(inspectedAtPort_iff known parts _).trans (takenPort_eq_iff known), ?_⟩
  intro other first second written' parts'
  have single (number : Nat) : takenPort (some number) port starttls = number ↔
      (number = 0 → port = some 0) := by
    refine (takenPort_eq_iff known).trans ⟨fun kept zero => ?_, fun kept => ⟨fun zero => ?_, ?_⟩⟩
    · exact kept.zero (congrArg some zero)
    · exact kept (Option.some.inj zero)
    · exact fun absurd => by cases absurd
  rw [inspectedAtPort_iff known parts, inspectedAtPort_iff known parts', written', single, single,
    or_imp]

/-- `urlsplit` of Python for texts of ASCII. -/
def sampleUrlsplit : String → Except PyErr SplitResult :=
  Certinspect.urlsplit lower ⟨fun text => text, fun _ => .ok ()⟩

theorem inspection_port_iff_sample :
    (InspectedAtPort sampleUrlsplit (requestedArgs {} none (some "smtp")) "a.com:8443" "a.com"
        (wantedPort (some 8443) none (some "smtp")) ↔
      PortsKept (some 8443) none (some "smtp")) ∧
      ∀ (other : String) (first second : Nat), some 8443 = some first →
        targetParts sampleUrlsplit other = .ok ("a.com", some second) →
        (InspectedAtPort sampleUrlsplit (requestedArgs {} none (some "smtp")) "a.com:8443" "a.com"
            first ∧
          InspectedAtPort sampleUrlsplit (requestedArgs {} none (some "smtp")) other "a.com"
            second ↔ (first = 0 ∨ second = 0 → (none : Option Int) = some 0)) :=
  inspection_port_iff sampleUrlsplit {} "a.com:8443" "a.com" (some 8443) none (some "smtp")
    (by decide) (by decide +kernel)

/-- An inspection that tells its port. -/
def portProbe : Inspector := fun _ port _ => .error ⟨.valueError, toString port⟩

/-- `--port 443 --starttls smtp` connects to 587, and so does `a.com:0`. -/
theorem inspection_port_iff_counterexample :
    (wantedPort none (some 443) (some "smtp") = 443 ∧
      targetParts sampleUrlsplit "a.com" = .ok ("a.com", none) ∧
      inspection sampleUrlsplit (requestedArgs {} (some 443) (some "smtp")) portProbe "a.com" =
        .error ⟨.valueError, "587"⟩) ∧
      (wantedPort (some 0) none (some "smtp") = 0 ∧
        targetParts sampleUrlsplit "a.com:0" = .ok ("a.com", some 0) ∧
        inspection sampleUrlsplit (requestedArgs {} none (some "smtp")) portProbe "a.com:0" =
          .error ⟨.valueError, "587"⟩) := by
  refine ⟨⟨?_, ?_, ?_⟩, ?_, ?_, ?_⟩ <;> decide +kernel

end Inspections

end Certinspect.Cli
