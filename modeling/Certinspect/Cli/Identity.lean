/-
**The identity gates of a run: the pin, the expected names and the name of the host.**

`_inspect` asks of each whether it was requested before it compares: an empty pin was not, an empty
expected name was, and an empty `--servername` gives way to the host. A host without a name is checked
against none, but no handshake is made with it either.

* `hexText`, `pinMatches_iff` — a pin matches the SHA-256 fingerprint in hexadecimal.
* `Identified` — what the requested gates promise of a certificate.
* `inspect_named` — a source that was inspected was asked for by a name.
* `GatesHeld` — a run has inspected a certificate that is identified; `gatesHeld_of_exit` — so has one
  that exits with 0.
* **`identity_enforced_iff`** — every run with a pin is like that exactly when the pin is not empty.
-/

import Certinspect.Cli.ExitStatus
import Certinspect.Cli.Trust
import Certinspect.Parser.Addresses

namespace Certinspect.Cli

open Library Fetch

/-! ### The pin -/

section Pin

variable {cert : Certificate} {info : Analysis} {key : PublicKey} {now : Instant} {pin : String}

/-- A fingerprint in hexadecimal, in lower case. -/
def hexText (fingerprint : Bytes) : String :=
  String.ofList (fingerprint.flatMap (hexDigits "0123456789abcdef"))

/-- Both alphabets have the same digits, and no colon. -/
theorem hexDigits_lower (byte : UInt8) :
    ((hexDigits "0123456789ABCDEF" byte).filter (· != ':')).map lowerChar =
      hexDigits "0123456789abcdef" byte := by
  have digits : ∀ n < 16, "0123456789ABCDEF".toList.getD n '0' ≠ ':' ∧
      lowerChar ("0123456789ABCDEF".toList.getD n '0') = "0123456789abcdef".toList.getD n '0' := by
    decide +kernel
  have high := digits (byte.toNat / 16) (by have := byte.toNat_lt; omega)
  have low := digits (byte.toNat % 16) (Nat.mod_lt _ (by decide))
  unfold hexDigits
  simp only [List.filter_cons, List.filter_nil, bne_iff_ne, ne_eq, high.1, low.1, not_false_eq_true,
    if_true, List.map_cons, List.map_nil, high.2, low.2]

/-- Without the colons between them, the parts follow each other. -/
theorem filter_intercalate (parts : List (List Char)) :
    ([':'].intercalate parts).filter (· != ':') = parts.flatMap (List.filter (· != ':')) := by
  induction parts with
  | nil => rfl
  | cons part rest ih =>
    cases rest with
    | nil => rw [List.intercalate_singleton, List.flatMap_cons, List.flatMap_nil, List.append_nil]
    | cons second rest =>
      have gone : [':'].filter (· != ':') = [] := rfl
      rw [List.intercalate_cons_cons, List.filter_append, List.filter_append, ih, gone, List.append_nil]
      rfl

/-- **A pin matches exactly the fingerprint in hexadecimal**, without colons and in lower case. -/
theorem pinMatches_iff (analyzed : Parser.AnalyzedWith key now cert info) :
    Parser.pinMatches info pin = true ↔
      hexText cert.fingerprintSha256 = lower (without ':' pin) := by
  have shown : lower (without ':' (Parser.formatFingerprint cert)) =
      hexText cert.fingerprintSha256 := by
    unfold lower without Parser.formatFingerprint hexText
    rw [String.toList_ofList, String.toList_intercalate]
    refine congrArg String.ofList ?_
    have colon : ":".toList = [':'] := rfl
    rw [colon, filter_intercalate, List.map_map, List.flatMap_map, List.map_flatMap]
    refine congrArg (List.flatMap · cert.fingerprintSha256) (funext fun byte => ?_)
    rw [Function.comp_apply, String.toList_ofList]
    exact hexDigits_lower byte
  unfold Parser.pinMatches
  rw [analyzed.fingerprint, shown, beq_iff_eq]

end Pin

/-! ### The gates -/

section Gates

/-- The SAN of the certificate covers the name. -/
def Covers (cert : Certificate) (name : String) : Prop :=
  ∃ san, Parser.sanNames cert = .ok san ∧ ∃ pattern ∈ san, Parser.nameMatches pattern name = true

/-- **What the requested gates promise of a certificate**: the pin, if there is one, is its fingerprint,
and it covers the expected names and the name it is checked against. -/
structure Identified (opts : InspectOptions) (host : String) (cert : Certificate) : Prop where
  pin : ∀ pin, opts.pin = some pin → hexText cert.fingerprintSha256 = lower (without ':' pin)
  names : ∀ name ∈ opts.expectSan.getD [], Covers cert name
  host : Covers cert ((given opts.servername).getD host)

variable {opts : InspectOptions} {host : String} {cert : Certificate} {info : CertificateInfo}
  {key : PublicKey} {now : Instant} {today : Int}

theorem covers_of_matches (analyzed : Parser.AnalyzedWith key now cert info.toAnalysis) {name : String}
    (covered : Parser.hostnameMatches info.toAnalysis name = true) : Covers cert name :=
  ⟨_, analyzed.san, List.any_eq_true.mp covered⟩

/-- **A source that passed is identified**, unless the pin or the name is empty. -/
theorem identified_of_passed (analyzed : Parser.AnalyzedWith key now cert info.toAnalysis)
    (pinned : opts.pin ≠ some "") (named : (given opts.servername).getD host ≠ "")
    (passed : Passed opts (some host) today info) : Identified opts host cert where
  pin pin asked := by
    have requested : given opts.pin = some pin := by
      rw [asked] at pinned ⊢
      exact if_pos (bne_iff_ne.mpr fun empty => pinned (congrArg some empty))
    have mismatch := passed.pinned
    unfold pinMismatched at mismatch
    rw [requested, Option.any_some, Bool.not_eq_false'] at mismatch
    exact (pinMatches_iff analyzed).mp mismatch
  names name expected := by
    have covered := List.any_eq_false.mp passed.names name expected
    rw [Bool.not_eq_true, Bool.not_eq_false'] at covered
    exact covers_of_matches analyzed covered
  host := by
    have asked : opts.checkName (some host) = some ((given opts.servername).getD host) := by
      unfold InspectOptions.checkName
      cases override : given opts.servername with
      | some name => rfl
      | none =>
        rw [override] at named
        exact if_pos (bne_iff_ne.mpr named)
    have mismatch := passed.host
    unfold hostMismatched at mismatch
    rw [asked, Option.any_some, Bool.not_eq_false'] at mismatch
    exact covers_of_matches analyzed mismatch

end Gates

/-! ### The name of the handshake -/

section Named

variable {ω : Type} {lib : Cryptography} {out : Outside ω} {web : Revocation.Web ω} {w : World ω}
  {opts : InspectOptions} {host : String} {port : Int}

/-- `wrap_socket` raises for an empty `server_hostname`. -/
def RejectsEmptyName (out : Outside ω) : Prop :=
  ∀ w context session, out.wrapSocket w context "" ≠ .ok session

/-- A handshake is made with a name. -/
theorem handshake_named (rejects : RejectsEmptyName out) (purpose : Purpose) (context : TlsContext)
    (timeouts : Timeouts) (args : ConnectionArgs) (proxy : Option String) :
    Outcome (handshake out purpose context host port timeouts args proxy) w
      (fun _ _ => (given args.servername).getD host ≠ "") fun _ _ => True := by
  have wrapped (w : World ω) :
      Outcome (wrapSocket out purpose context ((given args.servername).getD host)) w
        (fun _ _ => (given args.servername).getD host ≠ "") fun _ _ => True := by
    by_cases empty : (given args.servername).getD host = ""
    · rw [empty]
      refine outcome_kept ?_
      cases wrapped : out.wrapSocket w context "" with
      | ok session => exact (rejects w context session wrapped).elim
      | error raised =>
        unfold Outcome ask
        dsimp only
        rw [wrapped]
        exact trivial
    · exact outcome_of_forall _ (fun _ _ => empty) fun _ _ => trivial
  refine outcome_last fun connected after => ?_
  cases given args.starttls with
  | none => exact wrapped after
  | some protocol => exact outcome_last fun _ later => wrapped later

/-- **A host that was inspected was asked for by a name.** -/
theorem inspect_named (rejects : RejectsEmptyName out) :
    Outcome (inspect lib out web (some host) port { opts with file := none }) w
      (fun _ _ => (given opts.servername).getD host ≠ "") fun _ _ => True := by
  have attempt (w : World ω) :
      Outcome (getServerCert lib out host port opts.timeouts (opts.connectionArgs false)) w
        (fun _ _ => (given opts.servername).getD host ≠ "") fun _ _ => True :=
    outcome_last fun _ _ => outcome_last fun context _ => outcome_last fun proxy _ =>
      outcome_kept (handshake_named rejects .inspection context opts.timeouts
        (opts.connectionArgs false) proxy)
  refine outcome_kept ?_
  show Outcome (retryNetwork _ _ >>= _) _ _ _
  exact outcome_kept (retryNetwork_returns attempt opts.retries w)

end Named

/-! ### The runs -/

section Runs

variable {lib : Cryptography} {ω : Type} {urlsplit : String → Except PyErr SplitResult} {args : Args}
  {raw : String} {place : Surroundings ω} {schedule : List PoolAction} {outcome : Except PyErr Int}

/-- The target was inspected, and the certificate of the handshake is identified. -/
def GatesHeld (lib : Cryptography) (urlsplit : String → Except PyErr SplitResult) (args : Args)
    (raw : String) (place : Surroundings ω) : Prop :=
  ∃ default host port info code after cert, defaultPort args = .ok default ∧
    splitTarget urlsplit raw default = .ok (host, port) ∧
    inspect lib place.out place.web (some host) port (.fromArgs args) ⟨[], place.network⟩ =
      .ok (info, code) after ∧
    Inspected lib after.log cert ∧ Identified args.toInspectOptions host cert

/-- A run on one target that exits with 0 has passed it. -/
theorem passed_of_exit (plain : args.exporter ≠ some "nagios") (honest : args.exitZero = false)
    (ran : runMain urlsplit args [raw] [] (fun _ => inspectIn lib place) schedule = some outcome)
    (clear : processExit outcome = 0) : Job.Passed lib urlsplit args ⟨.host raw, place⟩ := by
  by_cases survives : Survived lib urlsplit args [raw] [] fun _ => place
  · have worst := @processExit_of_survived lib ω urlsplit args [raw] [] (fun _ => place) plain honest
      survives args.concurrency schedule outcome ran
    have zero : (0 : Int) = (Code.exit .ok).value := rfl
    rw [clear, zero, code_value_injective.eq_iff] at worst
    exact collection_ok_iff.mp worst.symm _ List.mem_cons_self
  · have lost := @processExit_of_not_survived lib ω urlsplit args [raw] [] (fun _ => place) survives
      args.concurrency schedule outcome ran
    rw [clear] at lost
    cases lost

/-- **A run that exits with 0 has held the gates**, unless the pin is empty. -/
theorem gatesHeld_of_exit (pinned : args.pin ≠ some "") (plain : args.exporter ≠ some "nagios")
    (honest : args.exitZero = false) (rejects : RejectsEmptyName place.out)
    (ran : runMain urlsplit args [raw] [] (fun _ => inspectIn lib place) schedule = some outcome)
    (clear : processExit outcome = 0) : GatesHeld lib urlsplit args raw place := by
  obtain ⟨info, code, inspected, passed⟩ := passed_of_exit plain honest ran clear
  obtain ⟨default, known, there⟩ := bind_ok_iff.mp inspected
  obtain ⟨⟨host, port⟩, split, returned⟩ := bind_ok_iff.mp there
  have named : Job.target urlsplit ⟨.host raw, place⟩ = some host := splitTarget_host split
  rw [named] at passed
  dsimp only at returned
  unfold inspectIn at returned
  cases run : inspect lib place.out place.web (some host) port (.fromArgs args)
      ⟨[], place.network⟩ with
  | error raised after =>
    rw [run] at returned
    cases returned
  | ok result after =>
    rw [run] at returned
    obtain rfl := Except.ok.inj returned
    obtain ⟨cert, conn, now, verified, analyzed, stage⟩ :=
      outcome_ok (inspect_stage lib place.out place.web args.toInspectOptions (some host) port
        place.network) run
    obtain ⟨key, fields⟩ := Parser.analyze_ok analyzed
    have nonempty := outcome_ok (inspect_named rejects) run
    have identified : Identified (.fromArgs args) host cert :=
      identified_of_passed fields pinned nonempty passed
    exact ⟨default, host, port, info, code, after, cert, known, split, run, stage.sound.inspected,
      ⟨identified.pin, identified.names, identified.host⟩⟩

/-- The certificate of `a.com`, with a fingerprint. -/
def pinnedCertificate : Certificate :=
  { Parser.sampleCertificate [.dnsName "a.com"] with
    fingerprintSha256 := List.replicate 32 0xAB }

/-- The package, on that certificate. -/
def pinnedReader : Cryptography :=
  { sampleReader with loadDerX509Certificate := fun _ => .ok pinnedCertificate }

/-- `a.com`, as `urlsplit` reads it. -/
def pinnedUrlsplit (_ : String) : Except PyErr SplitResult := .ok ⟨some "a.com", .ok none, none, none⟩

/-- A machine on whose network `a.com` answers with that certificate. -/
def pinnedMachine : Surroundings Unit :=
  { sampleMachine 0 with
    out :=
      { (sampleMachine 0).out with
        createConnection := fun _ _ _ _ =>
          .ok ⟨fun _ => .closed, fun _ => none, fun _ => 0, fun _ => false, fun _ => 0⟩
        wrapSocket := fun _ _ name =>
          if name = "" then
            .error ⟨.valueError,
              "server_hostname cannot be an empty string or start with a leading dot."⟩
          else .ok ⟨some "TLSv1.3", none, some (ascii "leaf"), none, none,
            fun _ _ absurd => by cases absurd⟩ } }

theorem pinnedMachine_rejects : RejectsEmptyName pinnedMachine.out :=
  fun _ _ _ absurd => by cases absurd

/-- `certinspect --no-verify --pin '' a.com`. -/
def emptyPinArgs : Args := { verify := false, pin := some "" }

theorem emptyPin_exit : ∃ outcome,
    runMain pinnedUrlsplit emptyPinArgs ["a.com"] [] (fun _ => inspectIn pinnedReader pinnedMachine) [] =
      some outcome ∧ processExit outcome = 0 := by
  have exits : (runMain pinnedUrlsplit emptyPinArgs ["a.com"] []
      (fun _ => inspectIn pinnedReader pinnedMachine) []).map processExit = some 0 := by
    decide +kernel
  exact Option.map_eq_some_iff.mp exits

theorem emptyPin_notHeld :
    ¬ GatesHeld pinnedReader pinnedUrlsplit emptyPinArgs "a.com" pinnedMachine := by
  intro held
  obtain ⟨_, _, _, _, _, _, cert, _, _, _, inspected, identified⟩ := held
  obtain ⟨_, der, _, _, loaded⟩ := inspected
  have only : cert = pinnedCertificate := by
    unfold Parser.loadCertificate at loaded
    split at loaded
    · cases loaded
    · exact (Except.ok.inj loaded).symm
  have same := identified.pin "" rfl
  rw [only] at same
  revert same
  decide +kernel

/-- **The requested identity gates are never skipped, but for an empty pin.** Without `--exit-zero` and
`--exporter nagios`, every run on one host with this pin, whatever its other options and whatever it
meets, holds the gates whenever it exits with 0 if and only if the pin is not the empty text. -/
theorem identity_enforced_iff (pin : Option String) :
    (∀ (lib : Cryptography) (ω : Type) (urlsplit : String → Except PyErr SplitResult) (args : Args)
        (raw : String) (place : Surroundings ω) (schedule : List PoolAction)
        (outcome : Except PyErr Int),
      args.pin = pin → args.exporter ≠ some "nagios" → args.exitZero = false →
        RejectsEmptyName place.out →
          runMain urlsplit args [raw] [] (fun _ => inspectIn lib place) schedule = some outcome →
            processExit outcome = 0 → GatesHeld lib urlsplit args raw place) ↔ pin ≠ some "" := by
  refine ⟨?_, ?_⟩
  · intro holds empty
    obtain ⟨outcome, ran, clear⟩ := emptyPin_exit
    exact emptyPin_notHeld (holds pinnedReader Unit pinnedUrlsplit emptyPinArgs "a.com" pinnedMachine []
      outcome empty.symm (by decide) rfl pinnedMachine_rejects ran clear)
  · intro nonempty lib ω urlsplit args raw place schedule outcome own plain honest rejects ran clear
    exact gatesHeld_of_exit (own ▸ nonempty) plain honest rejects ran clear

/-- The same with the fingerprint as the pin. -/
def pinnedArgs : Args :=
  { verify := false
    pin := some "ABababababababababababababababababababababababababababababababab"
    expectSan := some ["A.com"] }

/-- That run exits with 0, and holds the gates. -/
theorem identity_enforced_iff_pinned : ∃ outcome,
    runMain pinnedUrlsplit pinnedArgs ["a.com"] [] (fun _ => inspectIn pinnedReader pinnedMachine) [] =
      some outcome ∧ processExit outcome = 0 ∧
        GatesHeld pinnedReader pinnedUrlsplit pinnedArgs "a.com" pinnedMachine := by
  have exits : (runMain pinnedUrlsplit pinnedArgs ["a.com"] []
      (fun _ => inspectIn pinnedReader pinnedMachine) []).map processExit = some 0 := by
    decide +kernel
  obtain ⟨outcome, ran, clear⟩ := Option.map_eq_some_iff.mp exits
  exact ⟨outcome, ran, clear, (identity_enforced_iff pinnedArgs.pin).mpr (by decide) pinnedReader Unit
    pinnedUrlsplit pinnedArgs "a.com" pinnedMachine [] outcome rfl (by decide) rfl pinnedMachine_rejects
    ran clear⟩

/-- With an empty pin the run exits with 0, although the fingerprint is not empty. -/
theorem not_identity_enforced : ∃ outcome,
    runMain pinnedUrlsplit emptyPinArgs ["a.com"] [] (fun _ => inspectIn pinnedReader pinnedMachine) [] =
      some outcome ∧ processExit outcome = 0 ∧
        ¬ GatesHeld pinnedReader pinnedUrlsplit emptyPinArgs "a.com" pinnedMachine := by
  obtain ⟨outcome, ran, clear⟩ := emptyPin_exit
  exact ⟨outcome, ran, clear, emptyPin_notHeld⟩

end Runs

end Certinspect.Cli
