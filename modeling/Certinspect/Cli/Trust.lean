/-
**Trust is never vouched for by another certificate.**

The certificate is read on one connection and its chain verified on another, either retried on its
own; a server may present another certificate each time. Whatever it presents, a chain counts as
trusted only when its leaf is the certificate that was inspected, and the same holds of the chain
that the revocation issuer and the expiry warnings are taken from.

* `Inspected`, `Vouched`, `Presented` — read off the log: the certificate of the latest inspection
  handshake, the verified chain of the latest verification handshake with that certificate as its
  leaf, the chain the server sent on the inspection handshake.
* `TookRight` — what must hold when a chain is taken as a source.
* `LogsOnly` — which events a step may log; it carries the three above through every step
  (`handshake_logsOnly`, `retryLoop_logsOnly`, `verifyChain_logsOnly`).
* `getServerCert_session`, `verifyChain_session` — which handshake a returned value comes from.
* **`inspect_trust`** — the result, for every server and every run.
-/

import Certinspect.Cli.Inspect
import Certinspect.Library.Trace

namespace Certinspect.Cli

open Library Fetch

/-! ### Reading the log -/

/-- The latest handshake of a kind. -/
def lastHandshake (purpose : Purpose) : List Event → Option TlsSession
  | [] => none
  | .handshake done session :: earlier =>
    if done = purpose then some session else lastHandshake purpose earlier
  | _ :: earlier => lastHandshake purpose earlier

section Reading

variable (lib : Cryptography)

/-- The certificate that the latest inspection handshake presented. -/
def Inspected (log : List Event) (cert : Certificate) : Prop :=
  ∃ session der, lastHandshake .inspection log = some session ∧ session.peercert = some der ∧
    Parser.loadCertificate lib der = .ok cert

/-- The chain that the server sent on the latest inspection handshake. -/
def Presented (log : List Event) (chain : List Certificate) : Prop :=
  ∃ session, lastHandshake .inspection log = some session ∧
    chainOf lib session.unverifiedChain = .ok chain

/-- The certificate that the peer of a handshake presented, parsed. -/
def LeafOf (session : TlsSession) (leaf : Certificate) : Prop :=
  ∃ der, session.peercert = some der ∧ lib.loadDerX509Certificate der = .ok leaf

/-- The chain is the verified one of the latest verification handshake, and its leaf, the
certificate presented there, is the given one. -/
def Vouched (log : List Event) (cert : Certificate) (chain : List Certificate) : Prop :=
  ∃ session leaf rest, lastHandshake .verification log = some session ∧
    verifiedChainOf lib session = .ok (leaf :: rest) ∧ chain = leaf :: rest ∧
    LeafOf lib session leaf ∧ (leaf == cert) = true

/-- What holds when a chain is taken as a source: it is the verified chain of the inspected
certificate; else there is none for the issuer, and what the server sent for the warnings. -/
def TookRight (event : Event) (earlier : List Event) : Prop :=
  match event with
  | .took .revocationIssuer chain =>
    ∃ cert, Inspected lib earlier cert ∧ (chain = [] ∨ Vouched lib earlier cert chain)
  | .took .chainWarnings chain =>
    ∃ cert, Inspected lib earlier cert ∧
      (Presented lib earlier chain ∨ Vouched lib earlier cert chain)
  | _ => True

end Reading

/-! ### What a step may log -/

/-- The events of the connections made for a purpose. -/
def ofPurpose (purpose : Purpose) : Event → Prop
  | .handshake done _ => done = purpose
  | .took _ _ => False
  | _ => True

section LogsOnly

variable {ω α β : Type} {purpose : Purpose}

/-- The computation logs only events of the purpose: what these leave true of the log stays true. -/
def LogsOnly (purpose : Purpose) (x : Py (World ω) α) : Prop :=
  ∀ T : List Event → Prop, (∀ event log, ofPurpose purpose event → T log → T (event :: log)) →
    Preserves x fun w => T w.log

theorem LogsOnly.bind {x : Py (World ω) α} {f : α → Py (World ω) β} (first : LogsOnly purpose x)
    (rest : ∀ value, LogsOnly purpose (f value)) : LogsOnly purpose (x >>= f) :=
  fun T kept => preserves_bind (first T kept) fun value => rest value T kept

theorem logsOnly_pure (value : α) : LogsOnly purpose (pure value : Py (World ω) α) :=
  fun _ _ => preserves_pure value

theorem logsOnly_throw (raised : PyErr) : LogsOnly purpose (throw raised : Py (World ω) α) :=
  fun _ _ => preserves_throw raised

theorem logsOnly_orRaise (x : Except PyErr α) : LogsOnly purpose (orRaise x : Py (World ω) α) :=
  fun _ _ => preserves_orRaise x

theorem logsOnly_get : LogsOnly purpose (get : Py (World ω) (World ω)) :=
  fun _ _ _ holds => holds

theorem logsOnly_ask (x : World ω → Except PyErr α) : LogsOnly purpose (ask x) :=
  fun _ _ w holds => preserves_orRaise (x w) w holds

theorem logsOnly_log {event : Event} (own : ofPurpose purpose event) :
    LogsOnly purpose (log event : Py (World ω) Unit) :=
  fun _ kept w holds => kept event w.log own holds

theorem logsOnly_except {classes : List ExcClass} {x : Py (World ω) α}
    (only : LogsOnly purpose x) : LogsOnly purpose (except classes x) :=
  fun T kept => preserves_caught (only T kept)

theorem logsOnly_closingOnError {x : Py (World ω) α} (only : LogsOnly purpose x) :
    LogsOnly purpose (closingOnError x) := by
  intro T kept
  refine preserves_bind (preserves_caught (only T kept)) fun ended => ?_
  cases ended with
  | ok value => exact preserves_pure value
  | error err =>
    have own : ofPurpose purpose .closed := trivial
    exact preserves_bind (logsOnly_log own T kept) fun _ => preserves_throw err

theorem logsOnly_onSocket (x : Py Plaintext α) (plain : Plaintext) :
    LogsOnly purpose (onSocket x plain : Py (World ω) (α × Plaintext)) := by
  intro T _ w holds
  unfold Outcome onSocket
  cases x plain <;> exact holds

end LogsOnly

/-! ### The connections log only their own events -/

section Connections

variable {ω α : Type} {purpose : Purpose} {out : Outside ω} {lib : Cryptography}

theorem createConnection_logsOnly (host : Option String) (port : Int) (timeout : String) :
    LogsOnly purpose (createConnection out host port timeout) := by
  have own : ofPurpose purpose (.connecting host port) := trivial
  exact (logsOnly_log own).bind fun _ => logsOnly_ask _

theorem openSocket_logsOnly (host : String) (port : Int) (timeouts : Timeouts)
    (proxy : Option String) : LogsOnly purpose (openSocket out host port timeouts proxy) := by
  unfold openSocket
  cases given proxy with
  | none =>
    refine (createConnection_logsOnly _ _ _).bind fun peer => ?_
    exact (logsOnly_orRaise _).bind fun _ => logsOnly_pure _
  | some url =>
    refine (logsOnly_orRaise _).bind fun parts => (logsOnly_orRaise _).bind fun proxyPort => ?_
    refine (createConnection_logsOnly _ _ _).bind fun peer => ?_
    -- whatever is said on the connection
    generalize openTunnel peer timeouts.connect host port parts = dialogue
    refine (logsOnly_closingOnError (logsOnly_onSocket _ _)).bind fun tunnel => ?_
    exact (logsOnly_orRaise _).bind fun _ => logsOnly_pure _

theorem wrapSocket_logsOnly (context : TlsContext) (serverHostname : String) :
    LogsOnly purpose (wrapSocket out purpose context serverHostname) := by
  refine (logsOnly_ask _).bind fun session => ?_
  have own : ofPurpose purpose (.handshake purpose session) := rfl
  exact (logsOnly_log own).bind fun _ => logsOnly_pure _

theorem handshake_logsOnly (context : TlsContext) (host : String) (port : Int)
    (timeouts : Timeouts) (args : ConnectionArgs) (proxy : Option String) :
    LogsOnly purpose (handshake out purpose context host port timeouts args proxy) := by
  unfold handshake
  refine (openSocket_logsOnly _ _ _ _).bind fun connected => ?_
  cases given args.starttls with
  | none => exact (logsOnly_pure _).bind fun _ => wrapSocket_logsOnly _ _
  | some protocol => exact (logsOnly_onSocket _ _).bind fun _ => wrapSocket_logsOnly _ _

theorem loadClientCert_logsOnly (context : TlsContext) (args : ConnectionArgs) :
    LogsOnly purpose (loadClientCert out context args) := by
  unfold loadClientCert
  cases given args.clientCert with
  | none => exact logsOnly_pure _
  | some certfile => exact (logsOnly_ask _).bind fun _ => logsOnly_pure _

theorem resolveProxy_logsOnly (host : String) (proxy : Option String) (noProxy : Bool) :
    LogsOnly purpose (resolveProxy out host proxy noProxy) := by
  unfold resolveProxy
  refine logsOnly_get.bind fun w => ?_
  dsimp only
  split
  · exact logsOnly_pure _
  · split <;> exact logsOnly_pure _

theorem getServerCert_logsOnly (host : String) (port : Int) (timeouts : Timeouts)
    (args : ConnectionArgs) :
    LogsOnly .inspection (getServerCert lib out host port timeouts args) := by
  unfold getServerCert
  refine (logsOnly_ask _).bind fun _ => (loadClientCert_logsOnly _ _).bind fun context => ?_
  refine (resolveProxy_logsOnly _ _ _).bind fun proxy => ?_
  refine (handshake_logsOnly _ _ _ _ _ _).bind fun session => ?_
  exact (logsOnly_orRaise _).bind fun der => (logsOnly_orRaise _).bind fun _ => logsOnly_pure _

theorem verifiedHandshake_logsOnly (context : TlsContext) (host : String) (port : Int)
    (timeouts : Timeouts) (args : ConnectionArgs) (proxy : Option String) :
    LogsOnly .verification (verifiedHandshake lib out context host port timeouts args proxy) :=
  (handshake_logsOnly _ _ _ _ _ _).bind fun _ => logsOnly_orRaise _

theorem verifyChain_logsOnly (host : String) (port : Int) (timeouts : Timeouts)
    (args : ConnectionArgs) :
    LogsOnly .verification (verifyChain lib out host port timeouts args) := by
  unfold verifyChain trustContext
  refine LogsOnly.bind ((logsOnly_ask _).bind fun _ => logsOnly_pure _) fun trust => ?_
  refine (loadClientCert_logsOnly _ _).bind fun context => ?_
  refine (resolveProxy_logsOnly _ _ _).bind fun proxy => ?_
  refine (logsOnly_except (verifiedHandshake_logsOnly _ _ _ _ _ _)).bind fun ended => ?_
  cases ended <;> exact logsOnly_pure _

/-- A retried call logs what the call logs, and the pauses; the induction is on the attempts. -/
theorem retryLoop_logsOnly {call : Py (World ω) α} (only : LogsOnly purpose call)
    (remaining : Nat) : LogsOnly purpose (retryLoop call remaining) := by
  induction remaining with
  | zero => exact only
  | succ remaining ih =>
    refine (logsOnly_except only).bind fun ended => ?_
    cases ended with
    | ok value => exact logsOnly_pure value
    | error _ =>
      have own : ofPurpose purpose .slept := trivial
      exact (logsOnly_log own).bind fun _ => ih

theorem retryNetwork_logsOnly {call : Py (World ω) α} (only : LogsOnly purpose call)
    (retries : Int) : LogsOnly purpose (retryNetwork call retries) := by
  unfold retryNetwork
  split
  · exact logsOnly_throw _
  · exact retryLoop_logsOnly only _

end Connections

/-! ### Which handshake a value comes from -/

section Sessions

variable {ω α : Type} {out : Outside ω} {lib : Cryptography} {w : World ω}

theorem wrapSocket_session (purpose : Purpose) (context : TlsContext) (serverHostname : String) :
    Outcome (wrapSocket out purpose context serverHostname) w
      (fun session after => lastHandshake purpose after.log = some session) fun _ _ => True :=
  outcome_last fun _ _ => if_pos rfl

theorem handshake_session (purpose : Purpose) (context : TlsContext) (host : String) (port : Int)
    (timeouts : Timeouts) (args : ConnectionArgs) (proxy : Option String) :
    Outcome (handshake out purpose context host port timeouts args proxy) w
      (fun session after => lastHandshake purpose after.log = some session) fun _ _ => True := by
  refine outcome_last fun connected after => ?_
  cases given args.starttls with
  | none => exact wrapSocket_session purpose context _
  | some protocol => exact outcome_last fun _ _ => wrapSocket_session purpose context _

variable (lib out) in
/-- **The certificate read is that of the latest inspection handshake.** -/
theorem getServerCert_session (host : String) (port : Int) (timeouts : Timeouts)
    (args : ConnectionArgs) :
    Outcome (getServerCert lib out host port timeouts args) w
      (fun result after => ∃ session, lastHandshake .inspection after.log = some session ∧
        session.peercert = some result.1 ∧
        chainOf lib session.unverifiedChain = .ok result.2.chain) fun _ _ => True := by
  refine outcome_last fun _ _ => outcome_last fun context _ => outcome_last fun proxy _ => ?_
  rw [outcome_bind]
  refine outcome_mono (handshake_session _ _ _ _ _ _ _) (fun session after latest => ?_)
    fun _ _ _ => trivial
  cases presented : session.peercert with
  | none =>
    have refused : peerDer session = .error ⟨.valueError, "the server presented no certificate"⟩ := by
      unfold peerDer
      rw [presented]
    rw [outcome_bind, refused]
    exact trivial
  | some der =>
    have read : peerDer session = .ok der := by
      unfold peerDer
      rw [presented]
    rw [outcome_bind, read, outcome_orRaise_ok, outcome_bind]
    cases sent : chainOf lib session.unverifiedChain with
    | error raised => exact trivial
    | ok chain => exact ⟨session, latest, presented, sent⟩

/-- A chain with a leaf starts with the first certificate that the method returned. -/
theorem chainOf_cons {method : Option (Except PyErr (List Bytes))} {leaf : Certificate}
    {rest : List Certificate} (parsed : chainOf lib method = .ok (leaf :: rest)) :
    ∃ der others, method = some (.ok (der :: others)) ∧ lib.loadDerX509Certificate der = .ok leaf := by
  cases method with
  | none => cases parsed
  | some getter =>
    obtain ⟨tried, ran, kept⟩ := bind_ok_iff.mp parsed
    cases tried with
    | error raised => cases kept
    | ok chain =>
      cases kept
      cases loaded : (do (← getter).mapM lib.loadDerX509Certificate) with
      | error raised =>
        rw [loaded, exceptPure_error] at ran
        split at ran <;> cases ran
      | ok certs =>
        rw [loaded] at ran
        cases ran
        obtain ⟨ders, got, mapped⟩ := bind_ok_iff.mp loaded
        cases ders with
        | nil => cases mapped
        | cons der others =>
          rw [List.mapM_cons] at mapped
          obtain ⟨first, parsedFirst, more⟩ := bind_ok_iff.mp mapped
          obtain ⟨tail, _, whole⟩ := bind_ok_iff.mp more
          cases whole
          exact ⟨der, others, by rw [got], parsedFirst⟩

/-- **The verified chain starts with the certificate presented on its handshake**, whichever way it
was obtained. -/
theorem verifiedChainOf_leaf {session : TlsSession} {chain : List Certificate}
    (verified : verifiedChainOf lib session = .ok chain) :
    ∃ leaf rest, chain = leaf :: rest ∧ LeafOf lib session leaf := by
  obtain ⟨parsed, method, rest⟩ := bind_ok_iff.mp verified
  cases parsed with
  | nil =>
    -- no `get_verified_chain`, or nothing of it could be parsed: the peer's certificate alone
    obtain ⟨der, read, loads⟩ := bind_ok_iff.mp rest
    obtain ⟨leaf, loaded, alone⟩ := bind_ok_iff.mp loads
    cases alone
    have presented : session.peercert = some der := by
      unfold peerDer at read
      split at read
      · cases read
      · rename_i found
        cases read
        exact found
    exact ⟨leaf, [], rfl, der, presented, loaded⟩
  | cons leaf others =>
    cases rest
    obtain ⟨der, ders, returned, loaded⟩ := chainOf_cons method
    exact ⟨leaf, others, rfl, der, session.leafFirst der ders returned, loaded⟩

variable (lib out) in
/-- **A trusted verdict is about the latest verification handshake**; any other has no chain. -/
theorem verifyChain_session (host : String) (port : Int) (timeouts : Timeouts)
    (args : ConnectionArgs) :
    Outcome (verifyChain lib out host port timeouts args) w
      (fun verdict after => if verdict.trusted then
          ∃ session, lastHandshake .verification after.log = some session ∧
            verifiedChainOf lib session = .ok verdict.chain
        else verdict.chain = []) fun _ _ => True := by
  refine outcome_last fun trust _ => outcome_last fun context _ => outcome_last fun proxy after => ?_
  rw [outcome_bind, outcome_except]
  have ends : Outcome (verifiedHandshake lib out context host port timeouts args proxy) after
      (fun chain final => ∃ session, lastHandshake .verification final.log = some session ∧
        verifiedChainOf lib session = .ok chain) fun _ _ => True := by
    unfold verifiedHandshake
    rw [outcome_bind]
    refine outcome_mono (handshake_session _ _ _ _ _ _ _) (fun session final latest => ?_)
      fun _ _ _ => trivial
    cases parsed : verifiedChainOf lib session with
    | error raised => exact trivial
    | ok chain => exact ⟨session, latest, parsed⟩
  refine outcome_mono ends (fun chain final found => found) fun raised final _ => ?_
  split
  · exact rfl
  · exact trivial

/-- What every attempt returns, a retried call returns; the induction is on the attempts. -/
theorem retryLoop_returns {call : Py (World ω) α} {Q : α → World ω → Prop}
    (each : ∀ w, Outcome call w Q fun _ _ => True) (remaining : Nat) :
    ∀ w, Outcome (retryLoop call remaining) w Q fun _ _ => True := by
  induction remaining with
  | zero => exact each
  | succ remaining ih =>
    intro w
    unfold retryLoop
    rw [outcome_bind, outcome_except]
    refine outcome_mono (each w) (fun value after found => found) fun raised after _ => ?_
    split
    · exact outcome_last fun _ _ => ih _
    · exact trivial

theorem retryNetwork_returns {call : Py (World ω) α} {Q : α → World ω → Prop}
    (each : ∀ w, Outcome call w Q fun _ _ => True) (retries : Int) (w : World ω) :
    Outcome (retryNetwork call retries) w Q fun _ _ => True := by
  unfold retryNetwork
  split
  · exact trivial
  · exact retryLoop_returns each _ w

end Sessions

/-! ### The invariant of an inspection -/

section Invariant

variable {lib : Cryptography} {log : List Event} {cert : Certificate}
  {presented verified : List Certificate} {event : Event}

/-- What holds from the first handshake on: every source was taken rightly, and the certificate and
the presented chain are those of the inspection handshake. -/
structure Sound (lib : Cryptography) (cert : Certificate) (presented : List Certificate)
    (log : List Event) : Prop where
  each : EachAt (TookRight lib) log
  inspected : Inspected lib log cert
  presented : Presented lib log presented

/-- The chain of `_check_chain`: none, or the verified chain of the inspected certificate. -/
def Usable (lib : Cryptography) (cert : Certificate) (verified : List Certificate)
    (log : List Event) : Prop :=
  verified = [] ∨ Vouched lib log cert verified

theorem tookRight_of_ofPurpose {purpose : Purpose} (own : ofPurpose purpose event) :
    TookRight lib event log := by
  cases event with
  | took => exact own.elim
  | _ => trivial

theorem lastHandshake_of_other {purpose other : Purpose} (own : ofPurpose other event)
    (different : other ≠ purpose) :
    lastHandshake purpose (event :: log) = lastHandshake purpose log := by
  cases event with
  | handshake done session =>
    have apart : done ≠ purpose := fun same => different (own.symm.trans same)
    exact if_neg apart
  | _ => rfl

/-- The verification handshake changes nothing of what was read on the inspection handshake. -/
theorem Sound.verification (sound : Sound lib cert presented log)
    (own : ofPurpose .verification event) : Sound lib cert presented (event :: log) := by
  have latest : lastHandshake .inspection (event :: log) = lastHandshake .inspection log :=
    lastHandshake_of_other own (by decide)
  obtain ⟨each, ⟨session, der, found, read, loaded⟩, ⟨sender, sent, chain⟩⟩ := sound
  exact ⟨⟨tookRight_of_ofPurpose own, each⟩, ⟨session, der, latest.trans found, read, loaded⟩,
    ⟨sender, latest.trans sent, chain⟩⟩

/-- Taking a source rightly changes nothing that was read. -/
theorem Sound.took {use : Use} {chain : List Certificate} (sound : Sound lib cert presented log)
    (right : TookRight lib (.took use chain) log) :
    Sound lib cert presented (.took use chain :: log) :=
  ⟨⟨right, sound.each⟩, sound.inspected, sound.presented⟩

theorem Sound.exported {path : String} {pem : Bytes} (sound : Sound lib cert presented log) :
    Sound lib cert presented (.exported path pem :: log) :=
  ⟨⟨trivial, sound.each⟩, sound.inspected, sound.presented⟩

end Invariant

/-! ### The steps keep the invariant -/

section Steps

variable {ω : Type} {lib : Cryptography} {out : Outside ω} {web : Revocation.Web ω}
  {cert : Certificate} {conn : ConnectionInfo} {info : CertificateInfo} {opts : InspectOptions}
  {w : World ω} {target : Option String} {port : Int}

/-- A record is only marked trusted for a chain that vouches for the inspected certificate. -/
structure Stage (lib : Cryptography) (cert : Certificate) (conn : ConnectionInfo)
    (analysis : Analysis) (info : CertificateInfo) (verified : List Certificate)
    (log : List Event) : Prop where
  sound : Sound lib cert conn.chain log
  usable : Usable lib cert verified log
  trusted : info.chainTrusted = some true → Vouched lib log cert verified
  analysis : info.toAnalysis = analysis

theorem Stage.took {analysis : Analysis} {verified chain : List Certificate} {use : Use}
    {log : List Event} (stage : Stage lib cert conn analysis info verified log)
    (right : TookRight lib (.took use chain) log) :
    Stage lib cert conn analysis info verified (.took use chain :: log) :=
  ⟨stage.sound.took right, stage.usable, stage.trusted, stage.analysis⟩

/-- The network of the revocation check has its own state. -/
theorem onWeb_log {α : Type} (x : Py ω α) :
    Outcome (onWeb x) w (fun _ after => after.log = w.log) fun _ after => after.log = w.log := by
  unfold Outcome onWeb
  cases x w.web <;> rfl

/-- **A verdict that counts for the inspected certificate has a chain that vouches for it.** -/
theorem verdictFor_vouched {verdict : ChainVerdict}
    (about : if verdict.trusted then
        ∃ session, lastHandshake .verification w.log = some session ∧
          verifiedChainOf lib session = .ok verdict.chain
      else verdict.chain = []) :
    Usable lib cert (verdictFor cert verdict).chain w.log ∧
      ((verdictFor cert verdict).trusted = true →
        Vouched lib w.log cert (verdictFor cert verdict).chain) := by
  obtain ⟨trusted, reason, chain⟩ := verdict
  cases trusted with
  | false => exact ⟨Or.inl about, fun absurd => (by cases absurd)⟩
  | true =>
    obtain ⟨session, latest, parsed⟩ := about
    obtain ⟨leaf, rest, rfl, leafOf⟩ := verifiedChainOf_leaf parsed
    by_cases same : (leaf == cert) = true
    · have counts : verdictFor cert ⟨true, reason, leaf :: rest⟩ = ⟨true, reason, leaf :: rest⟩ :=
        if_pos same
      have vouched : Vouched lib w.log cert (leaf :: rest) :=
        ⟨session, leaf, rest, latest, parsed, rfl, leafOf, same⟩
      rw [counts]
      exact ⟨Or.inr vouched, fun _ => vouched⟩
    · have refused : verdictFor cert ⟨true, reason, leaf :: rest⟩ =
          ⟨false, some differentCertificate, []⟩ := if_neg same
      rw [refused]
      exact ⟨Or.inl rfl, fun absurd => (by cases absurd)⟩

/-- The verdict on a host's chain. -/
theorem verifySource_stage (live : given opts.file = none) (sound : Sound lib cert conn.chain w.log) :
    Outcome (verifySource lib out target port cert (some conn) opts none) w
      (fun result after => Sound lib cert conn.chain after.log ∧
        ∀ verdict presented, result = some (verdict, presented) →
          Usable lib cert verdict.chain after.log ∧
            (verdict.trusted = true → Vouched lib after.log cert verdict.chain))
      fun _ after => Sound lib cert conn.chain after.log := by
  unfold verifySource
  rw [live, Option.bind_none]
  cases given target with
  | none => exact ⟨sound, fun _ _ absurd => by cases absurd⟩
  | some host =>
    dsimp only
    rw [outcome_bind]
    have attempt : LogsOnly .verification
        (verifyChain lib out host port opts.timeouts (opts.connectionArgs true)) :=
      verifyChain_logsOnly _ _ _ _
    have logs := retryNetwork_logsOnly attempt opts.retries (Sound lib cert conn.chain)
      (fun _ _ own kept => kept.verification own) w sound
    have about := retryNetwork_returns (fun _ =>
      verifyChain_session out lib host port opts.timeouts (opts.connectionArgs true)) opts.retries w
    refine outcome_mono (outcome_and logs about) ?_ fun _ after kept => kept.1
    intro verdict after here
    obtain ⟨kept, found⟩ := here
    refine ⟨kept, fun _ _ same => ?_⟩
    cases same
    exact verdictFor_vouched found

/-- `_check_chain` on a host. -/
theorem checkChain_stage {analysis : Analysis} (live : given opts.file = none)
    (sound : Sound lib cert conn.chain w.log) (unset : info.chainTrusted = none)
    (same : info.toAnalysis = analysis) :
    Outcome (checkChain lib out info target port cert (some conn) opts none) w
      (fun result after => Stage lib cert conn analysis result.1 result.2.2 after.log)
      fun _ after => EachAt (TookRight lib) after.log := by
  have untouched : Stage lib cert conn analysis info [] w.log :=
    ⟨sound, Or.inl rfl, fun absurd => by (rw [unset] at absurd; cases absurd), same⟩
  unfold checkChain
  rw [outcome_ite]
  split
  · rw [outcome_bind]
    refine outcome_mono (verifySource_stage live sound) ?_ fun _ _ kept => kept.each
    rintro (_ | ⟨verdict, presented⟩) after ⟨kept, verdicts⟩
    · exact ⟨kept, Or.inl rfl, fun absurd => by (rw [unset] at absurd; cases absurd), same⟩
    · obtain ⟨usable, vouched⟩ := verdicts verdict presented rfl
      dsimp only
      rw [outcome_ite]
      split
      · rename_i trusted
        exact ⟨kept, usable, fun _ => vouched trusted, same⟩
      · rename_i untrusted
        rw [outcome_bind]
        have diagnosed := preserves_orRaise (I := fun w : World ω => w = after)
          (Parser.diagnoseChain (out.now after) presented) after rfl
        refine outcome_mono diagnosed ?_ ?_
        · rintro diagnosis final rfl
          refine ⟨kept, usable, fun marked => ?_, same⟩
          exact (untrusted (Option.some.inj marked)).elim
        · rintro _ final rfl
          exact kept.each
  · exact untouched

/-- The source of the revocation issuer is right, and the check changes nothing of the rest. -/
theorem checkRevocation_stage {analysis : Analysis} {verified : List Certificate}
    (stage : Stage lib cert conn analysis info verified w.log) :
    Outcome (checkRevocation lib out web info cert verified) w
      (fun result after => Stage lib cert conn analysis result.1 verified after.log)
      fun _ after => EachAt (TookRight lib) after.log := by
  have right : TookRight lib (.took .revocationIssuer verified) w.log :=
    ⟨cert, stage.sound.inspected, stage.usable⟩
  have taken := stage.took right
  unfold checkRevocation log
  rw [outcome_bind, outcome_modify, outcome_bind, outcome_get, outcome_bind]
  refine outcome_mono (onWeb_log _) ?_ ?_
  · rintro ⟨status, detail⟩ after unchanged
    rw [outcome_pure, unchanged]
    exact ⟨taken.sound, taken.usable, taken.trusted, taken.analysis⟩
  · intro _ after unchanged
    rw [unchanged]
    exact taken.sound.each

/-- The checks of the chain and of revocation. -/
theorem checkTrust_stage {analysis : Analysis} (live : given opts.file = none)
    (sound : Sound lib cert conn.chain w.log) (unset : info.chainTrusted = none)
    (same : info.toAnalysis = analysis) :
    Outcome (checkTrust lib out web info target port cert (some conn) opts none) w
      (fun result after => Stage lib cert conn analysis result.1 result.2.2 after.log)
      fun _ after => EachAt (TookRight lib) after.log := by
  unfold checkTrust
  rw [outcome_bind]
  refine outcome_mono (checkChain_stage live sound unset same) ?_ fun _ _ kept => kept
  rintro ⟨checked, untrusted, verified⟩ after stage
  dsimp only at stage ⊢
  rw [outcome_ite]
  split
  · rw [outcome_bind]
    exact outcome_mono (checkRevocation_stage stage) (fun _ _ kept => kept) fun _ _ kept => kept
  · exact stage

/-- The source of the expiry warnings is right. -/
theorem checkWarnings_stage {analysis : Analysis} {verified : List Certificate}
    (stage : Stage lib cert conn analysis info verified w.log) :
    Outcome (checkWarnings out info (warningSource verified (some conn) none) opts) w
      (fun result after => Stage lib cert conn analysis result verified after.log)
      fun _ after => EachAt (TookRight lib) after.log := by
  have right : TookRight lib (.took .chainWarnings (warningSource verified (some conn) none))
      w.log := by
    refine ⟨cert, stage.sound.inspected, ?_⟩
    cases verified with
    | nil => exact Or.inl stage.sound.presented
    | cons leaf rest =>
      rcases stage.usable with absurd | vouched
      · cases absurd
      · exact Or.inr vouched
  have taken := stage.took right
  exact ⟨taken.sound, taken.usable, taken.trusted, taken.analysis⟩

/-- `_inspect` on a host, from the analysis on. -/
theorem inspectCertificate_stage {analysis : Analysis} {der : Bytes} (live : given opts.file = none)
    (sound : Sound lib cert conn.chain w.log) :
    Outcome (inspectCertificate lib out web target port opts der (some conn) cert analysis) w
      (fun result after => ∃ verified,
        Stage lib cert conn analysis result.1 verified after.log)
      fun _ after => EachAt (TookRight lib) after.log := by
  have exported : Outcome (exportCertificate out cert opts) w
      (fun _ after => Sound lib cert conn.chain after.log)
      fun _ after => Sound lib cert conn.chain after.log := by
    unfold exportCertificate
    cases given opts.exportPath with
    | none => exact sound
    | some path =>
      rw [outcome_bind]
      refine outcome_mono (preserves_orRaise (I := fun after : World ω => after = w) _ w rfl)
        ?_ ?_
      · rintro _ _ rfl
        exact sound.exported
      · rintro _ _ rfl
        exact sound
  have noBundle : fileBundle lib der opts = .ok none := by
    unfold fileBundle
    rw [live]
    rfl
  unfold inspectCertificate
  rw [outcome_bind]
  refine outcome_mono exported (fun _ started kept => ?_) fun _ _ kept => kept.each
  rw [outcome_bind, outcome_get, noBundle, outcome_bind, outcome_orRaise_ok, outcome_bind]
  refine outcome_mono (checkTrust_stage live kept rfl rfl) ?_ fun _ _ kept => kept
  rintro ⟨trusted, codes, verified⟩ checked stage
  dsimp only at stage ⊢
  rw [outcome_bind]
  refine outcome_mono (checkWarnings_stage stage) ?_ fun _ _ kept => kept
  intro warned final stage
  rw [outcome_bind]
  cases recorded : recordChain warned (displayedChain cert (some conn) none) opts with
  | error raised => exact stage.sound.each
  | ok result =>
    rw [outcome_orRaise_ok]
    have kept : Keeps _ (checkRecord out.today result opts).1 :=
      (recordChain_keeps recorded).trans (checkRecord_keeps out.today)
    refine ⟨verified, stage.sound, stage.usable, fun marked => stage.trusted ?_, ?_⟩
    · exact kept.chain.symm.trans marked
    · exact kept.analysis.trans stage.analysis

variable (lib out opts target port) in
/-- `_fetch_source` on a host: what it returns is what the latest inspection handshake presented. -/
theorem fetchSource_session (network : ω) :
    Outcome (fetchSource lib out target port { opts with file := none }) ⟨[], network⟩
      (fun result after => EachAt (TookRight lib) after.log ∧ ∃ conn session,
        result.2 = some conn ∧ lastHandshake .inspection after.log = some session ∧
        session.peercert = some result.1 ∧ chainOf lib session.unverifiedChain = .ok conn.chain)
      fun _ after => EachAt (TookRight lib) after.log := by
  unfold fetchSource
  cases target with
  | none => exact trivial
  | some host =>
    have attempt : LogsOnly .inspection
        (getServerCert lib out host port opts.timeouts (opts.connectionArgs false)) :=
      getServerCert_logsOnly _ _ _ _
    have logs := retryNetwork_logsOnly attempt opts.retries (EachAt (TookRight lib))
      (fun _ _ own kept => ⟨tookRight_of_ofPurpose own, kept⟩) ⟨[], network⟩ trivial
    have about := retryNetwork_returns (fun _ =>
      getServerCert_session out lib host port opts.timeouts (opts.connectionArgs false)) opts.retries
      ⟨[], network⟩
    change Outcome (retryNetwork _ _ >>= _) _ _ _
    rw [outcome_bind]
    refine outcome_mono (outcome_and logs about) ?_ fun _ _ kept => kept.1
    rintro ⟨der, conn⟩ after ⟨kept, session, latest, presented, sent⟩
    exact ⟨kept, conn, session, rfl, latest, presented, sent⟩

variable (lib out web opts target port) in
/-- **The record of a host is of the certificate of its latest inspection handshake.** -/
theorem inspect_stage (network : ω) :
    Outcome (inspect lib out web target port { opts with file := none }) ⟨[], network⟩
      (fun result after => ∃ cert conn now verified,
        Parser.analyze now cert = .ok result.1.toAnalysis ∧
          Stage lib cert conn result.1.toAnalysis result.1 verified after.log)
      fun _ after => EachAt (TookRight lib) after.log := by
  unfold inspect
  rw [outcome_bind]
  refine outcome_mono (fetchSource_session lib out opts target port network) ?_ fun _ _ kept => kept
  rintro ⟨der, _⟩ after ⟨each, conn, session, rfl, latest, presented, sent⟩
  dsimp only at presented ⊢
  rw [outcome_bind]
  cases loaded : Parser.loadCertificate lib der with
  | error raised => exact each
  | ok cert =>
    rw [outcome_orRaise_ok, outcome_bind, outcome_get, outcome_bind]
    cases analyzed : Parser.analyze (out.now after) cert with
    | error raised => exact each
    | ok analysis =>
      rw [outcome_orRaise_ok]
      have sound : Sound lib cert conn.chain after.log :=
        ⟨each, ⟨session, der, latest, presented, loaded⟩, ⟨session, latest, sent⟩⟩
      refine outcome_mono (inspectCertificate_stage rfl sound) ?_ fun _ _ kept => kept
      intro result final found
      obtain ⟨verified, stage⟩ := found
      have same := stage.analysis
      exact ⟨cert, conn, out.now after, verified, by rw [same]; exact analyzed, same ▸ stage⟩

end Steps

/-! ### The result -/

/-- **Trust is never vouched for by another certificate.** Whatever each connection of an inspection
of a host presents: a record marked as trusted has a verified chain whose leaf is the inspected
certificate; and in every run, also one that ends with an exception, every chain taken as the source
of the revocation issuer or of the expiry warnings is of that certificate (`TookRight`). -/
theorem inspect_trust (lib : Cryptography) {ω : Type} (out : Outside ω) (web : Revocation.Web ω)
    (target : Option String) (port : Int) (opts : InspectOptions) (network : ω) :
    Outcome (inspect lib out web target port { opts with file := none }) ⟨[], network⟩
      (fun result after => EachAt (TookRight lib) after.log ∧
        ∃ cert, Inspected lib after.log cert ∧
          (∃ now, Parser.analyze now cert = .ok result.1.toAnalysis) ∧
          (result.1.chainTrusted = some true → ∃ chain, Vouched lib after.log cert chain))
      fun _ after => EachAt (TookRight lib) after.log := by
  refine outcome_mono (inspect_stage lib out web opts target port network) ?_ fun _ _ kept => kept
  intro result after found
  obtain ⟨cert, conn, now, verified, analyzed, stage⟩ := found
  exact ⟨stage.sound.each, cert, stage.sound.inspected, ⟨now, analyzed⟩,
    fun marked => ⟨verified, stage.trusted marked⟩⟩

end Certinspect.Cli
