/-
**Inspecting one source, `_inspect` in `cli.py`.**

One source is a host or a local file. `inspect` reads its certificate and runs the requested checks;
each records its outcome on the `CertificateInfo` and may give an exit code, and the most severe code
is the source's.

* `InspectOptions` — the options, under the names of the command line.
* `fetchSource`, `checkChain`, `checkRevocation`, `checkPin`, `checkExpectSan`, `checkPolicy` — the
  steps, with the updated record as part of their result.
* `inspect` — the whole of `_inspect`; `inspectIn` is a run of it in its surroundings.
* `Keeps` — what the last steps leave alone (`checkWarnings_keeps`, `recordChain_keeps`,
  `checkRecord_keeps`).
-/

import Certinspect.Fetch.Handshake
import Certinspect.Revocation.Model

namespace Certinspect.Cli

open Library Fetch

/-! ### Options -/

/-- `InspectOptions`. A timeout is kept as the text of its float: sockets take or refuse it, and
messages quote it. -/
structure InspectOptions where
  file : Option String := none
  days : Int := 30
  criticalDays : Option Int := none
  exportPath : Option String := none
  timeout : String := "5"
  connectTimeout : Option String := none
  readTimeout : Option String := none
  retries : Int := 0
  verify : Bool := true
  chain : Bool := false
  pin : Option String := none
  starttls : Option String := none
  cafile : Option String := none
  capath : Option String := none
  servername : Option String := none
  expectSan : Option (List String) := none
  notAfterMax : Option Int := none
  cabForum : Bool := false
  minKeySize : Option Int := none
  failWeak : Bool := false
  requireSct : Bool := false
  requireMustStaple : Bool := false
  requireRevocationCheck : Bool := false
  minTlsVersion : Option String := none
  clientCert : Option String := none
  clientKey : Option String := none
  proxy : Option String := none
  noProxy : Bool := false

namespace InspectOptions

/-- `(effective_connect_timeout, effective_read_timeout)`. -/
def timeouts (opts : InspectOptions) : Timeouts :=
  ⟨opts.connectTimeout.getD opts.timeout, opts.readTimeout.getD opts.timeout⟩

/-- `policy_requested`: a limit of 0 counts as requested. -/
def policyRequested (opts : InspectOptions) : Bool :=
  opts.notAfterMax.isSome || opts.cabForum || opts.minKeySize.isSome || opts.failWeak ||
    opts.requireSct || opts.requireMustStaple || opts.requireRevocationCheck ||
    opts.minTlsVersion.isSome

/-- `_connection_kwargs`. -/
def connectionArgs (opts : InspectOptions) (includeCa : Bool) : ConnectionArgs where
  starttls := opts.starttls
  servername := opts.servername
  cafile := if includeCa then opts.cafile else none
  capath := if includeCa then opts.capath else none
  clientCert := given opts.clientCert
  clientKey := if (given opts.clientCert).isSome then opts.clientKey else none
  proxy := given opts.proxy
  noProxy := opts.noProxy

/-- The name the certificate is matched against: `opts.servername or target`. -/
def checkName (opts : InspectOptions) (target : Option String) : Option String :=
  (given opts.servername).or (given target)

end InspectOptions

section Inspect

variable (lib : Cryptography) {ω : Type} (out : Outside ω) (web : Revocation.Web ω)

/-! ### The certificate -/

/-- `assert host is not None` fails. -/
def noSource : PyErr := ⟨.assertionError, "a source is either a file or a host"⟩

/-- `_fetch_source`. -/
def fetchSource (target : Option String) (port : Int) (opts : InspectOptions) :
    Py (World ω) (Bytes × Option ConnectionInfo) := do
  match given opts.file, target with
  | some path, _ => do
    let data ← ask fun w => if path = "-" then out.readStdin w else out.readFile w path
    pure (data, none)
  | none, none => throw noSource
  | none, some host => do
    let (der, conn) ← retryNetwork
      (getServerCert lib out host port opts.timeouts (opts.connectionArgs false)) opts.retries
    pure (der, some conn)

/-- `if opts.export`: write the certificate in PEM form. -/
def exportCertificate (cert : Certificate) (opts : InspectOptions) : Py (World ω) Unit := do
  match given opts.exportPath with
  | none => pure ()
  | some path => do
    ask fun w => out.writeFile w path (Parser.toPem cert)
    log (.exported path (Parser.toPem cert))

/-- What `_inspect` records before the first check of the chain. -/
def describe (now : Instant) (analysis : Analysis) (target : Option String)
    (conn : Option ConnectionInfo) (opts : InspectOptions) : CertificateInfo :=
  { analysis with
    tlsVersion := conn.map ConnectionInfo.tlsVersion
    cipher := conn.map ConnectionInfo.cipher
    hostnameMatch := (opts.checkName target).map (Parser.hostnameMatches analysis)
    status := Parser.certificateStatus now analysis opts.days opts.criticalDays }

/-- The certificates of a `--file` bundle, parsed when they are needed. -/
def fileBundle (der : Bytes) (opts : InspectOptions) : Except PyErr (Option (List Certificate)) :=
  if (given opts.file).isSome && (opts.verify || opts.chain) then
    (Parser.loadCertificates lib der).map some
  else .ok none

/-! ### The chain -/

/-- Why a chain is not trusted when the second handshake was with another certificate. -/
def differentCertificate : String :=
  "the server presented a different certificate on the verification handshake"

/-- A host's verdict, which counts only for the certificate that was inspected. -/
def verdictFor (cert : Certificate) (verdict : ChainVerdict) : ChainVerdict :=
  match verdict.trusted, verdict.chain with
  | true, leaf :: _ => if leaf == cert then verdict else ⟨false, some differentCertificate, []⟩
  | _, _ => verdict

/-- The verdict on the chain and the presented chain, when there is a chain to verify. -/
def verifySource (target : Option String) (port : Int) (cert : Certificate)
    (conn : Option ConnectionInfo) (opts : InspectOptions) (bundle : Option (List Certificate)) :
    Py (World ω) (Option (ChainVerdict × List Certificate)) := do
  match (given opts.file).bind fun _ => bundle, given target with
  | some bundle, _ => do
    let verdict ← verifyChainOffline lib out bundle opts.cafile opts.capath
    pure (some (verdict, bundle))
  | none, some host => do
    let verdict ← retryNetwork
      (verifyChain lib out host port opts.timeouts (opts.connectionArgs true)) opts.retries
    pure (some (verdictFor cert verdict, (conn.map ConnectionInfo.chain).getD []))
  | none, none => pure none

/-- `_check_chain`. -/
def checkChain (info : CertificateInfo) (target : Option String) (port : Int) (cert : Certificate)
    (conn : Option ConnectionInfo) (opts : InspectOptions) (bundle : Option (List Certificate)) :
    Py (World ω) (CertificateInfo × Option ExitCode × List Certificate) := do
  if opts.verify then
    match ← verifySource lib out target port cert conn opts bundle with
    | none => pure (info, none, [])
    | some (verdict, presented) => do
      let info := { info with
        chainTrusted := some verdict.trusted
        chainError := some verdict.reason }
      if verdict.trusted then pure (info, none, verdict.chain)
      else do
        let diagnosis ← ask fun w => Parser.diagnoseChain (out.now w) presented
        pure ({ info with chainDiagnosis := diagnosis }, some .untrustedOrRevoked, verdict.chain)
  else pure (info, none, [])

/-! ### The other checks -/

/-- A computation on the network of the revocation check. -/
def onWeb {α : Type} (x : Py ω α) : Py (World ω) α := fun w =>
  match x w.web with
  | .ok value after => .ok value { w with web := after }
  | .error err after => .error err { w with web := after }

/-- `_check_revocation`: the issuer comes from the verified chain when that has one. -/
def checkRevocation (info : CertificateInfo) (cert : Certificate) (verified : List Certificate) :
    Py (World ω) (CertificateInfo × Option ExitCode) := do
  log (.took .revocationIssuer verified)
  let now := out.now (← get)
  let (status, detail) ← onWeb (Revocation.checkRevocation lib web now cert verified[1]?)
  pure ({ info with revocationStatus := some status, revocationDetail := some detail },
    if status = .revoked then some .untrustedOrRevoked else none)

/-- The chain whose certificates are checked for their expiry: the verified one, else what the server
presented or the bundle holds. -/
def warningSource (verified : List Certificate) (conn : Option ConnectionInfo)
    (bundle : Option (List Certificate)) : List Certificate :=
  match verified, conn, bundle with
  | leaf :: rest, _, _ => leaf :: rest
  | [], some conn, _ => conn.chain
  | [], none, some bundle => bundle
  | [], none, none => []

/-- The `chain_warnings` of `_inspect`. -/
def checkWarnings (info : CertificateInfo) (chain : List Certificate) (opts : InspectOptions) :
    Py (World ω) CertificateInfo := do
  log (.took .chainWarnings chain)
  let warnings := Parser.chainExpiryWarnings (out.now (← get)) chain opts.days
  pure { info with chainWarnings := if warnings = [] then none else some warnings }

/-- The presented chain to display, the certificate alone when there is none. -/
def displayedChain (cert : Certificate) (conn : Option ConnectionInfo)
    (bundle : Option (List Certificate)) : List Certificate :=
  match (conn.map ConnectionInfo.chain).or bundle with
  | some (leaf :: rest) => leaf :: rest
  | _ => [cert]

/-- `if opts.chain`: summarize the presented chain. -/
def recordChain (info : CertificateInfo) (presented : List Certificate) (opts : InspectOptions) :
    Except PyErr CertificateInfo := do
  if opts.chain then
    let summaries ← presented.mapM Parser.chainSummary
    pure { info with chain := some summaries }
  else pure info

/-- `_check_pin`. -/
def checkPin (info : CertificateInfo) (opts : InspectOptions) : CertificateInfo × Option ExitCode :=
  match given opts.pin with
  | none => (info, none)
  | some pin =>
    let same := Parser.pinMatches info.toAnalysis pin
    ({ info with pinMatch := some same }, if same then none else some .pinMismatch)

/-- `_check_expect_san`. -/
def checkExpectSan (info : CertificateInfo) (opts : InspectOptions) :
    CertificateInfo × Option ExitCode :=
  match opts.expectSan.getD [] with
  | [] => (info, none)
  | expected =>
    let missing := Parser.missingSanNames info.toAnalysis expected
    ({ info with expectedSanMissing := some missing },
      if missing = [] then none else some .sanMismatch)

/-- The policy of the options on a day. -/
def InspectOptions.policy (opts : InspectOptions) (today : Int) : Parser.Policy where
  notAfterMax := if opts.cabForum then some (Parser.cabForumMaxValidity today) else opts.notAfterMax
  minKeySize := opts.minKeySize
  failWeak := opts.failWeak
  requireSct := opts.requireSct
  requireMustStaple := opts.requireMustStaple
  minTlsVersion := opts.minTlsVersion

/-- `_revocation_policy_violation`. -/
def revocationPolicyViolation (info : CertificateInfo) : Option String :=
  if info.revocationStatus = some .good then none
  else
    let status := info.revocationStatus.map RevocationStatus.str
    let shown :=
      match given info.revocationDetail.join with
      | some detail => status.getD "None" ++ ": " ++ detail
      | none => status.getD "not run"
    some s!"revocation check did not return GOOD ({shown})"

/-- The violations `_check_policy` records. -/
def violations (today : Int) (info : CertificateInfo) (opts : InspectOptions) : List String :=
  Parser.policyViolations info.toAnalysis info.tlsVersion.join (opts.policy today) ++
    if opts.requireRevocationCheck then (revocationPolicyViolation info).toList else []

/-- `_check_policy`. -/
def checkPolicy (today : Int) (info : CertificateInfo) (opts : InspectOptions) :
    CertificateInfo × Option ExitCode :=
  if opts.policyRequested then
    let found := violations today info opts
    ({ info with policyViolations := some found }, if found = [] then none else some .policy)
  else (info, none)

/-! ### The whole inspection -/

/-- The codes of the checks that gave one. -/
def exitCodes (codes : List (Option ExitCode)) : List Code := codes.reduceOption.map .exit

/-- The checks that need only the record: pin, expected names, policy. -/
def checkRecord (today : Int) (info : CertificateInfo) (opts : InspectOptions) :
    CertificateInfo × List (Option ExitCode) :=
  let (info, pin) := checkPin info opts
  let (info, san) := checkExpectSan info opts
  let (info, policy) := checkPolicy today info opts
  (info, [pin, san, policy])

/-- The checks of the chain and of revocation, with the codes they give and the verified chain. -/
def checkTrust (info : CertificateInfo) (target : Option String) (port : Int) (cert : Certificate)
    (conn : Option ConnectionInfo) (opts : InspectOptions) (bundle : Option (List Certificate)) :
    Py (World ω) (CertificateInfo × List (Option ExitCode) × List Certificate) := do
  let (info, untrusted, verified) ← checkChain lib out info target port cert conn opts bundle
  if opts.verify && (given target).isSome then do
    let (info, revoked) ← checkRevocation lib out web info cert verified
    pure (info, [untrusted, revoked], verified)
  else pure (info, [untrusted], verified)

/-- `_inspect`, from the analysis on. -/
def inspectCertificate (target : Option String) (port : Int) (opts : InspectOptions) (der : Bytes)
    (conn : Option ConnectionInfo) (cert : Certificate) (analysis : Analysis) :
    Py (World ω) (CertificateInfo × Code) := do
  exportCertificate out cert opts
  let info := describe (out.now (← get)) analysis target conn opts
  let hostname := if info.hostnameMatch = some false then some ExitCode.hostnameMismatch else none
  let bundle ← orRaise (fileBundle lib der opts)
  let (info, trust, verified) ← checkTrust lib out web info target port cert conn opts bundle
  let info ← checkWarnings out info (warningSource verified conn bundle) opts
  let info ← orRaise (recordChain info (displayedChain cert conn bundle) opts)
  let (info, record) := checkRecord out.today info opts
  pure (info, mostSevere (exitCodes ([some (exitByStatus info.status), hostname] ++ trust ++ record)))

/-- `_inspect`. -/
def inspect (target : Option String) (port : Int) (opts : InspectOptions) :
    Py (World ω) (CertificateInfo × Code) := do
  let (der, conn) ← fetchSource lib out target port opts
  let cert ← orRaise (Parser.loadCertificate lib der)
  let analysis ← orRaise (Parser.analyze (out.now (← get)) cert)
  inspectCertificate lib out web target port opts der conn cert analysis

/-- Where and when an inspection takes place. -/
structure Surroundings (ω : Type) where
  out : Outside ω
  web : Revocation.Web ω
  network : ω

/-- What `_inspect` returns or raises in its surroundings. -/
def inspectIn (place : Surroundings ω) (target : Option String) (port : Int)
    (opts : InspectOptions) : Except PyErr (CertificateInfo × Code) :=
  match inspect lib place.out place.web target port opts ⟨[], place.network⟩ with
  | .ok result _ => .ok result
  | .error err _ => .error err

end Inspect

/-! ### What later steps leave alone -/

/-- A later record with the analysis, the handshake, the status and the name check of an earlier
one. -/
structure Extends (info later : CertificateInfo) : Prop where
  analysis : later.toAnalysis = info.toAnalysis
  status : later.status = info.status
  hostnameMatch : later.hostnameMatch = info.hostnameMatch
  tlsVersion : later.tlsVersion = info.tlsVersion

/-- A later record that also has the verdicts on the chain and on revocation of an earlier one. -/
structure Keeps (info later : CertificateInfo) : Prop extends Extends info later where
  chain : later.chainTrusted = info.chainTrusted
  revocation : later.revocationStatus = info.revocationStatus

theorem Extends.trans {first second third : CertificateInfo} (before : Extends first second)
    (after : Extends second third) : Extends first third where
  analysis := after.analysis.trans before.analysis
  status := after.status.trans before.status
  hostnameMatch := after.hostnameMatch.trans before.hostnameMatch
  tlsVersion := after.tlsVersion.trans before.tlsVersion

theorem Keeps.trans {first second third : CertificateInfo} (before : Keeps first second)
    (after : Keeps second third) : Keeps first third where
  toExtends := before.toExtends.trans after.toExtends
  chain := after.chain.trans before.chain
  revocation := after.revocation.trans before.revocation

section Keeps

variable {ω : Type} {out : Outside ω} {w : World ω} {opts : InspectOptions}
  {info : CertificateInfo}

theorem checkWarnings_keeps (chain : List Certificate) :
    Outcome (checkWarnings out info chain opts) w (fun later _ => Keeps info later)
      fun _ _ => True :=
  outcome_last fun _ _ => outcome_last fun _ _ => ⟨⟨rfl, rfl, rfl, rfl⟩, rfl, rfl⟩

theorem recordChain_keeps {presented : List Certificate} {later : CertificateInfo}
    (recorded : recordChain info presented opts = .ok later) : Keeps info later := by
  unfold recordChain at recorded
  split at recorded
  · obtain ⟨summaries, _, same⟩ := bind_ok_iff.mp recorded
    cases same
    exact ⟨⟨rfl, rfl, rfl, rfl⟩, rfl, rfl⟩
  · cases recorded
    exact ⟨⟨rfl, rfl, rfl, rfl⟩, rfl, rfl⟩

/-- What the last three checks record, and that they record nothing else. -/
theorem checkRecord_info (today : Int) (info : CertificateInfo) (opts : InspectOptions) :
    (checkRecord today info opts).1 = { info with
      pinMatch := ((given opts.pin).map (Parser.pinMatches info.toAnalysis)).or info.pinMatch
      expectedSanMissing := if opts.expectSan.getD [] = [] then info.expectedSanMissing
        else some (Parser.missingSanNames info.toAnalysis (opts.expectSan.getD []))
      policyViolations := if opts.policyRequested then some (violations today info opts)
        else info.policyViolations } := by
  have pin : (checkPin info opts).1 = { info with
      pinMatch := ((given opts.pin).map (Parser.pinMatches info.toAnalysis)).or info.pinMatch } := by
    unfold checkPin
    cases given opts.pin <;> rfl
  have san (info : CertificateInfo) : (checkExpectSan info opts).1 = { info with
      expectedSanMissing := if opts.expectSan.getD [] = [] then info.expectedSanMissing
        else some (Parser.missingSanNames info.toAnalysis (opts.expectSan.getD [])) } := by
    unfold checkExpectSan
    cases opts.expectSan.getD [] <;> rfl
  have policy (info : CertificateInfo) : (checkPolicy today info opts).1 = { info with
      policyViolations := if opts.policyRequested then some (violations today info opts)
        else info.policyViolations } := by
    unfold checkPolicy
    cases opts.policyRequested <;> rfl
  change (checkPolicy today (checkExpectSan (checkPin info opts).1 opts).1 opts).1 = _
  rw [policy, san, pin]
  rfl

theorem checkRecord_keeps (today : Int) : Keeps info (checkRecord today info opts).1 := by
  rw [checkRecord_info]
  exact ⟨⟨rfl, rfl, rfl, rfl⟩, rfl, rfl⟩

end Keeps

end Certinspect.Cli
