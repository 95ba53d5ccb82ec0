/-
**Connections and handshakes, `fetch.py`.**

An inspection opens a connection to read the certificate and another to verify the chain, each
perhaps several times. `World` is the state: the `Event`s so far, newest first, and whatever the
revocation check fetches from. The outside (`Outside`) answers as a function of the whole world, so
every connection may meet another server, another certificate and another chain.

* `TlsSession` — a completed handshake, as the methods of an `SSLSocket` describe it; its verified
  chain, when there is one, starts with the peer's certificate.
* `openSocket` — the TCP connection, through a proxy or not, which a failed tunnel closes but a
  refused timeout does not; `retryNetwork` — the retries.
* `getServerCert`, `verifyChain` — the two handshakes; `verifyChainOffline` — the verification of a
  bundle that needs none.
-/

import Certinspect.Fetch.Starttls
import Certinspect.Parser

namespace Certinspect.Fetch

open Library

/-! ### What happens outside -/

/-- What a handshake is for. -/
inductive Purpose
  | inspection
  | verification
  deriving DecidableEq, Repr

/-- A completed handshake: `version()`, the name in `cipher()`, `getpeercert(binary_form=True)`, and
the two chain methods (`none` on an interpreter without them). -/
structure TlsSession where
  version : Option String
  cipher : Option String
  peercert : Option Bytes
  unverifiedChain : Option (Except PyErr (List Bytes))
  verifiedChain : Option (Except PyErr (List Bytes))
  /-- The verified chain is that of the certificate the peer presented, leaf first. -/
  leafFirst : ∀ leaf rest, verifiedChain = some (.ok (leaf :: rest)) → peercert = some leaf

/-- What a chain of certificates is read for. -/
inductive Use
  | revocationIssuer
  | chainWarnings
  deriving DecidableEq, Repr

/-- What an inspection does. -/
inductive Event
  /-- A TCP connection is attempted. -/
  | connecting (host : Option String) (port : Int)
  /-- A connection to a proxy is closed, no tunnel having been made. -/
  | closed
  /-- A TLS handshake completed. -/
  | handshake (purpose : Purpose) (session : TlsSession)
  /-- The pause before a retry. -/
  | slept
  /-- The inspected certificate is written to a file. -/
  | exported (path : String) (pem : Bytes)
  /-- A chain is taken as the source of the revocation issuer or of the expiry warnings. -/
  | took (use : Use) (chain : List Certificate)

/-- The state of an inspection: its events, newest first, and the network of the revocation
check. -/
structure World (ω : Type) where
  log : List Event
  web : ω

namespace World

variable {ω : Type}

/-- One more event. -/
def record (w : World ω) (event : Event) : World ω := { w with log := event :: w.log }

@[simp] theorem record_log (w : World ω) (event : Event) : (w.record event).log = event :: w.log :=
  rfl

@[simp] theorem record_web (w : World ω) (event : Event) : (w.record event).web = w.web := rfl

end World

/-- The settings of an `SSLContext` on which a handshake depends. -/
structure TlsContext where
  verifying : Bool
  cafile : Option String := none
  capath : Option String := none
  clientCert : Option (String × Option String) := none

/-- A `verification.Subject`: the name an offline verification is anchored to. -/
inductive VerificationSubject
  | dnsName (value : String)
  | ipAddress (value : IpAddress)
  deriving DecidableEq, Repr

/-- The outside of an inspection. -/
structure Outside (ω : Type) where
  /-- `datetime.now(timezone.utc)`. -/
  now : World ω → Instant
  /-- `date.today()`, as a day counted from 1970-01-01; an inspection asks for it once. -/
  today : Int
  readFile : World ω → String → Except PyErr Bytes
  readStdin : World ω → Except PyErr Bytes
  writeFile : World ω → String → Bytes → Except PyErr Unit
  urlsplit : String → Except PyErr SplitResult
  /-- `urllib.request.getproxies()`. -/
  getproxies : World ω → List (String × String)
  proxyBypass : World ω → String → Bool
  createDefaultContext : World ω → Option String → Option String → Except PyErr Unit
  loadCertChain : World ω → String → Option String → Except PyErr Unit
  /-- `socket.create_connection((host, port), timeout=...)`. -/
  createConnection : World ω → Option String → Int → String → Except PyErr Peer
  /-- `sock.settimeout(seconds)`, which takes no negative number, no NaN and none too large. -/
  settimeout : String → Except PyErr Unit
  /-- `context.wrap_socket(sock, server_hostname=...)`. -/
  wrapSocket : World ω → TlsContext → String → Except PyErr TlsSession
  /-- `err.verify_message` of an `SSLCertVerificationError`. -/
  verifyMessage : PyErr → String
  /-- `context.get_ca_certs(binary_form=True)`. -/
  getCaCerts : World ω → TlsContext → List Bytes
  /-- Whether `verification.DNSName(value)` takes the value. -/
  takesDnsName : String → Except PyErr Unit
  /-- `PolicyBuilder().store(Store(anchors)).build_server_verifier(subject)`. -/
  buildServerVerifier : List Certificate → VerificationSubject → Except PyErr Unit
  /-- `verifier.verify(leaf, intermediates)` of that verifier. -/
  verifyPath : World ω → List Certificate → VerificationSubject → Certificate → List Certificate →
    Except PyErr (List Certificate)

/-- The keyword arguments shared by the two handshakes; the trust overrides are of the second. -/
structure ConnectionArgs where
  starttls : Option String := none
  servername : Option String := none
  cafile : Option String := none
  capath : Option String := none
  clientCert : Option String := none
  clientKey : Option String := none
  proxy : Option String := none
  noProxy : Bool := false

/-- The connect and the read timeout, each as the text of its float: a socket takes or refuses it
(`createConnection`, `settimeout`), and messages quote it. -/
structure Timeouts where
  connect : String
  read : String

section Calls

variable {ω : Type} {α : Type}

/-- A call that only reads the world. -/
def ask (x : World ω → Except PyErr α) : Py (World ω) α := fun w => orRaise (x w) w

/-- Add an event. -/
def log (event : Event) : Py (World ω) Unit := modify fun w => w.record event

/-- A conversation in plain text, on the connection it belongs to. -/
def onSocket (x : Py Plaintext α) (plain : Plaintext) : Py (World ω) (α × Plaintext) := fun w =>
  match x plain with
  | .ok value after => .ok (value, after) w
  | .error err _ => .error err w

end Calls

/-! ### The TCP connection -/

section Proxy

variable (peer : Peer) (timeout : String)

/-- At most so many bytes of the stream from a position on, up to its end or a failure. -/
def followingBytes (p : Nat) : Nat → Bytes
  | 0 => []
  | n + 1 =>
    match peer.recv p with
    | .byte value => value :: followingBytes (p + 1) n
    | _ => []

/-- `_Deadline.recv(n)` for `n > 1`. -/
def recvMany (n : Nat) : Py Plaintext Bytes := do
  match ← recv peer (some timeout) with
  | none => pure []
  | some first => do
    let p := (← get).position
    let more := followingBytes peer p (min (n - 1) (peer.available (p - 1)))
    modify fun s => s.take more
    pure (first :: more)

/-- The cap of `_read_connect_response`. -/
def maxConnectResponse : Nat := 65536

/-- The loop of `_read_connect_response`, with what it has read so far. -/
def readConnectLoop (buf : Bytes) : Py Plaintext Bytes :=
  if bytesContain buf (ascii "\r\n\r\n") then pure buf
  else do
    let chunk ← recvMany peer timeout 256
    if _ended : chunk = [] then pure buf
    else if _full : maxConnectResponse < (buf ++ chunk).length then pure (buf ++ chunk)
    else readConnectLoop (buf ++ chunk)
termination_by maxConnectResponse + 1 - buf.length
decreasing_by
  have grows := List.length_pos_iff.mpr _ended
  rw [List.length_append] at *
  omega

/-- `_read_connect_response`. -/
def readConnectResponse : Py Plaintext Bytes := readConnectLoop peer timeout []

/-- The CONNECT request, with the credentials of the proxy URL. -/
def connectRequest (host : String) (port : Int) (parts : SplitResult) : String :=
  let authorization :=
    match parts.username with
    | none => ""
    | some username =>
      let credentials := username ++ ":" ++ parts.password.getD ""
      let token := String.ofList (base64Encode (encodeUtf8 credentials))
      s!"Proxy-Authorization: Basic {token}\r\n"
  s!"CONNECT {host}:{port} HTTP/1.1\r\nHost: {host}:{port}\r\n" ++ authorization ++ "\r\n"

/-- The tunnel through a proxy, once connected to it. -/
def openTunnel (host : String) (port : Int) (parts : SplitResult) : Py Plaintext Unit := do
  let request ← orRaise (encodeAscii (connectRequest host port parts))
  sendall peer request
  let statusLine := firstLine (← readConnectResponse peer timeout)
  if (splitFields statusLine)[1]? = some (ascii "200") then pure ()
  else
    raise .valueError
      s!"proxy CONNECT to {host}:{port} failed: {decodeStripped statusLine}"

end Proxy

section Connection

variable {ω : Type} (out : Outside ω)

/-- `_resolve_proxy`. -/
def resolveProxy (host : String) (proxy : Option String) (noProxy : Bool) :
    Py (World ω) (Option String) := do
  let w ← get
  let proxies := out.getproxies w
  let candidate := (given (proxies.lookup "https")).or (given (proxies.lookup "http"))
  if noProxy then pure none
  else match given proxy, candidate with
    | some proxy, _ => pure (some proxy)
    | none, none => pure none
    | none, some candidate => pure (if out.proxyBypass w host then none else some candidate)

/-- `socket.create_connection`. -/
def createConnection (host : Option String) (port : Int) (timeout : String) : Py (World ω) Peer := do
  log (.connecting host port)
  ask fun w => out.createConnection w host port timeout

/-- `try: x` with an `except Exception` that closes the connection and raises again. -/
def closingOnError {α : Type} (x : Py (World ω) α) : Py (World ω) α := do
  match ← caught (fun _ => true) x with
  | .ok value => pure value
  | .error err => do
    log .closed
    throw err

/-- A connection on which nothing was read or sent. -/
def fresh : Plaintext := ⟨0, [], []⟩

/-- `_open_socket`. The switch to the read timeout is outside the `try`: if it raises, the connection
stays open. -/
def openSocket (host : String) (port : Int) (timeouts : Timeouts) (proxy : Option String) :
    Py (World ω) (Peer × Plaintext) := do
  match given proxy with
  | none => do
    let peer ← createConnection out (some host) port timeouts.connect
    orRaise (out.settimeout timeouts.read)
    pure (peer, fresh)
  | some proxy => do
    let parts ← orRaise (out.urlsplit (if occursIn "://" proxy then proxy else "//" ++ proxy))
    let proxyPort ← orRaise parts.port
    let peer ← createConnection out parts.hostname
      (((proxyPort.filter (· != 0)).getD 8080 : Nat) : Int) timeouts.connect
    let tunnel ← closingOnError (onSocket (openTunnel peer timeouts.connect host port parts) fresh)
    orRaise (out.settimeout timeouts.read)
    pure (peer, tunnel.2)

end Connection

/-! ### Retries -/

section Retries

variable {ω : Type} {α : Type}

/-- The loop of `retry_network`, with the attempts that remain after this one. -/
def retryLoop (call : Py (World ω) α) : Nat → Py (World ω) α
  | 0 => call
  | remaining + 1 => do
    match ← except [.timeoutError, .connectionError, .gaierror] call with
    | .ok value => pure value
    | .error _ => do
      log .slept
      retryLoop call remaining

/-- What unpacking the `None` of a `retry_network` that made no attempt raises. -/
def unpackNone : PyErr := ⟨.typeError, "cannot unpack non-iterable NoneType object"⟩

/-- `retry_network`, its result unpacked; a negative `retries` makes no attempt. -/
def retryNetwork (call : Py (World ω) α) (retries : Int) : Py (World ω) α :=
  if retries < 0 then throw unpackNone else retryLoop call retries.toNat

end Retries

/-! ### The two handshakes -/

section Handshakes

variable (lib : Cryptography)

/-- `_peer_der`. -/
def peerDer (session : TlsSession) : Except PyErr Bytes :=
  match session.peercert with
  | none => .error ⟨.valueError, "the server presented no certificate"⟩
  | some der => .ok der

/-- `_chain`, on what the method returns or raises. -/
def chainOf (method : Option (Except PyErr (List Bytes))) : Except PyErr (List Certificate) := do
  match method with
  | none => pure []
  | some getter =>
    match ← exceptPure [.typeError, .valueError, .sslError] (do
        (← getter).mapM lib.loadDerX509Certificate) with
    | .ok chain => pure chain
    | .error _ => pure []

/-- The chain of a verifying handshake: the verified one, else the leaf alone. -/
def verifiedChainOf (session : TlsSession) : Except PyErr (List Certificate) := do
  match ← chainOf lib session.verifiedChain with
  | [] => do
    let leaf ← lib.loadDerX509Certificate (← peerDer session)
    pure [leaf]
  | leaf :: rest => pure (leaf :: rest)

variable {ω : Type} (out : Outside ω)

/-- `_trust_context`. -/
def trustContext (cafile capath : Option String) : Py (World ω) TlsContext := do
  let overridden := (given cafile).isSome || (given capath).isSome
  let context : TlsContext :=
    if overridden then ⟨true, cafile, capath, none⟩ else ⟨true, none, none, none⟩
  ask fun w => out.createDefaultContext w context.cafile context.capath
  pure context

/-- `if client_cert: context.load_cert_chain(...)`. -/
def loadClientCert (context : TlsContext) (args : ConnectionArgs) : Py (World ω) TlsContext := do
  match given args.clientCert with
  | none => pure context
  | some certfile => do
    ask fun w => out.loadCertChain w certfile args.clientKey
    pure { context with clientCert := some (certfile, args.clientKey) }

/-- `context.wrap_socket`. -/
def wrapSocket (purpose : Purpose) (context : TlsContext) (serverHostname : String) :
    Py (World ω) TlsSession := do
  let session ← ask fun w => out.wrapSocket w context serverHostname
  log (.handshake purpose session)
  pure session

/-- The part the two handshakes share: connect, upgrade by STARTTLS if asked to, wrap. -/
def handshake (purpose : Purpose) (context : TlsContext) (host : String) (port : Int)
    (timeouts : Timeouts) (args : ConnectionArgs) (proxy : Option String) :
    Py (World ω) TlsSession := do
  let (peer, plain) ← openSocket out host port timeouts proxy
  match given args.starttls with
  | none => pure ()
  | some protocol => do
    let _ ← onSocket (negotiateStarttls peer (some timeouts.read) protocol) plain
    pure ()
  wrapSocket out purpose context ((given args.servername).getD host)

/-- `get_server_cert`. -/
def getServerCert (host : String) (port : Int) (timeouts : Timeouts) (args : ConnectionArgs) :
    Py (World ω) (Bytes × ConnectionInfo) := do
  ask fun w => out.createDefaultContext w none none
  let context ← loadClientCert out ⟨false, none, none, none⟩ args
  let proxy ← resolveProxy out host args.proxy args.noProxy
  let session ← handshake out .inspection context host port timeouts args proxy
  let der ← orRaise (peerDer session)
  let chain ← orRaise (chainOf lib session.unverifiedChain)
  pure (der, ⟨session.version, session.cipher, chain⟩)

/-- What `verify_chain` and `verify_chain_offline` return. -/
structure ChainVerdict where
  trusted : Bool
  reason : Option String
  chain : List Certificate

/-- The `try` body of `verify_chain`. -/
def verifiedHandshake (context : TlsContext) (host : String) (port : Int) (timeouts : Timeouts)
    (args : ConnectionArgs) (proxy : Option String) : Py (World ω) (List Certificate) := do
  let session ← handshake out .verification context host port timeouts args proxy
  orRaise (verifiedChainOf lib session)

/-- `verify_chain`. -/
def verifyChain (host : String) (port : Int) (timeouts : Timeouts) (args : ConnectionArgs) :
    Py (World ω) ChainVerdict := do
  let trust ← trustContext out args.cafile args.capath
  let context ← loadClientCert out trust args
  let proxy ← resolveProxy out host args.proxy args.noProxy
  match ← except [.sslCertVerificationError]
      (verifiedHandshake lib out context host port timeouts args proxy) with
  | .ok chain => pure ⟨true, none, chain⟩
  | .error err =>
    pure ⟨false, some ((given (some (out.verifyMessage err))).getD err.message), []⟩

end Handshakes

/-! ### Verification without a network -/

section Offline

variable (lib : Cryptography) {ω : Type} (out : Outside ω)

/-- The parsable ones among the trust anchors. -/
def parsableAnchors : List Bytes → Except PyErr (List Certificate)
  | [] => .ok []
  | der :: rest => do
    let anchor ← exceptPure [.valueError] (lib.loadDerX509Certificate der)
    let others ← parsableAnchors rest
    pure (match anchor with
      | .ok cert => cert :: others
      | .error _ => others)

/-- `_trust_anchors`. -/
def trustAnchors (cafile capath : Option String) : Py (World ω) (List Certificate) := do
  let context ← trustContext out cafile capath
  ask fun w => parsableAnchors lib (out.getCaCerts w context)

/-- `_WILDCARD_PROBE_LABEL`. -/
def wildcardProbeLabel : String := "certinspect-probe"

/-- `_concrete_dns_name`. -/
def concreteDnsName (first : String) (rest : List String) : String :=
  match (first :: rest).find? fun name => !occursIn "*" name with
  | some name => name
  | none =>
    if startsWith first "*." then wildcardProbeLabel ++ String.ofList (first.toList.drop 1)
    else first

/-- `verification.DNSName(value)`. -/
def verificationDnsName (value : String) : Except PyErr VerificationSubject := do
  out.takesDnsName value
  pure (.dnsName value)

/-- The subject taken from the Common Name. -/
def commonNameSubject (leaf : Certificate) : Except PyErr (Option VerificationSubject) := do
  match Parser.commonNames leaf.subject with
  | .text value :: _ =>
    match ← exceptPure [.valueError] (verificationDnsName out (concreteDnsName value [])) with
    | .ok subject => pure (some subject)
    | .error _ => pure none
  | _ => pure none

/-- `_offline_verification_subject`. -/
def offlineVerificationSubject (leaf : Certificate) :
    Except PyErr (Option VerificationSubject) := do
  match ← findExtension ExtensionValue.subjectAlternativeName? leaf.extensions with
  | none => commonNameSubject out leaf
  | some san =>
    match Parser.dnsNames san, Parser.ipAddresses san with
    | first :: rest, _ => return some (← verificationDnsName out (concreteDnsName first rest))
    | [], ip :: _ => pure (some (.ipAddress ip))
    | [], [] => commonNameSubject out leaf

/-- The end of `verify_chain_offline`, with a subject and trust anchors. -/
def verifyAnchored (anchors : List Certificate) (subject : VerificationSubject)
    (leaf : Certificate) (intermediates : List Certificate) : Py (World ω) ChainVerdict := do
  match ← except [.valueError] (orRaise (out.buildServerVerifier anchors subject)) with
  | .error _ =>
    pure ⟨false, some "the certificate has no valid name to anchor verification", []⟩
  | .ok _ =>
    match ← except [.verificationError]
        (ask fun w => out.verifyPath w anchors subject leaf intermediates) with
    | .error err => pure ⟨false, some err.message, []⟩
    | .ok verified => pure ⟨true, none, verified⟩

/-- `verify_chain_offline`. -/
def verifyChainOffline (certs : List Certificate) (cafile capath : Option String) :
    Py (World ω) ChainVerdict := do
  match certs with
  | [] => pure ⟨false, some "there is no certificate to verify", []⟩
  | leaf :: intermediates =>
    match ← orRaise (offlineVerificationSubject out leaf) with
    | none =>
      pure ⟨false, some "the certificate has no DNS name or IP address to anchor verification", []⟩
    | some subject =>
      match ← trustAnchors lib out cafile capath with
      | [] => pure ⟨false, some "no trusted CA certificates were available", []⟩
      | anchor :: anchors => verifyAnchored out (anchor :: anchors) subject leaf intermediates

end Offline

end Certinspect.Fetch
