/-
**The SSRF-guarded HTTP client, `httpfetch.py`.**

A fetch resolves names, opens TCP connections and follows redirects. Each of these is an event of
the `History`, newest first, and the outside (`Internet`) answers as a function of the whole
history: a name may resolve differently every time, a server may redirect anywhere. The model is
the direct route, with no proxy in between.

* `vettedAddresses`, `guardFetchHost`, `checkUrl` — the guard, on a URL of any Python type: what a
  certificate supplies as a URL need not be text (`checkScheme`).
* `connectVetted` — resolve, vet, and connect to one of exactly those addresses.
* `openRequest` — the `urllib` opener: each request goes through the pinned handlers, and
  `redirect_request` runs before a redirect is followed.
* `fetch` — the whole call, with its response cap and the deadline verdict.
-/

import Certinspect.X509

namespace Certinspect.HttpFetch

open Library

/-- The `_MAX_HTTP_RESPONSE_BYTES` cap. -/
def maxHttpResponseBytes : Nat := 16 * 1024 * 1024

/-- The `_MAX_REDIRECTS` cap: distinct URLs a chain of redirects may visit. -/
def maxRedirects : Nat := 5

/-- How often `urllib` follows a redirect to one and the same URL. -/
def maxRepeats : Nat := 4

/-- Addresses a certificate-supplied URL must not reach. -/
def isBlockedFetchAddress (ip : IpAddress) : Bool :=
  ip.isLoopback || ip.isLinkLocal || ip.isUnspecified || ip.isMulticast || ip.isReserved

/-! ### The outside -/

/-- One address of a `getaddrinfo` answer, as `ip_address` reads it; `none` when it does not. -/
abbrev SockAddr : Type := Option IpAddress

/-- What a fetch does to the outside. -/
inductive NetEvent
  /-- The name was resolved to these addresses. -/
  | resolved (host : String) (answer : List SockAddr)
  /-- A TCP connection to the address was attempted, for a request to `host`. -/
  | connecting (host : String) (ip : IpAddress) (port : Option Nat)
  /-- The opener opens the request that follows a redirect to the URL. -/
  | following (url : String)
  deriving DecidableEq, Repr

/-- Everything done so far, newest first. -/
abbrev History : Type := List NetEvent

/-- The exceptions of sending a request or reading its response: `OSError` (an `HTTPError`
included), `HTTPException` or `ValueError`. -/
abbrev TransferError : Type :=
  {err : PyErr // err.isA [.osError, .httpException, .valueError] = true}

/-- What becomes of a request on an open connection. -/
inductive ServerAnswer
  /-- A final response, its body read up to one byte over the cap. -/
  | body (bytes : Bytes)
  /-- A redirect; `refused` is what `HTTPRedirectHandler.redirect_request` raises, if it does. -/
  | redirect (newurl : String) (refused : Option TransferError)
  /-- An error status, a malformed response, a network error. -/
  | failure (err : TransferError)

/-- The outside of a fetch, and the standard library's reading of URLs. -/
structure Internet where
  urlsplit : String → Except PyErr SplitResult
  /-- The host and port of the connection that `http.client` opens for a URL. -/
  endpoint : String → Except TransferError (String × Option Nat)
  getaddrinfo : History → String → Option Nat → Except PyErr (List SockAddr)
  createConnection : History → IpAddress → Option Nat → Except TransferError Unit
  respond : History → String → Option Bytes → ServerAnswer
  /-- Whether the fetch deadline has passed. -/
  expired : History → Bool

/-- A library call that raises a `TransferError`. -/
def transfer {σ α : Type} (x : Except TransferError α) : Py σ α :=
  orRaise (x.mapError Subtype.val)

/-! ### The guard -/

section Guard

variable (net : Internet)

/-- `socket.getaddrinfo(host, port)`. -/
def resolve (host : String) (port : Option Nat) : Py History (List SockAddr) := fun past =>
  match net.getaddrinfo past host port with
  | .ok answer => .ok answer (.resolved host answer :: past)
  | .error err => .error err past

/-- The loop of `_vetted_addresses` over the resolver's answer. -/
def vetAnswer (host : String) : List SockAddr → List IpAddress → Except PyErr (List IpAddress)
  | [], addresses => .ok addresses
  | none :: _, _ => .error ⟨.valueError, "not an IPv4 or IPv6 address"⟩
  | some ip :: rest, addresses =>
    if isBlockedFetchAddress ip then
      .error ⟨.valueError, s!"refusing to fetch from {host}: {ip.str} is a non-routable or " ++
        "internal address"⟩
    else vetAnswer host rest (if ip ∈ addresses then addresses else addresses ++ [ip])

/-- `_vetted_addresses`. -/
def vettedAddresses (host : String) (port : Option Nat) : Py History (List IpAddress) := do
  match ← except [.osError] (resolve net host port) with
  | .error err => raise .valueError s!"could not resolve {host}: {err.message}"
  | .ok infos => orRaise (vetAnswer host infos [])

/-- `_guard_fetch_host`. -/
def guardFetchHost (url : String) : Py History Unit := do
  let parts ← orRaise (net.urlsplit url)
  let host := parts.hostname.getD ""
  if host = "" then raise .valueError s!"URL has no host: {url}"
  else do
    let port ← orRaise parts.port
    let _ ← vettedAddresses net host port
    pure ()

/-- Whether the text starts like an http(s) URL. -/
def isHttpUrl (url : String) : Bool :=
  startsWith (lower url) "http://" || startsWith (lower url) "https://"

/-- The first line of `_check_url`, on a value of any type: only text has a `lower` whose result
can start with a text prefix. -/
def checkScheme : PyValue → Except PyErr String
  | .str url =>
    if isHttpUrl url then .ok url else .error ⟨.valueError, s!"unsupported URL scheme: {url}"⟩
  | .bytes _ =>
    .error ⟨.typeError, "startswith first arg must be bytes or a tuple of bytes, not str"⟩
  | .name _ => .error ⟨.attributeError, "'Name' object has no attribute 'lower'"⟩
  | .ip value => .error ⟨.attributeError, s!"'{value.className}' object has no attribute 'lower'"⟩
  | .oid _ _ => .error ⟨.attributeError, "'ObjectIdentifier' object has no attribute 'lower'"⟩

theorem checkScheme_ok_iff {url : PyValue} {text : String} :
    checkScheme url = .ok text ↔ url = .str text ∧ isHttpUrl text = true := by
  cases url with
  | str value =>
    change (if isHttpUrl value = true then _ else _) = _ ↔ _
    by_cases http : isHttpUrl value = true
    · rw [if_pos http, Except.ok.injEq, PyValue.str.injEq]
      exact ⟨fun same => ⟨same, same ▸ http⟩, fun same => same.1⟩
    · rw [if_neg http, PyValue.str.injEq]
      exact ⟨fun absurd => (by cases absurd), fun ⟨same, passes⟩ => (http (same ▸ passes)).elim⟩
  | _ => simp [checkScheme]

theorem checkScheme_str_error {url : String} {err : PyErr}
    (refused : checkScheme (.str url) = .error err) : err.cls = .valueError := by
  change (if isHttpUrl url = true then _ else _) = _ at refused
  split at refused
  · cases refused
  · cases refused
    rfl

/-- `_check_url`; returns the URL, now known to be text. -/
def checkUrl (url : PyValue) : Py History String := do
  let text ← orRaise (checkScheme url)
  guardFetchHost net text
  pure text

end Guard

/-! ### Connections and redirects -/

section Transport

variable (net : Internet)

/-- `socket.create_connection` to an IP literal; it resolves nothing. -/
def createConnection (host : String) (ip : IpAddress) (port : Option Nat) : Py History Unit :=
  fun past =>
    transfer (net.createConnection (.connecting host ip port :: past) ip port)
      (.connecting host ip port :: past)

/-- The loop of `_connect_vetted`: the first address that accepts, else the last error. -/
def connectAny (host : String) (port : Option Nat) : List IpAddress → Option PyErr →
    Py History Unit
  | [], error => throw (error.getD ⟨.osError, s!"could not connect to {host}"⟩)
  | ip :: rest, _ => do
    match ← except [.osError] (createConnection net host ip port) with
    | .ok _ => pure ()
    | .error err => connectAny host port rest (some err)

/-- `_connect_vetted`. -/
def connectVetted (host : String) (port : Option Nat) : Py History Unit := do
  let addresses ← vettedAddresses net host port
  connectAny net host port addresses none

/-- Send the request on the open connection and read the answer. -/
def exchange (url : String) (data : Option Bytes) : Py History ServerAnswer := fun past =>
  .ok (net.respond past url data) past

/-- `_GuardedRedirectHandler.redirect_request`. -/
def redirectRequest (newurl : String) (refused : Option TransferError) : Py History Unit := do
  let _ ← checkUrl net (.str newurl)
  match refused with
  | some err => throw err.1
  | none => pure ()

/-- The message of the `HTTPError` that ends a chain of redirects. -/
def redirectLoopMessage : String :=
  "The HTTP server returned a redirect error that would lead to an infinite loop."

/-- One request through the pinned handlers: its body, or the redirect that may be followed. -/
def requestOnce (url : String) (data : Option Bytes) : Py History (Bytes ⊕ String) := do
  let target ← transfer (net.endpoint url)
  connectVetted net target.1 target.2
  match ← exchange net url data with
  | .body bytes => pure (.inl bytes)
  | .failure err => throw err.1
  | .redirect newurl refused => do
    redirectRequest net newurl refused
    pure (.inr newurl)

/-- The opener, for at most as many requests as its first argument. `visited` is the
`redirect_dict`, one entry for each redirect followed. -/
def openRequest : Nat → List String → String → Option Bytes → Py History Bytes
  | 0, _, _, _ => raise .osError redirectLoopMessage
  | requests + 1, visited, url, data => do
    match ← requestOnce net url data with
    | .inl bytes => pure bytes
    | .inr newurl =>
      if visited.count newurl ≥ maxRepeats ∨ visited.eraseDups.length ≥ maxRedirects then
        raise .osError redirectLoopMessage
      else do
        modify fun past => .following newurl :: past
        openRequest requests (newurl :: visited) newurl none

/-- The text of `_deadline_error`. -/
def deadlineMessage (url : String) : String := s!"fetching {url} took longer than 60s"

/-- `fetch`, after the scheme check. -/
def fetchText (url : String) (data : Option Bytes) : Py History Bytes := do
  guardFetchHost net url
  let answer ← except [.osError, .httpException]
    (openRequest net (maxRepeats * maxRedirects + 1) [] url data)
  let expired := net.expired (← get)
  match answer with
  | .error err =>
    if expired then raise .timeoutError (deadlineMessage url)
    else if err.isA [.httpException] then
      raise .valueError s!"malformed HTTP response from {url}: {err.message}"
    else throw err
  | .ok body =>
    if expired then raise .timeoutError (deadlineMessage url)
    else if maxHttpResponseBytes < body.length then
      raise .valueError
        s!"response from {url} exceeds the {maxHttpResponseBytes}-byte limit"
    else pure body

/-- `fetch`. -/
def fetch (url : PyValue) (data : Option Bytes) : Py History Bytes := do
  let text ← orRaise (checkScheme url)
  fetchText net text data

end Transport

end Certinspect.HttpFetch
