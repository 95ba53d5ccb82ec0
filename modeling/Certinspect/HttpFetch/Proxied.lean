/-
**Fetches through a proxy, `httpfetch.py` after `use_proxy`.**

A proxy resolves the target of a request by itself, so such a request cannot be pinned to a vetted
address: only the check of its URL is left. Which requests go through a proxy is up to the options and to
the environment (`Routing`).

* `buildOpener`, `Routing.route` — the proxies of an opener, and where they send a request.
* `requestRouted`, `openRouted`, `fetchRouted` — a fetch; `Traffic` — what it has done by itself and what it
  has handed to proxies.
* `fetchRouted_none` — without proxies it is the direct fetch.
* `Cleared` — a URL that has just passed `checkUrl`. `Escorted` — the invariant: only such a URL has been
  handed to a proxy. `requestRouted_ready`, `openRouted_ready` — it is kept over every chain of redirects.
* **`fetchRouted_guarded`** — the guarantees of a fetch with any options.
-/

import Certinspect.HttpFetch.Ssrf

namespace Certinspect.HttpFetch

open Library

/-! ### The route of a request -/

/-- The proxies of an opener: those of the environment, none, or one for both schemes. -/
inductive Proxies
  | environment
  | none
  | fixed (proxy : String)

/-- `_build_opener`, with the options that `use_proxy` passes on. -/
def buildOpener (proxy : Option String) (noProxy : Bool) : Proxies :=
  if noProxy then .none
  else match given proxy with
    | some proxy => .fixed proxy
    | none => .environment

/-- Where `urllib` sends a request. -/
inductive Route
  | straight
  | proxied (host : String) (port : Option Nat)

/-- The proxies outside, and how `urllib` finds them. -/
structure Routing where
  /-- What a `ProxyHandler` makes of a request for a URL, with the proxies of the environment. -/
  environment : String → Except TransferError Route
  /-- `proxy_bypass`, for the host of a URL. -/
  bypass : String → Bool
  /-- The host and port of a proxy. -/
  address : String → Except TransferError (String × Option Nat)
  createConnection : History → String → Option Nat → Except TransferError Unit
  respond : History → String → Option Bytes → ServerAnswer

/-- What a `ProxyHandler` makes of a request for a URL. -/
def Routing.route (routing : Routing) (url : String) : Proxies → Except TransferError Route
  | .none => .ok .straight
  | .environment => routing.environment url
  | .fixed proxy =>
    if routing.bypass url then .ok .straight
    else (routing.address proxy).map fun target => .proxied target.1 target.2

/-- A request that is handed to a proxy, and everything done before. -/
structure ProxyUse where
  url : String
  host : String
  port : Option Nat
  past : History

/-- What has been done: by the program itself, and through proxies, newest first. -/
structure Traffic where
  history : History
  proxied : List ProxyUse

/-- What the program does by itself. -/
def onHistory {α : Type} (x : Py History α) : Py Traffic α := fun s =>
  match x s.history with
  | .ok value after => .ok value { s with history := after }
  | .error err after => .error err { s with history := after }

section Code

variable (net : Internet) (routing : Routing) (proxies : Proxies)

/-- `_connect_direct`, for a request that goes through a proxy. -/
def connectDirect (url host : String) (port : Option Nat) : Py Traffic Unit := fun s =>
  transfer (routing.createConnection s.history host port)
    { s with proxied := ⟨url, host, port, s.history⟩ :: s.proxied }

/-- Send the request to the proxy and read the answer. -/
def exchangeVia (url : String) (data : Option Bytes) : Py Traffic ServerAnswer := fun s =>
  .ok (routing.respond s.history url data) s

/-- One request, by `http_open` and `https_open` of the pinned handlers: `_via_proxy` chooses the
connection. -/
def requestRouted (url : String) (data : Option Bytes) : Py Traffic (Bytes ⊕ String) := do
  match ← transfer (routing.route url proxies) with
  | .straight => onHistory (requestOnce net url data)
  | .proxied host port =>
    connectDirect routing url host port
    match ← exchangeVia routing url data with
    | .body bytes => pure (.inl bytes)
    | .failure err => throw err.1
    | .redirect newurl refused => do
      onHistory (redirectRequest net newurl refused)
      pure (.inr newurl)

/-- The opener, as `openRequest`. -/
def openRouted : Nat → List String → String → Option Bytes → Py Traffic Bytes
  | 0, _, _, _ => raise .osError redirectLoopMessage
  | requests + 1, visited, url, data => do
    match ← requestRouted net routing proxies url data with
    | .inl bytes => pure bytes
    | .inr newurl =>
      if visited.count newurl ≥ maxRepeats ∨ visited.eraseDups.length ≥ maxRedirects then
        raise .osError redirectLoopMessage
      else do
        onHistory (modify fun past => .following newurl :: past)
        openRouted requests (newurl :: visited) newurl none

/-- The end of `fetch`: what it makes of the opener's answer. -/
def conclude (url : String) (expired : Bool) : Except PyErr Bytes → Except PyErr Bytes
  | .error err =>
    if expired then .error ⟨.timeoutError, deadlineMessage url⟩
    else if err.isA [.httpException] then
      .error ⟨.valueError, s!"malformed HTTP response from {url}: {err.message}"⟩
    else .error err
  | .ok body =>
    if expired then .error ⟨.timeoutError, deadlineMessage url⟩
    else if maxHttpResponseBytes < body.length then
      .error ⟨.valueError, s!"response from {url} exceeds the {maxHttpResponseBytes}-byte limit"⟩
    else .ok body

/-- `fetch`. -/
def fetchRouted (url : PyValue) (data : Option Bytes) : Py Traffic Bytes := do
  let text ← orRaise (checkScheme url)
  onHistory (guardFetchHost net text)
  let answer ← except [.osError, .httpException]
    (openRouted net routing proxies (maxRepeats * maxRedirects + 1) [] text data)
  let expired := net.expired (← get).history
  orRaise (conclude text expired answer)

end Code

/-! ### Without proxies -/

section Direct

variable {α β : Type} {net : Internet} {routing : Routing}

theorem outcome_onHistory {x : Py History α} {s : Traffic} {Q : α → Traffic → Prop}
    {E : PyErr → Traffic → Prop} :
    Outcome (onHistory x) s Q E ↔
      Outcome x s.history (fun value after => Q value { s with history := after })
        (fun err after => E err { s with history := after }) := by
  unfold Outcome onHistory
  cases x s.history <;> rfl

theorem onHistory_bind (x : Py History α) (f : α → Py History β) :
    onHistory (x >>= f) = onHistory x >>= fun value => onHistory (f value) := by
  funext s
  show onHistory (EStateM.bind x f) s = EStateM.bind (onHistory x) _ s
  unfold onHistory EStateM.bind
  dsimp only
  cases x s.history <;> rfl

theorem onHistory_orRaise (x : Except PyErr α) : onHistory (orRaise x) = orRaise x := by
  funext s
  cases x <;> rfl

theorem onHistory_except (classes : List ExcClass) (x : Py History α) :
    onHistory (except classes x) = except classes (onHistory x) := by
  funext s
  cases ran : x s.history with
  | ok value after => simp only [onHistory, except, caught, ran]
  | error err after =>
    by_cases accepted : err.isA classes = true
    · simp only [onHistory, except, caught, ran, if_pos accepted]
    · simp only [onHistory, except, caught, ran, if_neg accepted]

/-- Without proxies every request is the direct one. -/
theorem requestRouted_none (url : String) (data : Option Bytes) :
    requestRouted net routing .none url data = onHistory (requestOnce net url data) := rfl

theorem openRouted_none (requests : Nat) (visited : List String) (url : String)
    (data : Option Bytes) :
    openRouted net routing .none requests visited url data =
      onHistory (openRequest net requests visited url data) := by
  induction requests generalizing visited url data with
  | zero => rfl
  | succ requests ih =>
    rw [openRouted, openRequest, requestRouted_none, onHistory_bind]
    refine congrArg _ (funext fun answer => ?_)
    cases answer with
    | inl bytes => rfl
    | inr newurl =>
      dsimp only
      split
      · rfl
      · rw [onHistory_bind]
        exact congrArg _ (funext fun _ => ih _ _ _)

theorem fetchText_eq (url : String) (data : Option Bytes) :
    fetchText net url data = (do
      guardFetchHost net url
      let answer ← except [.osError, .httpException]
        (openRequest net (maxRepeats * maxRedirects + 1) [] url data)
      let expired := net.expired (← get)
      orRaise (conclude url expired answer)) := by
  unfold fetchText
  refine congrArg _ (funext fun _ => congrArg _ (funext fun answer => congrArg _ (funext fun past => ?_)))
  unfold conclude
  cases answer with
  | error err =>
    dsimp only
    split
    · rfl
    · split <;> rfl
  | ok body =>
    dsimp only
    split
    · rfl
    · split <;> rfl

/-- **Without proxies it is the direct fetch.** -/
theorem fetchRouted_none (url : PyValue) (data : Option Bytes) :
    fetchRouted net routing .none url data = onHistory (fetch net url data) := by
  unfold fetchRouted fetch
  rw [onHistory_bind, onHistory_orRaise]
  refine congrArg _ (funext fun text => ?_)
  rw [fetchText_eq, onHistory_bind, openRouted_none]
  refine congrArg _ (funext fun _ => ?_)
  rw [onHistory_bind, onHistory_except]
  refine congrArg _ (funext fun answer => ?_)
  rw [onHistory_bind]
  refine congrArg _ (funext fun past => ?_)
  rw [onHistory_orRaise]

end Direct

/-! ### With a proxy -/

/-- The URL has just passed `checkUrl`: it is http(s), and the last event is that its host was resolved, to
addresses that are all allowed. -/
structure Cleared (net : Internet) (url : String) (past : History) : Prop where
  http : isHttpUrl url = true
  resolved : ∃ parts host answer earlier, net.urlsplit url = .ok parts ∧ parts.hostname = some host ∧
    Routable answer ∧ past = .resolved host answer :: earlier

/-- The URL has just passed `checkUrl`, and when it is the target of a redirect, that is followed. -/
def Sendable (net : Internet) (url : String) (past : History) : Prop :=
  Cleared net url past ∨ ∃ checked, past = .following url :: checked ∧ Cleared net url checked

/-- A request that was handed to a proxy between `past` and `after`: its URL had just passed `checkUrl`, and
it went where the proxies send it. -/
structure Handed (net : Internet) (routing : Routing) (proxies : Proxies) (past after : History)
    (use : ProxyUse) : Prop where
  sendable : Sendable net use.url use.past
  route : routing.route use.url proxies = .ok (.proxied use.host use.port)
  since : past <:+ use.past
  within : use.past <:+ after

/-- Every request handed to a proxy since `past` was cleared. -/
def Escorted (net : Internet) (routing : Routing) (proxies : Proxies) (past after : Traffic) : Prop :=
  ∃ uses, after.proxied = uses ++ past.proxied ∧
    ∀ use ∈ uses, Handed net routing proxies past.history after.history use

section Proxied

variable {net : Internet} {routing : Routing} {proxies : Proxies} {past s : Traffic}

theorem Escorted.refl : Escorted net routing proxies past past :=
  ⟨[], rfl, List.forall_mem_nil _⟩

/-- What the program does by itself hands nothing to a proxy. -/
theorem Escorted.onHistory (escorted : Escorted net routing proxies past s) {after : History}
    (grown : s.history <:+ after) : Escorted net routing proxies past { s with history := after } := by
  obtain ⟨uses, split, each⟩ := escorted
  refine ⟨uses, split, fun use member => ?_⟩
  have handed := each use member
  exact { handed with within := handed.within.trans grown }

/-- One more request for a URL that has been cleared. -/
theorem Escorted.hand (escorted : Escorted net routing proxies past s) {url host : String}
    {port : Option Nat} (began : past.history <:+ s.history) (sendable : Sendable net url s.history)
    (sent : routing.route url proxies = .ok (.proxied host port)) :
    Escorted net routing proxies past
      { s with proxied := ⟨url, host, port, s.history⟩ :: s.proxied } := by
  obtain ⟨uses, split, each⟩ := escorted
  refine ⟨⟨url, host, port, s.history⟩ :: uses, congrArg (_ :: ·) split, ?_⟩
  exact List.forall_mem_cons.mpr ⟨⟨sendable, sent, began, List.suffix_rfl⟩, each⟩

theorem Screened.grown {before after : History} (screened : Screened net before after) :
    before <:+ after := by
  obtain ⟨added, extended⟩ := screened
  exact ⟨added, extended.split.symm⟩

/-- A host that passed the guard has just been resolved to allowed addresses. -/
theorem guardFetchHost_cleared {url : String} (http : isHttpUrl url = true) (before : History) :
    Outcome (guardFetchHost net url) before (fun _ after => Cleared net url after)
      (fun _ _ => True) := by
  unfold guardFetchHost
  rw [outcome_bind]
  cases split : net.urlsplit url with
  | error err => exact trivial
  | ok parts =>
    rw [outcome_orRaise_ok, outcome_ite]
    split
    · exact trivial
    · rename_i named
      rw [outcome_bind]
      cases parts.port with
      | error err => exact trivial
      | ok port =>
        rw [outcome_orRaise_ok, outcome_bind]
        refine outcome_mono (vettedAddresses_ready (ready_refl net before) _ port) ?_
          fun _ _ _ => trivial
        rintro addresses after ⟨_, answer, routable, rfl, _⟩
        cases host : parts.hostname with
        | none =>
          rw [host] at named
          exact (named rfl).elim
        | some name =>
          exact ⟨http, parts, name, answer, before, split, host, routable, rfl⟩

theorem checkUrl_cleared {url text : String} {before after : History}
    (passed : checkUrl net (.str url) before = .ok text after) : Cleared net url after := by
  have http := (checkUrl_ok passed).1
  have ends : Outcome (checkUrl net (.str url)) before (fun _ after => Cleared net url after)
      (fun _ _ => True) := by
    unfold checkUrl
    rw [outcome_bind, checkScheme, if_pos http, outcome_orRaise_ok, outcome_bind]
    exact guardFetchHost_cleared http before
  have cleared := outcome_ok ends passed
  exact cleared

/-- The fetch may go on, and only cleared requests were handed to a proxy. -/
def ReadyVia (net : Internet) (routing : Routing) (proxies : Proxies) (past after : Traffic) : Prop :=
  Ready net past.history after.history ∧ Escorted net routing proxies past after

/-- Every event was admissible, and only cleared requests were handed to a proxy. -/
def ScreenedVia (net : Internet) (routing : Routing) (proxies : Proxies) (past after : Traffic) : Prop :=
  Screened net past.history after.history ∧ Escorted net routing proxies past after

theorem ReadyVia.screened (ready : ReadyVia net routing proxies past s) :
    ScreenedVia net routing proxies past s := ⟨ready.1.screened, ready.2⟩

/-- A redirect that may be followed has just been cleared, whoever sent it. -/
theorem redirectRequest_via (ready : ReadyVia net routing proxies past s) (newurl : String)
    (refused : Option TransferError) :
    Outcome (onHistory (redirectRequest net newurl refused)) s
      (fun _ after => ReadyVia net routing proxies past after ∧
        ∃ before, checkUrl net (.str newurl) before = .ok newurl after.history)
      (fun _ after => ScreenedVia net routing proxies past after) := by
  rw [outcome_onHistory]
  refine outcome_mono (outcome_and (redirectRequest_ready ready.1 newurl refused)
    (redirectRequest_ready (ready_refl net s.history) newurl refused)) ?_ ?_
  · intro _ after found
    exact ⟨⟨found.1.1, ready.2.onHistory found.2.1.screened.grown⟩, found.1.2.2⟩
  · exact fun _ after found => ⟨found.1, ready.2.onHistory found.2.grown⟩

/-- One request for a cleared URL, whatever its route: it returns ready to go on, and a redirect it
returns has just been cleared. -/
theorem requestRouted_ready (ready : ReadyVia net routing proxies past s) {url : String}
    (sendable : Sendable net url s.history) (data : Option Bytes) :
    Outcome (requestRouted net routing proxies url data) s
      (fun answer after => ReadyVia net routing proxies past after ∧ ∀ newurl, answer = .inr newurl →
        ∃ before, checkUrl net (.str newurl) before = .ok newurl after.history)
      (fun _ after => ScreenedVia net routing proxies past after) := by
  unfold requestRouted
  rw [outcome_bind]
  unfold transfer
  cases sent : routing.route url proxies with
  | error err => exact ready.screened
  | ok route =>
    cases route with
    | straight =>
      show Outcome (onHistory (requestOnce net url data)) s _ _
      rw [outcome_onHistory]
      refine outcome_mono (outcome_and (requestOnce_ready ready.1 url data)
        (requestOnce_ready (ready_refl net s.history) url data)) ?_ ?_
      · intro answer after found
        exact ⟨⟨found.1.1, ready.2.onHistory found.2.1.screened.grown⟩,
          fun newurl same => (found.1.2 newurl same).2⟩
      · exact fun _ after found => ⟨found.1, ready.2.onHistory found.2.grown⟩
    | proxied host port =>
      have handed : ReadyVia net routing proxies past
          { s with proxied := ⟨url, host, port, s.history⟩ :: s.proxied } :=
        ⟨ready.1, ready.2.hand ready.1.screened.grown sendable sent⟩
      show Outcome (connectDirect routing url host port >>= _) s _ _
      rw [outcome_bind]
      unfold Outcome connectDirect transfer
      cases routing.createConnection s.history host port with
      | error err => exact handed.screened
      | ok connected =>
        show Outcome (exchangeVia routing url data >>= _) _ _ _
        rw [outcome_bind]
        unfold Outcome exchangeVia
        dsimp only
        cases routing.respond s.history url data with
        | body bytes => exact ⟨handed, fun _ absurd => by cases absurd⟩
        | failure err => exact handed.screened
        | redirect newurl refused =>
          show Outcome (onHistory (redirectRequest net newurl refused) >>= _) _ _ _
          rw [outcome_bind]
          refine outcome_mono (redirectRequest_via handed newurl refused) ?_ fun _ _ ends => ends
          intro _ later found
          refine ⟨found.1, fun same isRedirect => ?_⟩
          cases isRedirect
          exact found.2

/-- **The opener keeps the invariant**, over every chain of redirects through any proxies. -/
theorem openRouted_ready (requests : Nat) (visited : List String) (url : String) (data : Option Bytes)
    (ready : ReadyVia net routing proxies past s) (sendable : Sendable net url s.history) :
    Outcome (openRouted net routing proxies requests visited url data) s
      (fun _ after => ScreenedVia net routing proxies past after)
      (fun _ after => ScreenedVia net routing proxies past after) := by
  induction requests generalizing visited url data s with
  | zero => exact ready.screened
  | succ requests ih =>
    rw [openRouted, outcome_bind]
    refine outcome_mono (requestRouted_ready ready sendable data) ?_ fun _ _ ends => ends
    intro answer after found
    obtain ⟨readyAfter, checked⟩ := found
    cases answer with
    | inl bytes => exact readyAfter.screened
    | inr newurl =>
      simp only
      rw [outcome_ite]
      split
      · exact readyAfter.screened
      · rw [outcome_bind, outcome_onHistory, outcome_modify]
        obtain ⟨before, passed⟩ := checked newurl rfl
        have cleared := checkUrl_cleared passed
        refine ih _ _ _ ⟨?_, readyAfter.2.onHistory (List.suffix_cons _ _)⟩ (Or.inr ⟨_, rfl, cleared⟩)
        refine readyAfter.1.record ?_ fun _ _ _ _ absurd => by cases absurd
        intro added split settled
        refine ⟨settled, fun _ _ _ absurd => (by cases absurd), fun url' isFollowing => ?_⟩
        cases isFollowing
        exact ⟨cleared.http, before, split ▸ passed⟩

/-- **Every run of a fetch is screened**, whatever the URL, the proxies and the outside. -/
theorem fetchRouted_screened (url : PyValue) (data : Option Bytes) (past : Traffic) :
    ScreenedVia net routing proxies past
      (stateAfter (fetchRouted net routing proxies url data) past) := by
  refine outcome_stateAfter (P := ScreenedVia net routing proxies past) |>.mp ?_
  have ready : ReadyVia net routing proxies past past := ⟨ready_refl net past.history, Escorted.refl⟩
  unfold fetchRouted
  rw [outcome_bind]
  cases scheme : checkScheme url with
  | error err => exact ready.screened
  | ok text =>
    have http := (checkScheme_ok_iff.mp scheme).2
    rw [outcome_orRaise_ok, outcome_bind, outcome_onHistory]
    refine outcome_mono (outcome_and (guardFetchHost_ready ready.1 text)
      (guardFetchHost_cleared http past.history)) ?_ ?_
    · intro _ guarded found
      have opened := @openRouted_ready net routing proxies past _ (maxRepeats * maxRedirects + 1) []
        text data ⟨found.1, ready.2.onHistory found.1.screened.grown⟩ (Or.inl found.2)
      have concluded (after : Traffic) (answer : Except PyErr Bytes)
          (screened : ScreenedVia net routing proxies past after) :
          Outcome (get >>= fun now => orRaise (conclude text (net.expired now.history) answer)) after
            (fun _ after => ScreenedVia net routing proxies past after)
            (fun _ after => ScreenedVia net routing proxies past after) := by
        rw [outcome_bind, outcome_get]
        cases conclude text (net.expired after.history) answer with
        | ok body => exact screened
        | error err => exact screened
      rw [outcome_bind, outcome_except]
      refine outcome_mono opened (fun _ after screened => concluded after _ screened) ?_
      intro err after screened
      split
      · exact concluded after _ screened
      · exact screened
    · exact fun _ after found => ⟨found.1, ready.2.onHistory found.1.grown⟩

end Proxied

/-- **The guarantees of a fetch with any `--proxy` and `--no-proxy`.** Its own connections are screened as
those of the direct fetch. A request is handed to a proxy only right after its URL has passed `checkUrl`:
the URL is http(s) and its host was resolved to allowed addresses only; it goes to the proxy of the option,
when one is given. With `--no-proxy` the fetch is the direct one. -/
theorem fetchRouted_guarded (net : Internet) (routing : Routing) (proxy : Option String) (noProxy : Bool)
    (url : PyValue) (data : Option Bytes) (before : Traffic) :
    ∃ history uses, stateAfter (fetchRouted net routing (buildOpener proxy noProxy) url data) before =
        ⟨history, uses ++ before.proxied⟩ ∧
      Screened net before.history history ∧
      (∀ use ∈ uses, noProxy = false ∧ Sendable net use.url use.past ∧
        before.history <:+ use.past ∧ use.past <:+ history ∧
        ∀ server, given proxy = some server → routing.address server = .ok (use.host, use.port)) ∧
      (noProxy = true → fetchRouted net routing (buildOpener proxy noProxy) url data =
        onHistory (fetch net url data)) := by
  obtain ⟨screened, uses, split, each⟩ :=
    @fetchRouted_screened net routing (buildOpener proxy noProxy) url data before
  refine ⟨_, uses, congrArg (Traffic.mk _) split, screened, fun use member => ?_, fun none => ?_⟩
  · obtain ⟨sendable, sent, since, within⟩ := each use member
    unfold buildOpener at sent
    cases noProxy with
    | true => cases sent
    | false =>
      refine ⟨rfl, sendable, since, within, fun server asked => ?_⟩
      rw [if_neg Bool.false_ne_true, asked] at sent
      unfold Routing.route at sent
      dsimp only at sent
      split at sent
      · cases sent
      · cases found : routing.address server with
        | error err =>
          rw [found] at sent
          cases sent
        | ok target =>
          rw [found] at sent
          obtain ⟨host, port⟩ := Route.proxied.inj (Except.ok.inj sent)
          rw [← host, ← port]
  · rw [none]
    exact fetchRouted_none url data

end Certinspect.HttpFetch
