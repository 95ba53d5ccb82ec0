/-
**No server-side request forgery through certificate-supplied URLs.**

Whatever the URL, the resolver and the servers do, every TCP connection of a fetch goes to an
address of the answer to the very resolution made for it, and that answer holds no blocked address;
an answer that does is the last event of the fetch; every redirect that is followed is to an http(s)
URL that has just passed `checkUrl`.

The invariant is `Screened`: every new event was `Admissible` among the new events before it.
`Ready` is the stronger form that holds while the fetch goes on: the last answer, if it is the last
event, was free of blocked addresses. Each operation preserves them (`resolve_ready`,
`vettedAddresses_ready`, `guardFetchHost_ready`, `connectAny_ready`, `connectVetted_ready`,
`redirectRequest_ready`), the opener by induction on its redirects (`openRequest_ready`).
-/

import Certinspect.HttpFetch.Model
import Certinspect.Library.Trace

namespace Certinspect.HttpFetch

open Library

/-! ### What an event must satisfy -/

/-- The resolution that the connections in front of it were made for. -/
def resolutionOf : History → Option (String × List SockAddr)
  | .resolved host answer :: _ => some (host, answer)
  | .connecting _ _ _ :: earlier => resolutionOf earlier
  | _ => none

/-- An answer whose addresses can all be read and are all allowed. -/
def Routable (answer : List SockAddr) : Prop :=
  ∀ address ∈ answer, ∃ ip, address = some ip ∧ isBlockedFetchAddress ip = false

/-- The last event is not an answer with a blocked address. -/
def Settled (added : History) : Prop :=
  ∀ host answer earlier, added = .resolved host answer :: earlier → Routable answer

/-- What every event of a fetch satisfies: nothing follows a blocked answer, connections go to
addresses of their own resolution, followed redirects were checked. -/
structure Admissible (net : Internet) (past : History) (event : NetEvent) (earlier : History) :
    Prop where
  settled : Settled earlier
  vetted : ∀ host ip port, event = .connecting host ip port →
    ∃ answer, resolutionOf earlier = some (host, answer) ∧ some ip ∈ answer ∧ Routable answer
  checked : ∀ url, event = .following url →
    isHttpUrl url = true ∧ ∃ before, checkUrl net (.str url) before = .ok url (earlier ++ past)

/-- Every event since `past` was admissible. -/
def Screened (net : Internet) (past after : History) : Prop :=
  ∃ added, Extended (Admissible net past) past after added

/-- The fetch may go on: every event was admissible and the last answer was allowed. -/
def Ready (net : Internet) (past after : History) : Prop :=
  ∃ added, Extended (Admissible net past) past after added ∧ Settled added

theorem Ready.screened {net : Internet} {past after : History} (ready : Ready net past after) :
    Screened net past after := by
  obtain ⟨added, extended, _⟩ := ready
  exact ⟨added, extended⟩

theorem ready_refl (net : Internet) (past : History) : Ready net past past :=
  ⟨[], Extended.refl _ past, fun _ _ _ absurd => by cases absurd⟩

/-! ### The guard keeps the invariant -/

section Guard

variable {net : Internet} {past s : History}

/-- **A vetted answer is routable, and the addresses kept are addresses of it.** -/
theorem vetAnswer_ok {host : String} {infos : List SockAddr} {kept addresses : List IpAddress}
    (vetted : vetAnswer host infos kept = .ok addresses) :
    Routable infos ∧ ∀ ip ∈ addresses, ip ∈ kept ∨ some ip ∈ infos := by
  induction infos generalizing kept with
  | nil =>
    cases vetted
    exact ⟨fun _ member => (by cases member), fun ip member => Or.inl member⟩
  | cons info rest ih =>
    cases info with
    | none => cases vetted
    | some ip =>
      rw [vetAnswer] at vetted
      split at vetted
      · cases vetted
      rename_i allowed
      obtain ⟨routable, found⟩ := ih vetted
      refine ⟨?_, fun other member => ?_⟩
      · intro address member
        rcases List.mem_cons.mp member with rfl | member
        · exact ⟨ip, rfl, Bool.eq_false_iff.mpr allowed⟩
        · exact routable address member
      · rcases found other member with inKept | inRest
        · split at inKept
          · exact Or.inl inKept
          · rcases List.mem_append.mp inKept with inKept | new
            · exact Or.inl inKept
            · exact Or.inr (by rw [List.mem_singleton.mp new]; exact List.mem_cons_self)
        · exact Or.inr (List.mem_cons_of_mem _ inRest)

/-- One more admissible event that settles by itself. -/
theorem Ready.record (ready : Ready net past s) {event : NetEvent}
    (admissible : ∀ added, s = added ++ past → Settled added → Admissible net past event added)
    (settles : ∀ added, Settled (event :: added)) : Ready net past (event :: s) := by
  obtain ⟨added, extended, settled⟩ := ready
  exact ⟨event :: added, extended.record (admissible added extended.1 settled), settles added⟩

/-- A resolution is admissible in any settled trace. -/
theorem resolved_admissible {added : History} (host : String) (answer : List SockAddr)
    (settled : Settled added) : Admissible net past (.resolved host answer) added where
  settled := settled
  vetted _ _ _ absurd := by cases absurd
  checked _ absurd := by cases absurd

theorem resolve_ready (ready : Ready net past s) (host : String) (port : Option Nat) :
    Outcome (resolve net host port) s
      (fun answer after => after = .resolved host answer :: s ∧ Screened net past after)
      (fun _ after => after = s) := by
  obtain ⟨added, extended, settled⟩ := ready
  unfold Outcome resolve
  cases net.getaddrinfo s host port with
  | ok answer =>
    exact ⟨rfl, .resolved host answer :: added,
      extended.record (resolved_admissible host answer settled)⟩
  | error err => exact rfl

/-- **The addresses that `vettedAddresses` returns belong to the resolution it has just made, and
none of that answer is blocked.** -/
theorem vettedAddresses_ready (ready : Ready net past s) (host : String) (port : Option Nat) :
    Outcome (vettedAddresses net host port) s
      (fun addresses after => Ready net past after ∧ ∃ answer, Routable answer ∧
        after = .resolved host answer :: s ∧ ∀ ip ∈ addresses, some ip ∈ answer)
      (fun _ after => Screened net past after) := by
  unfold vettedAddresses
  rw [outcome_bind, outcome_except]
  refine outcome_mono (resolve_ready ready host port) ?_ ?_
  · intro infos _ found
    obtain ⟨rfl, screened⟩ := found
    simp only
    cases vetted : vetAnswer host infos [] with
    | error err => exact screened
    | ok addresses =>
      obtain ⟨routable, found⟩ := vetAnswer_ok vetted
      refine ⟨ready.record (fun _ _ settled => resolved_admissible host infos settled) ?_,
        infos, routable, rfl, fun ip member => ?_⟩
      · intro added host' answer' earlier same
        cases same
        exact routable
      · exact (found ip member).resolve_left List.not_mem_nil
  · rintro err _ rfl
    split
    · exact ready.screened
    · exact ready.screened

theorem guardFetchHost_ready (ready : Ready net past s) (url : String) :
    Outcome (guardFetchHost net url) s (fun _ after => Ready net past after)
      (fun _ after => Screened net past after) := by
  unfold guardFetchHost
  rw [outcome_bind]
  cases net.urlsplit url with
  | error err => exact ready.screened
  | ok parts =>
    rw [outcome_orRaise_ok, outcome_ite]
    split
    · exact ready.screened
    · rw [outcome_bind]
      cases parts.port with
      | error err => exact ready.screened
      | ok port =>
        rw [outcome_orRaise_ok, outcome_bind]
        exact outcome_mono (vettedAddresses_ready ready _ port) (fun _ _ ends => ends.1)
          fun _ _ ends => ends

theorem checkUrl_ready (ready : Ready net past s) (url : PyValue) :
    Outcome (checkUrl net url) s (fun _ after => Ready net past after)
      (fun _ after => Screened net past after) := by
  unfold checkUrl
  rw [outcome_bind]
  cases checkScheme url with
  | error err => exact ready.screened
  | ok text =>
    rw [outcome_orRaise_ok, outcome_bind]
    exact guardFetchHost_ready ready text

/-- A URL that passed `checkUrl` starts like an http(s) URL, and is the text returned. -/
theorem checkUrl_ok {url : String} {before after : History} {text : String}
    (passed : checkUrl net (.str url) before = .ok text after) :
    isHttpUrl url = true ∧ text = url := by
  have ends : Outcome (checkUrl net (.str url)) before
      (fun text _ => isHttpUrl url = true ∧ text = url) (fun _ _ => True) := by
    unfold checkUrl
    rw [outcome_bind, checkScheme]
    by_cases http : isHttpUrl url = true
    · rw [if_pos http, outcome_orRaise_ok, outcome_bind]
      exact outcome_of_forall _ (fun _ _ => ⟨http, rfl⟩) fun _ _ => trivial
    · rw [if_neg http]
      exact trivial
  have read := outcome_ok ends passed
  exact read

end Guard

/-! ### Connections and redirects keep the invariant -/

section Transport

variable {net : Internet} {past s : History}

/-- The trace while a request's connection is being made: everything was admissible, and the last
resolution is the one for this host, routable, with the remaining addresses in its answer. -/
def Connecting (net : Internet) (past : History) (host : String) (addresses : List IpAddress)
    (after : History) : Prop :=
  ∃ added, Extended (Admissible net past) past after added ∧ Settled added ∧
    ∃ answer, resolutionOf added = some (host, answer) ∧ Routable answer ∧
      ∀ ip ∈ addresses, some ip ∈ answer

theorem Connecting.ready {host : String} {addresses : List IpAddress}
    (connecting : Connecting net past host addresses s) : Ready net past s := by
  obtain ⟨added, extended, settled, _⟩ := connecting
  exact ⟨added, extended, settled⟩

/-- One more connection attempt, to an address of the answer. -/
theorem Connecting.attempt {host : String} {ip : IpAddress} {rest : List IpAddress}
    (port : Option Nat) (connecting : Connecting net past host (ip :: rest) s) :
    Connecting net past host rest (.connecting host ip port :: s) := by
  obtain ⟨added, extended, settled, answer, same, routable, found⟩ := connecting
  have admissible : Admissible net past (.connecting host ip port) added := by
    refine ⟨settled, fun host' ip' port' isConnecting => ?_, fun _ absurd => by cases absurd⟩
    cases isConnecting
    exact ⟨answer, same, found ip List.mem_cons_self, routable⟩
  refine ⟨.connecting host ip port :: added, extended.record admissible,
    fun _ _ _ absurd => (by cases absurd), answer, same, routable, fun other member => ?_⟩
  exact found other (List.mem_cons_of_mem _ member)

theorem createConnection_connecting {host : String} {ip : IpAddress} {rest : List IpAddress}
    (port : Option Nat) (connecting : Connecting net past host (ip :: rest) s) :
    Outcome (createConnection net host ip port) s
      (fun _ after => Connecting net past host rest after)
      (fun _ after => Connecting net past host rest after) := by
  have attempted := connecting.attempt port
  unfold Outcome createConnection transfer
  cases net.createConnection (.connecting host ip port :: s) ip port with
  | ok opened => exact attempted
  | error err => exact attempted

theorem connectAny_ready {host : String} {port : Option Nat} {addresses : List IpAddress}
    {error : Option PyErr} (connecting : Connecting net past host addresses s) :
    Outcome (connectAny net host port addresses error) s (fun _ after => Ready net past after)
      (fun _ after => Screened net past after) := by
  induction addresses generalizing s error with
  | nil => exact connecting.ready.screened
  | cons ip rest ih =>
    rw [connectAny, outcome_bind, outcome_except]
    refine outcome_mono (createConnection_connecting port connecting) ?_ ?_
    · exact fun _ _ attempted => attempted.ready
    · intro err after attempted
      split
      · exact ih attempted
      · exact attempted.ready.screened

theorem connectVetted_ready (ready : Ready net past s) (host : String) (port : Option Nat) :
    Outcome (connectVetted net host port) s (fun _ after => Ready net past after)
      (fun _ after => Screened net past after) := by
  unfold connectVetted
  rw [outcome_bind]
  refine outcome_mono (vettedAddresses_ready ready host port) ?_ fun _ _ ends => ends
  intro addresses _ here
  obtain ⟨_, answer, routable, rfl, found⟩ := here
  obtain ⟨added, extended, settled⟩ := ready
  refine connectAny_ready ⟨.resolved host answer :: added,
    extended.record (resolved_admissible host answer settled), ?_, answer, rfl, routable, found⟩
  intro host' answer' earlier same
  cases same
  exact routable

/-- **A redirect that may be followed has just passed `checkUrl`.** -/
theorem redirectRequest_ready (ready : Ready net past s) (newurl : String)
    (refused : Option TransferError) :
    Outcome (redirectRequest net newurl refused) s
      (fun _ after => Ready net past after ∧ isHttpUrl newurl = true ∧
        ∃ before, checkUrl net (.str newurl) before = .ok newurl after)
      (fun _ after => Screened net past after) := by
  unfold redirectRequest
  rw [outcome_bind]
  refine outcome_mono (outcome_and (checkUrl_ready ready (.str newurl))
    (outcome_self (checkUrl net (.str newurl)) s)) ?_ fun _ _ ends => ends.1
  intro text after found
  obtain ⟨readyAfter, ran⟩ := found
  obtain ⟨http, rfl⟩ := checkUrl_ok ran
  cases refused with
  | some err => exact readyAfter.screened
  | none => exact ⟨readyAfter, http, s, ran⟩

@[simp] theorem outcome_exchange (url : String) (data : Option Bytes)
    {Q : ServerAnswer → History → Prop} {E : PyErr → History → Prop} :
    Outcome (exchange net url data) s Q E ↔ Q (net.respond s url data) s := Iff.rfl

/-- One request: it returns ready to go on, and a redirect it returns has just been checked. -/
theorem requestOnce_ready (ready : Ready net past s) (url : String) (data : Option Bytes) :
    Outcome (requestOnce net url data) s
      (fun answer after => Ready net past after ∧ ∀ newurl, answer = .inr newurl →
        isHttpUrl newurl = true ∧ ∃ before, checkUrl net (.str newurl) before = .ok newurl after)
      (fun _ after => Screened net past after) := by
  unfold requestOnce
  rw [outcome_bind]
  unfold transfer
  cases net.endpoint url with
  | error err => exact ready.screened
  | ok target =>
    show Outcome (connectVetted net target.1 target.2 >>= _) s _ _
    rw [outcome_bind]
    refine outcome_mono (connectVetted_ready ready target.1 target.2) ?_ fun _ _ ends => ends
    intro _ after readyAfter
    rw [outcome_bind, outcome_exchange]
    cases net.respond after url data with
    | body bytes => exact ⟨readyAfter, fun _ absurd => by cases absurd⟩
    | failure err => exact readyAfter.screened
    | redirect newurl refused =>
      rw [outcome_bind]
      refine outcome_mono (redirectRequest_ready readyAfter newurl refused) ?_ fun _ _ ends => ends
      intro _ later found
      obtain ⟨readyLater, checked⟩ := found
      refine ⟨readyLater, fun same isRedirect => ?_⟩
      cases isRedirect
      exact checked

/-- **The opener keeps the invariant**, over every chain of redirects. -/
theorem openRequest_ready (requests : Nat) (visited : List String) (url : String)
    (data : Option Bytes) (ready : Ready net past s) :
    Outcome (openRequest net requests visited url data) s (fun _ after => Ready net past after)
      (fun _ after => Screened net past after) := by
  induction requests generalizing visited url data s with
  | zero => exact ready.screened
  | succ requests ih =>
    rw [openRequest, outcome_bind]
    refine outcome_mono (requestOnce_ready ready url data) ?_ fun _ _ ends => ends
    intro answer after found
    obtain ⟨readyAfter, checked⟩ := found
    cases answer with
    | inl bytes => exact readyAfter
    | inr newurl =>
      simp only
      rw [outcome_ite]
      split
      · exact readyAfter.screened
      · rw [outcome_bind, outcome_modify]
        obtain ⟨http, before, passed⟩ := checked newurl rfl
        refine ih _ _ _ (readyAfter.record ?_ fun _ _ _ _ absurd => by cases absurd)
        intro added split settled
        refine ⟨settled, fun _ _ _ absurd => (by cases absurd), fun url' isFollowing => ?_⟩
        cases isFollowing
        exact ⟨http, before, split ▸ passed⟩

/-- The part of `fetch` after the scheme check ends screened, whether it returns or raises. -/
theorem fetchText_screened (ready : Ready net past s) (url : String) (data : Option Bytes) :
    Outcome (fetchText net url data) s (fun _ after => Screened net past after)
      (fun _ after => Screened net past after) := by
  unfold fetchText
  rw [outcome_bind]
  refine outcome_mono (guardFetchHost_ready ready url) ?_ fun _ _ ends => ends
  intro _ guarded readyGuarded
  rw [outcome_bind, outcome_except]
  refine outcome_mono (openRequest_ready _ [] url data readyGuarded) ?_ ?_
  · intro body after readyAfter
    rw [outcome_bind, outcome_get]
    simp only
    split
    · exact readyAfter.screened
    · split <;> exact readyAfter.screened
  · intro err after screened
    split
    · rw [outcome_bind, outcome_get]
      simp only
      split
      · exact screened
      · split <;> exact screened
    · exact screened

/-- **Every run of `fetch` is screened**, whatever the URL, the resolver and the servers. -/
theorem fetch_screened (net : Internet) (url : PyValue) (data : Option Bytes) (past : History) :
    Screened net past (stateAfter (fetch net url data) past) := by
  refine outcome_stateAfter (P := Screened net past) |>.mp ?_
  rw [fetch, outcome_bind]
  cases checkScheme url with
  | error err => exact (ready_refl net past).screened
  | ok text => exact fetchText_screened (ready_refl net past) text data

end Transport

/-- **No connection outside the vetted addresses.** For every URL, every resolver and every server:
each address a fetch connects to is allowed and belongs to the answer of the resolution made for
that connection, which holds no blocked address; a resolution that does is the last event; and every
redirect followed is to an http(s) URL that had just passed `checkUrl`. -/
theorem fetch_connects_only_to_vetted (net : Internet) (url : PyValue) (data : Option Bytes)
    (past : History) :
    ∃ added, stateAfter (fetch net url data) past = added ++ past ∧
      (∀ later host ip port earlier, added = later ++ .connecting host ip port :: earlier →
        isBlockedFetchAddress ip = false ∧
          ∃ answer, resolutionOf earlier = some (host, answer) ∧ some ip ∈ answer ∧
            Routable answer) ∧
      (∀ later host answer earlier, added = later ++ .resolved host answer :: earlier →
        (∃ ip, some ip ∈ answer ∧ isBlockedFetchAddress ip = true) → later = []) ∧
      (∀ later target earlier, added = later ++ .following target :: earlier →
        isHttpUrl target = true ∧
          ∃ before, checkUrl net (.str target) before = .ok target (earlier ++ past)) := by
  obtain ⟨added, split, each⟩ := fetch_screened net url data past
  rw [eachAt_iff] at each
  refine ⟨added, split, ?_, ?_, ?_⟩
  · intro later host ip port earlier here
    obtain ⟨answer, same, member, routable⟩ := (each _ _ _ here).vetted host ip port rfl
    obtain ⟨other, isSome, allowed⟩ := routable _ member
    cases isSome
    exact ⟨allowed, answer, same, member, routable⟩
  · intro later host answer earlier here found
    obtain ⟨ip, member, blocked⟩ := found
    rcases List.eq_nil_or_concat later with rfl | ⟨newer, next, rfl⟩
    · rfl
    · have settled : Settled (.resolved host answer :: earlier) :=
        (each newer next _ (by rw [here, List.concat_append])).settled
      obtain ⟨other, isSome, allowed⟩ := settled host answer earlier rfl _ member
      cases isSome
      rw [blocked] at allowed
      cases allowed
  · intro later target earlier here
    exact (each _ _ _ here).checked target rfl

end Certinspect.HttpFetch
