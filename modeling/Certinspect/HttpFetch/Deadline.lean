/-
**The download deadline, `fetch` and `expire` in `httpfetch.py`.**

Two threads share the list of sockets of a fetch. The fetch thread opens a connection, registers it
with `_track`, wraps it in TLS for an https URL, reads, and opens the next one on a redirect. The
timer thread sets `expired`, copies the list and shuts down each socket of the copy. Wrapping a
socket moves its descriptor to a new object, so that `shutdown` on the registered one then fails.

* `step` — one step of either thread; a run interleaves them in any order.
* `Timely` — the condition on a step: no socket is registered once the list has been copied, and
  the socket that is shut down is not that of a wrapped connection in use.
* `Inv` — after the copy, the connection in use is still to be shut down, or it has been.
* **`deadline_cuts`** — in a run of timely steps, nothing is read once `expire` has returned.
-/

import Certinspect.Library.Runs

namespace Certinspect.HttpFetch.Deadline

open Library

/-! ### The two threads -/

/-- Where the fetch thread is. Connections are numbered in the order they are opened. -/
inductive FetchPhase
  /-- About to connect, for a URL that is https or not. -/
  | opening (https : Bool)
  /-- `create_connection` has returned, `_track` has not run. -/
  | connected (conn : Nat) (https : Bool)
  /-- The socket is registered, the request is not sent. -/
  | tracked (conn : Nat) (https : Bool)
  /-- Sending the request and reading the response. -/
  | reading (conn : Nat)
  /-- `fetch` has returned or raised. -/
  | finished
  deriving DecidableEq, Repr

/-- Where the timer thread is. -/
inductive TimerPhase
  | waiting
  /-- `expired.set()` has run. -/
  | expired
  /-- Going through `list(sockets)`; these are left. -/
  | shutting (rest : List Nat)
  /-- `expire` has returned. -/
  | done
  deriving DecidableEq, Repr

/-- The state the threads share. -/
structure State where
  fetch : FetchPhase
  timer : TimerPhase
  /-- How many connections have been opened. -/
  opened : Nat
  /-- `sockets`: the plain socket objects registered. -/
  sockets : List Nat
  /-- The connections whose descriptor a TLS object has taken over. -/
  wrapped : List Nat
  /-- The connections that have been shut down. -/
  shut : List Nat
  deriving DecidableEq, Repr

/-- The steps of the two threads. -/
inductive Action
  | connect
  | track
  /-- An http request goes out on the plain socket. -/
  | request
  /-- `wrap_socket`, for an https URL. -/
  | wrap
  /-- A successful read. -/
  | read
  /-- The response was a redirect. -/
  | redirect (https : Bool)
  | finish
  /-- `expired.set()`. -/
  | expire
  /-- `list(sockets)`. -/
  | copy
  /-- `sock.shutdown(SHUT_RDWR)` on the next socket of the copy. -/
  | shutdown
  /-- The loop of `expire` is over. -/
  | expireReturns
  deriving DecidableEq, Repr

/-- A fetch that has just started its timer. -/
def start (https : Bool) : State := ⟨.opening https, .waiting, 0, [], [], []⟩

/-- One step, `none` when it cannot be taken. A read succeeds only on a connection that has not been
shut down; `finish` is `fetch` returning or raising, which cancels a waiting timer. -/
def step (s : State) : Action → Option State
  | .connect =>
    match s.fetch with
    | .opening https => some { s with fetch := .connected s.opened https, opened := s.opened + 1 }
    | _ => none
  | .track =>
    match s.fetch with
    | .connected conn https =>
      some { s with fetch := .tracked conn https, sockets := s.sockets ++ [conn] }
    | _ => none
  | .request =>
    match s.fetch with
    | .tracked conn false => some { s with fetch := .reading conn }
    | _ => none
  | .wrap =>
    match s.fetch with
    | .tracked conn true => some { s with fetch := .reading conn, wrapped := conn :: s.wrapped }
    | _ => none
  | .read =>
    match s.fetch with
    | .reading conn => if conn ∈ s.shut then none else some s
    | _ => none
  | .redirect https =>
    match s.fetch with
    | .reading _ => some { s with fetch := .opening https }
    | _ => none
  | .finish =>
    if s.fetch = .finished then none else some { s with fetch := .finished }
  | .expire =>
    if s.timer = .waiting ∧ s.fetch ≠ .finished then some { s with timer := .expired } else none
  | .copy => if s.timer = .expired then some { s with timer := .shutting s.sockets } else none
  | .shutdown =>
    match s.timer with
    | .shutting (conn :: rest) =>
      -- on a wrapped connection `shutdown` raises an `OSError`, which `expire` passes over
      some { s with
        timer := .shutting rest
        shut := if conn ∈ s.wrapped then s.shut else conn :: s.shut }
    | _ => none
  | .expireReturns => if s.timer = .shutting [] then some { s with timer := .done } else none

/-! ### When the deadline cuts -/

/-- The connection in use, once it is registered. -/
def State.inUse (s : State) : Option Nat :=
  match s.fetch with
  | .tracked conn _ => some conn
  | .reading conn => some conn
  | _ => none

/-- The condition on a step. -/
def Timely (s : State) : Action → Prop
  | .track => s.timer = .waiting ∨ s.timer = .expired
  | .shutdown => ∀ conn rest, s.timer = .shutting (conn :: rest) → s.inUse = some conn →
      conn ∉ s.wrapped
  | _ => True

/-- A step that may be taken and is timely. -/
def TimelyStep (s : State) (action : Action) (t : State) : Prop :=
  step s action = some t ∧ Timely s action

/-- **The invariant**: once the list is copied, the connection in use is still to be shut down, or it
has been. -/
def Inv (s : State) : Prop :=
  ∀ conn, s.inUse = some conn →
    match s.timer with
    | .waiting => conn ∈ s.sockets
    | .expired => conn ∈ s.sockets
    | .shutting rest => conn ∈ rest ∨ conn ∈ s.shut
    | .done => conn ∈ s.shut

theorem inv_start (https : Bool) : Inv (start https) := fun _ absurd => by cases absurd

/-- A step of the fetch thread that leaves no registered connection in use. -/
theorem Inv.idle {t : State} (idle : t.inUse = none) : Inv t := by
  intro conn used
  rw [idle] at used
  cases used

/-- A step that changes nothing the invariant speaks about. -/
theorem Inv.same {s t : State} (inv : Inv s) (used : t.inUse = s.inUse) (timer : t.timer = s.timer)
    (sockets : t.sockets = s.sockets) (shut : t.shut = s.shut) : Inv t := by
  intro conn using'
  rw [used] at using'
  have holds := inv conn using'
  rw [timer, sockets, shut]
  exact holds

/-- `expired.set()`: the connection in use stays registered. -/
theorem Inv.expired {s : State} (inv : Inv s) (waiting : s.timer = .waiting) :
    Inv { s with timer := .expired } := by
  intro conn used
  have registered := inv conn used
  rw [waiting] at registered
  exact registered

/-- `list(sockets)`: the copy holds the connection in use. -/
theorem Inv.copied {s : State} (inv : Inv s) (expired : s.timer = .expired) :
    Inv { s with timer := .shutting s.sockets } := by
  intro conn used
  have registered := inv conn used
  rw [expired] at registered
  exact Or.inl registered

/-- `sock.shutdown`: the connection in use, if its turn has come, still owns its descriptor. -/
theorem Inv.shutNext {s : State} (inv : Inv s) {first : Nat} {rest : List Nat}
    (timer : s.timer = .shutting (first :: rest))
    (plain : s.inUse = some first → first ∉ s.wrapped) :
    Inv { s with
      timer := .shutting rest
      shut := if first ∈ s.wrapped then s.shut else first :: s.shut } := by
  intro conn used
  have holds := inv conn used
  rw [timer] at holds
  show conn ∈ rest ∨ conn ∈ if first ∈ s.wrapped then s.shut else first :: s.shut
  rcases holds with member | already
  · rcases List.mem_cons.mp member with rfl | member
    · rw [if_neg (plain used)]
      exact Or.inr List.mem_cons_self
    · exact Or.inl member
  · by_cases owned : first ∈ s.wrapped
    · rw [if_pos owned]
      exact Or.inr already
    · rw [if_neg owned]
      exact Or.inr (List.mem_cons_of_mem _ already)

/-- The end of the loop: nothing is left to be shut down. -/
theorem Inv.returned {s : State} (inv : Inv s) (timer : s.timer = .shutting []) :
    Inv { s with timer := .done } := by
  intro conn used
  have holds := inv conn used
  rw [timer] at holds
  exact holds.resolve_left List.not_mem_nil

/-- **Every timely step preserves the invariant.** -/
theorem inv_step {s t : State} {action : Action} (inv : Inv s) (taken : TimelyStep s action t) :
    Inv t := by
  obtain ⟨ran, timely⟩ := taken
  cases action with
  | connect =>
    simp only [step] at ran
    split at ran
    · cases ran
      exact Inv.idle rfl
    · cases ran
  | track =>
    simp only [step] at ran
    split at ran
    · cases ran
      intro conn used
      cases used
      rcases timely with waiting | expired
      · simp [waiting]
      · simp [expired]
    · cases ran
  | request =>
    simp only [step] at ran
    split at ran
    · rename_i conn phase
      cases ran
      exact inv.same (by simp [State.inUse, phase]) rfl rfl rfl
    · cases ran
  | wrap =>
    simp only [step] at ran
    split at ran
    · rename_i conn phase
      cases ran
      exact inv.same (by simp [State.inUse, phase]) rfl rfl rfl
    · cases ran
  | read =>
    simp only [step] at ran
    split at ran
    · split at ran
      · cases ran
      · cases ran
        exact inv
    · cases ran
  | redirect https =>
    simp only [step] at ran
    split at ran
    · cases ran
      exact Inv.idle rfl
    · cases ran
  | finish =>
    simp only [step] at ran
    split at ran
    · cases ran
    · cases ran
      exact Inv.idle rfl
  | expire =>
    simp only [step] at ran
    split at ran
    · rename_i waits
      cases ran
      exact inv.expired waits.1
    · cases ran
  | copy =>
    simp only [step] at ran
    split at ran
    · rename_i expired
      cases ran
      exact inv.copied expired
    · cases ran
  | shutdown =>
    simp only [step] at ran
    split at ran
    · rename_i first rest timer
      cases ran
      exact inv.shutNext timer (timely first rest timer)
    · cases ran
  | expireReturns =>
    simp only [step] at ran
    split at ran
    · rename_i ended
      cases ran
      exact inv.returned ended
    · cases ran

/-- **The deadline cuts every connection**: in a run of timely steps, from any http or https URL,
no read succeeds in a state reached after `expire` has returned. -/
theorem deadline_cuts {https : Bool} {actions : List Action} {s : State}
    (run : Runs TimelyStep (start https) actions s) (ended : s.timer = .done) :
    step s .read = none := by
  have inv : Inv s := run.invariant (inv_start https) fun _ _ _ => inv_step
  cases phase : s.fetch with
  | reading conn =>
    have used : s.inUse = some conn := by simp [State.inUse, phase]
    have cut := inv conn used
    rw [ended] at cut
    simp only [step, phase, if_pos cut]
  | _ => simp only [step, phase]

/-- An http body that drips until the deadline. -/
theorem deadline_cuts_http :
    ∃ s, Runs TimelyStep (start false)
        [.connect, .track, .request, .read, .expire, .copy, .shutdown, .expireReturns] s ∧
      s.timer = .done ∧ step s .read = none := by
  have run : Runs TimelyStep (start false)
      [.connect, .track, .request, .read, .expire, .copy, .shutdown, .expireReturns]
      ⟨.reading 0, .done, 1, [0], [], [0]⟩ :=
    .cons ⟨rfl, trivial⟩ <| .cons ⟨rfl, Or.inl rfl⟩ <| .cons ⟨rfl, trivial⟩ <|
      .cons ⟨rfl, trivial⟩ <| .cons ⟨rfl, trivial⟩ <| .cons ⟨rfl, trivial⟩ <|
      .cons ⟨rfl, fun _ _ _ _ => List.not_mem_nil⟩ <| .cons ⟨rfl, trivial⟩ <| .nil _
  exact ⟨_, run, rfl, deadline_cuts run rfl⟩

/-- Over https the read goes on: `expire` shuts down the plain socket, which no longer owns the
connection. -/
theorem deadline_cuts_counterexample :
    ¬ ∀ https actions s, Runs (fun s action t => step s action = some t) (start https) actions s →
      s.timer = .done → step s .read = none := by
  intro cuts
  have run : Runs (fun s action t => step s action = some t) (start true)
      [.connect, .track, .wrap, .read, .expire, .copy, .shutdown, .expireReturns]
      ⟨.reading 0, .done, 1, [0], [0], []⟩ :=
    .cons rfl <| .cons rfl <| .cons rfl <| .cons rfl <| .cons rfl <| .cons rfl <| .cons rfl <|
      .cons rfl <| .nil _
  have cut := cuts true _ _ run rfl
  cases cut

end Certinspect.HttpFetch.Deadline
