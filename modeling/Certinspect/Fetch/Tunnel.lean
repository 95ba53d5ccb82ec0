/-
**The proxy tunnel, `_open_socket` with a proxy.**

The proxy answers a CONNECT request, and behind its answer the stream belongs to the target. The
answer is read in chunks of up to 256 bytes, cut wherever the network cuts them.

* `Arrived` — what the chunks have brought while the loop goes on asking; `Settled` — where it stops.
* `Response` — the loop as a relation; `readConnectLoop_response` — the code is that, and
  `response_iff` says it in terms of `Arrived` and `Settled`.
* `HeaderBlock`, `Grants` — a complete header block, and a status line with 200.
* **`openSocket_tunnel_iff`** — the socket is returned only after exactly the response, and closed
  otherwise, if and only if the chunks happen to separate the response from what follows it, and the
  socket of a granted tunnel takes the read timeout.
-/

import Certinspect.Fetch.Handshake

namespace Certinspect.Fetch

open Library

/-! ### What the proxy sends -/

/-- The end of a header block. -/
def blockEnd : Bytes := ascii "\r\n\r\n"

/-- A complete header block: its first `blockEnd` ends it. -/
structure HeaderBlock (block : Bytes) : Prop where
  ended : blockEnd <:+ block
  first : bytesContain block.dropLast blockEnd = false

/-- Whether the status line has 200 as its second field. -/
def Grants (response : Bytes) : Prop :=
  (splitFields (firstLine response))[1]? = some (ascii "200")

section Chunks

variable (peer : Peer)

/-- What `recv(256)` brings at a position of the stream, if it brings anything. -/
def chunkAt (p : Nat) : Option Bytes :=
  if peer.overdue p then none
  else match peer.recv p with
    | .byte first => some (first :: followingBytes peer (p + 1) (min 255 (peer.available p)))
    | _ => none

/-- The stream ends at a position, and in time. -/
def EndsAt (p : Nat) : Prop := peer.overdue p = false ∧ peer.recv p = .closed

/-- No header block is complete yet, and the limit is not passed. -/
def Unfinished (buf : Bytes) : Prop :=
  bytesContain buf blockEnd = false ∧ buf.length ≤ maxConnectResponse

/-- What the first chunks of the stream bring, all but the last of them unfinished. -/
inductive Arrived : Bytes → Prop
  | start : Arrived []
  | chunk {buf chunk : Bytes} :
      Arrived buf → Unfinished buf → chunkAt peer buf.length = some chunk → Arrived (buf ++ chunk)

/-- With this the reading stops: a block is complete, the limit is passed, or the stream ends. -/
def Settled (buf : Bytes) : Prop := ¬ Unfinished buf ∨ EndsAt peer buf.length

/-- **The chunks separate the response from what follows it**: once the reading stops with a status
line that grants the tunnel, what has arrived is a header block and nothing else. -/
def ResponseApart : Prop := ∀ buf, Arrived peer buf → Settled peer buf → Grants buf → HeaderBlock buf

/-- The loop of `_read_connect_response`, from what was read so far to the whole response. -/
inductive Response : Bytes → Bytes → Prop
  | complete {buf : Bytes} : bytesContain buf blockEnd = true → Response buf buf
  | ended {buf : Bytes} :
      bytesContain buf blockEnd = false → EndsAt peer buf.length → Response buf buf
  | full {buf chunk : Bytes} :
      bytesContain buf blockEnd = false → chunkAt peer buf.length = some chunk →
      maxConnectResponse < (buf ++ chunk).length → Response buf (buf ++ chunk)
  | more {buf chunk whole : Bytes} :
      bytesContain buf blockEnd = false → chunkAt peer buf.length = some chunk →
      (buf ++ chunk).length ≤ maxConnectResponse → Response (buf ++ chunk) whole →
      Response buf whole

end Chunks

/-! ### The chunks -/

section Reading

variable {peer : Peer} {timeout : String} {s : Plaintext}

theorem followingBytes_segment (p n : Nat) :
    Segment peer.Gives p (followingBytes peer p n) (p + (followingBytes peer p n).length) := by
  induction n generalizing p with
  | zero => exact .nil p
  | succ n ih =>
    unfold followingBytes
    cases found : peer.recv p with
    | byte value =>
      have rest := ih (p + 1)
      rw [Nat.add_right_comm] at rest
      exact .cons found rest
    | closed => exact .nil p
    | failed err => exact .nil p

theorem chunkAt_segment {p : Nat} {chunk : Bytes} (found : chunkAt peer p = some chunk) :
    Segment peer.Gives p chunk (p + chunk.length) := by
  unfold chunkAt at found
  by_cases late : peer.overdue p = true
  · rw [if_pos late] at found
    cases found
  · rw [if_neg late] at found
    cases first : peer.recv p with
    | byte value =>
      rw [first] at found
      obtain rfl := Option.some.inj found
      have rest := @followingBytes_segment peer (p + 1) (min 255 (peer.available p))
      rw [Nat.add_right_comm] at rest
      exact .cons first rest
    | closed =>
      rw [first] at found
      cases found
    | failed err =>
      rw [first] at found
      cases found

/-- Where a chunk arrives the stream does not end. -/
theorem not_endsAt_of_chunk {p : Nat} {chunk : Bytes} (found : chunkAt peer p = some chunk) :
    ¬ EndsAt peer p := by
  intro ends
  unfold chunkAt at found
  rw [if_neg (Bool.eq_false_iff.mp ends.1), ends.2] at found
  cases found

/-- A stream has one byte at each position. -/
theorem Peer.Gives.unique (p : Nat) (x y : UInt8) (first : peer.Gives p x)
    (second : peer.Gives p y) : x = y := by
  have same := first.symm.trans second
  cases same
  rfl

/-- What has arrived is the beginning of the stream. -/
theorem Arrived.segment {buf : Bytes} (arrived : Arrived peer buf) :
    Segment peer.Gives 0 buf buf.length := by
  induction arrived with
  | start => exact .nil 0
  | chunk _ _ found ih =>
    rw [List.length_append]
    exact ih.append (chunkAt_segment found)

/-- **One `recv(256)`**: a chunk, the end of the stream, or an exception. -/
theorem recvMany_run (s : Plaintext) :
    (∃ chunk, chunkAt peer s.position = some chunk ∧ chunk ≠ [] ∧
      recvMany peer timeout 256 s = .ok chunk (s.take chunk)) ∨
    (EndsAt peer s.position ∧ recvMany peer timeout 256 s = .ok [] s) ∨
    (chunkAt peer s.position = none ∧ ¬ EndsAt peer s.position ∧
      ∃ err, recvMany peer timeout 256 s = .error err s) := by
  by_cases late : peer.overdue s.position = true
  · refine Or.inr (Or.inr ⟨if_pos late, fun ends => ?_, ?_⟩)
    · rw [ends.1] at late
      cases late
    · refine ⟨⟨.timeoutError, s!"server reply took longer than {timeout}s to arrive"⟩, ?_⟩
      have waited : recv peer (some timeout) s =
          .error ⟨.timeoutError, s!"server reply took longer than {timeout}s to arrive"⟩ s := by
        show (if peer.overdue s.position then _ else sockRecv peer : Py Plaintext _) s = _
        rw [if_pos late]
        rfl
      unfold recvMany
      rw [run_bind, waited]
  · have waited : recv peer (some timeout) s = sockRecv peer s := by
      show (if peer.overdue s.position then _ else sockRecv peer : Py Plaintext _) s = _
      rw [if_neg late]
    have chunk : chunkAt peer s.position = match peer.recv s.position with
        | .byte first =>
          some (first :: followingBytes peer (s.position + 1) (min 255 (peer.available s.position)))
        | _ => none := if_neg late
    unfold recvMany
    rw [run_bind, waited, chunk]
    unfold sockRecv EndsAt
    cases peer.recv s.position with
    | byte first =>
      refine Or.inl ⟨_, rfl, List.cons_ne_nil _ _, ?_⟩
      rw [← List.singleton_append, ← Plaintext.take_take]
      rfl
    | closed => exact Or.inr (Or.inl ⟨⟨Bool.eq_false_iff.mpr late, rfl⟩, rfl⟩)
    | failed err => exact Or.inr (Or.inr ⟨rfl, fun ends => (by cases ends.2), err, rfl⟩)

/-- **The loop of `_read_connect_response`**: it returns the whole response, or there is none. -/
theorem readConnectLoop_response (buf : Bytes) (s : Plaintext) (here : s.position = buf.length) :
    Outcome (readConnectLoop peer timeout buf) s
      (fun whole t => Response peer buf whole ∧ t.position = whole.length)
      fun _ _ => ∀ whole, ¬ Response peer buf whole := by
  rw [readConnectLoop, ← blockEnd]
  by_cases complete : bytesContain buf blockEnd = true
  · rw [if_pos complete]
    exact ⟨.complete complete, here⟩
  have unended : bytesContain buf blockEnd = false := Bool.eq_false_iff.mpr complete
  rw [if_neg complete, outcome_bind]
  unfold Outcome
  rcases @recvMany_run peer timeout s with
    ⟨chunk, found, some, ran⟩ | ⟨ends, ran⟩ | ⟨nothing, unending, err, ran⟩
  · rw [ran]
    rw [here] at found
    have there : (s.take chunk).position = (buf ++ chunk).length := by
      rw [List.length_append, ← here]
      rfl
    show Outcome (if _ended : chunk = [] then pure buf else _) (s.take chunk) _ _
    rw [dif_neg some]
    by_cases full : maxConnectResponse < (buf ++ chunk).length
    · rw [dif_pos full]
      exact ⟨.full unended found full, there⟩
    · rw [dif_neg full]
      refine outcome_mono (readConnectLoop_response (buf ++ chunk) (s.take chunk) there) ?_ ?_
      · intro whole t rest
        exact ⟨.more unended found (Nat.le_of_not_lt full) rest.1, rest.2⟩
      · intro err t none whole response
        cases response with
        | complete absurd => exact complete absurd
        | ended _ ends => exact not_endsAt_of_chunk found ends
        | full _ other more =>
          rw [found] at other
          cases other
          exact full more
        | more _ other _ rest =>
          rw [found] at other
          cases other
          exact none whole rest
  · rw [ran]
    dsimp only
    rw [dif_pos rfl]
    exact ⟨.ended unended (here ▸ ends), here⟩
  · rw [ran]
    rw [here] at nothing unending
    intro whole response
    cases response with
    | complete absurd => exact complete absurd
    | ended _ ends => exact unending ends
    | full _ other _ =>
      rw [nothing] at other
      cases other
    | more _ other _ _ =>
      rw [nothing] at other
      cases other
termination_by maxConnectResponse + 1 - buf.length
decreasing_by
  have grows := List.length_pos_iff.mpr some
  rw [List.length_append] at *
  omega

/-- What arrived before the reading stopped leads to the whole response. -/
theorem Arrived.response {buf whole : Bytes} (arrived : Arrived peer buf)
    (short : buf.length ≤ maxConnectResponse) (rest : Response peer buf whole) :
    Response peer [] whole := by
  induction arrived with
  | start => exact rest
  | chunk _ unfinished found ih =>
    exact ih unfinished.2 (.more unfinished.1 found short rest)

/-- **The response is what has arrived when the reading stops.** -/
theorem response_iff {whole : Bytes} :
    Response peer [] whole ↔ Arrived peer whole ∧ Settled peer whole := by
  refine ⟨?_, ?_⟩
  · have from_arrived : ∀ buf, Response peer buf whole → Arrived peer buf →
        buf.length ≤ maxConnectResponse → Arrived peer whole ∧ Settled peer whole := by
      intro buf response
      induction response with
      | complete complete =>
        exact fun arrived _ => ⟨arrived, Or.inl fun unfinished => by
          rw [unfinished.1] at complete
          cases complete⟩
      | ended _ ends => exact fun arrived _ => ⟨arrived, Or.inr ends⟩
      | full unended found full =>
        exact fun arrived short => ⟨arrived.chunk ⟨unended, short⟩ found,
          Or.inl fun unfinished => Nat.not_le_of_lt full unfinished.2⟩
      | more unended found fits _ ih =>
        exact fun arrived short => ih (arrived.chunk ⟨unended, short⟩ found) fits
    exact fun response => from_arrived [] response .start (Nat.zero_le _)
  · intro both
    obtain ⟨arrived, settled⟩ := both
    cases arrived with
    | start =>
      rcases settled with unfinished | ends
      · exact (unfinished ⟨by decide, Nat.zero_le _⟩).elim
      · exact .ended (by decide) ends
    | chunk before unfinished found =>
      refine before.response unfinished.2 ?_
      rename_i buf chunk
      by_cases full : maxConnectResponse < (buf ++ chunk).length
      · exact .full unfinished.1 found full
      · have fits := Nat.le_of_not_lt full
        refine .more unfinished.1 found fits ?_
        by_cases complete : bytesContain (buf ++ chunk) blockEnd = true
        · exact .complete complete
        · have unended := Bool.eq_false_iff.mpr complete
          rcases settled with finished | ends
          · exact (finished ⟨unended, fits⟩).elim
          · exact .ended unended ends

theorem Response.unique {buf first second : Bytes} (one : Response peer buf first)
    (other : Response peer buf second) : first = second := by
  have finished (buf : Bytes) (whole : Bytes) (complete : bytesContain buf blockEnd = true)
      (response : Response peer buf whole) : buf = whole := by
    cases response with
    | complete _ => rfl
    | ended _ _ => rfl
    | full unended _ _ | more unended _ _ _ =>
      rw [complete] at unended
      cases unended
  induction one with
  | complete complete => exact finished _ _ complete other
  | ended unended ends =>
    cases other with
    | complete _ => rfl
    | ended _ _ => rfl
    | full _ found _ => exact (not_endsAt_of_chunk found ends).elim
    | more _ found _ _ => exact (not_endsAt_of_chunk found ends).elim
  | full unended found full =>
    cases other with
    | complete complete =>
      rw [complete] at unended
      cases unended
    | ended _ ends => exact (not_endsAt_of_chunk found ends).elim
    | full _ again _ =>
      rw [found] at again
      cases again
      rfl
    | more _ again fits _ =>
      rw [found] at again
      cases again
      exact (Nat.not_le_of_lt full fits).elim
  | more unended found fits _ ih =>
    cases other with
    | complete complete =>
      rw [complete] at unended
      cases unended
    | ended _ ends => exact (not_endsAt_of_chunk found ends).elim
    | full _ again full =>
      rw [found] at again
      cases again
      exact (Nat.not_le_of_lt full fits).elim
    | more _ again _ rest =>
      rw [found] at again
      cases again
      exact ih rest

end Reading

/-! ### The tunnel -/

section Tunnel

variable {peer : Peer} {timeout host : String} {port : Int} {parts : SplitResult}

/-- The CONNECT request can be written, and is sent. -/
def RequestSent (peer : Peer) (host : String) (port : Int) (parts : SplitResult) : Prop :=
  (∃ request, encodeAscii (connectRequest host port parts) = .ok request) ∧ peer.sendall 0 = none

/-- **The tunnel is made** when the request is sent and the whole response grants it. -/
theorem openTunnel_runs :
    (∀ t, openTunnel peer timeout host port parts fresh = .ok () t →
      ∃ whole, RequestSent peer host port parts ∧ Response peer [] whole ∧ Grants whole ∧
        t.position = whole.length) ∧
    ∀ err t, openTunnel peer timeout host port parts fresh = .error err t →
      RequestSent peer host port parts → ∀ whole, Response peer [] whole → ¬ Grants whole := by
  have ends : Outcome (openTunnel peer timeout host port parts) fresh
      (fun _ t => ∃ whole, RequestSent peer host port parts ∧ Response peer [] whole ∧
        Grants whole ∧ t.position = whole.length)
      fun _ _ => RequestSent peer host port parts →
        ∀ whole, Response peer [] whole → ¬ Grants whole := by
    unfold openTunnel
    cases encoded : encodeAscii (connectRequest host port parts) with
    | error err =>
      intro sent
      obtain ⟨⟨request, absurd⟩, _⟩ := sent
      rw [encoded] at absurd
      cases absurd
    | ok request =>
      rw [outcome_bind, outcome_orRaise_ok, outcome_bind]
      unfold Outcome sendall
      cases refused : peer.sendall fresh.sent.length with
      | some err =>
        intro sent
        have accepted := sent.2
        rw [show peer.sendall 0 = some err from refused] at accepted
        cases accepted
      | none =>
        have sent : RequestSent peer host port parts := ⟨⟨request, encoded⟩, refused⟩
        let asked : Plaintext := { fresh.transmit request with sent := fresh.sent ++ [request] }
        show Outcome (readConnectResponse peer timeout >>= _) asked _ _
        rw [outcome_bind]
        refine outcome_mono (readConnectLoop_response [] asked rfl) ?_ ?_
        · intro whole t found
          show Outcome (if (splitFields (firstLine whole))[1]? = some (ascii "200") then pure ()
            else raise _ _) t _ _
          by_cases grants : (splitFields (firstLine whole))[1]? = some (ascii "200")
          · rw [if_pos grants]
            exact ⟨whole, sent, found.1, grants, found.2⟩
          · rw [if_neg grants]
            intro _ other response
            rw [Response.unique response found.1]
            exact grants
        · exact fun _ _ none _ whole response => (none whole response).elim
  unfold Outcome at ends
  refine ⟨?_, ?_⟩
  · intro t ran
    rw [ran] at ends
    exact ends
  · intro err t ran
    rw [ran] at ends
    exact ends

end Tunnel

section OpenSocket

variable {ω : Type} {out : Outside ω}

/-- A URL as `_open_socket` splits it. -/
def proxyUrl (proxy : String) : String :=
  if occursIn "://" proxy then proxy else "//" ++ proxy

/-- The port of a proxy: 8080 unless another is given. -/
def proxyPort (port : Option Nat) : Int := (((port.filter (· != 0)).getD 8080 : Nat) : Int)

/-- A proxy that accepts connections within the timeout: what its URL says, and the stream at its
other end. -/
structure ProxyLink (out : Outside ω) (w : World ω) (proxy timeout : String) where
  parts : SplitResult
  port : Option Nat
  peer : Peer
  named : proxy ≠ ""
  splits : out.urlsplit (proxyUrl proxy) = .ok parts
  ported : parts.port = .ok port
  connects : out.createConnection (w.record (.connecting parts.hostname (proxyPort port)))
    parts.hostname (proxyPort port) timeout = .ok peer

/-- **The tunnel starts exactly after the response.** The socket is returned at the end of a complete
header block that grants the tunnel, the stream's first bytes and all that was consumed of it;
otherwise the call raises and the socket is closed. -/
def StartsAfterResponse {w : World ω} {proxy timeout : String} (link : ProxyLink out w proxy timeout)
    (call : Py (World ω) (Peer × Plaintext)) : Prop :=
  Outcome call w
    (fun socket _ => socket.1 = link.peer ∧
      ∃ block, Segment link.peer.Gives 0 block socket.2.position ∧ HeaderBlock block ∧ Grants block)
    fun _ after => after.log =
      .closed :: .connecting link.parts.hostname (proxyPort link.port) :: w.log

theorem closingOnError_ok {α : Type} {x : Py (World ω) α} {w after : World ω} {value : α}
    (ran : x w = .ok value after) : closingOnError x w = .ok value after := by
  unfold closingOnError
  rw [run_bind, run_caught_ok ran]
  rfl

theorem closingOnError_error {α : Type} {x : Py (World ω) α} {w after : World ω} {err : PyErr}
    (ran : x w = .error err after) :
    closingOnError x w = .error err (after.record .closed) := by
  unfold closingOnError
  rw [run_bind, run_caught_error ran]
  rfl

theorem onSocket_ok {α : Type} {x : Py Plaintext α} {plain t : Plaintext} {w : World ω} {value : α}
    (ran : x plain = .ok value t) : onSocket x plain w = .ok (value, t) w := by
  unfold onSocket
  rw [ran]

theorem onSocket_error {α : Type} {x : Py Plaintext α} {plain t : Plaintext} {w : World ω}
    {err : PyErr} (ran : x plain = .error err t) : onSocket x plain w = .error err w := by
  unfold onSocket
  rw [ran]

/-- How the call ends, from how the conversation with the proxy ends. -/
theorem openSocket_run {w : World ω} {proxy : String} {timeouts : Timeouts}
    (link : ProxyLink out w proxy timeouts.connect) (host : String) (port : Int) :
    openSocket out host port timeouts (some proxy) w =
      (do
        let tunnel ← closingOnError
          (onSocket (openTunnel link.peer timeouts.connect host port link.parts) fresh)
        orRaise (out.settimeout timeouts.read)
        pure (link.peer, tunnel.2) : Py (World ω) (Peer × Plaintext))
        (w.record (.connecting link.parts.hostname (proxyPort link.port))) := by
  have truthy : given (some proxy) = some proxy := by
    simp [given, link.named]
  have split : out.urlsplit (if occursIn "://" proxy then proxy else "//" ++ proxy) =
    .ok link.parts := link.splits
  have connected : createConnection out link.parts.hostname (proxyPort link.port)
      timeouts.connect w =
      .ok link.peer (w.record (.connecting link.parts.hostname (proxyPort link.port))) := by
    show orRaise (out.createConnection _ _ _ _) _ = _
    rw [link.connects]
    rfl
  unfold openSocket
  rw [truthy]
  simp only [split]
  rw [run_bind]
  show (orRaise link.parts.port >>= _ : Py (World ω) (Peer × Plaintext)) w = _
  rw [link.ported, run_bind]
  show (createConnection out link.parts.hostname (proxyPort link.port) timeouts.connect >>= _ :
    Py (World ω) (Peer × Plaintext)) w = _
  rw [run_bind, connected]

section Exactly

variable {w : World ω} {proxy host : String} {port : Int} {timeouts : Timeouts}
  {link : ProxyLink out w proxy timeouts.connect}

theorem openSocket_ok {plain : Plaintext} (accepted : out.settimeout timeouts.read = .ok ())
    (ran : openTunnel link.peer timeouts.connect host port link.parts fresh = .ok () plain) :
    openSocket out host port timeouts (some proxy) w = .ok (link.peer, plain)
      (w.record (.connecting link.parts.hostname (proxyPort link.port))) := by
  rw [openSocket_run link, run_bind, closingOnError_ok (onSocket_ok ran), accepted]
  rfl

/-- A tunnel that is made, and a read timeout that the socket refuses. -/
theorem openSocket_refused {plain : Plaintext} {err : PyErr}
    (refused : out.settimeout timeouts.read = .error err)
    (ran : openTunnel link.peer timeouts.connect host port link.parts fresh = .ok () plain) :
    openSocket out host port timeouts (some proxy) w = .error err
      (w.record (.connecting link.parts.hostname (proxyPort link.port))) := by
  rw [openSocket_run link, run_bind, closingOnError_ok (onSocket_ok ran), refused]
  rfl

theorem openSocket_error {plain : Plaintext} {err : PyErr}
    (ran : openTunnel link.peer timeouts.connect host port link.parts fresh = .error err plain) :
    openSocket out host port timeouts (some proxy) w = .error err
      ((w.record (.connecting link.parts.hostname (proxyPort link.port))).record .closed) := by
  rw [openSocket_run link, run_bind, closingOnError_error (onSocket_error ran)]

/-- The request is sent, and the proxy grants the tunnel. -/
def Granted (peer : Peer) (host : String) (port : Int) (parts : SplitResult) : Prop :=
  RequestSent peer host port parts ∧ ∃ buf, Arrived peer buf ∧ Settled peer buf ∧ Grants buf

/-- Where the proxy grants the tunnel, it is made. -/
theorem Granted.opens (granted : Granted link.peer host port link.parts) :
    ∃ plain, openTunnel link.peer timeouts.connect host port link.parts fresh = .ok () plain := by
  obtain ⟨sent, buf, arrived, settled, grants⟩ := granted
  cases ran : openTunnel link.peer timeouts.connect host port link.parts fresh with
  | ok _ plain => exact ⟨plain, rfl⟩
  | error err plain =>
    have response := response_iff.mpr ⟨arrived, settled⟩
    exact (openTunnel_runs.2 err plain ran sent buf response grants).elim

/-- A tunnel that starts exactly after the response: the read timeout is taken where it is made. -/
theorem StartsAfterResponse.timed
    (starts : StartsAfterResponse link (openSocket out host port timeouts (some proxy)))
    (granted : Granted link.peer host port link.parts) :
    out.settimeout timeouts.read = .ok () := by
  obtain ⟨plain, ran⟩ := granted.opens
  cases accepted : out.settimeout timeouts.read with
  | ok _ => rfl
  | error err =>
    unfold StartsAfterResponse Outcome at starts
    rw [openSocket_refused accepted ran] at starts
    have absurd := congrArg List.length starts
    simp at absurd

/-- A tunnel that starts exactly after the response had it apart. -/
theorem StartsAfterResponse.apart
    (starts : StartsAfterResponse link (openSocket out host port timeouts (some proxy)))
    (sent : RequestSent link.peer host port link.parts) : ResponseApart link.peer := by
  intro buf before settled grants
  have accepted := starts.timed ⟨sent, buf, before, settled, grants⟩
  have response := response_iff.mpr ⟨before, settled⟩
  unfold StartsAfterResponse Outcome at starts
  cases ran : openTunnel link.peer timeouts.connect host port link.parts fresh with
  | ok _ plain =>
    obtain ⟨whole, _, read, _, here⟩ := openTunnel_runs.1 plain ran
    rw [openSocket_ok accepted ran] at starts
    obtain ⟨_, block, segment, complete, _⟩ := starts
    have same : buf = whole := response.unique read
    have consumed : Segment link.peer.Gives 0 block buf.length := by
      rw [same, ← here]
      exact segment
    rw [Segment.unique Peer.Gives.unique before.segment consumed]
    exact complete
  | error err plain =>
    exact (openTunnel_runs.2 err plain ran sent buf response grants).elim

/-- With the response apart, and the read timeout taken, the tunnel starts exactly after it. -/
theorem startsAfterResponse_of_apart
    (apart : RequestSent link.peer host port link.parts → ResponseApart link.peer)
    (timed : Granted link.peer host port link.parts → out.settimeout timeouts.read = .ok ()) :
    StartsAfterResponse link (openSocket out host port timeouts (some proxy)) := by
  unfold StartsAfterResponse Outcome
  cases ran : openTunnel link.peer timeouts.connect host port link.parts fresh with
  | ok _ plain =>
    obtain ⟨whole, sent, response, grants, here⟩ := openTunnel_runs.1 plain ran
    obtain ⟨arrived, settled⟩ := response_iff.mp response
    rw [openSocket_ok (timed ⟨sent, whole, arrived, settled, grants⟩) ran]
    exact ⟨rfl, whole, here ▸ arrived.segment, apart sent whole arrived settled grants, grants⟩
  | error err plain =>
    rw [openSocket_error ran]
    exact rfl

end Exactly

/-- **The tunnel starts exactly after the response if and only if the chunks separate them**, and the
socket takes the read timeout when the tunnel is made. -/
theorem openSocket_tunnel_iff {w : World ω} {proxy : String} {timeouts : Timeouts}
    (link : ProxyLink out w proxy timeouts.connect) (host : String) (port : Int) :
    StartsAfterResponse link (openSocket out host port timeouts (some proxy)) ↔
      (RequestSent link.peer host port link.parts → ResponseApart link.peer) ∧
        (Granted link.peer host port link.parts → out.settimeout timeouts.read = .ok ()) :=
  ⟨fun starts => ⟨fun sent => starts.apart sent, fun granted => starts.timed granted⟩,
    fun both => startsAfterResponse_of_apart both.1 both.2⟩

/-- A mail server behind a proxy whose answer arrives together with the server's greeting. -/
def greetingPeer : Peer where
  recv p := match (ascii "HTTP/1.1 200 OK\r\n\r\n220 mail\r\n")[p]? with
    | some byte => .byte byte
    | none => .closed
  sendall _ := none
  delivered _ := 0
  overdue _ := false
  available _ := 1000

/-- An outside with a proxy, and nothing else. -/
def behindProxy (peer : Peer) : Outside Unit where
  now _ := 0
  today := 0
  readFile _ _ := .error ⟨.osError, "no such file"⟩
  readStdin _ := .ok []
  writeFile _ _ _ := .error ⟨.osError, "read-only file system"⟩
  urlsplit _ := .ok ⟨some "proxy", .ok (some 3128), none, none⟩
  getproxies _ := []
  proxyBypass _ _ := false
  createDefaultContext _ _ _ := .ok ()
  loadCertChain _ _ _ := .ok ()
  createConnection _ _ _ _ := .ok peer
  settimeout _ := .ok ()
  wrapSocket _ _ _ := .error ⟨.sslError, "handshake failure"⟩
  verifyMessage err := err.message
  getCaCerts _ _ := []
  takesDnsName _ := .ok ()
  buildServerVerifier _ _ := .ok ()
  verifyPath _ _ _ _ _ := .error ⟨.verificationError, "candidates exhausted"⟩

/-- The connection to that proxy. -/
def greetingLink : ProxyLink (behindProxy greetingPeer) ⟨[], ()⟩ "http://proxy:3128" "5" where
  parts := ⟨some "proxy", .ok (some 3128), none, none⟩
  port := some 3128
  peer := greetingPeer
  named := by decide
  splits := rfl
  ported := rfl
  connects := rfl

/-- The greeting of the mail server is swallowed with the proxy's response. -/
theorem not_startsAfterResponse_greeting :
    ¬ StartsAfterResponse greetingLink
      (openSocket (behindProxy greetingPeer) "mail" 25 ⟨"5", "5"⟩ (some "http://proxy:3128")) := by
  intro starts
  have sent : RequestSent greetingPeer "mail" 25 greetingLink.parts := by
    refine ⟨?_, rfl⟩
    have plain : (connectRequest "mail" 25 greetingLink.parts).toList.dropWhile isAscii = [] := by
      decide +kernel
    unfold encodeAscii
    rw [plain]
    exact ⟨_, rfl⟩
  have chunk : chunkAt greetingPeer 0 = some (ascii "HTTP/1.1 200 OK\r\n\r\n220 mail\r\n") := by
    decide +kernel
  have arrived : Arrived greetingPeer (ascii "HTTP/1.1 200 OK\r\n\r\n220 mail\r\n") :=
    Arrived.start.chunk ⟨by decide, Nat.zero_le _⟩ chunk
  have complete : Settled greetingPeer (ascii "HTTP/1.1 200 OK\r\n\r\n220 mail\r\n") := by
    refine Or.inl fun unfinished => ?_
    have absurd := unfinished.1
    revert absurd
    decide +kernel
  have grants : Grants (ascii "HTTP/1.1 200 OK\r\n\r\n220 mail\r\n") := by
    unfold Grants
    decide +kernel
  have block := starts.apart sent _ arrived complete grants
  have more := block.first
  revert more
  decide +kernel

end OpenSocket

end Certinspect.Fetch
