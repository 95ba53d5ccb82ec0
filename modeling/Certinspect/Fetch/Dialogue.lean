/-
**TLS only by agreement: the dialogue before the handshake.**

The negotiation of each protocol is a script (`Protocol.dialogue`): a greeting to await, then
commands to send, each with the reply to await. The server chooses every byte it sends, and so how
its replies fall into lines; the client's own bytes leave it one by one, and a `sendall` may fail
midway.

* `converse` — the script, run; `runStarttls_eq` — the code is that.
* `Expected`, `Replies` — what is expected of a reply, and a stretch of the stream that is the
  expected replies.
* `ByAgreement` — what holds at a moment, a moment being what went over the connection so far.
* `Course` — what a run keeps: one lemma for bytes that arrive, one for bytes that leave, and the
  induction is on the commands that remain.
* **`negotiateStarttls_by_agreement`** — at every moment of every negotiation.
-/

import Certinspect.Fetch.Starttls

namespace Certinspect.Fetch

open Library

/-! ### The script of a protocol -/

/-- What is expected of a reply. -/
inductive Expected
  /-- A reply of the SMTP kind, perhaps of several lines. -/
  | reply (code : String)
  /-- The next line. -/
  | line (start : String)
  /-- The first tagged line. -/
  | tagged
  deriving DecidableEq, Repr

namespace Expected

/-- Whether a line is the final one of the reply. -/
def ends : Expected → Bytes → Bool
  | .reply _ => endsReply
  | .line _ => fun _ => true
  | .tagged => isTagged

/-- How the final line has to begin. -/
def start : Expected → String
  | .reply code => code
  | .line start => start
  | .tagged => "a001 OK"

/-- The code that awaits the reply. -/
def read (peer : Peer) (timeout : Option String) : Expected → Py Plaintext Unit
  | .reply code => expectReply peer timeout code
  | .line start => expectLine peer timeout start
  | .tagged => readTagged peer timeout maxStarttlsReplyLines

end Expected

/-- A greeting to await, then commands, each with the reply to await. -/
structure Dialogue where
  greeting : Expected
  exchanges : List (Bytes × Expected)

namespace Dialogue

/-- The fixed command sequence. -/
def commands (dialogue : Dialogue) : List Bytes := dialogue.exchanges.map Prod.fst

/-- The expected replies. -/
def replies (dialogue : Dialogue) : List Expected :=
  dialogue.greeting :: dialogue.exchanges.map Prod.snd

end Dialogue

/-- The protocols with a STARTTLS. -/
inductive Protocol
  | smtp
  | ftp
  | pop3
  | imap
  deriving DecidableEq, Repr

namespace Protocol

/-- The name of a protocol, in lower case. -/
def name : Protocol → String
  | .smtp => "smtp"
  | .ftp => "ftp"
  | .pop3 => "pop3"
  | .imap => "imap"

/-- What is said and awaited. -/
def dialogue : Protocol → Dialogue
  | .smtp => ⟨.reply "220", [(ascii "EHLO certinspect\r\n", .reply "250"),
      (ascii "STARTTLS\r\n", .reply "220")]⟩
  | .ftp => ⟨.reply "220", [(ascii "AUTH TLS\r\n", .reply "234")]⟩
  | .pop3 => ⟨.line "+OK", [(ascii "STLS\r\n", .line "+OK")]⟩
  | .imap => ⟨.line "* OK", [(ascii "a001 STARTTLS\r\n", .tagged)]⟩

end Protocol

section Converse

variable (peer : Peer) (timeout : Option String)

/-- Await a reply; then, one after the other, send a command and await the next reply. -/
def converse (awaited : Expected) : List (Bytes × Expected) → Py Plaintext Unit
  | [] => awaited.read peer timeout
  | (command, next) :: rest => do
    awaited.read peer timeout
    sendall peer command
    converse next rest

/-- **`_run_starttls` runs the script of the protocol.** -/
theorem runStarttls_eq (proto : Protocol) (protocol : String)
    (spelled : lower protocol = proto.name) :
    runStarttls peer timeout protocol =
      converse peer timeout proto.dialogue.greeting proto.dialogue.exchanges := by
  unfold runStarttls
  simp only [spelled]
  cases proto <;> rfl

end Converse

/-! ### Moments -/

/-- The byte, if the client received it. -/
def Transfer.received? : Transfer → Option UInt8
  | .received byte => some byte
  | .sent _ => none

/-- The byte, if the client sent it. -/
def Transfer.sent? : Transfer → Option UInt8
  | .received _ => none
  | .sent byte => some byte

/-- The bytes received so far, in order. -/
def receivedBytes (moment : List Transfer) : Bytes := moment.reverse.filterMap Transfer.received?

/-- The bytes sent so far, in order. -/
def sentBytes (moment : List Transfer) : Bytes := moment.reverse.filterMap Transfer.sent?

section Moments

variable (moment : List Transfer) (byte : UInt8)

@[simp] theorem receivedBytes_received :
    receivedBytes (.received byte :: moment) = receivedBytes moment ++ [byte] := by
  simp [receivedBytes, Transfer.received?]

@[simp] theorem receivedBytes_sent :
    receivedBytes (.sent byte :: moment) = receivedBytes moment := by
  simp [receivedBytes, Transfer.received?]

@[simp] theorem sentBytes_received : sentBytes (.received byte :: moment) = sentBytes moment := by
  simp [sentBytes, Transfer.sent?]

@[simp] theorem sentBytes_sent :
    sentBytes (.sent byte :: moment) = sentBytes moment ++ [byte] := by
  simp [sentBytes, Transfer.sent?]

end Moments

/-- From one position to another the stream is the expected replies, one after the other. -/
inductive Replies (peer : Peer) : Nat → List Expected → Nat → Prop
  | nil (p : Nat) : Replies peer p [] p
  | cons {p q r : Nat} {awaited : Expected} {rest : List Expected} {lines : List Bytes}
      {final : Bytes} :
      Lines peer p lines q → OneReply awaited.ends lines final →
      bytesStartWith final (ascii awaited.start) = true → Replies peer q rest r →
      Replies peer p (awaited :: rest) r

/-- **One moment of a dialogue** that began at position `p` of the stream: what was received is the
stream from there, what was sent is a prefix of the commands, and of the command number `k` nothing
was sent unless the first `k + 1` replies had been received as expected. -/
structure ByAgreement (peer : Peer) (p : Nat) (dialogue : Dialogue) (moment : List Transfer) :
    Prop where
  stream : Segment peer.Gives p (receivedBytes moment) (p + (receivedBytes moment).length)
  scripted : sentBytes moment <+: dialogue.commands.flatten
  agreed : ∀ k < dialogue.commands.length,
    (dialogue.commands.take k).flatten.length < (sentBytes moment).length →
      ∃ q ≤ p + (receivedBytes moment).length, Replies peer p (dialogue.replies.take (k + 1)) q

section Turn

variable {peer : Peer} {p : Nat} {dialogue : Dialogue}

theorem Replies.append {q r : Nat} {first second : List Expected} (before : Replies peer p first q)
    (after : Replies peer q second r) : Replies peer p (first ++ second) r := by
  induction before with
  | nil p => exact after
  | cons lines reply accepted _ ih => exact .cons lines reply accepted (ih after)

theorem Replies.le {q : Nat} {expected : List Expected} (replies : Replies peer p expected q) :
    p ≤ q := by
  induction replies with
  | nil p => exact Nat.le_refl p
  | cons lines _ _ _ ih =>
    have read := lines.segment.length
    omega

/-- The first replies end before the last ones. -/
theorem Replies.of_append {r : Nat} {first second : List Expected}
    (both : Replies peer p (first ++ second) r) : ∃ q ≤ r, Replies peer p first q := by
  induction first generalizing p with
  | nil => exact ⟨p, both.le, .nil p⟩
  | cons awaited first ih =>
    cases both with
    | cons lines reply accepted rest =>
      obtain ⟨q, before, replies⟩ := ih rest
      exact ⟨q, before, .cons lines reply accepted replies⟩

/-- Where a dialogue is: the commands begun so far and the replies received, at least as many. -/
structure Turn (dialogue : Dialogue) (said : List Bytes) (heard : List Expected) : Prop where
  scripted : said <+: dialogue.commands
  awaited : heard <+: dialogue.replies
  answered : said.length ≤ heard.length

/-- **At its turn, a moment is by agreement.** -/
theorem Turn.byAgreement {said : List Bytes} {heard : List Expected} {moment : List Transfer}
    {q : Nat} (turn : Turn dialogue said heard)
    (stream : Segment peer.Gives p (receivedBytes moment) (p + (receivedBytes moment).length))
    (sent : sentBytes moment <+: said.flatten) (replies : Replies peer p heard q)
    (received : q ≤ p + (receivedBytes moment).length) : ByAgreement peer p dialogue moment where
  stream := stream
  scripted := sent.trans turn.scripted.flatten
  agreed k inside longer := by
    -- a command of which something was sent is among those begun
    have begun : k < said.length := by
      refine Nat.lt_of_not_le fun beyond => ?_
      have whole : said <+: dialogue.commands.take k := by
        rw [List.prefix_take_iff]
        exact ⟨turn.scripted, beyond⟩
      have short := (sent.trans whole.flatten).length_le
      omega
    have among : dialogue.replies.take (k + 1) <+: heard := by
      have answered := turn.answered
      refine List.prefix_of_prefix_length_le (List.take_prefix _ _) turn.awaited ?_
      rw [List.length_take]
      omega
    obtain ⟨rest, same⟩ := among
    obtain ⟨r, before, first⟩ := Replies.of_append (same ▸ replies)
    exact ⟨r, Nat.le_trans before received, first⟩

end Turn

/-! ### A run -/

section Course

variable {peer : Peer} {p : Nat} {dialogue : Dialogue} {past : List Transfer} {said : List Bytes}
  {heard : List Expected} {moments : List Transfer} {s : Plaintext}

/-- Every moment since the dialogue began was by agreement. -/
def Throughout (peer : Peer) (p : Nat) (dialogue : Dialogue) (moments : List Transfer) : Prop :=
  ∀ moment, moment <:+ moments → ByAgreement peer p dialogue moment

theorem Throughout.cons {transfer : Transfer} (before : Throughout peer p dialogue moments)
    (here : ByAgreement peer p dialogue (transfer :: moments)) :
    Throughout peer p dialogue (transfer :: moments) := by
  intro moment suffix
  rcases List.suffix_cons_iff.mp suffix with same | earlier
  · exact same ▸ here
  · exact before moment earlier

/-- The state of a dialogue at its turn. -/
structure Course (peer : Peer) (p : Nat) (dialogue : Dialogue) (past : List Transfer)
    (said : List Bytes) (heard : List Expected) (moments : List Transfer) (s : Plaintext) :
    Prop where
  turn : Turn dialogue said heard
  wire : s.wire = moments ++ past
  stream : Segment peer.Gives p (receivedBytes moments) s.position
  sent : sentBytes moments <+: said.flatten
  replies : ∃ q ≤ s.position, Replies peer p heard q
  each : Throughout peer p dialogue moments

/-- One byte arrives. -/
theorem Course.arrive (course : Course peer p dialogue past said heard moments s) {byte : UInt8}
    (gives : peer.Gives s.position byte) :
    Course peer p dialogue past said heard (.received byte :: moments) (s.take [byte]) := by
  have longer := course.stream.snoc gives
  obtain ⟨q, before, replies⟩ := course.replies
  have stream : Segment peer.Gives p (receivedBytes (.received byte :: moments))
      (s.position + 1) := by
    rw [receivedBytes_received]
    exact longer
  have sent : sentBytes (.received byte :: moments) <+: said.flatten := by
    rw [sentBytes_received]
    exact course.sent
  refine ⟨course.turn, ?_, stream, sent, ⟨q, Nat.le_succ_of_le before, replies⟩,
    course.each.cons (course.turn.byAgreement ?_ sent replies ?_)⟩
  · show Transfer.received byte :: s.wire = _
    rw [course.wire, List.cons_append]
  · rw [← stream.length]
    exact stream
  · rw [← stream.length]
    exact Nat.le_succ_of_le before

/-- One byte leaves. -/
theorem Course.leave (course : Course peer p dialogue past said heard moments s) {byte : UInt8}
    (scripted : sentBytes moments ++ [byte] <+: said.flatten) :
    Course peer p dialogue past said heard (.sent byte :: moments) (s.transmit [byte]) := by
  obtain ⟨q, before, replies⟩ := course.replies
  have stream : Segment peer.Gives p (receivedBytes (.sent byte :: moments)) s.position := by
    rw [receivedBytes_sent]
    exact course.stream
  have sent : sentBytes (.sent byte :: moments) <+: said.flatten := by
    rw [sentBytes_sent]
    exact scripted
  refine ⟨course.turn, ?_, stream, sent, ⟨q, before, replies⟩,
    course.each.cons (course.turn.byAgreement ?_ sent replies ?_)⟩
  · show Transfer.sent byte :: s.wire = _
    rw [course.wire, List.cons_append]
  · rw [← stream.length]
    exact stream
  · rw [← stream.length]
    exact before

/-- Bytes arrive, one after the other. -/
theorem Course.take {bytes : Bytes} (course : Course peer p dialogue past said heard moments s)
    {q : Nat} (stream : Segment peer.Gives s.position bytes q) :
    ∃ later, Course peer p dialogue past said heard later (s.take bytes) ∧
      sentBytes later = sentBytes moments := by
  induction bytes generalizing s moments with
  | nil => exact ⟨moments, course, rfl⟩
  | cons byte bytes ih =>
    cases stream with
    | cons gives rest =>
      obtain ⟨later, course, same⟩ := ih (course.arrive gives) rest
      refine ⟨later, ?_, same.trans (sentBytes_received moments byte)⟩
      rw [← List.singleton_append, ← Plaintext.take_take]
      exact course

/-- Bytes leave, one after the other. -/
theorem Course.transmit {bytes : Bytes} (course : Course peer p dialogue past said heard moments s)
    (scripted : sentBytes moments ++ bytes <+: said.flatten) :
    ∃ later, Course peer p dialogue past said heard later (s.transmit bytes) ∧
      sentBytes later = sentBytes moments ++ bytes := by
  induction bytes generalizing s moments with
  | nil => exact ⟨moments, course, (List.append_nil _).symm⟩
  | cons byte bytes ih =>
    have split : sentBytes moments ++ byte :: bytes = sentBytes moments ++ [byte] ++ bytes := by
      rw [List.append_assoc, List.singleton_append]
    rw [split] at scripted
    have next := course.leave ((List.prefix_append _ _).trans scripted)
    rw [← sentBytes_sent] at scripted
    obtain ⟨later, course, same⟩ := ih next scripted
    refine ⟨later, ?_, ?_⟩
    · rw [← List.singleton_append, ← Plaintext.transmit_transmit]
      exact course
    · rw [same, sentBytes_sent, ← split]

end Course

/-! ### Awaiting a reply -/

section Listens

variable {peer : Peer} {timeout : Option String} {α β : Type}

/-- Between the two states the client only received. -/
def Listened (peer : Peer) (s t : Plaintext) : Prop :=
  ∃ bytes, Segment peer.Gives s.position bytes t.position ∧ t = s.take bytes

theorem Listened.refl (peer : Peer) (s : Plaintext) : Listened peer s s := ⟨[], .nil _, rfl⟩

theorem Listened.trans {s t u : Plaintext} (first : Listened peer s t)
    (second : Listened peer t u) : Listened peer s u := by
  obtain ⟨before, stream, rfl⟩ := first
  obtain ⟨after, rest, rfl⟩ := second
  exact ⟨before ++ after, stream.append rest, Plaintext.take_take s before after⟩

/-- A computation that only receives, however it ends. -/
def Listens (peer : Peer) (x : Py Plaintext α) : Prop :=
  ∀ s, Outcome x s (fun _ t => Listened peer s t) fun _ t => Listened peer s t

theorem listens_pure (value : α) : Listens peer (pure value : Py Plaintext α) :=
  fun s => Listened.refl peer s

theorem listens_raise (cls : ExcClass) (message : String) :
    Listens peer (raise cls message : Py Plaintext α) := fun s => Listened.refl peer s

theorem listens_orRaise (x : Except PyErr α) : Listens peer (orRaise x : Py Plaintext α) := by
  intro s
  cases x with
  | ok value => exact Listened.refl peer s
  | error err => exact Listened.refl peer s

theorem Listens.bind {x : Py Plaintext α} {f : α → Py Plaintext β} (first : Listens peer x)
    (rest : ∀ value, Listens peer (f value)) : Listens peer (x >>= f) := by
  intro s
  rw [outcome_bind]
  refine outcome_mono (first s) ?_ fun _ _ heard => heard
  intro value t heard
  exact outcome_mono (rest value t) (fun _ _ more => heard.trans more)
    fun _ _ more => heard.trans more

theorem recv_listens : Listens peer (recv peer timeout) := by
  have socket : Listens peer (sockRecv peer) := by
    intro s
    unfold Outcome sockRecv
    cases found : peer.recv s.position with
    | byte value => exact ⟨[value], .cons found (.nil _), rfl⟩
    | closed => exact Listened.refl peer s
    | failed err => exact Listened.refl peer s
  cases timeout with
  | none => exact socket
  | some seconds =>
    intro s
    unfold recv
    rw [outcome_bind, outcome_get, outcome_ite]
    split
    · exact Listened.refl peer s
    · exact socket s

theorem readlineLoop_listens (buf : Bytes) : Listens peer (readlineLoop peer timeout buf) := by
  rw [readlineLoop]
  split
  · exact listens_pure buf
  · split
    · exact listens_raise _ _
    · refine recv_listens.bind fun chunk => ?_
      cases chunk with
      | none => exact listens_pure buf
      | some byte => exact readlineLoop_listens (buf ++ [byte])
termination_by maxStarttlsLineBytes - buf.length
decreasing_by
  rw [List.length_append, List.length_singleton]
  omega

theorem readline_listens : Listens peer (readline peer timeout) := readlineLoop_listens []

theorem readReplyLines_listens (n : Nat) : Listens peer (readReplyLines peer timeout n) := by
  induction n with
  | zero => exact listens_raise _ _
  | succ n ih =>
    refine readline_listens.bind fun line => ?_
    split
    · exact listens_pure line
    · exact ih

theorem readTagged_listens (n : Nat) : Listens peer (readTagged peer timeout n) := by
  induction n with
  | zero => exact listens_raise _ _
  | succ n ih =>
    refine readline_listens.bind fun line => ?_
    split
    · exact listens_raise _ _
    · split
      · exact listens_orRaise _
      · exact ih

theorem Expected.read_listens (awaited : Expected) : Listens peer (awaited.read peer timeout) := by
  cases awaited with
  | reply code => exact (readReplyLines_listens _).bind fun _ => listens_orRaise _
  | line start => exact readline_listens.bind fun _ => listens_orRaise _
  | tagged => exact readTagged_listens _

/-- **Awaiting a reply** reads on; where it returns, what was read is one reply, as expected. -/
theorem Expected.read_replies (awaited : Expected) (s : Plaintext) :
    Outcome (awaited.read peer timeout) s
      (fun _ t => Listened peer s t ∧ Replies peer s.position [awaited] t.position)
      fun _ t => Listened peer s t := by
  have accepted : Outcome (awaited.read peer timeout) s
      (fun _ t => Replies peer s.position [awaited] t.position) fun _ _ => True := by
    cases awaited with
    | reply code =>
      show Outcome (readReply peer timeout >>= _) s _ _
      rw [outcome_bind]
      refine outcome_mono (readReplyLines_lines maxStarttlsReplyLines s) ?_ fun _ _ _ => trivial
      intro final t found
      obtain ⟨lines, _, reply, read⟩ := found
      unfold expect
      split
      · rename_i begins
        exact .cons read reply begins (.nil _)
      · exact trivial
    | line start =>
      show Outcome (readline peer timeout >>= _) s _ _
      rw [outcome_bind]
      refine outcome_mono (readline_lines s) ?_ fun _ _ _ => trivial
      intro final t read
      unfold expect
      split
      · rename_i begins
        exact .cons read (.single rfl) begins (.nil _)
      · exact trivial
    | tagged =>
      refine outcome_mono (readTagged_lines maxStarttlsReplyLines s) ?_ fun _ _ _ => trivial
      intro _ t found
      obtain ⟨lines, final, _, reply, begins, read⟩ := found
      exact .cons read reply begins (.nil _)
  exact outcome_mono (outcome_and (awaited.read_listens s) accepted) (fun _ _ both => both)
    fun _ _ both => both.1

end Listens

/-! ### The negotiation -/

section Negotiate

variable {peer : Peer} {timeout : Option String} {p : Nat} {dialogue : Dialogue}
  {past : List Transfer}

/-- What went over the connection since the dialogue began, every moment of it by agreement. -/
def Agreeing (peer : Peer) (p : Nat) (dialogue : Dialogue) (past : List Transfer) (t : Plaintext)
    (moments : List Transfer) : Prop :=
  t.wire = moments ++ past ∧ Throughout peer p dialogue moments

/-- A dialogue that was agreed on: everything was said, and all the replies are as expected. -/
def Concluded (peer : Peer) (p : Nat) (dialogue : Dialogue) (past : List Transfer)
    (t : Plaintext) : Prop :=
  ∃ moments, Agreeing peer p dialogue past t moments ∧
    sentBytes moments = dialogue.commands.flatten ∧ Replies peer p dialogue.replies t.position

/-- A dialogue broken off. -/
def BrokenOff (peer : Peer) (p : Nat) (dialogue : Dialogue) (past : List Transfer)
    (t : Plaintext) : Prop :=
  ∃ moments, Agreeing peer p dialogue past t moments

section Turns

variable {said : List Bytes} {heard : List Expected} {moments : List Transfer} {s : Plaintext}

theorem Course.agreeing (course : Course peer p dialogue past said heard moments s) :
    Agreeing peer p dialogue past s moments := ⟨course.wire, course.each⟩

/-- Listening changes neither what was said nor what was heard. -/
theorem Course.listened {t : Plaintext} (course : Course peer p dialogue past said heard moments s)
    (listened : Listened peer s t) :
    ∃ later, Course peer p dialogue past said heard later t ∧
      sentBytes later = sentBytes moments := by
  obtain ⟨bytes, stream, rfl⟩ := listened
  exact course.take stream

/-- One reply more. -/
theorem Course.hear {awaited : Expected} {q : Nat}
    (course : Course peer p dialogue past said heard moments s) (here : Replies peer p heard q)
    (reply : Replies peer q [awaited] s.position)
    (expected : heard ++ [awaited] <+: dialogue.replies) :
    Course peer p dialogue past said (heard ++ [awaited]) moments s where
  turn := ⟨course.turn.scripted, expected, by
    have answered := course.turn.answered
    rw [List.length_append]
    omega⟩
  wire := course.wire
  stream := course.stream
  sent := course.sent
  replies := ⟨s.position, Nat.le_refl _, here.append reply⟩
  each := course.each

/-- One command begun. -/
theorem Course.say {command : Bytes} (course : Course peer p dialogue past said heard moments s)
    (scripted : said ++ [command] <+: dialogue.commands)
    (answered : said.length < heard.length) :
    Course peer p dialogue past (said ++ [command]) heard moments s where
  turn := ⟨scripted, course.turn.awaited, by
    rw [List.length_append]
    exact answered⟩
  wire := course.wire
  stream := course.stream
  sent := course.sent.trans (List.prefix_append said [command]).flatten
  replies := course.replies
  each := course.each

/-- **The rest of a dialogue**; the induction is on the commands that remain. -/
theorem converse_by_agreement {awaited : Expected} {rest : List (Bytes × Expected)}
    (scripted : dialogue.commands = said ++ rest.map Prod.fst)
    (expected : dialogue.replies = heard ++ awaited :: rest.map Prod.snd)
    (even : said.length = heard.length)
    (course : Course peer p dialogue past said heard moments s)
    (whole : sentBytes moments = said.flatten) (here : Replies peer p heard s.position) :
    Outcome (converse peer timeout awaited rest) s
      (fun _ t => Concluded peer p dialogue past t)
      fun _ t => BrokenOff peer p dialogue past t := by
  induction rest generalizing awaited said heard moments s with
  | nil =>
    refine outcome_mono (awaited.read_replies s) ?_ ?_
    · intro _ t found
      obtain ⟨listened, reply⟩ := found
      obtain ⟨later, course, same⟩ := course.listened listened
      refine ⟨later, course.agreeing, ?_, ?_⟩
      · rw [same, whole, scripted, List.map_nil, List.append_nil]
      · rw [expected]
        exact here.append reply
    · intro _ t listened
      obtain ⟨later, course, _⟩ := course.listened listened
      exact ⟨later, course.agreeing⟩
  | cons exchange rest ih =>
    obtain ⟨command, next⟩ := exchange
    rw [converse, outcome_bind]
    refine outcome_mono (awaited.read_replies s) ?_ ?_
    · intro _ t found
      obtain ⟨listened, reply⟩ := found
      obtain ⟨later, course, same⟩ := course.listened listened
      have expected : dialogue.replies = heard ++ [awaited] ++ next :: rest.map Prod.snd := by
        rw [expected, List.append_assoc]
        rfl
      have scripted : dialogue.commands = said ++ [command] ++ rest.map Prod.fst := by
        rw [scripted, List.append_assoc]
        rfl
      have both := here.append reply
      have even : (said ++ [command]).length = (heard ++ [awaited]).length := by
        rw [List.length_append, List.length_append, even]
        rfl
      have asked := (course.hear here reply ⟨_, expected.symm⟩).say ⟨_, scripted.symm⟩ (by
        rw [List.length_append] at even
        exact Nat.lt_of_succ_le (Nat.le_of_eq even))
      have spoken : (said ++ [command]).flatten = sentBytes later ++ command := by
        rw [same, whole, List.flatten_append, List.flatten_singleton]
      rw [outcome_bind]
      unfold Outcome sendall
      cases peer.sendall t.sent.length with
      | some err =>
        -- the part that was delivered is the beginning of the command
        have part : sentBytes later ++ command.take (peer.delivered t.sent.length) <+:
            (said ++ [command]).flatten := by
          rw [spoken, List.prefix_append_right_inj]
          exact List.take_prefix _ _
        obtain ⟨last, course, _⟩ := asked.transmit part
        exact ⟨last, course.agreeing⟩
      | none =>
        have all : sentBytes later ++ command <+: (said ++ [command]).flatten := by
          rw [spoken]
        obtain ⟨last, course, same⟩ := asked.transmit all
        have silent : Course peer p dialogue past (said ++ [command]) (heard ++ [awaited]) last
            { t.transmit command with sent := t.sent ++ [command] } :=
          ⟨course.turn, course.wire, course.stream, course.sent, course.replies, course.each⟩
        exact ih scripted expected even silent (same.trans spoken.symm) both
    · intro _ t listened
      obtain ⟨later, course, _⟩ := course.listened listened
      exact ⟨later, course.agreeing⟩

end Turns

variable (peer timeout)

/-- **TLS only by agreement.** Whatever the server sends and wherever its stream ends, at every
moment of the negotiation the bytes sent are a prefix of the commands of the protocol, and of the
next command nothing is sent before the replies so far were received, each as expected of its final
line. The negotiation returns only when all the commands were sent and all the replies received are
as expected, the last one included. -/
theorem negotiateStarttls_by_agreement (proto : Protocol) (protocol : String)
    (spelled : lower protocol = proto.name) (s : Plaintext) :
    Outcome (negotiateStarttls peer timeout protocol) s
      (fun _ t => Concluded peer s.position proto.dialogue s.wire t)
      fun _ t => BrokenOff peer s.position proto.dialogue s.wire t := by
  have turn : Turn proto.dialogue [] [] := ⟨List.nil_prefix, List.nil_prefix, Nat.le_refl 0⟩
  have start : ByAgreement peer s.position proto.dialogue [] :=
    turn.byAgreement (.nil _) (List.prefix_refl []) (.nil _) (Nat.le_refl _)
  have each : Throughout peer s.position proto.dialogue [] := by
    intro moment suffix
    rw [List.suffix_nil.mp suffix]
    exact start
  have course : Course peer s.position proto.dialogue s.wire [] [] [] s :=
    ⟨turn, rfl, .nil _, List.prefix_refl [], ⟨s.position, Nat.le_refl _, .nil _⟩, each⟩
  unfold negotiateStarttls
  rw [runStarttls_eq peer timeout proto protocol spelled]
  exact converse_by_agreement rfl rfl rfl course rfl (.nil _)

/-- A POP3 server that agrees. -/
def agreeingPeer : Peer where
  recv p := match (ascii "+OK ready\r\n+OK begin\r\n")[p]? with
    | some byte => .byte byte
    | none => .closed
  sendall _ := none
  delivered _ := 0
  overdue _ := false
  available _ := 0

theorem negotiateStarttls_by_agreement_agreeing :
    Outcome (negotiateStarttls agreeingPeer (some "5") "POP3") ⟨0, [], []⟩
      (fun _ t => Concluded agreeingPeer 0 Protocol.pop3.dialogue [] t)
      fun _ t => BrokenOff agreeingPeer 0 Protocol.pop3.dialogue [] t :=
  negotiateStarttls_by_agreement agreeingPeer (some "5") .pop3 "POP3" (by decide) ⟨0, [], []⟩

end Negotiate

end Certinspect.Fetch
