/-
**The STARTTLS negotiation, `_negotiate_starttls` in `fetch.py`.**

Before the TLS handshake the client reads plaintext replies, a byte at a time. The server is
hostile: its `Peer` gives, for every position of the stream, a byte, the end of the stream or a
failure of `recv`, for ever if it likes.

* `readline`, `readReply`, `expect`, `runStarttls` — the code.
* `Lines peer p lines q` — from `p` to `q` the stream is these whole lines.
* `readline_lines`, `readReplyLines_lines`, `readTagged_lines` — what each loop consumes, whether it
  returns or raises; the induction is on the bytes, or the lines, that are still allowed.
* `awaitedReplies` — the replies a protocol awaits, each by the lines that can end it.
* **`negotiateStarttls_bounded`** — at most 100 lines of at most 8192 bytes for each awaited reply,
  and on return nothing but the awaited replies, each up to the first line that ends it.
-/

import Certinspect.Library.Segment
import Certinspect.Python
import Mathlib.Data.List.Forall2

namespace Certinspect.Fetch

open Library

/-! ### The plaintext connection -/

/-- `_MAX_STARTTLS_LINE_BYTES`. -/
def maxStarttlsLineBytes : Nat := 8192

/-- `_MAX_STARTTLS_REPLY_LINES`. -/
def maxStarttlsReplyLines : Nat := 100

/-- What `recv(1)` finds at a position of the stream. -/
inductive Received
  | byte (value : UInt8)
  /-- The end of the stream: `recv` returns `b""`. -/
  | closed
  | failed (err : PyErr)

/-- The server's side of the plaintext connection. -/
structure Peer where
  recv : Nat → Received
  /-- What the `n`-th `sendall` raises, if it does. -/
  sendall : Nat → Option PyErr
  /-- How many bytes were delivered by the `n`-th `sendall` when it raised. -/
  delivered : Nat → Nat
  /-- Whether the deadline of the reply has passed when the byte at a position is awaited. -/
  overdue : Nat → Bool
  /-- How many bytes after the one at a position a larger `recv` finds along with it. -/
  available : Nat → Nat

/-- A byte that went over the connection. -/
inductive Transfer
  | received (byte : UInt8)
  | sent (byte : UInt8)
  deriving DecidableEq, Repr

/-- The client's side: how many bytes it has consumed, what it has sent, and every byte that went
over the connection, newest first. -/
structure Plaintext where
  position : Nat
  sent : List Bytes
  wire : List Transfer

namespace Plaintext

/-- The client takes these bytes. -/
def take (s : Plaintext) (data : Bytes) : Plaintext :=
  { s with position := s.position + data.length
           wire := (data.map Transfer.received).reverse ++ s.wire }

/-- These bytes leave the client. -/
def transmit (s : Plaintext) (data : Bytes) : Plaintext :=
  { s with wire := (data.map Transfer.sent).reverse ++ s.wire }

theorem take_take (s : Plaintext) (first second : Bytes) :
    (s.take first).take second = s.take (first ++ second) := by
  simp [take, Nat.add_assoc]

theorem transmit_transmit (s : Plaintext) (first second : Bytes) :
    (s.transmit first).transmit second = s.transmit (first ++ second) := by
  simp [transmit]

end Plaintext

/-- `b"\n"`. -/
def newline : UInt8 := 10

section Negotiation

variable (peer : Peer)

/-- `sock.recv(1)`; `none` is the empty chunk. -/
def sockRecv : Py Plaintext (Option UInt8) := fun s =>
  match peer.recv s.position with
  | .byte value => .ok (some value) (s.take [value])
  | .closed => .ok none s
  | .failed err => .error err s

/-- `reply().recv(1)`: the socket itself, or with a timeout (here its text) a `_Deadline` on it. -/
def recv (timeout : Option String) : Py Plaintext (Option UInt8) :=
  match timeout with
  | none => sockRecv peer
  | some seconds => do
    if peer.overdue (← get).position then
      raise .timeoutError s!"server reply took longer than {seconds}s to arrive"
    else sockRecv peer

/-- `sock.sendall(data)`. -/
def sendall (data : Bytes) : Py Plaintext Unit := fun s =>
  match peer.sendall s.sent.length with
  | some err => .error err (s.transmit (data.take (peer.delivered s.sent.length)))
  | none => .ok () { s.transmit data with sent := s.sent ++ [data] }

variable (timeout : Option String)

/-- The loop of `_readline`, with what it has read so far. -/
def readlineLoop (buf : Bytes) : Py Plaintext Bytes :=
  if buf.getLast? = some newline then pure buf
  else if _full : maxStarttlsLineBytes ≤ buf.length then
    raise .valueError "STARTTLS reply line too long"
  else do
    match ← recv peer timeout with
    | none => pure buf
    | some byte => readlineLoop (buf ++ [byte])
termination_by maxStarttlsLineBytes - buf.length
decreasing_by
  rw [List.length_append, List.length_singleton]
  omega

/-- `_readline`. -/
def readline : Py Plaintext Bytes := readlineLoop peer timeout []

/-- Whether a line ends a reply: no `-` as its fourth character. -/
def endsReply (line : Bytes) : Bool := line.length < 4 || (line.drop 3).take 1 != ascii "-"

/-- The loop of `_read_reply`, for at most as many lines as its argument. -/
def readReplyLines : Nat → Py Plaintext Bytes
  | 0 => raise .valueError "STARTTLS reply has too many lines"
  | remaining + 1 => do
    let line ← readline peer timeout
    if endsReply line then pure line else readReplyLines remaining

/-- `_read_reply`. -/
def readReply : Py Plaintext Bytes := readReplyLines peer timeout maxStarttlsReplyLines

/-- `_expect`. -/
def expect (line start : Bytes) : Except PyErr Unit :=
  if bytesStartWith line start then .ok ()
  else .error ⟨.valueError, s!"unexpected STARTTLS reply: {reprBytes line}"⟩

/-- Read a reply of the SMTP kind and expect its code. -/
def expectReply (code : String) : Py Plaintext Unit := do
  let line ← readReply peer timeout
  orRaise (expect line (ascii code))

/-- Read one line and expect how it starts. -/
def expectLine (start : String) : Py Plaintext Unit := do
  let line ← readline peer timeout
  orRaise (expect line (ascii start))

/-- Whether a line of an IMAP reply is tagged. -/
def isTagged (line : Bytes) : Bool := bytesStartWith line (ascii "a001 ")

/-- The loop over the untagged lines of an IMAP reply. -/
def readTagged : Nat → Py Plaintext Unit
  | 0 => raise .valueError "STARTTLS reply has too many lines"
  | remaining + 1 => do
    let line ← readline peer timeout
    if line = [] then raise .valueError "connection closed during STARTTLS"
    else if isTagged line then orRaise (expect line (ascii "a001 OK"))
    else readTagged remaining

/-- `_run_starttls`. -/
def runStarttls (protocol : String) : Py Plaintext Unit :=
  let proto := lower protocol
  if proto = "smtp" then do
    expectReply peer timeout "220"
    sendall peer (ascii "EHLO certinspect\r\n")
    expectReply peer timeout "250"
    sendall peer (ascii "STARTTLS\r\n")
    expectReply peer timeout "220"
  else if proto = "ftp" then do
    expectReply peer timeout "220"
    sendall peer (ascii "AUTH TLS\r\n")
    expectReply peer timeout "234"
  else if proto = "pop3" then do
    expectLine peer timeout "+OK"
    sendall peer (ascii "STLS\r\n")
    expectLine peer timeout "+OK"
  else if proto = "imap" then do
    expectLine peer timeout "* OK"
    sendall peer (ascii "a001 STARTTLS\r\n")
    readTagged peer timeout maxStarttlsReplyLines
  else raise .valueError s!"unsupported STARTTLS protocol: {protocol}"

/-- `_negotiate_starttls`; its `finally` gives the socket back the timeout that it had. -/
def negotiateStarttls (protocol : String) : Py Plaintext Unit := runStarttls peer timeout protocol

end Negotiation

/-! ### Lines of the stream -/

section Lines

variable {peer : Peer}

/-- The byte at a position of the stream. -/
def Peer.Gives (peer : Peer) (p : Nat) (byte : UInt8) : Prop := peer.recv p = .byte byte

/-- A whole line, up to and including its newline; the last one of the stream may have none. -/
structure WholeLine (peer : Peer) (line : Bytes) (after : Nat) : Prop where
  short : line.length ≤ maxStarttlsLineBytes
  single : newline ∉ line.dropLast
  ended : line.getLast? = some newline ∨ peer.recv after = .closed

/-- From `p` to `q` the stream is these whole lines. -/
inductive Lines (peer : Peer) : Nat → List Bytes → Nat → Prop
  | nil (p : Nat) : Lines peer p [] p
  | cons {p q r : Nat} {line : Bytes} {rest : List Bytes} :
      Segment peer.Gives p line q → WholeLine peer line q → Lines peer q rest r →
      Lines peer p (line :: rest) r

theorem Lines.append {p q r : Nat} {first second : List Bytes} (before : Lines peer p first q)
    (after : Lines peer q second r) : Lines peer p (first ++ second) r := by
  induction before with
  | nil p => exact after
  | cons read whole _ ih => exact .cons read whole (ih after)

theorem Lines.segment {p q : Nat} {lines : List Bytes} (read : Lines peer p lines q) :
    Segment peer.Gives p lines.flatten q := by
  induction read with
  | nil p => exact .nil p
  | cons here _ _ ih => exact here.append ih

theorem Lines.short {p q : Nat} {lines : List Bytes} (read : Lines peer p lines q) :
    ∀ line ∈ lines, line.length ≤ maxStarttlsLineBytes := by
  induction read with
  | nil p => exact fun _ member => by cases member
  | cons _ whole _ ih => exact List.forall_mem_cons.mpr ⟨whole.short, ih⟩

/-- The last line read is whole where the reader stopped. -/
theorem Lines.ended {p q : Nat} {lines : List Bytes} {last : Bytes} (read : Lines peer p lines q)
    (ends : lines.getLast? = some last) : last.getLast? = some newline ∨ peer.recv q = .closed := by
  induction read with
  | nil p => cases ends
  | cons _ whole rest ih =>
    cases rest with
    | nil =>
      cases ends
      exact whole.ended
    | cons => exact ih (by rwa [List.getLast?_cons_cons] at ends)

/-- The lines of one reply: the first line that ends it is the last. -/
structure OneReply (ends : Bytes → Bool) (lines : List Bytes) (final : Bytes) : Prop where
  last : lines.getLast? = some final
  earlier : ∀ line ∈ lines.dropLast, ends line = false
  ends : ends final = true

section OneReply

variable {ends : Bytes → Bool} {line final : Bytes} {lines : List Bytes}

theorem OneReply.single (here : ends line = true) : OneReply ends [line] line :=
  ⟨rfl, fun _ absurd => (by cases absurd), here⟩

theorem OneReply.ne_nil (reply : OneReply ends lines final) : lines ≠ [] := by
  intro none
  have absurd := reply.last
  rw [none] at absurd
  cases absurd

/-- A line before it that does not end the reply. -/
theorem OneReply.cons (reply : OneReply ends lines final) (here : ends line = false) :
    OneReply ends (line :: lines) final where
  last := by rw [List.getLast?_cons, reply.last]; rfl
  earlier := by
    rw [List.dropLast_cons_of_ne_nil reply.ne_nil]
    exact List.forall_mem_cons.mpr ⟨here, reply.earlier⟩
  ends := reply.ends

end OneReply

/-- What an attempt to read one reply may consume, however it ends. -/
structure Consumed (peer : Peer) (p : Nat) (lines : List Bytes) (q : Nat) : Prop where
  segment : Segment peer.Gives p lines.flatten q
  short : ∀ line ∈ lines, line.length ≤ maxStarttlsLineBytes

theorem Lines.consumed {p q : Nat} {lines : List Bytes} (read : Lines peer p lines q) :
    Consumed peer p lines q := ⟨read.segment, read.short⟩

theorem Consumed.append {p q r : Nat} {first second : List Bytes}
    (before : Consumed peer p first q) (after : Consumed peer q second r) :
    Consumed peer p (first ++ second) r where
  segment := by
    rw [List.flatten_append]
    exact before.segment.append after.segment
  short line member := by
    rcases List.mem_append.mp member with member | member
    · exact before.short line member
    · exact after.short line member

end Lines

/-! ### What each loop consumes -/

section Loops

variable {peer : Peer} {timeout : Option String}

/-- **One `recv` consumes one byte**, and none when it returns nothing or raises. -/
theorem recv_consumes (s : Plaintext) :
    Outcome (recv peer timeout) s
      (fun chunk t => match chunk with
        | some byte => peer.Gives s.position byte ∧ t.position = s.position + 1
        | none => peer.recv s.position = .closed ∧ t = s)
      fun _ t => t = s := by
  have socket : Outcome (sockRecv peer) s
      (fun chunk t => match chunk with
        | some byte => peer.Gives s.position byte ∧ t.position = s.position + 1
        | none => peer.recv s.position = .closed ∧ t = s)
      fun _ t => t = s := by
    unfold Outcome sockRecv
    cases found : peer.recv s.position with
    | byte value => exact ⟨found, rfl⟩
    | closed => exact ⟨rfl, rfl⟩
    | failed err => exact rfl
  cases timeout with
  | none => exact socket
  | some seconds =>
    unfold recv
    rw [outcome_bind, outcome_get, outcome_ite]
    split
    · exact rfl
    · exact socket

/-- A byte that is neither among the earlier ones nor the last is not there. -/
theorem not_mem_of_dropLast {buf : Bytes} {byte : UInt8} (earlier : byte ∉ buf.dropLast)
    (last : buf.getLast? ≠ some byte) : byte ∉ buf := by
  intro member
  have nonempty : buf ≠ [] := List.ne_nil_of_mem member
  rw [← List.dropLast_append_getLast nonempty, List.mem_append, List.mem_singleton] at member
  rcases member with member | same
  · exact earlier member
  · exact last (by rw [List.getLast?_eq_getLast_of_ne_nil nonempty, same])

/-- The loop of `_readline`: what it has read so far has no newline before its last byte. -/
theorem readlineLoop_lines {p : Nat} (buf : Bytes) (s : Plaintext)
    (read : Segment peer.Gives p buf s.position) (short : buf.length ≤ maxStarttlsLineBytes)
    (single : newline ∉ buf.dropLast) :
    Outcome (readlineLoop peer timeout buf) s
      (fun line t => Lines peer p [line] t.position)
      fun _ t => ∃ bytes, Consumed peer p [bytes] t.position := by
  have consumed : Consumed peer p [buf] s.position :=
    ⟨by rwa [List.flatten_singleton], by simpa using short⟩
  rw [readlineLoop]
  split
  · rename_i ended
    exact .cons read ⟨short, single, Or.inl ended⟩ (.nil _)
  · rename_i unended
    split
    · exact ⟨buf, consumed⟩
    · rename_i room
      rw [outcome_bind]
      refine outcome_mono (recv_consumes s) ?_ ?_
      · intro chunk t found
        cases chunk with
        | none =>
          obtain ⟨closed, rfl⟩ := found
          exact .cons read ⟨short, single, Or.inr closed⟩ (.nil _)
        | some byte =>
          obtain ⟨gives, advanced⟩ := found
          have longer : Segment peer.Gives p (buf ++ [byte]) t.position := by
            rw [advanced]
            exact read.snoc gives
          have fits : (buf ++ [byte]).length ≤ maxStarttlsLineBytes := by
            rw [List.length_append, List.length_singleton]
            omega
          refine readlineLoop_lines (buf ++ [byte]) t longer fits ?_
          rw [List.dropLast_concat]
          exact not_mem_of_dropLast single unended
      · rintro raised t rfl
        exact ⟨buf, consumed⟩
termination_by maxStarttlsLineBytes - buf.length
decreasing_by
  rw [List.length_append, List.length_singleton]
  omega

/-- **`_readline` consumes one line.** -/
theorem readline_lines (s : Plaintext) :
    Outcome (readline peer timeout) s (fun line t => Lines peer s.position [line] t.position)
      fun _ t => ∃ bytes, Consumed peer s.position [bytes] t.position :=
  readlineLoop_lines [] s (.nil _) (Nat.zero_le _) (by simp)

/-- **The reply loop consumes at most as many lines as it is allowed**; the induction is on them. -/
theorem readReplyLines_lines (n : Nat) (s : Plaintext) :
    Outcome (readReplyLines peer timeout n) s
      (fun last t => ∃ lines, lines.length ≤ n ∧ OneReply endsReply lines last ∧
        Lines peer s.position lines t.position)
      fun _ t => ∃ lines, lines.length ≤ n ∧ Consumed peer s.position lines t.position := by
  induction n generalizing s with
  | zero => exact ⟨[], Nat.le_refl 0, (Lines.nil s.position).consumed⟩
  | succ n ih =>
    rw [readReplyLines, outcome_bind]
    refine outcome_mono (readline_lines s) ?_ ?_
    · intro line t here
      split
      · rename_i final
        exact ⟨[line], by simp, .single final, here⟩
      · rename_i continued
        refine outcome_mono (ih t) ?_ ?_
        · intro last u found
          obtain ⟨lines, few, reply, rest⟩ := found
          exact ⟨line :: lines, Nat.succ_le_succ few,
            reply.cons (Bool.eq_false_iff.mpr continued), here.append rest⟩
        · intro raised u found
          obtain ⟨lines, few, rest⟩ := found
          exact ⟨line :: lines, Nat.succ_le_succ few, here.consumed.append rest⟩
    · intro raised t found
      obtain ⟨bytes, consumed⟩ := found
      exact ⟨[bytes], by simp, consumed⟩

/-- **The IMAP loop consumes as many lines as it reads**, the last one tagged when it returns. -/
theorem readTagged_lines (n : Nat) (s : Plaintext) :
    Outcome (readTagged peer timeout n) s
      (fun _ t => ∃ lines final, lines.length ≤ n ∧ OneReply isTagged lines final ∧
        bytesStartWith final (ascii "a001 OK") = true ∧ Lines peer s.position lines t.position)
      fun _ t => ∃ lines, lines.length ≤ n ∧ Consumed peer s.position lines t.position := by
  induction n generalizing s with
  | zero => exact ⟨[], Nat.le_refl 0, (Lines.nil s.position).consumed⟩
  | succ n ih =>
    rw [readTagged, outcome_bind]
    refine outcome_mono (readline_lines s) ?_ ?_
    · intro line t here
      split
      · exact ⟨[line], by simp, here.consumed⟩
      · split
        · rename_i tagged
          unfold expect
          split
          · rename_i accepted
            exact ⟨[line], line, by simp, .single tagged, accepted, here⟩
          · exact ⟨[line], by simp, here.consumed⟩
        · rename_i untagged
          refine outcome_mono (ih t) ?_ ?_
          · intro _ u found
            obtain ⟨lines, final, few, reply, accepted, rest⟩ := found
            exact ⟨line :: lines, final, Nat.succ_le_succ few,
              reply.cons (Bool.eq_false_iff.mpr untagged), accepted, here.append rest⟩
          · intro raised u found
            obtain ⟨lines, few, rest⟩ := found
            exact ⟨line :: lines, Nat.succ_le_succ few, here.consumed.append rest⟩
    · intro raised t found
      obtain ⟨bytes, consumed⟩ := found
      exact ⟨[bytes], by simp, consumed⟩

end Loops

/-! ### The negotiation -/

section Negotiate

variable {peer : Peer} {timeout : Option String} {p total : Nat} {ends : Bytes → Bool}
  {awaited : List (Bytes → Bool)}

/-- Whether a line can end a reply of several lines: it has no `-` in fourth place. -/
def unhyphenated (data : Bytes) : Bool := data[3]? != some 45

/-- Whether a line can end a reply of one line. -/
def anyLine (_ : Bytes) : Bool := true

/-- Whether a line begins with the tag of the IMAP command. -/
def tagLine (line : Bytes) : Bool := line.take 5 == ascii "a001 "

/-- The replies a protocol awaits, each by the lines that can end it. -/
def awaitedReplies (protocol : String) : List (Bytes → Bool) :=
  let proto := lower protocol
  if proto = "smtp" then [unhyphenated, unhyphenated, unhyphenated]
  else if proto = "ftp" then [unhyphenated, unhyphenated]
  else if proto = "pop3" then [anyLine, anyLine]
  else if proto = "imap" then [anyLine, tagLine]
  else []

theorem endsReply_eq : endsReply = unhyphenated := by
  have dash : ascii "-" = [45] := by decide
  funext line
  unfold endsReply unhyphenated
  rw [dash]
  match line with
  | [] | [_] | [_, _] | [_, _, _] => rfl
  | _ :: _ :: _ :: fourth :: rest =>
    have long : ¬ rest.length + 1 + 1 + 1 + 1 < 4 := by omega
    by_cases same : fourth = 45 <;> simp [long, same, bne]

theorem isTagged_eq : isTagged = tagLine := by
  funext line
  unfold isTagged tagLine bytesStartWith
  rw [Bool.eq_iff_iff, List.isPrefixOf_iff_prefix, List.prefix_iff_eq_take, beq_iff_eq, eq_comm]
  exact Iff.rfl

/-- The awaited replies were read, one after the other: whole lines, the last line of each reply the
first that can end it, and at most 100 lines each. -/
def Answered (peer : Peer) (p : Nat) (awaited : List (Bytes → Bool)) (q : Nat) : Prop :=
  ∃ replies : List (List Bytes),
    List.Forall₂ (fun ends reply => ∃ final, OneReply ends reply final) awaited replies ∧
    Lines peer p replies.flatten q ∧ ∀ reply ∈ replies, reply.length ≤ maxStarttlsReplyLines

/-- At most so many replies were begun, of at most 100 lines of at most 8192 bytes each. -/
def Attempted (peer : Peer) (p k q : Nat) : Prop :=
  ∃ replies : List (List Bytes), replies.length ≤ k ∧
    Segment peer.Gives p replies.flatten.flatten q ∧
    ∀ reply ∈ replies, reply.length ≤ maxStarttlsReplyLines ∧
      ∀ line ∈ reply, line.length ≤ maxStarttlsLineBytes

theorem Answered.attempted {q : Nat} (answered : Answered peer p awaited q)
    (few : awaited.length ≤ total) : Attempted peer p total q := by
  obtain ⟨replies, each, lines, short⟩ := answered
  refine ⟨replies, each.length_eq ▸ few, lines.segment, fun reply member => ⟨short reply member, ?_⟩⟩
  exact fun line inside => lines.short line (List.mem_flatten.mpr ⟨reply, member, inside⟩)

/-- One reply more. -/
theorem Answered.reply {q r : Nat} {lines : List Bytes} {final : Bytes}
    (answered : Answered peer p awaited q) (reply : OneReply ends lines final)
    (read : Lines peer q lines r) (few : lines.length ≤ maxStarttlsReplyLines) :
    Answered peer p (awaited ++ [ends]) r := by
  obtain ⟨replies, each, before, short⟩ := answered
  refine ⟨replies ++ [lines], List.rel_append each (.cons ⟨final, reply⟩ .nil), ?_, ?_⟩
  · rw [List.flatten_append, List.flatten_singleton]
    exact before.append read
  · intro other member
    rcases List.mem_append.mp member with member | member
    · exact short other member
    · rw [List.mem_singleton.mp member]
      exact few

/-- One reply begun. -/
theorem Answered.attempt {q r : Nat} {lines : List Bytes} (answered : Answered peer p awaited q)
    (read : Consumed peer q lines r) (few : lines.length ≤ maxStarttlsReplyLines)
    (room : awaited.length + 1 ≤ total) : Attempted peer p total r := by
  obtain ⟨replies, count, segment, each⟩ := answered.attempted (Nat.le_refl _)
  refine ⟨replies ++ [lines], by simp; omega, ?_, ?_⟩
  · rw [List.flatten_append, List.flatten_append, List.flatten_singleton]
    exact segment.append read.segment
  · intro reply member
    rcases List.mem_append.mp member with member | member
    · exact each reply member
    · rw [List.mem_singleton.mp member]
      exact ⟨few, read.short⟩

/-- Reading one reply, whatever is expected of it. -/
theorem expectReply_answers {s : Plaintext} (code : String)
    (answered : Answered peer p awaited s.position) (room : awaited.length + 1 ≤ total) :
    Outcome (expectReply peer timeout code) s
      (fun _ t => Answered peer p (awaited ++ [unhyphenated]) t.position)
      fun _ t => Attempted peer p total t.position := by
  unfold expectReply readReply
  rw [outcome_bind]
  refine outcome_mono (readReplyLines_lines maxStarttlsReplyLines s) ?_ ?_
  · intro last t found
    obtain ⟨lines, few, reply, read⟩ := found
    have next := answered.reply (endsReply_eq ▸ reply) read few
    unfold expect
    split
    · exact next
    · exact next.attempted (by simpa using room)
  · intro raised t found
    obtain ⟨lines, few, consumed⟩ := found
    exact answered.attempt consumed few room

theorem expectLine_answers {s : Plaintext} (start : String)
    (answered : Answered peer p awaited s.position) (room : awaited.length + 1 ≤ total) :
    Outcome (expectLine peer timeout start) s
      (fun _ t => Answered peer p (awaited ++ [anyLine]) t.position)
      fun _ t => Attempted peer p total t.position := by
  unfold expectLine
  rw [outcome_bind]
  refine outcome_mono (readline_lines s) ?_ ?_
  · intro line t read
    have whole : OneReply anyLine [line] line := .single rfl
    have next := answered.reply whole read (by simp [maxStarttlsReplyLines])
    unfold expect
    split
    · exact next
    · exact next.attempted (by simpa using room)
  · intro raised t found
    obtain ⟨bytes, consumed⟩ := found
    exact answered.attempt consumed (by simp [maxStarttlsReplyLines]) room

theorem readTagged_answers {s : Plaintext} (answered : Answered peer p awaited s.position)
    (room : awaited.length + 1 ≤ total) :
    Outcome (readTagged peer timeout maxStarttlsReplyLines) s
      (fun _ t => Answered peer p (awaited ++ [tagLine]) t.position)
      fun _ t => Attempted peer p total t.position := by
  refine outcome_mono (readTagged_lines maxStarttlsReplyLines s) ?_ ?_
  · intro _ t found
    obtain ⟨lines, final, few, reply, _, read⟩ := found
    exact answered.reply (isTagged_eq ▸ reply) read few
  · intro raised t found
    obtain ⟨lines, few, consumed⟩ := found
    exact answered.attempt consumed few room

/-- Sending a command consumes nothing. -/
theorem sendall_then {s : Plaintext} {data : Bytes} {rest : Py Plaintext Unit}
    {Q : Unit → Plaintext → Prop} (answered : Answered peer p awaited s.position)
    (room : awaited.length ≤ total)
    (continues : ∀ t, Answered peer p awaited t.position →
      Outcome rest t Q fun _ u => Attempted peer p total u.position) :
    Outcome (do sendall peer data; rest) s Q fun _ t => Attempted peer p total t.position := by
  rw [outcome_bind]
  unfold Outcome sendall
  cases peer.sendall s.sent.length with
  | some err => exact answered.attempted room
  | none => exact continues _ answered

/-- **What a negotiation consumes**: the replies that the protocol awaits when it returns, at most
that many when it raises. -/
theorem runStarttls_answers (protocol : String) (s : Plaintext) :
    Outcome (runStarttls peer timeout protocol) s
      (fun _ t => awaitedReplies protocol ≠ [] ∧
        Answered peer s.position (awaitedReplies protocol) t.position)
      fun _ t => Attempted peer s.position (awaitedReplies protocol).length t.position := by
  have start : Answered peer s.position [] s.position :=
    ⟨[], .nil, .nil _, fun _ absurd => by cases absurd⟩
  unfold runStarttls awaitedReplies
  simp only
  split
  · rw [outcome_bind]
    refine outcome_mono (expectReply_answers "220" start (by decide)) ?_ fun _ _ tried => tried
    intro _ t first
    refine sendall_then first (by decide) fun t first => ?_
    rw [outcome_bind]
    refine outcome_mono (expectReply_answers "250" first (by decide)) ?_ fun _ _ tried => tried
    intro _ t second
    refine sendall_then second (by decide) fun t second => ?_
    refine outcome_mono (expectReply_answers "220" second (by decide)) ?_ fun _ _ tried => tried
    exact fun _ _ third => ⟨List.cons_ne_nil _ _, third⟩
  split
  · rw [outcome_bind]
    refine outcome_mono (expectReply_answers "220" start (by decide)) ?_ fun _ _ tried => tried
    intro _ t first
    refine sendall_then first (by decide) fun t first => ?_
    refine outcome_mono (expectReply_answers "234" first (by decide)) ?_ fun _ _ tried => tried
    exact fun _ _ second => ⟨List.cons_ne_nil _ _, second⟩
  split
  · rw [outcome_bind]
    refine outcome_mono (expectLine_answers "+OK" start (by decide)) ?_ fun _ _ tried => tried
    intro _ t first
    refine sendall_then first (by decide) fun t first => ?_
    refine outcome_mono (expectLine_answers "+OK" first (by decide)) ?_ fun _ _ tried => tried
    exact fun _ _ second => ⟨List.cons_ne_nil _ _, second⟩
  split
  · rw [outcome_bind]
    refine outcome_mono (expectLine_answers "* OK" start (by decide)) ?_ fun _ _ tried => tried
    intro _ t first
    refine sendall_then first (by decide) fun t first => ?_
    refine outcome_mono (readTagged_answers first (by decide)) ?_ fun _ _ tried => tried
    exact fun _ _ second => ⟨List.cons_ne_nil _ _, second⟩
  · exact start.attempted (Nat.zero_le _)

variable (peer timeout)

/-- **The negotiation is bounded and never over-reads.** It returns or raises; either way it has
consumed at most 100 lines of at most 8192 bytes for each awaited reply. When it returns, what it
has consumed is the awaited replies, each up to the first line that ends it, and the stream is left
for the TLS handshake where the last of these lines ends: at its newline, or at the end of the
stream. -/
theorem negotiateStarttls_bounded (protocol : String) (s : Plaintext) :
    Outcome (negotiateStarttls peer timeout protocol) s
      (fun _ t => Attempted peer s.position (awaitedReplies protocol).length t.position ∧
        ∃ (replies : List (List Bytes)) (last : Bytes),
          List.Forall₂ (fun ends reply => ∃ final, OneReply ends reply final)
            (awaitedReplies protocol) replies ∧
          Lines peer s.position replies.flatten t.position ∧
          (∀ reply ∈ replies, reply.length ≤ maxStarttlsReplyLines) ∧
          replies.flatten.getLast? = some last ∧
          (last.getLast? = some newline ∨ peer.recv t.position = .closed))
      fun _ t => Attempted peer s.position (awaitedReplies protocol).length t.position := by
  refine outcome_mono (runStarttls_answers protocol s) ?_ fun _ _ tried => tried
  intro _ t found
  obtain ⟨awaits, answered⟩ := found
  refine ⟨answered.attempted (Nat.le_refl _), ?_⟩
  obtain ⟨replies, each, lines, short⟩ := answered
  have some : replies.flatten ≠ [] := by
    intro none
    generalize awaitedReplies protocol = awaited at each awaits
    cases each with
    | nil => exact awaits rfl
    | cons first _ =>
      obtain ⟨final, first⟩ := first
      exact first.ne_nil (List.flatten_eq_nil_iff.mp none _ List.mem_cons_self)
  have ends := List.getLast?_eq_getLast_of_ne_nil some
  exact ⟨replies, _, each, lines, short, ends, lines.ended ends⟩

end Negotiate

end Certinspect.Fetch
