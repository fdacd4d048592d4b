import Minghe.Lib.Framing
import Minghe.Sip.Parser

/-!
# Messages out of a TCP stream

Model of `frame_sip_message` (`parser.rs`) and of the read loop of `handle_connection` (`server.rs`).
`usize` has 64 bits.

`frameSipMessage` looks for the first `CRLF CRLF`, reads the header part in front of it as UTF-8 and
takes the value of its `Content-Length` lines. Everything it decides depends on the header part, and
on nothing else but whether enough bytes are there; so it is a `Framer` (`sipFramer`), and the read
loop is the reading of `Minghe.Lib.Framing` (`readLoop_eq`).

Results:
* `frameSipMessage_eq`: the framer never panics, and computes `frame`.
* `read_loop_stream`: **framing does not depend on TCP segmentation**.
-/

namespace Minghe.Sip

open Minghe.Lib

/-- `SipFrameResult`. -/
abbrev SipFrameResult := Frame

/-- `header_end_marker`. -/
def headerEndMarker : List UInt8 := utf8 headerEnd

/-- The loop of `frame_sip_message` over the header lines, with the value found so far; `none` is the
early return of `Invalid`. -/
def contentLengthLoop : List Str → Option Nat → Checked (Option (Option Nat))
  | [], contentLength => .ok (some contentLength)
  | line :: lines, contentLength => do
    match ← Res.afterName contentLengthNames (trim line) with
    | none => contentLengthLoop lines contentLength
    | some value =>
      match parseUnsigned 64 (trim value) with
      | none => .ok none
      | some parsed =>
        if contentLength.any (· ≠ parsed) then .ok none
        else contentLengthLoop lines (some parsed)

/-- `frame_sip_message`. -/
def frameSipMessage (buf : List UInt8) : Checked SipFrameResult :=
  if buf.length < 4 then .ok .incomplete
  else match splitAtFirst headerEndMarker buf with
    | none => .ok .incomplete
    | some (head, _) =>
      match fromUtf8 head with
      | none => .ok .invalid
      | some headerText => do
        match ← contentLengthLoop (lines headerText) none with
        | none => .ok .invalid
        | some contentLength =>
          let totalLength := head.length + 4 + contentLength.getD 0
          -- `checked_add`
          if totalLength < 2 ^ 64 then
            .ok (if totalLength ≤ buf.length then .complete totalLength else .incomplete)
          else .ok .invalid

/-! ## What the framer computes -/

/-- The value of a header line that gives the length of the body. -/
def lengthField (line : Str) : Option Str := (headField contentLengthNames (trim line)).map trim

/-- The length of the body that header lines give: `none` if one of them is no number or two differ,
`some none` if there is none. -/
def contentLengthOf : List Str → Option Nat → Option (Option Nat)
  | [], acc => some acc
  | line :: lines, acc =>
    match lengthField line with
    | none => contentLengthOf lines acc
    | some value =>
      match parseUnsigned 64 value with
      | none => none
      | some n => if acc.any (· ≠ n) then none else contentLengthOf lines (some n)

theorem contentLengthLoop_eq : ∀ (ls : List Str) (acc : Option Nat),
    contentLengthLoop ls acc = .ok (contentLengthOf ls acc)
  | [], _ => rfl
  | line :: ls, acc => by
    have hname : ∀ p ∈ contentLengthNames, Plain p := by decide
    rw [contentLengthLoop, afterName_eq hname, contentLengthOf, lengthField]
    simp only [bind, Except.bind]
    cases headField contentLengthNames (trim line) with
    | none => exact contentLengthLoop_eq ls acc
    | some value =>
      simp only [Option.map_some]
      cases parseUnsigned 64 (trim value) with
      | none => rfl
      | some n =>
        simp only
        split
        · rfl
        · exact contentLengthLoop_eq ls (some n)

/-- The length of the whole message that the header part `head` announces, with its empty line and
its body; `none` if the header part is malformed. -/
def announced (head : List UInt8) : Option Nat :=
  match fromUtf8 head with
  | none => none
  | some headerText =>
    match contentLengthOf (lines headerText) none with
    | none => none
    | some contentLength =>
      if head.length + 4 + contentLength.getD 0 < 2 ^ 64 then
        some (head.length + 4 + contentLength.getD 0)
      else none

/-- `frame_sip_message`, as a function of what the header part announces. -/
def frame (buf : List UInt8) : SipFrameResult :=
  match splitAtFirst headerEndMarker buf with
  | none => .incomplete
  | some (head, _) =>
    match announced head with
    | none => .invalid
    | some n => if n ≤ buf.length then .complete n else .incomplete

/-- **The framer never panics.** -/
theorem frameSipMessage_eq (buf : List UInt8) : frameSipMessage buf = .ok (frame buf) := by
  unfold frameSipMessage frame
  split
  · rename_i hlen
    -- four bytes do not fit into fewer than four
    have hnone : splitAtFirst headerEndMarker buf = none := by
      rw [splitAtFirst_eq_none]
      intro h
      have := h.length_le
      have : headerEndMarker.length = 4 := by decide
      omega
    rw [hnone]
  · cases splitAtFirst headerEndMarker buf with
    | none => rfl
    | some p =>
      simp only [announced]
      cases fromUtf8 p.1 with
      | none => rfl
      | some headerText =>
        simp only [contentLengthLoop_eq, bind, Except.bind]
        cases contentLengthOf (lines headerText) none with
        | none => rfl
        | some contentLength =>
          simp only
          split <;> rfl

/-- A header part is shorter than the message it announces. -/
theorem announced_gt {head : List UInt8} {n : Nat} (h : announced head = some n) :
    head.length + 4 ≤ n := by
  unfold announced at h
  split at h
  · cases h
  · split at h
    · cases h
    · split at h
      · cases h; omega
      · cases h

/-- **`frame_sip_message` is a framer**: its answers do not change when more bytes come. -/
def sipFramer : Framer UInt8 where
  frame := frame
  frame_nil := rfl
  complete_pos {b n} h := by
    unfold frame at h
    split at h
    · cases h
    · split at h
      · cases h
      · rename_i hn
        split at h
        · cases h
          have := announced_gt hn
          omega
        · cases h
  complete_append {b n} x h := by
    unfold frame at h ⊢
    split at h
    · cases h
    · rename_i head rest hs
      rw [splitAtFirst_append x hs]
      simp only
      split at h
      · cases h
      · rename_i n' hn
        split at h
        · rename_i hle
          cases h
          rw [if_pos (by rw [List.length_append]; omega)]
        · cases h
  invalid_append {b} x h := by
    unfold frame at h ⊢
    split at h
    · cases h
    · rename_i head rest hs
      rw [splitAtFirst_append x hs]
      simp only
      split at h
      · rfl
      · split at h <;> cases h

/-! ## The read loop -/

/-- `buffer.len() > 65536`. -/
def bufferLimit : Nat := 65536

/-- The inner loop: take complete messages off the buffer. The messages, what is left, and whether the
loop met an invalid frame. -/
def extractLoop (buffer : List UInt8) : Checked (List (List UInt8) × List UInt8 × Bool) :=
  match _h : frameSipMessage buffer with
  | .error e => .error e
  | .ok (.complete msgLen) => do
    let (messages, rest, invalid) ← extractLoop (buffer.drop msgLen)
    .ok (buffer.take msgLen :: messages, rest, invalid)
  | .ok .incomplete => .ok ([], buffer, false)
  | .ok .invalid => .ok ([], buffer, true)
termination_by buffer.length
decreasing_by
  have hf : frame buffer = .complete msgLen := Except.ok.inj ((frameSipMessage_eq buffer).symm.trans _h)
  have := sipFramer.complete_pos hf
  rw [List.length_drop]
  omega

/-- One turn of `'read_loop`: a read of `read_buf[..n]`, the inner loop, and the check for overflow. A
connection that has left the loop reads no more. -/
def readStep (conn : Framer.Reader UInt8) (read : List UInt8) : Checked (Framer.Reader UInt8) :=
  if conn.alive then do
    let (messages, rest, invalid) ← extractLoop (conn.buffer ++ read)
    .ok ⟨rest, conn.messages ++ messages, !(invalid || decide (bufferLimit < rest.length))⟩
  else .ok conn

/-- `'read_loop` of `handle_connection`, over the reads of a connection. -/
def readLoop (conn : Framer.Reader UInt8) (reads : List (List UInt8)) :
    Checked (Framer.Reader UInt8) :=
  reads.foldlM readStep conn

/-- **The inner loop ends**, and drains the buffer. -/
theorem extractLoop_eq (buffer : List UInt8) :
    extractLoop buffer = .ok (sipFramer.drain buffer) := by
  rw [extractLoop]
  split
  · rename_i h
    rw [frameSipMessage_eq] at h
    cases h
  · rename_i msgLen h
    have hf : frame buffer = .complete msgLen := Except.ok.inj ((frameSipMessage_eq buffer).symm.trans h)
    have hpos := sipFramer.complete_pos hf
    rw [extractLoop_eq (buffer.drop msgLen), Framer.drain_of_complete (F := sipFramer) hf]
    rfl
  · rename_i h
    have hf : frame buffer = .incomplete := Except.ok.inj ((frameSipMessage_eq buffer).symm.trans h)
    rw [Framer.drain_of_incomplete (F := sipFramer) hf]
  · rename_i h
    have hf : frame buffer = .invalid := Except.ok.inj ((frameSipMessage_eq buffer).symm.trans h)
    rw [Framer.drain_of_invalid (F := sipFramer) hf]
termination_by buffer.length
decreasing_by
  rw [List.length_drop]
  omega

/-- One turn reads one piece. -/
theorem readStep_eq (conn : Framer.Reader UInt8) (read : List UInt8) :
    readStep conn read = .ok (sipFramer.read bufferLimit conn read) := by
  unfold readStep Framer.read
  split
  · rw [extractLoop_eq]
    rfl
  · rfl

/-- **The read loop is the reading of a stream.** -/
theorem readLoop_eq : ∀ (conn : Framer.Reader UInt8) (reads : List (List UInt8)),
    readLoop conn reads = .ok (sipFramer.readAll bufferLimit conn reads)
  | _, [] => rfl
  | conn, read :: reads => by
    unfold readLoop
    rw [List.foldlM_cons, readStep_eq]
    exact readLoop_eq (sipFramer.read bufferLimit conn read) reads

/-- **Framing does not depend on TCP segmentation.** However the stream of the messages `ms` and of a
tail `t` is cut into reads, the read loop returns (so that the inner loop ends after every read), has
extracted exactly `ms` in order, and has dropped the connection after the reads `done` iff these
reach an invalid frame behind `ms`. -/
theorem read_loop_stream {ms reads : List (List UInt8)} {t : List UInt8}
    (hms : ∀ m ∈ ms, frameSipMessage m = .ok (.complete m.length) ∧ m.length ≤ bufferLimit)
    (ht : Framer.Tail sipFramer bufferLimit t) (hreads : reads.flatten = ms.flatten ++ t) :
    (∃ conn, readLoop .start reads = .ok conn ∧ conn.messages = ms) ∧
      ∀ done, done <+: reads → ∃ conn, readLoop .start done = .ok conn ∧
        (conn.alive = false ↔
          ∃ u, done.flatten = ms.flatten ++ u ∧ frameSipMessage u = .ok .invalid) := by
  have hms' : ∀ m ∈ ms, sipFramer.Message m ∧ m.length ≤ bufferLimit := fun m hm => by
    obtain ⟨h, hlen⟩ := hms m hm
    rw [frameSipMessage_eq] at h
    exact ⟨Except.ok.inj h, hlen⟩
  obtain ⟨hmsgs, hclose⟩ := Framer.read_stream hms' ht hreads
  refine ⟨⟨_, readLoop_eq .start reads, hmsgs⟩, fun done hd => ⟨_, readLoop_eq .start done, ?_⟩⟩
  rw [hclose done hd]
  simp only [frameSipMessage_eq, Except.ok.injEq]
  rfl

/-- A request and a malformed one behind it, cut inside the empty line and inside the body. -/
theorem read_loop_stream_concrete :
    (∃ conn, readLoop .start [utf8 "A b\r\nl: 2\r\n\r".toList, utf8 "\nx".toList,
        utf8 "yC\r\nl: -\r\n\r\n".toList] = .ok conn ∧
      conn.messages = [utf8 "A b\r\nl: 2\r\n\r\nxy".toList]) ∧
    ∀ done, done <+: [utf8 "A b\r\nl: 2\r\n\r".toList, utf8 "\nx".toList,
        utf8 "yC\r\nl: -\r\n\r\n".toList] →
      ∃ conn, readLoop .start done = .ok conn ∧ (conn.alive = false ↔
        ∃ u, done.flatten = [utf8 "A b\r\nl: 2\r\n\r\nxy".toList].flatten ++ u ∧
          frameSipMessage u = .ok .invalid) :=
  read_loop_stream (t := utf8 "C\r\nl: -\r\n\r\n".toList) (by decide +kernel)
    (.invalid (by decide +kernel) (by decide +kernel)) (by decide +kernel)

end Minghe.Sip
