import Minghe.Sip.Framing
import Minghe.Sip.Server

/-!
# Keep-alives in front of a message

A client may send `CRLF` at any time, and `process_sip_message` ignores a text that is blank. But
`frame_sip_message` knows only messages that end in an empty line: it takes two `CRLF` for a message without
lines, and a single one for the first line of what follows.

* `dispatch`: what `process_sip_message` takes a text for.
* `dispatched`: what it is given of the frames of a connection.

Results:
* `streamOf_keepAlives`: what the framer makes of a message behind any number of keep-alives.
* `keep_alives_iff`: **when keep-alives are harmless**.
-/

namespace Minghe.Sip

open Minghe.Lib

/-! ## What is dispatched -/

/-- What `process_sip_message` takes a text for. -/
inductive Dispatch where
  | request (method : Str)
  | response
  deriving DecidableEq, Repr

/-- The branch of `process_sip_message`, if it gets to one. -/
def dispatch (text : Str) : Option Dispatch :=
  if (trim text).isEmpty then none
  else if isRequest text then (extractMethod text).map .request
  else if isResponse text then some .response
  else none

/-- `handle_connection`, for the frames that were extracted: those that are UTF-8 are processed. -/
def dispatched (messages : List (List UInt8)) : List (Str × Dispatch) :=
  messages.filterMap fun msgData => (fromUtf8 msgData).bind fun msgText => (dispatch msgText).map (msgText, ·)

/-- What is dispatched of a buffer. -/
def dispatchedFrom (buffer : List UInt8) : Checked (List (Str × Dispatch)) := do
  let (messages, _, _) ← extractLoop buffer
  return dispatched messages

/-- `k` keep-alives. -/
def keepAlives (k : Nat) : List UInt8 := (List.replicate k (utf8 crlf)).flatten

/-- A message whose first line is not blank. -/
def readable (m : List UInt8) : Bool :=
  (fromUtf8 m).any fun text => (firstLine text).any fun line => !line.isEmpty

/-- A message without the `CRLF` that it may begin with. -/
def withoutCrlf (m : List UInt8) : List UInt8 := if utf8 crlf <+: m then m.drop 2 else m

/-- The REGISTER branch. -/
theorem isRegister_eq (text : Str) :
    ServerState.isRegister text = decide (dispatch text = some (.request "REGISTER".toList)) := by
  unfold ServerState.isRegister dispatch
  cases (trim text).isEmpty with
  | true => rfl
  | false =>
    cases hreq : isRequest text with
    | false =>
      rw [if_neg Bool.false_ne_true, if_neg Bool.false_ne_true]
      symm
      refine decide_eq_false ?_
      split <;> exact nofun
    | true =>
      rw [if_neg Bool.false_ne_true, if_pos rfl]
      cases extractMethod text with
      | none => rfl
      | some method =>
        rw [Option.map_some]
        simp

/-- **A text gets to a branch** iff its first line is not blank. -/
theorem dispatch_isSome (text : Str) :
    (dispatch text).isSome = (firstLine text).any fun line => !line.isEmpty := by
  cases hfirst : firstLine text with
  | none =>
    unfold dispatch isRequest isResponse
    rw [hfirst]
    split <;> rfl
  | some line =>
    rw [Option.any_some]
    cases line with
    | nil =>
      unfold dispatch isRequest extractMethod
      rw [hfirst]
      split <;> rfl
    | cons c line =>
      -- the text is not blank either
      obtain ⟨l, hl, htrim⟩ : ∃ l ∈ lines text, trim l = c :: line := by
        obtain ⟨l, hl, he⟩ := Option.map_eq_some_iff.mp hfirst
        exact ⟨l, List.mem_of_mem_head? hl, he⟩
      obtain ⟨d, t, he, hblank, -⟩ := (trim_cases l).resolve_left (by rw [htrim]; exact List.cons_ne_nil _ _)
      have hmem : d ∈ text := mem_of_mem_lines hl (mem_of_mem_trim (by rw [he]; exact List.mem_cons_self))
      have hfilled : (trim text).isEmpty = false := by
        rw [List.isEmpty_eq_false_iff]
        intro hnil
        rw [trim_eq_nil.mp hnil d hmem] at hblank
        cases hblank
      unfold dispatch
      rw [hfilled, if_neg Bool.false_ne_true]
      by_cases hversion : sipVersion <+: c :: line
      · have hreq : isRequest text = false := by simp [isRequest, hfirst, hversion]
        have hresp : isResponse text = true := by simp [isResponse, hfirst, hversion]
        rw [hreq, hresp]
        rfl
      · have hreq : isRequest text = true := by simp [isRequest, hfirst, hversion]
        have hwords : splitWhitespace (c :: line) ≠ [] := by
          rw [ne_eq, splitWhitespace_eq_nil]
          intro hall
          rw [← htrim, he] at hall
          rw [hall d List.mem_cons_self] at hblank
          cases hblank
        obtain ⟨word, words, hcons⟩ := List.exists_cons_of_ne_nil hwords
        have hmethod : extractMethod text = some (toUppercase word) := by
          simp [extractMethod, hfirst, hversion, hcons]
        rw [hreq, if_pos rfl, hmethod]
        rfl

theorem dispatched_append (ms ms' : List (List UInt8)) :
    dispatched (ms ++ ms') = dispatched ms ++ dispatched ms' := List.filterMap_append

theorem dispatched_singleton (m : List UInt8) :
    dispatched [m] = ((fromUtf8 m).bind fun msgText => (dispatch msgText).map (msgText, ·)).toList := by
  unfold dispatched
  rw [List.filterMap_cons, List.filterMap_nil]
  split <;> simp_all

/-- **A frame is dispatched once, or not at all.** -/
theorem length_dispatched_singleton (m : List UInt8) : (dispatched [m]).length = if readable m then 1 else 0 := by
  rw [dispatched_singleton, readable]
  cases fromUtf8 m with
  | none => rfl
  | some text =>
    rw [Option.any_some, ← dispatch_isSome, Option.bind_some]
    cases dispatch text <;> rfl

theorem dispatched_eq_nil {m : List UInt8} : dispatched [m] = [] ↔ readable m = false := by
  rw [← List.length_eq_zero_iff, length_dispatched_singleton]
  cases readable m <;> simp

/-! ## A line end in front of a message -/

/-- A text with a line end in front of it. -/
theorem fromUtf8_crlf (b : List UInt8) : fromUtf8 (utf8 crlf ++ b) = (fromUtf8 b).map (crlf ++ ·) := by
  cases h : fromUtf8 (utf8 crlf ++ b) with
  | none =>
    cases hb : fromUtf8 b with
    | none => rfl
    | some t =>
      rw [fromUtf8_eq_some] at hb
      rw [hb, ← utf8_append, fromUtf8_utf8] at h
      cases h
  | some t =>
    rw [fromUtf8_eq_some] at h
    obtain ⟨t', rfl⟩ : crlf <+: t := (utf8_isPrefix (by decide)).mp ⟨b, h⟩
    rw [utf8_append] at h
    rw [List.append_cancel_left h, fromUtf8_utf8]
    rfl

/-- The first line is empty, so the message is not dispatched. -/
theorem readable_crlf (b : List UInt8) : readable (utf8 crlf ++ b) = false := by
  unfold readable
  rw [fromUtf8_crlf]
  cases fromUtf8 b with
  | none => rfl
  | some t =>
    have hlines : lines (crlf ++ t) = [] :: lines t := lines_crlf (l := []) t List.not_mem_nil
    rw [Option.map_some, Option.any_some, firstLine, hlines]
    rfl

/-- The header part gets two bytes longer. -/
theorem announced_crlf (head : List UInt8) : announced (utf8 crlf ++ head) =
    (announced head).bind fun n => if n + 2 < 2 ^ 64 then some (n + 2) else none := by
  have hlen : (utf8 crlf ++ head).length = head.length + 2 := by
    rw [List.length_append, Nat.add_comm]
    rfl
  unfold announced
  rw [fromUtf8_crlf]
  cases fromUtf8 head with
  | none => rfl
  | some t =>
    have hlines : lines (crlf ++ t) = [] :: lines t := lines_crlf (l := []) t List.not_mem_nil
    have hempty : contentLengthOf ([] :: lines t) none = contentLengthOf (lines t) none := rfl
    rw [Option.map_some]
    dsimp only
    rw [hlines, hempty, hlen]
    cases contentLengthOf (lines t) none with
    | none => rfl
    | some contentLength =>
      dsimp only
      split
      · rename_i hlt
        rw [if_pos (by omega), Option.bind_some, if_pos (by omega)]
        congr 1
        omega
      · rename_i hge
        split
        · rw [Option.bind_some, if_neg (by omega)]
        · rfl

/-- The end of the header part stays where it is, unless there is another line end. -/
theorem splitAtFirst_crlf {b : List UInt8} (h : ¬ utf8 crlf <+: b) :
    splitAtFirst headerEndMarker (utf8 crlf ++ b) =
      (splitAtFirst headerEndMarker b).map fun p => (utf8 crlf ++ p.1, p.2) := by
  have hfirst : ¬ headerEndMarker <+: 13 :: 10 :: b := fun hpre =>
    h ((List.prefix_append_right_inj [13, 10]).mp hpre)
  have hsecond : ¬ headerEndMarker <+: 10 :: b := by
    intro hpre
    exact absurd (List.cons_prefix_cons.mp hpre).1 (by decide)
  change splitAtFirst headerEndMarker (13 :: 10 :: b) = _
  rw [splitAtFirst, if_neg hfirst, splitAtFirst, if_neg hsecond, Option.map_map]
  rfl

/-- **The frame of a message with a line end in front of it.** -/
theorem frame_crlf {b : List UInt8} (h : ¬ utf8 crlf <+: b) (n : Nat) :
    frame (utf8 crlf ++ b) = .complete (n + 2) ↔ frame b = .complete n ∧ n + 2 < 2 ^ 64 := by
  have hlen : (utf8 crlf ++ b).length = b.length + 2 := by
    rw [List.length_append, Nat.add_comm]
    rfl
  unfold frame
  rw [splitAtFirst_crlf h]
  cases splitAtFirst headerEndMarker b with
  | none => simp
  | some p =>
    rw [Option.map_some]
    dsimp only
    rw [announced_crlf, hlen]
    cases announced p.1 with
    | none => simp
    | some n' =>
      rw [Option.bind_some]
      by_cases hlt : n' + 2 < 2 ^ 64
      · rw [if_pos hlt]
        by_cases hle : n' ≤ b.length
        · simp only [if_pos hle, if_pos (Nat.add_le_add_right hle 2), Frame.complete.injEq]
          omega
        · simp [hle]
      · rw [if_neg hlt]
        by_cases hle : n' ≤ b.length
        · simp only [if_pos hle, Frame.complete.injEq]
          simp
          omega
        · simp [hle]

/-! ## Keep-alives -/

/-- Two keep-alives are a message. -/
theorem message_blank : sipFramer.Message headerEndMarker := by
  show frame headerEndMarker = .complete 4
  decide +kernel

theorem headerEndMarker_eq : headerEndMarker = utf8 crlf ++ utf8 crlf := by decide

theorem keepAlives_even (j : Nat) : keepAlives (2 * j) = (List.replicate j headerEndMarker).flatten := by
  induction j with
  | zero => rfl
  | succ j ih =>
    have hsucc : keepAlives (2 * (j + 1)) = utf8 crlf ++ (utf8 crlf ++ keepAlives (2 * j)) := rfl
    rw [hsucc, ih, List.replicate_succ, List.flatten_cons, headerEndMarker_eq, List.append_assoc]

theorem keepAlives_odd (j : Nat) :
    keepAlives (2 * j + 1) = (List.replicate j headerEndMarker).flatten ++ utf8 crlf := by
  rw [← keepAlives_even, keepAlives, List.replicate_succ', List.flatten_append]
  rfl

/-- Such messages are ignored. -/
theorem dispatched_blanks (j : Nat) (ms : List (List UInt8)) :
    dispatched (List.replicate j headerEndMarker ++ ms) = dispatched ms := by
  have hblank : dispatched [headerEndMarker] = [] := dispatched_eq_nil.mpr (by decide +kernel)
  induction j with
  | zero => rfl
  | succ j ih =>
    rw [List.replicate_succ, List.cons_append, ← List.singleton_append, dispatched_append, hblank, List.nil_append, ih]

/-- A message that begins with two keep-alives has nothing else. -/
theorem eq_of_blank {m : List UInt8} (hm : sipFramer.Message m) (h : headerEndMarker <+: m) : m = headerEndMarker := by
  obtain ⟨x, rfl⟩ := h
  have hcomplete := sipFramer.complete_append x message_blank
  have hlen : (headerEndMarker ++ x).length = headerEndMarker.length :=
    Frame.complete.inj (hm.symm.trans hcomplete)
  rw [List.length_append] at hlen
  rw [List.length_eq_zero_iff.mp (by omega : x.length = 0), List.append_nil]

theorem four_le_length {m : List UInt8} (hm : sipFramer.Message m) : 4 ≤ m.length := by
  have hframe : frame m = .complete m.length := hm
  unfold frame at hframe
  split at hframe
  · cases hframe
  · split at hframe
    · cases hframe
    · rename_i hn
      split at hframe
      · have := announced_gt hn
        cases hframe
        omega
      · cases hframe

/-- A message that is as long as can be is none with a line end in front of it. -/
theorem frame_crlf_invalid {m : List UInt8} (hm : sipFramer.Message m) (h : ¬ utf8 crlf <+: m)
    (hlt : ¬ m.length + 2 < 2 ^ 64) : frame (utf8 crlf ++ m) = .invalid := by
  have hframe : frame m = .complete m.length := hm
  unfold frame at hframe ⊢
  rw [splitAtFirst_crlf h]
  cases hs : splitAtFirst headerEndMarker m with
  | none =>
    rw [hs] at hframe
    cases hframe
  | some p =>
    rw [hs] at hframe
    rw [Option.map_some]
    dsimp only at hframe ⊢
    rw [announced_crlf]
    cases hn : announced p.1 with
    | none => rfl
    | some n =>
      rw [hn] at hframe
      dsimp only at hframe
      split at hframe
      · rw [Option.bind_some, if_neg (by rw [Frame.complete.inj hframe]; exact hlt)]
      · cases hframe

/-- What a stream is made of: messages that are dispatched as `ds`, none longer than `n`, and a rest. -/
def StreamOf (stream : List UInt8) (n : Nat) (ds : List (Str × Dispatch)) : Prop :=
  ∃ ms rest, stream = ms.flatten ++ rest ∧ (∀ x ∈ ms, sipFramer.Message x ∧ x.length ≤ n) ∧
    Framer.Tail sipFramer n rest ∧ dispatched ms = ds

/-- Pairs of keep-alives in front of a stream. -/
theorem StreamOf.blanks {stream : List UInt8} {n : Nat} {ds : List (Str × Dispatch)} (h : StreamOf stream n ds)
    (hn : 4 ≤ n) (j : Nat) : StreamOf ((List.replicate j headerEndMarker).flatten ++ stream) n ds := by
  obtain ⟨ms, rest, rfl, hms, hrest, hds⟩ := h
  refine ⟨List.replicate j headerEndMarker ++ ms, rest, ?_, fun x hx => ?_, hrest, (dispatched_blanks j ms).trans hds⟩
  · rw [List.flatten_append, List.append_assoc]
  · rcases List.mem_append.mp hx with hx | hx
    · rw [(List.mem_replicate.mp hx).2]
      exact ⟨message_blank, hn⟩
    · exact hms x hx

theorem StreamOf.message {m : List UInt8} {n : Nat} (hm : sipFramer.Message m) (hn : m.length ≤ n) :
    StreamOf m n (dispatched [m]) :=
  ⟨[m], [], by simp, fun x hx => List.mem_singleton.mp hx ▸ ⟨hm, hn⟩, .nil, rfl⟩

/-- **A message with one keep-alive in front of it**: its own first `CRLF` and the keep-alive are a message, or
the message is taken for one with an empty first line. -/
theorem streamOf_crlf {m : List UInt8} (hm : sipFramer.Message m) :
    StreamOf (utf8 crlf ++ m) (m.length + 2) (if utf8 crlf <+: m then dispatched [m.drop 2] else []) := by
  by_cases hcrlf : utf8 crlf <+: m
  · rw [if_pos hcrlf]
    obtain ⟨b, rfl⟩ := hcrlf
    have hdrop : (utf8 crlf ++ b).drop 2 = b := rfl
    have hlen : (utf8 crlf ++ b).length = b.length + 2 := by
      rw [List.length_append, Nat.add_comm]
      rfl
    have hone : utf8 crlf ++ (utf8 crlf ++ b) = (List.replicate 1 headerEndMarker).flatten ++ b := by
      rw [← List.append_assoc, ← headerEndMarker_eq]
      simp
    rw [hdrop, hone]
    by_cases hagain : utf8 crlf <+: b
    · -- the message is the end of a header part, and one line end is left
      have hb : b = utf8 crlf := by
        have hmarker : headerEndMarker <+: utf8 crlf ++ b := by
          rw [headerEndMarker_eq]
          exact (List.prefix_append_right_inj _).mpr hagain
        have he := eq_of_blank hm hmarker
        rw [headerEndMarker_eq] at he
        exact List.append_cancel_left he
      subst hb
      have hrest : StreamOf (utf8 crlf) ((utf8 crlf ++ utf8 crlf).length + 2) (dispatched [utf8 crlf]) := by
        refine ⟨[], utf8 crlf, rfl, fun x hx => absurd hx List.not_mem_nil, ?_, ?_⟩
        · exact .part (q := utf8 crlf) (headerEndMarker_eq ▸ message_blank) (by decide) (by decide)
        · exact (dispatched_eq_nil.mpr (by decide +kernel)).symm
      exact hrest.blanks (by decide) 1
    · have hmessage : sipFramer.Message b := by
        have hframe : frame (utf8 crlf ++ b) = .complete (b.length + 2) := hlen ▸ hm
        exact ((frame_crlf hagain b.length).mp hframe).1
      refine StreamOf.blanks (.message hmessage (by omega)) ?_ 1
      have hmin := four_le_length hmessage
      omega
  · rw [if_neg hcrlf]
    have hempty : dispatched [utf8 crlf ++ m] = [] := dispatched_eq_nil.mpr (readable_crlf m)
    have hlen : (utf8 crlf ++ m).length = m.length + 2 := by
      rw [List.length_append, Nat.add_comm]
      rfl
    by_cases hlt : m.length + 2 < 2 ^ 64
    · have hmessage : sipFramer.Message (utf8 crlf ++ m) := by
        show frame (utf8 crlf ++ m) = .complete (utf8 crlf ++ m).length
        rw [hlen]
        exact (frame_crlf hcrlf m.length).mpr ⟨hm, hlt⟩
      rw [← hempty]
      exact .message hmessage (Nat.le_of_eq hlen)
    · exact ⟨[], utf8 crlf ++ m, rfl, fun x hx => absurd hx List.not_mem_nil,
        .invalid (frame_crlf_invalid hm hcrlf hlt) (Nat.le_of_eq hlen), rfl⟩

/-- **What is dispatched behind keep-alives.** -/
theorem streamOf_keepAlives {m : List UInt8} (hm : sipFramer.Message m) (k : Nat) :
    StreamOf (keepAlives k ++ m) (m.length + 2)
      (if k % 2 = 0 then dispatched [m] else if utf8 crlf <+: m then dispatched [m.drop 2] else []) := by
  have hmin := four_le_length hm
  obtain hk | hk := Nat.mod_two_eq_zero_or_one k
  · obtain ⟨j, rfl⟩ : ∃ j, k = 2 * j := ⟨k / 2, by omega⟩
    rw [if_pos hk, keepAlives_even]
    exact StreamOf.blanks (.message hm (by omega)) (by omega) j
  · obtain ⟨j, rfl⟩ : ∃ j, k = 2 * j + 1 := ⟨k / 2, by omega⟩
    rw [if_neg (by omega), keepAlives_odd, List.append_assoc]
    exact (streamOf_crlf hm).blanks (by omega) j

/-- What the inner loop dispatches of a stream. -/
theorem StreamOf.dispatchedFrom {stream : List UInt8} {n : Nat} {ds : List (Str × Dispatch)}
    (h : StreamOf stream n ds) : dispatchedFrom stream = .ok ds := by
  obtain ⟨ms, rest, rfl, hms, hrest, rfl⟩ := h
  have hdrain : (sipFramer.drain rest).1 = [] := by
    have hpart : Framer.Tail sipFramer n (rest ++ []) := (List.append_nil rest).symm ▸ hrest
    rcases hpart.part_cases.2 with hi | hi
    · rw [Framer.drain_of_incomplete hi]
    · rw [Framer.drain_of_invalid hi]
  unfold Sip.dispatchedFrom
  rw [extractLoop_eq, Framer.drain_messages rest fun x hx => (hms x hx).1, hdrain, List.append_nil]
  rfl

/-- What the read loop dispatches of it, however it comes. -/
theorem StreamOf.readLoop {stream : List UInt8} {n : Nat} {ds : List (Str × Dispatch)}
    (h : StreamOf stream n ds) (hn : n ≤ bufferLimit) {reads : List (List UInt8)} (hreads : reads.flatten = stream) :
    ∃ conn, readLoop .start reads = .ok conn ∧ dispatched conn.messages = ds := by
  obtain ⟨ms, rest, rfl, hms, hrest, rfl⟩ := h
  refine ⟨_, readLoop_eq .start reads, congrArg dispatched ?_⟩
  exact (Framer.read_stream (fun x hx => ⟨(hms x hx).1, (hms x hx).2.trans hn⟩) (hrest.mono hn) hreads).1

/-- **When keep-alives are harmless.** Behind an even number of them a message is dispatched as when it comes
alone, which is once or not at all. Behind an odd number nothing is dispatched of a message that does not begin
with a line end itself; so it is as without them only if nothing is dispatched of it anyway. All this is so
however the bytes come, within the limit of the buffer. -/
theorem keep_alives_iff (k : Nat) (m : List UInt8) (hm : frameSipMessage m = .ok (.complete m.length)) :
    (∃ ds, dispatchedFrom m = .ok ds ∧ ds.length = if readable m then 1 else 0) ∧
    (dispatchedFrom (keepAlives k ++ m) = dispatchedFrom m ↔ k % 2 = 0 ∨ readable (withoutCrlf m) = false) ∧
    ∀ reads, reads.flatten = keepAlives k ++ m → m.length + 2 ≤ bufferLimit →
      ∃ conn, readLoop .start reads = .ok conn ∧
        dispatchedFrom (keepAlives k ++ m) = .ok (dispatched conn.messages) := by
  have hmessage : sipFramer.Message m := by
    rw [frameSipMessage_eq] at hm
    exact Except.ok.inj hm
  have halone := (StreamOf.message hmessage (Nat.le_refl _)).dispatchedFrom
  have hstream := streamOf_keepAlives hmessage k
  refine ⟨⟨_, halone, length_dispatched_singleton m⟩, ?_, fun reads hreads hlen => ?_⟩
  · rw [hstream.dispatchedFrom, halone, Except.ok.injEq, withoutCrlf]
    split
    · rename_i hk
      exact iff_of_true rfl (.inl hk)
    · rename_i hk
      rw [or_iff_right hk]
      split
      · rename_i hcrlf
        obtain ⟨b, rfl⟩ := hcrlf
        rw [dispatched_eq_nil.mpr (readable_crlf b), dispatched_eq_nil]
      · rw [eq_comm, dispatched_eq_nil]
  · obtain ⟨conn, hconn, hds⟩ := hstream.readLoop hlen hreads
    exact ⟨conn, hconn, by rw [hstream.dispatchedFrom, hds]⟩

/-- Two keep-alives in front of a request. -/
theorem keep_alives_concrete :
    dispatchedFrom (keepAlives 2 ++ utf8 "OPTIONS sip:a SIP/2.0\r\n\r\n".toList) =
      dispatchedFrom (utf8 "OPTIONS sip:a SIP/2.0\r\n\r\n".toList) :=
  (keep_alives_iff 2 _ (by decide +kernel)).2.1.mpr (.inl rfl)

/-- **A keep-alive takes the request behind it away.** -/
theorem keep_alive_swallows :
    let m := utf8 "OPTIONS sip:a SIP/2.0\r\n\r\n".toList
    frameSipMessage m = .ok (.complete m.length) ∧
      dispatchedFrom m = .ok [("OPTIONS sip:a SIP/2.0\r\n\r\n".toList, .request "OPTIONS".toList)] ∧
      dispatchedFrom (keepAlives 1 ++ m) = .ok [] := by
  decide +kernel

end Minghe.Sip
