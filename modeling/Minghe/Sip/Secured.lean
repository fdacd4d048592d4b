import Minghe.Sip.Entries

/-!
# SRTP on every answer

The server is to forward no 200 whose SDP has no usable keys, and to end the call instead. It decides by
the keys that are stored with the call: once a first 200 had some, every later 200 is forwarded, whatever
its SDP says.

* `AlwaysSecured`: what is expected of a run.
* `Answers`: an event that is no such 200, and does not make a handler panic under the lock.
* `answers_secured`: every 200 that is passed on offers SRTP only, in every run without a 200 without
  usable keys for a call that has some, and without a panic under the lock.
* `answer_unsecured`: a second 200, without keys, is passed on without SRTP.
-/

namespace Minghe.Sip

open Minghe.Lib
open Minghe.Media.Relay (MediaRelayManager)
open Minghe.Media.Srtp (Base64)

namespace Router

/-- The SDP of the response has a usable `crypto` line with a tag and a suite that the callee was offered. -/
def HasOffered (B : Base64) (response : Str) : Prop :=
  ∃ body tag crypto, extractBody response = .ok (some body) ∧
    extractSrtpCryptoFromSdp B body = some (tag, crypto) ∧
    calleeAnswerCryptoIsOffered tag crypto.suite = true

/-- **Forced SRTP**: a 200 that was sent to a caller is a response of the callee that had usable keys, and
one that has none ends the call before its handler comes to its end. -/
structure AlwaysSecured (cfg : RouterConfig) (B : Base64) (media : MediaRelayManager)
    (events : List RouterEvent) : Prop where
  forwarded : ∀ done, done <+: events → ∀ invite sink text response,
    .answer invite 200 sink text response ∈ (run cfg B media done).sent →
    ∃ calleeResponse, response = some calleeResponse ∧ HasOffered B calleeResponse
  ended : ∀ early event late id callId text c task, early ++ [event] <+: late → late <+: events →
    ResponseTo (run cfg B media early) event id callId text 200 c → ¬ HasOffered B text →
    (run cfg B media late).tasks.lookup id = some task → task.pc.sending = none →
    ∃ mid, early ++ [event] <+: mid ∧ mid <+: late ∧
      (run cfg B media mid).activeCalls.lookup callId = none

/-- An event that is no 200 without usable keys for a call that has some. -/
structure Answers (B : Base64) (s : Router) (event : RouterEvent) : Prop where
  readable : Readable s event
  answer : ∀ id callId text c, ResponseTo s event id callId text 200 c → ¬ HasOffered B text →
    c.calleeRemoteCrypto = none

variable {cfg : RouterConfig} {B : Base64} {media : MediaRelayManager} {events : List RouterEvent}

theorem hasOffered_iff (text : Str) : HasOffered B text ↔ (answerCrypto B text).isSome = true := by
  unfold HasOffered answerCrypto answeredCrypto
  rw [extractBody_eq]
  generalize (if (bodyOf text).isEmpty then none else some (bodyOf text)) = body
  constructor
  · rintro ⟨body, tag, crypto, ⟨⟩, hcrypto, hoffered⟩
    simp only [Option.bind_some, hcrypto, hoffered, if_true, Option.isSome_some]
  · intro h
    obtain ⟨crypto, h⟩ := Option.isSome_iff_exists.mp h
    obtain ⟨⟨tag, crypto'⟩, hread, hchosen⟩ := Option.bind_eq_some_iff.mp h
    obtain ⟨body, rfl, hread⟩ := Option.bind_eq_some_iff.mp hread
    dsimp only at hchosen
    split at hchosen
    · rename_i hoffered
      exact ⟨body, tag, crypto', rfl, hread, hoffered⟩
    · cases hchosen

/-- The keys that are stored when a 200 without any has been read. -/
theorem updateCall_refused {text : Str} {c : CallInfo} (h : ¬ HasOffered B text) :
    (updateCall B 200 text c).2.calleeRemoteCrypto = c.calleeRemoteCrypto := by
  have hupdated := updated B 200 text c
  revert hupdated
  generalize (updateCall B 200 text c).1 = result, (updateCall B 200 text c).2 = c'
  intro hupdated
  cases hupdated with
  | answered _ _ _ _ answer =>
    rw [hasOffered_iff, answer] at h
    exact absurd rfl h
  | _ => rfl

/-! ## What is forwarded -/

/-- A 200 for a caller has usable keys. -/
def Secured (B : Base64) (out : Outgoing) : Prop :=
  ∀ invite sink text response, out = .answer invite 200 sink text response →
    ∃ calleeResponse, response = some calleeResponse ∧ HasOffered B calleeResponse

theorem secured_of_sends {s : Router} {event : RouterEvent} (h : Answers B s event) {out : Outgoing}
    (hsends : Sends cfg B s event out) : Secured B out := by
  cases hsends with
  | request => exact nofun
  | declined event_eq fresh status =>
    rintro _ _ _ _ ⟨⟩
    exact absurd status (by decide)
  | @invited _ taken =>
    intro _ _ _ _ he
    cases taken with
    | true => cases he
    | false => cases he
  | @answered id callId statusCode c msg d _ response _ sending =>
    rcases passOn_cases cfg B callId statusCode msg d (updateCall B statusCode msg.text c).2 with
      ⟨-, -, _, he⟩ | ⟨-, _, he⟩ | ⟨hneither, text, he⟩
    · rw [he] at sending
      cases sending
      exact nofun
    · rw [he] at sending
      cases sending
      exact nofun
    · rw [he] at sending
      cases sending
      rintro _ _ _ _ ⟨⟩
      refine ⟨msg.text, rfl, ?_⟩
      -- without usable keys the call would have none either
      by_contra hnot
      refine hneither ⟨rfl, ?_⟩
      rw [updateCall_refused hnot]
      exact h.answer id callId msg.text c response hnot
  | terminated => exact nofun

theorem run_secured (h : ∀ done event, done ++ [event] <+: events → Answers B (run cfg B media done) event)
    {done : List RouterEvent} (hdone : done <+: events) {out : Outgoing}
    (hout : Sending (run cfg B media done) out) : Secured B out := by
  refine prefix_induction (P := fun done => ∀ out, Sending (run cfg B media done) out → Secured B out)
    ?_ (fun done event _ hevent ih out hout => ?_) List.nil_prefix hdone out hout
  · rintro out (hsent | ⟨id, task, htask, -⟩)
    · cases hsent
    · cases (AList.lookup_empty id).symm.trans htask
  · rw [run_append] at hout
    rcases sends_of_step (run_places cfg B media done) hout with hold | hnew
    · exact ih out hold
    · exact secured_of_sends (h done event hevent) hnew

/-! ## What is ended -/

/-- A 200 without usable keys is refused, and its handler is to remove the call. -/
theorem removes_of_refused (cfg : RouterConfig) {s : Router} {event : RouterEvent} {id : Nat}
    {callId text : Str} {c : CallInfo}
    (hresponse : ResponseTo s event id callId text 200 c) (hnot : ¬ HasOffered B text)
    (h : Answers B s event) :
    ∃ task, (s.step cfg B event).tasks.lookup id = some task ∧ task.pc.Removes callId := by
  have hread : (updateCall B 200 text c).1 = .ok () := by
    cases hresult : (updateCall B 200 text c).1 with
    | ok _ => rfl
    | error e => exact absurd (unreadable_of_error hresult) (h.readable.response _ _ _ _ _ hresponse)
  obtain ⟨msg, d, -, htask⟩ := step_response cfg hresponse hread
  refine ⟨_, htask, ?_⟩
  rcases passOn_cases cfg B callId 200 msg d (updateCall B 200 text c).2 with
    ⟨-, -, _, he⟩ | ⟨-, _, he⟩ | ⟨hneither, -⟩
  · rw [he]
    exact fun _ => rfl
  · rw [he]
    exact fun _ => rfl
  · refine absurd ⟨rfl, ?_⟩ hneither
    rw [updateCall_refused hnot]
    exact h.answer id callId text c hresponse hnot

/-- **When SRTP is forced on every answer.** It is in every run without a 200 without usable keys for a call
that has some, and without a panic under the lock. -/
theorem answers_secured (cfg : RouterConfig) (B : Base64) (media : MediaRelayManager)
    (events : List RouterEvent)
    (h : ∀ done event, done ++ [event] <+: events → Answers B (run cfg B media done) event) :
    AlwaysSecured cfg B media events := by
  constructor
  · intro done hdone invite sink text response hsent
    exact run_secured h hdone (.inl hsent) invite sink text response rfl
  · intro early event late id callId text c task hlate hevents hresponse hnot htask hidle
    obtain ⟨task', htask', hremoves⟩ := removes_of_refused cfg hresponse hnot
      (h early event (hlate.trans hevents))
    rw [← run_append] at htask'
    rcases removes_run (fun done event hevent => (h done event hevent).readable) hlate hevents htask'
      hremoves with ⟨task'', htask'', hremoves'⟩ | hgone
    · cases htask.symm.trans htask''
      obtain ⟨out, hsending⟩ := hremoves'.sending
      cases hidle.symm.trans hsending
    · exact hgone

/-! ## Two phones -/

/-- 1002 answers without keys, and its answer is refused. -/
theorem answers_secured_concrete :
    AlwaysSecured phoneConfig .standard (.new 20000 20100 "192.0.2.1".toList)
      (phoneCalls ++ [phoneReply 1 "200 OK" (phoneSdp [])]) := by
  have hreads : extractCallId (phoneResponse "200 OK" (phoneSdp [])).text = .ok (some "c".toList) ∧
      extractStatusCode (phoneResponse "200 OK" (phoneSdp [])).text = some 200 ∧
      extractToTag (phoneResponse "200 OK" (phoneSdp [])).text = .ok (some "b".toList) ∧
      extractContactUri (phoneResponse "200 OK" (phoneSdp [])).text =
        .ok (some "sip:1002@10.10.10.2".toList) ∧
      (phoneCalled.activeCalls.lookup "c".toList).map (fun c => c.calleeRemoteCrypto) = some none := by
    decide +kernel
  obtain ⟨hid, hstatus, htag, hcontact, hcall⟩ := hreads
  obtain ⟨c, hfound, hnone⟩ := Option.map_eq_some_iff.mp hcall
  have hread : ¬ Unreadable 200 (phoneResponse "200 OK" (phoneSdp [])).text c := by
    rintro (⟨-, -, e, he⟩ | ⟨-, -, e, he⟩)
    · cases htag.symm.trans he
    · cases hcontact.symm.trans he
  refine answers_secured _ _ _ _ ?_
  have hbefore : Stepwise (step phoneConfig .standard) (Answers .standard)
      (start (.new 20000 20100 "192.0.2.1".toList)) phoneCalls := by
    refine ⟨⟨readable_world _ _ _, ?_⟩, ⟨readable_invite _ _ _ _, ?_⟩, trivial⟩
    · rintro _ _ _ _ ⟨_, _, ⟨⟩, -⟩
    · rintro _ _ _ _ ⟨_, _, ⟨⟩, -⟩
  have hafter : Stepwise (step phoneConfig .standard) (Answers .standard) phoneCalled
      [phoneReply 1 "200 OK" (phoneSdp [])] := by
    refine ⟨⟨readable_response hid hstatus hfound hread, fun _ _ _ _ hresponse _ => ?_⟩, trivial⟩
    obtain ⟨-, -, rfl⟩ := hresponse.unique hid hstatus hfound
    exact hnone
  rw [← phoneCalls_eq] at hafter
  exact (hbefore.append hafter).forall

/-- The responses of the callee that were passed on as a 200. -/
def forwardedAnswers (s : Router) : List Str :=
  s.sent.filterMap fun
    | .answer _ 200 _ _ response => response
    | _ => none

/-- A second 200, without keys. -/
theorem answer_unsecured :
    ¬ AlwaysSecured phoneConfig .standard (.new 20000 20100 "192.0.2.1".toList)
      (phoneCalls ++ [phoneReply 1 "200 OK" (phoneSdp phoneCrypto), phoneReply 2 "200 OK" (phoneSdp []),
        phoneSent 2]) := by
  have hanswers : forwardedAnswers ([phoneReply 1 "200 OK" (phoneSdp phoneCrypto),
        phoneReply 2 "200 OK" (phoneSdp []), phoneSent 2].foldl (step phoneConfig .standard) phoneCalled) =
        [(phoneResponse "200 OK" (phoneSdp [])).text] ∧
      answerCrypto .standard (phoneResponse "200 OK" (phoneSdp [])).text = none := by decide +kernel
  obtain ⟨hforwarded, hnone⟩ := hanswers
  rw [← run_phoneCalls] at hforwarded
  intro h
  have hmem : (phoneResponse "200 OK" (phoneSdp [])).text ∈ forwardedAnswers _ :=
    hforwarded ▸ List.mem_singleton.mpr rfl
  obtain ⟨out, hsent, hout⟩ := List.mem_filterMap.mp hmem
  split at hout
  · obtain ⟨_, he, hoffered⟩ := h.forwarded _ (List.prefix_refl _) _ _ _ _ hsent
    cases hout.symm.trans he
    rw [hasOffered_iff, hnone] at hoffered
    cases hoffered
  · cases hout

end Router

end Minghe.Sip
