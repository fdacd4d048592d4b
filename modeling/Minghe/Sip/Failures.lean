import Minghe.Sip.Entries

/-!
# Calls that fail

A final failure of the callee is to end its call: there is no timer that would. `handle_callee_response`
cleans up behind a status of 400 or more. A redirection, from 300 to 399, is sent on to the caller like the
other failures, but the call and its session stay.

* `FailureFor`: a failure of the callee comes to a new execution.
* `FailureEnds`: what is expected of the execution.
* `failure_ends_iff`: a response that refuses a call is passed on and ends the call, whatever other calls
  do meanwhile, iff its status is 400 or more and the lock is not poisoned.
-/

namespace Minghe.Sip

open Minghe.Lib
open Minghe.Media.Relay (MediaRelayManager)
open Minghe.Media.Srtp (Base64)

namespace Router

/-- A failure of the callee of the call `c` comes to the execution `id`. -/
structure FailureFor (s : Router) (id : Nat) (msg : Incoming) (callId : Str) (statusCode : Nat)
    (c : CallInfo) : Prop where
  fresh : s.tasks.lookup id = none
  callId_eq : extractCallId msg.text = .ok (some callId)
  status : extractStatusCode msg.text = some statusCode
  failure : 300 ≤ statusCode
  found : s.activeCalls.lookup callId = some c

/-- **What is expected of it**: in the state `sending` it is sending the caller of `c` a final response, and
in `last`, behind the send, the call is over. -/
structure FailureEnds (id : Nat) (callId : Str) (c : CallInfo) (taken : Bool) (sending last : Router) :
    Prop where
  answered : ∃ task statusCode text response, sending.tasks.lookup id = some task ∧ 300 ≤ statusCode ∧
    task.pc.sending = some (.answer c.invite statusCode c.callerSink text response) ∧
    (taken = true → .answer c.invite statusCode c.callerSink text response ∈ last.sent)
  gone : last.activeCalls.lookup callId = none
  released : last.media.sessions.lookup callId = none

variable {cfg : RouterConfig} {B : Base64}

/-- The entry of the call behind a failure. -/
theorem updateCall_failure {statusCode : Nat} (h : 300 ≤ statusCode) (text : Str) (c : CallInfo) :
    ∃ state, updateCall B statusCode text c = (.ok (), { c with state }) := by
  unfold updateCall
  rw [if_neg (by omega), if_neg (by omega), if_neg (by omega)]
  split
  · exact ⟨.terminated, rfl⟩
  · exact ⟨c.state, rfl⟩

/-- The response to the caller is on its way. -/
theorem passOn_failure (cfg : RouterConfig) {statusCode : Nat} (h : 300 ≤ statusCode) (callId : Str)
    (msg : Incoming) (d : Draw) {c : CallInfo} (hcrypto : c.callerLocalCrypto.isSome = true) :
    ∃ text, passOn cfg B callId statusCode msg d c =
      .forward callId statusCode (.answer c.invite statusCode c.callerSink text (some msg.text)) := by
  rcases passOn_cases cfg B callId statusCode msg d c with ⟨hok, -⟩ | ⟨hnone, -⟩ | ⟨-, htext⟩
  · omega
  · rw [hnone] at hcrypto
    cases hcrypto
  · exact htext

/-- **When a failure ends the call.** Whatever the other calls do meanwhile, and whether the sink of the
caller takes the response, it does iff the status is 400 or more, and the lock of the table is not poisoned
when the response comes nor when it was sent. -/
theorem failure_ends_iff (cfg : RouterConfig) (B : Base64) (media : MediaRelayManager)
    {before during : List RouterEvent} {id statusCode : Nat} {msg : Incoming} {callId : Str} {c : CallInfo}
    (h : FailureFor (run cfg B media before) id msg callId statusCode c) (d : Draw)
    (hothers : Stepwise (step cfg B) (fun s event => ¬ Concerns callId s event)
      (run cfg B media (before ++ [.receive id .response msg d])) during) (taken : Bool) (d' : Draw) :
    FailureEnds id callId c taken (run cfg B media (before ++ [.receive id .response msg d]))
      (run cfg B media (before ++ [.receive id .response msg d] ++ during ++ [.resume id taken d'])) ↔
    (run cfg B media before).poisoned = false ∧
      (run cfg B media (before ++ [.receive id .response msg d] ++ during)).poisoned = false ∧
      400 ≤ statusCode := by
  obtain ⟨hsame, htasks⟩ := run_others hothers
  rw [run_append cfg B media (_ ++ during)]
  have hreceived : run cfg B media (before ++ [.receive id .response msg d]) =
      ((run cfg B media before).handle cfg B id .response msg d).2.settle id .response msg
        ((run cfg B media before).handle cfg B id .response msg d).1 :=
    (run_append ..).trans (step_receive h.fresh)
  cases hp : (run cfg B media before).poisoned with
  | true =>
    -- the handler panics at the lock, and the call stays
    have hhandle : (run cfg B media before).handle cfg B id .response msg d =
        (.panicked, run cfg B media before) := by
      change handleCalleeResponse cfg B msg d _ = _
      unfold handleCalleeResponse
      rw [h.callId_eq]
      dsimp only
      rw [h.status]
      dsimp only
      rw [if_pos hp]
    refine ⟨fun hends => ?_, fun hnot => Bool.noConfusion hnot.1⟩
    obtain ⟨task, _, _, _, htask, -, hsending, -⟩ := hends.answered
    rw [hreceived, hhandle, settle_tasks, if_pos rfl] at htask
    cases htask
    cases hsending
  | false =>
    obtain ⟨state, hupdate⟩ := updateCall_failure (B := B) h.failure msg.text c
    obtain ⟨text, hforward⟩ := passOn_failure cfg (B := B) h.failure callId msg d
      (c := { c with state }) (run_callerLocalCrypto (c := c) h.found)
    have hhandle := handle_response_cases cfg B id d h.callId_eq h.status hp h.found
    rw [hupdate, hforward] at hhandle
    obtain ⟨_, ⟨⟩, -⟩ | ⟨-, hhandle⟩ := hhandle
    rw [hhandle] at hreceived
    -- the response is on its way, and the call stays meanwhile
    have htask : (run cfg B media (before ++ [.receive id .response msg d])).tasks.lookup id =
        some ⟨.response, msg, .forward callId statusCode
          (.answer c.invite statusCode c.callerSink text (some msg.text))⟩ := by
      rw [hreceived, settle_tasks, if_pos rfl]
    have hfound : (run cfg B media
        (before ++ [.receive id .response msg d] ++ during)).activeCalls.lookup callId =
          some { c with state } := by
      rw [hsame.entry, hreceived]
      exact AList.lookup_insert _
    have hstill := htasks id _ htask rfl
    generalize run cfg B media (before ++ [.receive id .response msg d] ++ during) = s at hfound hstill
    have hresumed : s.step cfg B (.resume id taken d') = _ := step_resume hstill rfl
    dsimp only [proceed] at hresumed
    have hstays : (s.step cfg B (.resume id taken d')).activeCalls = s.activeCalls →
        ¬ FailureEnds id callId c taken (run cfg B media (before ++ [.receive id .response msg d]))
          (s.step cfg B (.resume id taken d')) := by
      intro hkept hends
      have hgone := hends.gone
      rw [hkept, hfound] at hgone
      cases hgone
    by_cases hcode : 400 ≤ statusCode
    · rw [if_pos hcode] at hresumed
      cases hp' : s.poisoned with
      | true =>
        refine iff_of_false (hstays ?_) fun hnot => Bool.noConfusion hnot.2.1
        rw [hresumed, cleanupThen, if_pos hp']
        rfl
      | false =>
        refine iff_of_true ?_ ⟨rfl, rfl, hcode⟩
        rw [cleanupThen, if_neg (by simp [hp'])] at hresumed
        have hfound' : ({ s with sent := s.sent ++ if taken then [.answer c.invite statusCode c.callerSink text
            (some msg.text)] else [] } : Router).activeCalls.lookup callId = some { c with state } := hfound
        rw [hresumed]
        refine ⟨⟨_, statusCode, text, some msg.text, htask, h.failure, rfl, ?_⟩, ?_, ?_⟩
        · rintro rfl
          refine List.mem_append_left _ ?_
          rw [cleanupCall_sent]
          exact List.mem_append_right _ (List.mem_singleton.mpr rfl)
        · exact (lookup_cleanupCall _ callId callId).trans (if_pos rfl)
        · exact (sessions_cleanupCall hfound' callId).1.trans (if_pos rfl)
    · rw [if_neg hcode, if_neg (by have := h.failure; omega)] at hresumed
      refine iff_of_false (hstays ?_) fun hnot => hcode hnot.2.2
      rw [hresumed]
      rfl

/-! ## Two phones -/

/-- A failure of 1002 comes to the execution 1. -/
theorem phone_failure (status : String) (statusCode : Nat) (h : 300 ≤ statusCode)
    (hreads : extractCallId (phoneResponse status []).text = .ok (some "c".toList) ∧
      extractStatusCode (phoneResponse status []).text = some statusCode) :
    ∃ c, FailureFor (run phoneConfig .standard (.new 20000 20100 "192.0.2.1".toList) phoneCalls) 1
      (phoneResponse status []) "c".toList statusCode c ∧ c.state = .trying := by
  have hcalled : phoneCalled.tasks.lookup 1 = none ∧
      (phoneCalled.activeCalls.lookup "c".toList).map (fun c => c.state) = some .trying := by decide +kernel
  rw [← phoneCalls_eq] at hcalled
  obtain ⟨hfresh, hcall⟩ := hcalled
  obtain ⟨c, hfound, hstate⟩ := Option.map_eq_some_iff.mp hcall
  exact ⟨c, ⟨hfresh, hreads.1, hreads.2, h, hfound⟩, hstate⟩

/-- 1002 is busy. -/
theorem failure_ends_concrete : ∃ c, FailureEnds 1 "c".toList c true
    (run phoneConfig .standard (.new 20000 20100 "192.0.2.1".toList)
      (phoneCalls ++ [phoneReply 1 "486 Busy Here" []]))
    (run phoneConfig .standard (.new 20000 20100 "192.0.2.1".toList)
      (phoneCalls ++ [phoneReply 1 "486 Busy Here" []] ++ [] ++ [phoneSent 1])) := by
  obtain ⟨c, h, -⟩ := phone_failure "486 Busy Here" 486 (by decide) (by decide +kernel)
  have hp : phoneCalled.poisoned = false ∧
      ([phoneReply 1 "486 Busy Here" []].foldl (step phoneConfig .standard) phoneCalled).poisoned = false := by
    decide +kernel
  rw [← run_phoneCalls, ← phoneCalls_eq] at hp
  have hnone : Stepwise (step phoneConfig .standard) (fun s event => ¬ Concerns "c".toList s event)
      (run phoneConfig .standard (.new 20000 20100 "192.0.2.1".toList)
        (phoneCalls ++ [phoneReply 1 "486 Busy Here" []])) [] := trivial
  refine ⟨c, (failure_ends_iff phoneConfig .standard _ h phoneDraw hnone true phoneDraw).mpr
    ⟨hp.1, ?_, by decide⟩⟩
  rw [List.append_nil]
  exact hp.2

/-- 1002 has moved, and the call stays. -/
theorem redirected_call_stays : ∃ c,
    FailureFor (run phoneConfig .standard (.new 20000 20100 "192.0.2.1".toList) phoneCalls) 1
      (phoneResponse "302 Moved Temporarily" []) "c".toList 302 c ∧ c.state = .trying ∧
    ¬ FailureEnds 1 "c".toList c true
      (run phoneConfig .standard (.new 20000 20100 "192.0.2.1".toList)
        (phoneCalls ++ [phoneReply 1 "302 Moved Temporarily" []]))
      (run phoneConfig .standard (.new 20000 20100 "192.0.2.1".toList)
        (phoneCalls ++ [phoneReply 1 "302 Moved Temporarily" [], phoneSent 1])) := by
  obtain ⟨c, h, hstate⟩ := phone_failure "302 Moved Temporarily" 302 (by decide) (by decide +kernel)
  refine ⟨c, h, hstate, fun hends => ?_⟩
  have hstays : (([phoneReply 1 "302 Moved Temporarily" [], phoneSent 1].foldl (step phoneConfig .standard)
      phoneCalled).activeCalls.lookup "c".toList).isSome = true := by decide +kernel
  rw [← run_phoneCalls, hends.gone] at hstays
  cases hstays

end Router

end Minghe.Sip
