import Minghe.Sip.Entries
import Minghe.Sip.Leaks

/-!
# The states of a call

The state of a call is written in several places, by the status of a response alone: a late 180 takes an
established call back to `Ringing`, and a 200 without usable keys ends a call that had some only in its
state, since the refusal is decided by the keys that are stored.

* `MovesForward`: what is expected of a run.
* `Orderly`: an event that is neither of these, does not make a handler panic under the lock, and leaks no
  session.
* `states_forward`: call states only move forward in every run without a 180 or 183, or a 200 without
  usable keys, for an established call, without a panic under the lock and without a leaked session.
* `state_backward`: a 180 behind the 200, and a second 200 without keys.
-/

namespace Minghe.Sip

open Minghe.Lib
open Minghe.Media.Relay (MediaRelayManager)
open Minghe.Media.Srtp (Base64)

/-- `Trying < Ringing < Established`. -/
def CallState.Before : CallState → CallState → Prop
  | .trying, .ringing | .trying, .established | .ringing, .established => True
  | _, _ => False

namespace Router

/-- The event makes the execution `id` set `Terminated` for a call: for a refusal of the callee, for a 200
without usable keys, or for a CANCEL of the caller. -/
def Terminates (B : Base64) (s : Router) (event : RouterEvent) (id : Nat) (callId : Str) : Prop :=
  (∃ text statusCode c, ResponseTo s event id callId text statusCode c ∧
    (statusCode = 200 ∧ answerCrypto B text = none ∨ 400 ≤ statusCode)) ∨
  ∃ text c, CancelOf s event id callId text c ∧ extractFromTag text = .ok (some c.callerTag) ∧
    c.callerTag ≠ []

/-- **Call states move forward**: the state of a call that stays never goes back, no entry is `Terminated`
when no handler is running, and a handler that sets `Terminated` removes the call and its session before it
comes to its end. -/
structure MovesForward (cfg : RouterConfig) (B : Base64) (media : MediaRelayManager)
    (events : List RouterEvent) : Prop where
  order : ∀ early late callId c c', early <+: late → late <+: events →
    (run cfg B media early).activeCalls.lookup callId = some c →
    (run cfg B media late).activeCalls.lookup callId = some c' →
    c.invite = c'.invite → ¬ c'.state.Before c.state
  between : ∀ done, done <+: events →
    (∀ id task, (run cfg B media done).tasks.lookup id = some task → task.pc.sending = none) →
    ∀ callId c, (run cfg B media done).activeCalls.lookup callId = some c → c.state ≠ .terminated
  removed : ∀ early event late id callId task, early ++ [event] <+: late → late <+: events →
    Terminates B (run cfg B media early) event id callId →
    (run cfg B media late).tasks.lookup id = some task → task.pc.sending = none →
    ∃ mid, early ++ [event] <+: mid ∧ mid <+: late ∧
      (run cfg B media mid).activeCalls.lookup callId = none ∧
      (run cfg B media mid).media.sessions.lookup callId = none

/-- An event after which call states still move forward. -/
structure Orderly (cfg : RouterConfig) (B : Base64) (s : Router) (event : RouterEvent) : Prop where
  readable : Readable s event
  kept : ¬ Leaks cfg B s event
  provisional : ∀ id callId text statusCode c, ResponseTo s event id callId text statusCode c →
    statusCode = 180 ∨ statusCode = 183 → c.calleeRemoteCrypto = none
  answer : ∀ id callId text c, ResponseTo s event id callId text 200 c →
    answerCrypto B text = none → c.calleeRemoteCrypto = none

variable {cfg : RouterConfig} {B : Base64} {media : MediaRelayManager} {events : List RouterEvent}

/-! ## The order -/

/-- A call has the callee's keys when it is established, and then it is not ringing any more. -/
def Settled (s : Router) : Prop :=
  ∀ callId c, s.activeCalls.lookup callId = some c →
    (c.state = .established → c.calleeRemoteCrypto.isSome = true) ∧
    (c.calleeRemoteCrypto.isSome = true → c.state = .established ∨ c.state = .terminated)

theorem Settled.step {s : Router} (h : Settled s) {event : RouterEvent} (horderly : Orderly cfg B s event) :
    Settled (s.step cfg B event) := by
  intro callId c' hc'
  cases entryStep hc' with
  | kept found => exact h callId c' found
  | opened => exact ⟨nofun, nofun⟩
  | @answered id text statusCode c response =>
    obtain ⟨hkeys, hstate⟩ := h callId c response.found
    have hupdated := updated B statusCode text c
    revert hupdated
    generalize (updateCall B statusCode text c).1 = result, (updateCall B statusCode text c).2 = c'
    intro hupdated
    cases hupdated with
    | passed => exact ⟨hkeys, hstate⟩
    | ringing calleeTag status =>
      have hnone := horderly.provisional id callId text statusCode c response status
      exact ⟨nofun, fun hsome => by rw [hnone] at hsome; cases hsome⟩
    | answered => exact ⟨fun _ => rfl, fun _ => .inl rfl⟩
    | refused => exact ⟨nofun, fun _ => .inr rfl⟩
    | unread => exact ⟨hkeys, hstate⟩
    | failed => exact ⟨nofun, fun _ => .inr rfl⟩
  | cancelled => exact ⟨nofun, fun _ => .inr rfl⟩
  | @started c found => exact h callId c found

theorem run_settled (h : ∀ done event, done ++ [event] <+: events →
      Orderly cfg B (run cfg B media done) event) {done : List RouterEvent} (hdone : done <+: events) :
    Settled (run cfg B media done) := by
  have hstart : Settled (run cfg B media []) := by
    intro callId c hc
    cases (AList.lookup_empty callId).symm.trans hc
  refine prefix_induction (P := fun done => Settled (run cfg B media done)) hstart
    (fun done event _ hevent ih => ?_) List.nil_prefix hdone
  rw [run_append]
  exact ih.step (h done event hevent)

/-- What a call has reached it does not lose: its keys, and that it has left `Trying`. -/
theorem follows_run {early late : List RouterEvent} (h : early <+: late) {callId : Str} {c c' : CallInfo}
    (hc : (run cfg B media early).activeCalls.lookup callId = some c)
    (hc' : (run cfg B media late).activeCalls.lookup callId = some c') (hsame : c.invite = c'.invite) :
    (c.calleeRemoteCrypto.isSome = true → c'.calleeRemoteCrypto.isSome = true) ∧
      (c.state ≠ .trying → c'.state ≠ .trying) := by
  refine prefix_induction (P := fun late => ∀ c',
    (run cfg B media late).activeCalls.lookup callId = some c' → c.invite = c'.invite →
      (c.calleeRemoteCrypto.isSome = true → c'.calleeRemoteCrypto.isSome = true) ∧
        (c.state ≠ .trying → c'.state ≠ .trying))
    (fun c' hc' _ => ?_) (fun done event hdone _ ih => ?_) h (List.prefix_refl late) c' hc' hsame
  · cases hc.symm.trans hc'
    exact ⟨fun hk => hk, fun hs => hs⟩
  · intro c' hc' hsame
    rw [run_append] at hc'
    cases entryStep hc' with
    | kept found => exact ih _ found hsame
    | @opened id _ _ _ _ _ _ _ _ event_eq fresh =>
      -- a new call has a new number
      have hknown := isSome_tasks_run hdone (run_known cfg B media early callId c hc)
      rw [hsame] at hknown
      change ((run cfg B media done).tasks.lookup id).isSome = true at hknown
      rw [fresh] at hknown
      cases hknown
    | @answered id text statusCode c₀ response =>
      have hfound := response.found
      have hupdated := updated B statusCode text c₀
      revert hupdated hsame
      generalize (updateCall B statusCode text c₀).1 = result, (updateCall B statusCode text c₀).2 = c'
      intro hsame hupdated
      cases hupdated with
      | passed => exact ih c₀ hfound hsame
      | ringing => exact ⟨(ih c₀ hfound hsame).1, fun _ => nofun⟩
      | answered => exact ⟨fun _ => rfl, fun _ => nofun⟩
      | refused => exact ⟨(ih c₀ hfound hsame).1, fun _ => nofun⟩
      | unread => exact ih c₀ hfound hsame
      | failed => exact ⟨(ih c₀ hfound hsame).1, fun _ => nofun⟩
    | cancelled cancel => exact ⟨(ih _ cancel.found hsame).1, fun _ => nofun⟩
    | @started c₀ found => exact ih c₀ found hsame

/-! ## Removal -/

/-- An entry becomes `Terminated` by a handler that sets it. -/
theorem terminates_of_terminated {s : Router} {event : RouterEvent} {callId : Str} {c' : CallInfo}
    (hc' : (s.step cfg B event).activeCalls.lookup callId = some c') (hstate : c'.state = .terminated) :
    (∃ c, s.activeCalls.lookup callId = some c ∧ c.state = .terminated) ∨
      ∃ id, Terminates B s event id callId := by
  cases entryStep hc' with
  | kept found => exact .inl ⟨c', found, hstate⟩
  | opened => cases hstate
  | @answered id text statusCode c response =>
    have hfound := response.found
    have hupdated := updated B statusCode text c
    revert hupdated hstate
    generalize (updateCall B statusCode text c).1 = result, (updateCall B statusCode text c).2 = c'
    intro hstate hupdated
    cases hupdated with
    | passed => exact .inl ⟨c, hfound, hstate⟩
    | ringing => cases hstate
    | answered => cases hstate
    | refused _ _ status answer => exact .inr ⟨id, .inl ⟨text, statusCode, c, response, .inl ⟨status, answer⟩⟩⟩
    | unread => exact .inl ⟨c, hfound, hstate⟩
    | failed status => exact .inr ⟨id, .inl ⟨text, statusCode, c, response, .inr status⟩⟩
  | @cancelled id text c cancel tag named => exact .inr ⟨id, .inr ⟨text, c, cancel, tag, named⟩⟩
  | @started c found => exact .inl ⟨c, found, hstate⟩

/-- A handler that sets `Terminated` is to remove the call then. -/
theorem removes_of_terminates {s : Router} {event : RouterEvent} {id : Nat} {callId : Str}
    (h : Terminates B s event id callId) (horderly : Orderly cfg B s event) :
    (∃ task, (s.step cfg B event).tasks.lookup id = some task ∧ task.pc.Removes callId) ∨
      (s.step cfg B event).activeCalls.lookup callId = none := by
  rcases h with ⟨text, statusCode, c, response, hstatus⟩ | ⟨text, c, cancel, htag, hnamed⟩
  · have hread : (updateCall B statusCode text c).1 = .ok () := by
      cases hresult : (updateCall B statusCode text c).1 with
      | ok _ => rfl
      | error e =>
        exact absurd (unreadable_of_error hresult) (horderly.readable.response _ _ _ _ _ response)
    obtain ⟨msg, d, -, htask⟩ := step_response cfg response hread
    refine .inl ⟨_, htask, ?_⟩
    have hrefused : statusCode = 200 → (updateCall B statusCode text c).2.calleeRemoteCrypto = none := by
      intro hok
      have hanswer : answerCrypto B text = none := hstatus.elim (fun h => h.2) (by omega)
      have hnone := horderly.answer id callId text c (hok ▸ response) hanswer
      have hupdated := updated B statusCode text c
      revert hupdated
      generalize (updateCall B statusCode text c).1 = result, (updateCall B statusCode text c).2 = c'
      intro hupdated
      cases hupdated with
      | answered _ _ _ _ answer => cases hanswer.symm.trans answer
      | _ => exact hnone
    rcases passOn_cases cfg B callId statusCode msg d (updateCall B statusCode text c).2 with
      ⟨-, -, _, he⟩ | ⟨-, _, he⟩ | ⟨hneither, _, he⟩
    · rw [he]
      exact fun _ => rfl
    · rw [he]
      exact fun _ => rfl
    · rw [he]
      refine fun _ => ⟨rfl, ?_⟩
      rcases hstatus with ⟨hok, -⟩ | hfailed
      · exact absurd ⟨hok, hrefused hok⟩ hneither
      · exact hfailed
  · rcases step_cancel cfg B cancel htag hnamed with ⟨msg, out, htask⟩ | hgone
    · exact .inl ⟨_, htask, fun _ => rfl⟩
    · exact .inr hgone

/-- A `Terminated` entry is about to be removed. -/
def Owed (s : Router) : Prop :=
  ∀ callId c, s.activeCalls.lookup callId = some c → c.state = .terminated →
    ∃ id task, s.tasks.lookup id = some task ∧ task.pc.Removes callId

theorem Owed.step {s : Router} (h : Owed s) (hp : s.poisoned = false) {event : RouterEvent}
    (horderly : Orderly cfg B s event) : Owed (s.step cfg B event) := by
  intro callId c' hc' hstate
  have hthere : (s.step cfg B event).activeCalls.lookup callId ≠ none := by
    rw [hc']
    exact nofun
  rcases terminates_of_terminated hc' hstate with ⟨c, hc, hold⟩ | ⟨id, hterminates⟩
  · obtain ⟨id, task, htask, hremoves⟩ := h callId c hc hold
    rcases removes_step hp htask hremoves event with ⟨task', htask', hremoves'⟩ | hgone
    · exact ⟨id, task', htask', hremoves'⟩
    · exact absurd hgone hthere
  · rcases removes_of_terminates hterminates horderly with ⟨task, htask, hremoves⟩ | hgone
    · exact ⟨id, task, htask, hremoves⟩
    · exact absurd hgone hthere

theorem run_owed (h : ∀ done event, done ++ [event] <+: events →
      Orderly cfg B (run cfg B media done) event) {done : List RouterEvent} (hdone : done <+: events) :
    Owed (run cfg B media done) := by
  have hstart : Owed (run cfg B media []) := by
    intro callId c hc
    cases (AList.lookup_empty callId).symm.trans hc
  refine prefix_induction (P := fun done => Owed (run cfg B media done)) hstart
    (fun done event _ hevent ih => ?_) List.nil_prefix hdone
  rw [run_append]
  have hp := run_accessible (fun done event hevent => (h done event hevent).readable)
    ((List.prefix_append _ _).trans hevent)
  exact ih.step hp (h done event hevent)

/-- **When call states move forward.** They do in every run without a 180 or 183 for a call that was
established, without a 200 without usable keys for such a call, without a panic under the lock, and
without an INVITE that leaks its session. -/
theorem states_forward (cfg : RouterConfig) (B : Base64) (portStart portEnd : UInt16) (mediaAddr : Str)
    (events : List RouterEvent)
    (h : ∀ done event, done ++ [event] <+: events →
      Orderly cfg B (run cfg B (.new portStart portEnd mediaAddr) done) event) :
    MovesForward cfg B (.new portStart portEnd mediaAddr) events := by
  have hreadable := fun done event hevent => (h done event hevent).readable
  refine ⟨?_, ?_, ?_⟩
  · intro early late callId c c' hearly hlate hc hc' hsame hbefore
    obtain ⟨hkeys, hleft⟩ := follows_run hearly hc hc' hsame
    have hsettled := run_settled h (hearly.trans hlate) callId c hc
    have hsettled' := run_settled h hlate callId c' hc'
    cases hstate' : c'.state with
    | trying =>
      refine hleft ?_ hstate'
      intro hstate
      rw [hstate, hstate'] at hbefore
      exact hbefore
    | ringing =>
      -- `Ringing` behind `Established`
      have hstate : c.state = .established := by
        rw [hstate'] at hbefore
        cases hstate : c.state with
        | established => rfl
        | _ => rw [hstate] at hbefore; exact hbefore.elim
      rcases hsettled'.2 (hkeys (hsettled.1 hstate)) with h | h
      · cases hstate'.symm.trans h
      · cases hstate'.symm.trans h
    | established => rw [hstate'] at hbefore; exact hbefore
    | terminated => rw [hstate'] at hbefore; exact hbefore
  · intro done hdone hidle callId c hc hstate
    obtain ⟨id, task, htask, hremoves⟩ := run_owed h hdone callId c hc hstate
    obtain ⟨out, hsending⟩ := hremoves.sending
    cases (hidle id task htask).symm.trans hsending
  · intro early event late id callId task hlate hevents hterminates htask hidle
    have hgone : ∃ mid, early ++ [event] <+: mid ∧ mid <+: late ∧
        (run cfg B (.new portStart portEnd mediaAddr) mid).activeCalls.lookup callId = none := by
      rcases removes_of_terminates hterminates (h early event (hlate.trans hevents)) with
        ⟨task', htask', hremoves⟩ | hgone
      · rw [← run_append] at htask'
        rcases removes_run hreadable hlate hevents htask' hremoves with ⟨task'', htask'', hremoves'⟩ | hgone
        · cases htask.symm.trans htask''
          obtain ⟨out, hsending⟩ := hremoves'.sending
          cases hidle.symm.trans hsending
        · exact hgone
      · rw [← run_append] at hgone
        exact ⟨_, List.prefix_refl _, hlate, hgone⟩
    obtain ⟨mid, hearly, hmid, hgone⟩ := hgone
    refine ⟨mid, hearly, hmid, hgone, ?_⟩
    have hmatched := run_matched (fun done event hevent => (h done event hevent).kept) (hmid.trans hevents)
    have hsessions := hmatched.sessions callId
    rw [hgone] at hsessions
    exact Option.not_isSome_iff_eq_none.mp (by rw [hsessions]; exact nofun)

/-! ## Two phones -/

theorem orderly_world (s : Router) (writers : Table Str ConnectionSink) (registrar : RegistrarService) :
    Orderly cfg B s (.world writers registrar) := by
  refine ⟨readable_world s writers registrar, ?_, ?_, ?_⟩
  · rintro ⟨_, _, _, _, _, _, _, _, _, _, _, ⟨⟩, -⟩
  · rintro _ _ _ _ _ ⟨_, _, ⟨⟩, -⟩
  · rintro _ _ _ _ ⟨_, _, ⟨⟩, -⟩

theorem orderly_invite (s : Router) {id : Nat} {msg : Incoming} {d : Draw} {contact : Option Str}
    (hcontact : extractContactUri msg.text = .ok contact) :
    Orderly cfg B s (.receive id .invite msg d) := by
  refine ⟨readable_invite s id msg d, ?_, ?_, ?_⟩
  · rintro ⟨_, _, _, _, _, _, _, _, _, _, _, ⟨⟩, -, -, -, -, -, hpanic⟩
    cases hcontact.symm.trans hpanic
  · rintro _ _ _ _ _ ⟨_, _, ⟨⟩, -⟩
  · rintro _ _ _ _ ⟨_, _, ⟨⟩, -⟩

theorem orderly_response {s : Router} {id : Nat} {msg : Incoming} {d : Draw} {callId : Str}
    {statusCode : Nat} {c : CallInfo} (hid : extractCallId msg.text = .ok (some callId))
    (hstatus : extractStatusCode msg.text = some statusCode)
    (hfound : s.activeCalls.lookup callId = some c) (hread : ¬ Unreadable statusCode msg.text c)
    (hnone : c.calleeRemoteCrypto = none) : Orderly cfg B s (.receive id .response msg d) := by
  refine ⟨readable_response hid hstatus hfound hread, ?_, ?_, ?_⟩
  · rintro ⟨_, _, _, _, _, _, _, _, _, _, _, ⟨⟩, -⟩
  · intro _ _ _ _ _ hresponse _
    obtain ⟨-, -, rfl⟩ := hresponse.unique hid hstatus hfound
    exact hnone
  · intro _ _ _ _ hresponse _
    obtain ⟨-, -, rfl⟩ := hresponse.unique hid hstatus hfound
    exact hnone

/-- 1001 calls 1002, which answers. -/
theorem states_forward_concrete :
    MovesForward phoneConfig .standard (.new 20000 20100 "192.0.2.1".toList)
      (phoneCalls ++ [phoneReply 1 "200 OK" (phoneSdp phoneCrypto)]) := by
  -- what is read of the INVITE and of the answer
  have hreads : extractContactUri (phoneInvite "Contact: <sip:1001@10.10.10.1>").text =
        .ok (some "sip:1001@10.10.10.1".toList) ∧
      extractCallId (phoneResponse "200 OK" (phoneSdp phoneCrypto)).text = .ok (some "c".toList) ∧
      extractStatusCode (phoneResponse "200 OK" (phoneSdp phoneCrypto)).text = some 200 ∧
      extractToTag (phoneResponse "200 OK" (phoneSdp phoneCrypto)).text = .ok (some "b".toList) ∧
      extractContactUri (phoneResponse "200 OK" (phoneSdp phoneCrypto)).text =
        .ok (some "sip:1002@10.10.10.2".toList) ∧
      (phoneCalled.activeCalls.lookup "c".toList).map (fun c => c.calleeRemoteCrypto) = some none := by
    decide +kernel
  obtain ⟨hcontact, hid, hstatus, htag, hcontact', hcall⟩ := hreads
  obtain ⟨c, hfound, hnone⟩ := Option.map_eq_some_iff.mp hcall
  have hread : ¬ Unreadable 200 (phoneResponse "200 OK" (phoneSdp phoneCrypto)).text c := by
    rintro (⟨-, -, e, he⟩ | ⟨-, -, e, he⟩)
    · cases htag.symm.trans he
    · cases hcontact'.symm.trans he
  refine states_forward _ _ _ _ _ _ ?_
  have hbefore : Stepwise (step phoneConfig .standard) (Orderly phoneConfig .standard)
      (start (.new 20000 20100 "192.0.2.1".toList)) phoneCalls :=
    ⟨orderly_world _ _ _, orderly_invite _ hcontact, trivial⟩
  have hafter : Stepwise (step phoneConfig .standard) (Orderly phoneConfig .standard) phoneCalled
      [phoneReply 1 "200 OK" (phoneSdp phoneCrypto)] :=
    ⟨orderly_response hid hstatus hfound hread hnone, trivial⟩
  rw [← phoneCalls_eq] at hafter
  exact (hbefore.append hafter).forall

/-- The call in a router: its INVITE, and its state. -/
def phoneState (s : Router) : Option (Nat × CallState) :=
  (s.activeCalls.lookup "c".toList).map fun c => (c.invite, c.state)

/-- Whether all executions have come to their end. -/
def phonesIdle (s : Router) : Bool := s.tasks.entries.all fun e => e.2.pc.sending.isNone

theorem phoneState_eq {s : Router} {invite : Nat} {state : CallState}
    (h : phoneState s = some (invite, state)) :
    ∃ c, s.activeCalls.lookup "c".toList = some c ∧ c.invite = invite ∧ c.state = state := by
  obtain ⟨c, hc, he⟩ := Option.map_eq_some_iff.mp h
  exact ⟨c, hc, congrArg Prod.fst he, congrArg Prod.snd he⟩

theorem phonesIdle_eq {s : Router} (h : phonesIdle s = true) {id : Nat} {task : Task}
    (htask : s.tasks.lookup id = some task) : task.pc.sending = none :=
  Option.isNone_iff_eq_none.mp (List.all_eq_true.mp h ⟨id, task⟩ (List.of_mem_dlookup htask))

/-- A 180 that comes behind the 200, and a second 200 without keys. -/
theorem state_backward :
    ¬ MovesForward phoneConfig .standard (.new 20000 20100 "192.0.2.1".toList)
      (phoneCalls ++ [phoneReply 1 "200 OK" (phoneSdp phoneCrypto), phoneReply 2 "180 Ringing" []]) ∧
    ¬ MovesForward phoneConfig .standard (.new 20000 20100 "192.0.2.1".toList)
      (phoneCalls ++ [phoneSent 0, phoneReply 1 "200 OK" (phoneSdp phoneCrypto), phoneSent 1,
        phoneReply 2 "200 OK" (phoneSdp []), phoneSent 2]) := by
  have hstates :
      phoneState ([phoneReply 1 "200 OK" (phoneSdp phoneCrypto)].foldl
        (step phoneConfig .standard) phoneCalled) = some (0, .established) ∧
      phoneState ([phoneReply 1 "200 OK" (phoneSdp phoneCrypto), phoneReply 2 "180 Ringing" []].foldl
        (step phoneConfig .standard) phoneCalled) = some (0, .ringing) ∧
      phoneState ([phoneSent 0, phoneReply 1 "200 OK" (phoneSdp phoneCrypto), phoneSent 1,
        phoneReply 2 "200 OK" (phoneSdp []), phoneSent 2].foldl (step phoneConfig .standard) phoneCalled) =
        some (0, .terminated) ∧
      phonesIdle ([phoneSent 0, phoneReply 1 "200 OK" (phoneSdp phoneCrypto), phoneSent 1,
        phoneReply 2 "200 OK" (phoneSdp []), phoneSent 2].foldl (step phoneConfig .standard) phoneCalled) =
        true := by decide +kernel
  obtain ⟨hestablished, hringing, hleft, hidle⟩ := hstates
  rw [← run_phoneCalls] at hestablished hringing hleft hidle
  obtain ⟨c, hc, hinvite, hstate⟩ := phoneState_eq hestablished
  obtain ⟨c', hc', hinvite', hstate'⟩ := phoneState_eq hringing
  obtain ⟨c'', hc'', -, hstate''⟩ := phoneState_eq hleft
  constructor
  · intro h
    have horder := h.order _ _ _ c c' (List.prefix_append_right_inj phoneCalls |>.mpr ⟨_, rfl⟩)
      (List.prefix_refl _) hc hc' (hinvite.trans hinvite'.symm)
    rw [hstate, hstate'] at horder
    exact horder trivial
  · intro h
    exact h.between _ (List.prefix_refl _) (fun _ _ => phonesIdle_eq hidle) _ c'' hc'' hstate''

end Router

end Minghe.Sip
