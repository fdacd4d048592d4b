import Minghe.Sip.Entries

/-!
# One kind of final answer

A CANCEL ends a call in any state, also one that is established, and so does a refusal that comes behind a
200; a 200 is passed on, whatever the other handlers are about to send. So a caller can get a 200 and a 487
for one INVITE.

* `Accepts`, `Refuses`: the event decides an INVITE that was forwarded.
* `Happens`: an event of the run did.
* `NoConflict`: what is expected of a run.
* `Decided`: an event that decides no INVITE against an earlier one.
* `finals_agree`: in a run in which no accepted INVITE is refused later, or the other way round, the caller
  never gets two final answers that conflict.
* `cancel_conflicts`: 1002 answers, then 1001 cancels: the caller gets a 200 and a 487.
-/

namespace Minghe.Sip

open Minghe.Lib
open Minghe.Media.Relay (MediaRelayManager)
open Minghe.Media.Srtp (Base64)

namespace Router

section

variable (B : Base64) (s : Router) (event : RouterEvent) (invite : Nat)

/-- The event hands a 200 with usable keys to the call of the INVITE. -/
def Accepts : Prop :=
  ∃ id callId text c, ResponseTo s event id callId text 200 c ∧ c.invite = invite ∧
    (answerCrypto B text).isSome = true ∧ ¬ Unreadable 200 text c

/-- The event refuses the INVITE, which was forwarded: the callee does, or its first 200 has no usable
keys, or the caller cancels, or the INVITE cannot be sent. -/
inductive Refuses : Prop
  | failed {id : Nat} {callId text : Str} {statusCode : Nat} {c : CallInfo}
      (response : ResponseTo s event id callId text statusCode c) (status : 300 ≤ statusCode)
      (invite_eq : c.invite = invite)
  | unsecured {id : Nat} {callId text : Str} {c : CallInfo}
      (response : ResponseTo s event id callId text 200 c) (answer : answerCrypto B text = none)
      (first : c.calleeRemoteCrypto = none) (read : ¬ Unreadable 200 text c) (invite_eq : c.invite = invite)
  | cancelled {id : Nat} {callId text : Str} {c : CallInfo} (cancel : CancelOf s event id callId text c)
      (tag : extractFromTag text = .ok (some c.callerTag)) (named : c.callerTag ≠ [])
      (invite_eq : c.invite = invite)
  | unsent {d : Draw} {task : Task} {callId : Str} {out : Outgoing}
      (event_eq : event = .resume invite false d) (running : s.tasks.lookup invite = some task)
      (place : task.pc = .invite callId out) (accessible : s.poisoned = false)

end

section

variable (cfg : RouterConfig) (B : Base64) (media : MediaRelayManager)

/-- An event of the run did this to the INVITE. -/
def Happens (P : Router → RouterEvent → Nat → Prop) (events : List RouterEvent) (invite : Nat) : Prop :=
  ∃ done event, done ++ [event] <+: events ∧ P (run cfg B media done) event invite

/-- **No conflicting final answers**: the caller gets no 200 and something worse for one INVITE, and a CANCEL
of a call that has been established leaves it and its media session alone and sends nothing. -/
structure NoConflict (events : List RouterEvent) : Prop where
  finals : ∀ done, done <+: events → ∀ invite code sink text response sink' text' response',
    .answer invite 200 sink text response ∈ (run cfg B media done).sent →
    .answer invite code sink' text' response' ∈ (run cfg B media done).sent → 200 ≤ code → code < 300
  cancelled : ∀ early done id msg d callId c₀ c, early <+: done →
    done ++ [.receive id .cancel msg d] <+: events →
    (run cfg B media early).activeCalls.lookup callId = some c₀ → c₀.state = .established →
    (run cfg B media done).tasks.lookup id = none → extractCallId msg.text = .ok (some callId) →
    (run cfg B media done).activeCalls.lookup callId = some c → c.invite = c₀.invite →
    (run cfg B media (done ++ [.receive id .cancel msg d])).activeCalls =
      (run cfg B media done).activeCalls ∧
    (run cfg B media (done ++ [.receive id .cancel msg d])).media = (run cfg B media done).media ∧
    ∀ task, (run cfg B media (done ++ [.receive id .cancel msg d])).tasks.lookup id = some task →
      task.pc.sending = none

/-- An event that accepts no INVITE which was refused earlier, and refuses none which was accepted. -/
structure Decided (done : List RouterEvent) (event : RouterEvent) : Prop where
  accepted : ∀ invite, Accepts B (run cfg B media done) event invite →
    ¬ Happens cfg B media (Refuses B) done invite
  refused : ∀ invite, Refuses B (run cfg B media done) event invite →
    ¬ Happens cfg B media (Accepts B) done invite

end

variable {cfg : RouterConfig} {B : Base64} {media : MediaRelayManager} {events : List RouterEvent}

/-! ## What has happened -/

section

variable {P : Router → RouterEvent → Nat → Prop} {done : List RouterEvent} {event : RouterEvent}
  {invite : Nat}

theorem not_happens_nil : ¬ Happens cfg B media P [] invite := by
  rintro ⟨done, event, hpart, -⟩
  cases (List.append_eq_nil_iff.mp (List.prefix_nil.mp hpart)).2

theorem happens_append : Happens cfg B media P (done ++ [event]) invite ↔
    Happens cfg B media P done invite ∨ P (run cfg B media done) event invite := by
  constructor
  · rintro ⟨done', event', hpart, h⟩
    rcases List.prefix_concat_iff.mp hpart with he | hold
    · obtain ⟨rfl, hlast⟩ := List.append_inj' he rfl
      cases hlast
      exact .inr h
    · exact .inl ⟨done', event', hold, h⟩
  · rintro (⟨done', event', hpart, h⟩ | h)
    · exact ⟨done', event', hpart.trans (List.prefix_append _ _), h⟩
    · exact ⟨done, event, List.prefix_refl _, h⟩

theorem Happens.mono {late : List RouterEvent} (h : Happens cfg B media P done invite)
    (hlate : done <+: late) : Happens cfg B media P late invite := by
  obtain ⟨done', event', hpart, h⟩ := h
  exact ⟨done', event', hpart.trans hlate, h⟩

end

/-- One event does not do both. -/
theorem not_refuses_of_accepts {s : Router} {event : RouterEvent} {invite : Nat}
    (haccepts : Accepts B s event invite) : ¬ Refuses B s event invite := by
  obtain ⟨id, callId, text, c, hresponse, -, hanswer, -⟩ := haccepts
  obtain ⟨msg, d, rfl, rfl, -, -, hid, hstatus, hfound⟩ := hresponse
  intro hrefuses
  cases hrefuses with
  | failed response status =>
    obtain ⟨-, rfl, -⟩ := response.unique hid hstatus hfound
    exact absurd status (by decide)
  | unsecured response answer =>
    obtain ⟨rfl, -, -⟩ := response.unique hid hstatus hfound
    rw [answer] at hanswer
    cases hanswer
  | cancelled cancel =>
    obtain ⟨_, _, he, -⟩ := cancel
    cases he
  | unsent event_eq => cases event_eq

/-- The events that may refuse an INVITE. -/
theorem Refuses.event_eq {s : Router} {event : RouterEvent} {invite : Nat} (h : Refuses B s event invite) :
    (∃ id msg d, event = .receive id .response msg d) ∨
      (∃ id msg d, event = .receive id .cancel msg d) ∨ ∃ d, event = .resume invite false d := by
  cases h with
  | failed response =>
    obtain ⟨msg, d, he, -⟩ := response
    exact .inl ⟨_, msg, d, he⟩
  | unsecured response =>
    obtain ⟨msg, d, he, -⟩ := response
    exact .inl ⟨_, msg, d, he⟩
  | cancelled cancel =>
    obtain ⟨msg, d, he, -⟩ := cancel
    exact .inr (.inl ⟨_, msg, d, he⟩)
  | unsent event_eq => exact .inr (.inr ⟨_, event_eq⟩)

/-- What was decided stays decided. -/
theorem not_both (h : ∀ done event, done ++ [event] <+: events → Decided cfg B media done event)
    {done : List RouterEvent} (hdone : done <+: events) (invite : Nat) :
    ¬ (Happens cfg B media (Accepts B) done invite ∧ Happens cfg B media (Refuses B) done invite) := by
  refine prefix_induction (P := fun done => ¬ (Happens cfg B media (Accepts B) done invite ∧
    Happens cfg B media (Refuses B) done invite)) (fun h => not_happens_nil h.1)
    (fun done event _ hevent ih => ?_) List.nil_prefix hdone
  have hdecided := h done event hevent
  rw [happens_append, happens_append]
  rintro ⟨hearly | hnow, hearly' | hnow'⟩
  · exact ih ⟨hearly, hearly'⟩
  · exact hdecided.refused invite hnow' hearly
  · exact hdecided.accepted invite hnow hearly'
  · exact not_refuses_of_accepts hnow hnow'

/-! ## Calls that were accepted -/

/-- A call that is established has the callee's keys, and these come from a 200. -/
theorem run_accepted {callId : Str} {c : CallInfo}
    (h : (run cfg B media events).activeCalls.lookup callId = some c) :
    (c.state = .established → c.calleeRemoteCrypto.isSome = true) ∧
      (c.calleeRemoteCrypto.isSome = true → Happens cfg B media (Accepts B) events c.invite) := by
  induction events using List.reverseRecOn generalizing c with
  | nil => cases (AList.lookup_empty callId).symm.trans h
  | append_singleton events event ih =>
    have hold : ∀ {c : CallInfo}, (run cfg B media events).activeCalls.lookup callId = some c →
        (c.state = .established → c.calleeRemoteCrypto.isSome = true) ∧
          (c.calleeRemoteCrypto.isSome = true →
            Happens cfg B media (Accepts B) (events ++ [event]) c.invite) :=
      fun hc => ⟨(ih hc).1, fun hkeys => happens_append.mpr (.inl ((ih hc).2 hkeys))⟩
    rw [run_append] at h
    cases entryStep h with
    | kept found => exact hold found
    | opened => exact ⟨nofun, nofun⟩
    | @answered id text statusCode c₀ response =>
      have hc := hold response.found
      have hread : (updateCall B statusCode text c₀).1 = .ok () → ¬ Unreadable statusCode text c₀ :=
        readable_of_ok
      have hupdated := updated B statusCode text c₀
      revert hupdated hread
      generalize (updateCall B statusCode text c₀).1 = result, (updateCall B statusCode text c₀).2 = c'
      intro hread hupdated
      cases hupdated with
      | passed => exact hc
      | ringing => exact ⟨nofun, hc.2⟩
      | answered _ _ _ status answer =>
        subst status
        refine ⟨fun _ => rfl, fun _ => happens_append.mpr (.inr ?_)⟩
        exact ⟨id, callId, text, c₀, response, rfl, by rw [answer]; rfl, hread rfl⟩
      | refused => exact ⟨nofun, hc.2⟩
      | unread => exact hc
      | failed => exact ⟨nofun, hc.2⟩
    | @cancelled _ _ c₀ cancel => exact ⟨nofun, (hold cancel.found).2⟩
    | @started c₀ found => exact hold (c := c₀) found

/-! ## Calls that were refused -/

/-- A call whose CANCEL is sent on was cancelled. -/
theorem run_cancelled {id : Nat} {task : Task} {callId originalInvite : Str} {invite : Nat} {out : Outgoing}
    (h : (run cfg B media events).tasks.lookup id = some task)
    (hpc : task.pc = .cancel callId originalInvite invite out) :
    Happens cfg B media (Refuses B) events invite := by
  induction events using List.reverseRecOn generalizing task with
  | nil => cases (AList.lookup_empty id).symm.trans h
  | append_singleton events event ih =>
    rw [happens_append]
    rw [run_append] at h
    have hstep := stepped cfg B (run cfg B media events) event
    revert hstep h
    generalize (run cfg B media events).step cfg B event = s'
    intro h hstep
    cases hstep with
    | idle => exact .inl (ih h hpc)
    | world => exact .inl (ih h hpc)
    | @received id' handler msg d pc s₁ fresh handled =>
      rw [settle_tasks] at h
      split at h
      · cases h
        change pc = _ at hpc
        right
        cases handled with
        | quiet _ quiet =>
          rw [hpc] at quiet
          exact quiet.elim
        | refused _ _ _ idle =>
          rw [hpc] at idle
          cases idle
        | @answered callId' statusCode c =>
          rcases passOn_cases cfg B callId' statusCode msg d (updateCall B statusCode msg.text c).2 with
            ⟨-, -, _, he⟩ | ⟨-, _, he⟩ | ⟨-, _, he⟩
          · cases he.symm.trans hpc
          · cases he.symm.trans hpc
          · cases he.symm.trans hpc
        | cancelled callId_eq poisoned found read tag named =>
          cases hpc
          exact .cancelled ⟨msg, d, rfl, rfl, fresh, poisoned, callId_eq, found⟩ (tag ▸ read) named rfl
        | _ => cases hpc
      · rw [handled.frame.1] at h
        exact .inl (ih h hpc)
    | resumed running sending proceeded =>
      rw [settle_tasks] at h
      split at h
      · cases h
        cases proceeded <;> cases hpc
      · rw [proceeded.frame.1] at h
        exact .inl (ih h hpc)

/-- The INVITE was handled, and there is no call of it. -/
def Unopened (s : Router) (invite : Nat) : Prop :=
  (s.tasks.lookup invite).isSome = true ∧
    ∀ callId c, s.activeCalls.lookup callId = some c → c.invite ≠ invite

theorem Unopened.not_accepts {s : Router} {event : RouterEvent} {invite : Nat} (h : Unopened s invite) :
    ¬ Accepts B s event invite := by
  rintro ⟨_, callId, _, c, hresponse, he, -⟩
  exact h.2 callId c hresponse.found he

theorem Unopened.step {s : Router} {invite : Nat} (h : Unopened s invite) (event : RouterEvent) :
    Unopened (s.step cfg B event) invite := by
  refine ⟨isSome_tasks_step h.1 event, fun callId c hc => ?_⟩
  cases entryStep hc with
  | kept found => exact h.2 callId c found
  | @opened id _ _ _ _ _ _ _ _ event_eq fresh =>
    intro he
    have hknown := h.1
    rw [← show id = invite from he, fresh] at hknown
    cases hknown
  | @answered _ text statusCode c₀ response =>
    obtain ⟨_, _, _, _, _, he⟩ := updateCall_eq B statusCode text c₀
    rw [he]
    exact h.2 callId c₀ response.found
  | @cancelled _ _ c₀ cancel => exact h.2 callId c₀ cancel.found
  | @started c₀ found => exact h.2 callId c₀ found

/-- An INVITE that was accepted has been handled. -/
theorem known_of_accepted {invite : Nat} (h : Happens cfg B media (Accepts B) events invite) :
    ((run cfg B media events).tasks.lookup invite).isSome = true := by
  obtain ⟨done, event, hpart, _, callId, _, c, hresponse, rfl, -⟩ := h
  have hknown := run_known cfg B media done callId c hresponse.found
  exact isSome_tasks_run ((List.prefix_append _ _).trans hpart) hknown

/-! ## What is behind an answer -/

/-- A final answer to an INVITE comes from what was decided on it, or the INVITE was refused at once. -/
def Justified (cfg : RouterConfig) (B : Base64) (media : MediaRelayManager) (events : List RouterEvent)
    (out : Outgoing) : Prop :=
  ∀ invite code sink text response, out = .answer invite code sink text response →
    (code = 200 → Happens cfg B media (Accepts B) events invite) ∧
    (300 ≤ code → Happens cfg B media (Refuses B) events invite ∨
      (Unopened (run cfg B media events) invite ∧ ¬ Happens cfg B media (Accepts B) events invite))

theorem Justified.append {out : Outgoing} (h : Justified cfg B media events out) (event : RouterEvent) :
    Justified cfg B media (events ++ [event]) out := by
  intro invite code sink text response he
  obtain ⟨hok, hfailed⟩ := h invite code sink text response he
  refine ⟨fun hcode => happens_append.mpr (.inl (hok hcode)), fun hcode => ?_⟩
  rcases hfailed hcode with hrefused | ⟨hunopened, hnot⟩
  · exact .inl (happens_append.mpr (.inl hrefused))
  · refine .inr ⟨by rw [run_append]; exact hunopened.step event, ?_⟩
    rw [happens_append]
    exact not_or.mpr ⟨hnot, hunopened.not_accepts⟩

/-- What a response that was read has sent on, or refused. -/
theorem justified_of_passOn {event : RouterEvent} {id statusCode : Nat} {callId : Str} {c : CallInfo}
    {msg : Incoming} {d : Draw} {out : Outgoing}
    (hresponse : ResponseTo (run cfg B media events) event id callId msg.text statusCode c)
    (hread : (updateCall B statusCode msg.text c).1 = .ok ())
    (hsending : (passOn cfg B callId statusCode msg d (updateCall B statusCode msg.text c).2).sending =
      some out) : Justified cfg B media (events ++ [event]) out := by
  have hunread := readable_of_ok hread
  have hlocal := run_callerLocalCrypto hresponse.found
  have hkeys := (run_accepted hresponse.found).2
  have hupdated := updated B statusCode msg.text c
  obtain ⟨_, _, _, _, _, hkept⟩ := updateCall_eq B statusCode msg.text c
  rcases passOn_cases cfg B callId statusCode msg d (updateCall B statusCode msg.text c).2 with
    ⟨rfl, hnone, _, he⟩ | ⟨hnone, _, he⟩ | ⟨hneither, text, he⟩
  · -- a first 200 without usable keys
    rw [he] at hsending
    cases hsending
    rintro _ _ _ _ _ ⟨⟩
    refine ⟨nofun, fun _ => .inl (happens_append.mpr (.inr ?_))⟩
    rw [show (updateCall B 200 msg.text c).2.invite = c.invite by rw [hkept]]
    rw [hread] at hupdated
    revert hupdated hnone
    generalize (updateCall B 200 msg.text c).2 = c'
    intro hupdated hnone
    cases hupdated with
    | passed status other => exact absurd (by decide) other
    | ringing _ status => omega
    | answered => cases hnone
    | refused _ _ _ answer => exact .unsecured hresponse answer hnone hunread rfl
    | failed status => omega
  · rw [show (updateCall B statusCode msg.text c).2.callerLocalCrypto = c.callerLocalCrypto by
      rw [hkept]] at hnone
    rw [hnone] at hlocal
    cases hlocal
  · rw [he] at hsending
    cases hsending
    rintro _ _ _ _ _ ⟨⟩
    rw [show (updateCall B statusCode msg.text c).2.invite = c.invite by rw [hkept]]
    refine ⟨?_, fun hcode => .inl (happens_append.mpr (.inr (.failed hresponse hcode rfl)))⟩
    rintro rfl
    rw [happens_append]
    -- the keys are those of this 200, or of one before
    rw [hread] at hupdated
    revert hupdated hneither
    generalize (updateCall B 200 msg.text c).2 = c'
    intro hupdated hneither
    have hsome : c'.calleeRemoteCrypto.isSome = true :=
      Option.isSome_iff_ne_none.mpr fun hnone => hneither ⟨rfl, hnone⟩
    cases hupdated with
    | answered _ _ _ _ answer =>
      exact .inr ⟨id, callId, msg.text, c, hresponse, rfl, by rw [answer]; rfl, hunread⟩
    | _ => exact .inl (hkeys hsome)

theorem justified_of_sends {event : RouterEvent} {out : Outgoing}
    (h : Sends cfg B (run cfg B media events) event out) : Justified cfg B media (events ++ [event]) out := by
  cases h with
  | request => exact nofun
  | @declined id statusCode msg d text event_eq fresh status opens =>
    rintro _ _ _ _ _ ⟨⟩
    refine ⟨fun hcode => absurd status (by omega), fun _ => .inr ⟨⟨?_, fun callId c hc => ?_⟩, ?_⟩⟩
    · rw [run_append, event_eq]
      exact isSome_tasks_receive _ _ _ _ _
    · rintro rfl
      rw [run_append] at hc
      have hknown := run_known cfg B media events callId c (opens callId c hc)
      rw [fresh] at hknown
      cases hknown
    · rw [happens_append]
      rintro (hearly | ⟨_, _, _, _, ⟨_, _, he, -⟩, -⟩)
      · have hknown := known_of_accepted hearly
        rw [fresh] at hknown
        cases hknown
      · cases event_eq.symm.trans he
  | @invited id taken d task callId text sink out event_eq running place failed =>
    rintro _ _ _ _ _ ⟨⟩
    cases taken with
    | true => exact ⟨nofun, fun hcode => absurd hcode (by decide)⟩
    | false =>
      have hunsent := Refuses.unsent (B := B) event_eq running place (failed rfl)
      exact ⟨nofun, fun _ => .inl (happens_append.mpr (.inr hunsent))⟩
  | answered response read sending => exact justified_of_passOn response read sending
  | @terminated id taken d task callId originalInvite text invite sink out event_eq running place =>
    rintro _ _ _ _ _ ⟨⟩
    exact ⟨nofun, fun _ => .inl (happens_append.mpr (.inl (run_cancelled running place)))⟩

theorem run_justified {out : Outgoing} (h : Sending (run cfg B media events) out) :
    Justified cfg B media events out := by
  induction events using List.reverseRecOn with
  | nil =>
    rcases h with hsent | ⟨id, task, htask, -⟩
    · cases hsent
    · cases (AList.lookup_empty id).symm.trans htask
  | append_singleton events event ih =>
    rw [run_append] at h
    rcases sends_of_step (run_places cfg B media events) h with hold | hnew
    · exact (ih hold).append event
    · exact justified_of_sends hnew

/-- **When final answers do not conflict.** They do not in any run in which no INVITE that was accepted is
refused later, or the other way round. -/
theorem finals_agree (cfg : RouterConfig) (B : Base64) (media : MediaRelayManager) (events : List RouterEvent)
    (h : ∀ done event, done ++ [event] <+: events → Decided cfg B media done event) :
    NoConflict cfg B media events := by
  constructor
  · intro done hdone invite code sink text response sink' text' response' hok hcode hfinal
    by_contra hbad
    have haccepted := (run_justified (.inl hok) _ _ _ _ _ rfl).1 rfl
    rcases (run_justified (.inl hcode) _ _ _ _ _ rfl).2 (by omega) with hrefused | ⟨-, hnot⟩
    · exact not_both h hdone invite ⟨haccepted, hrefused⟩
    · exact hnot haccepted
  · intro early done id msg d callId c₀ c hearly hdone hc₀ hestablished hfresh hid hc hsame
    obtain ⟨hkeys, hhappens⟩ := run_accepted hc₀
    have haccepted := (hhappens (hkeys hestablished)).mono hearly
    have hstranger : (run cfg B media done).poisoned = false →
        extractFromTag msg.text = .ok (some c.callerTag) → c.callerTag = [] := by
      intro hp htag
      by_contra hnamed
      exact (h done _ hdone).refused _
        (.cancelled ⟨msg, d, rfl, rfl, hfresh, hp, hid, hc⟩ htag hnamed hsame) haccepted
    obtain ⟨pc, poisoned, hidle, he⟩ := handleCancel_stranger cfg d hid hc hstranger
    rw [run_append, step_receive hfresh,
      show (run cfg B media done).handle cfg B id .cancel msg d = _ from he]
    refine ⟨rfl, rfl, fun task htask => ?_⟩
    rw [settle_tasks, if_pos rfl] at htask
    cases htask
    exact hidle

/-! ## Two phones -/

/-- 1002 answers. -/
theorem finals_agree_concrete :
    NoConflict phoneConfig .standard (.new 20000 20100 "192.0.2.1".toList)
      (phoneCalls ++ [phoneReply 1 "200 OK" (phoneSdp phoneCrypto), phoneSent 1]) := by
  have hreads : extractCallId (phoneResponse "200 OK" (phoneSdp phoneCrypto)).text = .ok (some "c".toList) ∧
      extractStatusCode (phoneResponse "200 OK" (phoneSdp phoneCrypto)).text = some 200 ∧
      (phoneCalled.activeCalls.lookup "c".toList).isSome = true ∧
      (answerCrypto .standard (phoneResponse "200 OK" (phoneSdp phoneCrypto)).text).isSome = true := by
    decide +kernel
  obtain ⟨hid, hstatus, hcall, hanswer⟩ := hreads
  obtain ⟨c, hfound⟩ := Option.isSome_iff_exists.mp hcall
  have hother : ∀ {s : Router} {event : RouterEvent} (invite : Nat),
      (∀ id msg d, event ≠ .receive id .response msg d ∧ event ≠ .receive id .cancel msg d) →
      (∀ d, event ≠ .resume invite false d) → ¬ Refuses .standard s event invite := by
    intro s event invite hreceive hresume h
    rcases h.event_eq with ⟨id, msg, d, he⟩ | ⟨id, msg, d, he⟩ | ⟨d, he⟩
    · exact (hreceive id msg d).1 he
    · exact (hreceive id msg d).2 he
    · exact hresume d he
  have hanswered : ∀ invite, ¬ Refuses .standard phoneCalled
      (phoneReply 1 "200 OK" (phoneSdp phoneCrypto)) invite := by
    intro invite h
    cases h with
    | failed response status =>
      obtain ⟨-, rfl, -⟩ := response.unique hid hstatus hfound
      exact absurd status (by decide)
    | unsecured response answer =>
      obtain ⟨rfl, -, -⟩ := response.unique hid hstatus hfound
      rw [answer] at hanswer
      cases hanswer
    | cancelled cancel =>
      obtain ⟨_, _, he, -⟩ := cancel
      cases he
    | unsent event_eq => cases event_eq
  have hbefore : Stepwise (step phoneConfig .standard)
      (fun s event => ∀ invite, ¬ Refuses .standard s event invite)
      (start (.new 20000 20100 "192.0.2.1".toList)) phoneCalls :=
    ⟨fun invite => hother invite (fun _ _ _ => ⟨nofun, nofun⟩) nofun,
      fun invite => hother invite (fun _ _ _ => ⟨nofun, nofun⟩) nofun, trivial⟩
  have hafter : Stepwise (step phoneConfig .standard)
      (fun s event => ∀ invite, ¬ Refuses .standard s event invite) phoneCalled
      [phoneReply 1 "200 OK" (phoneSdp phoneCrypto), phoneSent 1] :=
    ⟨hanswered, fun invite => hother invite (fun _ _ _ => ⟨nofun, nofun⟩) nofun, trivial⟩
  rw [← phoneCalls_eq] at hafter
  have hnever := (hbefore.append hafter).forall
  refine finals_agree _ _ _ _ fun done event hevent =>
    ⟨fun invite _ hrefused => ?_, fun invite hrefuses => ?_⟩
  · obtain ⟨done', event', hpart, h⟩ := hrefused
    exact hnever done' event' (hpart.trans ((List.prefix_append _ _).trans hevent)) invite h
  · exact absurd hrefuses (hnever done event hevent invite)

/-- The CANCEL of 1001. -/
def phoneCancel : Incoming where
  text := phoneText "CANCEL sip:1002@example.com SIP/2.0"
    ["To: <sip:1002@example.com>", "CSeq: 1 CANCEL"] []
  sink := .stream 1
  fromAddr := phoneAddr 1
  connectionExt := some "1001".toList

/-- The final answers to an INVITE, by their codes. -/
def finalCodes (invite : Nat) (s : Router) : List Nat :=
  s.sent.filterMap fun
    | .answer invite' code _ _ _ => if invite' = invite ∧ 200 ≤ code then some code else none
    | .request .. => none

theorem answer_of_finalCodes {invite code : Nat} {s : Router} (h : code ∈ finalCodes invite s) :
    ∃ sink text response, .answer invite code sink text response ∈ s.sent := by
  obtain ⟨out, hsent, hout⟩ := List.mem_filterMap.mp h
  split at hout
  · split at hout
    · rename_i hinvite
      cases hout
      obtain rfl := hinvite.1
      exact ⟨_, _, _, hsent⟩
    · cases hout
  · cases hout

/-- 1002 answers, and then 1001 cancels. -/
theorem cancel_conflicts :
    ¬ NoConflict phoneConfig .standard (.new 20000 20100 "192.0.2.1".toList)
      (phoneCalls ++ [phoneReply 1 "200 OK" (phoneSdp phoneCrypto), phoneSent 1,
        .receive 2 .cancel phoneCancel phoneDraw, phoneSent 2, phoneSent 2]) := by
  have hcodes : finalCodes 0 ([phoneReply 1 "200 OK" (phoneSdp phoneCrypto), phoneSent 1,
      .receive 2 .cancel phoneCancel phoneDraw, phoneSent 2, phoneSent 2].foldl
        (step phoneConfig .standard) phoneCalled) = [200, 487] := by decide +kernel
  rw [← run_phoneCalls] at hcodes
  obtain ⟨_, _, _, hok⟩ := answer_of_finalCodes (by rw [hcodes]; exact List.mem_cons_self)
  obtain ⟨_, _, _, hterminated⟩ :=
    answer_of_finalCodes (by rw [hcodes]; exact List.mem_cons_of_mem 200 List.mem_cons_self)
  intro h
  exact absurd (h.finals _ (List.prefix_refl _) _ _ _ _ _ _ _ _ hok hterminated (by decide)) (by decide)

end Router

end Minghe.Sip
