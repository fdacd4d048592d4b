import Minghe.Lib.Run
import Minghe.Sip.Calls

/-!
# Entries and executions over a run

What is shared by the laws about whole runs of the router: what an event does to one entry of
`active_calls`, that an execution is known for good, that the table stays accessible while no handler
panics under its lock, and that an execution which has a call to remove removes it.

* `ResponseTo`, `CancelOf`: the event is a response to a call, or a CANCEL of it.
* `EntryStep`: all that an event does to one entry.
* `Concerns`: the event is a message of a call, or goes on with the execution of one.
* `Sends`: all that is new to be sent with an event.
* `Readable`: the event makes no handler panic under the lock.
* `Pc.Removes`: the execution ends with a cleanup of the call.
* `entryStep`: all that an event does to one entry.
* `run_entry`, `removes_run`: what an INVITE writes into its entry and nothing later changes holds in every
  run; what is to be removed is removed before the execution ends.
* `sameCall_step`, `run_others`: events of other calls leave a call as it is.
* `sends_of_step`: all that is sent with an event.
* `run_known`, `run_places`, `run_accessible`: in every run the executions that opened the calls are known,
  those of INVITEs are at their send or at their end, and the table stays accessible while no handler
  panics under its lock.
-/

namespace Minghe.Sip

open Minghe.Lib
open Minghe.Media.Relay (MediaRelayManager RelaySession)
open Minghe.Media.Srtp (Base64 SuiteKeys)

/-- The places whose execution ends with a cleanup of the call, however the send comes to its end. -/
def Pc.Removes (callId : Str) (pc : Pc) : Prop := ∀ taken, pc.Ends taken callId

/-- The call of an execution that is sending something, unless it is an ACK. -/
def Pc.callId : Pc → Option Str
  | .invite callId _ | .reject callId _ | .forward callId _ _ | .bye callId _ | .cancel callId _ _ _
  | .terminate callId _ => some callId
  | .ack _ | .done _ | .panicked => none

theorem Pc.Ends.callId {taken : Bool} {callId : Str} {pc : Pc} (h : pc.Ends taken callId) :
    pc.callId = some callId := by
  cases pc with
  | invite => exact congrArg some h.1
  | forward => exact congrArg some h.1
  | ack => exact h.elim
  | done => exact h.elim
  | panicked => exact h.elim
  | _ => exact congrArg some h

theorem Pc.Removes.sending {callId : Str} {pc : Pc} (h : pc.Removes callId) :
    ∃ out, pc.sending = some out := by
  cases pc with
  | done => exact (h true).elim
  | panicked => exact (h true).elim
  | _ => exact ⟨_, rfl⟩

namespace Router

section

variable (s : Router) (event : RouterEvent)

/-- The event hands a response to the call `c` to a new execution. -/
def ResponseTo (id : Nat) (callId text : Str) (statusCode : Nat) (c : CallInfo) : Prop :=
  ∃ msg d, event = .receive id .response msg d ∧ msg.text = text ∧ s.tasks.lookup id = none ∧
    s.poisoned = false ∧ extractCallId text = .ok (some callId) ∧
    extractStatusCode text = some statusCode ∧ s.activeCalls.lookup callId = some c

/-- The event hands a CANCEL with the Call-ID of `c` to a new execution. -/
def CancelOf (id : Nat) (callId text : Str) (c : CallInfo) : Prop :=
  ∃ msg d, event = .receive id .cancel msg d ∧ msg.text = text ∧ s.tasks.lookup id = none ∧
    s.poisoned = false ∧ extractCallId text = .ok (some callId) ∧ s.activeCalls.lookup callId = some c

/-- A response that is read under the lock with a panic: its tag, or its contact. -/
def Unreadable (statusCode : Nat) (text : Str) (c : CallInfo) : Prop :=
  (statusCode ∈ [180, 183, 200] ∧ c.calleeTag = none ∧ ∃ e, extractToTag text = .error e) ∨
    (statusCode = 200 ∧ c.calleeRemoteContact = none ∧ ∃ e, extractContactUri text = .error e)

/-- The event makes no handler panic under the lock. -/
structure Readable : Prop where
  response : ∀ id callId text statusCode c, ResponseTo s event id callId text statusCode c →
    ¬ Unreadable statusCode text c
  cancel : ∀ id callId text c, CancelOf s event id callId text c →
    ∃ fromTag, extractFromTag text = .ok fromTag

/-- All that an event does to the entry of one Call-ID, if there is one then. -/
inductive EntryStep (B : Base64) (callId : Str) : CallInfo → Prop
  | kept {c : CallInfo} (found : s.activeCalls.lookup callId = some c) : EntryStep B callId c
  | opened {id : Nat} {msg : Incoming} {d : Draw} {callerExt calleeExt callerTag : Str}
      {contact : Option Str} {plan : InvitePlan} {session : RelaySession}
      (event_eq : event = .receive id .invite msg d) (fresh : s.tasks.lookup id = none) :
    EntryStep B callId (newCall id msg callerExt calleeExt callId callerTag contact plan session d)
  | answered {id : Nat} {text : Str} {statusCode : Nat} {c : CallInfo}
      (response : ResponseTo s event id callId text statusCode c) :
    EntryStep B callId (updateCall B statusCode text c).2
  | cancelled {id : Nat} {text : Str} {c : CallInfo} (cancel : CancelOf s event id callId text c)
      (tag : extractFromTag text = .ok (some c.callerTag)) (named : c.callerTag ≠ []) :
    EntryStep B callId { c with state := .terminated }
  | started {c : CallInfo} (found : s.activeCalls.lookup callId = some c) :
    EntryStep B callId { c with relayStarted := true }

end

variable {cfg : RouterConfig} {B : Base64}

theorem ResponseTo.found {s : Router} {event : RouterEvent} {id : Nat} {callId text : Str}
    {statusCode : Nat} {c : CallInfo} (h : ResponseTo s event id callId text statusCode c) :
    s.activeCalls.lookup callId = some c := by
  obtain ⟨_, _, -, -, -, -, -, -, h⟩ := h
  exact h

theorem CancelOf.found {s : Router} {event : RouterEvent} {id : Nat} {callId text : Str} {c : CallInfo}
    (h : CancelOf s event id callId text c) : s.activeCalls.lookup callId = some c := by
  obtain ⟨_, _, -, -, -, -, -, h⟩ := h
  exact h

/-- A response is to one call, with one status. -/
theorem ResponseTo.unique {s : Router} {id : Nat} {msg : Incoming} {d : Draw} {callId : Str}
    {statusCode : Nat} {c : CallInfo} (hid : extractCallId msg.text = .ok (some callId))
    (hstatus : extractStatusCode msg.text = some statusCode) (hfound : s.activeCalls.lookup callId = some c)
    {id' : Nat} {callId' text : Str} {statusCode' : Nat} {c' : CallInfo}
    (h : ResponseTo s (.receive id .response msg d) id' callId' text statusCode' c') :
    text = msg.text ∧ statusCode' = statusCode ∧ c' = c := by
  obtain ⟨_, _, he, rfl, -, -, hid', hstatus', hfound'⟩ := h
  cases he
  cases hid.symm.trans hid'
  cases hstatus.symm.trans hstatus'
  cases hfound.symm.trans hfound'
  exact ⟨rfl, rfl, rfl⟩

theorem readable_world (s : Router) (writers : Table Str ConnectionSink) (registrar : RegistrarService) :
    Readable s (.world writers registrar) := by
  constructor
  · rintro _ _ _ _ _ ⟨_, _, ⟨⟩, -⟩
  · rintro _ _ _ _ ⟨_, _, ⟨⟩, -⟩

theorem readable_invite (s : Router) (id : Nat) (msg : Incoming) (d : Draw) :
    Readable s (.receive id .invite msg d) := by
  constructor
  · rintro _ _ _ _ _ ⟨_, _, ⟨⟩, -⟩
  · rintro _ _ _ _ ⟨_, _, ⟨⟩, -⟩

theorem readable_response {s : Router} {id : Nat} {msg : Incoming} {d : Draw} {callId : Str}
    {statusCode : Nat} {c : CallInfo} (hid : extractCallId msg.text = .ok (some callId))
    (hstatus : extractStatusCode msg.text = some statusCode)
    (hfound : s.activeCalls.lookup callId = some c) (hread : ¬ Unreadable statusCode msg.text c) :
    Readable s (.receive id .response msg d) := by
  constructor
  · intro _ _ _ _ _ h
    obtain ⟨rfl, rfl, rfl⟩ := h.unique hid hstatus hfound
    exact hread
  · rintro _ _ _ _ ⟨_, _, ⟨⟩, -⟩

theorem unreadable_of_error {statusCode : Nat} {text : Str} {c : CallInfo} {e : Fault Empty}
    (h : (updateCall B statusCode text c).1 = .error e) : Unreadable statusCode text c := by
  have htag : ∀ c', (learnTag text c').1 = .error e → c'.calleeTag = none ∧ ∃ e, extractToTag text = .error e := by
    intro c' h
    unfold learnTag at h
    split at h
    · rename_i hnone
      split at h
      · rename_i e' he
        exact ⟨Option.isNone_iff_eq_none.mp hnone, e', he⟩
      · cases h
    · cases h
  unfold updateCall at h
  split at h
  · cases h
  split at h
  · rename_i hstatus
    refine .inl ⟨?_, htag { c with state := .ringing } h⟩
    simp only [List.mem_cons, List.not_mem_nil, or_false]
    omega
  split at h
  · rename_i hstatus
    obtain ⟨result, tag, hlearn⟩ := learnTag_eq text c
    have htag := htag c
    rw [hlearn] at h htag
    cases result with
    | error e' =>
      cases h
      exact .inl ⟨by simp [hstatus], htag rfl⟩
    | ok _ =>
      refine .inr ⟨hstatus, ?_⟩
      dsimp only at h
      unfold learnContact at h
      split at h
      · rename_i hcontact
        split at hcontact
        · rename_i hnone
          split at hcontact
          · rename_i e' he
            exact ⟨Option.isNone_iff_eq_none.mp hnone, e', he⟩
          · cases hcontact
        · cases hcontact
      · rename_i c' hcontact
        rcases readAnswer_cases B text c' with ⟨_, _, -, he⟩ | ⟨-, he⟩
        · rw [he] at h
          cases h
        · rw [he] at h
          cases h
  split at h
  · cases h
  · cases h

theorem readable_of_ok {statusCode : Nat} {text : Str} {c : CallInfo}
    (h : (updateCall B statusCode text c).1 = .ok ()) : ¬ Unreadable statusCode text c := by
  have htag : ∀ c' : CallInfo, c'.calleeTag = c.calleeTag → c.calleeTag = none → ∀ e,
      extractToTag text = .error e → learnTag text c' = (.error e, c') := by
    intro c' hc' hnone e he
    unfold learnTag
    rw [hc', hnone, he]
    rfl
  rintro (⟨hstatus, hnone, e, he⟩ | ⟨rfl, hnone, e, he⟩)
  · unfold updateCall at h
    simp only [List.mem_cons, List.not_mem_nil, or_false] at hstatus
    rw [if_neg (by omega)] at h
    split at h
    · rw [htag { c with state := .ringing } rfl hnone e he] at h
      cases h
    · rw [if_pos (by omega), htag c rfl hnone e he] at h
      cases h
  · unfold updateCall at h
    rw [if_neg (by decide), if_neg (by decide), if_pos rfl] at h
    obtain ⟨result, tag, hlearn⟩ := learnTag_eq text c
    rw [hlearn] at h
    cases result with
    | error _ => cases h
    | ok _ =>
      have hcontact : learnContact text { c with calleeTag := tag } =
          (.error e, { c with calleeTag := tag }) := by
        unfold learnContact
        rw [show ({ c with calleeTag := tag } : CallInfo).calleeRemoteContact = none from hnone, he]
        rfl
      dsimp only at h
      rw [hcontact] at h
      cases h

theorem lookup_cleanup_some {s : Router} {callId callId' : Str} {c : CallInfo}
    (h : (s.cleanupCall callId).activeCalls.lookup callId' = some c) :
    s.activeCalls.lookup callId' = some c := by
  rw [lookup_cleanupCall] at h
  split at h
  · cases h
  · exact h

theorem Handled.entry {id : Nat} {handler : Handler} {msg : Incoming} {d : Draw} {s s' : Router} {pc : Pc}
    (h : Handled cfg B id msg d s handler pc s') (hfresh : s.tasks.lookup id = none) {callId : Str}
    {c : CallInfo} (hc : s'.activeCalls.lookup callId = some c) :
    EntryStep s (.receive id handler msg d) B callId c := by
  cases h with
  | quiet => exact .kept hc
  | refused => exact .kept (lookup_cleanup_some hc)
  | leaked => exact .kept (lookup_cleanup_some hc)
  | opened =>
    rcases Table.lookup_insert_eq_some hc with ⟨rfl, rfl⟩ | ⟨-, hc⟩
    · exact .opened rfl hfresh
    · exact .kept (lookup_cleanup_some hc)
  | answered callId_eq status poisoned found =>
    rcases Table.lookup_insert_eq_some hc with ⟨rfl, rfl⟩ | ⟨-, hc⟩
    · exact .answered ⟨msg, d, rfl, rfl, hfresh, poisoned, callId_eq, status, found⟩
    · exact .kept hc
  | unread callId_eq status poisoned found =>
    rcases Table.lookup_insert_eq_some hc with ⟨rfl, rfl⟩ | ⟨-, hc⟩
    · exact .answered ⟨msg, d, rfl, rfl, hfresh, poisoned, callId_eq, status, found⟩
    · exact .kept hc
  | ended => exact .kept (lookup_cleanup_some hc)
  | untagged => exact .kept hc
  | cancelled callId_eq poisoned found read tag named =>
    rcases Table.lookup_insert_eq_some hc with ⟨rfl, rfl⟩ | ⟨-, hc⟩
    · exact .cancelled ⟨msg, d, rfl, rfl, hfresh, poisoned, callId_eq, found⟩ (tag ▸ read) named
    · exact .kept hc

theorem Proceeded.entry {task : Task} {taken : Bool} {d : Draw} {s s' : Router} {pc : Pc}
    (h : Proceeded task taken d s pc s') {callId : Str} {c : CallInfo}
    (hc : s'.activeCalls.lookup callId = some c) :
    s.activeCalls.lookup callId = some c ∨
      ∃ c₀, s.activeCalls.lookup callId = some c₀ ∧ c = { c₀ with relayStarted := true } := by
  cases h with
  | failed => exact .inl (lookup_cleanup_some hc)
  | ended => exact .inl (lookup_cleanup_some hc)
  | @started callId' =>
    rcases startOnce_cases callId' s with ⟨he, -⟩ | ⟨c₀, hfound, -, -, he⟩
    · rw [he] at hc
      exact .inl hc
    · rw [he] at hc
      rcases Table.lookup_insert_eq_some hc with ⟨rfl, rfl⟩ | ⟨-, hc⟩
      · exact .inr ⟨c₀, hfound, rfl⟩
      · exact .inl hc
  | _ => exact .inl hc

/-- **An event and one entry.** -/
theorem entryStep {s : Router} {event : RouterEvent} {callId : Str} {c : CallInfo}
    (hc : (s.step cfg B event).activeCalls.lookup callId = some c) : EntryStep s event B callId c := by
  have hstep := stepped cfg B s event
  revert hstep hc
  generalize s.step cfg B event = s'
  intro hc hstep
  cases hstep with
  | idle => exact .kept hc
  | world => exact .kept hc
  | received fresh handled => exact handled.entry fresh hc
  | resumed running sending proceeded =>
    rcases proceeded.entry hc with h | ⟨c₀, h, rfl⟩
    · exact .kept h
    · exact .started h

/-! ## Other calls -/

/-- The call that a message is about. -/
def namedCall (handler : Handler) (text : Str) : Option Str :=
  match extractCallId text with
  | .error _ => none
  | .ok callId => if handler = .invite then some (callId.getD []) else callId

/-- The event is a message of the call, or goes on with the execution of one. -/
def Concerns (callId : Str) (s : Router) : RouterEvent → Prop
  | .world .. => False
  | .receive _ handler msg _ => namedCall handler msg.text = some callId
  | .resume id _ _ => ∃ task, s.tasks.lookup id = some task ∧ task.pc.callId = some callId

theorem lookup_cleanupCall_ne (s : Router) {callId callId' : Str} (h : callId' ≠ callId) :
    (s.cleanupCall callId).activeCalls.lookup callId' = s.activeCalls.lookup callId' := by
  rw [lookup_cleanupCall, if_neg h]

theorem namedCall_of_admitted {msg : Incoming} {d : Draw} {s : Router}
    {callerExt calleeExt callId callerTag : Str}
    (h : admitted cfg msg d s = some (callerExt, calleeExt, callId, callerTag)) :
    namedCall .invite msg.text = some callId := by
  unfold admitted at h
  split at h
  · cases h
  split at h
  · rename_i hid _
    split at h
    · cases h
      unfold namedCall
      rw [hid]
      rfl
    · cases h
  · cases h

theorem namedCall_of_ok {handler : Handler} (hother : handler ≠ .invite) {text callId : Str}
    (h : extractCallId text = .ok (some callId)) : namedCall handler text = some callId := by
  unfold namedCall
  rw [h]
  exact if_neg hother

/-- The entry of a call, its session and the sender of its relay are as they were. -/
structure SameCall (callId : Str) (s s' : Router) : Prop where
  entry : s'.activeCalls.lookup callId = s.activeCalls.lookup callId
  session : s'.media.sessions.lookup callId = s.media.sessions.lookup callId
  sender : s'.media.shutdownSenders.lookup callId = s.media.shutdownSenders.lookup callId

theorem SameCall.trans {callId : Str} {s s' s'' : Router} (h : SameCall callId s s')
    (h' : SameCall callId s' s'') : SameCall callId s s'' :=
  ⟨h'.entry.trans h.entry, h'.session.trans h.session, h'.sender.trans h.sender⟩

theorem sameCall_cleanupCall (s : Router) {callId callId' : Str} (h : callId' ≠ callId) :
    SameCall callId' s (s.cleanupCall callId) := by
  refine ⟨lookup_cleanupCall_ne s h, ?_, ?_⟩
  all_goals
    cases hc : s.activeCalls.lookup callId with
    | none => rw [cleanupCall_of_none hc]
    | some c =>
      rw [cleanupCall_of_some hc]
      exact AList.lookup_erase_ne h

theorem sameCall_startOnce (s : Router) {callId callId' : Str} (h : callId' ≠ callId) :
    SameCall callId' s (s.startOnce callId) := by
  rcases startOnce_cases callId s with ⟨he, -⟩ | ⟨c, -, -, -, he⟩
  · rw [he]
    exact ⟨rfl, rfl, rfl⟩
  · rw [he]
    exact ⟨AList.lookup_insert_ne h, rfl, AList.lookup_insert_ne h⟩

/-- The session that an INVITE gets is that of its own call. -/
theorem sameCall_created {s : Router} {callId callId' : Str} (h : callId' ≠ callId)
    {session : Option RelaySession} {media : MediaRelayManager}
    (hcreated : (s.cleanupCall callId).media.createSession callId = (session, media)) :
    SameCall callId' s { s.cleanupCall callId with media } := by
  have hclean := sameCall_cleanupCall s h
  have hsessions := (s.cleanupCall callId).media.createSession_sessions callId callId'
  have hsenders := (s.cleanupCall callId).media.createSession_shutdownSenders callId
  rw [hcreated] at hsessions hsenders
  rw [if_neg h] at hsessions
  exact ⟨hclean.entry, hsessions.trans hclean.session,
    (congrArg (AList.lookup callId') hsenders).trans hclean.sender⟩

/-- **An event of other calls** leaves a call as it is. -/
theorem sameCall_step (cfg : RouterConfig) (B : Base64) {s : Router} {event : RouterEvent}
    {callId : Str} (h : ¬ Concerns callId s event) : SameCall callId s (s.step cfg B event) := by
  have hstep := stepped cfg B s event
  revert hstep
  generalize s.step cfg B event = s'
  intro hstep
  cases hstep with
  | idle => exact ⟨rfl, rfl, rfl⟩
  | world => exact ⟨rfl, rfl, rfl⟩
  | @received id handler msg d pc s₁ fresh handled =>
    have hne : ∀ {callId'}, namedCall handler msg.text = some callId' → callId ≠ callId' := by
      rintro _ hnamed rfl
      exact h hnamed
    suffices hsame : SameCall callId s s₁ from ⟨hsame.entry, hsame.session, hsame.sender⟩
    cases handled with
    | quiet => exact ⟨rfl, rfl, rfl⟩
    | @refused _ _ callId' _ _ _ _ admitted same =>
      have hclean := sameCall_cleanupCall s (hne (namedCall_of_admitted admitted))
      exact ⟨hclean.entry, (same.sessions callId).trans hclean.session,
        (congrArg (AList.lookup callId) same.shutdownSenders).trans hclean.sender⟩
    | leaked _ admitted _ created => exact sameCall_created (hne (namedCall_of_admitted admitted)) created
    | opened _ admitted _ created =>
      have hne := hne (namedCall_of_admitted admitted)
      have hcreated := sameCall_created hne created
      exact ⟨(AList.lookup_insert_ne hne).trans hcreated.entry, hcreated.session, hcreated.sender⟩
    | answered callId_eq =>
      exact ⟨AList.lookup_insert_ne (hne (namedCall_of_ok (by decide) callId_eq)), rfl, rfl⟩
    | unread callId_eq =>
      exact ⟨AList.lookup_insert_ne (hne (namedCall_of_ok (by decide) callId_eq)), rfl, rfl⟩
    | ended _ _ _ other callId_eq => exact sameCall_cleanupCall s (hne (namedCall_of_ok other callId_eq))
    | untagged => exact ⟨rfl, rfl, rfl⟩
    | cancelled callId_eq =>
      exact ⟨AList.lookup_insert_ne (hne (namedCall_of_ok (by decide) callId_eq)), rfl, rfl⟩
  | @resumed id taken d task out pc s₁ running sending proceeded =>
    have hne : ∀ {callId'}, task.pc.callId = some callId' → callId ≠ callId' := by
      rintro _ hnamed rfl
      exact h ⟨task, running, hnamed⟩
    suffices hsame : SameCall callId { s with sent := s.sent ++ if taken then [out] else [] } s₁ from
      ⟨hsame.entry, hsame.session, hsame.sender⟩
    cases proceeded with
    | failed place => exact sameCall_cleanupCall _ (hne (by rw [place]; rfl))
    | ended place => exact sameCall_cleanupCall _ (hne place.callId)
    | started place => exact sameCall_startOnce _ (hne (by rw [place]; rfl))
    | _ => exact ⟨rfl, rfl, rfl⟩

/-! ## Executions -/

theorem settle_tasks (s : Router) (id id' : Nat) (handler : Handler) (msg : Incoming) (pc : Pc) :
    (s.settle id handler msg pc).tasks.lookup id' =
      if id' = id then some ⟨handler, msg, pc⟩ else s.tasks.lookup id' :=
  Table.lookup_insert_eq _ _ _ _

/-- An execution is known for good. -/
theorem isSome_tasks_step {s : Router} {id : Nat} (h : (s.tasks.lookup id).isSome = true)
    (event : RouterEvent) : ((s.step cfg B event).tasks.lookup id).isSome = true := by
  have hstep := stepped cfg B s event
  revert hstep
  generalize s.step cfg B event = s'
  intro hstep
  cases hstep with
  | idle => exact h
  | world => exact h
  | received fresh handled =>
    rw [settle_tasks]
    split
    · rfl
    · rwa [handled.frame.1]
  | resumed running sending proceeded =>
    rw [settle_tasks]
    split
    · rfl
    · rwa [proceeded.frame.1]

/-- A new execution is known. -/
theorem isSome_tasks_receive (s : Router) (id : Nat) (handler : Handler) (msg : Incoming) (d : Draw) :
    ((s.step cfg B (.receive id handler msg d)).tasks.lookup id).isSome = true := by
  cases htask : s.tasks.lookup id with
  | some task => exact isSome_tasks_step (by rw [htask]; rfl) _
  | none =>
    unfold step
    simp only [htask]
    rw [settle_tasks, if_pos rfl]
    rfl

/-- The executions that opened the calls are known. -/
def Known (s : Router) : Prop :=
  ∀ callId c, s.activeCalls.lookup callId = some c → (s.tasks.lookup c.invite).isSome = true

theorem Known.step {s : Router} (h : Known s) (event : RouterEvent) : Known (s.step cfg B event) := by
  intro callId c hc
  cases entryStep hc with
  | kept found => exact isSome_tasks_step (h callId c found) _
  | opened event_eq fresh =>
    subst event_eq
    exact isSome_tasks_receive s _ _ _ _
  | @answered _ text statusCode c₀ response =>
    obtain ⟨_, _, _, _, _, he⟩ := updateCall_eq B statusCode text c₀
    rw [he]
    exact isSome_tasks_step (h callId c₀ response.found) _
  | cancelled cancel => exact isSome_tasks_step (h callId _ cancel.found) _
  | started found => exact isSome_tasks_step (h callId _ found) _

theorem run_known (cfg : RouterConfig) (B : Base64) (media : MediaRelayManager)
    (events : List RouterEvent) : Known (run cfg B media events) := by
  induction events using List.reverseRecOn with
  | nil =>
    intro callId c hc
    cases (AList.lookup_empty callId).symm.trans hc
  | append_singleton events event ih =>
    rw [run_append]
    exact ih.step event

/-- **The rule of entries**: what an INVITE writes into the entry of its call, and nothing that comes later
changes. -/
theorem run_entry {P : CallInfo → Prop}
    (hopened : ∀ id msg callerExt calleeExt callId callerTag contact plan session d,
      P (newCall id msg callerExt calleeExt callId callerTag contact plan session d))
    (hkept : ∀ c calleeTag calleeRemoteContact state calleeRemoteCrypto calleeMediaAddr relayStarted, P c →
      P { c with calleeTag, calleeRemoteContact, state, calleeRemoteCrypto, calleeMediaAddr, relayStarted })
    {media : MediaRelayManager} {events : List RouterEvent} {callId : Str} {c : CallInfo}
    (h : (run cfg B media events).activeCalls.lookup callId = some c) : P c := by
  induction events using List.reverseRecOn generalizing c with
  | nil => cases (AList.lookup_empty callId).symm.trans h
  | append_singleton events event ih =>
    rw [run_append] at h
    cases entryStep h with
    | kept found => exact ih found
    | opened => exact hopened ..
    | @answered _ text statusCode c₀ response =>
      obtain ⟨_, _, _, _, _, he⟩ := updateCall_eq B statusCode text c₀
      rw [he]
      exact hkept c₀ _ _ _ _ _ c₀.relayStarted (ih response.found)
    | @cancelled _ _ c₀ cancel => exact hkept c₀ _ _ _ _ _ _ (ih cancel.found)
    | @started c₀ found => exact hkept c₀ _ _ _ _ _ _ (ih found)

/-- A call has the key of the server for the caller from its INVITE on. -/
theorem run_callerLocalCrypto {media : MediaRelayManager} {events : List RouterEvent} {callId : Str}
    {c : CallInfo} (h : (run cfg B media events).activeCalls.lookup callId = some c) :
    c.callerLocalCrypto.isSome = true :=
  run_entry (P := fun c => c.callerLocalCrypto.isSome = true) (by intros; rfl) (fun _ _ _ _ _ _ _ h => h) h

/-- So it has a sink of the callee. -/
theorem run_calleeSink {media : MediaRelayManager} {events : List RouterEvent} {callId : Str}
    {c : CallInfo} (h : (run cfg B media events).activeCalls.lookup callId = some c) :
    ∃ sink, c.calleeSink = some sink :=
  run_entry (P := fun c => ∃ sink, c.calleeSink = some sink) (by intros; exact ⟨_, rfl⟩)
    (fun _ _ _ _ _ _ _ h => h) h

theorem isSome_tasks_run {media : MediaRelayManager} {early late : List RouterEvent}
    (h : early <+: late) {id : Nat} (hid : ((run cfg B media early).tasks.lookup id).isSome = true) :
    ((run cfg B media late).tasks.lookup id).isSome = true := by
  refine prefix_induction (P := fun late => ((run cfg B media late).tasks.lookup id).isSome = true) hid
    (fun done event _ _ ih => ?_) h (List.prefix_refl late)
  rw [run_append]
  exact isSome_tasks_step ih event

/-- A response to a call, up to its first send. -/
theorem handle_response_cases (cfg : RouterConfig) (B : Base64) (id : Nat) {s : Router} {msg : Incoming}
    (d : Draw) {callId : Str} {statusCode : Nat} {c : CallInfo}
    (hid : extractCallId msg.text = .ok (some callId)) (hstatus : extractStatusCode msg.text = some statusCode)
    (hp : s.poisoned = false) (hfound : s.activeCalls.lookup callId = some c) :
    (∃ e, (updateCall B statusCode msg.text c).1 = .error e ∧
      s.handle cfg B id .response msg d = (.panicked, { s with
        activeCalls := s.activeCalls.insert callId (updateCall B statusCode msg.text c).2
        poisoned := true })) ∨
    ((updateCall B statusCode msg.text c).1 = .ok () ∧
      s.handle cfg B id .response msg d =
        (passOn cfg B callId statusCode msg d (updateCall B statusCode msg.text c).2, { s with
          activeCalls := s.activeCalls.insert callId (updateCall B statusCode msg.text c).2 })) := by
  have hhandle : s.handle cfg B id .response msg d = s.handleCalleeResponse cfg B msg d := rfl
  unfold handleCalleeResponse at hhandle
  rw [hid] at hhandle
  dsimp only at hhandle
  rw [hstatus] at hhandle
  dsimp only at hhandle
  rw [if_neg (by simpa using hp), hfound] at hhandle
  dsimp only at hhandle
  rw [hhandle]
  cases (updateCall B statusCode msg.text c).1 with
  | error e => exact .inl ⟨e, rfl, rfl⟩
  | ok _ => exact .inr ⟨rfl, rfl⟩

/-- Where a response leaves its execution. -/
theorem step_response (cfg : RouterConfig) {s : Router} {event : RouterEvent} {id : Nat}
    {callId text : Str} {statusCode : Nat} {c : CallInfo}
    (h : ResponseTo s event id callId text statusCode c)
    (hread : (updateCall B statusCode text c).1 = .ok ()) :
    ∃ msg d, msg.text = text ∧ (s.step cfg B event).tasks.lookup id = some ⟨.response, msg,
      passOn cfg B callId statusCode msg d (updateCall B statusCode text c).2⟩ := by
  obtain ⟨msg, d, rfl, rfl, hfresh, hp, hid, hstatus, hfound⟩ := h
  refine ⟨msg, d, rfl, ?_⟩
  rcases handle_response_cases cfg B id d hid hstatus hp hfound with ⟨e, he, -⟩ | ⟨-, hhandle⟩
  · cases hread.symm.trans he
  · rw [step_receive hfresh, hhandle, settle_tasks, if_pos rfl]

/-- Where a CANCEL by the caller leaves its execution. -/
theorem step_cancel (cfg : RouterConfig) (B : Base64) {s : Router} {event : RouterEvent} {id : Nat}
    {callId text : Str} {c : CallInfo} (h : CancelOf s event id callId text c)
    (htag : extractFromTag text = .ok (some c.callerTag)) (hnamed : c.callerTag ≠ []) :
    (∃ msg out, (s.step cfg B event).tasks.lookup id =
      some ⟨.cancel, msg, .cancel callId c.originalInvite c.invite out⟩) ∨
      (s.step cfg B event).activeCalls.lookup callId = none := by
  obtain ⟨msg, d, rfl, rfl, hfresh, hp, hid, hfound⟩ := h
  have hhandle : s.handle cfg B id .cancel msg d = s.handleCancel cfg msg d := rfl
  unfold handleCancel at hhandle
  rw [hid] at hhandle
  dsimp only at hhandle
  rw [if_neg (by simpa using hp), hfound] at hhandle
  dsimp only at hhandle
  rw [htag] at hhandle
  dsimp only at hhandle
  rw [if_neg (by simpa using hnamed)] at hhandle
  unfold step
  simp only [hfresh]
  cases hsink : c.calleeSink with
  | none =>
    right
    simp only [hsink, cleanupThen, hp] at hhandle
    rw [hhandle]
    change (cleanupCall callId _).activeCalls.lookup callId = none
    rw [lookup_cleanupCall, if_pos rfl]
  | some sink =>
    left
    rw [hsink] at hhandle
    dsimp only at hhandle
    split at hhandle
    · rename_i e he
      exact absurd he (relayed_ne_error _ _ _ _ _ _)
    · rename_i out _
      rw [hhandle]
      refine ⟨msg, out, ?_⟩
      rw [settle_tasks, if_pos rfl]

/-- What is sent for a response. -/
theorem passOn_cases (cfg : RouterConfig) (B : Base64) (callId : Str) (statusCode : Nat) (msg : Incoming)
    (d : Draw) (c : CallInfo) :
    (statusCode = 200 ∧ c.calleeRemoteCrypto = none ∧ ∃ text,
      passOn cfg B callId statusCode msg d c = .reject callId (.answer c.invite 488 c.callerSink text none)) ∨
    (c.callerLocalCrypto = none ∧ ∃ text,
      passOn cfg B callId statusCode msg d c = .reject callId (.answer c.invite 500 c.callerSink text none)) ∨
    (¬ (statusCode = 200 ∧ c.calleeRemoteCrypto = none) ∧ ∃ text, passOn cfg B callId statusCode msg d c =
      .forward callId statusCode (.answer c.invite statusCode c.callerSink text (some msg.text))) := by
  unfold passOn
  dsimp only
  split
  · rename_i h
    exact .inl ⟨h.1, h.2, _, rfl⟩
  · rename_i h
    unfold forwardedResponse
    rw [extractBody_eq]
    generalize (if (bodyOf msg.text).isEmpty then none else some (bodyOf msg.text)) = body
    cases body with
    | none => exact .inr (.inr ⟨h, _, rfl⟩)
    | some body =>
      cases hcrypto : c.callerLocalCrypto with
      | none =>
        exact .inr (.inl ⟨rfl, _, rfl⟩)
      | some crypto =>
        exact .inr (.inr ⟨h, _, rfl⟩)

/-- An execution for a call stays where it is while other calls go on. -/
theorem task_of_others {s : Router} {id : Nat} {task : Task} {callId : Str}
    (hrunning : s.tasks.lookup id = some task) (hcall : task.pc.callId = some callId) {event : RouterEvent}
    (h : ¬ Concerns callId s event) : (s.step cfg B event).tasks.lookup id = some task := by
  have hstep := stepped cfg B s event
  revert hstep
  generalize s.step cfg B event = s'
  intro hstep
  cases hstep with
  | idle => exact hrunning
  | world => exact hrunning
  | received fresh handled =>
    rw [settle_tasks]
    split
    · rename_i he
      rw [← he, hrunning] at fresh
      cases fresh
    · rwa [handled.frame.1]
  | resumed running sending proceeded =>
    rw [settle_tasks]
    split
    · rename_i he
      subst he
      cases hrunning.symm.trans running
      exact absurd ⟨task, hrunning, hcall⟩ h
    · rwa [proceeded.frame.1]

/-- **A run of other calls** leaves a call as it is, and the executions for it where they are. -/
theorem others_run (cfg : RouterConfig) (B : Base64) {callId : Str} {events : List RouterEvent} {s : Router}
    (h : Stepwise (step cfg B) (fun s event => ¬ Concerns callId s event) s events) :
    SameCall callId s (events.foldl (step cfg B) s) ∧
      ∀ id task, s.tasks.lookup id = some task → task.pc.callId = some callId →
        (events.foldl (step cfg B) s).tasks.lookup id = some task := by
  induction events generalizing s with
  | nil => exact ⟨⟨rfl, rfl, rfl⟩, fun _ _ h _ => h⟩
  | cons event events ih =>
    obtain ⟨hother, hothers⟩ := h
    obtain ⟨hsame, htask⟩ := ih hothers
    exact ⟨(sameCall_step cfg B hother).trans hsame, fun id task hrunning hcall =>
      htask id task (task_of_others hrunning hcall hother) hcall⟩

/-- So does a run that goes on with other calls. -/
theorem run_others {media : MediaRelayManager} {early during : List RouterEvent} {callId : Str}
    (h : Stepwise (step cfg B) (fun s event => ¬ Concerns callId s event) (run cfg B media early) during) :
    SameCall callId (run cfg B media early) (run cfg B media (early ++ during)) ∧
      ∀ id task, (run cfg B media early).tasks.lookup id = some task → task.pc.callId = some callId →
        (run cfg B media (early ++ during)).tasks.lookup id = some task := by
  have hduring : run cfg B media (early ++ during) = during.foldl (step cfg B) (run cfg B media early) :=
    List.foldl_append
  rw [hduring]
  exact others_run cfg B h

/-! ## What is sent -/

/-- The handler of an INVITE is sending it, or has come to its end. -/
def Places (s : Router) : Prop :=
  ∀ id task, s.tasks.lookup id = some task → task.handler = .invite →
    (∃ callId out, task.pc = .invite callId out) ∨ task.pc.sending = none

theorem Places.step {s : Router} (h : Places s) (event : RouterEvent) : Places (s.step cfg B event) := by
  have hstep := stepped cfg B s event
  revert hstep
  generalize s.step cfg B event = s'
  intro hstep id task htask hinvite
  cases hstep with
  | idle => exact h id task htask hinvite
  | world => exact h id task htask hinvite
  | received fresh handled =>
    rw [settle_tasks] at htask
    split at htask
    · cases htask
      cases hinvite
      cases handled with
      | quiet _ _ declines => exact .inr (declines rfl).1
      | refused _ _ _ idle => exact .inr idle
      | leaked => exact .inr rfl
      | opened => exact .inl ⟨_, _, rfl⟩
      | ended _ _ _ other => exact absurd rfl other
    · rw [handled.frame.1] at htask
      exact h id task htask hinvite
  | resumed running sending proceeded =>
    rw [settle_tasks] at htask
    split at htask
    · cases htask
      rcases h _ _ running hinvite with ⟨callId, out, hpc⟩ | hover
      · cases proceeded with
        | terminated place => cases hpc.symm.trans place
        | _ => exact .inr rfl
      · cases hover.symm.trans sending
    · rw [proceeded.frame.1] at htask
      exact h id task htask hinvite

theorem run_places (cfg : RouterConfig) (B : Base64) (media : MediaRelayManager)
    (events : List RouterEvent) : Places (run cfg B media events) := by
  induction events using List.reverseRecOn with
  | nil =>
    intro id task htask
    cases (AList.lookup_empty id).symm.trans htask
  | append_singleton events event ih =>
    rw [run_append]
    exact ih.step event

/-- It was sent, or an execution is sending it. -/
def Sending (s : Router) (out : Outgoing) : Prop :=
  out ∈ s.sent ∨ ∃ id task, s.tasks.lookup id = some task ∧ task.pc.sending = some out

/-- All that is new to be sent with an event. -/
inductive Sends (cfg : RouterConfig) (B : Base64) (s : Router) (event : RouterEvent) : Outgoing → Prop
  | request (sink : ConnectionSink) (text : Str) : Sends cfg B s event (.request sink text)
  /-- An INVITE is refused at once. -/
  | declined {id statusCode : Nat} {msg : Incoming} {d : Draw} {text : Str}
      (event_eq : event = .receive id .invite msg d) (fresh : s.tasks.lookup id = none)
      (status : 400 ≤ statusCode)
      (opens : ∀ callId c, (s.step cfg B event).activeCalls.lookup callId = some c →
        s.activeCalls.lookup callId = some c) :
    Sends cfg B s event (.answer id statusCode msg.sink text none)
  /-- An INVITE is on its way, or could not be sent. -/
  | invited {id : Nat} {taken : Bool} {d : Draw} {task : Task} {callId text : Str} {sink : ConnectionSink}
      {out : Outgoing} (event_eq : event = .resume id taken d) (running : s.tasks.lookup id = some task)
      (place : task.pc = .invite callId out) (failed : taken = false → s.poisoned = false) :
    Sends cfg B s event (.answer id (if taken then 100 else 500) sink text none)
  /-- A response is refused, or passed on. -/
  | answered {id : Nat} {callId : Str} {statusCode : Nat} {c : CallInfo} {msg : Incoming} {d : Draw}
      {out : Outgoing} (response : ResponseTo s event id callId msg.text statusCode c)
      (read : (updateCall B statusCode msg.text c).1 = .ok ())
      (sending : (passOn cfg B callId statusCode msg d (updateCall B statusCode msg.text c).2).sending =
        some out) : Sends cfg B s event out
  /-- A call is cancelled. -/
  | terminated {id : Nat} {taken : Bool} {d : Draw} {task : Task} {callId originalInvite text : Str}
      {invite : Nat} {sink : ConnectionSink} {out : Outgoing} (event_eq : event = .resume id taken d)
      (running : s.tasks.lookup id = some task) (place : task.pc = .cancel callId originalInvite invite out) :
    Sends cfg B s event (.answer invite 487 sink text none)

/-- What a handler returns is sent if it is the result of an INVITE. -/
theorem mem_returned {id : Nat} {handler : Handler} {msg : Incoming} {pc : Pc} {out : Outgoing}
    (h : out ∈ returned id handler msg pc) : handler = .invite ∧ ∃ statusCode text,
      pc = .done (some (statusCode, text)) ∧ out = .answer id statusCode msg.sink text none := by
  unfold returned at h
  split at h
  · rename_i statusCode text
    split at h
    · exact ⟨‹_›, statusCode, text, rfl, List.mem_singleton.mp h⟩
    · cases h
  · cases h

/-- What is sent once an execution has come to a new place. -/
theorem sending_settle {s : Router} {id : Nat} {handler : Handler} {msg : Incoming} {pc : Pc} {out : Outgoing}
    (h : Sending (s.settle id handler msg pc) out) :
    Sending s out ∨ out ∈ returned id handler msg pc ∨ pc.sending = some out := by
  rcases h with hsent | ⟨id', task, htask, hsending⟩
  · rcases List.mem_append.mp hsent with hold | hnew
    · exact .inl (.inl hold)
    · exact .inr (.inl hnew)
  · rw [settle_tasks] at htask
    split at htask
    · cases htask
      exact .inr (.inr hsending)
    · exact .inl (.inr ⟨id', task, htask, hsending⟩)

/-- A handler itself sends nothing. -/
theorem Handled.sending {id : Nat} {handler : Handler} {msg : Incoming} {d : Draw} {s s' : Router} {pc : Pc}
    (h : Handled cfg B id msg d s handler pc s') {out : Outgoing} (hsending : Sending s' out) :
    Sending s out := by
  unfold Sending at hsending
  rwa [h.frame.1, h.frame.2.1] at hsending

/-- Behind a send there is what was sending, and nothing else. -/
theorem Proceeded.sending {id : Nat} {task : Task} {taken : Bool} {d : Draw} {s s' : Router} {pc : Pc}
    {out out' : Outgoing} (hrunning : s.tasks.lookup id = some task) (hout' : task.pc.sending = some out')
    (h : Proceeded task taken d { s with sent := s.sent ++ if taken then [out'] else [] } pc s')
    (hsending : Sending s' out) : Sending s out := by
  unfold Sending at hsending
  rw [h.frame.1, h.frame.2.1] at hsending
  rcases hsending with hsent | hother
  · rcases List.mem_append.mp hsent with hold | hdone
    · exact .inl hold
    · split at hdone
      · rw [List.mem_singleton] at hdone
        subst hdone
        exact .inr ⟨id, task, hrunning, hout'⟩
      · cases hdone
  · exact .inr hother

/-- **What is sent.** -/
theorem sends_of_step {s : Router} (hplaces : Places s) {event : RouterEvent} {out : Outgoing}
    (h : Sending (s.step cfg B event) out) : Sending s out ∨ Sends cfg B s event out := by
  have hstep := stepped cfg B s event
  revert hstep h
  generalize hs : s.step cfg B event = s'
  intro h hstep
  cases hstep with
  | idle => exact .inl h
  | world => exact .inl h
  | @received id handler msg d pc s₁ fresh handled =>
    rcases sending_settle h with hold | hnew | hsending
    · exact .inl (handled.sending hold)
    · -- the result of the handler of an INVITE
      obtain ⟨rfl, statusCode, text, rfl, rfl⟩ := mem_returned hnew
      cases handled with
      | quiet _ _ declines =>
        exact .inr (.declined rfl fresh ((declines rfl).2 _ _ rfl) fun _ _ hc => by rw [hs] at hc; exact hc)
      | refused _ _ _ _ declines =>
        refine .inr (.declined rfl fresh (declines _ _ rfl) fun callId c hc => ?_)
        rw [hs] at hc
        exact lookup_cleanup_some hc
      | ended _ _ _ other => exact absurd rfl other
    · cases handled with
      | quiet _ quiet =>
        cases pc with
        | ack =>
          obtain ⟨sink, text, rfl⟩ := quiet
          cases hsending
          exact .inr (.request sink text)
        | bye =>
          obtain ⟨sink, text, rfl⟩ := quiet
          cases hsending
          exact .inr (.request sink text)
        | done => cases hsending
        | panicked => cases hsending
        | _ => exact quiet.elim
      | refused _ _ _ idle => cases idle.symm.trans hsending
      | opened =>
        cases hsending
        exact .inr (.request _ _)
      | answered callId_eq status poisoned found read =>
        exact .inr (.answered ⟨msg, d, rfl, rfl, fresh, poisoned, callId_eq, status, found⟩ read hsending)
      | cancelled =>
        cases hsending
        exact .inr (.request _ _)
      | _ => cases hsending
  | @resumed id taken d task out' pc s₁ running sending proceeded =>
    rcases sending_settle h with hold | hnew | hsending
    · exact .inl (proceeded.sending running sending hold)
    · obtain ⟨hinvite, statusCode, text, rfl, rfl⟩ := mem_returned hnew
      rcases hplaces id task running hinvite with ⟨callId, out, hpc⟩ | hover
      · cases proceeded with
        | trying place taken_eq =>
          subst taken_eq
          exact .inr (.invited rfl running place fun htaken => Bool.noConfusion htaken)
        | failed place taken_eq poisoned =>
          subst taken_eq
          exact .inr (.invited rfl running place fun _ => poisoned)
        | ended _ other => exact absurd hpc (other callId out)
      · cases hover.symm.trans sending
    · cases proceeded with
      | terminated place =>
        cases hsending
        exact .inr (.terminated rfl running place)
      | _ => cases hsending

/-! ## The lock -/

theorem accessible_step {s : Router} {event : RouterEvent} (h : s.poisoned = false)
    (hread : Readable s event) : (s.step cfg B event).poisoned = false := by
  have hstep := stepped cfg B s event
  revert hstep
  generalize s.step cfg B event = s'
  intro hstep
  cases hstep with
  | idle => exact h
  | world => exact h
  | @received id handler msg d pc s' fresh handled =>
    change s'.poisoned = false
    cases handled with
    | unread callId_eq status poisoned found read =>
      exact absurd (unreadable_of_error read)
        (hread.response _ _ _ _ _ ⟨msg, d, rfl, rfl, fresh, poisoned, callId_eq, status, found⟩)
    | untagged callId_eq poisoned found read =>
      obtain ⟨_, htag⟩ := hread.cancel _ _ _ _ ⟨msg, d, rfl, rfl, fresh, poisoned, callId_eq, found⟩
      cases read.symm.trans htag
    | _ => simpa using h
  | @resumed id taken d task out pc s' running sending proceeded =>
    change s'.poisoned = false
    rw [proceeded.frame.2.2]
    exact h

/-- The table is accessible in every state of a run without a panic under the lock. -/
theorem run_accessible {media : MediaRelayManager} {events : List RouterEvent}
    (h : ∀ done event, done ++ [event] <+: events → Readable (run cfg B media done) event)
    {done : List RouterEvent} (hdone : done <+: events) : (run cfg B media done).poisoned = false := by
  refine prefix_induction (P := fun done => (run cfg B media done).poisoned = false) rfl
    (fun done event _ hevent ih => ?_) List.nil_prefix hdone
  rw [run_append]
  exact accessible_step ih (h done event hevent)

/-! ## Executions that remove a call -/

theorem removes_step {s : Router} (hp : s.poisoned = false) {id : Nat} {task : Task} {callId : Str}
    (hrunning : s.tasks.lookup id = some task) (hremoves : task.pc.Removes callId) (event : RouterEvent) :
    (∃ task', (s.step cfg B event).tasks.lookup id = some task' ∧ task'.pc.Removes callId) ∨
      (s.step cfg B event).activeCalls.lookup callId = none := by
  have hstep := stepped cfg B s event
  revert hstep
  generalize s.step cfg B event = s'
  intro hstep
  cases hstep with
  | idle => exact .inl ⟨task, hrunning, hremoves⟩
  | world => exact .inl ⟨task, hrunning, hremoves⟩
  | received fresh handled =>
    rw [settle_tasks]
    split
    · rename_i he
      rw [← he, hrunning] at fresh
      cases fresh
    · rw [handled.frame.1]
      exact .inl ⟨task, hrunning, hremoves⟩
  | @resumed id' taken d task' out pc s' running sending proceeded =>
    rw [settle_tasks]
    split
    · rename_i he
      subst he
      cases hrunning.symm.trans running
      have hends := hremoves taken
      cases proceeded with
      | stuck poisoned => cases hp.symm.trans poisoned
      | trying place =>
        rw [place] at hremoves
        cases (hremoves true).2
      | failed place =>
        rw [place] at hremoves
        cases (hremoves true).2
      | @ended callId' _ place =>
        have hcallId : callId = callId' := by
          revert place hends
          cases task.pc with
          | invite => exact fun h h' => h.1.symm.trans h'.1
          | forward => exact fun h h' => h.1.symm.trans h'.1
          | ack => exact fun h => h.elim
          | done => exact fun h => h.elim
          | panicked => exact fun h => h.elim
          | _ => exact fun h h' => h.symm.trans h'
        refine .inr ?_
        change (cleanupCall callId' _).activeCalls.lookup callId = none
        rw [lookup_cleanupCall, if_pos hcallId]
      | terminated place =>
        rw [place] at hends
        exact .inl ⟨_, rfl, fun _ => hends⟩
      | started place =>
        rw [place] at hends
        exact absurd hends.2 (by decide)
      | passed place =>
        rcases place with ⟨_, _, _, place, hlt, -⟩ | ⟨_, place⟩
        · rw [place] at hends
          exact absurd hends.2 (by omega)
        · rw [place] at hends
          exact hends.elim
    · rw [proceeded.frame.1]
      exact .inl ⟨task, hrunning, hremoves⟩

/-- **What is to be removed is removed**, before the execution comes to its end. -/
theorem removes_run {media : MediaRelayManager} {events early late : List RouterEvent}
    (hread : ∀ done event, done ++ [event] <+: events → Readable (run cfg B media done) event)
    (hearly : early <+: late) (hlate : late <+: events) {id : Nat} {task : Task} {callId : Str}
    (hrunning : (run cfg B media early).tasks.lookup id = some task) (hremoves : task.pc.Removes callId) :
    (∃ task', (run cfg B media late).tasks.lookup id = some task' ∧ task'.pc.Removes callId) ∨
      ∃ mid, early <+: mid ∧ mid <+: late ∧ (run cfg B media mid).activeCalls.lookup callId = none := by
  refine prefix_induction (P := fun late =>
    (∃ task', (run cfg B media late).tasks.lookup id = some task' ∧ task'.pc.Removes callId) ∨
      ∃ mid, early <+: mid ∧ mid <+: late ∧ (run cfg B media mid).activeCalls.lookup callId = none)
    (.inl ⟨task, hrunning, hremoves⟩) (fun done event hdone hevent ih => ?_) hearly hlate
  rcases ih with ⟨task', htask', hremoves'⟩ | ⟨mid, hmid, hbefore, hgone⟩
  · have hp := run_accessible hread ((List.prefix_append _ _).trans hevent)
    rcases removes_step hp htask' hremoves' event with h | h
    · rw [run_append]
      exact .inl h
    · refine .inr ⟨done ++ [event], hdone.trans (List.prefix_append _ _), List.prefix_refl _, ?_⟩
      rw [run_append]
      exact h
  · exact .inr ⟨mid, hmid, hbefore.trans (List.prefix_append _ _), hgone⟩

end Router

end Minghe.Sip
