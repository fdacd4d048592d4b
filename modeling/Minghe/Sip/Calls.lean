import Minghe.Sip.Router

/-!
# What the handlers do to the calls

One inversion lemma for each stretch of a handler that runs without interruption, and one for an event.

* `Handled`: all that a handler does up to its first send.
* `Proceeded`: all that it does behind a send.
* `Stepped`: all that an event does.
* `handled`: all that a handler does up to its first send.
* `proceeded`: all that it does behind a send.
* `stepped`: all that an event does to the router.
-/

namespace Minghe.Sip

open Minghe.Lib
open Minghe.Media.Relay (MediaRelayManager RelaySession allocateLoop_of_lt)
open Minghe.Media.Srtp (Base64 SuiteKeys)

/-- The places of an execution that has no answer to send, and no call to open or to refuse. -/
def Pc.Quiet : Pc → Prop
  | .ack out | .bye _ out => ∃ sink text, out = .request sink text
  | .done _ | .panicked => True
  | .invite .. | .reject .. | .forward .. | .cancel .. | .terminate .. => False

/-- An execution that is at its end has no answer, or a refusal. -/
def Pc.Declines (pc : Pc) : Prop := ∀ statusCode text, pc = .done (some (statusCode, text)) → 400 ≤ statusCode

/-- The places whose execution ends with a cleanup of the call, if the send comes to its end so. -/
def Pc.Ends (taken : Bool) (callId : Str) : Pc → Prop
  | .invite callId' _ => callId' = callId ∧ taken = false
  | .forward callId' statusCode _ => callId' = callId ∧ 400 ≤ statusCode
  | .reject callId' _ | .bye callId' _ | .cancel callId' _ _ _ | .terminate callId' _ => callId' = callId
  | .ack _ | .done _ | .panicked => False

namespace Router

variable {cfg : RouterConfig} {B : Base64}

/-! ## Cleaning up -/

@[simp] theorem cleanupCall_poisoned (s : Router) (callId : Str) :
    (s.cleanupCall callId).poisoned = s.poisoned := by
  unfold cleanupCall; split <;> rfl

@[simp] theorem cleanupCall_tasks (s : Router) (callId : Str) :
    (s.cleanupCall callId).tasks = s.tasks := by
  unfold cleanupCall; split <;> rfl

@[simp] theorem cleanupCall_sent (s : Router) (callId : Str) :
    (s.cleanupCall callId).sent = s.sent := by
  unfold cleanupCall; split <;> rfl

@[simp] theorem cleanupCall_relays (s : Router) (callId : Str) :
    (s.cleanupCall callId).relays = s.relays := by
  unfold cleanupCall; split <;> rfl

theorem cleanupCall_of_none {s : Router} {callId : Str} (h : s.activeCalls.lookup callId = none) :
    s.cleanupCall callId = s := by
  unfold cleanupCall; rw [h]

theorem cleanupCall_of_some {s : Router} {callId : Str} {c : CallInfo}
    (h : s.activeCalls.lookup callId = some c) :
    s.cleanupCall callId = { s with
      activeCalls := s.activeCalls.erase callId
      media := (s.media.removeSession callId).2 } := by
  unfold cleanupCall; rw [h]

/-- What was written into its entry is of no matter. -/
theorem cleanupCall_insert {s : Router} {callId : Str} {c : CallInfo}
    (h : s.activeCalls.lookup callId = some c) (c' : CallInfo) :
    ({ s with activeCalls := s.activeCalls.insert callId c' } : Router).cleanupCall callId =
      s.cleanupCall callId := by
  rw [cleanupCall_of_some h, cleanupCall_of_some (AList.lookup_insert _)]
  simp only [Table.erase_insert]

/-- The call is gone, and no other one. -/
theorem lookup_cleanupCall (s : Router) (callId callId' : Str) :
    (s.cleanupCall callId).activeCalls.lookup callId' =
      if callId' = callId then none else s.activeCalls.lookup callId' := by
  cases h : s.activeCalls.lookup callId with
  | none =>
    rw [cleanupCall_of_none h]
    split
    · rename_i he; rw [he, h]
    · rfl
  | some c =>
    rw [cleanupCall_of_some h]
    exact Table.lookup_erase_eq _ _ _

/-- So are its session and its sender. -/
theorem sessions_cleanupCall {s : Router} {callId : Str} {c : CallInfo}
    (h : s.activeCalls.lookup callId = some c) (callId' : Str) :
    (s.cleanupCall callId).media.sessions.lookup callId' =
      (if callId' = callId then none else s.media.sessions.lookup callId') ∧
    (s.cleanupCall callId).media.shutdownSenders.lookup callId' =
      (if callId' = callId then none else s.media.shutdownSenders.lookup callId') := by
  rw [cleanupCall_of_some h]
  exact ⟨Table.lookup_erase_eq _ _ _, Table.lookup_erase_eq _ _ _⟩

/-! ## The entry of a call -/

/-- What a 200 answers with: the keys, if the callee chose from what it was offered. -/
def answerCrypto (B : Base64) (text : Str) : Option SuiteKeys :=
  answeredCrypto B (if (bodyOf text).isEmpty then none else some (bodyOf text))

/-- All that a response does to the entry of its call. -/
inductive Updated (B : Base64) (statusCode : Nat) (text : Str) (c : CallInfo) :
    Checked Unit → CallInfo → Prop
  | passed (status : statusCode < 400) (other : statusCode ∉ [180, 183, 200]) :
    Updated B statusCode text c (.ok ()) c
  | ringing {result : Checked Unit} (calleeTag : Option Str) (status : statusCode = 180 ∨ statusCode = 183) :
    Updated B statusCode text c result { c with state := .ringing, calleeTag }
  | answered {crypto : SuiteKeys} (calleeTag calleeRemoteContact : Option Str)
      (calleeMediaAddr : Option SocketAddr) (status : statusCode = 200)
      (answer : answerCrypto B text = some crypto) :
    Updated B statusCode text c (.ok ()) { c with
      calleeTag, calleeRemoteContact, calleeMediaAddr
      calleeRemoteCrypto := some crypto
      state := .established }
  | refused (calleeTag calleeRemoteContact : Option Str) (status : statusCode = 200)
      (answer : answerCrypto B text = none) :
    Updated B statusCode text c (.ok ()) { c with
      calleeTag, calleeRemoteContact
      state := .terminated }
  | unread {e : Fault Empty} (calleeTag calleeRemoteContact : Option Str) (status : statusCode = 200) :
    Updated B statusCode text c (.error e) { c with calleeTag, calleeRemoteContact }
  | failed (status : 400 ≤ statusCode) :
    Updated B statusCode text c (.ok ()) { c with state := .terminated }

theorem learnTag_eq (text : Str) (c : CallInfo) :
    ∃ result calleeTag, learnTag text c = (result, { c with calleeTag }) := by
  unfold learnTag
  split
  · split
    · exact ⟨_, c.calleeTag, rfl⟩
    · exact ⟨_, _, rfl⟩
  · exact ⟨_, c.calleeTag, rfl⟩

theorem learnContact_eq (text : Str) (c : CallInfo) :
    ∃ result calleeRemoteContact, learnContact text c = (result, { c with calleeRemoteContact }) := by
  unfold learnContact
  split
  · split
    · exact ⟨_, c.calleeRemoteContact, rfl⟩
    · exact ⟨_, _, rfl⟩
  · exact ⟨_, c.calleeRemoteContact, rfl⟩

/-- The SDP of a 200 is read without a panic. -/
theorem readAnswer_cases (B : Base64) (text : Str) (c : CallInfo) :
    (∃ crypto calleeMediaAddr, answerCrypto B text = some crypto ∧ readAnswer B text c = (.ok (), { c with
      calleeRemoteCrypto := some crypto
      calleeMediaAddr
      state := .established })) ∨
    (answerCrypto B text = none ∧ readAnswer B text c = (.ok (), { c with state := .terminated })) := by
  unfold readAnswer answerCrypto
  rw [extractBody_eq]
  generalize (if (bodyOf text).isEmpty then none else some (bodyOf text)) = body
  dsimp only
  cases answeredCrypto B body with
  | some crypto => exact .inl ⟨crypto, _, rfl, rfl⟩
  | none => exact .inr ⟨rfl, rfl⟩

/-- **The entry of a call, under the lock.** -/
theorem updated (B : Base64) (statusCode : Nat) (text : Str) (c : CallInfo) :
    Updated B statusCode text c (updateCall B statusCode text c).1 (updateCall B statusCode text c).2 := by
  unfold updateCall
  split
  · rename_i h
    exact .passed (by omega) (by simp [h])
  split
  · rename_i h
    obtain ⟨result, calleeTag, htag⟩ := learnTag_eq text { c with state := .ringing }
    rw [htag]
    exact .ringing calleeTag h
  rename_i hringing
  split
  · rename_i h
    obtain ⟨result, calleeTag, htag⟩ := learnTag_eq text c
    rw [htag]
    cases result with
    | error e => exact .unread calleeTag c.calleeRemoteContact h
    | ok _ =>
      obtain ⟨result, contact, hcontact⟩ := learnContact_eq text { c with calleeTag }
      dsimp only
      rw [hcontact]
      cases result with
      | error e => exact .unread calleeTag contact h
      | ok _ =>
        dsimp only
        rcases readAnswer_cases B text { c with calleeTag, calleeRemoteContact := contact } with
          ⟨crypto, addr, hanswer, he⟩ | ⟨hanswer, he⟩
        · rw [he]
          exact .answered calleeTag contact addr h hanswer
        · rw [he]
          exact .refused calleeTag contact h hanswer
  rename_i hok
  split
  · rename_i h
    exact .failed h
  · rename_i h
    exact .passed (by omega) (by simp only [List.mem_cons, List.not_mem_nil, or_false]; omega)

/-- What no response changes. -/
theorem updateCall_eq (B : Base64) (statusCode : Nat) (text : Str) (c : CallInfo) :
    ∃ calleeTag calleeRemoteContact state calleeRemoteCrypto calleeMediaAddr,
      (updateCall B statusCode text c).2 =
        { c with calleeTag, calleeRemoteContact, state, calleeRemoteCrypto, calleeMediaAddr } := by
  have h := updated B statusCode text c
  revert h
  generalize (updateCall B statusCode text c).1 = result, (updateCall B statusCode text c).2 = c'
  intro h
  cases h <;> exact ⟨_, _, _, _, _, rfl⟩

/-! ## An INVITE -/

/-- What `handle_invite` reads off an INVITE that passes its checks on the caller: the caller, the
callee, the Call-ID and the caller's tag. -/
def admitted (cfg : RouterConfig) (msg : Incoming) (d : Draw) (s : Router) :
    Option (Str × Str × Str × Str) :=
  if s.registrar.isBlocked cfg.registrar msg.fromAddr.ip then none
  else
    match callerOf msg.text, extractCalledExtension msg.text, extractCallId msg.text,
      extractFromTag msg.text with
    | .ok callerExt, .ok calleeExt, .ok callId, .ok callerTag =>
      if mayCall msg callerExt d.now s then
        some (callerExt, calleeExt.getD [], callId.getD [], callerTag.getD [])
      else none
    | _, _, _, _ => none

theorem declines_reply {msg : Incoming} {d : Draw} {statusCode : Nat} {reason : String}
    (h : 400 ≤ statusCode) : (Pc.done (reply msg d statusCode reason)).Declines := by
  rintro _ _ ⟨⟩
  exact h

/-- The callee cannot be called: a refusal. -/
theorem planInvite_refused {calleeExt text : Str} {now : Nat} {s : Router} {statusCode : Nat}
    {reason : String} (h : planInvite cfg B calleeExt text now s = .ok (.error (statusCode, reason))) :
    400 ≤ statusCode := by
  have hcode : ∀ {code : Nat} {why : String}, 400 ≤ code →
      (Except.ok (.error (code, why)) : Checked (Except (Nat × String) InvitePlan)) =
        .ok (.error (statusCode, reason)) → 400 ≤ statusCode := by
    rintro code why hcode ⟨⟩
    exact hcode
  unfold planInvite at h
  split at h
  · obtain ⟨_, -, h⟩ := Res.bind_eq_ok.mp h
    exact hcode (by decide) h
  split at h
  · exact hcode (by decide) h
  obtain ⟨body, -, h⟩ := Res.bind_eq_ok.mp h
  split at h
  · exact hcode (by decide) h
  split at h
  · exact hcode (by decide) h
  · cases h

/-- `handle_invite` refuses without a look at the calls, or goes on with what it has read. -/
theorem handleInvite_cases (cfg : RouterConfig) (B : Base64) (id : Nat) (msg : Incoming) (d : Draw)
    (s : Router) :
    (∃ callerExt calleeExt callId callerTag,
      admitted cfg msg d s = some (callerExt, calleeExt, callId, callerTag) ∧
      s.handleInvite cfg B id msg d =
        s.acceptInvite cfg B id msg d callerExt calleeExt callId callerTag) ∨
    (admitted cfg msg d s = none ∧ ∃ pc registrar, pc.Quiet ∧ pc.sending = none ∧ pc.Declines ∧
      s.handleInvite cfg B id msg d = (pc, { s with registrar })) := by
  unfold handleInvite admitted
  split
  · exact .inr ⟨rfl, .done _, s.registrar, trivial, rfl, declines_reply (by decide), rfl⟩
  cases hcaller : callerOf msg.text with
  | error e => exact .inr ⟨rfl, .panicked, s.registrar, trivial, rfl, nofun, rfl⟩
  | ok callerExt =>
  cases hcallee : extractCalledExtension msg.text with
  | error e => exact .inr ⟨rfl, .panicked, s.registrar, trivial, rfl, nofun, rfl⟩
  | ok calleeExt =>
  dsimp only
  by_cases hmay : mayCall msg callerExt d.now s = true
  · rw [if_pos hmay]
    cases hid : extractCallId msg.text with
    | error e => exact .inr ⟨rfl, .panicked, s.registrar, trivial, rfl, nofun, rfl⟩
    | ok callId =>
    cases htag : extractFromTag msg.text with
    | error e => exact .inr ⟨rfl, .panicked, s.registrar, trivial, rfl, nofun, rfl⟩
    | ok callerTag =>
      dsimp only
      rw [if_pos hmay]
      exact .inl ⟨_, _, _, _, rfl, rfl⟩
  · rw [if_neg hmay]
    refine .inr ⟨?_, .done _, _, trivial, rfl, declines_reply (by decide), rfl⟩
    split
    · rename_i heq _ _ _
      cases heq
      exact if_neg hmay
    · rfl

/-- An INVITE that passes all checks and gets its ports. -/
theorem handleInvite_of_created (id : Nat) {msg : Incoming} {d : Draw} {s : Router}
    {callerExt calleeExt callId callerTag : Str} {plan : InvitePlan} {session : RelaySession}
    {media : MediaRelayManager} (hpoisoned : s.poisoned = false)
    (hadmitted : admitted cfg msg d s = some (callerExt, calleeExt, callId, callerTag))
    (hplanned : planInvite cfg B calleeExt msg.text d.now (s.cleanupCall callId) = .ok (.ok plan))
    (hcreated : (s.cleanupCall callId).media.createSession callId = (some session, media)) :
    s.handleInvite cfg B id msg d = openCall cfg B id msg d callerExt calleeExt callId callerTag plan
      session { s.cleanupCall callId with media } := by
  rcases handleInvite_cases cfg B id msg d s with ⟨_, _, _, _, hadm, he⟩ | ⟨hnone, -⟩
  · cases hadmitted.symm.trans hadm
    refine he.trans ?_
    unfold acceptInvite
    rw [if_neg (by simpa using hpoisoned)]
    simp only [hplanned, hcreated]
  · cases hadmitted.symm.trans hnone

/-- `callee_invite` never panics. -/
theorem calleeInvite_ok (cfg : RouterConfig) (B : Base64) (text callerExt calleeExt : Str)
    (plan : InvitePlan) (session : RelaySession) (d : Draw) (s : Router) :
    ∃ forwarded, calleeInvite cfg B text callerExt calleeExt plan session d s = .ok forwarded := by
  unfold calleeInvite buildOutboundRequest
  rw [rebuildRequestWithSdp_eq]
  dsimp only [bind, Except.bind]
  rw [buildOutboundRequestWithFrom_eq]
  exact ⟨_, rfl⟩

/-- Nor does a request within a call. -/
theorem relayed_ok (cfg : RouterConfig) (msg : Incoming) (targetUri : Str) (sink : ConnectionSink)
    (d : Draw) : ∃ text, relayed cfg msg targetUri sink d = .ok (.request sink text) := by
  unfold relayed buildOutboundRequest
  rw [buildOutboundRequestWithFrom_eq]
  exact ⟨_, rfl⟩

theorem relayed_ne_error (cfg : RouterConfig) (msg : Incoming) (targetUri : Str) (sink : ConnectionSink)
    (d : Draw) (e : Fault Empty) : relayed cfg msg targetUri sink d ≠ .error e := by
  obtain ⟨text, h⟩ := relayed_ok cfg msg targetUri sink d
  rw [h]
  exact nofun

/-! ## What a handler does up to its first send -/

/-- A manager that has the same sessions and the same senders. -/
structure SameSessions (m m' : MediaRelayManager) : Prop where
  sessions : ∀ callId, m'.sessions.lookup callId = m.sessions.lookup callId
  shutdownSenders : m'.shutdownSenders = m.shutdownSenders

/-- All that a handler does up to its first send: where it is then, and the router. -/
inductive Handled (cfg : RouterConfig) (B : Base64) (id : Nat) (msg : Incoming) (d : Draw) (s : Router) :
    Handler → Pc → Router → Prop
  /-- No call is touched. -/
  | quiet {handler : Handler} {pc : Pc} (registrar : RegistrarService) (quiet : pc.Quiet)
      (declines : handler = .invite → pc.sending = none ∧ pc.Declines) :
    Handled cfg B id msg d s handler pc { s with registrar }
  /-- An INVITE is refused when the call that was left over is gone. -/
  | refused {callerExt calleeExt callId callerTag : Str} {pc : Pc} {media : MediaRelayManager}
      (poisoned : s.poisoned = false)
      (admitted : admitted cfg msg d s = some (callerExt, calleeExt, callId, callerTag))
      (same : SameSessions (s.cleanupCall callId).media media) (idle : pc.sending = none)
      (declines : pc.Declines) :
    Handled cfg B id msg d s .invite pc { s.cleanupCall callId with media }
  /-- An INVITE panics behind `create_session`. -/
  | leaked {callerExt calleeExt callId callerTag : Str} {plan : InvitePlan} {session : RelaySession}
      {media : MediaRelayManager} {e : Fault Empty}
      (poisoned : s.poisoned = false)
      (admitted : admitted cfg msg d s = some (callerExt, calleeExt, callId, callerTag))
      (planned : planInvite cfg B calleeExt msg.text d.now (s.cleanupCall callId) = .ok (.ok plan))
      (created : (s.cleanupCall callId).media.createSession callId = (some session, media))
      (contact : extractContactUri msg.text = .error e) :
    Handled cfg B id msg d s .invite .panicked { s.cleanupCall callId with media }
  /-- An INVITE opens a call. -/
  | opened {callerExt calleeExt callId callerTag invite : Str} {plan : InvitePlan}
      {session : RelaySession} {media : MediaRelayManager} {remoteContact : Option Str}
      (poisoned : s.poisoned = false)
      (admitted : admitted cfg msg d s = some (callerExt, calleeExt, callId, callerTag))
      (planned : planInvite cfg B calleeExt msg.text d.now (s.cleanupCall callId) = .ok (.ok plan))
      (created : (s.cleanupCall callId).media.createSession callId = (some session, media))
      (contact : extractContactUri msg.text = .ok remoteContact)
      (forwarded : calleeInvite cfg B msg.text callerExt calleeExt plan session d
        { s.cleanupCall callId with media } = .ok invite) :
    Handled cfg B id msg d s .invite (.invite callId (.request plan.calleeSink invite))
      { s.cleanupCall callId with
        media
        activeCalls := (s.cleanupCall callId).activeCalls.insert callId
          (newCall id msg callerExt calleeExt callId callerTag remoteContact plan session d) }
  /-- A response to a call is read. -/
  | answered {callId : Str} {statusCode : Nat} {c : CallInfo}
      (callId_eq : extractCallId msg.text = .ok (some callId))
      (status : extractStatusCode msg.text = some statusCode)
      (poisoned : s.poisoned = false) (found : s.activeCalls.lookup callId = some c)
      (read : (updateCall B statusCode msg.text c).1 = .ok ()) :
    Handled cfg B id msg d s .response
      (passOn cfg B callId statusCode msg d (updateCall B statusCode msg.text c).2)
      { s with activeCalls := s.activeCalls.insert callId (updateCall B statusCode msg.text c).2 }
  /-- A response panics under the lock. -/
  | unread {callId : Str} {statusCode : Nat} {c : CallInfo} {e : Fault Empty}
      (callId_eq : extractCallId msg.text = .ok (some callId))
      (status : extractStatusCode msg.text = some statusCode)
      (poisoned : s.poisoned = false) (found : s.activeCalls.lookup callId = some c)
      (read : (updateCall B statusCode msg.text c).1 = .error e) :
    Handled cfg B id msg d s .response .panicked
      { s with
        activeCalls := s.activeCalls.insert callId (updateCall B statusCode msg.text c).2
        poisoned := true }
  /-- A call without a sink of the callee has come to its end. -/
  | ended {handler : Handler} {callId : Str} {c : CallInfo} {result : Option (Nat × Str)}
      (poisoned : s.poisoned = false) (found : s.activeCalls.lookup callId = some c)
      (alone : c.calleeSink = none) (other : handler ≠ .invite)
      (callId_eq : extractCallId msg.text = .ok (some callId)) :
    Handled cfg B id msg d s handler (.done result) (s.cleanupCall callId)
  /-- A CANCEL panics under the lock. -/
  | untagged {callId : Str} {c : CallInfo} {e : Fault Empty}
      (callId_eq : extractCallId msg.text = .ok (some callId))
      (poisoned : s.poisoned = false) (found : s.activeCalls.lookup callId = some c)
      (read : extractFromTag msg.text = .error e) :
    Handled cfg B id msg d s .cancel .panicked { s with poisoned := true }
  /-- A call is cancelled. -/
  | cancelled {callId text : Str} {fromTag : Option Str} {c : CallInfo} {sink : ConnectionSink}
      (callId_eq : extractCallId msg.text = .ok (some callId))
      (poisoned : s.poisoned = false) (found : s.activeCalls.lookup callId = some c)
      (read : extractFromTag msg.text = .ok fromTag) (tag : fromTag = some c.callerTag)
      (named : c.callerTag ≠ []) :
    Handled cfg B id msg d s .cancel
      (.cancel callId c.originalInvite c.invite (.request sink text))
      { s with activeCalls := s.activeCalls.insert callId { c with state := .terminated } }

theorem handled_acceptInvite (cfg : RouterConfig) (B : Base64) (id : Nat) {msg : Incoming} {d : Draw}
    {s : Router} {callerExt calleeExt callId callerTag : Str}
    (h : admitted cfg msg d s = some (callerExt, calleeExt, callId, callerTag)) {pc : Pc} {s' : Router}
    (heq : s.acceptInvite cfg B id msg d callerExt calleeExt callId callerTag = (pc, s')) :
    Handled cfg B id msg d s .invite pc s' := by
  unfold acceptInvite at heq
  split at heq
  · cases heq
    exact .quiet s.registrar trivial fun _ => ⟨rfl, nofun⟩
  rename_i hp
  have hp : s.poisoned = false := by simpa using hp
  dsimp only at heq
  split at heq
  · cases heq
    exact .refused hp h ⟨fun _ => rfl, rfl⟩ rfl nofun
  · rename_i hrefused
    cases heq
    exact .refused hp h ⟨fun _ => rfl, rfl⟩ rfl (declines_reply (planInvite_refused hrefused))
  · rename_i plan hplan
    rcases hcreated : (s.cleanupCall callId).media.createSession callId with ⟨session, media⟩
    have hsessions := (s.cleanupCall callId).media.createSession_sessions callId
    have hsenders := (s.cleanupCall callId).media.createSession_shutdownSenders callId
    rw [hcreated] at heq hsessions hsenders
    cases session with
    | none =>
      cases heq
      refine .refused hp h ⟨fun callId' => ?_, hsenders⟩ rfl (declines_reply (by decide))
      rcases (s.cleanupCall callId).media.createSession_cases callId with ⟨_, -, he⟩ | ⟨hnone, _, -⟩ |
        ⟨_, _, _, he⟩
      · rw [hcreated] at he
        cases he
      · rw [hsessions]
        split
        · rename_i he
          rw [he, hnone]
        · rfl
      · rw [hcreated] at he
        cases he
    | some session =>
      dsimp only at heq
      unfold openCall at heq
      obtain ⟨forwarded, hforwarded⟩ := calleeInvite_ok cfg B msg.text callerExt calleeExt plan session d
        { s.cleanupCall callId with media }
      rw [hforwarded] at heq
      cases hcontact : extractContactUri msg.text with
      | error e =>
        rw [hcontact] at heq
        cases heq
        exact .leaked hp h hplan hcreated hcontact
      | ok contact =>
        rw [hcontact] at heq
        cases heq
        exact .opened hp h hplan hcreated hcontact hforwarded

theorem handled_response (cfg : RouterConfig) (B : Base64) (id : Nat) {msg : Incoming} {d : Draw}
    {s : Router} {pc : Pc} {s' : Router} (heq : s.handleCalleeResponse cfg B msg d = (pc, s')) :
    Handled cfg B id msg d s .response pc s' := by
  have hquiet : ∀ {pc' : Pc}, (pc', s) = (pc, s') → pc'.Quiet → Handled cfg B id msg d s .response pc s' := by
    rintro pc' ⟨⟩ hpc'
    exact .quiet s.registrar hpc' nofun
  unfold handleCalleeResponse at heq
  split at heq
  · exact hquiet heq trivial
  · exact hquiet heq trivial
  rename_i callId hid
  split at heq
  · exact hquiet heq trivial
  rename_i statusCode hstatus
  split at heq
  · exact hquiet heq trivial
  rename_i hp
  have hp : s.poisoned = false := by simpa using hp
  split at heq
  · exact hquiet heq trivial
  rename_i c hc
  rcases hupdate : updateCall B statusCode msg.text c with ⟨result, c'⟩
  rw [hupdate] at heq
  cases result with
  | error e =>
    cases heq
    have h : Handled cfg B id msg d s .response _ _ :=
      .unread hid hstatus hp hc (congrArg Prod.fst hupdate)
    rwa [hupdate] at h
  | ok _ =>
    cases heq
    have h : Handled cfg B id msg d s .response _ _ :=
      .answered hid hstatus hp hc (congrArg Prod.fst hupdate)
    rwa [hupdate] at h

theorem handled_ack (cfg : RouterConfig) (B : Base64) (id : Nat) {msg : Incoming} {d : Draw}
    {s : Router} {pc : Pc} {s' : Router} (heq : s.handleAck cfg msg d = (pc, s')) :
    Handled cfg B id msg d s .ack pc s' := by
  have hquiet : ∀ {pc' : Pc}, (pc', s) = (pc, s') → pc'.Quiet → Handled cfg B id msg d s .ack pc s' := by
    rintro pc' ⟨⟩ hpc'
    exact .quiet s.registrar hpc' nofun
  unfold handleAck at heq
  split at heq
  · exact hquiet heq trivial
  · exact hquiet heq trivial
  split at heq
  · exact hquiet heq trivial
  split at heq
  · exact hquiet heq trivial
  rename_i c _
  split at heq
  · exact hquiet heq trivial
  rename_i sink _
  obtain ⟨text, hrelayed⟩ := relayed_ok cfg msg (s.calleeTarget cfg c d.now) sink d
  rw [hrelayed] at heq
  exact hquiet heq ⟨sink, text, rfl⟩

theorem handled_bye (cfg : RouterConfig) (B : Base64) (id : Nat) {msg : Incoming} {d : Draw}
    {s : Router} {pc : Pc} {s' : Router} (heq : s.handleBye cfg msg d = (pc, s')) :
    Handled cfg B id msg d s .bye pc s' := by
  have hquiet : ∀ {pc' : Pc}, (pc', s) = (pc, s') → pc'.Quiet → Handled cfg B id msg d s .bye pc s' := by
    rintro pc' ⟨⟩ hpc'
    exact .quiet s.registrar hpc' nofun
  unfold handleBye at heq
  split at heq
  · exact hquiet heq trivial
  · exact hquiet heq trivial
  rename_i callId hid
  split at heq
  · exact hquiet heq trivial
  rename_i fromTag _
  split at heq
  · exact hquiet heq trivial
  rename_i hp
  have hp : s.poisoned = false := by simpa using hp
  split at heq
  · exact hquiet heq trivial
  rename_i c hc
  dsimp only at heq
  split at heq
  · exact hquiet heq trivial
  split at heq
  · exact hquiet heq trivial
  split at heq
  · -- the BYE is the caller's, and there is no sink of the callee
    rename_i hnone
    have halone : c.calleeSink = none := by
      split at hnone
      · exact hnone
      · cases hnone
    unfold cleanupThen at heq
    rw [hp] at heq
    cases heq
    exact .ended hp hc halone nofun hid
  · rename_i sink _
    obtain ⟨text, hrelayed⟩ := relayed_ok cfg msg
      (if byeFromCaller (fromTag.getD []) (msg.connectionExt.getD []) c &&
          !byeFromCallee (fromTag.getD []) (msg.connectionExt.getD []) c then
        (c.calleeSink, s.calleeTarget cfg c d.now)
      else (some c.callerSink, s.callerTarget cfg c d.now)).2 sink d
    rw [hrelayed] at heq
    exact hquiet heq ⟨sink, text, rfl⟩

theorem handled_cancel (cfg : RouterConfig) (B : Base64) (id : Nat) {msg : Incoming} {d : Draw}
    {s : Router} {pc : Pc} {s' : Router} (heq : s.handleCancel cfg msg d = (pc, s')) :
    Handled cfg B id msg d s .cancel pc s' := by
  have hquiet : ∀ {pc' : Pc}, (pc', s) = (pc, s') → pc'.Quiet → Handled cfg B id msg d s .cancel pc s' := by
    rintro pc' ⟨⟩ hpc'
    exact .quiet s.registrar hpc' nofun
  unfold handleCancel at heq
  split at heq
  · exact hquiet heq trivial
  · exact hquiet heq trivial
  rename_i callId hid
  split at heq
  · exact hquiet heq trivial
  rename_i hp
  have hp : s.poisoned = false := by simpa using hp
  split at heq
  · exact hquiet heq trivial
  rename_i c hc
  split at heq
  · rename_i e hread
    cases heq
    exact .untagged hid hp hc hread
  rename_i fromTag hread
  split at heq
  · exact hquiet heq trivial
  rename_i htag
  have htag : fromTag.getD [] ≠ [] ∧ fromTag.getD [] = c.callerTag := by simpa using htag
  dsimp only at heq
  split at heq
  · rename_i halone
    unfold cleanupThen at heq
    rw [if_neg (by simpa using hp), cleanupCall_insert hc] at heq
    cases heq
    exact .ended hp hc halone nofun hid
  · rename_i sink _
    obtain ⟨text, hrelayed⟩ := relayed_ok cfg msg
      (calleeTarget cfg c d.now { s with
        activeCalls := s.activeCalls.insert callId { c with state := .terminated } }) sink d
    rw [hrelayed] at heq
    cases heq
    refine .cancelled hid hp hc hread ?_ (htag.2 ▸ htag.1)
    cases fromTag with
    | none => exact absurd rfl htag.1
    | some tag => exact congrArg some htag.2

/-- A CANCEL that is not by the caller leaves everything as it is, but for the lock. -/
theorem handleCancel_stranger (cfg : RouterConfig) {msg : Incoming} (d : Draw) {s : Router} {callId : Str}
    {c : CallInfo} (hid : extractCallId msg.text = .ok (some callId))
    (hfound : s.activeCalls.lookup callId = some c)
    (h : s.poisoned = false → extractFromTag msg.text = .ok (some c.callerTag) → c.callerTag = []) :
    ∃ pc poisoned, pc.sending = none ∧ s.handleCancel cfg msg d = (pc, { s with poisoned }) := by
  unfold handleCancel
  rw [hid]
  dsimp only
  split
  · exact ⟨.panicked, s.poisoned, rfl, rfl⟩
  rename_i hp
  rw [hfound]
  dsimp only
  split
  · exact ⟨.panicked, true, rfl, rfl⟩
  rename_i fromTag hread
  split
  · exact ⟨.done _, s.poisoned, rfl, rfl⟩
  · rename_i htag
    have htag : fromTag.getD [] ≠ [] ∧ fromTag.getD [] = c.callerTag := by simpa using htag
    cases fromTag with
    | none => exact absurd rfl htag.1
    | some tag =>
      obtain rfl : tag = c.callerTag := htag.2
      exact absurd (h (by simpa using hp) hread) htag.1

/-- **A handler up to its first send.** -/
theorem handled {id : Nat} {handler : Handler} {msg : Incoming} {d : Draw} {s : Router} {pc : Pc}
    {s' : Router} (heq : s.handle cfg B id handler msg d = (pc, s')) :
    Handled cfg B id msg d s handler pc s' := by
  cases handler with
  | invite =>
    rcases handleInvite_cases cfg B id msg d s with
      ⟨_, _, _, _, hadmitted, he⟩ | ⟨-, pc', registrar, hquiet, hover, hdeclines, he⟩
    · exact handled_acceptInvite cfg B id hadmitted (he.symm.trans heq)
    · cases he.symm.trans heq
      exact .quiet registrar hquiet fun _ => ⟨hover, hdeclines⟩
  | response => exact handled_response cfg B id heq
  | ack => exact handled_ack cfg B id heq
  | bye => exact handled_bye cfg B id heq
  | cancel => exact handled_cancel cfg B id heq

/-! ## What a handler does behind a send -/

/-- The relay that `start_media_relay` starts. -/
def relayOf (callId : Str) (c : CallInfo) (shutdown : Nat) : RelayStart where
  callId := callId
  callerPort := c.callerRelayPort
  calleePort := c.calleeRelayPort
  callerDecryptCrypto := c.callerRemoteCrypto
  calleeEncryptCrypto :=
    if c.calleeRemoteCrypto.map SuiteKeys.suite = some .aeadAes128Gcm then
      c.calleeLocalCryptoGcm.or c.calleeLocalCrypto
    else c.calleeLocalCrypto
  calleeDecryptCrypto := c.calleeRemoteCrypto
  callerEncryptCrypto := c.callerLocalCrypto
  callerMediaAddr := c.callerMediaAddr
  calleeMediaAddr := c.calleeMediaAddr
  shutdown := shutdown

theorem startMediaRelay_of_some {s : Router} {callId : Str} {c : CallInfo}
    (h : s.activeCalls.lookup callId = some c) :
    s.startMediaRelay callId = { s with
      media := s.media.registerShutdown callId s.relays.length
      relays := s.relays ++ [relayOf callId c s.relays.length] } := by
  unfold startMediaRelay
  rw [h]
  rfl

/-- The relay is started for a call that has the callee's keys, and once. -/
theorem startOnce_cases (callId : Str) (s : Router) :
    (s.startOnce callId = s ∧ ∀ c, s.activeCalls.lookup callId = some c →
      c.calleeRemoteCrypto.isSome = true → c.relayStarted = true) ∨
    ∃ c, s.activeCalls.lookup callId = some c ∧ c.calleeRemoteCrypto.isSome = true ∧
      c.relayStarted = false ∧
      s.startOnce callId = { s with
        activeCalls := s.activeCalls.insert callId { c with relayStarted := true }
        media := s.media.registerShutdown callId s.relays.length
        relays := s.relays ++ [relayOf callId c s.relays.length] } := by
  cases hc : s.activeCalls.lookup callId with
  | none =>
    have he : s.startOnce callId = s := by unfold startOnce; rw [hc]
    exact .inl ⟨he, fun c h => by cases h⟩
  | some c =>
    by_cases h : (!c.relayStarted && c.calleeRemoteCrypto.isSome) = true
    · refine .inr ⟨c, rfl, (Bool.and_eq_true_iff.mp h).2, by simpa using (Bool.and_eq_true_iff.mp h).1, ?_⟩
      unfold startOnce
      rw [hc]
      dsimp only
      rw [if_pos h, startMediaRelay_of_some (AList.lookup_insert _)]
      rfl
    · have he : s.startOnce callId = s := by
        unfold startOnce
        rw [hc]
        exact if_neg h
      refine .inl ⟨he, ?_⟩
      rintro c' ⟨⟩ hcrypto
      simpa [hcrypto] using h

/-- All that an execution does when its send has come to an end: where it was and is, and the router. -/
inductive Proceeded (task : Task) (taken : Bool) (d : Draw) (s : Router) : Pc → Router → Prop
  /-- The table is not accessible. -/
  | stuck (poisoned : s.poisoned = true) : Proceeded task taken d s .panicked s
  /-- The INVITE is on its way. -/
  | trying {callId : Str} {out : Outgoing} (place : task.pc = .invite callId out) (taken_eq : taken = true) :
    Proceeded task taken d s (.done (reply task.msg d 100 "Trying")) s
  /-- The INVITE is not. -/
  | failed {callId : Str} {out : Outgoing} (place : task.pc = .invite callId out) (taken_eq : taken = false)
      (poisoned : s.poisoned = false) :
    Proceeded task taken d s (.done (reply task.msg d 500 "Internal Server Error")) (s.cleanupCall callId)
  /-- The call has come to its end. -/
  | ended {callId : Str} {result : Option (Nat × Str)} (place : task.pc.Ends taken callId)
      (other : ∀ callId out, task.pc ≠ .invite callId out) (poisoned : s.poisoned = false) :
    Proceeded task taken d s (.done result) (s.cleanupCall callId)
  /-- The CANCEL was sent on. -/
  | terminated {callId originalInvite text : Str} {invite : Nat} {out : Outgoing} {c : CallInfo}
      (place : task.pc = .cancel callId originalInvite invite out) (poisoned : s.poisoned = false)
      (found : s.activeCalls.lookup callId = some c) :
    Proceeded task taken d s (.terminate callId (.answer invite 487 c.callerSink text none)) s
  /-- A 200 was sent on. -/
  | started {callId : Str} {out : Outgoing} (place : task.pc = .forward callId 200 out)
      (poisoned : s.poisoned = false) :
    Proceeded task taken d s (.done none) (s.startOnce callId)
  /-- Another response was, or an ACK. -/
  | passed (place : (∃ callId statusCode out, task.pc = .forward callId statusCode out ∧
      statusCode < 400 ∧ statusCode ≠ 200) ∨ ∃ out, task.pc = .ack out) :
    Proceeded task taken d s (.done none) s

theorem proceeded_cleanupThen {task : Task} {taken : Bool} {d : Draw} {s : Router} {callId : Str}
    {result : Option (Nat × Str)} (hends : task.pc.Ends taken callId)
    (hother : ∀ callId out, task.pc ≠ .invite callId out) {pc : Pc} {s' : Router}
    (heq : cleanupThen callId result s = (pc, s')) : Proceeded task taken d s pc s' := by
  unfold cleanupThen at heq
  split at heq
  · rename_i hp
    cases heq
    exact .stuck hp
  · rename_i hp
    cases heq
    exact .ended hends hother (by simpa using hp)

/-- **A handler behind a send.** -/
theorem proceeded {task : Task} {taken : Bool} {d : Draw} {s : Router} {out : Outgoing}
    (hsending : task.pc.sending = some out) {pc : Pc} {s' : Router}
    (heq : s.proceed task taken d = (pc, s')) : Proceeded task taken d s pc s' := by
  unfold proceed at heq
  cases hpc : task.pc with
  | invite callId out =>
    simp only [hpc] at heq
    cases taken with
    | true =>
      cases heq
      exact .trying hpc rfl
    | false =>
      unfold cleanupThen at heq
      simp only [Bool.false_eq_true, if_false] at heq
      split at heq
      · rename_i hp
        cases heq
        exact .stuck hp
      · rename_i hp
        cases heq
        exact .failed hpc rfl (by simpa using hp)
  | reject callId out =>
    simp only [hpc] at heq
    exact proceeded_cleanupThen (by rw [hpc]; exact rfl) (by rw [hpc]; exact nofun) heq
  | forward callId statusCode out =>
    simp only [hpc] at heq
    split at heq
    · rename_i hstatus
      exact proceeded_cleanupThen (by rw [hpc]; exact ⟨rfl, hstatus⟩) (by rw [hpc]; exact nofun) heq
    · rename_i hlt
      split at heq
      · rename_i hok
        subst hok
        split at heq
        · rename_i hp
          cases heq
          exact .stuck hp
        · rename_i hp
          cases heq
          exact .started hpc (by simpa using hp)
      · rename_i hne
        cases heq
        exact .passed (.inl ⟨callId, statusCode, out, hpc, by omega, hne⟩)
  | ack out =>
    simp only [hpc] at heq
    cases heq
    exact .passed (.inr ⟨out, hpc⟩)
  | bye callId out =>
    simp only [hpc] at heq
    exact proceeded_cleanupThen (by rw [hpc]; exact rfl) (by rw [hpc]; exact nofun) heq
  | cancel callId originalInvite invite out =>
    simp only [hpc] at heq
    unfold sendTerminated at heq
    split at heq
    · rename_i hp
      cases heq
      exact .stuck hp
    · rename_i hp
      split at heq
      · exact proceeded_cleanupThen (by rw [hpc]; exact rfl) (by rw [hpc]; exact nofun) heq
      · rename_i c hc
        cases heq
        exact .terminated hpc (by simpa using hp) hc
  | terminate callId out =>
    simp only [hpc] at heq
    exact proceeded_cleanupThen (by rw [hpc]; exact rfl) (by rw [hpc]; exact nofun) heq
  | done result =>
    rw [hpc] at hsending
    cases hsending
  | panicked =>
    rw [hpc] at hsending
    cases hsending

/-! ## What an event does -/

/-- All that an event does. -/
inductive Stepped (cfg : RouterConfig) (B : Base64) (s : Router) : RouterEvent → Router → Prop
  /-- An execution that is not there, or has come to its end, or has its number taken. -/
  | idle {event : RouterEvent} : Stepped cfg B s event s
  | world (writers : Table Str ConnectionSink) (registrar : RegistrarService) :
    Stepped cfg B s (.world writers registrar) { s with writers, registrar }
  | received {id : Nat} {handler : Handler} {msg : Incoming} {d : Draw} {pc : Pc} {s' : Router}
      (fresh : s.tasks.lookup id = none) (handled : Handled cfg B id msg d s handler pc s') :
    Stepped cfg B s (.receive id handler msg d) (s'.settle id handler msg pc)
  | resumed {id : Nat} {taken : Bool} {d : Draw} {task : Task} {out : Outgoing} {pc : Pc} {s' : Router}
      (running : s.tasks.lookup id = some task) (sending : task.pc.sending = some out)
      (proceeded : Proceeded task taken d
        { s with sent := s.sent ++ if taken then [out] else [] } pc s') :
    Stepped cfg B s (.resume id taken d) (s'.settle id task.handler task.msg pc)

theorem sending_eq (s : Router) (taken : Bool) (out : Outgoing) :
    (if taken then { s with sent := s.sent ++ [out] } else s : Router) =
      { s with sent := s.sent ++ if taken then [out] else [] } := by
  cases taken with
  | true => rfl
  | false => simp only [Bool.false_eq_true, if_false, List.append_nil]

/-- **An event.** -/
theorem stepped (cfg : RouterConfig) (B : Base64) (s : Router) (event : RouterEvent) :
    Stepped cfg B s event (s.step cfg B event) := by
  cases event with
  | world writers registrar => exact .world writers registrar
  | receive id handler msg d =>
    unfold step
    dsimp only
    split
    · exact .idle
    · rename_i htask
      rcases hhandle : s.handle cfg B id handler msg d with ⟨pc, s'⟩
      exact .received htask (handled hhandle)
  | resume id taken d =>
    unfold step
    dsimp only
    split
    · exact .idle
    · rename_i task htask
      split
      · exact .idle
      · rename_i out hsending
        rw [sending_eq]
        rcases hproceed : Router.proceed task taken d
          { s with sent := s.sent ++ if taken then [out] else [] } with ⟨pc, s'⟩
        exact .resumed htask hsending (proceeded hsending hproceed)

/-- A handler leaves the other executions alone, and sends nothing by itself. -/
theorem Handled.frame {id : Nat} {handler : Handler} {msg : Incoming} {d : Draw} {s s' : Router} {pc : Pc}
    (h : Handled cfg B id msg d s handler pc s') :
    s'.tasks = s.tasks ∧ s'.sent = s.sent ∧ s'.relays = s.relays := by
  cases h <;> simp

theorem startOnce_frame (callId : Str) (s : Router) :
    (s.startOnce callId).tasks = s.tasks ∧ (s.startOnce callId).sent = s.sent ∧
      (s.startOnce callId).poisoned = s.poisoned := by
  rcases startOnce_cases callId s with ⟨he, -⟩ | ⟨c, -, -, -, he⟩ <;> rw [he] <;> exact ⟨rfl, rfl, rfl⟩

theorem Proceeded.frame {task : Task} {taken : Bool} {d : Draw} {s s' : Router} {pc : Pc}
    (h : Proceeded task taken d s pc s') :
    s'.tasks = s.tasks ∧ s'.sent = s.sent ∧ s'.poisoned = s.poisoned := by
  cases h with
  | started => exact startOnce_frame _ s
  | _ => simp

theorem step_receive {s : Router} {id : Nat} (hfresh : s.tasks.lookup id = none) {handler : Handler}
    {msg : Incoming} {d : Draw} : s.step cfg B (.receive id handler msg d) =
      (s.handle cfg B id handler msg d).2.settle id handler msg (s.handle cfg B id handler msg d).1 := by
  unfold step
  simp only [hfresh]

theorem step_resume {s : Router} {id : Nat} {task : Task} {out : Outgoing}
    (hrunning : s.tasks.lookup id = some task) (hsending : task.pc.sending = some out) {taken : Bool}
    {d : Draw} : s.step cfg B (.resume id taken d) =
      let sent : Router := { s with sent := s.sent ++ if taken then [out] else [] }
      (sent.proceed task taken d).2.settle id task.handler task.msg (sent.proceed task taken d).1 := by
  unfold step
  simp only [hrunning, hsending, sending_eq]

theorem run_append (cfg : RouterConfig) (B : Base64) (media : MediaRelayManager)
    (events : List RouterEvent) (event : RouterEvent) :
    run cfg B media (events ++ [event]) = (run cfg B media events).step cfg B event :=
  List.foldl_concat ..

/-- So an INVITE that passes all checks is handled. -/
theorem step_invite_of_created {id : Nat} {msg : Incoming} {d : Draw} {s : Router}
    {callerExt calleeExt callId callerTag : Str} {plan : InvitePlan} {session : RelaySession}
    {media : MediaRelayManager} (hfresh : s.tasks.lookup id = none) (hpoisoned : s.poisoned = false)
    (hadmitted : admitted cfg msg d s = some (callerExt, calleeExt, callId, callerTag))
    (hplanned : planInvite cfg B calleeExt msg.text d.now (s.cleanupCall callId) = .ok (.ok plan))
    (hcreated : (s.cleanupCall callId).media.createSession callId = (some session, media)) :
    s.step cfg B (.receive id .invite msg d) =
      let opened := openCall cfg B id msg d callerExt calleeExt callId callerTag plan session
        { s.cleanupCall callId with media }
      opened.2.settle id .invite msg opened.1 := by
  rw [step_receive hfresh]
  change (s.handleInvite cfg B id msg d).2.settle id .invite msg (s.handleInvite cfg B id msg d).1 = _
  rw [handleInvite_of_created id hpoisoned hadmitted hplanned hcreated]

/-! ## Two phones

Extensions 1001 and 1002 are registered and connected over TLS, and 1001 calls. -/

def phoneConfig : RouterConfig where
  message := { domain := "example.com".toList, rangeStart := 1000, rangeEnd := 2000, udpSocket := false }
  registrar :=
    { domain := "example.com".toList, defaultPassword := "pw".toList, rangeStart := 1000
      rangeEnd := 2000 }
  mediaAddr := "192.0.2.1".toList

def phoneAddr (n : UInt8) : SocketAddr := .v4 (Vector.ofFn fun i => if i.val = 3 then n else 10) 5061

def phoneRegistration (n : UInt8) (extension : String) : Registration where
  extension := extension.toList
  contact := ("sip:" ++ extension ++ "@10.10.10.1").toList
  expiresAt := 10000
  transportAddr := phoneAddr n
  transport := .tls

def phonesConnected : RouterEvent :=
  .world (.insert "1001".toList (.stream 1) (.insert "1002".toList (.stream 2) ∅))
    { registrations := .insert "1001".toList (phoneRegistration 1 "1001")
        (.insert "1002".toList (phoneRegistration 2 "1002") ∅) }

def phoneDraw : Draw := ⟨1000, .replicate 8 0, .replicate 8 0, .replicate 30 1, .replicate 30 2, .replicate 30 3⟩

/-- A message of the call from 1001 to 1002, in lines. -/
def phoneText (first : String) (headers body : List String) : Str :=
  ([first, "From: <sip:1001@example.com>;tag=a", "Call-ID: c"] ++ headers ++ [""] ++ body).flatMap
    (·.toList ++ crlf)

/-- The SDP of a phone. -/
def phoneSdp (crypto : List String) : List String :=
  ["v=0", "c=IN IP4 10.10.10.1", "m=audio 4000 RTP/SAVP 0"] ++ crypto

/-- A `crypto` line of a phone. -/
def phoneCrypto : List String :=
  ["a=crypto:1 AES_CM_128_HMAC_SHA1_80 inline:AAECAwQFBgcICQoLDA0ODxAREhMUFRYXGBkaGxwd"]

def phoneInvite (contact : String) : Incoming where
  text := phoneText "INVITE sip:1002@example.com SIP/2.0"
    ["To: <sip:1002@example.com>", "CSeq: 1 INVITE", contact] (phoneSdp phoneCrypto)
  sink := .stream 1
  fromAddr := phoneAddr 1
  connectionExt := some "1001".toList

/-- A response of 1002, with further headers. -/
def phoneResponse (status : String) (body : List String) : Incoming where
  text := phoneText ("SIP/2.0 " ++ status)
    ["To: <sip:1002@example.com>;tag=b", "CSeq: 1 INVITE", "Contact: <sip:1002@10.10.10.2>"] body
  sink := .stream 2
  fromAddr := phoneAddr 2
  connectionExt := some "1002".toList

/-- The media manager before the call, and its session. -/
def phoneManager : MediaRelayManager := .new 20000 20100 "192.0.2.1".toList

def phoneSession : RelaySession := ⟨"c".toList, 20000, 20002, none, none⟩

/-- The plan of the INVITE. -/
def phonePlan : InvitePlan where
  calleeSink := .stream 2
  body := (phoneSdp phoneCrypto).flatMap (·.toList ++ crlf)
  cryptoTag := 1
  crypto := .ofBytes .aesCm128HmacSha180 ((List.range 30).map UInt8.ofNat)

/-- The phones before the call. -/
def phonesReady : Router := run phoneConfig .standard phoneManager [phonesConnected]

/-- The media manager with the session. -/
def phoneMedia : MediaRelayManager :=
  { phoneManager with
    nextPort := 20004
    sessions := .insert "c".toList phoneSession ∅ }

theorem phone_created : phonesReady.media.createSession "c".toList = (some phoneSession, phoneMedia) := by
  have hfirst : phoneManager.allocatePortPair = (some 20000, { phoneManager with nextPort := 20002 }) := by
    unfold MediaRelayManager.allocatePortPair
    rw [allocateLoop_of_lt (by decide) (by decide)]
    rfl
  have hsecond : ({ phoneManager with nextPort := 20002 } : MediaRelayManager).allocatePortPair =
      (some 20002, { phoneManager with nextPort := 20004 }) := by
    unfold MediaRelayManager.allocatePortPair
    rw [allocateLoop_of_lt (by decide) (by decide)]
    rfl
  change phoneManager.createSession "c".toList = _
  unfold MediaRelayManager.createSession
  simp only [show phoneManager.sessions.lookup "c".toList = none from rfl, hfirst, hsecond]
  rfl

/-- 1001 calls, with a `Contact` as it should be. -/
def phoneCalls : List RouterEvent :=
  [phonesConnected, .receive 0 .invite (phoneInvite "Contact: <sip:1001@10.10.10.1>") phoneDraw]

/-- A response of 1002 is handled. -/
def phoneReply (id : Nat) (status : String) (body : List String) : RouterEvent :=
  .receive id .response (phoneResponse status body) phoneDraw

/-- What an execution sends is taken. -/
def phoneSent (id : Nat) : RouterEvent := .resume id true phoneDraw

/-- The INVITE is on its way to 1002. -/
def phoneCalled : Router :=
  let msg := phoneInvite "Contact: <sip:1001@10.10.10.1>"
  let opened := openCall phoneConfig .standard 0 msg phoneDraw "1001".toList "1002".toList "c".toList
    "a".toList phonePlan phoneSession { phonesReady with media := phoneMedia }
  opened.2.settle 0 .invite msg opened.1

theorem phoneCalls_eq :
    run phoneConfig .standard (.new 20000 20100 "192.0.2.1".toList) phoneCalls = phoneCalled := by
  have hadmitted : admitted phoneConfig (phoneInvite "Contact: <sip:1001@10.10.10.1>") phoneDraw phonesReady =
      some ("1001".toList, "1002".toList, "c".toList, "a".toList) := by decide +kernel
  have hplanned : planInvite phoneConfig .standard "1002".toList
      (phoneInvite "Contact: <sip:1001@10.10.10.1>").text phoneDraw.now phonesReady = .ok (.ok phonePlan) := by
    decide +kernel
  have hclean : phonesReady.cleanupCall "c".toList = phonesReady := cleanupCall_of_none rfl
  have hcalled : phonesReady.step phoneConfig .standard
      (.receive 0 .invite (phoneInvite "Contact: <sip:1001@10.10.10.1>") phoneDraw) = _ :=
    step_invite_of_created rfl rfl hadmitted (by rw [hclean]; exact hplanned)
      (by rw [hclean]; exact phone_created)
  rw [hclean] at hcalled
  rw [show phoneCalls = [phonesConnected] ++ [_] from rfl, run_append]
  exact hcalled

/-- What comes behind the call is run from there. -/
theorem run_phoneCalls (events : List RouterEvent) :
    run phoneConfig .standard (.new 20000 20100 "192.0.2.1".toList) (phoneCalls ++ events) =
      events.foldl (step phoneConfig .standard) phoneCalled := by
  rw [← phoneCalls_eq]
  exact List.foldl_append

end Router

end Minghe.Sip
