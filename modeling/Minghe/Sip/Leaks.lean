import Minghe.Lib.Run
import Minghe.Sip.Calls

/-!
# Calls and their media

Sessions, calls and shutdown senders live in three tables. `create_session` comes first, then the entry
of the call, and `start_media_relay` and `cleanup_call` change the tables together. Between the first two
`handle_invite` reads the caller's contact, by slicing, and may panic there.

* `Matched`: the three tables fit together.
* `Leaks`: an INVITE that panics behind `create_session`.
* `run_matched`: in a run without an INVITE that leaks its session, sessions, relays and calls fit together
  in every state.
* `media_matched_iff`: they do iff no INVITE that passes all checks and gets its ports has a `Contact` that
  the server panics on.
* `media_leaked`: a `Contact` with the brackets the wrong way round: the ports are taken, and there is no
  call.
-/

namespace Minghe.Sip

open Minghe.Lib
open Minghe.Media.Relay (MediaRelayManager RelaySession)
open Minghe.Media.Srtp (Base64)

namespace Router

/-- The sessions are those of the calls, with the ports of the calls, and a sender is that of a call whose
relay was started. -/
structure Matched (s : Router) : Prop where
  sessions : ∀ callId, (s.media.sessions.lookup callId).isSome = (s.activeCalls.lookup callId).isSome
  ports : ∀ callId c session, s.activeCalls.lookup callId = some c →
    s.media.sessions.lookup callId = some session →
    c.callerRelayPort = session.callerPort ∧ c.calleeRelayPort = session.calleePort
  senders : ∀ callId tx, s.media.shutdownSenders.lookup callId = some tx →
    ∃ c, s.activeCalls.lookup callId = some c ∧ c.relayStarted = true

/-- The event is an INVITE that passes all checks and gets its ports, with a `Contact` that the server
panics on. -/
def Leaks (cfg : RouterConfig) (B : Base64) (s : Router) (event : RouterEvent) : Prop :=
  ∃ id msg d callerExt calleeExt callId callerTag plan session media e,
    event = .receive id .invite msg d ∧ s.tasks.lookup id = none ∧ s.poisoned = false ∧
    admitted cfg msg d s = some (callerExt, calleeExt, callId, callerTag) ∧
    planInvite cfg B calleeExt msg.text d.now (s.cleanupCall callId) = .ok (.ok plan) ∧
    (s.cleanupCall callId).media.createSession callId = (some session, media) ∧
    extractContactUri msg.text = .error e

variable {cfg : RouterConfig} {B : Base64}

/-! ## What keeps the tables together -/

theorem Matched.congr {s s' : Router} (h : Matched s) (hcalls : s'.activeCalls = s.activeCalls)
    (hmedia : SameSessions s.media s'.media) : Matched s' := by
  obtain ⟨hsessions, hports, hsenders⟩ := h
  refine ⟨fun callId => ?_, fun callId c session hc hs => ?_, fun callId tx htx => ?_⟩
  · rw [hcalls, hmedia.sessions]
    exact hsessions callId
  · rw [hcalls] at hc
    rw [hmedia.sessions] at hs
    exact hports callId c session hc hs
  · rw [hcalls]
    rw [hmedia.shutdownSenders] at htx
    exact hsenders callId tx htx

theorem Matched.cleanupCall {s : Router} (h : Matched s) (callId : Str) : Matched (s.cleanupCall callId) := by
  cases hc : s.activeCalls.lookup callId with
  | none => rwa [cleanupCall_of_none hc]
  | some c =>
    refine ⟨fun callId' => ?_, fun callId' c' session hc' hs => ?_, fun callId' tx htx => ?_⟩
    · rw [(sessions_cleanupCall hc callId').1, lookup_cleanupCall]
      split
      · rfl
      · exact h.sessions callId'
    · rw [lookup_cleanupCall] at hc'
      rw [(sessions_cleanupCall hc callId').1] at hs
      split at hc'
      · cases hc'
      · rename_i hne
        rw [if_neg hne] at hs
        exact h.ports callId' c' session hc' hs
    · rw [(sessions_cleanupCall hc callId').2] at htx
      split at htx
      · cases htx
      · rename_i hne
        rw [lookup_cleanupCall, if_neg hne]
        exact h.senders callId' tx htx

/-- An entry is written anew, with the same ports. -/
theorem Matched.update {s s' : Router} (h : Matched s) {callId : Str} {c c' : CallInfo}
    (hc : s.activeCalls.lookup callId = some c) (hcalls : s'.activeCalls = s.activeCalls.insert callId c')
    (hports : c'.callerRelayPort = c.callerRelayPort ∧ c'.calleeRelayPort = c.calleeRelayPort)
    (hstarted : c.relayStarted = true → c'.relayStarted = true)
    (hmedia : SameSessions s.media s'.media) : Matched s' := by
  refine ⟨fun callId' => ?_, fun callId' c₁ session hc₁ hs => ?_, fun callId' tx htx => ?_⟩
  · rw [hcalls, hmedia.sessions, h.sessions, Table.lookup_insert_eq]
    split
    · rename_i he
      rw [he, hc]
      rfl
    · rfl
  · rw [hcalls, Table.lookup_insert_eq] at hc₁
    rw [hmedia.sessions] at hs
    split at hc₁
    · rename_i he
      cases hc₁
      rw [hports.1, hports.2]
      exact h.ports callId c session hc (he ▸ hs)
    · exact h.ports callId' c₁ session hc₁ hs
  · rw [hmedia.shutdownSenders] at htx
    rw [hcalls, Table.lookup_insert_eq]
    obtain ⟨c₁, hc₁, hs₁⟩ := h.senders callId' tx htx
    split
    · rename_i he
      subst he
      cases hc.symm.trans hc₁
      exact ⟨c', rfl, hstarted hs₁⟩
    · exact ⟨c₁, hc₁, hs₁⟩

/-- A call is opened where there was none, with the ports of its session. -/
theorem Matched.openCall {s s' : Router} (h : Matched s) {callId : Str} {c : CallInfo}
    {session : RelaySession} {media : MediaRelayManager}
    (hnone : s.activeCalls.lookup callId = none)
    (hcreated : s.media.createSession callId = (some session, media))
    (hcalls : s'.activeCalls = s.activeCalls.insert callId c) (hmedia : s'.media = media)
    (hports : c.callerRelayPort = session.callerPort ∧ c.calleeRelayPort = session.calleePort) :
    Matched s' := by
  have hsessions := s.media.createSession_sessions callId
  have hsenders := s.media.createSession_shutdownSenders callId
  rw [hcreated] at hsessions hsenders
  refine ⟨fun callId' => ?_, fun callId' c' session' hc' hs' => ?_, fun callId' tx htx => ?_⟩
  · rw [hcalls, hmedia, hsessions, Table.lookup_insert_eq]
    split
    · rfl
    · exact h.sessions callId'
  · rw [hcalls, Table.lookup_insert_eq] at hc'
    rw [hmedia, hsessions] at hs'
    split at hc'
    · rename_i he
      rw [if_pos he] at hs'
      cases hc'
      cases hs'
      exact hports
    · rename_i hne
      rw [if_neg hne] at hs'
      exact h.ports callId' c' session' hc' hs'
  · rw [hmedia, hsenders] at htx
    obtain ⟨c', hc', hstarted⟩ := h.senders callId' tx htx
    have hne : callId' ≠ callId := by
      rintro rfl
      rw [hnone] at hc'
      cases hc'
    rw [hcalls, Table.lookup_insert_eq, if_neg hne]
    exact ⟨c', hc', hstarted⟩

theorem Matched.startOnce {s : Router} (h : Matched s) (callId : Str) : Matched (s.startOnce callId) := by
  rcases startOnce_cases callId s with ⟨he, -⟩ | ⟨c, hc, -, -, he⟩
  · rwa [he]
  · rw [he]
    have hupdated : Matched { s with
        activeCalls := s.activeCalls.insert callId { c with relayStarted := true } } :=
      h.update hc rfl ⟨rfl, rfl⟩ (fun _ => rfl) ⟨fun _ => rfl, rfl⟩
    refine ⟨hupdated.sessions, hupdated.ports, fun callId' tx htx => ?_⟩
    change (s.media.shutdownSenders.insert callId s.relays.length).lookup callId' = some tx at htx
    rw [Table.lookup_insert_eq] at htx
    split at htx
    · rename_i he
      rw [he]
      exact ⟨_, AList.lookup_insert _, rfl⟩
    · exact hupdated.senders callId' tx htx

/-! ## Events -/

theorem Matched.handled {id : Nat} {handler : Handler} {msg : Incoming} {d : Draw} {s s' : Router}
    {pc : Pc} (h : Matched s) (hhandled : Handled cfg B id msg d s handler pc s')
    (hfresh : s.tasks.lookup id = none)
    (hleaks : ¬ Leaks cfg B s (.receive id handler msg d)) : Matched s' := by
  cases hhandled with
  | quiet registrar => exact h.congr rfl ⟨fun _ => rfl, rfl⟩
  | refused poisoned admitted same => exact (h.cleanupCall _).congr rfl same
  | leaked poisoned admitted planned created contact =>
    exact absurd ⟨id, msg, d, _, _, _, _, _, _, _, _, rfl, hfresh, poisoned, admitted, planned, created,
      contact⟩ hleaks
  | @opened _ _ callId _ _ _ _ _ _ poisoned admitted planned created =>
    exact (h.cleanupCall callId).openCall (by rw [lookup_cleanupCall, if_pos rfl]) created rfl rfl ⟨rfl, rfl⟩
  | @answered _ statusCode c _ _ _ found =>
    obtain ⟨_, _, _, _, _, he⟩ := updateCall_eq B statusCode msg.text c
    exact h.update found rfl (by rw [he]; exact ⟨rfl, rfl⟩) (by rw [he]; exact fun hs => hs) ⟨fun _ => rfl, rfl⟩
  | @unread _ statusCode c _ _ _ _ found =>
    obtain ⟨_, _, _, _, _, he⟩ := updateCall_eq B statusCode msg.text c
    exact h.update found rfl (by rw [he]; exact ⟨rfl, rfl⟩) (by rw [he]; exact fun hs => hs) ⟨fun _ => rfl, rfl⟩
  | ended => exact h.cleanupCall _
  | untagged => exact h.congr rfl ⟨fun _ => rfl, rfl⟩
  | cancelled _ _ found => exact h.update found rfl ⟨rfl, rfl⟩ (fun hs => hs) ⟨fun _ => rfl, rfl⟩

theorem Matched.proceeded {task : Task} {taken : Bool} {d : Draw} {s s' : Router} {pc : Pc} (h : Matched s)
    (hproceeded : Proceeded task taken d s pc s') : Matched s' := by
  cases hproceeded with
  | failed => exact h.cleanupCall _
  | ended => exact h.cleanupCall _
  | started => exact h.startOnce _
  | _ => exact h

/-- **Enough**: one event. -/
theorem Matched.step {s : Router} (h : Matched s) {event : RouterEvent} (hleaks : ¬ Leaks cfg B s event) :
    Matched (s.step cfg B event) := by
  have hstep := stepped cfg B s event
  revert hstep
  generalize s.step cfg B event = s'
  intro hstep
  cases hstep with
  | idle => exact h
  | world writers registrar => exact h.congr rfl ⟨fun _ => rfl, rfl⟩
  | received fresh handled => exact (h.handled handled fresh hleaks).congr rfl ⟨fun _ => rfl, rfl⟩
  | @resumed _ taken _ _ out _ _ _ _ proceeded =>
    have hsent : Matched { s with sent := s.sent ++ if taken then [out] else [] } :=
      h.congr rfl ⟨fun _ => rfl, rfl⟩
    exact (hsent.proceeded proceeded).congr rfl ⟨fun _ => rfl, rfl⟩

/-- **Necessary**: the session of a call that is not there. -/
theorem not_matched_of_leaks {s : Router} {event : RouterEvent} (h : Leaks cfg B s event) :
    ¬ Matched (s.step cfg B event) := by
  obtain ⟨id, msg, d, callerExt, calleeExt, callId, callerTag, plan, session, media, e, rfl, hfresh,
    hpoisoned, hadmitted, hplanned, hcreated, hcontact⟩ := h
  have hleft : (s.step cfg B (.receive id .invite msg d)).media = media ∧
      (s.step cfg B (.receive id .invite msg d)).activeCalls = (s.cleanupCall callId).activeCalls := by
    have hhandle : s.handle cfg B id .invite msg d = (.panicked, { s.cleanupCall callId with media }) := by
      refine (handleInvite_of_created id hpoisoned hadmitted hplanned hcreated).trans ?_
      unfold openCall
      obtain ⟨forwarded, hforwarded⟩ := calleeInvite_ok cfg B msg.text callerExt calleeExt plan session d
        { s.cleanupCall callId with media }
      simp only [hforwarded, hcontact]
    unfold step
    simp only [hfresh, hhandle]
    exact ⟨rfl, rfl⟩
  intro hmatched
  have hsessions := hmatched.sessions callId
  rw [hleft.1, hleft.2, lookup_cleanupCall, if_pos rfl] at hsessions
  have hthere := (s.cleanupCall callId).media.createSession_sessions callId callId
  rw [hcreated, if_pos rfl] at hthere
  rw [hthere] at hsessions
  cases hsessions

theorem matched_start (portStart portEnd : UInt16) (mediaAddr : Str) :
    Matched (start (.new portStart portEnd mediaAddr)) := by
  refine ⟨fun callId => ?_, fun callId c session hc _ => ?_, fun callId tx htx => ?_⟩
  · rfl
  · cases (AList.lookup_empty callId).symm.trans hc
  · cases (AList.lookup_empty callId).symm.trans htx

/-- The tables fit together in every state of a run without such an INVITE. -/
theorem run_matched {portStart portEnd : UInt16} {mediaAddr : Str} {events : List RouterEvent}
    (h : ∀ done event, done ++ [event] <+: events →
      ¬ Leaks cfg B (run cfg B (.new portStart portEnd mediaAddr) done) event)
    {done : List RouterEvent} (hdone : done <+: events) :
    Matched (run cfg B (.new portStart portEnd mediaAddr) done) := by
  have hstart : Matched (run cfg B (.new portStart portEnd mediaAddr) []) :=
    matched_start portStart portEnd mediaAddr
  refine prefix_induction (P := fun done => Matched (run cfg B (.new portStart portEnd mediaAddr) done))
    hstart (fun done event _ hevent ih => ?_) List.nil_prefix hdone
  rw [run_append]
  exact ih.step (h done event hevent)

/-- **When the tables fit together.** In every state that a run of the router reaches the sessions are
those of the calls, with their ports, and the senders are those of calls whose relay was started, iff no
INVITE that passes all checks and gets its ports has a `Contact` that the server panics on. -/
theorem media_matched_iff (cfg : RouterConfig) (B : Base64) (portStart portEnd : UInt16) (mediaAddr : Str)
    (events : List RouterEvent) :
    (∀ done, done <+: events → Matched (run cfg B (.new portStart portEnd mediaAddr) done)) ↔
      ∀ done event, done ++ [event] <+: events →
        ¬ Leaks cfg B (run cfg B (.new portStart portEnd mediaAddr) done) event := by
  constructor
  · intro h done event hdone hleaks
    refine not_matched_of_leaks hleaks ?_
    rw [← run_append]
    exact h _ hdone
  · exact fun h done hdone => run_matched h hdone

/-- An INVITE whose `Contact` has the brackets the wrong way round: the ports are taken, and there is no
call. -/
theorem media_leaked :
    ¬ Matched (run phoneConfig .standard (.new 20000 20100 "192.0.2.1".toList)
      [phonesConnected, .receive 0 .invite (phoneInvite "Contact: >x<") phoneDraw]) := by
  have hadmitted : admitted phoneConfig (phoneInvite "Contact: >x<") phoneDraw phonesReady =
      some ("1001".toList, "1002".toList, "c".toList, "a".toList) := by decide +kernel
  have hplanned : planInvite phoneConfig .standard "1002".toList (phoneInvite "Contact: >x<").text
      phoneDraw.now phonesReady = .ok (.ok phonePlan) := by decide +kernel
  have hcontact : extractContactUri (phoneInvite "Contact: >x<").text = .error .panic := by decide +kernel
  have hclean : phonesReady.cleanupCall "c".toList = phonesReady := cleanupCall_of_none rfl
  have hleaks : Leaks phoneConfig .standard phonesReady
      (.receive 0 .invite (phoneInvite "Contact: >x<") phoneDraw) :=
    ⟨0, phoneInvite "Contact: >x<", phoneDraw, "1001".toList, "1002".toList, "c".toList, "a".toList,
      phonePlan, phoneSession, _, .panic, rfl, rfl, rfl, hadmitted, by rw [hclean]; exact hplanned,
      by rw [hclean]; exact phone_created, hcontact⟩
  have h := not_matched_of_leaks hleaks
  rw [phonesReady, ← run_append] at h
  exact h

end Router

end Minghe.Sip
