import Minghe.Media.PortRange
import Minghe.Sip.Heard

/-!
# The ports of the calls

The ports of a call are those of its session, and the port manager takes them from the range of the
configuration. So every port that an SDP of the server names, and every port that a relay listens on, is an
even one of the range, as long as the counter has room behind the range.

* `InPorts`: a port of the range. `Ranged`: all sessions of a manager have such ports.
* `PortsKept`: the same for all calls of the router, and all relays that it started.
-/

namespace Minghe.Media.Relay

open Minghe.Lib

section

variable (portStart portEnd : UInt16)

/-- An even port of the range. -/
structure InPorts (port : UInt16) : Prop where
  even : port.toNat % 2 = 0
  start_le : portStart ≤ port
  lt_end : port < portEnd

/-- All sessions have such ports, and the next ones will. -/
structure Ranged (m : MediaRelayManager) : Prop where
  below : Below m
  start_eq : m.portStart = portStart
  end_eq : m.portEnd = portEnd
  session : ∀ id session, m.sessions.lookup id = some session →
    InPorts portStart portEnd session.callerPort ∧ InPorts portStart portEnd session.calleePort

end

variable {portStart portEnd : UInt16} {m : MediaRelayManager}

/-- A port that is allocated. -/
theorem Ranged.allocate (h : Ranged portStart portEnd m) {port : UInt16} {m' : MediaRelayManager}
    (hallocate : m.allocatePortPair = (some port, m')) :
    InPorts portStart portEnd port ∧ Ranged portStart portEnd m' := by
  obtain ⟨hrange, hbelow⟩ := h.below.step
  have hport : m.allocatePortPair.1 = some port := by rw [hallocate]
  have hm' : m' = m.allocatePortPair.2 := by rw [hallocate]
  obtain ⟨hstart, hend⟩ := hrange.range port hport
  rw [h.start_eq] at hstart
  rw [h.end_eq] at hend
  exact ⟨⟨hrange.even port hport, hstart, hend⟩, hm' ▸ ⟨hbelow, h.start_eq, h.end_eq, h.session⟩⟩

theorem Ranged.refuse (h : Ranged portStart portEnd m) : Ranged portStart portEnd m.allocatePortPair.2 :=
  ⟨h.below.step.2, h.start_eq, h.end_eq, h.session⟩

/-- **`create_session`** returns a session with such ports. -/
theorem Ranged.createSession (h : Ranged portStart portEnd m) (sessionId : SessionId) :
    Ranged portStart portEnd (m.createSession sessionId).2 ∧
      ∀ session, (m.createSession sessionId).1 = some session →
        InPorts portStart portEnd session.callerPort ∧ InPorts portStart portEnd session.calleePort := by
  unfold MediaRelayManager.createSession
  cases hexisting : m.sessions.lookup sessionId with
  | some existing =>
    refine ⟨h, fun session hsession => ?_⟩
    cases hsession
    exact h.session sessionId _ hexisting
  | none =>
    dsimp only
    have hrefuse := h.refuse
    rcases hfirst : m.allocatePortPair with ⟨_ | callerPort, m₁⟩
    · rw [hfirst] at hrefuse
      exact ⟨hrefuse, nofun⟩
    · dsimp only
      obtain ⟨hcaller, h₁⟩ := h.allocate hfirst
      have hrefuse₁ := h₁.refuse
      rcases hsecond : m₁.allocatePortPair with ⟨_ | calleePort, m₂⟩
      · rw [hsecond] at hrefuse₁
        exact ⟨hrefuse₁, nofun⟩
      · dsimp only
        obtain ⟨hcallee, h₂⟩ := h₁.allocate hsecond
        refine ⟨⟨⟨⟨h₂.below.even, h₂.below.le⟩, h₂.below.room, h₂.below.next_even, h₂.below.start_le,
          h₂.below.le_end⟩, h₂.start_eq, h₂.end_eq, fun id session hsession => ?_⟩, fun session hsession => ?_⟩
        · rcases Table.lookup_insert_eq_some hsession with ⟨-, rfl⟩ | ⟨-, hold⟩
          · exact ⟨hcaller, hcallee⟩
          · exact h₂.session id session hold
        · cases hsession
          exact ⟨hcaller, hcallee⟩

theorem Ranged.removeSession (h : Ranged portStart portEnd m) (sessionId : SessionId) :
    Ranged portStart portEnd (m.removeSession sessionId).2 := by
  obtain ⟨⟨⟨heven, hle⟩, hroom, hnext, hstart, hend⟩, hs, he, hsession⟩ := h
  refine ⟨⟨⟨heven, hle⟩, hroom, hnext, hstart, hend⟩, hs, he, fun id session hl => ?_⟩
  have hl : (m.sessions.erase sessionId).lookup id = some session := hl
  rw [Table.lookup_erase_eq] at hl
  split at hl
  · cases hl
  · exact hsession id session hl

theorem Ranged.registerShutdown (h : Ranged portStart portEnd m) (sessionId : SessionId) (tx : Nat) :
    Ranged portStart portEnd (m.registerShutdown sessionId tx) := by
  obtain ⟨⟨⟨heven, hle⟩, hroom, hnext, hstart, hend⟩, hs, he, hsession⟩ := h
  exact ⟨⟨⟨heven, hle⟩, hroom, hnext, hstart, hend⟩, hs, he, hsession⟩

theorem Ranged.new (heven : portStart.toNat % 2 = 0) (hle : portStart ≤ portEnd)
    (hroom : portEnd.toNat ≤ 65532) (mediaAddr : List Char) :
    Ranged portStart portEnd (.new portStart portEnd mediaAddr) := by
  have hle' := UInt16.le_iff_toNat_le.mp hle
  refine ⟨⟨⟨heven, hle'⟩, hroom, heven, Nat.le_refl _, Nat.le_succ_of_le hle'⟩, rfl, rfl, ?_⟩
  intro id session hl
  cases (AList.lookup_empty id).symm.trans hl

end Minghe.Media.Relay

namespace Minghe.Sip

open Minghe.Lib
open Minghe.Media.Relay
open Minghe.Media.Srtp (Base64)

namespace Router

variable {cfg : RouterConfig} {B : Base64}

/-! ## The router -/

theorem openCall_media (id : Nat) (msg : Incoming) (d : Draw)
    (callerExt calleeExt callId callerTag : Str) (plan : InvitePlan) (session : RelaySession) (s : Router) :
    (openCall cfg B id msg d callerExt calleeExt callId callerTag plan session s).2.media = s.media := by
  unfold openCall
  split
  · rfl
  · split <;> rfl

theorem acceptInvite_media (id : Nat) (msg : Incoming) (d : Draw)
    (callerExt calleeExt callId callerTag : Str) (s : Router) :
    let s' := (acceptInvite cfg B id msg d callerExt calleeExt callId callerTag s).2
    s'.media = s.media ∨ s'.media = (s.cleanupCall callId).media ∨
      s'.media = ((s.cleanupCall callId).media.createSession callId).2 := by
  unfold acceptInvite
  dsimp only
  split
  · exact .inl rfl
  split
  · exact .inr (.inl rfl)
  · exact .inr (.inl rfl)
  · refine .inr (.inr ?_)
    rcases (s.cleanupCall callId).media.createSession callId with ⟨_ | session, media⟩
    · rfl
    · exact openCall_media ..

/-- All that an INVITE does to the port manager. -/
theorem handleInvite_media (cfg : RouterConfig) (B : Base64) (id : Nat) (msg : Incoming) (d : Draw)
    (s : Router) : (s.handleInvite cfg B id msg d).2.media = s.media ∨ ∃ callId,
      (s.handleInvite cfg B id msg d).2.media = (s.cleanupCall callId).media ∨
      (s.handleInvite cfg B id msg d).2.media = ((s.cleanupCall callId).media.createSession callId).2 := by
  unfold handleInvite
  dsimp only
  split
  · exact .inl rfl
  split
  · split
    · split
      · exact (acceptInvite_media ..).imp_right fun h => ⟨_, h⟩
      · exact .inl rfl
    · exact .inl rfl
  · exact .inl rfl

theorem cleanupCall_media_keeps {P : MediaRelayManager → Prop}
    (hremove : ∀ m id, P m → P (m.removeSession id).2) {s : Router} (h : P s.media) (callId : Str) :
    P (s.cleanupCall callId).media := by
  unfold cleanupCall
  split
  · exact hremove _ _ h
  · exact h

/-- **The rule for the port manager**: what its operations keep, every event keeps. -/
theorem media_keeps {P : MediaRelayManager → Prop} (hcreate : ∀ m id, P m → P (m.createSession id).2)
    (hremove : ∀ m id, P m → P (m.removeSession id).2)
    (hshutdown : ∀ m id tx, P m → P (m.registerShutdown id tx)) {s : Router} (h : P s.media)
    (event : RouterEvent) : P (s.step cfg B event).media := by
  have hclean : ∀ {s' : Router} (callId : Str), P s'.media → P (s'.cleanupCall callId).media :=
    fun callId h' => cleanupCall_media_keeps hremove h' callId
  cases event with
  | world writers registrar => exact h
  | receive id handler msg d =>
    cases hfresh : s.tasks.lookup id with
    | some task =>
      unfold step
      simp only [hfresh]
      exact h
    | none =>
      rw [step_receive hfresh]
      change P (s.handle cfg B id handler msg d).2.media
      rcases hhandle : s.handle cfg B id handler msg d with ⟨pc, s₁⟩
      cases handled hhandle with
      | quiet => exact h
      | @refused callerExt calleeExt callId =>
        have hmedia := handleInvite_media cfg B id msg d s
        rw [show s.handleInvite cfg B id msg d = _ from hhandle] at hmedia
        dsimp only at hmedia ⊢
        rcases hmedia with he | ⟨callId', he | he⟩
        · rw [he]
          exact h
        · rw [he]
          exact hclean _ h
        · rw [he]
          exact hcreate _ _ (hclean _ h)
      | @leaked _ _ callId _ _ _ _ _ _ _ _ created =>
        have hmedia := hcreate _ callId (hclean callId h)
        rw [created] at hmedia
        exact hmedia
      | @opened _ _ callId _ _ _ _ _ _ _ _ _ created =>
        have hmedia := hcreate _ callId (hclean callId h)
        rw [created] at hmedia
        exact hmedia
      | answered => exact h
      | unread => exact h
      | ended => exact hclean _ h
      | untagged => exact h
      | cancelled => exact h
  | resume id taken d =>
    have hstep := stepped cfg B s (.resume id taken d)
    revert hstep
    generalize s.step cfg B (.resume id taken d) = s'
    intro hstep
    cases hstep with
    | idle => exact h
    | resumed running sending proceeded =>
      cases proceeded with
      | @started callId =>
        rcases startOnce_cases callId _ with ⟨he, -⟩ | ⟨c, hfound, hkeys, -, he⟩
        · rw [he]
          exact h
        · rw [he]
          exact hshutdown _ _ _ h
      | failed => exact hclean _ h
      | ended => exact hclean _ h
      | stuck => exact h
      | trying => exact h
      | terminated => exact h
      | passed => exact h

/-- The ports of all calls and relays are of the range. -/
structure PortsKept (portStart portEnd : UInt16) (s : Router) : Prop where
  media : Ranged portStart portEnd s.media
  entry : ∀ callId c, s.activeCalls.lookup callId = some c →
    InPorts portStart portEnd c.callerRelayPort ∧ InPorts portStart portEnd c.calleeRelayPort
  relay : ∀ r ∈ s.relays, InPorts portStart portEnd r.callerPort ∧ InPorts portStart portEnd r.calleePort

variable {portStart portEnd : UInt16}

/-- **An event** keeps them so. -/
theorem PortsKept.step {s : Router} (h : PortsKept portStart portEnd s) (event : RouterEvent) :
    PortsKept portStart portEnd (s.step cfg B event) where
  media := media_keeps (fun _ id h => (h.createSession id).1) (fun _ id h => h.removeSession id)
    (fun _ id tx h => h.registerShutdown id tx) h.media event
  entry callId c hc := by
    cases key_step hc with
    | @grown c₀ found grown =>
      obtain ⟨_, _, _, _, _, _, rfl⟩ := grown
      exact h.entry callId c₀ found
    | offered _ _ _ created c_eq =>
      subst c_eq
      exact ((cleanupCall_media_keeps (fun _ id h => h.removeSession id) h.media callId).createSession
        callId).2 _ created
    | @answered c₀ _ _ _ _ _ found grown =>
      obtain ⟨_, _, _, _, _, _, rfl⟩ := grown
      exact h.entry callId c₀ found
  relay r hr := by
    rcases relay_step hr with hold | ⟨callId, c, hfound, -, shutdown, rfl⟩
    · exact h.relay r hold
    · exact h.entry callId c hfound

theorem run_portsKept (cfg : RouterConfig) (B : Base64) {media : MediaRelayManager}
    (h : Ranged portStart portEnd media) (events : List RouterEvent) :
    PortsKept portStart portEnd (run cfg B media events) := by
  induction events using List.reverseRecOn with
  | nil =>
    refine ⟨h, fun callId c hc => ?_, fun r hr => absurd hr List.not_mem_nil⟩
    cases (AList.lookup_empty callId).symm.trans hc
  | append_singleton events event ih =>
    rw [run_append]
    exact ih.step event

end Router

end Minghe.Sip
