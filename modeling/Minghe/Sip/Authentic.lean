import Minghe.Sip.Components
import Minghe.Sip.Entries

/-!
# Who is behind a call

From the REGISTERs of a run of the whole server to the calls and the instant messages: who is the caller
of a call, who is called, and whose message is sent.

* `Authenticated`: in a run, a REGISTER for an extension was accepted, from an address and on a sink.
* `Vouched`: the tables of the server hold nothing else: the extension of a connection authenticated from its
  address, and a writer or a registration is where the extension did.
* `Opened`: what `handle_invite` checked before it opened a call.
* `run_vouched`: in every run, whatever the tables say of an extension goes back to a REGISTER that was
  accepted for it there.
* `Entered.legitimate`: every entry that `active_calls` ever had was opened by an authenticated caller, for
  an authenticated callee.
* `calls_authentic`: so was every call of every state that a run reaches.
-/

namespace Minghe.Sip

open Minghe.Lib
open Minghe.Media.Relay (MediaRelayManager)
open Minghe.Media.Srtp (Base64)

namespace ServerState

variable {cfg : ServerConfig} {md5 : List UInt8 → Vector UInt8 16}

/-! ## Events that are no message -/

/-- No connection has got an extension, and there are no new writers and registrations. -/
structure Fewer (s s' : ServerState) : Prop where
  connection : ∀ addr c extension, s'.connections.lookup addr = some c → c.extension = some extension →
    ∃ c', s.connections.lookup addr = some c' ∧ c'.extension = some extension
  writer : ∀ extension sink, s'.connectionWriters.lookup extension = some sink →
    s.connectionWriters.lookup extension = some sink
  registration : ∀ extension reg, s'.registrar.registrations.lookup extension = some reg →
    s.registrar.registrations.lookup extension = some reg

theorem Fewer.rfl' (s : ServerState) : Fewer s s :=
  ⟨fun _ c _ h hc => ⟨c, h, hc⟩, fun _ _ h => h, fun _ _ h => h⟩

theorem Fewer.trans {s s' s'' : ServerState} (h : Fewer s s') (h' : Fewer s' s'') : Fewer s s'' where
  connection addr c extension hl hc := by
    obtain ⟨c', hl', hc'⟩ := h'.connection addr c extension hl hc
    exact h.connection addr c' extension hl' hc'
  writer extension sink hl := h.writer extension sink (h'.writer extension sink hl)
  registration extension reg hl := h.registration extension reg (h'.registration extension reg hl)

/-- An event that is no message leaves the registrations, or takes some out. -/
theorem registration_of_quiet {s : ServerState} {event : ServerEvent} (hquiet : event.Quiet) {extension : Str}
    {reg : Registration}
    (h : (s.step cfg md5 event).registrar.registrations.lookup extension = some reg) :
    s.registrar.registrations.lookup extension = some reg := by
  cases event with
  | accept addr =>
    change (s.accept addr).registrar.registrations.lookup extension = some reg at h
    unfold accept at h
    split at h <;> exact h
  | handshake addr completed =>
    change (s.handshake addr completed).registrar.registrations.lookup extension = some reg at h
    unfold handshake at h
    split at h
    · cases completed <;> exact h
    · exact h
  | receive channel packet => exact hquiet.elim
  | datagram peer packet => exact hquiet.elim
  | close channel =>
    unfold step at h
    dsimp only at h
    split at h
    · unfold close removeConnection at h
      dsimp only at h
      split at h
      · split at h <;> exact h
      · exact h
    · exact h
  | crash channel => cases channel <;> exact h
  | udpCleanup now => exact h
  | registrar op =>
    cases op with
    | register req => exact hquiet.elim
    | cleanup now => exact (Table.lookup_retain_eq_some.mp h).1
    | failure now ip =>
      obtain ⟨failed, blocked, he⟩ := RegistrarService.recordFailure_frame cfg.registrar s.registrar now ip
      change (s.registrar.recordFailure cfg.registrar now ip).2.registrations.lookup extension = some reg at h
      rw [he] at h
      exact h
    | success now ip => exact h

theorem effectOf_of_quiet (s : ServerState) {event : ServerEvent} (h : event.Quiet) :
    effectOf cfg md5 s event = none := by
  cases event with
  | receive channel packet => exact h.elim
  | datagram peer packet => exact h.elim
  | _ => rfl

theorem fewer_step {s : ServerState} (hwired : Wired s) {event : ServerEvent} (hquiet : event.Quiet) :
    Fewer s (s.step cfg md5 event) := by
  suffices htables : (∀ addr c extension, (s.step cfg md5 event).connections.lookup addr = some c →
        c.extension = some extension →
        ∃ c', s.connections.lookup addr = some c' ∧ c'.extension = some extension) ∧
      ∀ extension sink, (s.step cfg md5 event).connectionWriters.lookup extension = some sink →
        s.connectionWriters.lookup extension = some sink from
    ⟨htables.1, htables.2, fun _ _ h => registration_of_quiet hquiet h⟩
  have hstep := tableStep cfg md5 hwired event
  revert hstep
  generalize s.step cfg md5 event = s'
  intro hstep
  cases hstep with
  | stay connections writers =>
    rw [connections, writers]
    exact ⟨fun _ c _ hl hc => ⟨c, hl, hc⟩, fun _ _ hl => hl⟩
  | opened addr event_eq pending connections writers =>
    rw [connections, writers]
    refine ⟨fun addr' c extension hl hc => ?_, fun _ _ hl => hl⟩
    rcases Table.lookup_insert_eq_some hl with ⟨-, rfl⟩ | ⟨-, hl⟩
    · cases hc
    · exact ⟨c, hl, hc⟩
  | closed channel addr event_eq task connections writers =>
    rw [connections]
    refine ⟨fun addr' c extension hl hc => ?_, fun extension sink hl => ?_⟩
    · rw [Table.lookup_erase_eq] at hl
      split at hl
      · cases hl
      · exact ⟨c, hl, hc⟩
    · rw [writers] at hl
      unfold writersAfterClose at hl
      split at hl
      · split at hl
        · exact hl
        · rw [Table.lookup_erase_eq] at hl
          split at hl
          · cases hl
          · exact hl
      · exact hl
  | registered addr transport sink effect heffect =>
    cases (effectOf_of_quiet s hquiet).symm.trans heffect

theorem fewer_foldl {events : List ServerEvent} (hquiet : ∀ x ∈ events, x.Quiet) {s : ServerState}
    (hwired : Wired s) : Wired (events.foldl (step cfg md5) s) ∧ Fewer s (events.foldl (step cfg md5) s) := by
  induction events generalizing s with
  | nil => exact ⟨hwired, .rfl' s⟩
  | cons x events ih =>
    obtain ⟨hx, hrest⟩ := List.forall_mem_cons.mp hquiet
    have hstep : Wired (s.step cfg md5 x) := hwired.step x
    obtain ⟨hwired', hfewer⟩ := ih hrest hstep
    exact ⟨hwired', (fewer_step hwired hx).trans hfewer⟩

end ServerState

namespace System

section

variable (cfg : SystemConfig) (md5 : List UInt8 → Vector UInt8 16) (B : Base64) (media : MediaRelayManager)

/-! ## REGISTERs -/

/-- The event is a REGISTER from an address and on a sink, which is accepted for an extension. -/
def Accepts (s : System) (event : SystemEvent) (extension : Str) (peer : SocketAddr) (sink : ConnectionSink) :
    Prop :=
  ∃ reader st params entry reg, Reads cfg s event reader peer st .register ∧ sink = reader.sink peer ∧
    s.server.registrar.Accepted cfg.registrar md5 (st.register reader peer) extension params entry reg

/-- A REGISTER was accepted so in a run. -/
def Authenticated (events : List SystemEvent) (extension : Str) (peer : SocketAddr) (sink : ConnectionSink) :
    Prop :=
  ∃ done event, done ++ [event] <+: events ∧
    Accepts cfg md5 (run cfg md5 B media done) event extension peer sink

/-- **What the tables of the server vouch for**: an extension was authenticated where they say that it is. -/
structure Vouched (events : List SystemEvent) (server : ServerState) : Prop where
  wired : server.Wired
  connection : ∀ addr c extension, server.connections.lookup addr = some c →
    c.extension = some extension → ∃ sink, Authenticated cfg md5 B media events extension addr sink
  writer : ∀ extension sink, server.connectionWriters.lookup extension = some sink →
    ∃ addr, Authenticated cfg md5 B media events extension addr sink
  registration : ∀ extension reg, server.registrar.registrations.lookup extension = some reg →
    ∃ sink, (reg.transport = .udp → sink = .udp reg.transportAddr) ∧
      Authenticated cfg md5 B media events extension reg.transportAddr sink

end

variable {cfg : SystemConfig} {md5 : List UInt8 → Vector UInt8 16} {B : Base64} {media : MediaRelayManager}

theorem Authenticated.mono {events late : List SystemEvent} {extension : Str} {peer : SocketAddr}
    {sink : ConnectionSink} (h : Authenticated cfg md5 B media events extension peer sink)
    (hlate : events <+: late) : Authenticated cfg md5 B media late extension peer sink := by
  obtain ⟨done, event, hdone, haccepts⟩ := h
  exact ⟨done, event, hdone.trans hlate, haccepts⟩

theorem Vouched.mono {events late : List SystemEvent} {server : ServerState}
    (h : Vouched cfg md5 B media events server) (hlate : events <+: late) :
    Vouched cfg md5 B media late server where
  wired := h.wired
  connection addr c extension hl hc := by
    obtain ⟨sink, hsink⟩ := h.connection addr c extension hl hc
    exact ⟨sink, hsink.mono hlate⟩
  writer extension sink hl := by
    obtain ⟨addr, haddr⟩ := h.writer extension sink hl
    exact ⟨addr, haddr.mono hlate⟩
  registration extension reg hl := by
    obtain ⟨sink, hudp, hsink⟩ := h.registration extension reg hl
    exact ⟨sink, hudp, hsink.mono hlate⟩

/-- What is only less is vouched for. -/
theorem Vouched.fewer {events : List SystemEvent} {server server' : ServerState}
    (h : Vouched cfg md5 B media events server) (hwired : server'.Wired) (hfewer : server.Fewer server') :
    Vouched cfg md5 B media events server' where
  wired := hwired
  connection addr c extension hl hc := by
    obtain ⟨c', hl', hc'⟩ := hfewer.connection addr c extension hl hc
    exact h.connection addr c' extension hl' hc'
  writer extension sink hl := h.writer extension sink (hfewer.writer extension sink hl)
  registration extension reg hl := h.registration extension reg (hfewer.registration extension reg hl)

/-- What a REGISTER that is read may put into the registrations. -/
theorem registration_of_received {s : System} {reader : Reader} {peer : SocketAddr} {st : Stimulus}
    (hreads : s.reads cfg reader peer = true) (hregister : ServerState.isRegister st.text = true)
    {extension : Str} {reg : Registration}
    (h : (s.server.step cfg.server md5 (st.received peer reader)).registrar.registrations.lookup extension =
      some reg) :
    s.server.registrar.registrations.lookup extension = some reg ∨ ∃ params entry,
      s.server.registrar.Accepted cfg.registrar md5 (st.register reader peer) extension params entry reg := by
  have hregistrar := (ServerState.processSipMessage_tables cfg.server md5 s.server (st.register reader peer)
    (reader.sink peer)).1
  rw [if_pos (show ServerState.isRegister (st.register reader peer).text = true from hregister)] at hregistrar
  refine RegistrarService.handleRegister_lookup ?_
  rw [step_received s st hreads] at h
  split at h
  · rw [hregistrar] at h
    exact h
  · have h : (s.server.processSipMessage cfg.server md5 (st.register reader peer)
        (reader.sink peer)).2.registrar.registrations.lookup extension = some reg := by
      cases reader <;> exact h
    rw [hregistrar] at h
    exact h

theorem sink_of_udp {reader : Reader} {peer : SocketAddr} (h : (reader.sink peer).transport = .udp) :
    reader.sink peer = .udp peer := by
  cases reader with
  | connection channel => cases h
  | listener => rfl

/-- The effect of a message that is read. -/
theorem effectOf_received {s : System} {reader : Reader} {peer addr : SocketAddr} {st : Stimulus}
    {transport : Transport} {sink : ConnectionSink} {effect : RegisterEffect}
    (hreads : s.reads cfg reader peer = true)
    (h : ServerState.effectOf cfg.server md5 s.server (st.received peer reader) =
      some (addr, transport, sink, effect)) :
    addr = peer ∧ sink = reader.sink peer ∧
      ServerState.registered cfg.server md5 s.server.registrar (st.register reader peer) = some effect := by
  rcases ServerState.effectOf_eq_some h with
    ⟨channel, packet, hevent, htask, -, rfl, heffect⟩ | ⟨packet, hevent, -, rfl, heffect⟩
  · cases reader with
    | connection channel' =>
      cases hevent
      have hpeer : s.server.tasks.lookup channel = some peer := of_decide_eq_true hreads
      cases hpeer.symm.trans htask
      exact ⟨rfl, rfl, heffect⟩
    | listener => cases hevent
  · cases reader with
    | connection channel' => cases hevent
    | listener =>
      cases hevent
      exact ⟨rfl, rfl, heffect⟩

theorem Vouched.step {events : List SystemEvent}
    (h : Vouched cfg md5 B media events (run cfg md5 B media events).server) (event : SystemEvent) :
    Vouched cfg md5 B media (events ++ [event]) (run cfg md5 B media (events ++ [event])).server := by
  have h' := h.mono (List.prefix_append events [event])
  rw [run_append, server_step]
  rcases serverEvents_cases cfg md5 B (run cfg md5 B media events) event with
    ⟨reader, peer, st, read, hreceived⟩ | hquiet
  rotate_left
  · obtain ⟨hwired, hfewer⟩ := ServerState.fewer_foldl hquiet h.wired
    exact h'.fewer hwired hfewer
  · rw [hreceived, List.foldl_cons, List.foldl_nil]
    have hwired : ServerState.Wired ((run cfg md5 B media events).server.step cfg.server md5
        (st.received peer reader)) := h.wired.step _
    -- what is accepted now
    have hnow : ∀ {extension params entry reg},
        (run cfg md5 B media events).server.registrar.Accepted cfg.registrar md5 (st.register reader peer)
          extension params entry reg →
        Authenticated cfg md5 B media (events ++ [event]) extension peer (reader.sink peer) :=
      fun hacc => ⟨events, event, List.prefix_refl _, reader, st, _, _, _, read, rfl, hacc⟩
    have hregistration : ∀ extension reg,
        ((run cfg md5 B media events).server.step cfg.server md5
          (st.received peer reader)).registrar.registrations.lookup extension = some reg →
        ∃ sink, (reg.transport = .udp → sink = .udp reg.transportAddr) ∧
          Authenticated cfg md5 B media (events ++ [event]) extension reg.transportAddr sink := by
      intro extension reg hl
      rcases registration_of_received read.reads (isRegister_of_branch read.branch_eq) hl with
        hl | ⟨params, entry, hacc⟩
      · exact h'.registration extension reg hl
      · have hauth := hnow hacc
        rw [hacc.transportAddr, hacc.transport]
        exact ⟨reader.sink peer, sink_of_udp, hauth⟩
    have htable := ServerState.tableStep cfg.server md5 h.wired (st.received peer reader)
    revert htable hwired hregistration
    generalize (run cfg md5 B media events).server.step cfg.server md5 (st.received peer reader) = server'
    intro hwired hregistration htable
    cases htable with
    | stay connections writers =>
      exact ⟨hwired, connections ▸ h'.connection, writers ▸ h'.writer, hregistration⟩
    | opened addr event_eq => cases reader <;> cases event_eq
    | closed channel addr event_eq => cases reader <;> cases event_eq
    | registered addr transport sink effect heffect connections writers =>
      obtain ⟨rfl, rfl, hregistered⟩ := effectOf_received read.reads heffect
      cases effect with
      | unbind extension' =>
        refine ⟨hwired, fun addr' c extension hl hc => ?_, fun extension sink hl => ?_, hregistration⟩
        · rw [connections] at hl
          have hl := (ServerState.lookup_clearConnectionExtension _ addr addr').symm.trans hl
          split at hl
          · obtain ⟨c₀, -, rfl⟩ := Option.map_eq_some_iff.mp hl
            cases hc
          · exact h'.connection addr' c extension hl hc
        · rw [writers] at hl
          have hl : ((run cfg md5 B media events).server.connectionWriters.erase extension').lookup extension =
              some sink := hl
          rw [Table.lookup_erase_eq] at hl
          split at hl
          · cases hl
          · exact h'.writer extension sink hl
      | bind extension' =>
        obtain ⟨_, params, entry, reg, -, -, -, -, hacc⟩ := ServerState.registered_eq_bind hregistered
        have hauth := hnow hacc
        refine ⟨hwired, fun addr' c extension hl hc => ?_, fun extension sink hl => ?_, hregistration⟩
        · rw [connections, ServerState.connections_bind, ServerState.lookup_setConnectionExtension] at hl
          split at hl
          · rename_i he
            obtain ⟨c₀, -, rfl⟩ := Option.map_eq_some_iff.mp hl
            cases hc
            exact ⟨_, he ▸ hauth⟩
          · exact h'.connection addr' c extension hl hc
        · rw [writers, ServerState.writers_bind] at hl
          split at hl
          · rcases Table.lookup_insert_eq_some hl with ⟨rfl, rfl⟩ | ⟨-, hl⟩
            · exact ⟨_, hauth⟩
            · exact h'.writer extension sink hl
          · exact h'.writer extension sink hl

/-- **The tables vouch for it**, in every run. -/
theorem run_vouched (cfg : SystemConfig) (md5 : List UInt8 → Vector UInt8 16) (B : Base64)
    (media : MediaRelayManager) (events : List SystemEvent) :
    Vouched cfg md5 B media events (run cfg md5 B media events).server := by
  induction events using List.reverseRecOn with
  | nil => exact ⟨⟨nofun, nofun, nofun, nofun⟩, nofun, nofun, nofun⟩
  | append_singleton events event ih => exact ih.step event

end System

namespace Router

variable {cfg : RouterConfig} {B : Base64}

/-! ## Entries of calls -/

/-- The parties of a call, and its INVITE, are those of another entry. -/
structure SameParties (c c' : CallInfo) : Prop where
  callerExt : c'.callerExt = c.callerExt
  calleeExt : c'.calleeExt = c.calleeExt
  originalInvite : c'.originalInvite = c.originalInvite
  callerSink : c'.callerSink = c.callerSink
  calleeSink : c'.calleeSink = c.calleeSink
  invite : c'.invite = c.invite

/-- An entry behind an event has the parties that it had, or is that of an INVITE that passed all checks. -/
theorem parties_step {s : Router} {event : RouterEvent} {callId : Str} {c : CallInfo}
    (h : (s.step cfg B event).activeCalls.lookup callId = some c) :
    (∃ c₀, s.activeCalls.lookup callId = some c₀ ∧ SameParties c₀ c) ∨
    ∃ id msg d callerExt calleeExt callerTag contact plan session, event = .receive id .invite msg d ∧
      admitted cfg msg d s = some (callerExt, calleeExt, callId, callerTag) ∧
      planInvite cfg B calleeExt msg.text d.now (s.cleanupCall callId) = .ok (.ok plan) ∧
      c = newCall id msg callerExt calleeExt callId callerTag contact plan session d := by
  have hstep := stepped cfg B s event
  revert hstep h
  generalize s.step cfg B event = s'
  intro h hstep
  have hkept : ∀ {c'}, s.activeCalls.lookup callId = some c' →
      ∃ c₀, s.activeCalls.lookup callId = some c₀ ∧ SameParties c₀ c' :=
    fun {c'} h => ⟨c', h, rfl, rfl, rfl, rfl, rfl, rfl⟩
  cases hstep with
  | idle => exact .inl (hkept h)
  | world => exact .inl (hkept h)
  | @received id handler msg d pc s₁ fresh handled =>
    cases handled with
    | @opened callerExt calleeExt callId' callerTag invite plan session media contact _ admitted planned =>
      rcases Table.lookup_insert_eq_some h with ⟨rfl, rfl⟩ | ⟨-, h⟩
      · exact .inr ⟨id, msg, d, callerExt, calleeExt, callerTag, contact, plan, session, rfl, admitted,
          planned, rfl⟩
      · exact .inl (hkept (lookup_cleanup_some h))
    | quiet => exact .inl (hkept h)
    | refused => exact .inl (hkept (lookup_cleanup_some h))
    | leaked => exact .inl (hkept (lookup_cleanup_some h))
    | @answered callId' statusCode c₀ callId_eq status poisoned found read =>
      rcases Table.lookup_insert_eq_some h with ⟨rfl, rfl⟩ | ⟨-, h⟩
      · obtain ⟨_, _, _, _, _, he⟩ := updateCall_eq B statusCode msg.text c₀
        rw [he]
        exact .inl ⟨c₀, found, rfl, rfl, rfl, rfl, rfl, rfl⟩
      · exact .inl (hkept h)
    | @unread callId' statusCode c₀ e callId_eq status poisoned found read =>
      rcases Table.lookup_insert_eq_some h with ⟨rfl, rfl⟩ | ⟨-, h⟩
      · obtain ⟨_, _, _, _, _, he⟩ := updateCall_eq B statusCode msg.text c₀
        rw [he]
        exact .inl ⟨c₀, found, rfl, rfl, rfl, rfl, rfl, rfl⟩
      · exact .inl (hkept h)
    | ended => exact .inl (hkept (lookup_cleanup_some h))
    | untagged => exact .inl (hkept h)
    | @cancelled callId' text fromTag c₀ sink callId_eq poisoned found =>
      rcases Table.lookup_insert_eq_some h with ⟨rfl, rfl⟩ | ⟨-, h⟩
      · exact .inl ⟨c₀, found, rfl, rfl, rfl, rfl, rfl, rfl⟩
      · exact .inl (hkept h)
  | resumed running sending proceeded =>
    rcases proceeded.entry h with hfound | ⟨c₀, hfound, rfl⟩
    · exact .inl (hkept hfound)
    · exact .inl ⟨c₀, hfound, rfl, rfl, rfl, rfl, rfl, rfl⟩

theorem of_admitted {msg : Incoming} {d : Draw} {s : Router} {callerExt calleeExt callId callerTag : Str}
    (h : admitted cfg msg d s = some (callerExt, calleeExt, callId, callerTag)) :
    s.registrar.isBlocked cfg.registrar msg.fromAddr.ip = false ∧ mayCall msg callerExt d.now s = true := by
  unfold admitted at h
  split at h
  · cases h
  rename_i hblocked
  split at h
  · split at h
    · rename_i hmay
      cases h
      exact ⟨by simpa using hblocked, hmay⟩
    · cases h
  · cases h

/-- A callee that can be called is registered, and there is a sink for it. -/
theorem sink_of_planInvite {calleeExt text : Str} {now : Nat} {s : Router} {plan : InvitePlan}
    (h : planInvite cfg B calleeExt text now s = .ok (.ok plan)) :
    s.registrar.isRegistered now calleeExt = true ∧
      cfg.message.getOutbound ⟨s.writers, s.registrar, now⟩ calleeExt = some plan.calleeSink := by
  unfold planInvite at h
  split at h
  · obtain ⟨_, -, h⟩ := Res.bind_eq_ok.mp h
    cases h
  rename_i hregistered
  split at h
  · cases h
  rename_i sink hsink
  obtain ⟨body, -, h⟩ := Res.bind_eq_ok.mp h
  split at h
  · cases h
  split at h
  · cases h
  · cases h
    exact ⟨by simpa using hregistered, hsink⟩

/-- The checks on the caller. -/
theorem of_mayCall {msg : Incoming} {callerExt : Str} {now : Nat} {s : Router}
    (h : mayCall msg callerExt now s = true) :
    callerExt ≠ [] ∧ s.registrar.isRegistered now callerExt = true ∧
      (msg.connectionExt = some callerExt ∨ msg.connectionExt = none ∧ msg.sink.transport = .udp ∧
        ∃ reg, s.registrar.lookup now callerExt = some reg ∧ reg.transportAddr.ip = msg.fromAddr.ip) := by
  unfold mayCall at h
  simp only [Bool.and_eq_true, Bool.not_eq_true', List.isEmpty_eq_false_iff] at h
  obtain ⟨⟨hne, hregistered⟩, h⟩ := h
  refine ⟨hne, hregistered, ?_⟩
  split at h
  · rename_i ext hext
    exact .inl (by rw [hext, of_decide_eq_true h])
  · rename_i hext
    obtain ⟨hudp, h⟩ := Bool.and_eq_true_iff.mp h
    cases hreg : s.registrar.lookup now callerExt with
    | none =>
      rw [hreg] at h
      cases h
    | some reg =>
      rw [hreg] at h
      exact .inr ⟨hext, of_decide_eq_true hudp, reg, rfl, of_decide_eq_true h⟩

end Router

namespace System

section

variable (cfg : SystemConfig) (md5 : List UInt8 → Vector UInt8 16) (B : Base64) (media : MediaRelayManager)

/-! ## Calls -/

/-- What holds of a call whose INVITE was read behind `done`: it came from where its caller had
authenticated, or by UDP from the address that the caller had registered from, if not from the same port;
it is for a sink on which the callee had authenticated; both were registered, and the peer was not blocked. -/
structure Opened (events done : List SystemEvent) (reader : Reader) (peer : SocketAddr) (st : Stimulus)
    (c : CallInfo) : Prop where
  started : Started cfg md5 B media events done c.invite reader peer st (.route .invite)
  originalInvite : c.originalInvite = st.text
  callerSink : c.callerSink = reader.sink peer
  notBlocked : (run cfg md5 B media done).server.registrar.isBlocked cfg.registrar peer.ip = false
  callerRegistered :
    (run cfg md5 B media done).server.registrar.isRegistered st.draw.now c.callerExt = true
  calleeRegistered :
    (run cfg md5 B media done).server.registrar.isRegistered st.draw.now c.calleeExt = true
  caller : (∃ sink, Authenticated cfg md5 B media done c.callerExt peer sink) ∨
    reader = .listener ∧ ∃ addr sink, addr.ip = peer.ip ∧
      Authenticated cfg md5 B media done c.callerExt addr sink
  callee : ∃ sink addr, c.calleeSink = some sink ∧ Authenticated cfg md5 B media done c.calleeExt addr sink

/-- The call was opened so in a run. -/
def Legitimate (events : List SystemEvent) (c : CallInfo) : Prop :=
  ∃ done reader peer st, Opened cfg md5 B media events done reader peer st c

/-- The call is an entry of `active_calls` at some time of a run. -/
def Entered (events : List SystemEvent) (c : CallInfo) : Prop :=
  ∃ done callId, done <+: events ∧ (run cfg md5 B media done).router.activeCalls.lookup callId = some c

end

theorem Opened.mono {events done : List SystemEvent} {reader : Reader} {peer : SocketAddr} {st : Stimulus}
    {c : CallInfo} (h : Opened cfg md5 B media events done reader peer st c) (event : SystemEvent) :
    Opened cfg md5 B media (events ++ [event]) done reader peer st c :=
  { h with started := h.started.mono event }

theorem Opened.same {events done : List SystemEvent} {reader : Reader} {peer : SocketAddr} {st : Stimulus}
    {c c' : CallInfo} (h : Opened cfg md5 B media events done reader peer st c)
    (hsame : Router.SameParties c c') : Opened cfg md5 B media events done reader peer st c' where
  started := hsame.invite ▸ h.started
  originalInvite := hsame.originalInvite.trans h.originalInvite
  callerSink := hsame.callerSink.trans h.callerSink
  notBlocked := h.notBlocked
  callerRegistered := hsame.callerExt ▸ h.callerRegistered
  calleeRegistered := hsame.calleeExt ▸ h.calleeRegistered
  caller := hsame.callerExt ▸ h.caller
  callee := by rw [hsame.calleeSink, hsame.calleeExt]; exact h.callee

theorem Legitimate.mono {events : List SystemEvent} {c : CallInfo}
    (h : Legitimate cfg md5 B media events c) (event : SystemEvent) :
    Legitimate cfg md5 B media (events ++ [event]) c := by
  obtain ⟨done, reader, peer, st, h⟩ := h
  exact ⟨done, reader, peer, st, h.mono event⟩

/-- A sink that `get_outbound` has for an extension is one that it authenticated on. -/
theorem Vouched.outbound {events : List SystemEvent} {server : ServerState}
    (h : Vouched cfg md5 B media events server) {now : Nat} {extension : Str} {sink : ConnectionSink}
    (hsink : cfg.message.getOutbound ⟨server.connectionWriters, server.registrar, now⟩ extension =
      some sink) :
    ∃ addr, Authenticated cfg md5 B media events extension addr sink := by
  unfold MessageConfig.getOutbound at hsink
  dsimp only at hsink
  split at hsink
  · rename_i hwriter
    cases hsink
    exact h.writer extension sink hwriter
  split at hsink
  · split at hsink
    · rename_i reg hreg
      split at hsink
      · rename_i hudp
        cases hsink
        obtain ⟨sink, hsink, hauth⟩ := h.registration extension reg (Option.filter_eq_some_iff.mp hreg).1
        rw [hsink hudp] at hauth
        exact ⟨_, hauth⟩
      · cases hsink
    · cases hsink
  · cases hsink

/-- A connection that has an extension authenticated as it. -/
theorem Vouched.identity {events : List SystemEvent} {server : ServerState}
    (h : Vouched cfg md5 B media events server) {addr : SocketAddr} {extension : Str}
    (hext : server.getConnectionExtension addr = some extension) :
    ∃ sink, Authenticated cfg md5 B media events extension addr sink := by
  obtain ⟨c, hl, hc⟩ := Option.bind_eq_some_iff.mp hext
  exact h.connection addr c extension hl hc

/-- **An INVITE that passes all checks.** -/
theorem opened_of_admitted {done : List SystemEvent} {event : SystemEvent} {reader : Reader}
    {peer : SocketAddr} {st : Stimulus}
    (hread : Reads cfg (run cfg md5 B media done) event reader peer st (.route .invite)) {r : Router}
    (hregistrar : r.registrar = (run cfg md5 B media done).server.registrar)
    (hwriters : r.writers = (run cfg md5 B media done).server.connectionWriters)
    {callerExt calleeExt callId callerTag : Str} {contact : Option Str} {plan : Router.InvitePlan}
    {session : Minghe.Media.Relay.RelaySession}
    (hadmitted : Router.admitted cfg.router ((run cfg md5 B media done).incoming reader peer st) st.draw r =
      some (callerExt, calleeExt, callId, callerTag))
    (hplanned : Router.planInvite cfg.router B calleeExt st.text st.draw.now (r.cleanupCall callId) =
      .ok (.ok plan)) :
    Opened cfg md5 B media (done ++ [event]) done reader peer st
      (Router.newCall (run cfg md5 B media done).nextJob ((run cfg md5 B media done).incoming reader peer st)
        callerExt calleeExt callId callerTag contact plan session st.draw) := by
  have hvouched := run_vouched cfg md5 B media done
  obtain ⟨hblocked, hmay⟩ := Router.of_admitted hadmitted
  obtain ⟨-, hcaller, hidentity⟩ := Router.of_mayCall hmay
  obtain ⟨hcallee, hsink⟩ := Router.sink_of_planInvite hplanned
  rw [Router.registrar_cleanupCall, hregistrar] at hcallee hsink
  have hclean : (r.cleanupCall callId).writers = r.writers := by
    unfold Router.cleanupCall
    split <;> rfl
  rw [hclean, hwriters] at hsink
  rw [hregistrar] at hblocked hcaller
  obtain ⟨addr, hauth⟩ := hvouched.outbound hsink
  refine ⟨started_last hread, rfl, rfl, hblocked, hcaller, hcallee, ?_,
    ⟨plan.calleeSink, addr, rfl, hauth⟩⟩
  rcases hidentity with hext | ⟨-, hudp, reg, hreg, hip⟩
  · exact .inl (hvouched.identity hext)
  · right
    refine ⟨?_, ?_⟩
    · cases reader with
      | connection channel => cases hudp
      | listener => rfl
    · rw [hregistrar] at hreg
      obtain ⟨sink, -, hauth⟩ := hvouched.registration callerExt reg (Option.filter_eq_some_iff.mp hreg).1
      exact ⟨reg.transportAddr, sink, hip, hauth⟩

/-- **Every entry of a run was opened so**, those that are gone again included. -/
theorem Entered.legitimate {events : List SystemEvent} {c : CallInfo}
    (h : Entered cfg md5 B media events c) : Legitimate cfg md5 B media events c := by
  induction events using List.reverseRecOn generalizing c with
  | nil =>
    obtain ⟨done, callId, hdone, hc⟩ := h
    rw [List.prefix_nil.mp hdone] at hc
    cases (AList.lookup_empty callId).symm.trans hc
  | append_singleton events event ih =>
    obtain ⟨done, callId, hdone, hc⟩ := h
    rcases List.prefix_concat_iff.mp hdone with rfl | hdone
    rotate_left
    · exact (ih ⟨done, callId, hdone, hc⟩).mono event
    have ih : ∀ {c : CallInfo}, (run cfg md5 B media events).router.activeCalls.lookup callId = some c →
        Legitimate cfg md5 B media events c := fun hc => ih ⟨events, callId, List.prefix_refl _, hc⟩
    rw [run_append, router_step] at hc
    cases hevent : (run cfg md5 B media events).routerEvent cfg event with
    | none =>
      rw [hevent] at hc
      exact (ih hc).mono event
    | some x =>
      rw [hevent] at hc
      rcases Router.parties_step hc with ⟨c₀, hfound, hsame⟩ |
        ⟨id, msg, d, callerExt, calleeExt, callerTag, contact, plan, session, rfl, hadmitted, hplanned, rfl⟩
      · obtain ⟨done, reader, peer, st, hopened⟩ := ih hfound
        exact ⟨done, reader, peer, st, (hopened.mono event).same hsame⟩
      · rcases routerEvent_cases hevent with
          ⟨reader, peer, st, handler, hread, he⟩ | ⟨_, _, _, _, -, -, -, he⟩
        · cases he
          exact ⟨events, reader, peer, st, opened_of_admitted hread rfl rfl hadmitted hplanned⟩
        · cases he

/-- **Who is behind a call.** In every state that a run of the whole server reaches, every call was opened by
a peer that had authenticated as its caller, and for a sink that had authenticated as its callee. -/
theorem calls_authentic (cfg : SystemConfig) (md5 : List UInt8 → Vector UInt8 16) (B : Base64)
    (media : MediaRelayManager) (events : List SystemEvent) :
    ∀ callId c, (run cfg md5 B media events).router.activeCalls.lookup callId = some c →
      Legitimate cfg md5 B media events c := by
  intro callId c hc
  exact Entered.legitimate ⟨events, callId, List.prefix_refl events, hc⟩

/-! ### Two phones

Extensions 1001 and 1002 connect, register, and 1001 calls. -/

/-- A text for the router is read. -/
def routes : SystemEvent → Bool
  | .message _ _ st =>
    match branchOf st.text with
    | .ok (.route _) => true
    | _ => false
  | _ => false

theorem router_event {s : System} {event : SystemEvent} {x : RouterEvent}
    (h : s.routerEvent cfg event = some x) :
    (s.step cfg md5 B event).router = (s.router.step cfg.router B s.world).step cfg.router B x := by
  rw [router_step, h]

/-- Where there is none, the router stays as it was at the start. -/
theorem router_idle (cfg : SystemConfig) (md5 : List UInt8 → Vector UInt8 16) (B : Base64)
    (media : MediaRelayManager) {events : List SystemEvent} (h : events.all fun event => !routes event) :
    ∃ writers registrar,
      (run cfg md5 B media events).router = { Router.start media with writers, registrar } := by
  induction events using List.reverseRecOn with
  | nil => exact ⟨_, _, rfl⟩
  | append_singleton events event ih =>
    rw [List.all_append, Bool.and_eq_true_iff] at h
    obtain ⟨writers, registrar, hrouter⟩ := ih h.1
    rw [run_append, router_step]
    cases hevent : (run cfg md5 B media events).routerEvent cfg event with
    | none => exact ⟨writers, registrar, hrouter⟩
    | some x =>
      rcases routerEvent_cases hevent with
        ⟨reader, peer, st, handler, hread, -⟩ | ⟨id, taken, d, job, -, -, -, rfl⟩
      · rw [hread.event_eq] at h
        simp [routes, hread.branch_eq] at h
      · dsimp only
        rw [hrouter]
        exact ⟨_, _, rfl⟩

/-- MD5, on the texts that are hashed for both phones. -/
def phoneMd5 (input : List UInt8) : Vector UInt8 16 :=
  if input = utf8 "1002:example.com:pw".toList then
    Vector.ofFn fun i =>
      [26, 221, 102, 255, 249, 224, 214, 114, 200, 156, 44, 185, 104, 20, 82, 168].getD i 0
  else if input = utf8 ("1add66fff9e0d672c89c2cb9681452a8:100102030405060708090a0b0c0d0e0f:" ++
      "0264b00abe5b31d87fb22979689b883f").toList then
    Vector.ofFn fun i =>
      [229, 248, 237, 253, 42, 44, 130, 154, 157, 211, 142, 80, 203, 16, 210, 212].getD i 0
  else ServerState.deviceMd5 input

def phoneSystem : SystemConfig where
  registrar := Router.phoneConfig.registrar
  mediaAddr := Router.phoneConfig.mediaAddr
  udp := false

/-- A text of a phone. The first byte of the nonce is given. -/
def phoneStimulus (text : Str) (first : Nat) : Stimulus where
  text := text
  draw := Router.phoneDraw
  nonce := Vector.ofFn fun i => if i.val = 0 then UInt8.ofNat first else UInt8.ofNat i

/-- A REGISTER of an extension, with further headers. -/
def phoneRegister (extension : String) (headers : List String) : Str :=
  (["REGISTER sip:example.com SIP/2.0", "To: <sip:" ++ extension ++ "@example.com>", "Expires: 300"] ++
    headers).flatMap (·.toList ++ crlf)

/-- A phone connects, asks for a challenge, and answers it. -/
def phoneJoins (n : UInt8) (channel job first : Nat) (extension nonce response : String) :
    List SystemEvent :=
  let reads (headers : List String) : SystemEvent :=
    .message (.connection channel) (Router.phoneAddr n) (phoneStimulus (phoneRegister extension headers) first)
  [.accept (Router.phoneAddr n), .handshake (Router.phoneAddr n) true, reads [],
    .resume job true Router.phoneDraw,
    reads ["Authorization: Digest username=\"" ++ extension ++ "\", realm=\"example.com\", nonce=\"" ++
      nonce ++ "\", uri=\"sip:example.com\", response=\"" ++ response ++ "\""],
    .resume (job + 1) true Router.phoneDraw]

def phonesJoin : List SystemEvent :=
  phoneJoins 1 0 0 0 "1001" "000102030405060708090a0b0c0d0e0f" "0582ac5c7b4bbb523c17f4dc4ee21981" ++
    phoneJoins 2 1 2 16 "1002" "100102030405060708090a0b0c0d0e0f" "e5f8edfd2a2c829a9dd38e50cb10d2d4"

def phoneCalls : Stimulus := phoneStimulus (Router.phoneInvite "Contact: <sip:1001@10.10.10.1>").text 32

/-- The INVITE of 1001 is read. -/
def phonesCall : List SystemEvent :=
  phonesJoin ++ [.message (.connection 0) (Router.phoneAddr 1) phoneCalls]

/-- Only the call is for the router. -/
theorem phonesJoin_quiet : phonesJoin.all fun event => !routes event := by decide +kernel

theorem phoneCalls_branch : branchOf phoneCalls.text = .ok (.route .invite) := by decide +kernel

/-- It passes all checks. -/
theorem phones_joined :
    let s := run phoneSystem phoneMd5 .standard Router.phoneManager phonesJoin
    let r := s.router.step phoneSystem.router .standard s.world
    s.nextJob = 4 ∧ s.reads phoneSystem (.connection 0) (Router.phoneAddr 1) = true ∧
      s.busy (.connection 0) = false ∧
      (s.reads phoneSystem (.connection 1) (Router.phoneAddr 2) = true ∧ s.busy (.connection 1) = false) ∧
      Router.admitted phoneSystem.router (s.incoming (.connection 0) (Router.phoneAddr 1) phoneCalls)
        Router.phoneDraw r = some ("1001".toList, "1002".toList, "c".toList, "a".toList) ∧
      Router.planInvite phoneSystem.router .standard "1002".toList phoneCalls.text Router.phoneDraw.now r =
        .ok (.ok { Router.phonePlan with calleeSink := .stream 1 }) := by
  decide +kernel

/-- A router without calls opens one for it. -/
theorem phone_opens {writers : Table Str ConnectionSink} {registrar : RegistrarService} {r : Router}
    (hr : r = { Router.start Router.phoneManager with writers, registrar }) {msg : Incoming}
    (htext : msg.text = phoneCalls.text)
    (hadmitted : Router.admitted phoneSystem.router msg Router.phoneDraw r =
      some ("1001".toList, "1002".toList, "c".toList, "a".toList))
    (hplanned : Router.planInvite phoneSystem.router .standard "1002".toList phoneCalls.text
      Router.phoneDraw.now r = .ok (.ok { Router.phonePlan with calleeSink := .stream 1 })) :
    let r' := r.step phoneSystem.router .standard (.receive 4 .invite msg Router.phoneDraw)
    (∃ c, r'.activeCalls.lookup "c".toList = some c ∧ c.relayStarted = false ∧
        c.callerLocalCrypto.isSome = true) ∧
      (∃ task text, r'.tasks.lookup 4 = some task ∧
        task.pc.sending = some (.request (.stream 1) text)) ∧
      r'.tasks.lookup 5 = none ∧ r'.poisoned = false ∧ r'.relays = [] := by
  have hclean : r.cleanupCall "c".toList = r := by
    rw [hr]
    exact Router.cleanupCall_of_none rfl
  have hcreated : r.media.createSession "c".toList = (some Router.phoneSession, Router.phoneMedia) := by
    rw [hr]
    exact Router.phone_created
  rw [Router.step_invite_of_created (by rw [hr]; rfl) (by rw [hr]; rfl) hadmitted
    (by rw [hclean, htext]; exact hplanned) (by rw [hclean]; exact hcreated), hclean]
  obtain ⟨text, hinvite⟩ := Router.calleeInvite_ok phoneSystem.router .standard msg.text "1001".toList
    "1002".toList { Router.phonePlan with calleeSink := .stream 1 } Router.phoneSession Router.phoneDraw
    { r with media := Router.phoneMedia }
  have hcontact : extractContactUri msg.text = .ok (some "sip:1001@10.10.10.1".toList) := by
    rw [htext]
    decide +kernel
  unfold Router.openCall
  rw [hinvite, hcontact]
  refine ⟨⟨_, AList.lookup_insert _, rfl, rfl⟩, ⟨_, text, AList.lookup_insert _, rfl⟩, ?_, ?_, ?_⟩
  · rw [Router.settle_tasks, if_neg (by decide), hr]
    rfl
  · rw [hr]
    rfl
  · rw [hr]
    rfl

/-- The call is there, and its INVITE is being sent to 1002. -/
theorem phones_call :
    let r := (run phoneSystem phoneMd5 .standard Router.phoneManager phonesCall).router
    (∃ c, r.activeCalls.lookup "c".toList = some c ∧ c.relayStarted = false ∧
        c.callerLocalCrypto.isSome = true) ∧
      (∃ task text, r.tasks.lookup 4 = some task ∧
        task.pc.sending = some (.request (.stream 1) text)) ∧
      r.tasks.lookup 5 = none ∧ r.poisoned = false ∧ r.relays = [] := by
  obtain ⟨hnext, hreads, hidle, -, hadmitted, hplanned⟩ := phones_joined
  obtain ⟨writers, registrar, hrouter⟩ :=
    router_idle phoneSystem phoneMd5 .standard Router.phoneManager phonesJoin_quiet
  generalize hs : run phoneSystem phoneMd5 .standard Router.phoneManager phonesJoin = s
    at hnext hreads hidle hadmitted hplanned hrouter
  have hevent : s.routerEvent phoneSystem (.message (.connection 0) (Router.phoneAddr 1) phoneCalls) =
      some (.receive 4 .invite (s.incoming (.connection 0) (Router.phoneAddr 1) phoneCalls)
        Router.phoneDraw) := by
    unfold routerEvent
    simp only [hreads, hidle, phoneCalls_branch, hnext]
    rfl
  rw [phonesCall, run_append, hs, router_event hevent]
  exact phone_opens (by rw [hrouter]; rfl) rfl hadmitted hplanned

/-- So the call is one of two phones that authenticated. -/
theorem calls_authentic_concrete :
    ∃ c, (run phoneSystem phoneMd5 .standard Router.phoneManager phonesCall).router.activeCalls.lookup
        "c".toList = some c ∧
      Legitimate phoneSystem phoneMd5 .standard Router.phoneManager phonesCall c := by
  obtain ⟨⟨c, hc, -⟩, -⟩ := phones_call
  exact ⟨c, hc,
    calls_authentic phoneSystem phoneMd5 .standard Router.phoneManager phonesCall "c".toList c hc⟩

end System

end Minghe.Sip
