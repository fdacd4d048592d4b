import Minghe.Sip.Server

/-!
# What happens to connections

One inversion lemma for an event of the server, and the invariant that the channels keep.

* `effectOf`: what an event means for a connection, if it is a REGISTER that was accepted.
* `TableStep`: all that an event does to the connections, the writers and the tasks.
* `Wired`: connections, channels and tasks fit together.
* `tableStep`: all that an event does to the tables of connections and writers.
* `registered_eq_bind`: what was checked before an extension is bound to a connection.
* `run_wired`: in every run, every connection has a channel of its own.
-/

namespace Minghe.Sip

open Minghe.Lib

namespace ServerState

variable {cfg : ServerConfig} {md5 : List UInt8 → Vector UInt8 16}

/-! ## Lookups -/

theorem lookup_setConnectionExtension (s : ServerState) (addr addr' : SocketAddr) (extension : Str) :
    (s.setConnectionExtension addr extension).connections.lookup addr' =
      if addr' = addr then (s.connections.lookup addr).map fun c => { c with extension := some extension }
      else s.connections.lookup addr' := by
  unfold setConnectionExtension
  split
  · rename_i h
    rw [h]
    exact Table.lookup_modify_self _ _ _
  · rename_i h
    exact Table.lookup_modify_ne _ _ h

theorem lookup_clearConnectionExtension (s : ServerState) (addr addr' : SocketAddr) :
    (s.clearConnectionExtension addr).connections.lookup addr' =
      if addr' = addr then (s.connections.lookup addr).map fun c => { c with extension := none }
      else s.connections.lookup addr' := by
  unfold clearConnectionExtension
  split
  · rename_i h
    rw [h]
    exact Table.lookup_modify_self _ _ _
  · rename_i h
    exact Table.lookup_modify_ne _ _ h

theorem hasConnectionForExtension_iff (s : ServerState) (extension : Str) :
    s.hasConnectionForExtension extension = true ↔
      ∃ addr c, s.connections.lookup addr = some c ∧ c.extension = some extension := by
  unfold hasConnectionForExtension
  rw [List.any_eq_true]
  constructor
  · rintro ⟨⟨addr, c⟩, hmem, hc⟩
    exact ⟨addr, c, List.mem_dlookup s.connections.nodupKeys hmem, of_decide_eq_true hc⟩
  · rintro ⟨addr, c, hl, hc⟩
    exact ⟨⟨addr, c⟩, List.of_mem_dlookup hl, decide_eq_true hc⟩

/-! ## What an event does to the tables -/

/-- What a message means for the connection it comes from. -/
def registered (cfg : ServerConfig) (md5 : List UInt8 → Vector UInt8 16) (r : RegistrarService)
    (req : Register) : Option RegisterEffect :=
  if isRegister req.text then
    match (r.handleRegister cfg.registrar md5 req).1.bind fun response => registerEffect response req.text with
    | .ok effect => effect
    | .error _ => none
  else none

/-- What an event means for a connection: its address, how the message came, and the effect. -/
def effectOf (cfg : ServerConfig) (md5 : List UInt8 → Vector UInt8 16) (s : ServerState) :
    ServerEvent → Option (SocketAddr × Transport × ConnectionSink × RegisterEffect)
  | .receive channel packet =>
    (s.tasks.lookup channel).bind fun addr =>
      (registered cfg md5 s.registrar (packet.register addr .tls)).map fun effect =>
        (addr, .tls, .stream channel, effect)
  | .datagram peer packet =>
    if cfg.udp && s.listening then
      (registered cfg md5 s.registrar (packet.register peer .udp)).map fun effect =>
        (peer, .udp, .udp peer, effect)
    else none
  | _ => none

/-- The writers after a connection for `extension` is gone. -/
def writersAfterClose (connections : Table SocketAddr ConnectionState) (extension : Option Str)
    (writers : Table Str ConnectionSink) : Table Str ConnectionSink :=
  match extension with
  | some extension =>
    if hasConnectionForExtension extension { connections := connections } then writers
    else writers.erase extension
  | none => writers

/-- An event that opens and closes no connection, and means nothing for one. -/
structure Idle (cfg : ServerConfig) (md5 : List UInt8 → Vector UInt8 16) (s : ServerState)
    (event : ServerEvent) : Prop where
  effect : effectOf cfg md5 s event = none
  opens : ∀ addr, event = .handshake addr true → addr ∉ s.pendingHandshakes
  closes : ∀ channel, event = .close channel → s.tasks.lookup channel = none

/-- All that an event does to the connections, the writers and the tasks. -/
inductive TableStep (cfg : ServerConfig) (md5 : List UInt8 → Vector UInt8 16) (s : ServerState)
    (event : ServerEvent) (s' : ServerState) : Prop
  | stay (connections : s'.connections = s.connections)
      (writers : s'.connectionWriters = s.connectionWriters)
      (tasks : ∀ n addr, s'.tasks.lookup n = some addr → s.tasks.lookup n = some addr)
      (next : s'.nextChannel = s.nextChannel)
      (idle : Idle cfg md5 s event)
  | opened (addr : SocketAddr) (event : event = .handshake addr true)
      (pending : addr ∈ s.pendingHandshakes)
      (connections : s'.connections = s.connections.insert addr { sink := .stream s.nextChannel })
      (writers : s'.connectionWriters = s.connectionWriters)
      (tasks : s'.tasks = s.tasks.insert s.nextChannel addr)
      (next : s'.nextChannel = s.nextChannel + 1)
  | closed (channel : Nat) (addr : SocketAddr) (event : event = .close channel)
      (task : s.tasks.lookup channel = some addr)
      (connections : s'.connections = s.connections.erase addr)
      (writers : s'.connectionWriters =
        writersAfterClose s'.connections (s.getConnectionExtension addr) s.connectionWriters)
      (tasks : ∀ n addr, s'.tasks.lookup n = some addr → s.tasks.lookup n = some addr)
      (next : s'.nextChannel = s.nextChannel)
  | registered (addr : SocketAddr) (transport : Transport) (sink : ConnectionSink)
      (effect : RegisterEffect) (h : effectOf cfg md5 s event = some (addr, transport, sink, effect))
      (connections : s'.connections = (applyEffect addr transport sink effect s).connections)
      (writers : s'.connectionWriters = (applyEffect addr transport sink effect s).connectionWriters)
      (tasks : s'.tasks = s.tasks) (next : s'.nextChannel = s.nextChannel)

/-- Every connection has the channel of a TLS connection, no two have the same, and the task that reads
a channel works for the address where it is. -/
structure Wired (s : ServerState) : Prop where
  stream : ∀ addr c, s.connections.lookup addr = some c → ∃ n, c.sink = .stream n ∧ n < s.nextChannel
  unique : ∀ addr addr' c c', s.connections.lookup addr = some c → s.connections.lookup addr' = some c' →
    c.sink = c'.sink → addr = addr'
  task_lt : ∀ n addr, s.tasks.lookup n = some addr → n < s.nextChannel
  task : ∀ n addr addr' c, s.tasks.lookup n = some addr → s.connections.lookup addr' = some c →
    c.sink = .stream n → addr' = addr

/-- The cleanup of UDP sessions finds none. -/
theorem udpCleanup_connections {s : ServerState} (h : Wired s) (now : Nat) :
    (s.udpCleanup now).connections = s.connections := by
  unfold udpCleanup Table.retain
  refine AList.ext (List.filter_eq_self.mpr ?_)
  rintro ⟨addr, c⟩ hmem
  obtain ⟨n, hsink, -⟩ := h.stream addr c (List.mem_dlookup s.connections.nodupKeys hmem)
  simp [hsink, ConnectionSink.transport]

theorem processSipMessage_cases (cfg : ServerConfig) (md5 : List UInt8 → Vector UInt8 16)
    (s : ServerState) (req : Register) (sink : ConnectionSink) :
    (∃ result registrar, s.processSipMessage cfg md5 req sink = (result, { s with registrar }) ∧
      registered cfg md5 s.registrar req = none) ∨
    ∃ effect registrar, s.processSipMessage cfg md5 req sink =
        (.ok (), applyEffect req.fromAddr req.transport sink effect { s with registrar }) ∧
      registered cfg md5 s.registrar req = some effect := by
  unfold processSipMessage registered
  split
  · unfold processRegister
    dsimp only
    split
    · rename_i h
      rw [h]
      exact .inl ⟨_, _, rfl, rfl⟩
    · rename_i h
      rw [h]
      exact .inl ⟨_, _, rfl, rfl⟩
    · rename_i effect h
      rw [h]
      exact .inr ⟨effect, _, rfl, rfl⟩
  · exact .inl ⟨_, s.registrar, rfl, rfl⟩

/-- The tables after an effect do not depend on the registrar. -/
theorem applyEffect_frame (addr : SocketAddr) (transport : Transport) (sink : ConnectionSink)
    (effect : RegisterEffect) (s : ServerState) (registrar : RegistrarService) :
    applyEffect addr transport sink effect { s with registrar } =
      { applyEffect addr transport sink effect s with registrar } := by
  cases effect with
  | unbind extension => rfl
  | bind extension =>
    unfold applyEffect
    dsimp only
    split <;> rfl

theorem applyEffect_tasks (addr : SocketAddr) (transport : Transport) (sink : ConnectionSink)
    (effect : RegisterEffect) (s : ServerState) :
    (applyEffect addr transport sink effect s).tasks = s.tasks ∧
      (applyEffect addr transport sink effect s).nextChannel = s.nextChannel := by
  cases effect with
  | unbind extension => exact ⟨rfl, rfl⟩
  | bind extension =>
    unfold applyEffect
    dsimp only
    split <;> exact ⟨rfl, rfl⟩

theorem lookup_of_erase {tasks : Table Nat SocketAddr} {channel n : Nat} {addr : SocketAddr}
    (h : (tasks.erase channel).lookup n = some addr) : tasks.lookup n = some addr := by
  rw [Table.lookup_erase_eq] at h
  split at h
  · cases h
  · exact h

/-- A message that is processed. -/
theorem tableStep_message {s s' : ServerState} {event : ServerEvent} (req : Register)
    (sink : ConnectionSink)
    (hevent : effectOf cfg md5 s event = (registered cfg md5 s.registrar req).map fun effect =>
      (req.fromAddr, req.transport, sink, effect))
    (hidle : effectOf cfg md5 s event = none → Idle cfg md5 s event)
    (hok : (s.processSipMessage cfg md5 req sink).1 = .ok () →
      s' = (s.processSipMessage cfg md5 req sink).2)
    (herror : ∀ e, (s.processSipMessage cfg md5 req sink).1 = .error e →
      s'.connections = (s.processSipMessage cfg md5 req sink).2.connections ∧
      s'.connectionWriters = (s.processSipMessage cfg md5 req sink).2.connectionWriters ∧
      (∀ n addr, s'.tasks.lookup n = some addr →
        (s.processSipMessage cfg md5 req sink).2.tasks.lookup n = some addr) ∧
      s'.nextChannel = (s.processSipMessage cfg md5 req sink).2.nextChannel) :
    TableStep cfg md5 s event s' := by
  rcases processSipMessage_cases cfg md5 s req sink with
    ⟨result, registrar, hprocess, hnone⟩ | ⟨effect, registrar, hprocess, hsome⟩
  · rw [hprocess] at hok herror
    rw [hnone] at hevent
    cases result with
    | ok =>
      cases hok rfl
      exact .stay rfl rfl (fun _ _ h => h) rfl (hidle hevent)
    | error e =>
      obtain ⟨h1, h2, h3, h4⟩ := herror e rfl
      exact .stay h1 h2 h3 h4 (hidle hevent)
  · rw [hprocess] at hok
    rw [hsome] at hevent
    have hs := hok rfl
    rw [applyEffect_frame] at hs
    obtain ⟨htasks, hnext⟩ := applyEffect_tasks req.fromAddr req.transport sink effect s
    exact .registered req.fromAddr req.transport sink effect hevent (by rw [hs]) (by rw [hs])
      (by rw [hs, htasks]) (by rw [hs, hnext])

section

variable (cfg : ServerConfig) (md5 : List UInt8 → Vector UInt8 16) (s : ServerState)

/-- An event that changes no table. -/
theorem TableStep.refl {cfg : ServerConfig} {md5 : List UInt8 → Vector UInt8 16} {s : ServerState}
    {event : ServerEvent} (h : Idle cfg md5 s event) : TableStep cfg md5 s event s :=
  .stay rfl rfl (fun _ _ h => h) rfl h

theorem tableStep_handshake (addr : SocketAddr) (completed : Bool) :
    TableStep cfg md5 s (.handshake addr completed) (s.handshake addr completed) := by
  unfold handshake
  split
  · rename_i hpending
    cases completed with
    | true => exact .opened addr rfl hpending rfl rfl rfl rfl
    | false => exact .stay rfl rfl (fun _ _ h => h) rfl ⟨rfl, nofun, nofun⟩
  · rename_i hpending
    refine .refl ⟨rfl, fun addr' h => ?_, nofun⟩
    cases h
    exact hpending

theorem tableStep_receive (channel : Nat) (packet : Packet) :
    TableStep cfg md5 s (.receive channel packet) (s.step cfg md5 (.receive channel packet)) := by
  unfold step
  dsimp only
  split
  · rename_i addr htask
    refine tableStep_message (packet.register addr .tls) (.stream channel) ?_
      (fun h => ⟨h, nofun, nofun⟩) ?_ ?_
    · unfold effectOf
      dsimp only
      rw [htask]
      rfl
    · intro hok
      unfold receive
      split
      · rename_i h
        rw [h]
      · rename_i h
        rw [h] at hok
        cases hok
    · intro e herror
      unfold receive
      split
      · rename_i h
        rw [h] at herror
        cases herror
      · rename_i h
        rw [h]
        exact ⟨rfl, rfl, fun _ _ => lookup_of_erase, rfl⟩
  · rename_i htask
    refine .refl ⟨?_, nofun, nofun⟩
    unfold effectOf
    dsimp only
    rw [htask]
    rfl

theorem tableStep_datagram (peer : SocketAddr) (packet : Packet) :
    TableStep cfg md5 s (.datagram peer packet) (s.step cfg md5 (.datagram peer packet)) := by
  unfold step
  dsimp only
  split
  · rename_i hudp
    refine tableStep_message (packet.register peer .udp) (.udp peer) ?_
      (fun h => ⟨h, nofun, nofun⟩) ?_ ?_
    · unfold effectOf
      dsimp only
      rw [if_pos hudp]
      rfl
    · intro hok
      unfold datagram
      split
      · rename_i h
        rw [h]
      · rename_i h
        rw [h] at hok
        cases hok
    · intro e herror
      unfold datagram
      split
      · rename_i h
        rw [h] at herror
        cases herror
      · rename_i h
        rw [h]
        exact ⟨rfl, rfl, fun _ _ h => h, rfl⟩
  · rename_i hudp
    refine .refl ⟨?_, nofun, nofun⟩
    unfold effectOf
    dsimp only
    rw [if_neg hudp]

/-- The writer of the extension goes, unless there is another connection of it. -/
theorem tableStep_close (channel : Nat) :
    TableStep cfg md5 s (.close channel) (s.step cfg md5 (.close channel)) := by
  unfold step
  dsimp only
  split
  · rename_i addr htask
    have herase : ∀ n a, (s.tasks.erase channel).lookup n = some a → s.tasks.lookup n = some a :=
      fun _ _ => lookup_of_erase
    unfold close removeConnection
    dsimp only
    split
    · rename_i extension hext
      have hwriters : writersAfterClose (s.connections.erase addr) (s.getConnectionExtension addr)
          s.connectionWriters =
          if hasConnectionForExtension extension { connections := s.connections.erase addr } then
            s.connectionWriters else s.connectionWriters.erase extension := by
        rw [hext]
        rfl
      split
      · rename_i hother
        exact .closed channel addr rfl htask rfl (hwriters.trans (if_pos hother)).symm herase rfl
      · rename_i hother
        exact .closed channel addr rfl htask rfl (hwriters.trans (if_neg hother)).symm herase rfl
    · rename_i hext
      exact .closed channel addr rfl htask rfl (by rw [hext]; rfl) herase rfl
  · rename_i htask
    refine .refl ⟨rfl, nofun, fun channel' h => ?_⟩
    cases h
    exact htask

end

/-- **All that an event does to the tables.** -/
theorem tableStep (cfg : ServerConfig) (md5 : List UInt8 → Vector UInt8 16) {s : ServerState}
    (hwired : Wired s) (event : ServerEvent) :
    TableStep cfg md5 s event (s.step cfg md5 event) := by
  cases event with
  | accept addr =>
    change TableStep cfg md5 s _ (s.accept addr)
    unfold accept
    split
    · exact .refl ⟨rfl, nofun, nofun⟩
    · exact .stay rfl rfl (fun _ _ h => h) rfl ⟨rfl, nofun, nofun⟩
  | handshake addr completed => exact tableStep_handshake cfg md5 s addr completed
  | receive channel packet => exact tableStep_receive cfg md5 s channel packet
  | datagram peer packet => exact tableStep_datagram cfg md5 s peer packet
  | close channel => exact tableStep_close cfg md5 s channel
  | crash channel =>
    cases channel with
    | some channel => exact .stay rfl rfl (fun _ _ => lookup_of_erase) rfl ⟨rfl, nofun, nofun⟩
    | none => exact .stay rfl rfl (fun _ _ h => h) rfl ⟨rfl, nofun, nofun⟩
  | udpCleanup now =>
    exact .stay (udpCleanup_connections hwired now) rfl (fun _ _ h => h) rfl ⟨rfl, nofun, nofun⟩
  | registrar op =>
    cases op with
    | register req => exact .refl ⟨rfl, nofun, nofun⟩
    | cleanup now => exact .stay rfl rfl (fun _ _ h => h) rfl ⟨rfl, nofun, nofun⟩
    | failure now ip => exact .stay rfl rfl (fun _ _ h => h) rfl ⟨rfl, nofun, nofun⟩
    | success now ip => exact .stay rfl rfl (fun _ _ h => h) rfl ⟨rfl, nofun, nofun⟩

/-- Where an effect comes from. -/
theorem effectOf_eq_some {s : ServerState} {event : ServerEvent} {addr : SocketAddr}
    {transport : Transport} {sink : ConnectionSink} {effect : RegisterEffect}
    (h : effectOf cfg md5 s event = some (addr, transport, sink, effect)) :
    (∃ channel packet, event = .receive channel packet ∧ s.tasks.lookup channel = some addr ∧
      transport = .tls ∧ sink = .stream channel ∧
      registered cfg md5 s.registrar (packet.register addr .tls) = some effect) ∨
    ∃ packet, event = .datagram addr packet ∧ transport = .udp ∧ sink = .udp addr ∧
      registered cfg md5 s.registrar (packet.register addr .udp) = some effect := by
  unfold effectOf at h
  split at h
  · rename_i channel packet
    obtain ⟨addr', htask, h⟩ := Option.bind_eq_some_iff.mp h
    obtain ⟨effect', heffect, h⟩ := Option.map_eq_some_iff.mp h
    cases h
    exact .inl ⟨channel, packet, rfl, htask, rfl, rfl, heffect⟩
  · rename_i peer packet
    split at h
    · obtain ⟨effect', heffect, h⟩ := Option.map_eq_some_iff.mp h
      cases h
      exact .inr ⟨packet, rfl, rfl, rfl, heffect⟩
    · cases h
  · cases h

/-- The `Expires` of a REGISTER that binds an extension is not 0, and its `To` names the extension. -/
theorem registerEffect_eq_bind {response text extension : Str}
    (h : registerEffect response text = .ok (some (.bind extension))) :
    extractStatusCode response = some 200 ∧ extractExpires text ≠ .ok (some 0) ∧
      ∃ uri, extractUriFromHeader text "To".toList = .ok (some uri) ∧
        extractExtension uri = .ok (some extension) := by
  unfold registerEffect at h
  split at h
  · rename_i hstatus
    obtain ⟨uri?, hto, h⟩ := Res.bind_eq_ok.mp h
    cases uri? with
    | none => cases h
    | some uri =>
      obtain ⟨extension?, hext, h⟩ := Res.bind_eq_ok.mp h
      cases extension? with
      | none => cases h
      | some extension' =>
        obtain ⟨expires, hexpires, h⟩ := Res.bind_eq_ok.mp h
        split at h
        · cases h
        · rename_i hzero
          cases h
          refine ⟨hstatus, ?_, uri, hto, hext⟩
          rw [hexpires]
          exact fun he => hzero (Except.ok.inj he)
  · cases h

/-- **What was checked before an extension is bound.** -/
theorem registered_eq_bind {r : RegistrarService} {req : Register} {extension : Str}
    (h : registered cfg md5 r req = some (.bind extension)) :
    ∃ response params entry reg, (r.handleRegister cfg.registrar md5 req).1 = .ok response ∧
      extractStatusCode response = some 200 ∧ extractExpires req.text ≠ .ok (some 0) ∧
      (r.handleRegister cfg.registrar md5 req).2.registrations.lookup extension = some reg ∧
      r.Accepted cfg.registrar md5 req extension params entry reg := by
  unfold registered at h
  split at h
  · split at h
    · rename_i heffect
      subst h
      cases hresponse : (r.handleRegister cfg.registrar md5 req).1 with
      | error e =>
        rw [hresponse] at heffect
        cases heffect
      | ok response =>
        rw [hresponse] at heffect
        obtain ⟨hstatus, hexpires, uri, hto, hext⟩ := registerEffect_eq_bind heffect
        obtain ⟨extension', params, entry, reg, hrequested, hl, hacc⟩ :=
          RegistrarService.accepted_of_ok hresponse hstatus hexpires
        -- the `To` is where `handle_register` looks first
        have hsame : RegistrarService.requestedExtension req.text = extractExtension uri := by
          unfold RegistrarService.requestedExtension
          rw [hto]
          rfl
        rw [hsame, hext] at hrequested
        cases hrequested
        exact ⟨response, params, entry, reg, rfl, hstatus, hexpires, hl, hacc⟩
    · cases h
  · cases h

theorem connections_bind (addr : SocketAddr) (transport : Transport) (sink : ConnectionSink)
    (extension : Str) (s : ServerState) :
    (applyEffect addr transport sink (.bind extension) s).connections =
      (s.setConnectionExtension addr extension).connections := by
  unfold applyEffect
  dsimp only
  split <;> rfl

theorem writers_bind (addr : SocketAddr) (transport : Transport) (sink : ConnectionSink)
    (extension : Str) (s : ServerState) :
    (applyEffect addr transport sink (.bind extension) s).connectionWriters =
      if transport = .tls then s.connectionWriters.insert extension sink else s.connectionWriters := by
  unfold applyEffect
  dsimp only
  split <;> rfl

/-- The tables after an event that means something for a connection. -/
theorem step_effect {s : ServerState} (hwired : Wired s) {event : ServerEvent} {addr : SocketAddr}
    {transport : Transport} {sink : ConnectionSink} {effect : RegisterEffect}
    (h : effectOf cfg md5 s event = some (addr, transport, sink, effect)) :
    (s.step cfg md5 event).connections = (applyEffect addr transport sink effect s).connections ∧
      (s.step cfg md5 event).connectionWriters =
        (applyEffect addr transport sink effect s).connectionWriters := by
  cases tableStep cfg md5 hwired event with
  | stay connections writers tasks next idle =>
    rw [idle.effect] at h
    cases h
  | opened addr' hevent =>
    rw [hevent] at h
    cases h
  | closed channel addr' hevent =>
    rw [hevent] at h
    cases h
  | registered addr' transport' sink' effect' heffect connections writers =>
    rw [h] at heffect
    cases heffect
    exact ⟨connections, writers⟩

/-! ## Channels -/

/-- An effect changes no sink. -/
theorem sink_applyEffect {s : ServerState} {addr addr' : SocketAddr} {transport : Transport}
    {sink : ConnectionSink} {effect : RegisterEffect} {c : ConnectionState}
    (h : (applyEffect addr transport sink effect s).connections.lookup addr' = some c) :
    ∃ c', s.connections.lookup addr' = some c' ∧ c'.sink = c.sink := by
  have hmap : ∀ extension : Option Str,
      (if addr' = addr then (s.connections.lookup addr).map fun c => { c with extension := extension }
        else s.connections.lookup addr') = some c →
      ∃ c', s.connections.lookup addr' = some c' ∧ c'.sink = c.sink := by
    intro extension h
    split at h
    · rename_i he
      obtain ⟨c', hl, hc⟩ := Option.map_eq_some_iff.mp h
      exact ⟨c', he ▸ hl, by rw [← hc]⟩
    · exact ⟨c, h, rfl⟩
  cases effect with
  | unbind extension => exact hmap none ((lookup_clearConnectionExtension s addr addr').symm.trans h)
  | bind extension =>
    rw [connections_bind] at h
    exact hmap (some extension) ((lookup_setConnectionExtension s addr addr' extension).symm.trans h)

/-- Fewer connections, and no new tasks. -/
theorem Wired.of_sub {s s' : ServerState} (h : Wired s)
    (hconn : ∀ addr c, s'.connections.lookup addr = some c →
      ∃ c', s.connections.lookup addr = some c' ∧ c'.sink = c.sink)
    (htasks : ∀ n addr, s'.tasks.lookup n = some addr → s.tasks.lookup n = some addr)
    (hnext : s'.nextChannel = s.nextChannel) : Wired s' where
  stream addr c hl := by
    obtain ⟨c', hl', hc⟩ := hconn addr c hl
    rw [← hc, hnext]
    exact h.stream addr c' hl'
  unique addr addr' c c' hl hl' hsink := by
    obtain ⟨d, hd, hdc⟩ := hconn addr c hl
    obtain ⟨d', hd', hdc'⟩ := hconn addr' c' hl'
    exact h.unique addr addr' d d' hd hd' (hdc.trans (hsink.trans hdc'.symm))
  task_lt n addr hl := hnext ▸ h.task_lt n addr (htasks n addr hl)
  task n addr addr' c hl hl' hsink := by
    obtain ⟨d, hd, hdc⟩ := hconn addr' c hl'
    exact h.task n addr addr' d (htasks n addr hl) hd (hdc.trans hsink)

theorem Wired.step {s : ServerState} (h : Wired s) (event : ServerEvent) :
    Wired (s.step cfg md5 event) := by
  cases tableStep cfg md5 h event with
  | stay connections writers tasks next =>
    exact h.of_sub (fun addr c hl => ⟨c, connections ▸ hl, rfl⟩) tasks next
  | closed channel addr event task connections writers tasks next =>
    refine h.of_sub (fun addr' c hl => ⟨c, ?_, rfl⟩) tasks next
    rw [connections, Table.lookup_erase_eq] at hl
    split at hl
    · cases hl
    · exact hl
  | registered addr transport sink effect heffect connections writers tasks next =>
    exact h.of_sub (fun addr' c hl => sink_applyEffect (connections ▸ hl)) (fun _ _ hl => tasks ▸ hl) next
  | opened addr event pending connections writers tasks next =>
    -- the new channel is not in use
    have hold : ∀ addr' c, s.connections.lookup addr' = some c → c.sink ≠ .stream s.nextChannel := by
      intro addr' c hl he
      obtain ⟨n, hsink, hlt⟩ := h.stream addr' c hl
      rw [he, ConnectionSink.stream.injEq] at hsink
      omega
    refine ⟨fun addr' c hl => ?_, fun addr' addr'' c c' hl hl' hsink => ?_, fun n addr' hl => ?_,
      fun n addr' addr'' c hl hl' hsink => ?_⟩
    · rw [connections, Table.lookup_insert_eq] at hl
      rw [next]
      split at hl
      · cases hl
        exact ⟨s.nextChannel, rfl, Nat.lt_succ_self _⟩
      · obtain ⟨n, hsink, hlt⟩ := h.stream addr' c hl
        exact ⟨n, hsink, Nat.lt_succ_of_lt hlt⟩
    · rw [connections, Table.lookup_insert_eq] at hl hl'
      split at hl
      · rename_i he
        cases hl
        split at hl'
        · rename_i he'
          rw [he, he']
        · exact absurd hsink.symm (hold addr'' c' hl')
      · split at hl'
        · cases hl'
          exact absurd hsink (hold addr' c hl)
        · exact h.unique addr' addr'' c c' hl hl' hsink
    · rw [tasks, Table.lookup_insert_eq] at hl
      rw [next]
      split at hl
      · rename_i he
        rw [he]
        exact Nat.lt_succ_self _
      · exact Nat.lt_succ_of_lt (h.task_lt n addr' hl)
    · rw [connections, Table.lookup_insert_eq] at hl'
      rw [tasks, Table.lookup_insert_eq] at hl
      split at hl'
      · rename_i he'
        cases hl'
        rw [ConnectionSink.stream.injEq] at hsink
        rw [if_pos hsink.symm] at hl
        cases hl
        exact he'
      · split at hl
        · rename_i hn
          exact absurd (hn ▸ hsink) (hold addr'' c hl')
        · exact h.task n addr' addr'' c hl hl' hsink

/-- **Every connection has a channel of its own**, in every run. -/
theorem run_wired (cfg : ServerConfig) (md5 : List UInt8 → Vector UInt8 16) (events : List ServerEvent) :
    Wired (run cfg md5 events) := by
  induction events using List.reverseRecOn with
  | nil => exact ⟨nofun, nofun, nofun, nofun⟩
  | append_singleton events event ih =>
    rw [run_append]
    exact ih.step event

/-! ## A device

Extension 1001 on a machine with one address and several ports, which registers by the scheme without
`qop`. -/

/-- MD5, on the three texts that are hashed for this device. -/
def deviceMd5 (input : List UInt8) : Vector UInt8 16 :=
  if input = utf8 ("8634fb00bfb0fcb2087b08758acdb8a1:000102030405060708090a0b0c0d0e0f:" ++
      "0264b00abe5b31d87fb22979689b883f").toList then
    Vector.ofFn fun i => [5, 130, 172, 92, 123, 75, 187, 82, 60, 23, 244, 220, 78, 226, 25, 129].getD i 0
  else RegistrarService.md5Of input

def deviceConfig : ServerConfig where
  registrar :=
    { domain := "example.com".toList, defaultPassword := "pw".toList, rangeStart := 1000
      rangeEnd := 2000, insecureExtensions := ["1001".toList] }
  udp := true

def deviceAddr (port : UInt16) : SocketAddr := .v4 (Vector.replicate 4 10) port

/-- A REGISTER for 300 seconds, with further headers. -/
def devicePacket (headers : List String) : Packet where
  text := (["REGISTER sip:example.com SIP/2.0", "To: <sip:1001@example.com>", "Expires: 300"] ++
    headers).flatMap (·.toList ++ crlf)
  now := 1000
  nonce := Vector.ofFn fun i => UInt8.ofNat i
  tag := Vector.replicate 8 0

/-- The answer to the challenge. -/
def deviceAnswer : Packet :=
  devicePacket ["Authorization: Digest username=\"1001\", realm=\"example.com\", " ++
    "nonce=\"000102030405060708090a0b0c0d0e0f\", uri=\"sip:example.com\", " ++
    "response=\"0582ac5c7b4bbb523c17f4dc4ee21981\""]

end ServerState

end Minghe.Sip
