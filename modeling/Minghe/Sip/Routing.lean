import Minghe.Lib.Run
import Minghe.Sip.Connections
import Minghe.Sip.Message

/-!
# Where messages to an extension go

The registrar knows the last registration of an extension. `get_outbound` asks the table of writers
first, which the server keeps beside it, and the registrar only for an extension that has no writer.
A REGISTER over TLS sets the writer to its own connection, if its `To` names the extension; one over
UDP leaves the writer of an earlier TLS registration where it is.

* `accepts`: the extension that a REGISTER puts into the registrar's table.
* `acceptedOn`: the connection on which the last registration of an extension was accepted.
* `Routed`: the writer of an extension registered over UDP is not there; that of one registered over
  TLS, if there is one, is the stream of the connection.

Results:
* `routing_follows`: in a run in which no REGISTER over UDP finds a writer, and every REGISTER over TLS
  sets one (`KeepsRoute`), `get_outbound` follows the last registration in every state.
* `stale_route`: a device moves from TLS to UDP, and messages go to its old connection.
-/

namespace Minghe.Sip

open Minghe.Lib

namespace RegistrarService

variable (cfg : RegistrarConfig) (md5 : List UInt8 → Vector UInt8 16)

/-- The extension that a REGISTER puts into the table: it is answered with 200, and not for 0
seconds. -/
def accepts (r : RegistrarService) (req : Register) : Option Str :=
  match (r.handleRegister cfg md5 req).1, requestedExtension req.text with
  | .ok response, .ok (some extension) =>
    if extractStatusCode response = some 200 ∧ extractExpires req.text ≠ .ok (some 0) then
      some extension
    else none
  | _, _ => none

variable {cfg md5}

/-- **What a REGISTER does to the table**: it takes entries out, or it is accepted and writes one. -/
theorem registrations_cases (cfg : RegistrarConfig) (md5 : List UInt8 → Vector UInt8 16)
    (r : RegistrarService) (req : Register) :
    (r.accepts cfg md5 req = none ∧ ∀ e reg,
      (r.handleRegister cfg md5 req).2.registrations.lookup e = some reg →
        r.registrations.lookup e = some reg) ∨
    ∃ extension reg, r.accepts cfg md5 req = some extension ∧ reg.transport = req.transport ∧
      reg.transportAddr = req.fromAddr ∧
      (r.handleRegister cfg md5 req).2.registrations = r.registrations.insert extension reg := by
  unfold accepts
  rcases handleRegister_cases cfg md5 r req with
    ⟨hs, hno⟩ | ⟨extension, params, entry, s', hext, -, hs, hr, -⟩
  · refine .inl ⟨?_, fun e reg h => by rwa [hs] at h⟩
    split
    · rename_i response extension hresponse _
      exact if_neg fun h => hno response hresponse h.1
    · rfl
  · rw [hr, hext]
    rcases updateRegistration_cases s' req extension with
      ⟨e, hu⟩ | ⟨hzero, response, hu, -⟩ | ⟨hexpires, response, reg, hu, h200, rfl, hwrites⟩
    · rw [hu]
      exact .inl ⟨rfl, fun e reg h => by rwa [hs] at h⟩
    · rw [hu]
      refine .inl ⟨if_neg fun h => h.2 hzero, fun e reg h => ?_⟩
      simp only [unregister, Table.lookup_erase_eq, hs] at h
      split at h
      · cases h
      · exact h
    · rw [hu]
      obtain ⟨htransport, haddr⟩ : reg.transport = req.transport ∧ reg.transportAddr = req.fromAddr := by
        obtain ⟨_, _, -, -, heq⟩ := hwrites
        rw [heq]
        exact ⟨rfl, rfl⟩
      exact .inr ⟨reg.extension, reg, if_pos ⟨h200, hexpires⟩, htransport, haddr, by rw [register, hs]⟩

end RegistrarService

namespace ServerState

variable (cfg : ServerConfig) (md5 : List UInt8 → Vector UInt8 16)

/-- The extension that an event puts into the registrar's table, and the connection it comes on. -/
def acceptedOf (s : ServerState) : ServerEvent → Option (Str × ConnectionSink)
  | .receive channel packet =>
    (s.tasks.lookup channel).bind fun addr =>
      if isRegister packet.text then
        (s.registrar.accepts cfg.registrar md5 (packet.register addr .tls)).map (·, .stream channel)
      else none
  | .datagram peer packet =>
    if cfg.udp && s.listening && isRegister packet.text then
      (s.registrar.accepts cfg.registrar md5 (packet.register peer .udp)).map (·, .udp peer)
    else none
  | _ => none

/-- The connections on which registrations were accepted, after an event. -/
def nextAccepted (accepted : Option (Str × ConnectionSink)) (last : Str → Option ConnectionSink)
    (extension : Str) : Option ConnectionSink :=
  match accepted with
  | some (extension', sink) => if extension' = extension then some sink else last extension
  | none => last extension

/-- The connection on which the last registration of each extension was accepted in a run. -/
def acceptedOn (events : List ServerEvent) : Str → Option ConnectionSink :=
  (events.foldl (fun p event =>
    (p.1.step cfg md5 event, nextAccepted (acceptedOf cfg md5 p.1 event) p.2))
    (({}, fun _ => none) : ServerState × (Str → Option ConnectionSink))).2

/-- The state before an event after which messages still go where they should: a REGISTER over UDP finds
no writer of its extension; one over TLS makes its connection the writer, or no other connection is. -/
def KeepsRoute (s : ServerState) (event : ServerEvent) : Prop :=
  match acceptedOf cfg md5 s event with
  | some (extension, .udp _) => s.connectionWriters.lookup extension = none
  | some (extension, .stream channel) =>
    (effectOf cfg md5 s event).map (·.2.2.2) = some (.bind extension) ∨
      ∀ sink ∈ s.connectionWriters.lookup extension, sink = .stream channel
  | none => True

instance (s : ServerState) (event : ServerEvent) : Decidable (KeepsRoute cfg md5 s event) := by
  unfold KeepsRoute; split <;> infer_instance

/-- The writers fit the registrations: `last` are the connections on which they were accepted. -/
def Routed (s : ServerState) (last : Str → Option ConnectionSink) : Prop :=
  ∀ extension reg, s.registrar.registrations.lookup extension = some reg →
    (reg.transport = .udp → s.connectionWriters.lookup extension = none) ∧
    (reg.transport = .tls → ∀ sink, s.connectionWriters.lookup extension = some sink →
      last extension = some sink ∧ sink.transport = .tls)

variable {cfg md5}

/-! ## One event -/

/-- A message to the server: what becomes of the registrar and of the writers. -/
theorem processSipMessage_tables (cfg : ServerConfig) (md5 : List UInt8 → Vector UInt8 16)
    (s : ServerState) (req : Register) (sink : ConnectionSink) :
    ((s.processSipMessage cfg md5 req sink).2.registrar =
      if isRegister req.text then (s.registrar.handleRegister cfg.registrar md5 req).2
      else s.registrar) ∧
    (s.processSipMessage cfg md5 req sink).2.connectionWriters =
      match registered cfg md5 s.registrar req with
      | some (.bind extension) =>
        if req.transport = .tls then s.connectionWriters.insert extension sink else s.connectionWriters
      | some (.unbind extension) => s.connectionWriters.erase extension
      | none => s.connectionWriters := by
  unfold processSipMessage registered
  split
  · unfold processRegister
    dsimp only
    split
    · rename_i h
      rw [h]
      exact ⟨rfl, rfl⟩
    · rename_i h
      rw [h]
      exact ⟨rfl, rfl⟩
    · rename_i effect h
      rw [h, applyEffect_frame]
      refine ⟨rfl, ?_⟩
      cases effect with
      | bind extension => exact writers_bind ..
      | unbind extension => rfl
  · exact ⟨rfl, rfl⟩

/-- A REGISTER that sets a writer is accepted for its extension. -/
theorem accepts_of_bind {r : RegistrarService} {req : Register} {extension : Str}
    (h : registered cfg md5 r req = some (.bind extension)) :
    r.accepts cfg.registrar md5 req = some extension := by
  obtain ⟨response, params, entry, reg, hresponse, hstatus, hexpires, -, -⟩ := registered_eq_bind h
  unfold registered at h
  split at h
  · rw [hresponse] at h
    split at h
    · rename_i heffect
      subst h
      obtain ⟨-, -, uri, hto, hext⟩ := registerEffect_eq_bind heffect
      have hsame : RegistrarService.requestedExtension req.text = .ok (some extension) := by
        unfold RegistrarService.requestedExtension
        rw [hto]
        exact hext
      unfold RegistrarService.accepts
      rw [hresponse, hsame]
      exact if_pos ⟨hstatus, hexpires⟩
    · cases h
  · cases h

/-- The tables after a message, as far as routing goes. -/
structure Handled (cfg : ServerConfig) (md5 : List UInt8 → Vector UInt8 16) (s : ServerState)
    (req : Register) (sink : ConnectionSink) (s' : ServerState) : Prop where
  registrar : s'.registrar =
    if isRegister req.text then (s.registrar.handleRegister cfg.registrar md5 req).2 else s.registrar
  writers : ∀ extension k, s'.connectionWriters.lookup extension = some k →
    s.connectionWriters.lookup extension = some k ∨
      registered cfg md5 s.registrar req = some (.bind extension) ∧ req.transport = .tls ∧ k = sink
  bound : ∀ extension, registered cfg md5 s.registrar req = some (.bind extension) →
    req.transport = .tls → s'.connectionWriters.lookup extension = some sink

theorem handled_processSipMessage (cfg : ServerConfig) (md5 : List UInt8 → Vector UInt8 16)
    (s : ServerState) (req : Register) (sink : ConnectionSink) :
    Handled cfg md5 s req sink (s.processSipMessage cfg md5 req sink).2 := by
  obtain ⟨hregistrar, hwriters⟩ := processSipMessage_tables cfg md5 s req sink
  refine ⟨hregistrar, fun extension k h => ?_, fun extension h htls => ?_⟩
  · rw [hwriters] at h
    split at h
    · rename_i extension' hbind
      split at h
      · rename_i htls
        rcases Table.lookup_insert_eq_some h with ⟨rfl, rfl⟩ | ⟨-, h⟩
        · exact .inr ⟨hbind, htls, rfl⟩
        · exact .inl h
      · exact .inl h
    · rw [Table.lookup_erase_eq] at h
      split at h
      · cases h
      · exact .inl h
    · exact .inl h
  · rw [hwriters, h]
    dsimp only
    rw [if_pos htls]
    exact AList.lookup_insert _

/-- A message keeps the routes, under the condition. -/
theorem Routed.message {s s' : ServerState} {last : Str → Option ConnectionSink} (h : Routed s last)
    {req : Register} {sink : ConnectionSink} (hsink : sink.transport = req.transport)
    (hs' : Handled cfg md5 s req sink s') {accepted : Option Str}
    (haccepted : accepted =
      if isRegister req.text then s.registrar.accepts cfg.registrar md5 req else none)
    (hudp : ∀ extension, accepted = some extension → req.transport = .udp →
      s.connectionWriters.lookup extension = none)
    (htls : ∀ extension, accepted = some extension → req.transport = .tls →
      registered cfg md5 s.registrar req = some (.bind extension) ∨
        ∀ k, s.connectionWriters.lookup extension = some k → k = sink) :
    Routed s' fun extension => if accepted = some extension then some sink else last extension := by
  have hbind : ∀ extension, registered cfg md5 s.registrar req = some (.bind extension) →
      accepted = some extension := by
    intro extension hb
    have hisRegister : isRegister req.text = true := by
      by_contra hn
      unfold registered at hb
      rw [if_neg hn] at hb
      cases hb
    rw [haccepted, if_pos hisRegister]
    exact accepts_of_bind hb
  -- an entry that was there before
  have hold : ∀ extension reg, s.registrar.registrations.lookup extension = some reg →
      accepted ≠ some extension →
      (reg.transport = .udp → s'.connectionWriters.lookup extension = none) ∧
      (reg.transport = .tls → ∀ k, s'.connectionWriters.lookup extension = some k →
        (if accepted = some extension then some sink else last extension) = some k ∧
          k.transport = .tls) := by
    intro extension reg hreg hne
    obtain ⟨h1, h2⟩ := h extension reg hreg
    have hsame : ∀ k, s'.connectionWriters.lookup extension = some k →
        s.connectionWriters.lookup extension = some k := by
      intro k hk
      rcases hs'.writers extension k hk with hk | ⟨hb, -, -⟩
      · exact hk
      · exact absurd (hbind extension hb) hne
    refine ⟨fun hu => ?_, fun ht k hk => ?_⟩
    · cases hk : s'.connectionWriters.lookup extension with
      | none => rfl
      | some k => rw [h1 hu] at hsame; exact absurd (hsame k hk) nofun
    · rw [if_neg hne]
      exact h2 ht k (hsame k hk)
  intro extension reg hreg
  rw [hs'.registrar] at hreg
  by_cases hisRegister : isRegister req.text = true
  · rw [if_pos hisRegister] at hreg haccepted
    rcases RegistrarService.registrations_cases cfg.registrar md5 s.registrar req with
      ⟨hnone, hsub⟩ | ⟨extension', reg', hsome, htransport, -, hinsert⟩
    · refine hold extension reg (hsub _ _ hreg) ?_
      rw [haccepted, hnone]
      nofun
    · rw [hsome] at haccepted
      rw [hinsert] at hreg
      rcases Table.lookup_insert_eq_some hreg with ⟨rfl, rfl⟩ | ⟨hne, hreg⟩
      · -- the new entry
        refine ⟨fun hu => ?_, fun ht k hk => ?_⟩
        · rw [htransport] at hu
          cases hk : s'.connectionWriters.lookup extension with
          | none => rfl
          | some k =>
            rcases hs'.writers extension k hk with hk | ⟨-, ht, -⟩
            · rw [hudp extension haccepted hu] at hk
              cases hk
            · rw [hu] at ht
              cases ht
        · rw [htransport] at ht
          have hk' : k = sink := by
            rcases htls extension haccepted ht with hb | hsame
            · rw [hs'.bound extension hb ht] at hk
              exact (Option.some.inj hk).symm
            · rcases hs'.writers extension k hk with hk | ⟨-, -, hk⟩
              · exact hsame k hk
              · exact hk
          dsimp only
          rw [if_pos haccepted, hk', hsink]
          exact ⟨rfl, ht⟩
      · refine hold extension reg hreg ?_
        rw [haccepted]
        exact fun he => hne (Option.some.inj he).symm
  · rw [if_neg hisRegister] at hreg haccepted
    refine hold extension reg hreg ?_
    rw [haccepted]
    nofun

/-- Fewer entries and fewer writers. -/
theorem Routed.of_sub {s s' : ServerState} {last : Str → Option ConnectionSink} (h : Routed s last)
    (hreg : ∀ e reg, s'.registrar.registrations.lookup e = some reg →
      s.registrar.registrations.lookup e = some reg)
    (hwriters : ∀ e k, s'.connectionWriters.lookup e = some k →
      s.connectionWriters.lookup e = some k) : Routed s' last := by
  intro e reg he
  obtain ⟨h1, h2⟩ := h e reg (hreg e reg he)
  refine ⟨fun hu => ?_, fun ht k hk => h2 ht k (hwriters e k hk)⟩
  cases hk : s'.connectionWriters.lookup e with
  | none => rfl
  | some k => rw [← hwriters e k hk, h1 hu]

theorem nextAccepted_map (accepted : Option Str) (sink : ConnectionSink)
    (last : Str → Option ConnectionSink) : nextAccepted (accepted.map (·, sink)) last =
      fun extension => if accepted = some extension then some sink else last extension := by
  funext extension
  cases accepted with
  | none => rfl
  | some extension' => simp [nextAccepted]

theorem lookup_writersAfterClose_sub {connections : Table SocketAddr ConnectionState}
    {extension? : Option Str} {writers : Table Str ConnectionSink} {extension : Str}
    {k : ConnectionSink}
    (h : (writersAfterClose connections extension? writers).lookup extension = some k) :
    writers.lookup extension = some k := by
  unfold writersAfterClose at h
  split at h
  · split at h
    · exact h
    · rw [Table.lookup_erase_eq] at h
      split at h
      · cases h
      · exact h
  · exact h

/-- What is not a message takes away at most. -/
theorem Routed.quiet {s : ServerState} {last : Str → Option ConnectionSink} (h : Routed s last)
    (hwired : Wired s) {event : ServerEvent} (hnone : acceptedOf cfg md5 s event = none)
    (heffect : effectOf cfg md5 s event = none)
    (hreg : ∀ e reg, (s.step cfg md5 event).registrar.registrations.lookup e = some reg →
      s.registrar.registrations.lookup e = some reg) :
    Routed (s.step cfg md5 event) (nextAccepted (acceptedOf cfg md5 s event) last) := by
  rw [hnone]
  refine h.of_sub hreg fun e k hk => ?_
  cases tableStep cfg md5 hwired event with
  | stay connections writers => rwa [writers] at hk
  | opened addr hevent pending connections writers => rwa [writers] at hk
  | closed channel addr hevent task connections writers =>
    rw [writers] at hk
    exact lookup_writersAfterClose_sub hk
  | registered addr transport sink effect heffect' =>
    rw [heffect] at heffect'
    cases heffect'

/-- A message on a connection. -/
theorem Routed.of_receive {s : ServerState} {last : Str → Option ConnectionSink} (h : Routed s last)
    (hwired : Wired s) {channel : Nat} {packet : Packet}
    (hkeeps : KeepsRoute cfg md5 s (.receive channel packet)) :
    Routed (s.step cfg md5 (.receive channel packet))
      (nextAccepted (acceptedOf cfg md5 s (.receive channel packet)) last) := by
  cases htask : s.tasks.lookup channel with
  | none =>
    have hstep : s.step cfg md5 (.receive channel packet) = s := by simp only [ServerState.step, htask]
    refine h.quiet hwired (by rw [acceptedOf, htask]; rfl) (by rw [effectOf, htask]; rfl) ?_
    rw [hstep]
    exact fun e reg he => he
  | some addr =>
    have hstate : Handled cfg md5 s (packet.register addr .tls) (.stream channel)
        (s.step cfg md5 (.receive channel packet)) := by
      have hp := handled_processSipMessage cfg md5 s (packet.register addr .tls)
        (.stream channel)
      simp only [ServerState.step, htask, receive]
      split
      · rename_i h
        rwa [h] at hp
      · rename_i h
        rw [h] at hp
        exact ⟨hp.registrar, hp.writers, hp.bound⟩
    have hacc : acceptedOf cfg md5 s (.receive channel packet) =
        (if isRegister packet.text then
          s.registrar.accepts cfg.registrar md5 (packet.register addr .tls) else none).map
            (·, .stream channel) := by
      rw [acceptedOf, htask, Option.bind_some]
      split <;> rfl
    rw [hacc, nextAccepted_map]
    refine h.message rfl hstate rfl (fun e _ hu => by cases hu) fun e he _ => ?_
    have hkept : acceptedOf cfg md5 s (.receive channel packet) = some (e, .stream channel) := by
      rw [hacc]
      exact congrArg _ he
    unfold KeepsRoute at hkeeps
    rw [hkept] at hkeeps
    refine hkeeps.imp (fun heffect => ?_) id
    rw [effectOf, htask, Option.bind_some, Option.map_map] at heffect
    obtain ⟨effect, hr, he⟩ := Option.map_eq_some_iff.mp heffect
    exact hr.trans (congrArg some he)

/-- A datagram. -/
theorem Routed.of_datagram {s : ServerState} {last : Str → Option ConnectionSink} (h : Routed s last)
    (hwired : Wired s) {peer : SocketAddr} {packet : Packet}
    (hkeeps : KeepsRoute cfg md5 s (.datagram peer packet)) :
    Routed (s.step cfg md5 (.datagram peer packet))
      (nextAccepted (acceptedOf cfg md5 s (.datagram peer packet)) last) := by
  by_cases hudp : (cfg.udp && s.listening) = true
  · have hstate : Handled cfg md5 s (packet.register peer .udp) (.udp peer)
        (s.step cfg md5 (.datagram peer packet)) := by
      have hp := handled_processSipMessage cfg md5 s (packet.register peer .udp)
        (.udp peer)
      simp only [ServerState.step, hudp, if_true, datagram]
      split
      · rename_i h
        rwa [h] at hp
      · rename_i h
        rw [h] at hp
        exact ⟨hp.registrar, hp.writers, hp.bound⟩
    have hacc : acceptedOf cfg md5 s (.datagram peer packet) =
        (if isRegister packet.text then
          s.registrar.accepts cfg.registrar md5 (packet.register peer .udp) else none).map
            (·, .udp peer) := by
      rw [acceptedOf, hudp, Bool.true_and]
      split <;> rfl
    rw [hacc, nextAccepted_map]
    refine h.message rfl hstate rfl (fun e he _ => ?_) fun e _ ht => by cases ht
    have hkept : acceptedOf cfg md5 s (.datagram peer packet) = some (e, .udp peer) := by
      rw [hacc]
      exact congrArg _ he
    unfold KeepsRoute at hkeeps
    rwa [hkept] at hkeeps
  · rw [Bool.not_eq_true] at hudp
    have hstep : s.step cfg md5 (.datagram peer packet) = s := by
      simp only [ServerState.step, hudp, Bool.false_eq_true, if_false]
    refine h.quiet hwired ?_ ?_ ?_
    · rw [acceptedOf, hudp, Bool.false_and]
      rfl
    · rw [effectOf, hudp]
      rfl
    · rw [hstep]
      exact fun e reg he => he

/-- **One event** keeps the routes, under the condition. -/
theorem Routed.step {s : ServerState} {last : Str → Option ConnectionSink} (h : Routed s last)
    (hwired : Wired s) {event : ServerEvent} (hkeeps : KeepsRoute cfg md5 s event) :
    Routed (s.step cfg md5 event) (nextAccepted (acceptedOf cfg md5 s event) last) := by
  cases event with
  | receive channel packet => exact h.of_receive hwired hkeeps
  | datagram peer packet => exact h.of_datagram hwired hkeeps
  | accept addr =>
    refine h.quiet hwired rfl rfl fun e reg he => ?_
    simp only [ServerState.step, accept] at he
    split at he <;> exact he
  | handshake addr completed =>
    refine h.quiet hwired rfl rfl fun e reg he => ?_
    simp only [ServerState.step, handshake] at he
    split at he
    · split at he <;> exact he
    · exact he
  | close channel =>
    refine h.quiet hwired rfl rfl fun e reg he => ?_
    simp only [ServerState.step] at he
    split at he
    · unfold close removeConnection at he
      dsimp only at he
      split at he
      · split at he <;> exact he
      · exact he
    · exact he
  | crash channel => cases channel <;> exact h.quiet hwired rfl rfl fun e reg he => he
  | udpCleanup now => exact h.quiet hwired rfl rfl fun e reg he => he
  | registrar op =>
    cases op with
    | register req => exact h.quiet hwired rfl rfl fun e reg he => he
    | cleanup now => exact h.quiet hwired rfl rfl fun e reg he => (Table.lookup_retain_eq_some.mp he).1
    | failure now ip =>
      refine h.quiet hwired rfl rfl fun e reg he => ?_
      change (s.registrar.recordFailure cfg.registrar now ip).2.registrations.lookup e = _ at he
      rwa [RegistrarService.recordFailure_registrations] at he
    | success now ip => exact h.quiet hwired rfl rfl fun e reg he => he

/-! ## Runs -/

theorem acceptedOn_concat (events : List ServerEvent) (event : ServerEvent) :
    acceptedOn cfg md5 (events ++ [event]) =
      nextAccepted (acceptedOf cfg md5 (run cfg md5 events) event) (acceptedOn cfg md5 events) := by
  have hstate : ∀ (events : List ServerEvent) (p : ServerState × (Str → Option ConnectionSink)),
      (events.foldl (fun p event =>
        (p.1.step cfg md5 event, nextAccepted (acceptedOf cfg md5 p.1 event) p.2)) p).1 =
        events.foldl (ServerState.step cfg md5) p.1 := by
    intro events
    induction events with
    | nil => exact fun _ => rfl
    | cons event events ih => exact fun p => ih _
  unfold acceptedOn
  rw [List.foldl_append, List.foldl_cons, List.foldl_nil]
  dsimp only
  rw [hstate]
  rfl

theorem routed_run {events : List ServerEvent}
    (hkeeps : ∀ done event, done ++ [event] <+: events → KeepsRoute cfg md5 (run cfg md5 done) event)
    {done : List ServerEvent} (hdone : done <+: events) :
    Routed (run cfg md5 done) (acceptedOn cfg md5 done) := by
  induction done using List.reverseRecOn with
  | nil => exact nofun
  | append_singleton done event ih =>
    rw [run_append, acceptedOn_concat]
    exact (ih ((List.prefix_append _ _).trans hdone)).step (run_wired cfg md5 done)
      (hkeeps done event hdone)

/-- **Routing follows the last registration.** In every state of a run whose events all meet
`KeepsRoute`, an extension whose registration is alive and came over UDP is reached at the address it
came from, and one whose registration came over TLS on the connection on which it was accepted, if at
all. -/
theorem routing_follows (cfg : ServerConfig) (md5 : List UInt8 → Vector UInt8 16) (m : MessageConfig)
    (hudp : m.udpSocket = true) (events : List ServerEvent)
    (hkeeps : ∀ done event, done ++ [event] <+: events → KeepsRoute cfg md5 (run cfg md5 done) event) :
    ∀ done, done <+: events → ∀ now extension reg,
      (run cfg md5 done).registrar.lookup now extension = some reg →
      let outbound := m.getOutbound
        ⟨(run cfg md5 done).connectionWriters, (run cfg md5 done).registrar, now⟩ extension
      (reg.transport = .udp → outbound = some (.udp reg.transportAddr)) ∧
      (reg.transport = .tls → ∀ sink, outbound = some sink →
        acceptedOn cfg md5 done extension = some sink ∧ sink.transport = .tls) := by
  intro done hdone now extension reg hlookup outbound
  obtain ⟨h1, h2⟩ := routed_run hkeeps hdone extension reg (Option.filter_eq_some_iff.mp hlookup).1
  refine ⟨fun hu => ?_, fun ht sink hsink => ?_⟩
  · simp only [outbound, MessageConfig.getOutbound, h1 hu, hudp, if_true, hlookup, hu]
  · refine h2 ht sink ?_
    simp only [outbound, MessageConfig.getOutbound, hlookup, ht] at hsink
    split at hsink
    · rename_i hw
      rw [hw, hsink]
    · split at hsink <;> cases hsink

/-- The message service of the device's server. -/
def deviceMessages : MessageConfig := ⟨"example.com".toList, 1000, 2000, true⟩

/-- The device registers over UDP, then over TLS. -/
def deviceUpgrade : List ServerEvent :=
  [.datagram (deviceAddr 5060) (devicePacket []), .datagram (deviceAddr 5060) deviceAnswer,
    .accept (deviceAddr 5061), .handshake (deviceAddr 5061) true, .receive 0 deviceAnswer]

theorem routing_follows_concrete :
    ∃ reg, (run deviceConfig deviceMd5 deviceUpgrade).registrar.lookup 1000 "1001".toList = some reg ∧
      let outbound := deviceMessages.getOutbound
        ⟨(run deviceConfig deviceMd5 deviceUpgrade).connectionWriters,
          (run deviceConfig deviceMd5 deviceUpgrade).registrar, 1000⟩ "1001".toList
      (reg.transport = .udp → outbound = some (.udp reg.transportAddr)) ∧
      (reg.transport = .tls → ∀ sink, outbound = some sink →
        acceptedOn deviceConfig deviceMd5 deviceUpgrade "1001".toList = some sink ∧
          sink.transport = .tls) := by
  have hregistered : ((run deviceConfig deviceMd5 deviceUpgrade).registrar.lookup 1000
      "1001".toList).isSome = true := by decide +kernel
  obtain ⟨reg, hreg⟩ := Option.isSome_iff_exists.mp hregistered
  exact ⟨reg, hreg, routing_follows deviceConfig deviceMd5 deviceMessages rfl deviceUpgrade
    (Stepwise.forall (by decide +kernel)) deviceUpgrade (List.prefix_refl _) 1000 "1001".toList reg hreg⟩

/-- **A stale writer goes first.** The device registers over TLS, and then over UDP from another port
while its connection is there: it is registered over UDP, and reached on the connection. -/
theorem stale_route :
    let s := run deviceConfig deviceMd5
      [.accept (deviceAddr 5061), .handshake (deviceAddr 5061) true, .receive 0 (devicePacket []),
        .receive 0 deviceAnswer, .datagram (deviceAddr 5060) deviceAnswer]
    (s.registrar.lookup 1000 "1001".toList).map (fun reg => (reg.transport, reg.transportAddr)) =
      some (.udp, deviceAddr 5060) ∧
    deviceMessages.getOutbound ⟨s.connectionWriters, s.registrar, 1000⟩ "1001".toList =
      some (.stream 0) := by
  decide +kernel

end ServerState

end Minghe.Sip
