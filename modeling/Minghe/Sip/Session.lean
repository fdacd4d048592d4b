import Minghe.Sip.Connections
import Minghe.Sip.Message

/-!
# Sessions

What the server knows of an endpoint after it has answered its REGISTER with 200. A REGISTER changes the
entry of a connection that is in the table and makes none, and only TLS connections are put there. The
loop that cleans up UDP sessions, and what is said about UDP devices where BYE and MESSAGE are handled,
expect entries of UDP devices.

* `Answered`: a REGISTER for an extension is answered with 200, with an `Expires` that is not 0.
* `Ends`: what may end the session.
* `HasSession`: the address is known to be the extension's, and its messages are taken.
* `session_iff`: after an accepted REGISTER the address has a session as long as nothing ends it, iff there
  is a connection in the table at the address that learns the extension, and no new one takes its place.
* `no_session`: a UDP device is registered, and not known afterwards: every message that it sends is
  refused.
-/

namespace Minghe.Sip

open Minghe.Lib

namespace ServerState

section

variable (cfg : ServerConfig) (md5 : List UInt8 → Vector UInt8 16)

/-- The message that an event hands to `process_sip_message`. -/
def messageOf (s : ServerState) : ServerEvent → Option Register
  | .receive channel packet => (s.tasks.lookup channel).map fun addr => packet.register addr .tls
  | .datagram peer packet =>
    if cfg.udp && s.listening then some (packet.register peer .udp) else none
  | _ => none

/-- The event is a REGISTER for the extension that is answered with 200, not for 0 seconds. -/
structure Answered (s : ServerState) (event : ServerEvent) (req : Register) (extension : Str) : Prop where
  message : messageOf cfg s event = some req
  register : isRegister req.text = true
  ok : ∃ response, (s.registrar.handleRegister cfg.registrar md5 req).1 = .ok response ∧
    extractStatusCode response = some 200
  expires : ∃ expires, extractExpires req.text = .ok expires ∧ expires ≠ some 0
  extension : RegistrarService.requestedExtension req.text = .ok (some extension)

/-- A REGISTER from the address, the end of a connection there, or a round of the UDP cleanup that finds
the extension unregistered. -/
def Ends (s : ServerState) (event : ServerEvent) (addr : SocketAddr) (extension : Str) : Prop :=
  (∃ req, messageOf cfg s event = some req ∧ req.fromAddr = addr ∧ isRegister req.text = true) ∨
    (∃ channel, event = .close channel ∧ s.tasks.lookup channel = some addr) ∨
    ∃ now, event = .udpCleanup now ∧ s.registrar.isRegistered now extension = false

/-- A new connection from the address. -/
def Opens (s : ServerState) (event : ServerEvent) (addr : SocketAddr) : Prop :=
  event = .handshake addr true ∧ addr ∈ s.pendingHandshakes

end

/-- The address is known as the extension's: its messages are handled for the extension, and none is
refused as coming from an unauthenticated connection. -/
structure HasSession (s : ServerState) (addr : SocketAddr) (extension : Str) : Prop where
  bound : s.getConnectionExtension addr = some extension
  sender : s.fromExt addr = extension
  taken : ∀ (cfg : MessageConfig) text,
    cfg.checkMessage text (s.fromExt addr) ≠ .ok (.error (403, "Forbidden".toList))

variable {cfg : ServerConfig} {md5 : List UInt8 → Vector UInt8 16}

/-! ## The REGISTER -/

theorem effectOf_eq (s : ServerState) (event : ServerEvent) {addr : SocketAddr} {transport : Transport}
    {sink : ConnectionSink} {effect : RegisterEffect}
    (h : effectOf cfg md5 s event = some (addr, transport, sink, effect)) :
    ∃ req, messageOf cfg s event = some req ∧ req.fromAddr = addr ∧
      registered cfg md5 s.registrar req = some effect := by
  rcases effectOf_eq_some h with ⟨channel, packet, rfl, htask, -, -, heffect⟩ | ⟨packet, rfl, -, -, heffect⟩
  · exact ⟨_, by rw [messageOf, htask, Option.map_some], rfl, heffect⟩
  · refine ⟨_, ?_, rfl, heffect⟩
    unfold effectOf at h
    unfold messageOf
    dsimp only at h ⊢
    split at h
    · rename_i hudp
      exact if_pos hudp
    · cases h

theorem effectOf_of_message (md5 : List UInt8 → Vector UInt8 16) {s : ServerState} {event : ServerEvent}
    {req : Register}
    (h : messageOf cfg s event = some req) :
    ∃ sink, effectOf cfg md5 s event = (registered cfg md5 s.registrar req).map fun effect =>
      (req.fromAddr, req.transport, sink, effect) := by
  unfold messageOf at h
  split at h
  · rename_i channel packet
    obtain ⟨addr, htask, rfl⟩ := Option.map_eq_some_iff.mp h
    exact ⟨.stream channel, by rw [effectOf, htask]; rfl⟩
  · rename_i peer packet
    split at h
    · rename_i hudp
      cases h
      exact ⟨.udp peer, by rw [effectOf, if_pos hudp]; rfl⟩
    · cases h
  · cases h

/-- A REGISTER opens and closes no connection. -/
theorem not_opened_of_message {s : ServerState} {event : ServerEvent} {req : Register}
    (h : messageOf cfg s event = some req) :
    (∀ addr, event ≠ .handshake addr true) ∧ ∀ channel, event ≠ .close channel := by
  constructor
  · rintro addr rfl
    cases h
  · rintro channel rfl
    cases h

/-- A REGISTER that is answered binds the extension if it has a `To`. -/
theorem Answered.registered {s : ServerState} {event : ServerEvent} {req : Register} {extension : Str}
    (h : Answered cfg md5 s event req extension) :
    registered cfg md5 s.registrar req =
      if extractUriFromHeader req.text "To".toList = .ok none then none else some (.bind extension) := by
  obtain ⟨response, hresponse, hstatus⟩ := h.ok
  obtain ⟨expires, hexpires, hne⟩ := h.expires
  have hrequested := h.extension
  unfold RegistrarService.requestedExtension at hrequested
  obtain ⟨uri?, hto, hrequested⟩ := Res.bind_eq_ok.mp hrequested
  have heffect : registerEffect response req.text =
      if extractUriFromHeader req.text "To".toList = .ok none then .ok none
      else .ok (some (.bind extension)) := by
    unfold registerEffect
    rw [if_pos hstatus, hto]
    cases uri? with
    | none => rfl
    | some uri =>
      change extractExtension uri = .ok (some extension) at hrequested
      rw [if_neg (by simp)]
      change (extractExtension uri >>= _) = _
      rw [hrequested]
      change (extractExpires req.text >>= _) = _
      rw [hexpires]
      exact if_neg hne
  unfold ServerState.registered
  rw [if_pos h.register, hresponse]
  change (match registerEffect response req.text with | .ok effect => effect | .error _ => none) = _
  rw [heffect]
  by_cases hto : extractUriFromHeader req.text "To".toList = .ok none
  · rw [if_pos hto, if_pos hto]
  · rw [if_neg hto, if_neg hto]

/-- A registered extension is a number, so it is not empty. -/
theorem Answered.ne_nil {s : ServerState} {event : ServerEvent} {req : Register} {extension : Str}
    (h : Answered cfg md5 s event req extension) : extension ≠ [] := by
  obtain ⟨response, hresponse, hstatus⟩ := h.ok
  obtain ⟨expires, hexpires, hne⟩ := h.expires
  obtain ⟨extension', params, entry, reg, hrequested, -, hacc⟩ :=
    RegistrarService.accepted_of_ok hresponse hstatus (by rw [hexpires]; exact fun he => hne (Except.ok.inj he))
  rw [h.extension] at hrequested
  cases hrequested
  obtain ⟨n, hparse, -⟩ := hacc.in_range
  rintro rfl
  cases hparse

/-- **After the REGISTER** the address has the extension iff there is a connection, and the REGISTER has a
`To` or the connection has the extension already. -/
theorem Answered.extension_iff {s : ServerState} (hwired : Wired s) {event : ServerEvent} {req : Register}
    {extension : Str} (h : Answered cfg md5 s event req extension) :
    (s.step cfg md5 event).getConnectionExtension req.fromAddr = some extension ↔
      ∃ c, s.connections.lookup req.fromAddr = some c ∧
        (extractUriFromHeader req.text "To".toList ≠ .ok none ∨ c.extension = some extension) := by
  obtain ⟨sink, heffect⟩ := effectOf_of_message md5 h.message
  rw [h.registered] at heffect
  unfold getConnectionExtension
  by_cases hto : extractUriFromHeader req.text "To".toList = .ok none
  · rw [if_pos hto] at heffect
    have hstay : (s.step cfg md5 event).connections = s.connections := by
      obtain ⟨hhandshake, hclose⟩ := not_opened_of_message h.message
      cases tableStep cfg md5 hwired event with
      | stay connections => exact connections
      | opened addr hevent => exact absurd hevent (hhandshake addr)
      | closed channel addr hevent => exact absurd hevent (hclose channel)
      | registered addr transport sink effect hsome =>
        rw [heffect] at hsome
        cases hsome
    rw [hstay, Option.bind_eq_some_iff]
    refine exists_congr fun c => and_congr_right fun _ => ?_
    exact ⟨.inr, fun hc => hc.resolve_left (not_not_intro hto)⟩
  · rw [if_neg hto] at heffect
    rw [(step_effect hwired heffect).1, connections_bind, lookup_setConnectionExtension, if_pos rfl,
      Option.bind_map, Option.bind_eq_some_iff]
    exact exists_congr fun c => and_congr_right fun _ => ⟨fun _ => .inl hto, fun _ => rfl⟩

/-! ## After the REGISTER -/

/-- Only what ends a session, or a new connection, changes the extension of an address. -/
theorem getConnectionExtension_step {s : ServerState} (hwired : Wired s) {event : ServerEvent}
    {addr : SocketAddr} {extension : Str} (hends : ¬ Ends cfg s event addr extension)
    (hopens : ¬ Opens s event addr) :
    (s.step cfg md5 event).getConnectionExtension addr = s.getConnectionExtension addr := by
  unfold getConnectionExtension
  cases tableStep cfg md5 hwired event with
  | stay connections => rw [connections]
  | opened addr' hevent pending connections =>
    have hne : addr ≠ addr' := by
      rintro rfl
      exact hopens ⟨hevent, pending⟩
    rw [connections, Table.lookup_insert_eq, if_neg hne]
  | closed channel addr' hevent task connections =>
    have hne : addr ≠ addr' := by
      rintro rfl
      exact hends (.inr (.inl ⟨channel, hevent, task⟩))
    rw [connections, Table.lookup_erase_eq, if_neg hne]
  | registered addr' transport sink effect heffect connections =>
    obtain ⟨req, hmessage, haddr, hregistered⟩ := effectOf_eq s event heffect
    have hne : addr ≠ addr' := by
      rintro rfl
      refine hends (.inl ⟨req, hmessage, haddr, ?_⟩)
      unfold ServerState.registered at hregistered
      split at hregistered
      · rename_i hregister
        exact hregister
      · cases hregistered
    rw [connections]
    cases effect with
    | bind extension' => rw [connections_bind, lookup_setConnectionExtension, if_neg hne]
    | unbind extension' =>
      exact congrArg (fun c => Option.bind c fun c => c.extension)
        ((lookup_clearConnectionExtension s addr' addr).trans (if_neg hne))

/-- A new connection has no extension. -/
theorem getConnectionExtension_opens {s : ServerState} {event : ServerEvent} {addr : SocketAddr}
    (h : Opens s event addr) : (s.step cfg md5 event).getConnectionExtension addr = none := by
  obtain ⟨rfl, hpending⟩ := h
  change (s.handshake addr true).getConnectionExtension addr = none
  unfold handshake getConnectionExtension
  rw [if_pos hpending]
  change ((s.connections.insert addr _).lookup addr).bind _ = none
  rw [AList.lookup_insert]
  rfl

theorem HasSession.of_extension {s : ServerState} {addr : SocketAddr} {extension : Str}
    (h : s.getConnectionExtension addr = some extension) (hne : extension ≠ []) :
    HasSession s addr extension := by
  have hsender : s.fromExt addr = extension := by rw [fromExt, h, Option.getD_some]
  refine ⟨h, hsender, fun cfg text hrefused => ?_⟩
  have hempty := (MessageConfig.checkMessage_refused hrefused).2 rfl
  rw [hsender, List.isEmpty_iff] at hempty
  exact hne hempty

/-- **When an endpoint has a session.** A REGISTER for an extension is answered with 200, and what follows
does not end the session. Then the address has the session all the time iff there is a connection in the
table at the address, the REGISTER has a `To` or the connection has the extension already, and no new
connection from the address takes its place. -/
theorem session_iff (cfg : ServerConfig) (md5 : List UInt8 → Vector UInt8 16)
    (before later : List ServerEvent) (event : ServerEvent) (req : Register) (extension : Str)
    (hanswered : Answered cfg md5 (run cfg md5 before) event req extension)
    (hlater : ∀ during next, during ++ [next] <+: later →
      ¬ Ends cfg (run cfg md5 (before ++ event :: during)) next req.fromAddr extension) :
    (∀ during, during <+: later →
      HasSession (run cfg md5 (before ++ event :: during)) req.fromAddr extension) ↔
    (∃ c, (run cfg md5 before).connections.lookup req.fromAddr = some c ∧
        (extractUriFromHeader req.text "To".toList ≠ .ok none ∨ c.extension = some extension)) ∧
      ∀ during next, during ++ [next] <+: later →
        ¬ Opens (run cfg md5 (before ++ event :: during)) next req.fromAddr := by
  have hnext : ∀ during next, run cfg md5 (before ++ event :: (during ++ [next])) =
      (run cfg md5 (before ++ event :: during)).step cfg md5 next := by
    intro during next
    rw [← run_append, List.append_assoc, List.cons_append]
  have hfirst := hanswered.extension_iff (run_wired cfg md5 before)
  rw [← run_append] at hfirst
  constructor
  · intro h
    refine ⟨hfirst.mp (h [] List.nil_prefix).bound, fun during next hprefix hopens => ?_⟩
    have hnone := (h _ hprefix).bound
    rw [hnext, getConnectionExtension_opens hopens] at hnone
    cases hnone
  · rintro ⟨hentry, hopens⟩ during hprefix
    refine .of_extension ?_ hanswered.ne_nil
    induction during using List.reverseRecOn with
    | nil => exact hfirst.mpr hentry
    | append_singleton during next ih =>
      rw [hnext, getConnectionExtension_step (run_wired cfg md5 _) (hlater during next hprefix)
        (hopens during next hprefix)]
      exact ih ((List.prefix_append _ _).trans hprefix)

/-- What is read off the REGISTER of the device. -/
theorem deviceAnswer_reads :
    isRegister deviceAnswer.text = true ∧ extractExpires deviceAnswer.text = .ok (some 300) ∧
      RegistrarService.requestedExtension deviceAnswer.text = .ok (some "1001".toList) ∧
      extractUriFromHeader deviceAnswer.text "To".toList ≠ .ok none := by
  decide +kernel

theorem ok_of_status {response? : Checked Str} {status : Nat}
    (h : response?.toOption.bind extractStatusCode = some status) :
    ∃ response, response? = .ok response ∧ extractStatusCode response = some status := by
  cases response? with
  | error e => cases h
  | ok response => exact ⟨response, rfl, h⟩

/-- The device registers over its connection. The session lasts, whatever the other connections do. -/
theorem session_iff_concrete :
    let before := [.accept (deviceAddr 5060), .handshake (deviceAddr 5060) true,
      .receive 0 (devicePacket [])]
    let event := .receive 0 deviceAnswer
    (run deviceConfig deviceMd5 before).tasks.lookup 0 = some (deviceAddr 5060) ∧
      ∀ during, during <+: [.accept (deviceAddr 5062)] →
        HasSession (run deviceConfig deviceMd5 (before ++ event :: during)) (deviceAddr 5060)
          "1001".toList := by
  intro before event
  obtain ⟨htask, hentry, hstatus⟩ :
      (run deviceConfig deviceMd5 before).tasks.lookup 0 = some (deviceAddr 5060) ∧
      (run deviceConfig deviceMd5 before).connections.lookup (deviceAddr 5060) =
        some ⟨none, .stream 0⟩ ∧
      ((run deviceConfig deviceMd5 before).registrar.handleRegister deviceConfig.registrar deviceMd5
        (deviceAnswer.register (deviceAddr 5060) .tls)).1.toOption.bind extractStatusCode = some 200 := by
    decide +kernel
  obtain ⟨hregister, hexpires, hextension, hto⟩ := deviceAnswer_reads
  have hanswered : Answered deviceConfig deviceMd5 (run deviceConfig deviceMd5 before) event
      (deviceAnswer.register (deviceAddr 5060) .tls) "1001".toList :=
    ⟨by rw [messageOf, htask, Option.map_some], hregister, ok_of_status hstatus,
      ⟨some 300, hexpires, by decide⟩, hextension⟩
  -- the one event that follows
  have hnext : ∀ during next, during ++ [next] <+: [ServerEvent.accept (deviceAddr 5062)] →
      next = .accept (deviceAddr 5062) := by
    intro during next h
    have hmem := h.subset (List.mem_append_right during (List.mem_singleton_self next))
    exact List.mem_singleton.mp hmem
  refine ⟨htask, (session_iff deviceConfig deviceMd5 before [.accept (deviceAddr 5062)] event _ _
    hanswered fun during next h => ?_).mpr ⟨⟨_, hentry, .inl hto⟩, fun during next h hopens => ?_⟩⟩
  · rw [hnext during next h]
    rintro (⟨req, hmessage, -⟩ | ⟨channel, hclose, -⟩ | ⟨now, hcleanup, -⟩)
    · cases hmessage
    · cases hclose
    · cases hcleanup
  · rw [hnext during next h] at hopens
    cases hopens.1

/-- A UDP device is registered, and is not known afterwards: every message that it sends is refused. -/
theorem no_session :
    let addr := deviceAddr 5060
    let s := run deviceConfig deviceMd5 [.datagram addr (devicePacket [])]
    let event := .datagram addr deviceAnswer
    Answered deviceConfig deviceMd5 s event (deviceAnswer.register addr .udp) "1001".toList ∧
      (s.step deviceConfig deviceMd5 event).getConnectionExtension addr = none ∧
      ∀ (cfg : MessageConfig) text,
        cfg.checkMessage text ((s.step deviceConfig deviceMd5 event).fromExt addr) =
          .ok (.error (403, "Forbidden".toList)) := by
  intro addr s event
  obtain ⟨hlistening, hstatus, hnone⟩ : s.listening = true ∧
      (s.registrar.handleRegister deviceConfig.registrar deviceMd5
        (deviceAnswer.register addr .udp)).1.toOption.bind extractStatusCode = some 200 ∧
      (s.step deviceConfig deviceMd5 event).getConnectionExtension addr = none := by
    decide +kernel
  obtain ⟨hregister, hexpires, hextension, -⟩ := deviceAnswer_reads
  refine ⟨⟨?_, hregister, ok_of_status hstatus, ⟨some 300, hexpires, by decide⟩, hextension⟩, hnone,
    fun cfg text => ?_⟩
  · change (if s.listening then some (deviceAnswer.register addr .udp) else none) = _
    exact if_pos hlistening
  · rw [fromExt, hnone]
    rfl

end ServerState

end Minghe.Sip
