import Minghe.Sip.Connections

/-!
# How a connection comes by its extension

The server trusts the extension of a connection: BYE and MESSAGE act for it. A REGISTER sets it in the
table, and the key of the table is the address of the peer. TCP and UDP ports are numbered alike, and a
task may still read from an old connection when its peer has a new one, so that a REGISTER may find an
entry that is not of the connection it came on.

* `EarnedOn`: an accepted REGISTER for the extension came on the connection.
* `IdentityEarned`: that is how the connections in the table came by their extensions.
* `identity_earned_iff`: in every state of a run every connection has earned its extension, iff every
  REGISTER that is accepted and finds a connection at its address came on it or is for an extension that
  the connection had earned.
* `identity_lent`: a REGISTER over UDP lends its extension to a TLS connection from the same port.
-/

namespace Minghe.Sip

open Minghe.Lib

namespace ServerState

section

variable (cfg : ServerConfig) (md5 : List UInt8 → Vector UInt8 16)

/-- In a run, the connection at an address with channel `n` sent a REGISTER that was answered with 200,
with an `Expires` that is not 0: it was checked against the password of the extension, and registered
it. -/
def EarnedOn (events : List ServerEvent) (addr : SocketAddr) (n : Nat) (extension : Str) : Prop :=
  ∃ before packet after, events = before ++ .receive n packet :: after ∧
    let s := run cfg md5 before
    let req := packet.register addr .tls
    s.tasks.lookup n = some addr ∧
    (∃ c, s.connections.lookup addr = some c ∧ c.sink = .stream n) ∧
    ∃ response params entry reg, (s.registrar.handleRegister cfg.registrar md5 req).1 = .ok response ∧
      extractStatusCode response = some 200 ∧ extractExpires req.text ≠ .ok (some 0) ∧
      (s.registrar.handleRegister cfg.registrar md5 req).2.registrations.lookup extension = some reg ∧
      s.registrar.Accepted cfg.registrar md5 req extension params entry reg

/-- Every connection in the table earned the extension that it has there. -/
def IdentityEarned (events : List ServerEvent) : Prop :=
  ∀ addr c extension, (run cfg md5 events).connections.lookup addr = some c →
    c.extension = some extension → ∃ n, c.sink = .stream n ∧ EarnedOn cfg md5 events addr n extension

/-- A REGISTER that finds a connection at its address came on it, or the connection had earned the
extension before. -/
def FindsItsOwn (done : List ServerEvent) (event : ServerEvent) : Prop :=
  ∀ addr transport sink extension c,
    effectOf cfg md5 (run cfg md5 done) event = some (addr, transport, sink, .bind extension) →
    (run cfg md5 done).connections.lookup addr = some c →
    c.sink = sink ∨ ∃ n, c.sink = .stream n ∧ EarnedOn cfg md5 done addr n extension

end

variable {cfg : ServerConfig} {md5 : List UInt8 → Vector UInt8 16}

theorem EarnedOn.append {done : List ServerEvent} {addr : SocketAddr} {n : Nat} {extension : Str}
    (h : EarnedOn cfg md5 done addr n extension) (event : ServerEvent) :
    EarnedOn cfg md5 (done ++ [event]) addr n extension := by
  obtain ⟨before, packet, after, rfl, hrest⟩ := h
  exact ⟨before, packet, after ++ [event], by simp, hrest⟩

/-- The last event of a run, or an earlier one. -/
theorem EarnedOn.of_append {done : List ServerEvent} {event : ServerEvent} {addr : SocketAddr} {n : Nat}
    {extension : Str} (h : EarnedOn cfg md5 (done ++ [event]) addr n extension) :
    EarnedOn cfg md5 done addr n extension ∨ ∃ packet, event = .receive n packet := by
  obtain ⟨before, packet, after, heq, hrest⟩ := h
  rcases List.eq_nil_or_concat after with rfl | ⟨after, last, rfl⟩
  · obtain ⟨-, hlast⟩ := List.append_inj' heq rfl
    exact .inr ⟨packet, (List.singleton_inj.mp hlast)⟩
  · rw [List.concat_eq_append, ← List.cons_append, ← List.append_assoc] at heq
    obtain ⟨hdone, -⟩ := List.append_inj' heq rfl
    exact .inl ⟨before, packet, after, hdone, hrest⟩

/-- A REGISTER that came on the connection it finds. -/
theorem earnedOn_bind {done : List ServerEvent} {event : ServerEvent} {addr : SocketAddr}
    {transport : Transport} {extension : Str} {c : ConnectionState} {n : Nat}
    (h : effectOf cfg md5 (run cfg md5 done) event = some (addr, transport, .stream n, .bind extension))
    (hl : (run cfg md5 done).connections.lookup addr = some c) (hsink : c.sink = .stream n) :
    EarnedOn cfg md5 (done ++ [event]) addr n extension := by
  rcases effectOf_eq_some h with ⟨channel, packet, rfl, htask, -, hchannel, hregistered⟩ | ⟨_, _, _, hs, _⟩
  · cases hchannel
    exact ⟨done, packet, [], rfl, htask, ⟨c, hl, hsink⟩, registered_eq_bind hregistered⟩
  · cases hs

/-- **Enough**: one event. -/
theorem IdentityEarned.step {done : List ServerEvent} (h : IdentityEarned cfg md5 done)
    {event : ServerEvent} (hown : FindsItsOwn cfg md5 done event) :
    IdentityEarned cfg md5 (done ++ [event]) := by
  intro addr c extension hl hc
  have hold : (run cfg md5 done).connections.lookup addr = some c →
      ∃ n, c.sink = .stream n ∧ EarnedOn cfg md5 (done ++ [event]) addr n extension := by
    intro hl
    obtain ⟨n, hsink, hearned⟩ := h addr c extension hl hc
    exact ⟨n, hsink, hearned.append event⟩
  rw [run_append] at hl
  cases tableStep cfg md5 (run_wired cfg md5 done) event with
  | stay connections writers tasks next idle => exact hold (connections ▸ hl)
  | opened addr' hevent pending connections writers tasks next =>
    rw [connections, Table.lookup_insert_eq] at hl
    split at hl
    · cases hl
      cases hc
    · exact hold hl
  | closed channel addr' hevent task connections writers tasks next =>
    rw [connections, Table.lookup_erase_eq] at hl
    split at hl
    · cases hl
    · exact hold hl
  | registered addr' transport sink effect heffect connections writers tasks next =>
    rw [connections] at hl
    cases effect with
    | bind extension' =>
      rw [connections_bind, lookup_setConnectionExtension] at hl
      split at hl
      · rename_i he
        subst he
        obtain ⟨c₀, hl₀, rfl⟩ := Option.map_eq_some_iff.mp hl
        cases hc
        rcases hown addr transport sink extension c₀ heffect hl₀ with hsink | ⟨n, hsink, hearned⟩
        · obtain ⟨n, hn, -⟩ := (run_wired cfg md5 done).stream addr c₀ hl₀
          rw [← hsink, hn] at heffect
          exact ⟨n, hn, earnedOn_bind heffect hl₀ hn⟩
        · exact ⟨n, hsink, hearned.append event⟩
      · exact hold hl
    | unbind extension' =>
      have hl := (lookup_clearConnectionExtension _ addr' addr).symm.trans hl
      split at hl
      · obtain ⟨c₀, -, rfl⟩ := Option.map_eq_some_iff.mp hl
        cases hc
      · exact hold hl

/-- **Necessary**: a REGISTER that binds an extension which is earned then. -/
theorem findsItsOwn_of_earned {done : List ServerEvent} {event : ServerEvent}
    (h : IdentityEarned cfg md5 (done ++ [event])) : FindsItsOwn cfg md5 done event := by
  intro addr transport sink extension c heffect hl
  -- the entry after the event
  have hafter : (run cfg md5 (done ++ [event])).connections.lookup addr =
      some { c with extension := some extension } := by
    rw [run_append, (step_effect (run_wired cfg md5 done) heffect).1, connections_bind,
      lookup_setConnectionExtension, if_pos rfl, hl]
    rfl
  obtain ⟨n, hsink, hearned⟩ := h addr _ extension hafter rfl
  rcases hearned.of_append with hbefore | ⟨packet, rfl⟩
  · exact .inr ⟨n, hsink, hbefore⟩
  · rcases effectOf_eq_some heffect with ⟨channel, packet', hreceive, -, -, rfl, -⟩ | ⟨_, hdatagram, _⟩
    · cases hreceive
      exact .inl hsink
    · cases hdatagram

/-- **When identity is earned.** In every state that a run of the server reaches every connection has
earned its extension, iff every REGISTER that is accepted and finds a connection at its address came on
it, or is for an extension that the connection had earned. -/
theorem identity_earned_iff (cfg : ServerConfig) (md5 : List UInt8 → Vector UInt8 16)
    (events : List ServerEvent) :
    (∀ done, done <+: events → IdentityEarned cfg md5 done) ↔
      ∀ done event, done ++ [event] <+: events → FindsItsOwn cfg md5 done event := by
  constructor
  · intro h done event hdone
    exact findsItsOwn_of_earned (h _ hdone)
  · intro h done hdone
    induction done using List.reverseRecOn with
    | nil => exact nofun
    | append_singleton done event ih =>
      exact (ih ((List.prefix_append _ _).trans hdone)).step (h done event hdone)

/-- A device that is connected and has sent nothing over its connection registers over UDP, from the
same port: the connection is the one of 1001. -/
theorem identity_lent :
    let events := [.accept (deviceAddr 5060), .handshake (deviceAddr 5060) true,
      .datagram (deviceAddr 5060) (devicePacket []), .datagram (deviceAddr 5060) deviceAnswer]
    (run deviceConfig deviceMd5 events).connections.lookup (deviceAddr 5060) =
        some ⟨some "1001".toList, .stream 0⟩ ∧
      ¬ IdentityEarned deviceConfig deviceMd5 events := by
  intro events
  have hentry : (run deviceConfig deviceMd5 events).connections.lookup (deviceAddr 5060) =
      some ⟨some "1001".toList, .stream 0⟩ := by decide +kernel
  refine ⟨hentry, fun h => ?_⟩
  obtain ⟨n, -, before, packet, after, heq, -⟩ := h _ _ _ hentry rfl
  have hmem : .receive n packet ∈ events := heq ▸ List.mem_append_right before List.mem_cons_self
  simp [events] at hmem

end ServerState

end Minghe.Sip
