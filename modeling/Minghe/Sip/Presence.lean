import Minghe.Sip.Connections

/-!
# Writers that lead nowhere

The router sends to an extension through its entry in `connection_writers`. The server keeps this table
beside the one of the connections: a REGISTER over TLS writes the writer and the connection's
extension, a de-REGISTER and the end of a connection take them away. A connection has one extension and
an extension one writer, so when a connection ceases to be the one of its extension, the writer has to
be looked at. The end of a connection only asks whether the extension has any other connection, and a
REGISTER for another extension does not ask at all.

* `NoDeadWriter`: the writer of an extension is the sink of a connection of that extension.
* `Releasable`: no writer is lost when a connection gives up its extension.
* `KeepsWriters` says for every event what must hold before it.
* `no_dead_writer_iff`: in every state of a run every writer is the sink of a connection of its extension,
  iff `KeepsWriters` holds before every event.
* `dead_writer`: two connections register 1001, and the second one closes: its channel is still the writer.
-/

namespace Minghe.Sip

open Minghe.Lib

namespace ServerState

/-- The writer of an extension, if it is the channel of a TLS connection, is the sink of a connection
that is there and that is the extension's. -/
def NoDeadWriter (s : ServerState) : Prop :=
  ∀ extension n, s.connectionWriters.lookup extension = some (.stream n) →
    ∃ addr, s.connections.lookup addr = some ⟨some extension, .stream n⟩

/-- The connection at an address is not the one that the writer of its extension leads to, unless the
extension is `kept`. -/
def Releasable (s : ServerState) (addr : SocketAddr) (kept : Option Str) : Prop :=
  ∀ c extension, s.connections.lookup addr = some c → c.extension = some extension →
    some extension ≠ kept → s.connectionWriters.lookup extension ≠ some c.sink

section

variable (cfg : ServerConfig) (md5 : List UInt8 → Vector UInt8 16)

/-- The state before an event that leaves no dead writer.

* A connection that is opened does not take the place of one that a writer leads to.
* A connection that is closed while its extension has another one is not the one its writer leads to.
* A REGISTER comes over the connection that is at its address, if it comes over TLS, and this
  connection is not the one that the writer of some other extension leads to.
* The same holds for a de-REGISTER. -/
structure KeepsWriters (s : ServerState) (event : ServerEvent) : Prop where
  opened : ∀ addr, event = .handshake addr true → addr ∈ s.pendingHandshakes → s.Releasable addr none
  closed : ∀ channel addr c extension, event = .close channel → s.tasks.lookup channel = some addr →
    s.connections.lookup addr = some c → c.extension = some extension →
    (∃ addr' c', addr' ≠ addr ∧ s.connections.lookup addr' = some c' ∧ c'.extension = some extension) →
    s.connectionWriters.lookup extension ≠ some c.sink
  bound : ∀ addr transport sink extension,
    effectOf cfg md5 s event = some (addr, transport, sink, .bind extension) →
    s.Releasable addr (some extension) ∧
      (transport = .tls → ∃ c, s.connections.lookup addr = some c ∧ c.sink = sink)
  unbound : ∀ addr transport sink extension,
    effectOf cfg md5 s event = some (addr, transport, sink, .unbind extension) →
    s.Releasable addr (some extension)

end

variable {cfg : ServerConfig} {md5 : List UInt8 → Vector UInt8 16}

/-- The entries at other addresses are what they were. -/
theorem NoDeadWriter.of_ne {s : ServerState} (h : NoDeadWriter s) {addr : SocketAddr} {kept : Option Str}
    (hrelease : s.Releasable addr kept) {extension : Str} {n : Nat}
    (hwriter : s.connectionWriters.lookup extension = some (.stream n)) (hne : some extension ≠ kept) :
    ∃ addr', addr' ≠ addr ∧ s.connections.lookup addr' = some ⟨some extension, .stream n⟩ := by
  obtain ⟨addr', hl⟩ := h extension n hwriter
  refine ⟨addr', ?_, hl⟩
  rintro rfl
  exact hrelease _ extension hl rfl hne hwriter

theorem lookup_writersAfterClose {connections : Table SocketAddr ConnectionState}
    {extension? : Option Str} {writers : Table Str ConnectionSink} {extension : Str}
    {sink : ConnectionSink}
    (h : (writersAfterClose connections extension? writers).lookup extension = some sink) :
    writers.lookup extension = some sink ∧ (extension? = some extension →
      ∃ addr c, connections.lookup addr = some c ∧ c.extension = some extension) := by
  unfold writersAfterClose at h
  split at h
  · rename_i extension'
    split at h
    · rename_i hother
      refine ⟨h, ?_⟩
      rintro ⟨⟩
      exact (hasConnectionForExtension_iff _ _).mp hother
    · rw [Table.lookup_erase_eq] at h
      split at h
      · cases h
      · rename_i hne
        refine ⟨h, ?_⟩
        rintro ⟨⟩
        exact absurd rfl hne
  · exact ⟨h, nofun⟩

/-- **Enough**: the condition keeps the writers alive. -/
theorem NoDeadWriter.step {s : ServerState} (hwired : Wired s) (h : NoDeadWriter s) {event : ServerEvent}
    (hkeeps : KeepsWriters cfg md5 s event) : NoDeadWriter (s.step cfg md5 event) := by
  intro extension n hwriter
  cases tableStep cfg md5 hwired event with
  | stay connections writers tasks next idle =>
    rw [writers] at hwriter
    rw [connections]
    exact h extension n hwriter
  | opened addr hevent pending connections writers tasks next =>
    rw [writers] at hwriter
    obtain ⟨addr', hne, hl⟩ := h.of_ne (hkeeps.opened addr hevent pending) hwriter nofun
    exact ⟨addr', by rw [connections, Table.lookup_insert_eq, if_neg hne, hl]⟩
  | closed channel addr hevent task connections writers tasks next =>
    rw [writers] at hwriter
    obtain ⟨hbefore, hother⟩ := lookup_writersAfterClose hwriter
    obtain ⟨addr', hl⟩ := h extension n hbefore
    refine ⟨addr', ?_⟩
    rw [connections, Table.lookup_erase_eq, if_neg, hl]
    rintro rfl
    -- the connection that is closed: there is another one, and the writer leads to that
    obtain ⟨addr', c', hl', hc'⟩ := hother (by rw [getConnectionExtension, hl]; rfl)
    rw [connections, Table.lookup_erase_eq] at hl'
    split at hl'
    · cases hl'
    · rename_i hne
      exact hkeeps.closed channel _ _ extension hevent task hl rfl ⟨addr', c', hne, hl', hc'⟩ hbefore
  | registered addr transport sink effect heffect connections writers tasks next =>
    rw [writers] at hwriter
    rw [connections]
    cases effect with
    | bind extension' =>
      obtain ⟨hrelease, htls⟩ := hkeeps.bound addr transport sink extension' heffect
      have hold : s.connectionWriters.lookup extension = some (.stream n) → extension ≠ extension' →
          ∃ addr', (s.setConnectionExtension addr extension').connections.lookup addr' =
            some ⟨some extension, .stream n⟩ := by
        intro hwriter hne
        obtain ⟨addr', hne', hl⟩ := h.of_ne hrelease hwriter (fun he => hne (Option.some.inj he))
        exact ⟨addr', by rw [lookup_setConnectionExtension, if_neg hne', hl]⟩
      rw [writers_bind] at hwriter
      rw [connections_bind]
      split at hwriter
      · rename_i htransport
        rw [Table.lookup_insert_eq] at hwriter
        split at hwriter
        · rename_i he
          obtain ⟨c, hl, hsink⟩ := htls htransport
          refine ⟨addr, ?_⟩
          rw [lookup_setConnectionExtension, if_pos rfl, hl, he, Option.map_some, hsink,
            Option.some.inj hwriter]
        · rename_i hne
          exact hold hwriter hne
      · by_cases hne : extension = extension'
        · subst hne
          obtain ⟨addr', hl⟩ := h extension n hwriter
          refine ⟨addr', ?_⟩
          rw [lookup_setConnectionExtension]
          split
          · rename_i he
            rw [← he, hl]
            rfl
          · exact hl
        · exact hold hwriter hne
    | unbind extension' =>
      have hrelease := hkeeps.unbound addr transport sink extension' heffect
      change (s.connectionWriters.erase extension').lookup extension = _ at hwriter
      rw [Table.lookup_erase_eq] at hwriter
      split at hwriter
      · cases hwriter
      · rename_i hne
        obtain ⟨addr', hne', hl⟩ := h.of_ne hrelease hwriter (fun he => hne (Option.some.inj he))
        refine ⟨addr', ?_⟩
        change (s.clearConnectionExtension addr).connections.lookup addr' = _
        rw [lookup_clearConnectionExtension, if_neg hne', hl]

/-- The only connection with a sink, and it is not the extension's any more. -/
theorem not_of_unique {s s' : ServerState} (hwired : Wired s) (hafter : NoDeadWriter s')
    {addr : SocketAddr} {c : ConnectionState} {extension : Str}
    (hl : s.connections.lookup addr = some c)
    (hsinks : ∀ addr' c', s'.connections.lookup addr' = some c' →
      ∃ c₀, s.connections.lookup addr' = some c₀ ∧ (c₀.sink = c'.sink ∨ c'.sink ≠ c.sink))
    (hgone : ∀ c', s'.connections.lookup addr = some c' → c'.sink = c.sink →
      c'.extension ≠ some extension) :
    s'.connectionWriters.lookup extension ≠ some c.sink := by
  intro hwriter
  obtain ⟨n, hsink, -⟩ := hwired.stream addr c hl
  rw [hsink] at hwriter
  obtain ⟨addr', hl'⟩ := hafter extension n hwriter
  obtain ⟨c₀, hl₀, heq | hne⟩ := hsinks addr' _ hl'
  · have he := hwired.unique addr' addr c₀ c hl₀ hl (heq.trans hsink.symm)
    subst he
    exact hgone _ hl' hsink.symm rfl
  · exact hne hsink.symm

/-- A REGISTER or de-REGISTER that takes the connection at its address away from another extension. -/
theorem releasable_of_effect {s : ServerState} (hwired : Wired s) {event : ServerEvent}
    (hafter : NoDeadWriter (s.step cfg md5 event)) {addr : SocketAddr} {transport : Transport}
    {sink : ConnectionSink} {effect : RegisterEffect} {extension : Str}
    (heffect : effectOf cfg md5 s event = some (addr, transport, sink, effect))
    (hwriters : ∀ old, old ≠ extension →
      (applyEffect addr transport sink effect s).connectionWriters.lookup old =
        s.connectionWriters.lookup old)
    (hbound : ∀ c, (applyEffect addr transport sink effect s).connections.lookup addr = some c →
      ∀ old, c.extension = some old → old = extension) :
    s.Releasable addr (some extension) := by
  intro c old hl hc hkept
  have hne : old ≠ extension := fun he => hkept (congrArg some he)
  obtain ⟨hconnections, hwriters'⟩ := step_effect hwired heffect
  rw [← hwriters old hne, ← hwriters']
  refine not_of_unique hwired hafter hl (fun addr' c' hl' => ?_) fun c' hl' hsink hold => ?_
  · rw [hconnections] at hl'
    obtain ⟨c₀, hl₀, heq⟩ := sink_applyEffect hl'
    exact ⟨c₀, hl₀, .inl heq⟩
  · rw [hconnections] at hl'
    exact hne (hbound c' hl' old hold)

/-- **Necessary**: an event that leaves no dead writer meets the condition. -/
theorem keepsWriters_of_step {s : ServerState} (hwired : Wired s) {event : ServerEvent}
    (hafter : NoDeadWriter (s.step cfg md5 event)) : KeepsWriters cfg md5 s event where
  opened addr hevent hpending c extension hl hc hkept := by
    cases tableStep cfg md5 hwired event with
    | stay connections writers tasks next idle => exact absurd hpending (idle.opens addr hevent)
    | opened addr' hevent' pending connections writers tasks next =>
      rw [hevent] at hevent'
      cases hevent'
      rw [← writers]
      refine not_of_unique hwired hafter hl (fun addr' c' hl' => ?_) fun c' hl' hsink => ?_
      · rw [connections, Table.lookup_insert_eq] at hl'
        split at hl'
        · rename_i he
          cases hl'
          refine ⟨c, he ▸ hl, .inr fun hsink => ?_⟩
          obtain ⟨n, hn, hlt⟩ := hwired.stream addr c hl
          rw [hn, ConnectionSink.stream.injEq] at hsink
          omega
        · exact ⟨c', hl', .inl rfl⟩
      · rw [connections, AList.lookup_insert] at hl'
        cases hl'
        nofun
    | closed channel addr' hevent' =>
      rw [hevent] at hevent'
      cases hevent'
    | registered addr' transport sink effect heffect =>
      rw [hevent] at heffect
      cases heffect
  closed channel addr c extension hevent htask hl hc hother := by
    cases tableStep cfg md5 hwired event with
    | stay connections writers tasks next idle =>
      rw [idle.closes channel hevent] at htask
      cases htask
    | opened addr' hevent' =>
      rw [hevent] at hevent'
      cases hevent'
    | closed channel' addr' hevent' task connections writers tasks next =>
      rw [hevent] at hevent'
      cases hevent'
      rw [htask] at task
      cases task
      -- another connection of the extension is there, so its writer stays
      have hstays : (s.step cfg md5 event).connectionWriters = s.connectionWriters := by
        obtain ⟨addr', c', hne, hl', hc'⟩ := hother
        have hhas : hasConnectionForExtension extension
            { connections := (s.step cfg md5 event).connections } = true :=
          (hasConnectionForExtension_iff _ _).mpr
            ⟨addr', c', by rw [connections, Table.lookup_erase_eq, if_neg hne, hl'], hc'⟩
        rw [writers, getConnectionExtension, hl, Option.bind_some, hc, writersAfterClose, if_pos hhas]
      rw [← hstays]
      refine not_of_unique hwired hafter hl (fun addr' c' hl' => ?_) fun c' hl' => ?_
      · rw [connections] at hl'
        rw [Table.lookup_erase_eq] at hl'
        split at hl'
        · cases hl'
        · exact ⟨c', hl', .inl rfl⟩
      · rw [connections, AList.lookup_erase] at hl'
        cases hl'
    | registered addr' transport sink effect heffect =>
      rw [hevent] at heffect
      cases heffect
  bound addr transport sink extension heffect := by
    refine ⟨releasable_of_effect hwired hafter heffect (fun old hne => ?_) fun c hl old hold => ?_,
      fun htls => ?_⟩
    · rw [writers_bind]
      split
      · rw [Table.lookup_insert_eq, if_neg hne]
      · rfl
    · rw [connections_bind, lookup_setConnectionExtension, if_pos rfl] at hl
      obtain ⟨c₀, -, rfl⟩ := Option.map_eq_some_iff.mp hl
      exact (Option.some.inj hold).symm
    · obtain ⟨hconnections, hwriters⟩ := step_effect hwired heffect
      rcases effectOf_eq_some heffect with ⟨channel, packet, -, htask, -, rfl, -⟩ | ⟨packet, -, rfl, -⟩
      · -- the new writer leads to a connection with the channel, which is the one at the address
        obtain ⟨addr', hl⟩ := hafter extension channel (by
          rw [hwriters, writers_bind, if_pos htls, AList.lookup_insert])
        rw [hconnections] at hl
        obtain ⟨c, hl', hsink⟩ := sink_applyEffect hl
        cases hwired.task channel addr addr' c htask hl' hsink
        exact ⟨c, hl', hsink⟩
      · cases htls
  unbound addr transport sink extension heffect := by
    refine releasable_of_effect hwired hafter heffect (fun old hne => ?_) fun c hl old hold => ?_
    · exact (Table.lookup_erase_eq _ _ _).trans (if_neg hne)
    · have hl := (lookup_clearConnectionExtension s addr addr).symm.trans hl
      rw [if_pos rfl] at hl
      obtain ⟨c₀, -, rfl⟩ := Option.map_eq_some_iff.mp hl
      cases hold

/-! ## Runs -/

/-- **When no writer is dead.** In every state that a run of the server reaches the writer of every
extension is the sink of a connection of that extension, iff before every event the condition
`KeepsWriters` holds. -/
theorem no_dead_writer_iff (cfg : ServerConfig) (md5 : List UInt8 → Vector UInt8 16)
    (events : List ServerEvent) :
    (∀ done, done <+: events → NoDeadWriter (run cfg md5 done)) ↔
      ∀ done event, done ++ [event] <+: events → KeepsWriters cfg md5 (run cfg md5 done) event := by
  constructor
  · intro h done event hdone
    have hafter := h _ hdone
    rw [run_append] at hafter
    exact keepsWriters_of_step (run_wired cfg md5 done) hafter
  · intro h done hdone
    induction done using List.reverseRecOn with
    | nil => exact nofun
    | append_singleton done event ih =>
      rw [run_append]
      exact NoDeadWriter.step (run_wired cfg md5 done) (ih ((List.prefix_append _ _).trans hdone))
        (h done event hdone)

/-- Two connections register 1001 and the second one closes: the writer of 1001 is its channel, and the
connection that is left is the first. -/
theorem dead_writer :
    let s := run deviceConfig deviceMd5
      [.accept (deviceAddr 5060), .handshake (deviceAddr 5060) true,
        .accept (deviceAddr 5062), .handshake (deviceAddr 5062) true,
        .receive 0 (devicePacket []), .receive 0 deviceAnswer, .receive 1 deviceAnswer, .close 1]
    s.connectionWriters.lookup "1001".toList = some (.stream 1) ∧
      s.connections.entries = [⟨deviceAddr 5060, ⟨some "1001".toList, .stream 0⟩⟩] ∧
      ¬ NoDeadWriter s := by
  intro s
  obtain ⟨hwriter, hconnections⟩ : s.connectionWriters.lookup "1001".toList = some (.stream 1) ∧
      s.connections.entries = [⟨deviceAddr 5060, ⟨some "1001".toList, .stream 0⟩⟩] := by decide +kernel
  refine ⟨hwriter, hconnections, fun h => ?_⟩
  obtain ⟨addr, hl⟩ := h _ 1 hwriter
  have hmem := List.of_mem_dlookup hl
  rw [hconnections, List.mem_singleton] at hmem
  cases hmem

end ServerState

end Minghe.Sip
