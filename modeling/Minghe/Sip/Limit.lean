import Minghe.Lib.Run
import Minghe.Sip.Server

/-!
# The limit of connections

The accept loop of `server.rs` and the tasks of its connections, step by step. The loop reads
`connections.len()`, then loads `pending_handshakes`, and then increases it for a new task; the task
decreases it when the handshake is over, and is in `connections` only when `handle_connection` has put it
there.

* `AcceptState`: both counters, where the loop is, and the connections by where their tasks are.
* `Counted`: the step lets the loop see every connection in one of the two counters.

Sessions of UDP peers never get into `connections`, so `udp_session_cleanup_loop` has nothing to remove.

* `connections_limited`: in a run in which every connection is counted whenever the loop looks at the
  counters, there are never more than `MAX_CONNECTIONS`.
* `connections_unlimited`: 1025 connections end their handshake before a task of theirs has registered one.
-/

namespace Minghe.Sip

open Minghe.Lib

/-- A TCP connection that was admitted. -/
structure TcpConnection where
  channel : Nat
  peerAddr : SocketAddr
  deriving DecidableEq, Repr

/-- Where the accept loop is. -/
inductive AcceptLoop where
  | accepting
  /-- `connections.len()` was read for a new connection. -/
  | established (peerAddr : SocketAddr) (established : Nat)
  /-- There is room. -/
  | admitting (peerAddr : SocketAddr)
  deriving DecidableEq, Repr

/-- The counters, the loop and the tasks. A task is in its handshake, behind `fetch_sub`, or in the loop of
`handle_connection`. -/
structure AcceptState where
  connections : Table SocketAddr Nat := ∅
  pendingHandshakes : Nat := 0
  loop : AcceptLoop := .accepting
  handshaking : List TcpConnection := []
  handshaken : List TcpConnection := []
  serving : List TcpConnection := []
  nextChannel : Nat := 0

/-- A step of the loop, or of a task. -/
inductive AcceptEvent where
  /-- `listener.accept()`, and `connections.len()`. -/
  | arrive (peerAddr : SocketAddr)
  /-- `pending_handshakes.load()`, and the comparison. -/
  | check
  /-- `pending_handshakes.fetch_add(1)`, and the new task. -/
  | spawn
  /-- The handshake is over, and `pending_handshakes.fetch_sub(1)`. -/
  | handshake (c : TcpConnection) (completed : Bool)
  /-- `register_connection`. -/
  | register (c : TcpConnection)
  /-- `remove_connection`, at the end of `handle_connection`. -/
  | remove (c : TcpConnection)
  /-- A panic in a handler. -/
  | crash (c : TcpConnection)

namespace AcceptState

/-- The connections that are in their handshake, or in service. -/
def live (s : AcceptState) : List TcpConnection := s.handshaking ++ s.handshaken ++ s.serving

/-- One step. -/
def step (s : AcceptState) : AcceptEvent → AcceptState
  | .arrive peerAddr =>
    match s.loop with
    | .accepting => { s with loop := .established peerAddr s.connections.size }
    | _ => s
  | .check =>
    match s.loop with
    | .established peerAddr established =>
      if maxConnections ≤ established + s.pendingHandshakes then { s with loop := .accepting }
      else { s with loop := .admitting peerAddr }
    | _ => s
  | .spawn =>
    match s.loop with
    | .admitting peerAddr =>
      { s with
        loop := .accepting
        pendingHandshakes := s.pendingHandshakes + 1
        handshaking := ⟨s.nextChannel, peerAddr⟩ :: s.handshaking
        nextChannel := s.nextChannel + 1 }
    | _ => s
  | .handshake c completed =>
    if c ∈ s.handshaking then
      { s with
        pendingHandshakes := s.pendingHandshakes - 1
        handshaking := s.handshaking.erase c
        handshaken := if completed then c :: s.handshaken else s.handshaken }
    else s
  | .register c =>
    if c ∈ s.handshaken then
      { s with
        connections := s.connections.insert c.peerAddr c.channel
        handshaken := s.handshaken.erase c
        serving := c :: s.serving }
    else s
  | .remove c =>
    if c ∈ s.serving then
      { s with
        connections := s.connections.erase c.peerAddr
        serving := s.serving.erase c }
    else s
  | .crash c => { s with serving := s.serving.erase c }

/-- A run from the start of the server. -/
def run (events : List AcceptEvent) : AcceptState := events.foldl step {}

theorem run_append (events : List AcceptEvent) (event : AcceptEvent) :
    run (events ++ [event]) = (run events).step event := by
  rw [run, List.foldl_append]
  rfl

/-- Every connection whose handshake is over is in the table, under its own address. -/
def Registered (s : AcceptState) : Prop :=
  s.handshaken = [] ∧ ∀ c ∈ s.serving, s.connections.lookup c.peerAddr = some c.channel

/-- A step that leaves no connection out of both counters while the loop looks at them: all are registered
when it reads the table, and none leaves its handshake until it has loaded the other counter. -/
def Counted (s : AcceptState) : AcceptEvent → Prop
  | .arrive _ => s.loop = .accepting → s.Registered
  | .handshake _ completed => completed = true → ∀ peerAddr n, s.loop ≠ .established peerAddr n
  | _ => True

/-! ## What a step does -/

/-- All that a step does. -/
inductive Stepped (s : AcceptState) : AcceptEvent → AcceptState → Prop
  | idle {event : AcceptEvent} : Stepped s event s
  | arrived {peerAddr : SocketAddr} (loop : s.loop = .accepting) :
    Stepped s (.arrive peerAddr) { s with loop := .established peerAddr s.connections.size }
  | refused {peerAddr : SocketAddr} {n : Nat} (loop : s.loop = .established peerAddr n) :
    Stepped s .check { s with loop := .accepting }
  | room {peerAddr : SocketAddr} {n : Nat} (loop : s.loop = .established peerAddr n)
      (lt : n + s.pendingHandshakes < maxConnections) :
    Stepped s .check { s with loop := .admitting peerAddr }
  | admitted {peerAddr : SocketAddr} (loop : s.loop = .admitting peerAddr) :
    Stepped s .spawn { s with
      loop := .accepting
      pendingHandshakes := s.pendingHandshakes + 1
      handshaking := ⟨s.nextChannel, peerAddr⟩ :: s.handshaking
      nextChannel := s.nextChannel + 1 }
  | completed {c : TcpConnection} (mem : c ∈ s.handshaking) :
    Stepped s (.handshake c true) { s with
      pendingHandshakes := s.pendingHandshakes - 1
      handshaking := s.handshaking.erase c
      handshaken := c :: s.handshaken }
  | failed {c : TcpConnection} (mem : c ∈ s.handshaking) :
    Stepped s (.handshake c false) { s with
      pendingHandshakes := s.pendingHandshakes - 1
      handshaking := s.handshaking.erase c }
  | registered {c : TcpConnection} (mem : c ∈ s.handshaken) :
    Stepped s (.register c) { s with
      connections := s.connections.insert c.peerAddr c.channel
      handshaken := s.handshaken.erase c
      serving := c :: s.serving }
  | ended {event : AcceptEvent} {c : TcpConnection} (connections : Table SocketAddr Nat) :
    Stepped s event { s with
      connections
      serving := s.serving.erase c }

/-- **A step.** -/
theorem stepped (s : AcceptState) (event : AcceptEvent) : Stepped s event (s.step event) := by
  cases event with
  | arrive peerAddr =>
    unfold step
    dsimp only
    split
    · rename_i hloop
      exact .arrived hloop
    · exact .idle
  | check =>
    unfold step
    dsimp only
    split
    · rename_i peerAddr n hloop
      split
      · exact .refused hloop
      · rename_i hlt
        exact .room hloop (Nat.lt_of_not_le hlt)
    · exact .idle
  | spawn =>
    unfold step
    dsimp only
    split
    · rename_i peerAddr hloop
      exact .admitted hloop
    · exact .idle
  | handshake c completed =>
    unfold step
    dsimp only
    split
    · rename_i hc
      cases completed with
      | true => exact .completed hc
      | false => exact .failed hc
    · exact .idle
  | register c =>
    unfold step
    dsimp only
    split
    · rename_i hc
      exact .registered hc
    · exact .idle
  | remove c =>
    unfold step
    dsimp only
    split
    · exact .ended _
    · exact .idle
  | crash c => exact .ended s.connections

/-- The connections behind a step: a new one, or no new one. -/
theorem Stepped.live {s s' : AcceptState} {event : AcceptEvent} (h : Stepped s event s') :
    (∃ peerAddr, s.loop = .admitting peerAddr ∧ s'.live = ⟨s.nextChannel, peerAddr⟩ :: s.live ∧
      s'.nextChannel = s.nextChannel + 1) ∨
    (s'.live.Subperm s.live ∧ s'.nextChannel = s.nextChannel) := by
  cases h with
  | admitted loop => exact .inl ⟨_, loop, rfl, rfl⟩
  | @completed c mem =>
    refine .inr ⟨?_, rfl⟩
    change (s.handshaking.erase c ++ c :: s.handshaken ++ s.serving).Subperm (_ ++ _ ++ _)
    rw [List.append_assoc, List.append_assoc, List.cons_append]
    refine (List.Perm.trans List.perm_middle ?_).subperm
    exact ((List.perm_cons_erase mem).append_right _).symm
  | failed mem =>
    refine .inr ⟨?_, rfl⟩
    exact ((List.erase_sublist.append_right _).append_right _).subperm
  | @registered c mem =>
    refine .inr ⟨?_, rfl⟩
    change (s.handshaking ++ s.handshaken.erase c ++ c :: s.serving).Subperm (_ ++ _ ++ _)
    rw [List.append_assoc, List.append_assoc]
    refine (List.Perm.append_left _ (List.Perm.trans List.perm_middle ?_)).subperm
    exact ((List.perm_cons_erase mem).append_right _).symm
  | ended => exact .inr ⟨(List.erase_sublist.append_left _).subperm, rfl⟩
  | _ => exact .inr ⟨List.Subperm.refl _, rfl⟩

/-! ## The connections -/

/-- Every connection has a channel of its own. -/
structure Distinct (s : AcceptState) : Prop where
  nodup : s.live.Nodup
  fresh : ∀ c ∈ s.live, c.channel < s.nextChannel

theorem Distinct.step {s : AcceptState} (h : Distinct s) (event : AcceptEvent) :
    Distinct (s.step event) := by
  rcases (s.stepped event).live with ⟨peerAddr, -, hlive, hnext⟩ | ⟨⟨l, hperm, hsublist⟩, hnext⟩
  · refine ⟨?_, fun c hc => ?_⟩
    · rw [hlive]
      exact List.nodup_cons.mpr ⟨fun hin => Nat.lt_irrefl _ (h.fresh _ hin), h.nodup⟩
    · rw [hlive] at hc
      rw [hnext]
      rcases List.mem_cons.mp hc with rfl | hc
      · exact Nat.lt_succ_self _
      · exact Nat.lt_succ_of_lt (h.fresh c hc)
  · refine ⟨hperm.nodup_iff.mp (h.nodup.sublist hsublist), fun c hc => ?_⟩
    rw [hnext]
    exact h.fresh c (hsublist.subset (hperm.mem_iff.mpr hc))

theorem run_distinct (events : List AcceptEvent) : Distinct (run events) := by
  induction events using List.reverseRecOn with
  | nil => exact ⟨List.nodup_nil, nofun⟩
  | append_singleton events event ih =>
    rw [run_append]
    exact ih.step event

/-- As many connections as there are entries, if each has its own. -/
theorem length_serving_le {s : AcceptState} (h : s.Registered) (hdistinct : Distinct s) :
    s.serving.length ≤ s.connections.size := by
  have hserving : s.serving.Nodup := hdistinct.nodup.of_append_right
  have hkeys : (s.serving.map TcpConnection.peerAddr).Nodup := by
    refine List.Nodup.map_on (fun c hc c' hc' he => ?_) hserving
    obtain ⟨channel, peerAddr⟩ := c
    obtain ⟨channel', peerAddr'⟩ := c'
    have hfirst := h.2 _ hc
    have hsecond := h.2 _ hc'
    dsimp only at he hfirst hsecond
    rw [he, hsecond] at hfirst
    cases hfirst
    rw [he]
  have hsub : s.serving.map TcpConnection.peerAddr ⊆ s.connections.keys := by
    intro addr haddr
    obtain ⟨c, hc, rfl⟩ := List.mem_map.mp haddr
    exact AList.mem_keys.mp (AList.lookup_isSome.mp (by rw [h.2 c hc]; rfl))
  have hle := (List.subperm_of_subset hkeys hsub).length_le
  rw [List.length_map] at hle
  exact hle.trans (Nat.le_of_eq (List.length_map ..))

/-! ## What the loop knows -/

/-- What the loop knows of the connections: how many are past their handshake, or that there is room. -/
def Knows (s : AcceptState) : Prop :=
  match s.loop with
  | .accepting => True
  | .established _ n => s.handshaken.length + s.serving.length ≤ n
  | .admitting _ => s.live.length < maxConnections

/-- What holds in every state. -/
structure Limited (s : AcceptState) : Prop where
  pending : s.pendingHandshakes = s.handshaking.length
  knows : s.Knows
  limit : s.live.length ≤ maxConnections

theorem length_live (s : AcceptState) :
    s.live.length = s.handshaking.length + (s.handshaken.length + s.serving.length) := by
  unfold live
  rw [List.append_assoc, List.length_append, List.length_append]

/-- The loop goes on knowing it while no connection gets past its handshake. -/
theorem Knows.mono {s s' : AcceptState} (h : s.Knows) (hloop : s'.loop = s.loop)
    (hlive : s'.live.length ≤ s.live.length)
    (hpast : (∃ peerAddr n, s.loop = .established peerAddr n) →
      s'.handshaken.length + s'.serving.length ≤ s.handshaken.length + s.serving.length) : s'.Knows := by
  unfold Knows at h ⊢
  rw [hloop]
  cases hs : s.loop with
  | accepting => trivial
  | established peerAddr n =>
    rw [hs] at h
    exact (hpast ⟨peerAddr, n, hs⟩).trans h
  | admitting peerAddr =>
    rw [hs] at h
    exact Nat.lt_of_le_of_lt hlive h

/-- **A step in which every connection is counted.** -/
theorem Limited.step {s : AcceptState} (h : Limited s) (hdistinct : Distinct s) {event : AcceptEvent}
    (hcounted : s.Counted event) : Limited (s.step event) := by
  have hstep := s.stepped event
  have hlimit : (s.step event).live.length ≤ maxConnections := by
    rcases hstep.live with ⟨peerAddr, hloop, hlive, -⟩ | ⟨hsub, -⟩
    · have hknows := h.knows
      unfold Knows at hknows
      rw [hloop] at hknows
      rw [hlive]
      exact hknows
    · exact hsub.length_le.trans h.limit
  have hpending := h.pending
  revert hstep hlimit
  generalize s.step event = s'
  intro hstep hlimit
  cases hstep with
  | idle => exact h
  | arrived loop =>
    refine ⟨h.pending, ?_, hlimit⟩
    -- all connections past their handshake are in the table
    obtain ⟨hnone, hserving⟩ := hcounted loop
    have hle := length_serving_le ⟨hnone, hserving⟩ hdistinct
    change s.handshaken.length + s.serving.length ≤ s.connections.size
    rw [hnone]
    simpa using hle
  | refused => exact ⟨h.pending, trivial, hlimit⟩
  | room loop lt =>
    refine ⟨h.pending, ?_, hlimit⟩
    have hknows := h.knows
    unfold Knows at hknows
    rw [loop] at hknows
    change s.live.length < maxConnections
    rw [length_live]
    dsimp only at hknows
    omega
  | admitted => exact ⟨congrArg (· + 1) h.pending, trivial, hlimit⟩
  | @completed c mem =>
    have hlen := List.length_erase_of_mem mem
    have hpos := List.length_pos_of_mem mem
    refine ⟨by dsimp only; omega, h.knows.mono rfl ?_ ?_, hlimit⟩
    · rw [length_live, length_live]
      dsimp only [List.length_cons]
      omega
    · rintro ⟨peerAddr, n, hloop⟩
      exact absurd hloop (hcounted rfl peerAddr n)
  | @failed c mem =>
    have hlen := List.length_erase_of_mem mem
    refine ⟨by dsimp only; omega, h.knows.mono rfl ?_ fun _ => Nat.le_refl _, hlimit⟩
    rw [length_live, length_live]
    dsimp only
    omega
  | @registered c mem =>
    have hlen := List.length_erase_of_mem mem
    have hpos := List.length_pos_of_mem mem
    refine ⟨hpending, h.knows.mono rfl ?_ fun _ => ?_, hlimit⟩
    · rw [length_live, length_live]
      dsimp only [List.length_cons]
      omega
    · dsimp only [List.length_cons]
      omega
  | @ended _ c connections =>
    have hle := (List.erase_sublist (a := c) (l := s.serving)).length_le
    refine ⟨hpending, h.knows.mono rfl ?_ fun _ => Nat.add_le_add_left hle _, hlimit⟩
    rw [length_live, length_live]
    exact Nat.add_le_add_left (Nat.add_le_add_left hle _) _

/-- **When the limit is kept.** In a run in which every connection is counted whenever the loop looks at the
counters, there are at no time more connections than `MAX_CONNECTIONS`. -/
theorem connections_limited (events : List AcceptEvent)
    (h : ∀ done event, done ++ [event] <+: events → (run done).Counted event) {done : List AcceptEvent}
    (hdone : done <+: events) : (run done).live.length ≤ maxConnections := by
  have hstart : Limited (run []) := ⟨rfl, trivial, Nat.zero_le _⟩
  have hlimited : Limited (run done) := by
    refine prefix_induction (P := fun done => Limited (run done)) hstart
      (fun done event _ hevent ih => ?_) List.nil_prefix hdone
    rw [run_append]
    exact ih.step (run_distinct done) (h done event hevent)
  exact hlimited.limit

/-! ## Runs -/

/-- A peer with a port of its own. -/
def peer (port : Nat) : SocketAddr := .v4 (.replicate 4 10) (UInt16.ofNat port)

/-- Two connections, the first of which is registered when the second one comes. -/
theorem connections_limited_concrete :
    (run [.arrive (peer 1), .check, .spawn, .handshake ⟨0, peer 1⟩ true, .register ⟨0, peer 1⟩,
      .arrive (peer 2), .check, .spawn]).live.length ≤ maxConnections := by
  refine connections_limited _ ?_ (List.prefix_refl _)
  refine Stepwise.forall (f := step) ⟨fun _ => ⟨rfl, nofun⟩, trivial, trivial, fun _ _ _ => ?_, trivial,
    fun _ => ⟨rfl, fun c hc => ?_⟩, trivial, trivial, trivial⟩
  · exact nofun
  · rw [List.mem_singleton.mp hc]
    rfl

/-- A connection comes, and its handshake ends. Its task is not run any further. -/
def rushOf (n : Nat) : List AcceptEvent :=
  [.arrive (peer n), .check, .spawn, .handshake ⟨n, peer n⟩ true]

/-- So do some connections after each other. -/
def rush (n : Nat) : List AcceptEvent := (List.range n).flatMap rushOf

/-- None of them is counted when the next one comes. -/
theorem run_rush (n : Nat) : run (rush n) =
    { handshaken := ((List.range n).map fun i => ⟨i, peer i⟩).reverse, nextChannel := n } := by
  induction n with
  | zero => rfl
  | succ n ih =>
    have hrush : rush (n + 1) = rush n ++ rushOf n := by
      unfold rush
      rw [List.range_succ, List.flatMap_append, List.flatMap_singleton]
    rw [hrush, run, List.foldl_append]
    change (rushOf n).foldl step (run (rush n)) = _
    rw [ih, List.range_succ, List.map_append, List.reverse_append]
    have hroom : ¬ maxConnections ≤ (∅ : Table SocketAddr Nat).size + 0 := by decide
    simp only [rushOf, List.foldl_cons, List.foldl_nil, step, if_neg hroom, List.mem_singleton, if_true,
      List.erase_cons_head]
    rfl

/-- **More connections than `MAX_CONNECTIONS`**: 1025 of them end their handshake, and no task has come to
`register_connection` yet. -/
theorem connections_unlimited : ¬ (run (rush 1025)).live.length ≤ maxConnections := by
  rw [run_rush]
  unfold live
  simp only [List.nil_append, List.append_nil, List.length_reverse, List.length_map, List.length_range]
  decide

end AcceptState

end Minghe.Sip
