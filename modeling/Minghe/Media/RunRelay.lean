import Mathlib.Logic.Function.Basic
import Minghe.Lib.Net
import Minghe.Lib.Run
import Minghe.Media.Srtp.Reorder

/-!
# The media relay of a call

Model of `run_relay` (`relay.rs`): a task for each side of a call, which reads the datagrams of its
socket one after the other, and two address cells behind locks. The two tasks have the same code with
the sides exchanged, so a task is one definition: `Side.caller` is task 1 with `caller_remote`,
`Side.callee` task 2 with `callee_remote`.

An iteration of a task is two steps, because the other task can run between its two locks:
* `RelayTask.recvFrom` takes a datagram into `buf` and fills the task's own address cell;
* `RelayTask.forward` reads the other cell, decrypts, encrypts and sends.

Datagrams arrive at any time (`RelayEvent.arrive`) and wait on the socket. A read error, a shutdown
signal or an abort ends a run, so it is a run that goes no further. The tasks do not panic, because every
packet is handled without a panic (`srtp_shaped`), and what becomes of a `send_to` is only logged.

Results:
* `addresses_learned`: on each side all packets go to one address, which the SDP declared or which is
  the source of the first datagram that is not empty; once it is set it stays.
* `address_hijacked`: that datagram need not be authentic. A byte from anywhere makes the relay send
  the other side's media there.
-/

namespace Minghe.Media.Relay

open Minghe.Lib Minghe.Media.Srtp

/-- The two sides of a call. -/
inductive Side where
  | caller
  | callee
  deriving DecidableEq, Repr

/-- The far side. -/
def Side.other : Side → Side
  | .caller => .callee
  | .callee => .caller

@[simp] theorem Side.other_other (side : Side) : side.other.other = side := by cases side <;> rfl

@[simp] theorem Side.other_ne (side : Side) : side.other ≠ side := by cases side <;> nofun

/-- A datagram and its source. -/
structure Datagram where
  bytes : List UInt8
  addr : SocketAddr
  deriving DecidableEq, Repr

/-- The size of `buf`. -/
abbrev bufLen : Nat := 2048

/-- A side of the relay: its socket, its address cell and the task that reads the socket. `encrypt` is
the context for packets to the far side. -/
structure RelayTask where
  /-- The datagrams that wait. -/
  socket : List Datagram
  remote : Option SocketAddr
  /-- `buf[..n]`, from `recv_from` to the end of the iteration. -/
  buf : Option (List UInt8)
  decrypt : Option SrtpCryptoSuite
  encrypt : Option SrtpCryptoSuite
  /-- How many packets the task dropped because the far address was unknown. -/
  dropped : Nat

namespace RelayTask

variable (P : Primitives) (t : RelayTask)

/-- `recv_from`, and the first lock: the address is filled if there is none. -/
def recvFrom : RelayTask :=
  match t.buf, t.socket with
  | none, d :: rest =>
    -- what does not fit into `buf` is cut off
    let packet := d.bytes.take bufLen
    if packet.length = 0 then { t with socket := rest }
    else { t with socket := rest, buf := some packet, remote := t.remote.or (some d.addr) }
  | _, _ => t

/-- `outbound`: the packet decrypted and encrypted again, if there are two contexts and both agree. -/
def outbound (packet : List UInt8) : Option (List UInt8) × RelayTask :=
  match t.decrypt, t.encrypt with
  | some decrypt, some encrypt =>
    match decrypt.unprotectRtp P packet with
    | (.ok rtp, decrypt) =>
      match encrypt.protectRtp P rtp with
      | (.ok srtp, encrypt) => (some srtp, { t with decrypt := some decrypt, encrypt := some encrypt })
      | (.error _, encrypt) => (none, { t with decrypt := some decrypt, encrypt := some encrypt })
    | (.error _, decrypt) => (none, { t with decrypt := some decrypt })
  | _, _ => (none, t)

/-- The rest of the iteration, with what the second lock shows of the far address: what is sent
there. -/
def forward (dest : Option SocketAddr) : Option Datagram × RelayTask :=
  match t.buf, dest with
  | none, _ => (none, t)
  | some _, none => (none, { t with buf := none, dropped := t.dropped + 1 })
  | some packet, some dest =>
    let (outbound, t) := { t with buf := none }.outbound P packet
    (outbound.map (⟨·, dest⟩), t)

end RelayTask

/-- The relay of a call, with the datagrams sent from the socket of each side so far. -/
structure RelayState where
  task : Side → RelayTask
  sent : Side → List Datagram

/-- What `run_relay` sets up. -/
def runRelay (callerDecryptCrypto calleeEncryptCrypto calleeDecryptCrypto callerEncryptCrypto :
    Option SrtpCryptoSuite) (callerInitialAddr calleeInitialAddr : Option SocketAddr) : RelayState where
  task
    | .caller => ⟨[], callerInitialAddr, none, callerDecryptCrypto, calleeEncryptCrypto, 0⟩
    | .callee => ⟨[], calleeInitialAddr, none, calleeDecryptCrypto, callerEncryptCrypto, 0⟩
  sent _ := []

/-- What happens next: a datagram comes to the socket of a side, or its task takes a step. -/
inductive RelayEvent where
  | arrive (side : Side) (datagram : Datagram)
  | receive (side : Side)
  | forward (side : Side)
  deriving DecidableEq, Repr

namespace RelayState

variable (P : Primitives) (s : RelayState)

/-- The state with another task on a side. -/
def setTask (side : Side) (t : RelayTask) : RelayState :=
  { s with task := Function.update s.task side t }

/-- One step. -/
def step : RelayEvent → RelayState
  | .arrive side datagram =>
    let t := s.task side
    s.setTask side { t with socket := t.socket ++ [datagram] }
  | .receive side => s.setTask side (s.task side).recvFrom
  | .forward side =>
    let (outgoing, t) := (s.task side).forward P (s.task side.other).remote
    { s.setTask side t with
      sent := Function.update s.sent side.other (s.sent side.other ++ outgoing.toList) }

/-- A run. -/
def run (events : List RelayEvent) : RelayState := events.foldl (step P) s

end RelayState

/-- The datagrams that arrived at a side's socket. -/
def arrivals (side : Side) (events : List RelayEvent) : List Datagram :=
  events.filterMap fun
    | .arrive side' datagram => if side' = side then some datagram else none
    | _ => none

/-- The source of the first datagram that is not empty. -/
def firstSource (datagrams : List Datagram) : Option SocketAddr :=
  (datagrams.find? fun d => d.bytes.length ≠ 0).map Datagram.addr

/-! ## Steps -/

namespace RelayState

variable {P : Primitives} {s : RelayState}

theorem run_append (events more : List RelayEvent) :
    s.run P (events ++ more) = (s.run P events).run P more :=
  List.foldl_append

theorem run_concat (events : List RelayEvent) (e : RelayEvent) :
    s.run P (events ++ [e]) = (s.run P events).step P e := by
  simp [run, List.foldl_append]

@[simp] theorem task_setTask (side side' : Side) (t : RelayTask) :
    (s.setTask side t).task side' = if side' = side then t else s.task side' := by
  by_cases h : side' = side
  · subst h; simp [setTask]
  · simp [setTask, h]

/-- The task of a step does the step, the other one nothing. -/
theorem task_step (e : RelayEvent) (side : Side) : ((s.step P e).task side) =
    match e with
    | .arrive side' d =>
      if side = side' then { s.task side with socket := (s.task side).socket ++ [d] } else s.task side
    | .receive side' => if side = side' then (s.task side).recvFrom else s.task side
    | .forward side' =>
      if side = side' then ((s.task side).forward P (s.task side.other).remote).2 else s.task side := by
  cases e <;> simp only [step, task_setTask] <;> split <;> simp_all

/-- Only the task of the far side sends. -/
theorem sent_step (e : RelayEvent) (side : Side) : (s.step P e).sent side = s.sent side ++
    match e with
    | .forward side' =>
      if side = side'.other then
        ((s.task side').forward P (s.task side).remote).1.toList
      else []
    | _ => [] := by
  cases e with
  | arrive side' d => simp [step, setTask]
  | receive side' => simp [step, setTask]
  | forward side' =>
    by_cases h : side = side'.other
    · subst h; simp [step]
    · simp [step, h]

end RelayState

/-- The address cell of a side at the start. -/
def initialAddr (callerInitialAddr calleeInitialAddr : Option SocketAddr) : Side → Option SocketAddr
  | .caller => callerInitialAddr
  | .callee => calleeInitialAddr

@[simp] theorem arrivals_nil (side : Side) : arrivals side [] = [] := rfl

theorem arrivals_concat (side : Side) (events : List RelayEvent) (e : RelayEvent) :
    arrivals side (events ++ [e]) = arrivals side events ++
      match e with
      | .arrive side' d => if side' = side then [d] else []
      | _ => [] := by
  unfold arrivals
  rw [List.filterMap_append]
  cases e with
  | arrive side' d =>
    by_cases h : side' = side <;> simp [h]
  | receive side' => simp
  | forward side' => simp

theorem arrivals_arrive (side : Side) (events : List RelayEvent) (d : Datagram) :
    arrivals side (events ++ [.arrive side d]) = arrivals side events ++ [d] := by
  rw [arrivals_concat]
  exact congrArg _ (if_pos rfl)

theorem arrivals_other {side : Side} (events : List RelayEvent) {e : RelayEvent}
    (he : ∀ d, e ≠ .arrive side d) : arrivals side (events ++ [e]) = arrivals side events := by
  rw [arrivals_concat]
  cases e with
  | arrive side' d =>
    have hne : side' ≠ side := fun h => he d (h ▸ rfl)
    simp [hne]
  | receive side' => simp
  | forward side' => simp

namespace RelayTask

variable {P : Primitives} {t : RelayTask}

/-- `recv_from` waits, skips an empty datagram, or takes one. -/
theorem recvFrom_cases : t.recvFrom = t ∨
    (∃ d rest, t.buf = none ∧ t.socket = d :: rest ∧ d.bytes = [] ∧ t.recvFrom = { t with socket := rest }) ∨
    ∃ d rest, t.buf = none ∧ t.socket = d :: rest ∧ d.bytes ≠ [] ∧ t.recvFrom =
      { t with socket := rest, buf := some (d.bytes.take bufLen), remote := t.remote.or (some d.addr) } := by
  unfold recvFrom
  split
  · rename_i d rest hb hs
    by_cases hd : d.bytes = []
    · exact .inr (.inl ⟨d, rest, hb, hs, hd, by simp [hd]⟩)
    · refine .inr (.inr ⟨d, rest, hb, hs, hd, ?_⟩)
      have : d.bytes.length ≠ 0 := fun e => hd (List.length_eq_zero_iff.mp e)
      dsimp only
      rw [if_neg (by simp only [List.length_take, bufLen]; omega)]
  · exact .inl rfl

@[simp] theorem remote_outbound (packet : List UInt8) :
    (t.outbound P packet).2.remote = t.remote ∧ (t.outbound P packet).2.socket = t.socket := by
  unfold outbound
  split
  · split
    · split <;> exact ⟨rfl, rfl⟩
    · exact ⟨rfl, rfl⟩
  · exact ⟨rfl, rfl⟩

/-- An iteration's second half leaves address and socket alone, and sends to the address it read. -/
theorem forward_frame (dest : Option SocketAddr) : (t.forward P dest).2.remote = t.remote ∧
    (t.forward P dest).2.socket = t.socket ∧ ∀ d ∈ (t.forward P dest).1, dest = some d.addr := by
  unfold forward
  split
  · simp
  · simp
  · simp only [remote_outbound, true_and]
    intro d hd
    obtain ⟨bytes, -, rfl⟩ := Option.mem_map.mp hd
    rfl

end RelayTask

/-! ## Address learning -/

theorem firstSource_append (xs ys : List Datagram) :
    firstSource (xs ++ ys) = (firstSource xs).or (firstSource ys) := by
  unfold firstSource
  rw [List.find?_append]
  cases xs.find? fun d => d.bytes.length ≠ 0 <;> rfl

theorem firstSource_cons_nil {d : Datagram} (hd : d.bytes = []) (xs : List Datagram) :
    firstSource (d :: xs) = firstSource xs := by
  simp [firstSource, hd]

theorem firstSource_cons {d : Datagram} (hd : d.bytes ≠ []) (xs : List Datagram) :
    firstSource (d :: xs) = some d.addr := by
  simp [firstSource, hd]

namespace RelayState

variable {P : Primitives}

/-- What is known of the address of a side: the cell, and the first source among the datagrams that
still wait, are the declared address and the first source of all. -/
structure Learned (s : RelayState) (initial : Option SocketAddr) (side : Side)
    (arrived : List Datagram) : Prop where
  cell : (s.task side).remote.or (firstSource (s.task side).socket) = initial.or (firstSource arrived)
  sent : ∀ d ∈ s.sent side, (s.task side).remote = some d.addr

variable {s : RelayState} {initial : Option SocketAddr} {side : Side} {arrived : List Datagram}

/-- Once it is set, the address stays. -/
theorem remote_step (e : RelayEvent) {addr : SocketAddr} (h : (s.task side).remote = some addr) :
    ((s.step P e).task side).remote = some addr := by
  rw [task_step]
  cases e with
  | arrive side' d => dsimp only; split <;> exact h
  | receive side' =>
    dsimp only
    split
    · rcases (s.task side).recvFrom_cases with hr | ⟨d, rest, -, -, -, hr⟩ | ⟨d, rest, -, -, -, hr⟩
      · rw [hr, h]
      · rw [hr, h]
      · rw [hr]; simp [h]
    · exact h
  | forward side' =>
    dsimp only
    split
    · rw [(RelayTask.forward_frame _).1, h]
    · exact h

theorem remote_run (events : List RelayEvent) {addr : SocketAddr}
    (h : (s.task side).remote = some addr) : ((s.run P events).task side).remote = some addr := by
  induction events using List.reverseRecOn with
  | nil => exact h
  | append_singleton events e ih =>
    rw [run_concat]
    exact remote_step e ih

/-- One step. -/
theorem Learned.step (h : Learned s initial side arrived) (e : RelayEvent) :
    Learned (s.step P e) initial side (arrived ++
      match e with
      | .arrive side' d => if side' = side then [d] else []
      | _ => []) where
  cell := by
    have hcell := h.cell
    rw [task_step]
    cases e with
    | arrive side' d =>
      dsimp only
      by_cases hs : side = side'
      · rw [if_pos hs, if_pos hs.symm, firstSource_append, firstSource_append, ← Option.or_assoc,
          ← Option.or_assoc, hcell]
      · rw [if_neg hs, if_neg (Ne.symm hs), List.append_nil, hcell]
    | receive side' =>
      dsimp only
      rw [List.append_nil]
      split
      · rcases (s.task side).recvFrom_cases with hr | ⟨d, rest, -, hsock, hd, hr⟩ |
          ⟨d, rest, -, hsock, hd, hr⟩
        · rw [hr, hcell]
        · rw [hr, ← hcell, hsock, firstSource_cons_nil hd]
        · rw [hr, ← hcell, hsock, firstSource_cons hd, Option.or_assoc]
          simp
      · exact hcell
    | forward side' =>
      dsimp only
      rw [List.append_nil]
      split
      · obtain ⟨hrem, hsock, -⟩ := (s.task side).forward_frame (P := P) (s.task side.other).remote
        rw [hrem, hsock, hcell]
      · exact hcell
  sent d hd := by
    rw [sent_step, List.mem_append] at hd
    rcases hd with hd | hd
    · exact remote_step e (h.sent d hd)
    · cases e with
      | arrive side' d => cases hd
      | receive side' => cases hd
      | forward side' =>
        dsimp only at hd
        split at hd
        · obtain ⟨-, -, hdest⟩ := (s.task side').forward_frame (P := P) (s.task side).remote
          exact remote_step _ (hdest d (Option.mem_toList.mp hd))
        · cases hd

/-- A whole run. -/
theorem Learned.run (callerDecryptCrypto calleeEncryptCrypto calleeDecryptCrypto callerEncryptCrypto :
    Option SrtpCryptoSuite) (callerInitialAddr calleeInitialAddr : Option SocketAddr) (side : Side)
    (events : List RelayEvent) : Learned
      ((runRelay callerDecryptCrypto calleeEncryptCrypto calleeDecryptCrypto callerEncryptCrypto
        callerInitialAddr calleeInitialAddr).run P events)
      (initialAddr callerInitialAddr calleeInitialAddr side) side (arrivals side events) := by
  induction events using List.reverseRecOn with
  | nil => cases side <;> exact ⟨rfl, nofun⟩
  | append_singleton events e ih =>
    rw [run_concat, arrivals_concat]
    exact ih.step e

/-- **Address learning.** In every run, whatever arrives on the two sockets and in whatever order the
two tasks take their steps, all packets sent on a side go to the address that the SDP declared for it,
or, if there is none, to the source of the first datagram that arrived there and is not empty. An
address that is set stays. -/
theorem addresses_learned (P : Primitives)
    (callerDecryptCrypto calleeEncryptCrypto calleeDecryptCrypto callerEncryptCrypto :
      Option SrtpCryptoSuite) (callerInitialAddr calleeInitialAddr : Option SocketAddr)
    (events : List RelayEvent) (side : Side) :
    let start := runRelay callerDecryptCrypto calleeEncryptCrypto calleeDecryptCrypto
      callerEncryptCrypto callerInitialAddr calleeInitialAddr
    (∀ d ∈ (start.run P events).sent side, some d.addr =
      (initialAddr callerInitialAddr calleeInitialAddr side).or
        (firstSource (arrivals side events))) ∧
    ∀ (more : List RelayEvent) (addr : SocketAddr), ((start.run P events).task side).remote = some addr →
      ((start.run P (events ++ more)).task side).remote = some addr := by
  intro start
  have h : Learned (start.run P events) _ side _ := Learned.run _ _ _ _ _ _ side events
  constructor
  · intro d hd
    rw [← h.cell, h.sent d hd]
    rfl
  · intro more addr haddr
    rw [run_append]
    exact remote_run more haddr

end RelayState

/-! ## Concrete runs -/

/-- Keys of the first demonstration endpoint. -/
def demoCrypto : SrtpCryptoSuite :=
  .ofMaster .plain .aesCm128HmacSha180 (Vector.replicate 16 1) (Vector.replicate 14 2)

/-- A relay with one key for all, whose SDP declared the callee's address only. -/
def demoRelay : RelayState :=
  runRelay (some demoCrypto) (some demoCrypto) (some demoCrypto) (some demoCrypto) none
    (some (.v4 (Vector.replicate 4 7) 4000))

/-- The address of a stranger. -/
def stranger : SocketAddr := .v4 (Vector.replicate 4 66) 6666

/-- A byte from a stranger comes to the caller's side before the caller's first packet. -/
def hijack : List RelayEvent :=
  [.arrive .caller ⟨[0], stranger⟩, .receive .caller, .forward .caller] ++
    (sealedDemo [1]).flatMap fun d =>
      [.arrive .callee ⟨d.2, .v4 (Vector.replicate 4 7) 4000⟩, .receive .callee, .forward .callee]

/-- **The first datagram need not be authentic.** The callee's media goes to a stranger, whose only
datagram no `unprotect_rtp` accepts, under any key. -/
theorem address_hijacked :
    (∃ d ∈ (demoRelay.run .plain hijack).sent .caller, d.addr = stranger) ∧
    (demoRelay.task .caller).remote = none ∧
    ∀ d ∈ arrivals .caller hijack, d.addr = stranger → ∀ crypto : SrtpCryptoSuite,
      (crypto.unprotectRtp .plain (d.bytes.take bufLen)).1.toOption = none := by
  refine ⟨by decide +kernel, rfl, fun d hd _ crypto => ?_⟩
  have hd' : d = ⟨[0], stranger⟩ := by
    simpa [arrivals, hijack, List.filterMap_flatMap] using hd
  subst hd'
  have hshort : ([0].take bufLen : List UInt8).length < rtpHeaderMinLen + crypto.suite.authTagLen := by
    simp only [bufLen, rtpHeaderMinLen, List.length_take, List.length_singleton]
    omega
  unfold SrtpCryptoSuite.unprotectRtp
  dsimp only
  rw [if_pos hshort]
  rfl

end Minghe.Media.Relay
