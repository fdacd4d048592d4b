import Minghe.Media.RunRelay
import Minghe.Media.Srtp.Gap

/-!
# What the relay passes on

An endpoint protects packets with its own key, in order, and all of them arrive at its side of the
relay. The task of that side drops them until the far address is known, and decrypts the rest with a
context that has seen nothing, so it takes every stream to start at rollover count 0. The count of the
sender moves on while packets are dropped: where a stream has passed its first 65536 indexes before the
relay decrypts a packet of it, the relay opens none of its packets (`relay_deaf`). A second limit is
`buf`: what does not fit into its 2048 bytes is cut off.

Result:
* `relay_transparent`: short of these two (`Passable`) the far endpoint opens exactly the packets that were
  protected, all that arrived since its address was known, in order.
-/

namespace Minghe.Media.Relay

open Minghe.Lib Minghe.Media.Srtp SrtpCryptoSuite

/-- A master key and salt, and the suite they are for. -/
structure Master where
  suite : SrtpSuite
  masterKey : Vector UInt8 16
  masterSalt : Vector UInt8 14

/-- A context that has seen no packet. -/
def Master.fresh (P : Primitives) (m : Master) : SrtpCryptoSuite :=
  .ofMaster P m.suite m.masterKey m.masterSalt

/-- The relay decrypts each side with the side's own key and encrypts for it with another. -/
def relayWith (P : Primitives) (theirs ours : Side → Master)
    (callerInitialAddr calleeInitialAddr : Option SocketAddr) : RelayState :=
  runRelay (some ((theirs .caller).fresh P)) (some ((ours .callee).fresh P))
    (some ((theirs .callee).fresh P)) (some ((ours .caller).fresh P)) callerInitialAddr
    calleeInitialAddr

/-- How many datagrams of a side are on their way through its task. -/
def RelayTask.waiting (t : RelayTask) : Nat := t.buf.toList.length + t.socket.length

/-- Packets that a new context opens and that fit into `buf`: the first one of each SSRC has an index
below `2 ^ 16`, and none is longer than 2048 bytes. -/
def Passable (packets : List (Sent × List UInt8)) : Prop :=
  Schedule startsLow .start (packets.map Prod.fst) ∧ ∀ d ∈ packets, d.2.length ≤ bufLen

instance (packets : List (Sent × List UInt8)) : Decidable (Passable packets) := by
  unfold Passable; infer_instance

/-! ## Known addresses -/

section Known

variable {P : Primitives} {s : RelayState} {side : Side}

/-- A task drops nothing once the far address is known. -/
theorem dropped_step (e : RelayEvent) {addr : SocketAddr}
    (h : (s.task side.other).remote = some addr) :
    ((s.step P e).task side).dropped = (s.task side).dropped := by
  rw [RelayState.task_step]
  cases e with
  | arrive side' d => dsimp only; split <;> rfl
  | receive side' =>
    dsimp only
    split
    · rcases (s.task side).recvFrom_cases with hr | ⟨d, rest, -, -, -, hr⟩ | ⟨d, rest, -, -, -, hr⟩ <;>
        rw [hr]
    · rfl
  | forward side' =>
    dsimp only
    split
    · rw [h]
      unfold RelayTask.forward
      split
      · rfl
      · contradiction
      · dsimp only
        unfold RelayTask.outbound
        split
        · split
          · split <;> rfl
          · rfl
        · rfl
    · rfl

theorem dropped_run (events : List RelayEvent) {addr : SocketAddr}
    (h : (s.task side.other).remote = some addr) :
    ((s.run P events).task side).dropped = (s.task side).dropped := by
  induction events using List.reverseRecOn with
  | nil => rfl
  | append_singleton events e ih =>
    rw [RelayState.run_concat, dropped_step e (RelayState.remote_run events h), ih]

theorem arrivals_append (events more : List RelayEvent) :
    arrivals side (events ++ more) = arrivals side events ++ arrivals side more :=
  List.filterMap_append

end Known

/-! ## The way of a packet -/

theorem RelayTask.forward_idle {P : Primitives} {t : RelayTask} (hb : t.buf = none)
    (dest : Option SocketAddr) : t.forward P dest = (none, t) := by
  unfold RelayTask.forward
  rw [hb]

theorem RelayTask.forward_unknown {P : Primitives} {t : RelayTask} {packet : List UInt8}
    (hb : t.buf = some packet) :
    t.forward P none = (none, { t with buf := none, dropped := t.dropped + 1 }) := by
  unfold RelayTask.forward
  rw [hb]

/-- The packets that a task still has before it. -/
inductive Waits (t : RelayTask) : List (Sent × List UInt8) → Prop where
  | idle {rest : List (Sent × List UInt8)} (buf : t.buf = none)
      (socket : t.socket.map Datagram.bytes = rest.map Prod.snd) : Waits t rest
  | busy {d : Sent × List UInt8} {rest : List (Sent × List UInt8)}
      (buf : t.buf = some (d.2.take bufLen))
      (socket : t.socket.map Datagram.bytes = rest.map Prod.snd) : Waits t (d :: rest)

theorem Waits.length {t : RelayTask} {rest : List (Sent × List UInt8)} (h : Waits t rest) :
    t.waiting = rest.length := by
  cases h with
  | idle hb hs =>
    have := congrArg List.length hs
    simp only [List.length_map] at this
    simp [RelayTask.waiting, hb, this]
  | busy hb hs =>
    have := congrArg List.length hs
    simp only [List.length_map] at this
    simp [RelayTask.waiting, hb, this, Nat.add_comm]

/-- A task that is done with the packets `gone`, of which it dropped the first and passed the others on,
and has `rest` before it. `D` and `E` are the contexts it started with. -/
structure Passing (P : Primitives) (D E : SrtpCryptoSuite) (t : RelayTask) (out : List Datagram)
    (gone rest : List (Sent × List UInt8)) : Prop where
  waits : Waits t rest
  dropped : t.dropped ≤ gone.length
  decrypt : t.decrypt = some
    (runAll (unprotectRtp P) D ((gone.drop t.dropped).map Prod.snd)).2
  encrypt : t.encrypt = some
    (runAll (protectRtp P) E ((gone.drop t.dropped).map fun d => d.1.rtp)).2
  out : (out.map fun o => .ok o.bytes) =
    (runAll (protectRtp P) E ((gone.drop t.dropped).map fun d => d.1.rtp)).1

namespace Passing

variable {P : Primitives} {D E : SrtpCryptoSuite} {t : RelayTask} {out : List Datagram}
  {gone rest : List (Sent × List UInt8)} {d : Sent × List UInt8}

/-- A packet arrives. -/
theorem arrive (h : Passing P D E t out gone rest) {addr : SocketAddr} :
    Passing P D E { t with socket := t.socket ++ [⟨d.2, addr⟩] } out gone (rest ++ [d]) where
  waits := by
    cases h.waits with
    | idle hb hs => exact .idle hb (by simp [hs])
    | busy hb hs => exact .busy hb (by simp [hs])
  dropped := h.dropped
  decrypt := h.decrypt
  encrypt := h.encrypt
  out := h.out

/-- The task takes the next one into `buf`. -/
theorem receive (h : Passing P D E t out gone rest) (hne : ∀ d ∈ rest, d.2 ≠ []) :
    Passing P D E t.recvFrom out gone rest := by
  rcases t.recvFrom_cases with hr | ⟨x, xs, hb, hs, hx, hr⟩ | ⟨x, xs, hb, hs, hx, hr⟩
  · rw [hr]; exact h
  · -- an endpoint's packet is not empty
    cases h.waits with
    | busy hb' _ => rw [hb] at hb'; cases hb'
    | idle _ hs' =>
      rw [hs] at hs'
      cases rest with
      | nil => cases hs'
      | cons d rest =>
        exact absurd ((List.cons.inj hs').1.symm.trans hx) (hne d List.mem_cons_self)
  · rw [hr]
    refine ⟨?_, h.dropped, h.decrypt, h.encrypt, h.out⟩
    cases h.waits with
    | busy hb' _ => rw [hb] at hb'; cases hb'
    | idle _ hs' =>
      rw [hs] at hs'
      cases rest with
      | nil => cases hs'
      | cons d rest =>
        obtain ⟨h1, h2⟩ := List.cons.inj hs'
        exact .busy (by rw [h1]) h2

/-- The task drops a packet, as it has dropped all before it. -/
theorem drop (h : Passing P D E t out gone (d :: rest)) (hb : t.buf = some (d.2.take bufLen))
    (hs : t.socket.map Datagram.bytes = rest.map Prod.snd) (hall : t.dropped = gone.length) :
    Passing P D E (t.forward P none).2 (out ++ (t.forward P none).1.toList) (gone ++ [d]) rest := by
  have hnil : gone.drop t.dropped = [] := by rw [hall, List.drop_length]
  have hnil' : (gone ++ [d]).drop (t.dropped + 1) = [] := by
    rw [hall, List.drop_eq_nil_iff]
    simp
  rw [RelayTask.forward_unknown hb]
  refine ⟨.idle rfl hs, by simp [hall], ?_, ?_, ?_⟩
  · dsimp only; rw [hnil', h.decrypt, hnil]
  · dsimp only; rw [hnil', h.encrypt, hnil]
  · simp only [Option.toList_none, List.append_nil]
    rw [hnil', h.out, hnil]

/-- The task passes a packet on: it opens to what was protected, which is protected again. -/
theorem pass (hP : GcmLaws P) (h : Passing P D E t out gone (d :: rest))
    (hb : t.buf = some (d.2.take bufLen)) (hs : t.socket.map Datagram.bytes = rest.map Prod.snd)
    (hlen : d.2.length ≤ bufLen) (hparse : ∃ x, splitRtp d.1.rtp = .ok x)
    (hshort : d.1.rtp.length ≤ 2 ^ 36)
    (hopen : ((runAll (unprotectRtp P) D ((gone.drop t.dropped).map Prod.snd)).2.unprotectRtp P d.2).1 =
      .ok d.1.rtp) (dest : SocketAddr) :
    Passing P D E (t.forward P (some dest)).2 (out ++ (t.forward P (some dest)).1.toList)
      (gone ++ [d]) rest := by
  obtain ⟨⟨hd, head, payload⟩, hx⟩ := hparse
  obtain ⟨w, hw⟩ := protectRtp_isOk hP hx hshort
    (s := (runAll (protectRtp P) E ((gone.drop t.dropped).map fun d => d.1.rtp)).2)
  have hbuf : d.2.take bufLen = d.2 := List.take_of_length_le hlen
  have hf : t.forward P (some dest) = (some ⟨w, dest⟩, { t with
      buf := none
      decrypt := some ((runAll (unprotectRtp P) D ((gone.drop t.dropped).map Prod.snd)).2.unprotectRtp P
        d.2).2
      encrypt := some ((runAll (protectRtp P) E
        ((gone.drop t.dropped).map fun d => d.1.rtp)).2.protectRtp P d.1.rtp).2 }) := by
    unfold RelayTask.forward
    rw [hb, hbuf]
    dsimp only
    unfold RelayTask.outbound
    rw [h.decrypt, h.encrypt]
    dsimp only
    rw [← Prod.mk.eta (p := unprotectRtp P _ d.2), hopen]
    dsimp only
    rw [← Prod.mk.eta (p := protectRtp P _ d.1.rtp), hw]
    rfl
  have hdrop : (gone ++ [d]).drop t.dropped = gone.drop t.dropped ++ [d] :=
    List.drop_append_of_le_length h.dropped
  rw [hf]
  refine ⟨.idle rfl hs, h.dropped.trans (by simp), ?_, ?_, ?_⟩
  · dsimp only; rw [hdrop, List.map_append, runAll_append]; rfl
  · dsimp only; rw [hdrop, List.map_append, runAll_append]; rfl
  · dsimp only
    rw [hdrop, List.map_append, List.map_append, runAll_append, h.out]
    simp only [Option.toList_some, List.map_cons, List.map_nil, runAll_cons, runAll, hw]

end Passing

/-- The packets of an endpoint, which the context `D` opens once the first `k` are dropped. -/
structure Stream (P : Primitives) (D : SrtpCryptoSuite) (packets : List (Sent × List UInt8)) (k : Nat) :
    Prop where
  parses : ∀ d ∈ packets, ∃ x, splitRtp d.1.rtp = .ok x
  shorter : ∀ d ∈ packets, d.1.rtp.length < d.2.length
  opens : (runAll (unprotectRtp P) D ((packets.drop k).map Prod.snd)).1 =
    (packets.drop k).map fun d => .ok d.1.rtp
  fits : ∀ d ∈ packets.drop k, d.2.length ≤ bufLen

/-- What an endpoint sends, if what comes after the first `k` is passable. -/
theorem stream_of_protectedBy {P : Primitives} (hP : GcmLaws P) (m : Master) {sent : List Sent} {k : Nat}
    (hlab : ∀ d ∈ protectedBy P (m.fresh P) sent, d.1.Labelled)
    (hclimbs : Schedule climbs .start ((protectedBy P (m.fresh P) sent).map Prod.fst))
    (hpass : Passable ((protectedBy P (m.fresh P) sent).drop k)) :
    Stream P (m.fresh P) (protectedBy P (m.fresh P) sent) k where
  parses d hd := by
    obtain ⟨s, hw⟩ := protectedBy_ok d hd
    obtain ⟨h, head, payload, hs, -⟩ := protectRtp_ok hw
    exact ⟨_, hs⟩
  shorter d hd := by
    obtain ⟨s, hw⟩ := protectedBy_ok d hd
    exact length_le_of_protectRtp hP hw
  opens := opens_after_gap hP k (SameKeys.rfl' _) ⟨fun _ _ => rfl, fun _ _ he => by cases he⟩
    (fun _ => rfl) hlab hclimbs hpass.1
  fits := hpass.2

section Serves

variable {P : Primitives} {D E : SrtpCryptoSuite} {side : Side} {s : RelayState}
  {arrived packets : List (Sent × List UInt8)} {k : Nat}

/-- The task of a side has passed on what it was given, but for what it dropped at the beginning, and
while the far address is unknown it has dropped all of it. -/
def Serves (P : Primitives) (D E : SrtpCryptoSuite) (side : Side) (s : RelayState)
    (arrived : List (Sent × List UInt8)) : Prop :=
  ∃ gone rest, arrived = gone ++ rest ∧
    Passing P D E (s.task side) (s.sent side.other) gone rest ∧
    ((s.task side.other).remote = none → (s.task side).dropped = gone.length)

theorem Serves.arrive (h : Serves P D E side s arrived) (d : Sent × List UInt8) (addr : SocketAddr) :
    Serves P D E side (s.step P (.arrive side ⟨d.2, addr⟩)) (arrived ++ [d]) := by
  obtain ⟨gone, rest, rfl, hp, hnone⟩ := h
  refine ⟨gone, rest ++ [d], List.append_assoc _ _ _, ?_, ?_⟩
  · rw [RelayState.task_step, RelayState.sent_step]
    simp only [if_true, List.append_nil]
    exact hp.arrive
  · rw [RelayState.task_step, RelayState.task_step]
    simpa using hnone

/-- Every other step. -/
theorem Serves.step (hP : GcmLaws P) (hstream : Stream P D packets k) (harr : arrived <+: packets)
    (hk : ∀ addr, (s.task side.other).remote = some addr → (s.task side).dropped = k)
    (h : Serves P D E side s arrived) {e : RelayEvent} (he : ∀ d, e ≠ .arrive side d) :
    Serves P D E side (s.step P e) arrived := by
  obtain ⟨gone, rest, rfl, hp, hnone⟩ := h
  have hnone' : ((s.step P e).task side.other).remote = none → (s.task side.other).remote = none := by
    intro hn
    cases hr : (s.task side.other).remote with
    | none => rfl
    | some addr => rw [RelayState.remote_step e hr] at hn; cases hn
  by_cases hown : e = .receive side ∨ e = .forward side
  · rcases hown with rfl | rfl
    · have ht : (s.step P (.receive side)).task side = (s.task side).recvFrom := by
        rw [RelayState.task_step]
        exact if_pos rfl
      have hd : (s.task side).recvFrom.dropped = (s.task side).dropped := by
        rcases (s.task side).recvFrom_cases with hr | ⟨d, xs, -, -, -, hr⟩ | ⟨d, xs, -, -, -, hr⟩ <;>
          rw [hr]
      refine ⟨gone, rest, rfl, ?_, fun hn => ?_⟩
      · rw [ht, RelayState.sent_step]
        simp only [List.append_nil]
        refine hp.receive fun d hd hnil => ?_
        have := hstream.shorter d (harr.subset (List.mem_append_right _ hd))
        rw [hnil] at this
        exact Nat.not_lt_zero _ this
      · rw [ht, hd]
        exact hnone (hnone' hn)
    · have ht : (s.step P (.forward side)).task side =
          ((s.task side).forward P (s.task side.other).remote).2 := by
        rw [RelayState.task_step]
        exact if_pos rfl
      have hout : (s.step P (.forward side)).sent side.other = s.sent side.other ++
          ((s.task side).forward P (s.task side.other).remote).1.toList := by
        rw [RelayState.sent_step]
        exact congrArg _ (if_pos rfl)
      cases hp.waits with
      | idle hb hs =>
        refine ⟨gone, rest, rfl, ?_, fun hn => ?_⟩
        · rw [ht, hout, RelayTask.forward_idle hb]
          simpa using hp
        · rw [ht, RelayTask.forward_idle hb]
          exact hnone (hnone' hn)
      | @busy d rest hb hs =>
        cases hr : (s.task side.other).remote with
        | none =>
          have hall := hnone hr
          refine ⟨gone ++ [d], rest, by simp, ?_, fun _ => ?_⟩
          · rw [ht, hout, hr]
            exact hp.drop hb hs hall
          · rw [ht, hr, RelayTask.forward_unknown hb, List.length_append, ← hall]
            rfl
        | some dest =>
          obtain ⟨more, rfl⟩ := harr
          have hdrop := hk dest hr
          have hmem : d ∈ gone ++ d :: rest ++ more := by simp
          have hle : k ≤ gone.length := hdrop ▸ hp.dropped
          have hopens := hstream.opens
          have hcut : (gone ++ d :: rest ++ more).drop k = gone.drop k ++ d :: (rest ++ more) := by
            rw [List.append_assoc, List.drop_append_of_le_length hle, List.cons_append]
          rw [hcut] at hopens
          have hlen : d.2.length ≤ bufLen := hstream.fits d (by rw [hcut]; simp)
          refine ⟨gone ++ [d], rest, by simp, ?_, fun hn => ?_⟩
          · rw [ht, hout, hr]
            refine hp.pass hP hb hs hlen (hstream.parses d hmem) ?_ ?_ dest
            · exact (hstream.shorter d hmem).le.trans (hlen.trans (by decide))
            · rw [hdrop]
              exact runAll_middle hopens
          · rw [hnone' hn] at hr
            cases hr
  · -- a step of the far side
    have ht : (s.step P e).task side = s.task side ∧
        (s.step P e).sent side.other = s.sent side.other := by
      rw [RelayState.task_step, RelayState.sent_step]
      cases e with
      | arrive side' d =>
        have hne : side ≠ side' := fun e => he d (e ▸ rfl)
        simp [hne]
      | receive side' =>
        have hne : side ≠ side' := fun e => hown (.inl (e ▸ rfl))
        simp [hne]
      | forward side' =>
        have hne : side ≠ side' := fun e => hown (.inr (e ▸ rfl))
        have hne' : side.other ≠ side'.other := fun e => hne (by
          rw [← side.other_other, e, side'.other_other])
        simp [hne, hne']
    refine ⟨gone, rest, rfl, ?_, fun hn => ?_⟩
    · rw [ht.1, ht.2]; exact hp
    · rw [ht.1]; exact hnone (hnone' hn)

end Serves

/-! ## Whole runs -/

theorem relayWith_task {P : Primitives} {theirs ours : Side → Master}
    {callerInitialAddr calleeInitialAddr : Option SocketAddr} (side : Side) :
    ∃ addr, (relayWith P theirs ours callerInitialAddr calleeInitialAddr).task side =
      ⟨[], addr, none, some ((theirs side).fresh P), some ((ours side.other).fresh P), 0⟩ := by
  cases side <;> exact ⟨_, rfl⟩

/-- **A run**, for one side of the relay: what has arrived is the beginning of the stream. -/
theorem Serves.run {P : Primitives} (hP : GcmLaws P) {D E : SrtpCryptoSuite} {side : Side}
    {start : RelayState} {events : List RelayEvent} {packets : List (Sent × List UInt8)}
    (hstart : Serves P D E side start [])
    (hstream : Stream P D packets ((start.run P events).task side).dropped)
    (harrive : (arrivals side events).map Datagram.bytes = packets.map Prod.snd) {done : List RelayEvent}
    (hdone : done <+: events) :
    Serves P D E side (start.run P done) (packets.take (arrivals side done).length) := by
  refine prefix_induction (P := fun done =>
    Serves P D E side (start.run P done) (packets.take (arrivals side done).length)) ?_ ?_
    List.nil_prefix hdone
  · exact hstart
  · intro done e _ hpre ih
    obtain ⟨more, rfl⟩ := hpre
    rw [RelayState.run_concat]
    by_cases he : ∃ d, e = .arrive side d
    · obtain ⟨d, rfl⟩ := he
      rw [arrivals_append, arrivals_arrive, List.map_append, List.map_append] at harrive
      have hlt : (arrivals side done).length < packets.length := by
        have := congrArg List.length harrive
        simp only [List.length_append, List.length_map, List.length_singleton] at this
        omega
      have hnext : (packets[(arrivals side done).length]).2 = d.bytes := by
        have h := congrArg (·[(arrivals side done).length]?) harrive
        simpa [List.getElem?_append, hlt] using h.symm
      rw [arrivals_arrive, List.length_append, List.length_singleton,
        List.take_succ_eq_append_getElem hlt]
      obtain ⟨bytes, addr⟩ := d
      dsimp only at hnext
      rw [← hnext]
      exact ih.arrive _ addr
    · rw [arrivals_other done fun d hd => he ⟨d, hd⟩]
      refine ih.step hP hstream (List.take_prefix _ _) (fun addr haddr => ?_) fun d hd => he ⟨d, hd⟩
      rw [List.append_assoc, RelayState.run_append]
      exact (dropped_run _ haddr).symm

/-- What the far endpoint makes of what the task passed on. -/
theorem Passing.opened {P : Primitives} (hP : GcmLaws P) {D E : SrtpCryptoSuite} {t : RelayTask}
    {out : List Datagram} {gone rest : List (Sent × List UInt8)} (h : Passing P D E t out gone rest) :
    (runAll (unprotectRtp P) E (out.map Datagram.bytes)).1 =
      (gone.drop t.dropped).map fun d => .ok d.1.rtp := by
  have hrun := inStep_run hP ((gone.drop t.dropped).map fun d => d.1.rtp) (InStep.rfl' E)
  rw [← h.out] at hrun
  have hbytes : (out.map fun o => (.ok o.bytes : Res SrtpError (List UInt8))).filterMap Except.toOption =
      out.map Datagram.bytes := by
    simp [List.filterMap_map, Function.comp_def, Except.toOption]
  have hlen : out.length = (gone.drop t.dropped).length := by
    simpa using congrArg List.length h.out
  rw [hbytes] at hrun
  rw [hrun, accepted_of_ok _ _ (by simp [hlen]), List.map_map]
  rfl

/-- **Relay transparency.** In every run in which all that arrives at a side are the packets that its
endpoint protected, in order and without loss, and those that came up once the far address was known
are `Passable`: the far endpoint opens what it is sent to exactly these packets, one after the other
and without a gap; every packet that arrived was dropped before the address was known, was passed on,
or still waits; and none that arrived once the address was known was dropped. -/
theorem relay_transparent {P : Primitives} (hP : GcmLaws P) (theirs ours : Side → Master)
    (callerInitialAddr calleeInitialAddr : Option SocketAddr) (side : Side) (sent : List Sent)
    (events : List RelayEvent)
    (harrive : (arrivals side events).map Datagram.bytes =
      (protectedBy P ((theirs side).fresh P) sent).map Prod.snd)
    (hlabelled : ∀ d ∈ protectedBy P ((theirs side).fresh P) sent, d.1.Labelled)
    (hclimbs : Schedule climbs .start ((protectedBy P ((theirs side).fresh P) sent).map Prod.fst))
    (hpass : Passable ((protectedBy P ((theirs side).fresh P) sent).drop
      (((relayWith P theirs ours callerInitialAddr calleeInitialAddr).run P events).task side).dropped)) :
    let start := relayWith P theirs ours callerInitialAddr calleeInitialAddr
    let s := start.run P events
    let packets := protectedBy P ((theirs side).fresh P) sent
    (runAll (unprotectRtp P) ((ours side.other).fresh P) ((s.sent side.other).map Datagram.bytes)).1 =
      (((packets.drop (s.task side).dropped).take (s.sent side.other).length).map
        fun d => .ok d.1.rtp) ∧
    packets.length =
      (s.task side).dropped + (s.sent side.other).length + (s.task side).waiting ∧
    ∀ done, done <+: events → ((start.run P done).task side.other).remote ≠ none →
      (s.task side).dropped ≤ (arrivals side done).length := by
  intro start s packets
  obtain ⟨addr, htask⟩ : ∃ addr, start.task side =
      ⟨[], addr, none, some ((theirs side).fresh P), some ((ours side.other).fresh P), 0⟩ :=
    relayWith_task side
  have hsent : start.sent side.other = [] := rfl
  have hstart : Serves P ((theirs side).fresh P) ((ours side.other).fresh P) side start [] := by
    refine ⟨[], [], rfl, ?_, fun _ => by rw [htask]; rfl⟩
    rw [htask, hsent]
    exact ⟨.idle rfl rfl, Nat.le_refl _, rfl, rfl, rfl⟩
  have hstream := stream_of_protectedBy hP (theirs side) hlabelled hclimbs hpass
  have hall : packets.length = (arrivals side events).length := by
    simpa using congrArg List.length harrive.symm
  obtain ⟨gone, rest, hsplit, hp, -⟩ := Serves.run hP hstart hstream harrive (List.prefix_refl events)
  rw [← hall, List.take_length] at hsplit
  have hlen : (s.sent side.other).length = (gone.drop (s.task side).dropped).length := by
    simpa using congrArg List.length hp.out
  have hdropped : (s.task side).dropped ≤ gone.length := hp.dropped
  refine ⟨?_, ?_, fun done hdone hknown => ?_⟩
  · rw [hp.opened hP, show packets = gone ++ rest from hsplit,
      List.drop_append_of_le_length hdropped, hlen, List.take_left]
  · rw [show packets = gone ++ rest from hsplit, hp.waits.length, hlen, List.length_append,
      List.length_drop]
    omega
  · obtain ⟨addr', haddr⟩ := Option.ne_none_iff_exists'.mp hknown
    obtain ⟨more, rfl⟩ := hdone
    have hsame : (s.task side).dropped = ((start.run P done).task side).dropped := by
      rw [show s = (start.run P done).run P more from RelayState.run_append _ _]
      exact dropped_run more haddr
    obtain ⟨gone', rest', hsplit', hp', -⟩ :=
      Serves.run hP hstart hstream harrive (List.prefix_append done more)
    have hle := congrArg List.length hsplit'
    rw [List.length_take, List.length_append] at hle
    have := hp'.dropped
    omega

/-! ## Concrete runs -/

/-- The keys of all in the demonstrations. -/
def demoMaster : Master := ⟨.aesCm128HmacSha180, Vector.replicate 16 1, Vector.replicate 14 2⟩

/-- A relay whose SDP declared the callee's address only. -/
def demoPair : RelayState :=
  relayWith .plain (fun _ => demoMaster) (fun _ => demoMaster) none
    (some (.v4 (Vector.replicate 4 7) 4000))

/-- Packets that come from the callee, and their way through its task. -/
def fromCallee (packets : List (Sent × List UInt8)) : List RelayEvent :=
  packets.flatMap fun d =>
    [.arrive .callee ⟨d.2, .v4 (Vector.replicate 4 7) 4000⟩, .receive .callee, .forward .callee]

/-- The caller's address becomes known. -/
def callerSpeaks : List RelayEvent :=
  [.arrive .caller ⟨[0], .v4 (Vector.replicate 4 8) 5000⟩, .receive .caller]

/-- The first packet of the callee is dropped, the other two reach the caller. -/
theorem relay_transparent_concrete :
    let packets := sealedDemo [40000, 40001, 40002]
    let events := fromCallee (packets.take 1) ++ callerSpeaks ++ fromCallee (packets.drop 1)
    let s := demoPair.run .plain events
    (runAll (unprotectRtp .plain) (demoMaster.fresh .plain) ((s.sent .caller).map Datagram.bytes)).1 =
      (((packets.drop (s.task .callee).dropped).take (s.sent .caller).length).map
        fun d => .ok d.1.rtp) ∧
    packets.length = (s.task .callee).dropped + (s.sent .caller).length + (s.task .callee).waiting ∧
    ∀ done, done <+: events → ((demoPair.run .plain done).task .caller).remote ≠ none →
      (s.task .callee).dropped ≤ (arrivals .callee done).length :=
  relay_transparent Primitives.plain_laws (fun _ => demoMaster) (fun _ => demoMaster) none
    (some (.v4 (Vector.replicate 4 7) 4000)) .callee ([40000, 40001, 40002].map packetAt) _
    (by decide +kernel) (by decide +kernel) (by decide +kernel) (by decide +kernel)

/-- **Deaf after a gap.** The callee's packet 65535 is dropped because the caller's address is unknown.
Packet 65536 arrives once it is known and is not passed on: the relay takes it to be the first of its
stream, in period 0, and the tag does not verify. -/
theorem relay_deaf :
    let packets := sealedDemo [65535, 65536]
    let events := fromCallee (packets.take 1) ++ callerSpeaks
    let s := demoPair.run .plain events
    let s' := s.run .plain (fromCallee (packets.drop 1))
    packets.map Prod.fst = [65535, 65536].map packetAt ∧ InRange packets ∧
      Schedule climbs .start (packets.map Prod.fst) ∧
      ((s.task .caller).remote).isSome ∧ (s'.sent .caller) = [] ∧ (s'.task .callee).waiting = 0 := by
  decide +kernel

end Minghe.Media.Relay
