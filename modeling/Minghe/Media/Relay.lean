import Mathlib.Data.UInt
import Minghe.Lib.Net
import Minghe.Lib.Table

/-!
# The relay's port pool

Model of `MediaRelayManager` (`relay.rs`): the port counter, `allocate_port_pair`, `create_session`
and `remove_session`. The calls come one after the other, so the `compare_exchange` that resets the
counter always succeeds. Port arithmetic wraps, as in the release build that the README and the
Dockerfile make.

The counter knows nothing of the sessions. From an even `port_start` it hands out the ports of a
cycle of `poolSize` ports, `portAt 0, portAt 1, …`, over and over (`allocatePortPair_spec`); with
`port_end = 65535` it never reaches the reset and the cycle is all even ports. So the session that is
created as number `i` holds the ports `portAt (2 i)` and `portAt (2 i + 1)` (`Tracks`), and whether
live sessions share a port is a matter of their numbers (`exclusive_iff`).

Results:
* `relay_exclusive_iff`: ports are exclusive in every state of a run iff the run is `Spaced`.
* `relay_shares_port`: a run of two calls whose sessions share both ports.
-/

namespace Minghe.Media.Relay

open Minghe.Lib

/-- A session id is a Call-ID. -/
abbrev SessionId := List Char

/-- `RelaySession`. -/
structure RelaySession where
  sessionId : SessionId
  callerPort : UInt16
  calleePort : UInt16
  callerAddr : Option SocketAddr
  calleeAddr : Option SocketAddr
  deriving DecidableEq, Repr

/-- `MediaRelayManager`. A `watch::Sender` is the number of its channel; `stopped` are the channels on
which `true` was sent. -/
structure MediaRelayManager where
  portStart : UInt16
  portEnd : UInt16
  nextPort : UInt16
  mediaAddr : List Char
  sessions : Table SessionId RelaySession
  shutdownSenders : Table SessionId Nat
  stopped : List Nat

/-- `MediaRelayManager::new`. -/
def MediaRelayManager.new (portStart portEnd : UInt16) (mediaAddr : List Char) :
    MediaRelayManager where
  portStart := portStart
  portEnd := portEnd
  nextPort := portStart
  mediaAddr := mediaAddr
  sessions := ∅
  shutdownSenders := ∅
  stopped := []

/-- The loop of `allocate_port_pair`: the port it returns and the counter it leaves. -/
def allocateLoop (portStart portEnd port : UInt16) (attempts : Nat) : Option UInt16 × UInt16 :=
  if port ≥ portEnd then
    -- `compare_exchange(port + 2, port_start)`, then `attempts += 1`
    if attempts + 1 > 3 then (none, portStart)
    else allocateLoop portStart portEnd portStart (attempts + 1)
  else if port % 2 = 0 then (some port, port + 2)
  else allocateLoop portStart portEnd (port + 2) attempts
termination_by (4 - attempts, 65536 - port.toNat)
decreasing_by
  · exact Prod.Lex.left _ _ (by omega)
  · -- an odd port below `portEnd` is at most 65533, so the counter does not wrap
    apply Prod.Lex.right
    rename_i h hodd
    have h1 := portEnd.toNat_lt
    have h2 := port.toNat_lt
    have h3 : port.toNat < portEnd.toNat := by
      rw [ge_iff_le, UInt16.le_iff_toNat_le] at h; omega
    have h4 : port.toNat % 2 ≠ 0 := fun e => hodd (UInt16.toNat_inj.mp (by simpa using e))
    have h5 : (port + 2).toNat = port.toNat + 2 := by
      simp only [UInt16.toNat_add, UInt16.reduceToNat]; omega
    omega

namespace MediaRelayManager

variable (m : MediaRelayManager)

/-- `allocate_port_pair`. -/
def allocatePortPair : Option UInt16 × MediaRelayManager :=
  let (port, nextPort) := allocateLoop m.portStart m.portEnd m.nextPort 0
  (port, { m with nextPort := nextPort })

/-- `create_session`. -/
def createSession (sessionId : SessionId) : Option RelaySession × MediaRelayManager :=
  match m.sessions.lookup sessionId with
  | some existing => (some existing, m)
  | none =>
    match m.allocatePortPair with
    | (none, m) => (none, m)
    | (some callerPort, m) =>
      match m.allocatePortPair with
      | (none, m) => (none, m)
      | (some calleePort, m) =>
        let session := ⟨sessionId, callerPort, calleePort, none, none⟩
        (some session, { m with sessions := m.sessions.insert sessionId session })

/-- `remove_session`. -/
def removeSession (sessionId : SessionId) : Option RelaySession × MediaRelayManager :=
  let stopped := match m.shutdownSenders.lookup sessionId with
    | some tx => m.stopped ++ [tx]
    | none => m.stopped
  (m.sessions.lookup sessionId,
    { m with
      shutdownSenders := m.shutdownSenders.erase sessionId
      stopped := stopped
      sessions := m.sessions.erase sessionId })

/-- `register_shutdown`. -/
def registerShutdown (sessionId : SessionId) (tx : Nat) : MediaRelayManager :=
  { m with shutdownSenders := m.shutdownSenders.insert sessionId tx }

/-- `create_session` finds the session, or makes it, or leaves none. -/
theorem createSession_cases (sessionId : SessionId) :
    (∃ existing, m.sessions.lookup sessionId = some existing ∧ m.createSession sessionId = (some existing, m)) ∨
    (m.sessions.lookup sessionId = none ∧
      ∃ nextPort, m.createSession sessionId = (none, { m with nextPort := nextPort })) ∨
    (m.sessions.lookup sessionId = none ∧
      ∃ nextPort session, m.createSession sessionId = (some session, { m with
        nextPort := nextPort
        sessions := m.sessions.insert sessionId session })) := by
  cases h : m.sessions.lookup sessionId with
  | some existing => exact .inl ⟨existing, rfl, by rw [createSession, h]⟩
  | none =>
    refine .inr ?_
    obtain ⟨p₁, nextPort₁, h₁⟩ : ∃ p nextPort, m.allocatePortPair = (p, { m with nextPort := nextPort }) :=
      ⟨_, _, rfl⟩
    cases p₁ with
    | none => exact .inl ⟨rfl, nextPort₁, by simp only [createSession, h, h₁]⟩
    | some callerPort =>
      obtain ⟨p₂, nextPort₂, h₂⟩ : ∃ p nextPort,
          ({ m with nextPort := nextPort₁ } : MediaRelayManager).allocatePortPair =
            (p, { m with nextPort := nextPort }) := ⟨_, _, rfl⟩
      cases p₂ with
      | none => exact .inl ⟨rfl, nextPort₂, by simp only [createSession, h, h₁, h₂]⟩
      | some calleePort =>
        exact .inr ⟨rfl, nextPort₂, ⟨sessionId, callerPort, calleePort, none, none⟩,
          by simp only [createSession, h, h₁, h₂]⟩

/-- What `create_session` returns is what is there afterwards; no other session is touched. -/
theorem createSession_sessions (sessionId sessionId' : SessionId) :
    (m.createSession sessionId).2.sessions.lookup sessionId' =
      if sessionId' = sessionId then (m.createSession sessionId).1 else m.sessions.lookup sessionId' := by
  by_cases he : sessionId' = sessionId
  · rw [if_pos he, he]
    rcases m.createSession_cases sessionId with ⟨existing, h, heq⟩ | ⟨h, nextPort, heq⟩ |
      ⟨h, nextPort, session, heq⟩
    · rw [heq]
      exact h
    · rw [heq]
      exact h
    · rw [heq]
      exact AList.lookup_insert _
  · rw [if_neg he]
    rcases m.createSession_cases sessionId with ⟨existing, h, heq⟩ | ⟨h, nextPort, heq⟩ |
      ⟨h, nextPort, session, heq⟩
    · rw [heq]
    · rw [heq]
    · rw [heq]
      exact AList.lookup_insert_ne he

theorem createSession_shutdownSenders (sessionId : SessionId) :
    (m.createSession sessionId).2.shutdownSenders = m.shutdownSenders := by
  rcases m.createSession_cases sessionId with ⟨existing, h, heq⟩ | ⟨h, nextPort, heq⟩ |
    ⟨h, nextPort, session, heq⟩ <;> rw [heq]

/-- **Port exclusivity**: the ports of the live sessions are pairwise distinct, across sessions and
within one. -/
structure Exclusive : Prop where
  within : ∀ id s, m.sessions.lookup id = some s → s.callerPort ≠ s.calleePort
  across : ∀ id id' s s', id ≠ id' → m.sessions.lookup id = some s →
    m.sessions.lookup id' = some s' →
      s.callerPort ≠ s'.callerPort ∧ s.callerPort ≠ s'.calleePort ∧
        s.calleePort ≠ s'.callerPort ∧ s.calleePort ≠ s'.calleePort

end MediaRelayManager

/-! ## The cycle of ports -/

/-- The number of ports that the counter goes through before it starts over. -/
def poolSize (portStart portEnd : UInt16) : Nat :=
  if portEnd = 65535 then 32768 else (portEnd.toNat - portStart.toNat + 1) / 2

/-- The `k`-th port that the counter hands out. -/
def portAt (portStart portEnd : UInt16) (k : Nat) : UInt16 :=
  UInt16.ofNat (portStart.toNat + 2 * (k % poolSize portStart portEnd))

/-- The pool of a manager. -/
abbrev MediaRelayManager.pool (m : MediaRelayManager) : Nat := poolSize m.portStart m.portEnd

theorem allocateLoop_of_lt {portStart portEnd port : UInt16} {attempts : Nat}
    (h : port.toNat < portEnd.toNat) (heven : port.toNat % 2 = 0) :
    allocateLoop portStart portEnd port attempts = (some port, port + 2) := by
  have h1 : ¬ port ≥ portEnd := by rw [ge_iff_le, UInt16.le_iff_toNat_le]; omega
  have h2 : port % 2 = 0 := UInt16.toNat_inj.mp (by simpa using heven)
  rw [allocateLoop, if_neg h1, if_pos h2]

theorem allocateLoop_of_ge {portStart portEnd port : UInt16} {attempts : Nat}
    (h : portEnd.toNat ≤ port.toNat) (ha : attempts < 3) :
    allocateLoop portStart portEnd port attempts =
      allocateLoop portStart portEnd portStart (attempts + 1) := by
  rw [allocateLoop, if_pos (by rw [ge_iff_le, UInt16.le_iff_toNat_le]; exact h), if_neg (by omega)]

theorem add_two_ofNat (n : Nat) : UInt16.ofNat n + 2 = UInt16.ofNat (n + 2) := by
  apply UInt16.toNat_inj.mp
  simp only [UInt16.toNat_add, UInt16.toNat_ofNat', UInt16.reduceToNat]
  omega

/-- What the manager was built with: an even `port_start`, not above `port_end`. -/
structure EvenRange (m : MediaRelayManager) : Prop where
  even : m.portStart.toNat % 2 = 0
  le : m.portStart.toNat ≤ m.portEnd.toNat

/-- The counter after `k` ports: it stands at slot `k` of the cycle, or at its end for slot 0. -/
def Counts (m : MediaRelayManager) (k : Nat) : Prop :=
  ∃ r, r ≤ m.pool ∧ r % m.pool = k % m.pool ∧
    m.nextPort = UInt16.ofNat (m.portStart.toNat + 2 * r)

/-- Up to the end of the cycle slot `r` is slot `r`; there the counter is past the range, or, with
`port_end = 65535`, back at the start by wrapping. -/
theorem pool_cases {m : MediaRelayManager} (hr : EvenRange m) {r : Nat} (hle : r ≤ m.pool) :
    (m.portEnd.toNat = 65535 ∧ m.pool = 32768) ∨
    (m.portStart.toNat + 2 * r ≤ 65535 ∧
      (m.portStart.toNat + 2 * r < m.portEnd.toNat ↔ r < m.pool)) := by
  have hs := hr.even
  have hle' := hr.le
  have hend := m.portEnd.toNat_lt
  unfold MediaRelayManager.pool poolSize at hle ⊢
  by_cases he : m.portEnd = 65535
  · left; rw [if_pos he, he]; exact ⟨rfl, rfl⟩
  · have he' : m.portEnd.toNat ≠ 65535 := fun e => he (UInt16.toNat_inj.mp e)
    right
    rw [if_neg he] at hle ⊢
    omega

/-- What the loop returns at slot `r`: the port of that slot, slot 0 for the end of the cycle. -/
theorem allocateLoop_slot {m : MediaRelayManager} (hr : EvenRange m) (hpool : 0 < m.pool) {r : Nat}
    (hle : r ≤ m.pool) :
    ∃ r', r' < m.pool ∧ r' % m.pool = r % m.pool ∧
      allocateLoop m.portStart m.portEnd (UInt16.ofNat (m.portStart.toNat + 2 * r)) 0 =
        (some (UInt16.ofNat (m.portStart.toNat + 2 * r')),
          UInt16.ofNat (m.portStart.toNat + 2 * r') + 2) := by
  have hev := hr.even
  have hs := m.portStart.toNat_lt
  have hend := m.portEnd.toNat_lt
  -- inside the range the loop returns at once
  have hin : ∀ {r' attempts}, (m.portStart.toNat + 2 * r') % 65536 < m.portEnd.toNat →
      allocateLoop m.portStart m.portEnd (UInt16.ofNat (m.portStart.toNat + 2 * r')) attempts =
        (some (UInt16.ofNat (m.portStart.toNat + 2 * r')),
          UInt16.ofNat (m.portStart.toNat + 2 * r') + 2) := by
    intro r' attempts h
    have ht : (UInt16.ofNat (m.portStart.toNat + 2 * r')).toNat =
        (m.portStart.toNat + 2 * r') % 65536 := UInt16.toNat_ofNat'
    exact allocateLoop_of_lt (by rw [ht]; exact h) (by rw [ht]; omega)
  by_cases hlt : r < m.pool
  · refine ⟨r, hlt, rfl, hin ?_⟩
    rcases pool_cases hr hle with ⟨he, -⟩ | ⟨hnw, hiff⟩
    · omega
    · have := hiff.mpr hlt
      omega
  · obtain rfl : r = m.pool := by omega
    have hstart : UInt16.ofNat (m.portStart.toNat + 2 * 0) = m.portStart :=
      UInt16.toNat_inj.mp (by rw [UInt16.toNat_ofNat']; omega)
    refine ⟨0, hpool, by rw [Nat.zero_mod, Nat.mod_self], ?_⟩
    rcases pool_cases hr (Nat.le_refl _) with ⟨he, hp⟩ | ⟨hnw, hiff⟩
    · -- the counter has wrapped to the start by itself
      have hwrap : UInt16.ofNat (m.portStart.toNat + 2 * m.pool) =
          UInt16.ofNat (m.portStart.toNat + 2 * 0) :=
        UInt16.toNat_inj.mp (by rw [UInt16.toNat_ofNat', UInt16.toNat_ofNat', hp]; omega)
      rw [hwrap]
      exact @hin 0 _ (by omega)
    · -- past the range: reset to the start
      have h0 := pool_cases hr (Nat.zero_le _)
      have hfirst := @hin 0 1 (by omega)
      rw [hstart] at hfirst ⊢
      rw [allocateLoop_of_ge (by rw [UInt16.toNat_ofNat']; omega) (by decide), hfirst]

/-- **The counter hands out the ports of the cycle in turn.** -/
theorem allocatePortPair_spec {m : MediaRelayManager} (hr : EvenRange m) (hpool : 0 < m.pool) {k : Nat}
    (hk : Counts m k) :
    ∃ nextPort, m.allocatePortPair =
        (some (portAt m.portStart m.portEnd k), { m with nextPort := nextPort }) ∧
      Counts { m with nextPort := nextPort } (k + 1) := by
  obtain ⟨r, hle, hmod, hnext⟩ := hk
  obtain ⟨r', hlt, hmod', hloop⟩ := allocateLoop_slot hr hpool hle
  refine ⟨UInt16.ofNat (m.portStart.toNat + 2 * r') + 2, ?_, r' + 1, hlt, ?_, ?_⟩
  · rw [MediaRelayManager.allocatePortPair, hnext, hloop, portAt, ← hmod, ← hmod',
      Nat.mod_eq_of_lt hlt]
  · show (r' + 1) % m.pool = (k + 1) % m.pool
    rw [Nat.add_mod, hmod', hmod, ← Nat.add_mod]
  · exact add_two_ofNat _

/-- A range without an even port: nothing is handed out. -/
theorem allocatePortPair_empty {m : MediaRelayManager} (hr : EvenRange m) (hpool : m.pool = 0)
    (hnext : m.nextPort = m.portStart) : m.allocatePortPair = (none, m) := by
  have hge : m.portEnd.toNat ≤ m.portStart.toNat := by
    unfold MediaRelayManager.pool poolSize at hpool
    split at hpool
    · cases hpool
    · omega
  rw [MediaRelayManager.allocatePortPair, hnext, allocateLoop_of_ge hge (by decide),
    allocateLoop_of_ge hge (by decide), allocateLoop_of_ge hge (by decide), allocateLoop,
    if_pos (by rw [ge_iff_le, UInt16.le_iff_toNat_le]; exact hge), if_pos (by decide)]
  have hm : { m with nextPort := m.portStart } = m := by
    cases m; cases hnext; rfl
  simp only [hm]

/-- Two ports of the cycle are equal iff their numbers agree modulo its length. -/
theorem portAt_inj {m : MediaRelayManager} (hr : EvenRange m) (hpool : 0 < m.pool) {k l : Nat} :
    portAt m.portStart m.portEnd k = portAt m.portStart m.portEnd l ↔
      k % m.pool = l % m.pool := by
  have hk := Nat.mod_lt k hpool
  have hl := Nat.mod_lt l hpool
  constructor
  · intro h
    have h' := congrArg UInt16.toNat h
    simp only [portAt, UInt16.toNat_ofNat'] at h'
    change (_ + 2 * (k % m.pool)) % _ = (_ + 2 * (l % m.pool)) % _ at h'
    have hck := pool_cases hr (Nat.le_of_lt hk)
    have hcl := pool_cases hr (Nat.le_of_lt hl)
    omega
  · intro h
    rw [portAt, portAt, h]

/-! ## Runs -/

/-- A call of `create_session` or `remove_session`. -/
inductive Call where
  | create (id : SessionId)
  | remove (id : SessionId)
  deriving DecidableEq, Repr

namespace MediaRelayManager

/-- The manager after a call. -/
def call (m : MediaRelayManager) : Call → MediaRelayManager
  | .create id => (m.createSession id).2
  | .remove id => (m.removeSession id).2

/-- The manager after a run. -/
def run (m : MediaRelayManager) (calls : List Call) : MediaRelayManager := calls.foldl call m

end MediaRelayManager

/-- What matters of a run's history: how many sessions were created, and the number of each live
one. -/
structure Ages where
  created : Nat
  born : Table SessionId Nat

/-- Before the first call. -/
def Ages.start : Ages := ⟨0, ∅⟩

/-- A call creates a session only if its id is not live. -/
def Ages.call (a : Ages) : Call → Ages
  | .create id => if id ∈ a.born then a else ⟨a.created + 1, a.born.insert id a.created⟩
  | .remove id => ⟨a.created, a.born.erase id⟩

/-- Two sessions, the later created `d` sessions after the earlier, hold no common port of a cycle of
`n` ports. -/
def Apart (n d : Nat) : Prop := 2 * d % n ≠ 0 ∧ 2 * d % n ≠ 1 ∧ 2 * d % n ≠ n - 1

/-- A call that creates a session finds a cycle of two ports or more, and every live session apart
from the new one. -/
def Fits (n : Nat) (a : Ages) : Call → Prop
  | .create id => id ∈ a.born ∨
      (2 ≤ n ∧ ∀ e ∈ a.born.entries, Apart n (a.created - e.2))
  | .remove _ => True

/-- Every call of the run fits. -/
def Spaced (n : Nat) : Ages → List Call → Prop
  | _, [] => True
  | a, c :: cs => Fits n a c ∧ Spaced n (a.call c) cs

instance (n d : Nat) : Decidable (Apart n d) := by unfold Apart; infer_instance

instance (n : Nat) (a : Ages) : ∀ c, Decidable (Fits n a c)
  | .create _ => inferInstanceAs (Decidable (_ ∨ (_ ∧ _)))
  | .remove _ => isTrue trivial

instance (n : Nat) : ∀ a cs, Decidable (Spaced n a cs)
  | _, [] => isTrue trivial
  | a, c :: cs =>
    have := instDecidableSpaced n (a.call c) cs
    inferInstanceAs (Decidable (_ ∧ _))

/-- The numbers of the live sessions give each of them its own ports. -/
structure Clear (n : Nat) (a : Ages) : Prop where
  two : ∀ id i, a.born.lookup id = some i → 2 ≤ n
  apart : ∀ id id' i j, a.born.lookup id = some i → a.born.lookup id' = some j → i < j →
    Apart n (j - i)

/-- The manager holds, for each live session, the ports of its number. -/
structure Tracks (n : Nat) (m : MediaRelayManager) (a : Ages) : Prop where
  range : EvenRange m
  pool : m.pool = n
  counts : Counts m (2 * a.created)
  sessions : ∀ id, m.sessions.lookup id = (a.born.lookup id).map fun i =>
    ⟨id, portAt m.portStart m.portEnd (2 * i), portAt m.portStart m.portEnd (2 * i + 1), none, none⟩
  older : ∀ id i, a.born.lookup id = some i → i < a.created
  single : ∀ id id' i, a.born.lookup id = some i → a.born.lookup id' = some i → id = id'

variable {n : Nat} {m : MediaRelayManager} {a : Ages}

/-- A new session gets the next two ports of the cycle. -/
theorem createSession_spec (hr : EvenRange m) (hpool : 0 < m.pool) {k : Nat} (hk : Counts m k)
    {id : SessionId} (hid : m.sessions.lookup id = none) :
    ∃ nextPort,
      (m.createSession id).2 = { m with
        nextPort := nextPort
        sessions := m.sessions.insert id ⟨id, portAt m.portStart m.portEnd k,
          portAt m.portStart m.portEnd (k + 1), none, none⟩ } ∧
      Counts { m with nextPort := nextPort } (k + 2) := by
  obtain ⟨p1, h1, hc1⟩ := allocatePortPair_spec hr hpool hk
  obtain ⟨p2, h2, hc2⟩ := allocatePortPair_spec (m := { m with nextPort := p1 })
    ⟨hr.even, hr.le⟩ hpool hc1
  refine ⟨p2, ?_, hc2⟩
  rw [MediaRelayManager.createSession, hid]
  simp only [h1, h2]

theorem lookup_eq_none_of_not_mem (ht : Tracks n m a) {id : SessionId} (h : id ∉ a.born) :
    m.sessions.lookup id = none := by
  rw [ht.sessions, AList.lookup_eq_none.mpr h]; rfl

/-- One call keeps the manager on track. -/
theorem Tracks.step (ht : Tracks n m a) (hn : 0 < n) (c : Call) : Tracks n (m.call c) (a.call c) := by
  have ht' := ht
  obtain ⟨hr, hp, hc, hs, ho, hu⟩ := ht'
  cases c with
  | remove id =>
    refine ⟨⟨hr.even, hr.le⟩, hp, hc, fun id' => ?_, fun id' i hi => ?_, fun id' id'' i h1 h2 => ?_⟩
    · show (m.sessions.erase id).lookup id' = ((a.born.erase id).lookup id').map _
      rw [Table.lookup_erase_eq, Table.lookup_erase_eq, hs]
      split <;> rfl
    · simp only [Ages.call, Table.lookup_erase_eq] at hi
      split at hi
      · cases hi
      · exact ho id' i hi
    · simp only [Ages.call, Table.lookup_erase_eq] at h1 h2
      split at h1
      · cases h1
      · split at h2
        · cases h2
        · exact hu id' id'' i h1 h2
  | create id =>
    by_cases hlive : id ∈ a.born
    · -- the id is live: the call returns its session
      obtain ⟨i, hi⟩ := Option.isSome_iff_exists.mp (AList.lookup_isSome.mpr hlive)
      have hm : m.call (.create id) = m := by
        simp only [MediaRelayManager.call, MediaRelayManager.createSession, hs, hi, Option.map_some]
      rw [hm, Ages.call, if_pos hlive]
      exact ht
    · obtain ⟨nextPort, hm, hc'⟩ := createSession_spec hr (by omega) hc
        (lookup_eq_none_of_not_mem ht hlive)
      rw [MediaRelayManager.call, hm, Ages.call, if_neg hlive]
      refine ⟨⟨hr.even, hr.le⟩, hp, hc', fun id' => ?_, fun id' i hi => ?_,
        fun id' id'' i h1 h2 => ?_⟩
      · simp only [Table.lookup_insert_eq, hs]
        split
        · rename_i he; subst he; rfl
        · rfl
      · simp only [Table.lookup_insert_eq] at hi
        split at hi
        · cases hi; exact Nat.lt_succ_self _
        · exact Nat.lt_succ_of_lt (ho id' i hi)
      · simp only [Table.lookup_insert_eq] at h1 h2
        split at h1
        · split at h2
          · rename_i e1 e2; rw [e1, e2]
          · cases h1; exact absurd (ho _ _ h2) (Nat.lt_irrefl _)
        · split at h2
          · cases h2; exact absurd (ho _ _ h1) (Nat.lt_irrefl _)
          · exact hu id' id'' i h1 h2

/-! ## Exclusive ports and the numbers of the sessions -/

/-- A number and a later one agree modulo `n` iff their difference is a multiple of it. -/
theorem mod_eq_add_iff (n x e : Nat) : x % n = (x + e) % n ↔ e % n = 0 := by
  rw [← Nat.dvd_iff_mod_eq_zero, ← Nat.add_sub_cancel_left (n := x) (m := e),
    ← Nat.modEq_iff_dvd' (Nat.le_add_right x e), Nat.add_sub_cancel_left]
  rfl

theorem succ_mod_eq {n x : Nat} (hn : 0 < n) :
    (x + 1) % n = if x % n = n - 1 then 0 else x % n + 1 := by
  have hlt := Nat.mod_lt x hn
  rw [Nat.add_mod]
  split
  · rename_i h
    rcases Nat.lt_or_ge 1 n with h1 | h1
    · rw [h, Nat.mod_eq_of_lt h1, Nat.sub_add_cancel hn, Nat.mod_self]
    · obtain rfl : n = 1 := by omega
      exact Nat.mod_one _
  · rw [Nat.mod_eq_of_lt (b := n) (a := 1) (by omega), Nat.mod_eq_of_lt (by omega)]

/-- Session `j`, created after session `i`, shares none of its ports iff the two are `Apart`. -/
theorem apart_iff (hn : 2 ≤ n) {i j : Nat} (hij : i < j) :
    (2 * i % n ≠ 2 * j % n ∧ 2 * i % n ≠ (2 * j + 1) % n ∧
      (2 * i + 1) % n ≠ 2 * j % n ∧ (2 * i + 1) % n ≠ (2 * j + 1) % n) ↔ Apart n (j - i) := by
  obtain ⟨d, rfl⟩ : ∃ d, j = i + 1 + d := ⟨j - i - 1, by omega⟩
  have h1 := mod_eq_add_iff n (2 * i) (2 * d + 1 + 1)
  have h2 := mod_eq_add_iff n (2 * i) (2 * d + 1 + 1 + 1)
  have h3 := mod_eq_add_iff n (2 * i + 1) (2 * d + 1)
  have h4 := mod_eq_add_iff n (2 * i + 1) (2 * d + 1 + 1)
  -- the difference `2 d + 2` against its neighbours
  have hup := succ_mod_eq (n := n) (x := 2 * d + 1 + 1) (by omega)
  have hdown := succ_mod_eq (n := n) (x := 2 * d + 1) (by omega)
  have hlt := Nat.mod_lt (2 * d + 1) (show 0 < n by omega)
  rw [show 2 * (i + 1 + d) = 2 * i + (2 * d + 1 + 1) by omega,
    show 2 * i + (2 * d + 1 + 1) + 1 = 2 * i + (2 * d + 1 + 1 + 1) by omega, Apart,
    show 2 * (i + 1 + d - i) = 2 * d + 1 + 1 by omega]
  rw [show 2 * i + 1 + (2 * d + 1) = 2 * i + (2 * d + 1 + 1) by omega] at h3
  rw [show 2 * i + 1 + (2 * d + 1 + 1) = 2 * i + (2 * d + 1 + 1 + 1) by omega] at h4
  rw [Ne, Ne, Ne, Ne, h1, h2, h3, h4, hup]
  constructor
  · rintro ⟨a1, a2, a3, -⟩
    refine ⟨a1, ?_, ?_⟩ <;> intro he
    · rw [hdown] at he; split at he <;> omega
    · rw [if_pos he] at a2; exact a2 rfl
  · rintro ⟨a1, a2, a3⟩
    refine ⟨a1, ?_, ?_, a1⟩
    · rw [if_neg a3]; exact Nat.succ_ne_zero _
    · intro he
      rw [hdown, if_neg (by omega), he] at a2
      exact a2 rfl

/-- **Exclusive ports are clear numbers.** -/
theorem exclusive_iff (ht : Tracks n m a) (hn : 0 < n) : m.Exclusive ↔ Clear n a := by
  have hport : ∀ k l, portAt m.portStart m.portEnd k = portAt m.portStart m.portEnd l ↔
      k % n = l % n := by
    intro k l
    rw [portAt_inj ht.range (by rw [ht.pool]; exact hn), ht.pool]
  have hlive : ∀ {id i}, a.born.lookup id = some i → m.sessions.lookup id = some
      ⟨id, portAt m.portStart m.portEnd (2 * i), portAt m.portStart m.portEnd (2 * i + 1), none,
        none⟩ := fun {id i} h => by rw [ht.sessions, h]; rfl
  have htwo : ∀ i, 2 * i % n ≠ (2 * i + 1) % n ↔ 2 ≤ n := by
    intro i
    rw [Ne, mod_eq_add_iff]
    rcases Nat.lt_or_ge 1 n with h1 | h1
    · rw [Nat.mod_eq_of_lt h1]; omega
    · obtain rfl : n = 1 := by omega
      simp
  constructor
  · rintro ⟨hw, hx⟩
    have h2 : ∀ id i, a.born.lookup id = some i → 2 ≤ n := by
      intro id i hi
      have := hw id _ (hlive hi)
      simp only [Ne, hport] at this
      exact (htwo i).mp this
    refine ⟨h2, fun id id' i j hi hj hij => (apart_iff (h2 id i hi) hij).mp ?_⟩
    have hne : id ≠ id' := by
      rintro rfl
      rw [hi] at hj; cases hj; exact Nat.lt_irrefl _ hij
    have := hx id id' _ _ hne (hlive hi) (hlive hj)
    simpa only [Ne, hport] using this
  · rintro ⟨h2, hap⟩
    have hinv : ∀ {id s}, m.sessions.lookup id = some s → ∃ i, a.born.lookup id = some i ∧
        s.callerPort = portAt m.portStart m.portEnd (2 * i) ∧
        s.calleePort = portAt m.portStart m.portEnd (2 * i + 1) := by
      intro id s hs
      rw [ht.sessions] at hs
      cases hi : a.born.lookup id with
      | none => rw [hi] at hs; cases hs
      | some i => rw [hi] at hs; cases hs; exact ⟨i, rfl, rfl, rfl⟩
    constructor
    · intro id s hs
      obtain ⟨i, hi, hcr, hce⟩ := hinv hs
      rw [hcr, hce, Ne, hport]
      exact (htwo i).mpr (h2 id i hi)
    · intro id id' s s' hne hs hs'
      obtain ⟨i, hi, hcr, hce⟩ := hinv hs
      obtain ⟨j, hj, hcr', hce'⟩ := hinv hs'
      simp only [hcr, hce, hcr', hce', Ne, hport]
      rcases Nat.lt_trichotomy i j with h | h | h
      · exact (apart_iff (h2 id i hi) h).mpr (hap id id' i j hi hj h)
      · subst h; exact absurd (ht.single id id' i hi hj) hne
      · obtain ⟨a1, a2, a3, a4⟩ := (apart_iff (h2 id i hi) h).mpr (hap id' id j i hj hi h)
        exact ⟨Ne.symm a1, Ne.symm a3, Ne.symm a2, Ne.symm a4⟩

/-- A call keeps the numbers clear iff it fits. -/
theorem clear_call_iff (ht : Tracks n m a) (hcl : Clear n a) (c : Call) :
    Clear n (a.call c) ↔ Fits n a c := by
  cases c with
  | remove id =>
    have hsub : ∀ {id' i}, (a.call (.remove id)).born.lookup id' = some i →
        a.born.lookup id' = some i := by
      intro id' i hi
      simp only [Ages.call, Table.lookup_erase_eq] at hi
      split at hi
      · cases hi
      · exact hi
    exact iff_of_true ⟨fun id' i hi => hcl.two id' i (hsub hi),
      fun id' id'' i j hi hj => hcl.apart id' id'' i j (hsub hi) (hsub hj)⟩ trivial
  | create id =>
    by_cases hlive : id ∈ a.born
    · rw [Ages.call, if_pos hlive]
      exact iff_of_true hcl (.inl hlive)
    · rw [Ages.call, if_neg hlive, Fits, or_iff_right hlive]
      have hkeep : ∀ {id' i}, a.born.lookup id' = some i →
          (a.born.insert id a.created).lookup id' = some i := by
        intro id' i hi
        rw [Table.lookup_insert_eq, if_neg]
        · exact hi
        · rintro rfl
          rw [AList.lookup_eq_none.mpr hlive] at hi; cases hi
      have hnew : (a.born.insert id a.created).lookup id = some a.created := AList.lookup_insert _
      constructor
      · intro h
        refine ⟨h.two _ _ hnew, fun e he => ?_⟩
        have hi : a.born.lookup e.1 = some e.2 := AList.mem_lookup_iff.mpr he
        exact h.apart _ _ _ _ (hkeep hi) hnew (ht.older _ _ hi)
      · rintro ⟨h2, hap⟩
        refine ⟨fun _ _ _ => h2, fun id' id'' i j hi hj hij => ?_⟩
        simp only [Table.lookup_insert_eq] at hi hj
        split at hj
        · cases hj
          split at hi
          · cases hi; exact absurd hij (Nat.lt_irrefl _)
          · exact hap ⟨id', i⟩ (AList.mem_lookup_iff.mp hi)
        · split at hi
          · cases hi; exact absurd (hij.trans (ht.older _ _ hj)) (Nat.lt_irrefl _)
          · exact hcl.apart id' id'' i j hi hj hij

/-! ## Whole runs -/

/-- A manager that was just built is on track. -/
theorem Tracks.new {portStart portEnd : UInt16} (heven : portStart.toNat % 2 = 0)
    (hle : portStart ≤ portEnd) (mediaAddr : List Char) :
    Tracks (poolSize portStart portEnd) (.new portStart portEnd mediaAddr) Ages.start where
  range := ⟨heven, UInt16.le_iff_toNat_le.mp hle⟩
  pool := rfl
  counts := ⟨0, Nat.zero_le _, rfl, UInt16.toNat_inj.mp (by
    show portStart.toNat = (UInt16.ofNat (portStart.toNat + 2 * 0)).toNat
    have := portStart.toNat_lt
    rw [UInt16.toNat_ofNat']; omega)⟩
  sessions _ := rfl
  older _ _ h := by cases h
  single _ _ _ h := by cases h

theorem clear_start (n : Nat) : Clear n Ages.start :=
  ⟨fun _ _ h => (by cases h), fun _ _ _ _ h => (by cases h)⟩

/-- From a manager on track with clear numbers, the ports stay exclusive iff the calls are spaced. -/
theorem exclusive_run_iff (hn : 0 < n) : ∀ {calls : List Call} {m : MediaRelayManager} {a : Ages},
    Tracks n m a → Clear n a →
    ((∀ done, done <+: calls → (m.run done).Exclusive) ↔ Spaced n a calls)
  | [], m, a, ht, hcl => by
    refine iff_of_true (fun done hd => ?_) trivial
    rw [List.prefix_nil.mp hd]
    exact (exclusive_iff ht hn).mpr hcl
  | c :: calls, m, a, ht, hcl => by
    have ht' := ht.step hn c
    constructor
    · intro h
      have h1 : (m.call c).Exclusive := h [c] ⟨calls, rfl⟩
      have hcl' := (exclusive_iff ht' hn).mp h1
      refine ⟨(clear_call_iff ht hcl c).mp hcl', (exclusive_run_iff hn ht' hcl').mp fun done hd => ?_⟩
      exact h (c :: done) (List.prefix_cons_inj c |>.mpr hd)
    · rintro ⟨hfit, hsp⟩ done hd
      have hcl' := (clear_call_iff ht hcl c).mpr hfit
      cases done with
      | nil => exact (exclusive_iff ht hn).mpr hcl
      | cons c' done =>
        obtain ⟨rfl, hd'⟩ := List.cons_prefix_cons.mp hd
        exact (exclusive_run_iff hn ht' hcl').mpr hsp done hd'

/-- No call changes the range. -/
theorem call_range (m : MediaRelayManager) (c : Call) :
    (m.call c).portStart = m.portStart ∧ (m.call c).portEnd = m.portEnd := by
  cases c with
  | remove id => exact ⟨rfl, rfl⟩
  | create id =>
    simp only [MediaRelayManager.call, MediaRelayManager.createSession,
      MediaRelayManager.allocatePortPair]
    cases m.sessions.lookup id with
    | some _ => exact ⟨rfl, rfl⟩
    | none =>
      rcases allocateLoop m.portStart m.portEnd m.nextPort 0 with ⟨_ | _, nextPort⟩
      · exact ⟨rfl, rfl⟩
      · rcases h : allocateLoop m.portStart m.portEnd nextPort 0 with ⟨_ | _, nextPort'⟩
        · simp only [h, and_self]
        · simp only [h, and_self]

theorem run_range : ∀ (calls : List Call) (m : MediaRelayManager),
    (m.run calls).portStart = m.portStart ∧ (m.run calls).portEnd = m.portEnd
  | [], _ => ⟨rfl, rfl⟩
  | c :: calls, m => by
    obtain ⟨h1, h2⟩ := run_range calls (m.call c)
    obtain ⟨h3, h4⟩ := call_range m c
    exact ⟨h1.trans h3, h2.trans h4⟩

theorem Tracks.run {n : Nat} (hn : 0 < n) : ∀ (calls : List Call) {m : MediaRelayManager} {a : Ages},
    Tracks n m a → Tracks n (m.run calls) (calls.foldl Ages.call a)
  | [], _, _, ht => ht
  | c :: calls, _, _, ht => Tracks.run hn calls (ht.step hn c)

/-- A range without an even port never gets a session. -/
theorem sessions_empty (hr : EvenRange m) (hpool : m.pool = 0) (hnext : m.nextPort = m.portStart)
    (hs : ∀ id, m.sessions.lookup id = none) (c : Call) :
    EvenRange (m.call c) ∧ (m.call c).pool = 0 ∧ (m.call c).nextPort = (m.call c).portStart ∧
      ∀ id, (m.call c).sessions.lookup id = none := by
  cases c with
  | remove id =>
    refine ⟨⟨hr.even, hr.le⟩, hpool, hnext, fun id' => ?_⟩
    show (m.sessions.erase id).lookup id' = none
    rw [Table.lookup_erase_eq, hs]
    split <;> rfl
  | create id =>
    have hm : m.call (.create id) = m := by
      simp only [MediaRelayManager.call, MediaRelayManager.createSession, hs,
        allocatePortPair_empty hr hpool hnext]
    rw [hm]
    exact ⟨hr, hpool, hnext, hs⟩

theorem exclusive_run_empty : ∀ (calls : List Call) {m : MediaRelayManager}, EvenRange m →
    m.pool = 0 → m.nextPort = m.portStart → (∀ id, m.sessions.lookup id = none) →
    (m.run calls).Exclusive
  | [], m, _, _, _, hs => by
    refine ⟨fun id s h => ?_, fun id id' s s' _ h => ?_⟩ <;>
    · change m.sessions.lookup id = some s at h
      rw [hs] at h
      cases h
  | c :: calls, m, hr, hp, hnext, hs => by
    obtain ⟨hr', hp', hnext', hs'⟩ := sessions_empty hr hp hnext hs c
    exact exclusive_run_empty calls hr' hp' hnext' hs'

/-- **When ports are exclusive.** In a run from an even `port_start ≤ port_end`, every state reached
has pairwise distinct ports iff the range has no even port at all, or every call that creates a
session finds at least two ports in the cycle and every live session `Apart` from the new one. -/
theorem relay_exclusive_iff {portStart portEnd : UInt16} (heven : portStart.toNat % 2 = 0)
    (hle : portStart ≤ portEnd) (mediaAddr : List Char) (calls : List Call) :
    (∀ done, done <+: calls →
      ((MediaRelayManager.new portStart portEnd mediaAddr).run done).Exclusive) ↔
    poolSize portStart portEnd = 0 ∨ Spaced (poolSize portStart portEnd) Ages.start calls := by
  have ht := Tracks.new heven hle mediaAddr
  rcases Nat.eq_zero_or_pos (poolSize portStart portEnd) with h0 | hpos
  · exact iff_of_true (fun done _ => exclusive_run_empty done ht.range h0 rfl fun _ => rfl) (.inl h0)
  · rw [or_iff_right (by omega)]
    exact exclusive_run_iff hpos ht (clear_start _)

/-- A cycle of eight ports and two sessions: the ports are exclusive throughout. -/
theorem relay_exclusive_concrete :
    let calls := [Call.create ['a'], .create ['b'], .remove ['a'], .create ['c']]
    Spaced (poolSize 10000 10016) Ages.start calls ∧
      ∀ done, done <+: calls → ((MediaRelayManager.new 10000 10016 []).run done).Exclusive := by
  intro calls
  have hspaced : Spaced (poolSize 10000 10016) Ages.start calls := by decide
  exact ⟨hspaced, (relay_exclusive_iff (by decide) (by decide) [] calls).mpr (.inr hspaced)⟩

/-- **A live call's ports are handed out again**: in a cycle of four ports `c` gets those of `a`,
which is still up, although `b`'s are free. -/
theorem relay_shares_port :
    let m := (MediaRelayManager.new 10000 10008 []).run
      [.create ['a'], .create ['b'], .remove ['b'], .create ['c']]
    m.sessions.lookup ['a'] = some ⟨['a'], 10000, 10002, none, none⟩ ∧
      m.sessions.lookup ['c'] = some ⟨['c'], 10000, 10002, none, none⟩ ∧ ¬ m.Exclusive := by
  have ht := Tracks.run (by decide) [.create ['a'], .create ['b'], .remove ['b'], .create ['c']]
    (@Tracks.new 10000 10008 (by decide) (by decide) [])
  obtain ⟨hs, he⟩ := run_range [.create ['a'], .create ['b'], .remove ['b'], .create ['c']]
    (.new 10000 10008 [])
  have ha := ht.sessions ['a']
  have hc := ht.sessions ['c']
  rw [hs, he] at ha hc
  refine ⟨ha.trans (by decide), hc.trans (by decide), fun h => ?_⟩
  exact (h.across ['a'] ['c'] _ _ (by decide) ha hc).1 (by decide)

end Minghe.Media.Relay
