import Minghe.Media.Relay

/-!
# The range of the ports

What `allocate_port_pair` (`relay.rs`) does over any number of calls. The counter is reset when it has
been increased past `port_end` already, so it is to stay below the end of `u16` by itself: a range that
reaches up to the last three values lets it wrap, and from then on the ports are not of the range.

* `allocateFetches`: the values of the counter that a call fetches. `fetch_add(2)`, and `port + 2` in front
  of the `compare_exchange`, are computed from each of them.
* `InRange`: what is expected of a call.
* `port_range_iff`: every sequence of calls hands out even ports of the range, in pairs, iff the range ends
  at 65532 or below, so that the counter does not wrap.
* `port_below_range`: behind 65534 the counter is 0 again, and so is the next port.
-/

namespace Minghe.Media.Relay

/-- The values of the counter that the loop of `allocate_port_pair` fetches. -/
def allocateFetches (portStart portEnd port : UInt16) (attempts : Nat) : List UInt16 :=
  if port ≥ portEnd then
    if attempts + 1 > 3 then [port]
    else port :: allocateFetches portStart portEnd portStart (attempts + 1)
  else if port % 2 = 0 then [port]
  else port :: allocateFetches portStart portEnd (port + 2) attempts
termination_by (4 - attempts, 65536 - port.toNat)
decreasing_by
  · exact Prod.Lex.left _ _ (by omega)
  · -- as for `allocateLoop`
    apply Prod.Lex.right
    rename_i h hodd
    have h1 := portEnd.toNat_lt
    have h2 : port.toNat < portEnd.toNat := by
      rw [ge_iff_le, UInt16.le_iff_toNat_le] at h; omega
    have h3 : port.toNat % 2 ≠ 0 := fun e => hodd (UInt16.toNat_inj.mp (by simpa using e))
    have h4 : (port + 2).toNat = port.toNat + 2 := by
      simp only [UInt16.toNat_add, UInt16.reduceToNat]; omega
    omega

theorem allocateFetches_of_lt {portStart portEnd port : UInt16} {attempts : Nat}
    (h : port.toNat < portEnd.toNat) (heven : port.toNat % 2 = 0) :
    allocateFetches portStart portEnd port attempts = [port] := by
  have h1 : ¬ port ≥ portEnd := by rw [ge_iff_le, UInt16.le_iff_toNat_le]; omega
  have h2 : port % 2 = 0 := UInt16.toNat_inj.mp (by simpa using heven)
  rw [allocateFetches, if_neg h1, if_pos h2]

theorem allocateFetches_of_ge {portStart portEnd port : UInt16} {attempts : Nat}
    (h : portEnd.toNat ≤ port.toNat) :
    allocateFetches portStart portEnd port attempts =
      if attempts + 1 > 3 then [port]
      else port :: allocateFetches portStart portEnd portStart (attempts + 1) := by
  rw [allocateFetches, if_pos (by rw [ge_iff_le, UInt16.le_iff_toNat_le]; exact h)]

namespace MediaRelayManager

variable (m : MediaRelayManager)

/-- The values of the counter that `allocate_port_pair` fetches. -/
def portFetches : List UInt16 := allocateFetches m.portStart m.portEnd m.nextPort 0

/-- The manager after some calls of `allocate_port_pair`. -/
def allocated : Nat → MediaRelayManager
  | 0 => m
  | n + 1 => (allocated n).allocatePortPair.2

/-- **What is expected of a call of `allocate_port_pair`**: it comes to an end within four rounds, its port
is even and of the range, nothing overflows, and there is a port if the range has one. -/
structure InRange : Prop where
  rounds : m.portFetches.length ≤ 4
  even : ∀ port, m.allocatePortPair.1 = some port → port.toNat % 2 = 0
  range : ∀ port, m.allocatePortPair.1 = some port → m.portStart ≤ port ∧ port < m.portEnd
  arithmetic : ∀ port ∈ m.portFetches, port.toNat + 2 < 2 ^ 16
  exhausted : m.allocatePortPair.1 = none →
    ¬ ∃ port : Nat, port % 2 = 0 ∧ m.portStart.toNat ≤ port ∧ port < m.portEnd.toNat

end MediaRelayManager

/-- The counter is even, and at most one port past the range. -/
structure Below (m : MediaRelayManager) : Prop extends EvenRange m where
  room : m.portEnd.toNat ≤ 65532
  next_even : m.nextPort.toNat % 2 = 0
  start_le : m.portStart.toNat ≤ m.nextPort.toNat
  le_end : m.nextPort.toNat ≤ m.portEnd.toNat + 1

/-- The counter is fetched in the range. -/
theorem allocatePortPair_of_lt {m : MediaRelayManager} (h : m.nextPort.toNat < m.portEnd.toNat)
    (heven : m.nextPort.toNat % 2 = 0) :
    m.allocatePortPair = (some m.nextPort, { m with nextPort := m.nextPort + 2 }) ∧
      m.portFetches = [m.nextPort] := by
  refine ⟨?_, allocateFetches_of_lt h heven⟩
  rw [MediaRelayManager.allocatePortPair, allocateLoop_of_lt h heven]

/-- The counter is fetched past the range, and reset. -/
theorem allocatePortPair_of_ge {m : MediaRelayManager} (h : m.portEnd.toNat ≤ m.nextPort.toNat)
    (hlt : m.portStart.toNat < m.portEnd.toNat) (heven : m.portStart.toNat % 2 = 0) :
    m.allocatePortPair = (some m.portStart, { m with nextPort := m.portStart + 2 }) ∧
      m.portFetches = [m.nextPort, m.portStart] := by
  constructor
  · rw [MediaRelayManager.allocatePortPair, allocateLoop_of_ge h (by decide),
      allocateLoop_of_lt hlt heven]
  · rw [MediaRelayManager.portFetches, allocateFetches_of_ge h, if_neg (by decide),
      allocateFetches_of_lt hlt heven]

/-- There is no port to fetch. -/
theorem allocatePortPair_of_empty {m : MediaRelayManager} (h : m.portEnd.toNat ≤ m.nextPort.toNat)
    (hge : m.portEnd.toNat ≤ m.portStart.toNat) :
    m.allocatePortPair = (none, { m with nextPort := m.portStart }) ∧
      m.portFetches = [m.nextPort, m.portStart, m.portStart, m.portStart] := by
  constructor
  · rw [MediaRelayManager.allocatePortPair, allocateLoop_of_ge h (by decide),
      allocateLoop_of_ge hge (by decide), allocateLoop_of_ge hge (by decide), allocateLoop,
      if_pos (by rw [ge_iff_le, UInt16.le_iff_toNat_le]; exact hge), if_pos (by decide)]
  · rw [MediaRelayManager.portFetches, allocateFetches_of_ge h, if_neg (by decide),
      allocateFetches_of_ge hge, if_neg (by decide), allocateFetches_of_ge hge, if_neg (by decide),
      allocateFetches_of_ge hge, if_pos (by decide)]

theorem toNat_add_two (port : UInt16) (h : port.toNat + 2 < 2 ^ 16) : (port + 2).toNat = port.toNat + 2 := by
  simp only [UInt16.toNat_add, UInt16.reduceToNat]
  omega

/-- A call that returns a port of the range. -/
theorem inRange_of_some {m : MediaRelayManager} {port : UInt16} (h : m.allocatePortPair.1 = some port)
    (heven : port.toNat % 2 = 0) (hstart : m.portStart.toNat ≤ port.toNat)
    (hend : port.toNat < m.portEnd.toNat) (hrounds : m.portFetches.length ≤ 4)
    (harith : ∀ port ∈ m.portFetches, port.toNat + 2 < 2 ^ 16) : m.InRange where
  rounds := hrounds
  even port' h' := by
    cases h.symm.trans h'
    exact heven
  range port' h' := by
    cases h.symm.trans h'
    exact ⟨UInt16.le_iff_toNat_le.mpr hstart, UInt16.lt_iff_toNat_lt.mpr hend⟩
  arithmetic := harith
  exhausted h' := by cases h.symm.trans h'

/-- **A call in a range with room behind it.** -/
theorem Below.step {m : MediaRelayManager} (h : Below m) : m.InRange ∧ Below m.allocatePortPair.2 := by
  have hroom := h.room
  have hnext := h.le_end
  have heven := h.next_even
  have hstart := h.start_le
  rcases Nat.lt_or_ge m.nextPort.toNat m.portEnd.toNat with hlt | hge
  · obtain ⟨hcall, hfetches⟩ := allocatePortPair_of_lt hlt heven
    have hadd := toNat_add_two m.nextPort (by omega)
    constructor
    · refine inRange_of_some (congrArg Prod.fst hcall) heven hstart hlt (by simp [hfetches]) ?_
      intro port hport
      rw [hfetches, List.mem_singleton] at hport
      rw [hport]
      omega
    · rw [hcall]
      exact ⟨⟨h.even, h.le⟩, hroom, by dsimp only; omega, by dsimp only; omega, by dsimp only; omega⟩
  -- the counter is at the end: it starts over
  rcases Nat.lt_or_ge m.portStart.toNat m.portEnd.toNat with hlt | hempty
  · obtain ⟨hcall, hfetches⟩ := allocatePortPair_of_ge hge hlt h.even
    have hseven := h.even
    have hadd := toNat_add_two m.portStart (by omega)
    constructor
    · refine inRange_of_some (congrArg Prod.fst hcall) h.even (Nat.le_refl _) hlt
        (by simp [hfetches]) ?_
      intro port hport
      rw [hfetches, List.mem_cons, List.mem_singleton] at hport
      rcases hport with rfl | rfl <;> omega
    · rw [hcall]
      exact ⟨⟨h.even, h.le⟩, hroom, by dsimp only; omega, by dsimp only; omega, by dsimp only; omega⟩
  · obtain ⟨hcall, hfetches⟩ := allocatePortPair_of_empty hge hempty
    have hle := h.le
    constructor
    · refine ⟨by simp [hfetches], ?_, ?_, ?_, ?_⟩
      · rw [hcall]
        exact nofun
      · rw [hcall]
        exact nofun
      · intro port hport
        rw [hfetches] at hport
        simp only [List.mem_cons, List.not_mem_nil, or_false, or_self] at hport
        rcases hport with rfl | rfl <;> omega
      · rintro - ⟨port, -, hport, hport'⟩
        omega
    · rw [hcall]
      exact ⟨⟨h.even, h.le⟩, hroom, h.even, Nat.le_refl _, by dsimp only; omega⟩

theorem Below.allocated {m : MediaRelayManager} (h : Below m) : ∀ n, Below (m.allocated n)
  | 0 => h
  | n + 1 => (Below.allocated h n).step.2

/-- In a range without room behind it the counter comes to the last even port. -/
theorem nextPort_allocated {m : MediaRelayManager} (hr : EvenRange m) (hend : 65533 ≤ m.portEnd.toNat)
    (hnext : m.nextPort = m.portStart) : ∀ n, m.portStart.toNat + 2 * n ≤ 65534 →
      m.allocated n = { m with nextPort := UInt16.ofNat (m.portStart.toNat + 2 * n) }
  | 0, h => by
    have hself : UInt16.ofNat (m.portStart.toNat + 2 * 0) = m.nextPort := by
      rw [hnext]
      exact UInt16.toNat_inj.mp (by rw [UInt16.toNat_ofNat']; omega)
    rw [hself]
    rfl
  | n + 1, h => by
    have ih := nextPort_allocated hr hend hnext n (by omega)
    have heven := hr.even
    have hcount : (UInt16.ofNat (m.portStart.toNat + 2 * n)).toNat = m.portStart.toNat + 2 * n := by
      rw [UInt16.toNat_ofNat']
      omega
    rw [MediaRelayManager.allocated, ih]
    have hcall := (allocatePortPair_of_lt
      (m := { m with nextPort := UInt16.ofNat (m.portStart.toNat + 2 * n) })
      (by dsimp only; omega) (by dsimp only; omega)).1
    rw [hcall]
    dsimp only
    rw [add_two_ofNat]
    rfl

/-- **When the ports are in range.** Every call of every sequence of calls does what is expected iff the
range ends at 65532 or below, so that the counter does not wrap. -/
theorem port_range_iff {portStart portEnd : UInt16} (heven : portStart.toNat % 2 = 0)
    (hle : portStart ≤ portEnd) (mediaAddr : List Char) :
    (∀ n, ((MediaRelayManager.new portStart portEnd mediaAddr).allocated n).InRange) ↔
      portEnd.toNat ≤ 65532 := by
  have hle' := UInt16.le_iff_toNat_le.mp hle
  constructor
  · intro h
    by_contra hroom
    have hr : EvenRange (.new portStart portEnd mediaAddr) := ⟨heven, hle'⟩
    have hlt := portEnd.toNat_lt
    -- the call that finds the counter at 65534
    have hlast := nextPort_allocated hr (by change 65533 ≤ portEnd.toNat; omega) rfl
      ((65534 - portStart.toNat) / 2) (by change portStart.toNat + _ ≤ _; omega)
    have harith := (h ((65534 - portStart.toNat) / 2)).arithmetic
    rw [hlast] at harith
    have hcount : UInt16.ofNat (portStart.toNat + 2 * ((65534 - portStart.toNat) / 2)) = 65534 :=
      UInt16.toNat_inj.mp (by rw [UInt16.toNat_ofNat']; change _ = 65534; omega)
    change ∀ port ∈ allocateFetches portStart portEnd
      (UInt16.ofNat (portStart.toNat + 2 * ((65534 - portStart.toNat) / 2))) 0, _ at harith
    rw [hcount] at harith
    have hfirst : (65534 : UInt16) ∈ allocateFetches portStart portEnd 65534 0 := by
      unfold allocateFetches
      split
      · exact List.mem_cons_self
      · exact List.mem_singleton_self _
    exact absurd (harith _ hfirst) (by decide)
  · intro hroom n
    have h : Below (.new portStart portEnd mediaAddr) :=
      ⟨⟨heven, hle'⟩, hroom, heven, Nat.le_refl _, Nat.le_succ_of_le hle'⟩
    exact (h.allocated n).step.1

/-- The ports of the template configuration, when they have come round. -/
theorem port_range_concrete :
    ((MediaRelayManager.new 20000 20020 "192.0.2.1".toList).allocated 15).InRange :=
  (port_range_iff (by decide) (by decide) _).mpr (by decide) 15

/-- **A port below the range**: behind 65534 the counter is 0 again. -/
theorem port_below_range :
    ((MediaRelayManager.new 65534 65535 []).allocated 1).allocatePortPair.1 = some 0 ∧
      ¬ ((MediaRelayManager.new 65534 65535 []).allocated 1).InRange := by
  have hfirst : (MediaRelayManager.new 65534 65535 []).allocated 1 =
      { MediaRelayManager.new 65534 65535 [] with nextPort := 0 } := by
    have hcall := (allocatePortPair_of_lt (m := .new 65534 65535 []) (by decide) (by decide)).1
    rw [MediaRelayManager.allocated, MediaRelayManager.allocated, hcall]
    rfl
  have hsecond : ((MediaRelayManager.new 65534 65535 []).allocated 1).allocatePortPair.1 = some 0 := by
    rw [hfirst]
    exact congrArg Prod.fst (allocatePortPair_of_lt
      (m := { MediaRelayManager.new 65534 65535 [] with nextPort := 0 }) (by decide) (by decide)).1
  refine ⟨hsecond, fun h => ?_⟩
  have hrange := (h.range 0 hsecond).1
  rw [hfirst] at hrange
  exact absurd hrange (by decide)

end Minghe.Media.Relay
