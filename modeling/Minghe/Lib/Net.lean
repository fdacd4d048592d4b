import Minghe.Lib.Fields

/-!
# Network addresses

`IpAddr` and `SocketAddr` of the standard library. An IPv6 socket address carries its flow label and
scope, which are part of its identity. `show` is how a socket address prints: an IPv6 address in
brackets, with the first of its longest runs of zero segments written `::`. `parse` reads an address as
the parser of the standard library does.

* `lf_not_mem_show`: a printed address is on one line.
* `isAddressChar_of_parse`: an address that is read has the characters of one only.
* `lf_not_mem_of_parse`: so it is on one line, too.
-/

namespace Minghe.Lib

/-- `IpAddr`. -/
inductive IpAddr where
  | v4 (octets : Vector UInt8 4)
  | v6 (segments : Vector UInt16 8)
  deriving DecidableEq, Repr

/-- `SocketAddr`. -/
inductive SocketAddr where
  | v4 (ip : Vector UInt8 4) (port : UInt16)
  | v6 (ip : Vector UInt16 8) (port : UInt16) (flowinfo scopeId : UInt32)
  deriving DecidableEq, Repr

/-- `SocketAddr::ip`. -/
def SocketAddr.ip : SocketAddr → IpAddr
  | .v4 ip _ => .v4 ip
  | .v6 ip _ _ _ => .v6 ip

/-- `SocketAddr::port`. -/
def SocketAddr.port : SocketAddr → UInt16
  | .v4 _ port => port
  | .v6 _ port _ _ => port

/-! ## Printing -/

/-- The octets of an IPv4 address, with dots. -/
def showIpv4 (octets : List UInt8) : Str :=
  ['.'].intercalate (octets.map fun o => showNat o.toNat)

/-- Segments in hexadecimal, with colons. -/
def showSegments (segments : List UInt16) : Str :=
  [':'].intercalate (segments.map fun s => Nat.toDigits 16 s.toNat)

/-- A run of segments. -/
structure Span where
  start : Nat := 0
  len : Nat := 0

/-- The first of the longest runs of zero segments. -/
def zeroSpan (segments : List UInt16) : Span :=
  (segments.zipIdx.foldl (fun (longest, current) (segment, i) =>
    if segment = 0 then
      let current : Span := ⟨if current.len = 0 then i else current.start, current.len + 1⟩
      (if current.len > longest.len then current else longest, current)
    else (longest, {})) (({}, {}) : Span × Span)).1

/-- How an IPv6 address prints. -/
def showIpv6 (segments : List UInt16) : Str :=
  match segments with
  | [0, 0, 0, 0, 0, 0xffff, ab, cd] =>
    "::ffff:".toList ++ showIpv4 [(ab >>> 8).toUInt8, ab.toUInt8, (cd >>> 8).toUInt8, cd.toUInt8]
  | _ =>
    let zeroes := zeroSpan segments
    if zeroes.len > 1 then
      showSegments (segments.take zeroes.start) ++ [':', ':'] ++
        showSegments (segments.drop (zeroes.start + zeroes.len))
    else showSegments segments

/-- `SocketAddr::to_string`. -/
def SocketAddr.show : SocketAddr → Str
  | .v4 ip port => showIpv4 ip.toList ++ [':'] ++ showNat port.toNat
  | .v6 ip port _ scopeId =>
    ['['] ++ showIpv6 ip.toList ++
      (if scopeId = 0 then [] else ['%'] ++ showNat scopeId.toNat) ++ [']', ':'] ++
      showNat port.toNat

example : (SocketAddr.v6 #v[0xfe80, 0, 0, 0, 1, 0, 0, 0xab] 5061 0 2).show =
    "[fe80::1:0:0:ab%2]:5061".toList := by decide +kernel

/-! ## Parsing -/

/-- A number of at most `maxDigits` digits and below `bound`, and what follows it. -/
def readNumber (digit : Char → Option Nat) (radix maxDigits bound : Nat) (allowZeroPrefix : Bool)
    (s : Str) : Option (Nat × Str) :=
  let digits := s.takeWhile fun c => (digit c).isSome
  if digits.isEmpty || decide (maxDigits < digits.length) then none
  else if !allowZeroPrefix && digits.head? = some '0' && decide (1 < digits.length) then none
  else
    let n := digits.foldl (fun n c => n * radix + (digit c).getD 0) 0
    if n < bound then some (n, s.drop digits.length) else none

/-- What `inner` reads, behind a separator unless it is the first. -/
def readSeparator {A : Type} (sep : Char) (first : Bool) (inner : Str → Option (A × Str)) (s : Str) :
    Option (A × Str) :=
  if first then inner s
  else match s with
    | c :: s => if c = sep then inner s else none
    | [] => none

/-- One of the numbers of an IPv4 address. -/
def readOctet (first : Bool) : Str → Option (Nat × Str) :=
  readSeparator '.' first (readNumber (fun c => if c.isDigit then some (c.toNat - '0'.toNat) else none)
    10 3 256 false)

/-- `read_ipv4_addr`. -/
def readIpv4 (s : Str) : Option (Vector UInt8 4 × Str) := do
  let (a, s) ← readOctet true s
  let (b, s) ← readOctet false s
  let (c, s) ← readOctet false s
  let (d, s) ← readOctet false s
  return (Vector.ofFn fun i => UInt8.ofNat ([a, b, c, d].getD i 0), s)

/-- `read_groups`: up to `n` segments, whether the last two are an IPv4 address, and what follows. -/
def readGroups : Nat → Bool → Str → List UInt16 × Bool × Str
  | 0, _, s => ([], false, s)
  | n + 1, first, s =>
    match if 0 < n then readSeparator ':' first readIpv4 s else none with
    | some (v4, s) =>
      let octet (i : Nat) := (v4.toList.getD i 0).toNat
      ([UInt16.ofNat (octet 0 * 256 + octet 1), UInt16.ofNat (octet 2 * 256 + octet 3)], true, s)
    | none =>
      match readSeparator ':' first (readNumber hexDigit 16 4 65536 true) s with
      | some (group, s) =>
        let (groups, v4, s) := readGroups n false s
        (UInt16.ofNat group :: groups, v4, s)
      | none => ([], false, s)

/-- `read_ipv6_addr`. -/
def readIpv6 (s : Str) : Option (Vector UInt16 8 × Str) :=
  let (head, headV4, s) := readGroups 8 true s
  if head.length = 8 then some (Vector.ofFn fun i => head.getD i 0, s)
  else if headV4 then none
  else match s with
    | ':' :: ':' :: s =>
      let (tail, _, s) := readGroups (7 - head.length) true s
      let segments := head ++ List.replicate (8 - head.length - tail.length) 0 ++ tail
      some (Vector.ofFn fun i => segments.getD i 0, s)
    | _ => none

/-- `str::parse::<IpAddr>`. -/
def IpAddr.parse (s : Str) : Option IpAddr :=
  match readIpv4 s with
  | some (octets, rest) => if rest.isEmpty then some (.v4 octets) else none
  | none =>
    match readIpv6 s with
    | some (segments, rest) => if rest.isEmpty then some (.v6 segments) else none
    | none => none

/-- `SocketAddr::new`. -/
def SocketAddr.new (ip : IpAddr) (port : UInt16) : SocketAddr :=
  match ip with
  | .v4 octets => .v4 octets port
  | .v6 segments => .v6 segments port 0 0

theorem SocketAddr.new_inj {ip ip' : IpAddr} {port : UInt16} :
    SocketAddr.new ip port = SocketAddr.new ip' port ↔ ip = ip' := by
  unfold SocketAddr.new
  cases ip <;> cases ip' <;> simp

example : (IpAddr.parse "fe80::1:0.0.0.171".toList).map (fun ip => (SocketAddr.new ip 5061).show) =
    some "[fe80::1:0:ab]:5061".toList := by decide +kernel

/-- Digits are no line ends. -/
theorem lf_not_mem_toDigits {b : Nat} (hb : 1 < b) (h16 : b ≤ 16) :
    ∀ n, '\n' ∉ Nat.toDigits b n := by
  have hdigit : ∀ n < 16, '\n' ≠ Nat.digitChar n := by decide
  intro n
  induction n using Nat.strongRecOn with
  | ind n ih =>
    rw [Nat.toDigits_eq_if hb]
    split
    · rename_i hn
      exact fun h => hdigit n (by omega) (List.mem_singleton.mp h)
    · rename_i hn
      have hmod := Nat.mod_lt n (by omega : 0 < b)
      rw [List.mem_append, not_or]
      exact ⟨ih _ (Nat.div_lt_self (by omega) hb),
        fun h => hdigit (n % b) (by omega) (List.mem_singleton.mp h)⟩

theorem lf_not_mem_intercalate {A : Type} {sep : Str} (hsep : '\n' ∉ sep) (f : A → Str)
    (hf : ∀ a, '\n' ∉ f a) (as : List A) : '\n' ∉ sep.intercalate (as.map f) := by
  intro h
  rcases mem_intercalate h with h | ⟨l, hl, hc⟩
  · exact hsep h
  · obtain ⟨a, -, rfl⟩ := List.mem_map.mp hl
    exact hf a hc

theorem lf_not_mem_showIpv4 (octets : List UInt8) : '\n' ∉ showIpv4 octets :=
  lf_not_mem_intercalate (by decide) _
    (fun _ => lf_not_mem_toDigits (by decide) (by decide) _) octets

theorem lf_not_mem_showSegments (segments : List UInt16) : '\n' ∉ showSegments segments :=
  lf_not_mem_intercalate (by decide) _
    (fun _ => lf_not_mem_toDigits (by decide) (by decide) _) segments

theorem lf_not_mem_showIpv6 (segments : List UInt16) : '\n' ∉ showIpv6 segments := by
  unfold showIpv6
  split
  · rw [List.mem_append, not_or]
    exact ⟨by decide, lf_not_mem_showIpv4 _⟩
  · dsimp only
    split
    · simp only [List.mem_append, not_or]
      exact ⟨⟨lf_not_mem_showSegments _, by decide⟩, lf_not_mem_showSegments _⟩
    · exact lf_not_mem_showSegments _

/-- **A printed address is on one line.** -/
theorem lf_not_mem_show (addr : SocketAddr) : '\n' ∉ addr.show := by
  have hnat : ∀ n, '\n' ∉ showNat n := lf_not_mem_toDigits (by decide) (by decide)
  cases addr with
  | v4 ip port =>
    simp only [SocketAddr.show, List.mem_append, not_or]
    exact ⟨⟨lf_not_mem_showIpv4 _, by decide⟩, hnat _⟩
  | v6 ip port flowinfo scopeId =>
    simp only [SocketAddr.show, List.mem_append, not_or]
    refine ⟨⟨⟨⟨by decide, lf_not_mem_showIpv6 _⟩, ?_⟩, by decide⟩, hnat _⟩
    split
    · exact List.not_mem_nil
    · rw [List.mem_append, not_or]
      exact ⟨by decide, hnat _⟩

/-! ## What is read has the characters of an address -/

/-- A hexadecimal digit, a dot or a colon. -/
def isAddressChar (c : Char) : Bool := (hexDigit c).isSome || c == '.' || c == ':'

/-- What is read stands in front of what is left, and has such characters only. -/
def Numeric {A : Type} (read : Str → Option (A × Str)) : Prop :=
  ∀ s a rest, read s = some (a, rest) → ∃ part, s = part ++ rest ∧ ∀ c ∈ part, isAddressChar c = true

theorem numeric_readNumber {digit : Char → Option Nat}
    (hdigit : ∀ c, (digit c).isSome = true → (hexDigit c).isSome = true)
    (radix maxDigits bound : Nat) (allowZeroPrefix : Bool) :
    Numeric (readNumber digit radix maxDigits bound allowZeroPrefix) := by
  intro s n rest h
  unfold readNumber at h
  dsimp only at h
  split at h
  · cases h
  split at h
  · cases h
  split at h
  · cases h
    refine ⟨s.takeWhile fun c => (digit c).isSome,
      (List.prefix_iff_eq_append.mp (List.takeWhile_prefix _)).symm, fun c hc => ?_⟩
    have htaken : (digit c).isSome = true := List.mem_takeWhile_imp (p := fun c => (digit c).isSome) hc
    simp [isAddressChar, hdigit c htaken]
  · cases h

theorem numeric_readSeparator {A : Type} {sep : Char} (hsep : isAddressChar sep = true) (first : Bool)
    {inner : Str → Option (A × Str)} (h : Numeric inner) : Numeric (readSeparator sep first inner) := by
  intro s a rest hread
  unfold readSeparator at hread
  split at hread
  · exact h s a rest hread
  · split at hread
    · split at hread
      · rename_i hc
        obtain ⟨part, rfl, hpart⟩ := h _ a rest hread
        refine ⟨_ :: part, rfl, ?_⟩
        rw [hc]
        exact List.forall_mem_cons.mpr ⟨hsep, hpart⟩
      · cases hread
    · cases hread

theorem numeric_readOctet (first : Bool) : Numeric (readOctet first) := by
  refine numeric_readSeparator (by decide) first (numeric_readNumber (fun c hc => ?_) _ _ _ _)
  by_cases hdigit : c.isDigit = true
  · simp [hexDigit, hdigit]
  · simp [hdigit] at hc

theorem numeric_readIpv4 : Numeric readIpv4 := by
  intro s octets rest h
  unfold readIpv4 at h
  obtain ⟨⟨a, s₁⟩, ha, h⟩ := Option.bind_eq_some_iff.mp h
  obtain ⟨⟨b, s₂⟩, hb, h⟩ := Option.bind_eq_some_iff.mp h
  obtain ⟨⟨c, s₃⟩, hc, h⟩ := Option.bind_eq_some_iff.mp h
  obtain ⟨⟨d, s₄⟩, hd, h⟩ := Option.bind_eq_some_iff.mp h
  cases h
  obtain ⟨pa, rfl, hpa⟩ := numeric_readOctet _ _ _ _ ha
  obtain ⟨pb, rfl, hpb⟩ := numeric_readOctet _ _ _ _ hb
  obtain ⟨pc, rfl, hpc⟩ := numeric_readOctet _ _ _ _ hc
  obtain ⟨pd, rfl, hpd⟩ := numeric_readOctet _ _ _ _ hd
  refine ⟨pa ++ pb ++ pc ++ pd, by simp, ?_⟩
  simp only [List.forall_mem_append]
  exact ⟨⟨⟨hpa, hpb⟩, hpc⟩, hpd⟩

theorem numeric_readGroups : ∀ (n : Nat) (first : Bool),
    Numeric fun s => some ((readGroups n first s).1, (readGroups n first s).2.2)
  | 0, _ => by
    rintro s _ _ ⟨⟩
    exact ⟨[], rfl, nofun⟩
  | n + 1, first => by
    have ih := numeric_readGroups n false
    rintro s _ _ ⟨⟩
    have hv4 : Numeric fun s => if 0 < n then readSeparator ':' first readIpv4 s else none := by
      intro s a rest h
      dsimp only at h
      split at h
      · exact numeric_readSeparator (by decide) first numeric_readIpv4 s a rest h
      · cases h
    rw [readGroups]
    split
    · rename_i v4 rest hread
      exact hv4 s v4 rest hread
    · split
      · rename_i group rest hread
        obtain ⟨part, rfl, hpart⟩ := numeric_readSeparator (by decide) first
          (numeric_readNumber (fun _ => id) 16 4 65536 true) s group rest hread
        obtain ⟨more, hrest, hmore⟩ := ih rest _ _ rfl
        refine ⟨part ++ more, ?_, List.forall_mem_append.mpr ⟨hpart, hmore⟩⟩
        rw [List.append_assoc]
        exact congrArg _ hrest
      · exact ⟨[], rfl, nofun⟩

theorem numeric_readIpv6 : Numeric readIpv6 := by
  intro s segments rest h
  obtain ⟨part, hs, hpart⟩ := numeric_readGroups 8 true s _ _ rfl
  unfold readIpv6 at h
  dsimp only at h
  split at h
  · cases h
    exact ⟨part, hs, hpart⟩
  split at h
  · cases h
  split at h
  · rename_i tail htail
    obtain ⟨more, hmore, hall⟩ :=
      numeric_readGroups (7 - (readGroups 8 true s).1.length) true tail _ _ rfl
    cases h
    refine ⟨part ++ ':' :: ':' :: more, ?_, ?_⟩
    · calc s = part ++ ':' :: ':' :: tail := hs.trans (congrArg (part ++ ·) htail)
        _ = part ++ ':' :: ':' :: (more ++ _) := congrArg (fun rest => part ++ ':' :: ':' :: rest) hmore
        _ = part ++ ':' :: ':' :: more ++ _ := by simp
    · simp only [List.forall_mem_append, List.forall_mem_cons]
      exact ⟨hpart, by decide, by decide, hall⟩
  · cases h

/-- **An address that is read** has the characters of one. -/
theorem isAddressChar_of_parse {s : Str} (h : (IpAddr.parse s).isSome = true) :
    ∀ c ∈ s, isAddressChar c = true := by
  have hall : ∀ {rest : Str}, (∃ part, s = part ++ rest ∧ ∀ c ∈ part, isAddressChar c = true) →
      rest.isEmpty = true → ∀ c ∈ s, isAddressChar c = true := by
    rintro rest ⟨part, rfl, hpart⟩ hrest
    rwa [List.isEmpty_iff.mp hrest, List.append_nil]
  unfold IpAddr.parse at h
  split at h
  · rename_i octets rest hread
    split at h
    · rename_i hrest
      exact hall (numeric_readIpv4 s octets rest hread) hrest
    · cases h
  · split at h
    · rename_i segments rest hread
      split at h
      · rename_i hrest
        exact hall (numeric_readIpv6 s segments rest hread) hrest
      · cases h
    · cases h

/-- **An address that is read is on one line.** -/
theorem lf_not_mem_of_parse {s : Str} (h : (IpAddr.parse s).isSome = true) : '\n' ∉ s := fun hlf =>
  absurd (isAddressChar_of_parse h '\n' hlf) (by decide)

/-- These are no white space, and no slash. -/
theorem of_isAddressChar {c : Char} (h : isAddressChar c = true) : isWhitespace c = false ∧ c ≠ '/' := by
  unfold isAddressChar at h
  simp only [Bool.or_eq_true, beq_iff_eq] at h
  rcases h with (h | rfl) | rfl
  · have halnum : c.isAlphanum = true := by
      unfold hexDigit at h
      by_cases hdigit : c.isDigit = true
      · rw [Char.isAlphanum, hdigit, Bool.or_true]
      rw [if_neg hdigit] at h
      split at h
      · rename_i hlow
        have hlower : c.isLower = true := by
          change (decide (97 ≤ c.val) && decide (c.val ≤ 122)) = true
          rw [Bool.and_eq_true, decide_eq_true_iff, decide_eq_true_iff]
          exact ⟨hlow.1, Char.le_trans hlow.2 (by decide : 'f' ≤ 'z')⟩
        change (c.isUpper || c.isLower || c.isDigit) = true
        rw [hlower, Bool.or_true, Bool.true_or]
      split at h
      · rename_i hupp
        have hupper : c.isUpper = true := by
          change decide (65 ≤ c.val ∧ c.val ≤ 90) = true
          exact decide_eq_true ⟨hupp.1, Char.le_trans hupp.2 (by decide : 'F' ≤ 'Z')⟩
        change (c.isUpper || c.isLower || c.isDigit) = true
        rw [hupper, Bool.true_or, Bool.true_or]
      · cases h
    refine ⟨isWhitespace_of_isAlphanum halnum, ?_⟩
    rintro rfl
    cases halnum
  · decide
  · decide

end Minghe.Lib
