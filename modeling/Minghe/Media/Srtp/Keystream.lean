import Minghe.Media.Srtp.Schedule

/-!
# No keystream block and no GCM nonce is used twice

`blocksOf s p` are the counter blocks that `protect_rtp` feeds to AES for the packet `p`, `ivsOf s p`
the nonces it feeds to AES-GCM; `aesCmEncrypt_blocksOf` says how the blocks mask the payload, and
`protectRtp_reads` that nothing else of the ciphers is read.

Over a run with climbing indexes every packet is sealed under its own rollover count (`Tracks`), so
the blocks are `counterBlock ssrc index b` and the nonces `gcmIv ssrc (rocOf index) (seqOf index)` at
pairwise distinct coordinates (`nodup_coords`). Both layouts are injective in their coordinates
(`counterBlock_inj`, `gcmIv_inj`): the fields fill disjoint bytes and the salt is XORed over them.

* `aesCmEncrypt_blocksOf`: the payload is XORed with what AES makes of the blocks, one behind the other and
  each once.
* `keystream_unique`: in a run of a fresh suite no counter block and no nonce of GCM is used twice, as long
  as the indexes climb and stay below `2 ^ 48`.
-/

namespace Minghe.Media.Srtp

open Minghe.Lib Minghe.Lib.Bytes Minghe.Lib.CounterMode SrtpCryptoSuite

variable {P : Primitives} {s : SrtpCryptoSuite}

/-! ## The layouts -/

/-- A 16-bit counter is read off its two bytes. -/
theorem counterBytes_inj {c d : UInt16} (hi : (c >>> 8).toUInt8 = (d >>> 8).toUInt8)
    (lo : (c &&& 0xFF).toUInt8 = (d &&& 0xFF).toUInt8) : c = d := by
  have hc := c.toNat_lt
  have hd := d.toNat_lt
  have hhi := congrArg UInt8.toNat hi
  have hlo := congrArg UInt8.toNat lo
  have hmask : ∀ n : Nat, n &&& 255 = n % 256 := fun n => Nat.and_two_pow_sub_one_eq_mod n 8
  simp only [UInt16.toNat_toUInt8, UInt16.toNat_shiftRight, UInt16.reduceToNat, Nat.reduceMod,
    Nat.shiftRight_eq_div_pow, UInt16.toNat_and, hmask] at hhi hlo
  apply UInt16.toNat_inj.mp
  omega

/-- The fields of `cmIv`, unmasked. -/
def cmFields (ssrc : UInt32) (index : Nat) : List UInt8 :=
  [0, 0, 0, 0] ++ beBytes 4 ssrc.toNat ++ (beBytes 8 index).drop 2

/-- A counter lands in two zero bytes unmasked. -/
theorem toList_withCounter {iv : Vector UInt8 16} {a : List UInt8} (c : UInt16)
    (hiv : iv.toList = a ++ [0, 0]) :
    (withCounter iv c).toList = a ++ [(c >>> 8).toUInt8, (c &&& 0xFF).toUInt8] := by
  have ha : a.length = 14 := by
    have hl := congrArg List.length hiv
    simp only [Vector.length_toList, List.length_append, List.length_cons, List.length_nil] at hl
    omega
  have hget : ∀ i (hi : i < 16), 14 ≤ i → some iv[i] = [0, 0][i - 14]? := by
    intro i hi h14
    rw [← ha, ← List.getElem?_append_right (by omega), ← hiv]
    simp
  have h14 : iv[14] = 0 := Option.some.inj (hget 14 (by decide) (by decide))
  have h15 : iv[15] = 0 := Option.some.inj (hget 15 (by decide) (by decide))
  simp only [withCounter, h14, h15, UInt8.zero_xor, Vector.toList_set, hiv]
  rw [List.set_append_right _ _ (by omega), List.set_append_right _ _ (by omega), ha]
  rfl

/-- A counter block: the masked fields, then the two bytes of the counter. -/
theorem toList_counterBlock (ssrc : UInt32) (index b : Nat) :
    (s.counterBlock ssrc index b).toList =
      xorBytes (cmFields ssrc index) s.sessionSalt.toList ++
        [(UInt16.ofNat b >>> 8).toUInt8, (UInt16.ofNat b &&& 0xFF).toUInt8] :=
  toList_withCounter _ rfl

theorem counterBlock_inj {k k' : UInt32} {i i' b b' : Nat} (hi : i < 2 ^ 48) (hi' : i' < 2 ^ 48)
    (hb : b < 65536) (hb' : b' < 65536)
    (h : s.counterBlock k i b = s.counterBlock k' i' b') : k = k' ∧ i = i' ∧ b = b' := by
  have hl := congrArg Vector.toList h
  rw [toList_counterBlock, toList_counterBlock] at hl
  obtain ⟨hf, hc⟩ := List.append_inj hl (by simp [cmFields])
  have hf := xorBytes_inj (by simp [cmFields]) (by simp [cmFields]) hf
  unfold cmFields at hf
  obtain ⟨hk, hx⟩ := List.append_inj hf (by simp)
  have hk := List.append_cancel_left hk
  rw [drop_beBytes 2 6, drop_beBytes 2 6] at hx
  have hx := beBytes_inj (by omega) (by omega) hx
  have hk := beBytes_inj k.toNat_lt k'.toNat_lt hk
  simp only [List.cons.injEq, and_true] at hc
  have hbb := congrArg UInt16.toNat (counterBytes_inj hc.1 hc.2)
  simp only [UInt16.toNat_ofNat'] at hbb
  exact ⟨UInt32.toNat_inj.mp hk, hx, by omega⟩

theorem gcmIv_inj {k k' roc roc' : UInt32} {seq seq' : UInt16}
    (h : s.gcmIv k roc seq = s.gcmIv k' roc' seq') : k = k' ∧ roc = roc' ∧ seq = seq' := by
  have hl := congrArg Vector.toList h
  simp only [gcmIv, Vector.toList_mk] at hl
  have hf := xorBytes_inj (by simp) (by simp) hl
  obtain ⟨hf, hseq⟩ := List.append_inj hf (by simp)
  obtain ⟨hk, hroc⟩ := List.append_inj hf (by simp)
  have hk := List.append_cancel_left hk
  exact ⟨UInt32.toNat_inj.mp (beBytes_inj k.toNat_lt k'.toNat_lt hk),
    UInt32.toNat_inj.mp (beBytes_inj roc.toNat_lt roc'.toNat_lt hroc),
    UInt16.toNat_inj.mp (beBytes_inj seq.toNat_lt seq'.toNat_lt hseq)⟩

/-! ## What the ciphers are fed -/

/-- The number of blocks of a text (`block_count`). -/
def blockCount (data : List UInt8) : Nat := (data.length + 15) / 16

/-- The counter blocks that `protect_rtp` feeds to AES for the packet `p`. -/
def blocksOf (s : SrtpCryptoSuite) (p : List UInt8) : List (Vector UInt8 16) :=
  match s.suite, splitRtp p with
  | .aesCm128HmacSha180, .ok (h, _, payload) =>
    (List.range (blockCount payload)).map
      (s.counterBlock h.ssrc (packetIndex (s.guess h) h.sequenceNumber))
  | _, _ => []

/-- **The keystream of a packet**: its payload is XORed with what AES makes of these blocks, one behind the
other and each once. -/
theorem aesCmEncrypt_blocksOf {p head payload : List UInt8} {h : RtpHeader}
    (hsuite : s.suite = .aesCm128HmacSha180) (hs : splitRtp p = .ok (h, head, payload)) :
    s.aesCmEncrypt P h.ssrc (packetIndex (s.guess h) h.sequenceNumber) payload =
      xorBytes payload ((blocksOf s p).flatMap fun block => (P.aes s.sessionKey block).toList) := by
  have hcount : payload.length ≤ (payload.length + 15) / 16 * 16 := by omega
  unfold aesCmEncrypt blocksOf
  rw [hsuite, hs, xorBlocks_eq_xorBytes _ hcount, List.flatMap_map]
  rfl

/-- The nonces that `protect_rtp` feeds to AES-GCM for the packet `p`. -/
def ivsOf (s : SrtpCryptoSuite) (p : List UInt8) : List (Vector UInt8 12) :=
  match s.suite, splitRtp p with
  | .aeadAes128Gcm, .ok (h, _, _) => [s.gcmIv h.ssrc (s.guess h) h.sequenceNumber]
  | _, _ => []

/-- **The ciphers are read nowhere else**: two families of primitives that agree on the blocks and
nonces of `p`, and on HMAC, protect it alike. -/
theorem protectRtp_reads {P' : Primitives} (s : SrtpCryptoSuite) (p : List UInt8)
    (hmac : P.hmacSha1 = P'.hmacSha1)
    (aes : ∀ b ∈ blocksOf s p, P.aes s.sessionKey b = P'.aes s.sessionKey b)
    (gcm : ∀ iv ∈ ivsOf s p, P.gcmEncrypt s.sessionKey iv = P'.gcmEncrypt s.sessionKey iv) :
    s.protectRtp P p = s.protectRtp P' p := by
  cases hs : splitRtp p with
  | error e =>
    unfold protectRtp
    rw [hs]
  | ok x =>
    obtain ⟨h, head, payload⟩ := x
    have hseal : s.sealPayload P h (s.guess h) head payload =
        s.sealPayload P' h (s.guess h) head payload := by
      unfold sealPayload
      cases hsuite : s.suite with
      | aesCm128HmacSha180 =>
        have hblocks : s.aesCmEncrypt P h.ssrc (packetIndex (s.guess h) h.sequenceNumber) payload =
            s.aesCmEncrypt P' h.ssrc (packetIndex (s.guess h) h.sequenceNumber) payload := by
          refine List.flatMap_congr fun b hb => ?_
          have hb' := aes _ (by rw [blocksOf, hsuite, hs]; exact List.mem_map_of_mem hb)
          simp only [hb']
        simp only [hblocks, computeAuthTag, hmac]
      | aeadAes128Gcm =>
        simp only [gcm _ (by rw [ivsOf, hsuite, hs]; exact List.mem_singleton_self _)]
    rw [protectRtp_eq hs, protectRtp_eq hs, hseal]

/-! ## Runs -/

/-- An RTP packet, as far as `protect_rtp` can tell. -/
def Sent.parses (x : Sent) : Bool := (splitRtp x.rtp).toOption.isSome

/-- The payload of an RTP packet. -/
def Sent.payload (x : Sent) : List UInt8 :=
  match splitRtp x.rtp with
  | .ok (_, _, payload) => payload
  | .error _ => []

/-- The packet carries its label, its index is below `2 ^ 48`, its payload at most `2 ^ 20` bytes. -/
def Sent.Small (x : Sent) : Prop :=
  x.Labelled ∧ x.index < 2 ^ 48 ∧ x.payload.length ≤ 2 ^ 20

instance (x : Sent) : Decidable x.Small := by unfold Sent.Small; infer_instance

/-- A packet of at most `2 ^ 20` bytes of payload that parses is never refused. -/
theorem protectRtp_of_small (hP : GcmLaws P) {p head payload : List UInt8} {h : RtpHeader}
    (hs : splitRtp p = .ok (h, head, payload)) (hlen : payload.length ≤ 2 ^ 20) :
    (s.protectRtp P p).2 = s.advance h := by
  obtain ⟨hhead, -⟩ := splitRtp_parts hs
  have hhead' : head.length ≤ 2 ^ 36 := by
    have hc := h.csrcCount.toNat_lt
    have hx : ∀ e : UInt16, e.toNat < 65536 := fun e => e.toNat_lt
    rw [hhead, RtpHeader.totalHeaderLen]
    simp only [rtpHeaderMinLen]
    split
    · split
      · rename_i e _; have := hx e; omega
      · omega
    · omega
  rw [protectRtp_eq hs]
  unfold sealPayload
  cases s.suite with
  | aesCm128HmacSha180 => rfl
  | aeadAes128Gcm =>
    obtain ⟨ct, hct⟩ := Option.isSome_iff_exists.mp (hP.encrypt_some s.sessionKey
      (s.gcmIv h.ssrc (s.guess h) h.sequenceNumber) head payload hhead' (by omega))
    simp only [hct]

/-- **Every packet that parses meets its own rollover count**: an observation of it that depends on
the keys and the guess only sees what it would see of a suite that guesses `rocOf index`. -/
theorem traceAll_protectRtp {O : Type} (hP : GcmLaws P) {obs : SrtpCryptoSuite → List UInt8 → List O}
    {sees : Sent → List O} {t : SrtpCryptoSuite}
    (herr : ∀ s p e, splitRtp p = .error e → obs s p = [])
    (hok : ∀ s x h head payload, splitRtp x.rtp = .ok (h, head, payload) → x.Carries h →
      SameKeys s t → s.guess h = rocOf x.index → x.index < 2 ^ 48 → obs s x.rtp = sees x) :
    ∀ {sent : List Sent} {s : SrtpCryptoSuite} {hi : Highest}, SameKeys s t → Tracks s hi →
      (∀ x ∈ sent, x.Small) → Schedule climbs hi (sent.filter Sent.parses) →
      traceAll (protectRtp P) obs s (sent.map Sent.rtp) = (sent.filter Sent.parses).flatMap sees
  | [], _, _, _, _, _, _ => rfl
  | x :: sent, s, hi, hk, ht, hsmall, hsch => by
    have hsmall' : ∀ y ∈ sent, y.Small := fun y hy => hsmall y (List.mem_cons_of_mem _ hy)
    rw [List.map_cons, traceAll]
    cases hs : splitRtp x.rtp with
    | error e =>
      have hp : x.parses = false := by rw [Sent.parses, hs]; rfl
      have hst : (s.protectRtp P x.rtp).2 = s := by
        unfold protectRtp
        rw [hs]
        split <;> rfl
      rw [List.filter_cons_of_neg (by simp [hp])] at hsch ⊢
      rw [herr s x.rtp e hs, hst, List.nil_append]
      exact traceAll_protectRtp hP herr hok hk ht hsmall' hsch
    | ok y =>
      obtain ⟨h, head, payload⟩ := y
      have hp : x.parses = true := by rw [Sent.parses, hs]; rfl
      obtain ⟨hlab, hx, hlen⟩ := hsmall x List.mem_cons_self
      rw [Sent.payload, hs] at hlen
      have hc := hlab.carries hs
      rw [List.filter_cons_of_pos hp] at hsch ⊢
      obtain ⟨hclimb, hsch'⟩ := hsch
      obtain ⟨ha, hj⟩ := arrives_judged_of_climbs hclimb
      have hg := ht.guess hc hx ha hj
      have hk' : SameKeys (s.advance h) t :=
        ⟨hk.suite, hk.sessionKey, hk.sessionSalt, hk.sessionAuthKey⟩
      rw [hok s x h head payload hs hc hk hg hx, protectRtp_of_small hP hs hlen,
        List.flatMap_cons,
        traceAll_protectRtp hP herr hok hk' (ht.advance hc hx hg) hsmall' hsch']

/-! ## The coordinates of a run -/

/-- A climbing index lies above the highest one of its stream. -/
theorem above_of_climbs : ∀ {xs : List Sent} {hi : Highest}, Schedule climbs hi xs →
    ∀ y ∈ xs, ∀ j, hi y.ssrc = some j → j < y.index
  | x :: xs, hi, ⟨hc, hsch⟩, y, hy, j, hj => by
    rcases List.mem_cons.mp hy with rfl | hy
    · rw [hj] at hc; exact hc.1
    · have hraise : (hi.raise x) y.ssrc = some (if y.ssrc = x.ssrc then max x.index j else j) := by
        unfold Highest.raise
        split <;> simp [hj]
      have := above_of_climbs hsch y hy _ hraise
      split at this <;> omega

/-- A stream never shows one index twice. -/
theorem pairwise_of_climbs : ∀ {xs : List Sent} {hi : Highest}, Schedule climbs hi xs →
    xs.Pairwise fun x y => (x.ssrc, x.index) ≠ (y.ssrc, y.index)
  | [], _, _ => .nil
  | x :: xs, hi, ⟨_, hsch⟩ => by
    refine .cons (fun y hy he => ?_) (pairwise_of_climbs hsch)
    obtain ⟨hk, hx⟩ := Prod.mk.inj he
    have hraise : (hi.raise x) y.ssrc = some ((hi x.ssrc).elim x.index (max x.index)) := by
      unfold Highest.raise
      rw [if_pos hk.symm, ← hk]
    have := above_of_climbs hsch y hy _ hraise
    cases hhi : hi x.ssrc with
    | none => rw [hhi, Option.elim] at this; omega
    | some j => rw [hhi, Option.elim] at this; omega

/-- SSRC, index and block number of every block that `count` gives the packets. -/
def coords (count : Sent → Nat) (xs : List Sent) : List (UInt32 × Nat × Nat) :=
  xs.flatMap fun x => (List.range (count x)).map fun b => (x.ssrc, x.index, b)

theorem nodup_coords {xs : List Sent} {hi : Highest} (count : Sent → Nat)
    (hsch : Schedule climbs hi xs) : (coords count xs).Nodup := by
  unfold coords
  rw [List.nodup_flatMap]
  refine ⟨fun x _ => List.nodup_range.map fun a b h => ?_, (pairwise_of_climbs hsch).imp ?_⟩
  · simpa using h
  · intro x y hne c hcx hcy
    obtain ⟨_, _, rfl⟩ := List.mem_map.mp hcx
    obtain ⟨_, _, he⟩ := List.mem_map.mp hcy
    simp only [Prod.mk.injEq] at he
    exact hne (by rw [he.1, he.2.1])

/-- Feeding a cipher at distinct coordinates, through a layout that is injective on them, feeds it
distinct values. -/
theorem nodup_flatMap_feed {O : Type} (feed : UInt32 → Nat → Nat → O) (count : Sent → Nat)
    {xs : List Sent} {hi : Highest} (hsch : Schedule climbs hi xs)
    (hinj : ∀ x ∈ xs, ∀ y ∈ xs, ∀ b < count x, ∀ c < count y,
      feed x.ssrc x.index b = feed y.ssrc y.index c →
        x.ssrc = y.ssrc ∧ x.index = y.index ∧ b = c) :
    (xs.flatMap fun x => (List.range (count x)).map (feed x.ssrc x.index)).Nodup := by
  have hmap : (xs.flatMap fun x => (List.range (count x)).map (feed x.ssrc x.index)) =
      (coords count xs).map fun c => feed c.1 c.2.1 c.2.2 := by
    simp only [coords, List.map_flatMap, List.map_map]
    rfl
  rw [hmap]
  refine (nodup_coords count hsch).map_on ?_
  rintro c hc d hd he
  simp only [coords, List.mem_flatMap, List.mem_map, List.mem_range] at hc hd
  obtain ⟨x, hx, b, hb, rfl⟩ := hc
  obtain ⟨y, hy, b', hb', rfl⟩ := hd
  obtain ⟨h1, h2, h3⟩ := hinj x hx y hy b hb b' hb' he
  rw [h1, h2, h3]

/-- The blocks of a packet under its own rollover count. -/
theorem blocksOf_eq {t : SrtpCryptoSuite} {x : Sent} {h : RtpHeader} {head payload : List UInt8}
    (hs : splitRtp x.rtp = .ok (h, head, payload)) (hc : x.Carries h) (hk : SameKeys s t)
    (hg : s.guess h = rocOf x.index) (hx : x.index < 2 ^ 48) (ht : t.suite = .aesCm128HmacSha180) :
    blocksOf s x.rtp =
      (List.range (blockCount x.payload)).map (t.counterBlock x.ssrc x.index) := by
  rw [blocksOf, hk.suite, ht, hs, Sent.payload, hs]
  simp only [hg, hc.1, hc.2, packetIndex_of hx]
  refine List.map_congr_left fun b _ => ?_
  simp only [counterBlock, cmIv, hk.sessionSalt]

/-- The nonce of a packet under its own rollover count. -/
theorem ivsOf_eq {t : SrtpCryptoSuite} {x : Sent} {h : RtpHeader} {head payload : List UInt8}
    (hs : splitRtp x.rtp = .ok (h, head, payload)) (hc : x.Carries h) (hk : SameKeys s t)
    (hg : s.guess h = rocOf x.index) (ht : t.suite = .aeadAes128Gcm) :
    ivsOf s x.rtp =
      (List.range 1).map fun _ => t.gcmIv x.ssrc (rocOf x.index) (seqOf x.index) := by
  rw [ivsOf, hk.suite, ht, hs]
  simp only [hg, hc.1, hc.2, gcmIv, hk.sessionSalt]
  rfl

/-- An observation that sees nothing of a suite's packets sees nothing of a run. -/
theorem traceAll_nil {O : Type} {obs : SrtpCryptoSuite → List UInt8 → List O} {suite : SrtpSuite}
    (hobs : ∀ s p, s.suite = suite → obs s p = []) :
    ∀ (ps : List (List UInt8)) (s : SrtpCryptoSuite), s.suite = suite →
      traceAll (protectRtp P) obs s ps = []
  | [], _, _ => rfl
  | p :: ps, s, hs => by
    have hs' : (s.protectRtp P p).2.suite = suite := by
      cases hout : (s.protectRtp P p).1 with
      | error e => rw [(protectRtp_error hout).1.suite, hs]
      | ok w =>
        obtain ⟨h, _, _, _, _, hst⟩ := protectRtp_ok hout
        rw [hst, (sameKeys_advance h).suite, hs]
    rw [traceAll, hobs s p hs, traceAll_nil hobs ps _ hs', List.nil_append]

/-- **No keystream block and no nonce is used twice.** In a run of a fresh suite over packets whose
indexes climb and stay below `2 ^ 48` and whose payloads are at most `2 ^ 20` bytes, the counter
blocks fed to AES are pairwise distinct, and so are the nonces fed to AES-GCM. Packets that do not
parse may come in between. -/
theorem keystream_unique (hP : GcmLaws P) (suite : SrtpSuite) (masterKey : Vector UInt8 16)
    (masterSalt : Vector UInt8 14) {sent : List Sent} (hsmall : ∀ x ∈ sent, x.Small)
    (hclimbs : Schedule climbs .start (sent.filter Sent.parses)) :
    (traceAll (protectRtp P) blocksOf (ofMaster P suite masterKey masterSalt)
      (sent.map Sent.rtp)).Nodup ∧
    (traceAll (protectRtp P) ivsOf (ofMaster P suite masterKey masterSalt)
      (sent.map Sent.rtp)).Nodup := by
  have ht := Tracks.ofMaster P suite masterKey masterSalt
  have hsuite : (ofMaster P suite masterKey masterSalt).suite = suite := rfl
  generalize ofMaster P suite masterKey masterSalt = t at ht hsuite ⊢
  have hlt : ∀ x ∈ sent.filter Sent.parses, x.index < 2 ^ 48 :=
    fun x hx => (hsmall x (List.mem_of_mem_filter hx)).2.1
  cases suite with
  | aesCm128HmacSha180 =>
    constructor
    · rw [traceAll_protectRtp hP (fun s p e he => by rw [blocksOf, he]; split <;> simp_all)
        (fun s x h head payload hs hc hk hg hx => blocksOf_eq hs hc hk hg hx hsuite)
        (SameKeys.rfl' t) ht hsmall hclimbs]
      have hcount : ∀ x ∈ sent.filter Sent.parses, blockCount x.payload ≤ 65536 := by
        intro x hx
        have := (hsmall x (List.mem_of_mem_filter hx)).2.2
        unfold blockCount
        omega
      exact nodup_flatMap_feed _ _ hclimbs fun x hx y hy b hb c hc =>
        counterBlock_inj (hlt x hx) (hlt y hy) (hb.trans_le (hcount x hx))
          (hc.trans_le (hcount y hy))
    · rw [traceAll_nil (fun s p hs => by rw [ivsOf, hs]) _ t hsuite]
      exact List.nodup_nil
  | aeadAes128Gcm =>
    constructor
    · rw [traceAll_nil (fun s p hs => by rw [blocksOf, hs]) _ t hsuite]
      exact List.nodup_nil
    · rw [traceAll_protectRtp hP (fun s p e he => by rw [ivsOf, he]; split <;> simp_all)
        (fun s x h head payload hs hc hk hg _ => ivsOf_eq hs hc hk hg hsuite)
        (SameKeys.rfl' t) ht hsmall hclimbs]
      refine nodup_flatMap_feed (fun k i _ => t.gcmIv k (rocOf i) (seqOf i)) (fun _ => 1) hclimbs
        fun x hx y hy b hb c hc he => ?_
      obtain ⟨hk, hr, hq⟩ := gcmIv_inj he
      refine ⟨hk, ?_, by omega⟩
      rw [← packetIndex_of (hlt x hx), ← packetIndex_of (hlt y hy), hr, hq]

/-- Two packets of one stream across a rollover, with a text that is no packet between them. -/
theorem keystream_unique_concrete :
    (traceAll (protectRtp .plain) blocksOf
      (ofMaster .plain .aesCm128HmacSha180 (Vector.replicate 16 1) (Vector.replicate 14 2))
      ([packetAt 65535, ⟨1, 0, [1, 2]⟩, packetAt 65537].map Sent.rtp)).Nodup ∧
    (traceAll (protectRtp .plain) ivsOf
      (ofMaster .plain .aesCm128HmacSha180 (Vector.replicate 16 1) (Vector.replicate 14 2))
      ([packetAt 65535, ⟨1, 0, [1, 2]⟩, packetAt 65537].map Sent.rtp)).Nodup :=
  @keystream_unique .plain Primitives.plain_laws .aesCm128HmacSha180 (Vector.replicate 16 1)
    (Vector.replicate 14 2) [packetAt 65535, ⟨1, 0, [1, 2]⟩, packetAt 65537]
    (by decide +kernel) (by decide +kernel)

end Minghe.Media.Srtp
