import Minghe.Lib.Base64
import Minghe.Lib.CaseMap
import Minghe.Lib.Fields
import Minghe.Lib.NoCase
import Minghe.Lib.Text
import Minghe.Media.Srtp.Suite

/-!
# Keys in SDP

Model of the part of `srtp.rs` that exchanges keys in `a=crypto` lines (SDES).

* The Base64 of the `base64` crate is a parameter, `Base64`, with what is relied on in `Base64.Laws`.
* `SuiteKeys` is a `SrtpCryptoSuite` that has seen no packet: its session keys are derived from its
  master key and salt (`SrtpCryptoSuite.ofMaster`). No other ones are copied between calls and relays.
* The errors of the readers are only logged, so they return an `Option`.
* `fromSdes_toSdesKey`: a key that is printed is read back.
* `parseCryptoAttribute_line`: so is an attribute line, with its tag and its suite.
-/

namespace Minghe.Media.Srtp

open Minghe.Lib

/-- Base64 with the standard alphabet and padding. -/
structure Base64 where
  encode : List UInt8 → Str
  decode : Str → Option (List UInt8)

/-- What is printed is read back, four characters for three bytes, and has no other characters than
those of the alphabet. -/
structure Base64.Laws (B : Base64) : Prop where
  decode_encode : ∀ b, B.decode (B.encode b) = some b
  length_encode : ∀ b, (B.encode b).length = 4 * ((b.length + 2) / 3)
  alphabet : ∀ b, ∀ c ∈ B.encode b, c.isAlphanum = true ∨ c ∈ ['+', '/', '=']

/-- Such a Base64. -/
def Base64.standard : Base64 := ⟨encodeBase64, decodeBase64⟩

theorem Base64.standard_laws : Base64.standard.Laws :=
  ⟨decodeBase64_encodeBase64, length_encodeBase64, fun _ _ hc => mem_encodeBase64 hc⟩

/-- `sdp_name`. -/
def SrtpSuite.sdpName : SrtpSuite → Str
  | .aesCm128HmacSha180 => "AES_CM_128_HMAC_SHA1_80".toList
  | .aeadAes128Gcm => "AEAD_AES_128_GCM".toList

/-- `salt_len`. -/
def SrtpSuite.saltLen : SrtpSuite → Nat
  | .aesCm128HmacSha180 => 14
  | .aeadAes128Gcm => 12

/-- `from_sdp_name`. -/
def SrtpSuite.fromSdpName (name : Str) : Option SrtpSuite :=
  if toAsciiUppercase name = SrtpSuite.aesCm128HmacSha180.sdpName then some .aesCm128HmacSha180
  else if toAsciiUppercase name = SrtpSuite.aeadAes128Gcm.sdpName then some .aeadAes128Gcm
  else none

/-- A `SrtpCryptoSuite` that has seen no packet. -/
structure SuiteKeys where
  suite : SrtpSuite
  masterKey : Vector UInt8 16
  masterSalt : Vector UInt8 14
  deriving DecidableEq, Repr

namespace SuiteKeys

/-- The suite itself. -/
def crypto (P : Primitives) (k : SuiteKeys) : SrtpCryptoSuite :=
  .ofMaster P k.suite k.masterKey k.masterSalt

/-- The key and the salt from one string of bytes. A GCM salt is filled up with zeros. -/
def ofBytes (suite : SrtpSuite) (bytes : List UInt8) : SuiteKeys where
  suite := suite
  masterKey := Vector.ofFn fun i => bytes.getD i 0
  masterSalt := Vector.ofFn fun i => if i < suite.saltLen then bytes.getD (16 + i) 0 else 0

/-- The bytes that `to_sdes_key` encodes. -/
def bytes (k : SuiteKeys) : List UInt8 := k.masterKey.toList ++ k.masterSalt.toList.take k.suite.saltLen

/-- `new_with_suite`, from its random bytes. -/
def newWithSuite (suite : SrtpSuite) (random : Vector UInt8 30) : SuiteKeys := ofBytes suite random.toList

@[simp] theorem suite_newWithSuite (suite : SrtpSuite) (random : Vector UInt8 30) :
    (newWithSuite suite random).suite = suite := rfl

/-- `from_sdes_with_suite`. -/
def fromSdesWithSuite (B : Base64) (suite : SrtpSuite) (base64KeySalt : Str) : Option SuiteKeys :=
  (B.decode (trim base64KeySalt)).bind fun decoded =>
    if decoded.length = 16 + suite.saltLen then some (ofBytes suite decoded) else none

/-- `to_sdes_key`. -/
def toSdesKey (B : Base64) (k : SuiteKeys) : Str := B.encode k.bytes

end SuiteKeys

/-- `parse_crypto_attribute`: the tag, the name of the suite, and the key. -/
def parseCryptoAttribute (line : Str) : Option (Nat × Str × Str) :=
  let line := trim line
  let content := if "a=".toList <+: line then line.drop 2 else line
  if "crypto:".toList <+: content then
    -- `splitn(3, ' ')`
    (splitOnce ' ' (content.drop 7)).bind fun (tag, rest) =>
      (splitOnce ' ' rest).bind fun (suite, keyPart) =>
        (parseUnsigned 32 tag).bind fun tag =>
          if "inline:".toList <+: keyPart then
            let key := upTo (· == '|') (keyPart.drop 7)
            if key.isEmpty then none else some (tag, suite, key)
          else none
  else none

/-! ## What is printed is read back -/

/-- A character of Base64 is no white space, and none of those that stand around a key. -/
theorem Base64.Laws.encode_char {B : Base64} (h : B.Laws) {b : List UInt8} {c : Char} (hc : c ∈ B.encode b) :
    isWhitespace c = false ∧ c ≠ '|' := by
  rcases h.alphabet b c hc with halnum | hother
  · refine ⟨isWhitespace_of_isAlphanum halnum, ?_⟩
    rintro rfl
    exact absurd halnum (by decide)
  · simp only [List.mem_cons, List.not_mem_nil, or_false] at hother
    rcases hother with rfl | rfl | rfl <;> decide

theorem SrtpSuite.saltLen_le (suite : SrtpSuite) : suite.saltLen ≤ 14 := by cases suite <;> decide

theorem SrtpSuite.fromSdpName_sdpName (suite : SrtpSuite) : fromSdpName suite.sdpName = some suite := by
  cases suite <;> decide

namespace SuiteKeys

/-- The salt is filled up with zeros. -/
def Padded (k : SuiteKeys) : Prop := ∀ i (h : i < 14), k.suite.saltLen ≤ i → k.masterSalt[i] = 0

theorem padded_ofBytes (suite : SrtpSuite) (bytes : List UInt8) : (ofBytes suite bytes).Padded := by
  intro i h hle
  simp only [ofBytes, Vector.getElem_ofFn]
  exact if_neg (by simpa [ofBytes] using hle)

theorem length_bytes (k : SuiteKeys) : k.bytes.length = 16 + k.suite.saltLen := by
  have hle := k.suite.saltLen_le
  simp only [bytes, List.length_append, Vector.length_toList, List.length_take]
  omega

/-- The key and the salt are in the bytes. -/
theorem ofBytes_bytes {k : SuiteKeys} (h : k.Padded) : ofBytes k.suite k.bytes = k := by
  have hkey : (Vector.ofFn fun i : Fin 16 => k.bytes.getD i 0) = k.masterKey := by
    refine Vector.ext fun i hi => ?_
    rw [Vector.getElem_ofFn, bytes, List.getD_eq_getElem?_getD, List.getElem?_append_left (by simpa using hi)]
    simp [hi]
  have hsalt : (Vector.ofFn fun i : Fin 14 => if i < k.suite.saltLen then k.bytes.getD (16 + i) 0 else 0) =
      k.masterSalt := by
    refine Vector.ext fun i hi => ?_
    rw [Vector.getElem_ofFn]
    dsimp only
    split
    · rename_i hlt
      rw [bytes, List.getD_eq_getElem?_getD, List.getElem?_append_right (by simp)]
      simp [hlt, hi]
    · rename_i hge
      exact (h i hi (Nat.le_of_not_lt hge)).symm
  unfold ofBytes
  rw [hkey, hsalt]

/-- **A key that is printed is read back.** -/
theorem fromSdes_toSdesKey {B : Base64} (hB : B.Laws) {k : SuiteKeys} (h : k.Padded) :
    fromSdesWithSuite B k.suite (k.toSdesKey B) = some k := by
  unfold fromSdesWithSuite toSdesKey
  rw [trim_of_forall_not fun c hc => (hB.encode_char hc).1, hB.decode_encode]
  exact (if_pos k.length_bytes).trans (congrArg some (ofBytes_bytes h))

end SuiteKeys

/-- A line that begins as a `crypto` attribute does. -/
theorem parseCryptoAttribute_append {rest : Str} (h : trim ("a=crypto:".toList ++ rest) = "a=crypto:".toList ++ rest) :
    parseCryptoAttribute ("a=crypto:".toList ++ rest) =
      (splitOnce ' ' rest).bind fun (tag, rest) => (splitOnce ' ' rest).bind fun (suite, keyPart) =>
        (parseUnsigned 32 tag).bind fun tag =>
          if "inline:".toList <+: keyPart then
            let key := upTo (· == '|') (keyPart.drop 7)
            if key.isEmpty then none else some (tag, suite, key)
          else none := by
  have hcontent : (if "a=".toList <+: "a=crypto:".toList ++ rest then ("a=crypto:".toList ++ rest).drop 2
      else "a=crypto:".toList ++ rest) = "crypto:".toList ++ rest := if_pos ⟨_, rfl⟩
  unfold parseCryptoAttribute
  rw [h]
  dsimp only
  rw [hcontent]
  exact if_pos (List.prefix_append _ _)

/-- **A line that is printed is read back.** -/
theorem parseCryptoAttribute_line {tag : Nat} (htag : tag < 2 ^ 32) {suite key : Str} (hsuite : ' ' ∉ suite)
    (hkey : ∀ c ∈ key, isWhitespace c = false ∧ c ≠ '|') (hne : key ≠ []) :
    parseCryptoAttribute ("a=crypto:".toList ++ showNat tag ++ [' '] ++ suite ++ " inline:".toList ++ key) =
      some (tag, suite, key) := by
  have hdigits : ' ' ∉ showNat tag := fun hc =>
    absurd (isWhitespace_of_parseUnsigned (parseUnsigned_showNat htag) ' ' hc) (by decide)
  have hline : "a=crypto:".toList ++ showNat tag ++ [' '] ++ suite ++ " inline:".toList ++ key =
      "a=crypto:".toList ++ (showNat tag ++ ' ' :: (suite ++ ' ' :: ("inline:".toList ++ key))) := by
    simp
  have htrim : trim ("a=crypto:".toList ++ (showNat tag ++ ' ' :: (suite ++ ' ' :: ("inline:".toList ++ key)))) =
      "a=crypto:".toList ++ (showNat tag ++ ' ' :: (suite ++ ' ' :: ("inline:".toList ++ key))) := by
    rw [← hline]
    refine (trim_of_not _ (by decide)).trans (congrArg _ ?_)
    exact trimEnd_append_of_forall_not _ (fun c hc => (hkey c hc).1) hne
  have hkeyPart : upTo (· == '|') key = key := upTo_of_forall fun c hc => by simpa using (hkey c hc).2
  rw [hline, parseCryptoAttribute_append htrim, splitOnce_eq_some.mpr ⟨rfl, hdigits⟩, Option.bind_some]
  dsimp only
  rw [splitOnce_eq_some.mpr ⟨rfl, hsuite⟩, Option.bind_some]
  dsimp only
  rw [parseUnsigned_showNat htag, Option.bind_some, if_pos (List.prefix_append _ _)]
  change (if (upTo (· == '|') key).isEmpty then none else some (tag, suite, upTo (· == '|') key)) = _
  rw [hkeyPart, if_neg (by simpa using hne)]

end Minghe.Media.Srtp
