import Minghe.Lib.CounterMode
import Minghe.Lib.Fault
import Minghe.Lib.Table
import Minghe.Media.Srtp.Index

/-!
# The SRTP crypto suite

Model of `SrtpCryptoSuite` (`srtp.rs`): key derivation, `protect_rtp`, `unprotect_rtp` and the RTP
header parser. The three primitives come from crates that are not part of the repository, so they
are the parameter `Primitives`: one AES-128 block, HMAC-SHA1, and AES-128-GCM sealing and opening.
What the crates document about GCM is `GcmLaws`.

Fixed-width arrays are `Vector`s, `u16` and `u32` are `UInt16` and `UInt32`, indexing and slicing
panic where the Rust does (`Minghe.Lib.Res`). A method that takes `&mut self` returns the new suite
next to its result.
-/

namespace Minghe.Media.Srtp

open Minghe.Lib Minghe.Lib.Bytes Minghe.Lib.CounterMode

/-- The crates `aes`, `hmac` / `sha1` and `aes-gcm`. -/
structure Primitives where
  /-- `Aes128::encrypt_block`, from the key and the block. -/
  aes : Vector UInt8 16 → Vector UInt8 16 → Vector UInt8 16
  /-- `HmacSha1`, from the key and the text. -/
  hmacSha1 : Vector UInt8 20 → List UInt8 → Vector UInt8 20
  /-- `Aes128Gcm::encrypt`, from the key, the nonce, the associated data and the plaintext. -/
  gcmEncrypt : Vector UInt8 16 → Vector UInt8 12 → List UInt8 → List UInt8 → Option (List UInt8)
  /-- `Aes128Gcm::decrypt`, from the key, the nonce, the associated data and the ciphertext. -/
  gcmDecrypt : Vector UInt8 16 → Vector UInt8 12 → List UInt8 → List UInt8 → Option (List UInt8)

/-- What `aes-gcm` documents: opening undoes sealing, the ciphertext is the plaintext and a 16-byte
tag, and sealing fails only past `2^36` bytes of plaintext or associated data. -/
structure GcmLaws (P : Primitives) : Prop where
  decrypt_encrypt : ∀ {k n aad msg ct}, P.gcmEncrypt k n aad msg = some ct →
    P.gcmDecrypt k n aad ct = some msg
  length_encrypt : ∀ {k n aad msg ct}, P.gcmEncrypt k n aad msg = some ct →
    ct.length = msg.length + 16
  encrypt_some : ∀ k n aad msg, aad.length ≤ 2 ^ 36 → msg.length ≤ 2 ^ 36 →
    (P.gcmEncrypt k n aad msg).isSome

/-- Primitives that meet the laws and can be run: the identity for a block cipher, a MAC that shows
the last bytes of its text, a zero GCM tag. -/
def Primitives.plain : Primitives where
  aes _ block := block
  hmacSha1 _ text := Vector.ofFn fun i => text.reverse.getD i 0
  gcmEncrypt _ _ _ msg := some (msg ++ List.replicate 16 0)
  gcmDecrypt _ _ _ ct := some (ct.take (ct.length - 16))

theorem Primitives.plain_laws : GcmLaws plain where
  decrypt_encrypt h := by
    simp only [plain, Option.some.injEq] at h ⊢
    rw [← h]
    simp
  length_encrypt h := by
    simp only [plain, Option.some.injEq] at h
    rw [← h]
    simp
  encrypt_some _ _ _ _ _ _ := rfl

/-- `SrtpSuite`. -/
inductive SrtpSuite where
  | aesCm128HmacSha180
  | aeadAes128Gcm
  deriving DecidableEq, Repr

/-- `AUTH_TAG_LEN`. -/
abbrev authTagLen : Nat := 10

/-- `GCM_AUTH_TAG_LEN`. -/
abbrev gcmAuthTagLen : Nat := 16

/-- `RTP_HEADER_MIN_LEN`. -/
abbrev rtpHeaderMinLen : Nat := 12

/-- `SrtpSuite::auth_tag_len`. -/
def SrtpSuite.authTagLen : SrtpSuite → Nat
  | .aesCm128HmacSha180 => Srtp.authTagLen
  | .aeadAes128Gcm => gcmAuthTagLen

/-- The variants of `SrtpError` that packet processing returns. -/
inductive SrtpError where
  | invalidRtpPacket (msg : String)
  | authenticationFailed
  | encryptionFailed (msg : String)
  deriving DecidableEq, Repr

/-- `SrtpCryptoSuite`. -/
structure SrtpCryptoSuite where
  suite : SrtpSuite
  masterKey : Vector UInt8 16
  masterSalt : Vector UInt8 14
  sessionKey : Vector UInt8 16
  sessionSalt : Vector UInt8 14
  sessionAuthKey : Vector UInt8 20
  /-- SSRC → state. -/
  streamStates : Table UInt32 SrtpStreamState

/-! ## Key derivation -/

/-- `LABEL_CIPHER_KEY`. -/
abbrev labelCipherKey : UInt8 := 0

/-- `LABEL_AUTH_KEY`. -/
abbrev labelAuthKey : UInt8 := 1

/-- `LABEL_SALT`. -/
abbrev labelSalt : UInt8 := 2

/-- XOR the 16-bit `counter` into the last two bytes of a block. -/
def withCounter (iv : Vector UInt8 16) (counter : UInt16) : Vector UInt8 16 :=
  (iv.set 14 (iv[14] ^^^ (counter >>> 8).toUInt8)).set 15 (iv[15] ^^^ (counter &&& 0xFF).toUInt8)

/-- The `iv` of `prf_derive`: the master salt, with the label XORed into byte 7. -/
def prfIv (masterSalt : Vector UInt8 14) (label : UInt8) : Vector UInt8 16 :=
  let iv : Vector UInt8 16 := masterSalt ++ (#v[0, 0] : Vector UInt8 2)
  iv.set 7 (iv[7] ^^^ label)

/-- `prf_derive` and `prf_derive_auth`: byte `i` of the result is byte `i % 16` of the block with
counter `i / 16`. -/
def prfDerive (P : Primitives) (masterKey : Vector UInt8 16) (masterSalt : Vector UInt8 14)
    (label : UInt8) (n : Nat) : Vector UInt8 n :=
  Vector.ofFn fun i =>
    (P.aes masterKey (withCounter (prfIv masterSalt label) (UInt16.ofNat (i / 16)))).get
      ⟨i % 16, Nat.mod_lt _ (by decide)⟩

/-- A new suite for a master key and salt, its session keys derived (`derive_session_keys`) and no
stream seen: what `new_with_suite` and `from_sdes_with_suite` build. -/
def SrtpCryptoSuite.ofMaster (P : Primitives) (suite : SrtpSuite) (masterKey : Vector UInt8 16)
    (masterSalt : Vector UInt8 14) : SrtpCryptoSuite where
  suite := suite
  masterKey := masterKey
  masterSalt := masterSalt
  sessionKey := prfDerive P masterKey masterSalt labelCipherKey 16
  sessionSalt := (prfDerive P masterKey masterSalt labelSalt 16).take 14
  -- only the AES-CM suite has an authentication key
  sessionAuthKey :=
    if suite = .aesCm128HmacSha180 then prfDerive P masterKey masterSalt labelAuthKey 20
    else Vector.replicate 20 0
  streamStates := ∅

/-! ## The RTP header -/

/-- `RtpHeader`. -/
structure RtpHeader where
  version : UInt8
  padding : Bool
  extension : Bool
  csrcCount : UInt8
  sequenceNumber : UInt16
  timestamp : UInt32
  ssrc : UInt32
  extensionLength : Option UInt16
  deriving DecidableEq, Repr

/-- `u16::from_be_bytes`. -/
def u16FromBe (a b : UInt8) : UInt16 := UInt16.ofNat (beNat [a, b])

/-- `u32::from_be_bytes`. -/
def u32FromBe (a b c d : UInt8) : UInt32 := UInt32.ofNat (beNat [a, b, c, d])

open Res in
/-- `RtpHeader::parse`. -/
def RtpHeader.parse (data : List UInt8) : Res SrtpError RtpHeader := do
  if data.length < rtpHeaderMinLen then
    err (.invalidRtpPacket s!"数据包太短: {data.length} 字节")
  else
    let firstByte ← byteAt data 0
    let version := (firstByte >>> 6) &&& 0x03
    let padding := (firstByte >>> 5) &&& 0x01 != 0
    let extension := (firstByte >>> 4) &&& 0x01 != 0
    let csrcCount := firstByte &&& 0x0F
    if version ≠ 2 then
      err (.invalidRtpPacket s!"不支持的 RTP 版本: {version}")
    else
      let sequenceNumber := u16FromBe (← byteAt data 2) (← byteAt data 3)
      let timestamp :=
        u32FromBe (← byteAt data 4) (← byteAt data 5) (← byteAt data 6) (← byteAt data 7)
      let ssrc :=
        u32FromBe (← byteAt data 8) (← byteAt data 9) (← byteAt data 10) (← byteAt data 11)
      let csrcEnd := rtpHeaderMinLen + csrcCount.toNat * 4
      if data.length < csrcEnd then
        err (.invalidRtpPacket "CSRC 列表不完整")
      else if extension then
        if data.length < csrcEnd + 4 then
          err (.invalidRtpPacket "扩展头不完整")
        else
          let extLen := u16FromBe (← byteAt data (csrcEnd + 2)) (← byteAt data (csrcEnd + 3))
          .ok ⟨version, padding, extension, csrcCount, sequenceNumber, timestamp, ssrc, some extLen⟩
      else
        .ok ⟨version, padding, extension, csrcCount, sequenceNumber, timestamp, ssrc, none⟩

/-- `RtpHeader::total_header_len`. -/
def RtpHeader.totalHeaderLen (h : RtpHeader) : Nat :=
  rtpHeaderMinLen + h.csrcCount.toNat * 4 +
    (if h.extension then
      match h.extensionLength with
      | some extLen => 4 + extLen.toNat * 4
      | none => 0
    else 0)

open Res in
/-- The parsing stage of `protect_rtp` and `unprotect_rtp`: the header, its bytes and the payload. -/
def splitRtp (data : List UInt8) : Res SrtpError (RtpHeader × List UInt8 × List UInt8) := do
  let header ← RtpHeader.parse data
  let headerLen := header.totalHeaderLen
  if data.length < headerLen then
    err (.invalidRtpPacket "数据包长度小于 RTP 头部长度")
  else
    .ok (header, ← sliceTo data headerLen, ← sliceFrom data headerLen)

/-! ## The two ciphers -/

namespace SrtpCryptoSuite

variable (P : Primitives) (s : SrtpCryptoSuite)

/-- The `iv` of `aes_cm_encrypt`: the SSRC at bytes 4–7 and the low 48 bits of the packet index at
bytes 8–13, XORed with the session salt; bytes 14 and 15 are left to the counter. -/
def cmIv (ssrc : UInt32) (index : Nat) : Vector UInt8 16 :=
  let iv := [0, 0, 0, 0] ++ beBytes 4 ssrc.toNat ++ (beBytes 8 index).drop 2
  ⟨(xorBytes iv s.sessionSalt.toList ++ [0, 0]).toArray, by simp [iv]⟩

/-- The `counter_block` of block `blockIdx` (`block_idx as u16`). -/
def counterBlock (ssrc : UInt32) (index blockIdx : Nat) : Vector UInt8 16 :=
  withCounter (s.cmIv ssrc index) (UInt16.ofNat blockIdx)

/-- `aes_cm_encrypt`. -/
def aesCmEncrypt (ssrc : UInt32) (index : Nat) (data : List UInt8) : List UInt8 :=
  xorBlocks (fun blockIdx => P.aes s.sessionKey (s.counterBlock ssrc index blockIdx))
    ((data.length + 15) / 16) data

/-- `gcm_iv`: `00 00 || SSRC || ROC || SEQ`, XORed with the session salt. -/
def gcmIv (ssrc roc : UInt32) (sequence : UInt16) : Vector UInt8 12 :=
  let iv := [0, 0] ++ beBytes 4 ssrc.toNat ++ beBytes 4 roc.toNat ++ beBytes 2 sequence.toNat
  ⟨(xorBytes iv (s.sessionSalt.toList.take 12)).toArray, by simp [iv]⟩

/-- `compute_auth_tag`: the first 10 bytes of the HMAC over the packet and the rollover count. -/
def computeAuthTag (authenticatedPortion : List UInt8) (roc : UInt32) : List UInt8 :=
  (P.hmacSha1 s.sessionAuthKey (authenticatedPortion ++ beBytes 4 roc.toNat)).toList.take authTagLen

/-- `stream_state_mut`, the read: the state of a stream, the default one if it is new. -/
def streamState (ssrc : UInt32) : SrtpStreamState :=
  (s.streamStates.lookup ssrc).getD SrtpStreamState.default

/-- `stream_state_mut`, the effect: `entry(ssrc).or_default()`. -/
def touchStream (ssrc : UInt32) : SrtpCryptoSuite :=
  { s with streamStates := s.streamStates.entryOrDefault ssrc SrtpStreamState.default }

/-- The update at the end of `protect_rtp` and `unprotect_rtp`. -/
def commitStream (ssrc : UInt32) (sequence : UInt16) (roc : UInt32) : SrtpCryptoSuite :=
  let state := updateStreamStateAfterSuccess (s.streamState ssrc) sequence roc
  { s with streamStates := s.streamStates.insert ssrc state }

/-- The `match self.suite` of `protect_rtp`. -/
def sealPayload (header : RtpHeader) (roc : UInt32) (head payload : List UInt8) :
    Res SrtpError (List UInt8) :=
  match s.suite with
  | .aesCm128HmacSha180 =>
    let index := packetIndex roc header.sequenceNumber
    let srtpPacket := head ++ aesCmEncrypt P s header.ssrc index payload
    .ok (srtpPacket ++ s.computeAuthTag P srtpPacket roc)
  | .aeadAes128Gcm =>
    match P.gcmEncrypt s.sessionKey (s.gcmIv header.ssrc roc header.sequenceNumber) head payload with
    | some encrypted => .ok (head ++ encrypted)
    | none => Res.err (.encryptionFailed "aead::Error")

/-- `protect_rtp`. -/
def protectRtp (packet : List UInt8) : Res SrtpError (List UInt8) × SrtpCryptoSuite :=
  if packet.length < rtpHeaderMinLen then
    (Res.err (.invalidRtpPacket s!"数据包太短: {packet.length} 字节，最少需要 {rtpHeaderMinLen} 字节"), s)
  else
    match splitRtp packet with
    | .error e => (.error e, s)
    | .ok (header, head, payload) =>
      let roc := estimateRoc (s.streamState header.ssrc) header.sequenceNumber
      let s := s.touchStream header.ssrc
      match s.sealPayload P header roc head payload with
      | .error e => (.error e, s)
      | .ok srtpPacket => (.ok srtpPacket, s.commitStream header.ssrc header.sequenceNumber roc)

/-- `constant_time_eq`. -/
def constantTimeEq (a b : List UInt8) : Bool :=
  a.length == b.length && (xorBytes a b).foldl (· ||| ·) 0 == 0

open Res in
/-- The `match self.suite` of `unprotect_rtp`: the AES-CM branch works on the packet without its
tag, the GCM branch on the whole packet. -/
def openPayload (header : RtpHeader) (roc : UInt32) (head payload authenticatedPortion receivedTag
    packet : List UInt8) : Res SrtpError (List UInt8) :=
  match s.suite with
  | .aesCm128HmacSha180 =>
    if constantTimeEq (s.computeAuthTag P authenticatedPortion roc) receivedTag then
      let index := packetIndex roc header.sequenceNumber
      .ok (head ++ aesCmEncrypt P s header.ssrc index payload)
    else err .authenticationFailed
  | .aeadAes128Gcm => do
    let headerLen := header.totalHeaderLen
    let iv := s.gcmIv header.ssrc roc header.sequenceNumber
    match P.gcmDecrypt s.sessionKey iv (← sliceTo packet headerLen)
        (← sliceFrom packet headerLen) with
    | some plaintext => .ok (head ++ plaintext)
    | none => err .authenticationFailed

/-- `unprotect_rtp`. -/
def unprotectRtp (packet : List UInt8) : Res SrtpError (List UInt8) × SrtpCryptoSuite :=
  let tagLen := s.suite.authTagLen
  if packet.length < rtpHeaderMinLen + tagLen then
    (Res.err (.invalidRtpPacket s!"SRTP 数据包太短: {packet.length} 字节"), s)
  else
    let authTagStart := packet.length - tagLen
    let authenticatedPortion := packet.take authTagStart
    let receivedTag := packet.drop authTagStart
    match splitRtp authenticatedPortion with
    | .error e => (.error e, s)
    | .ok (header, head, payload) =>
      let roc := estimateRoc (s.streamState header.ssrc) header.sequenceNumber
      let s := s.touchStream header.ssrc
      match s.openPayload P header roc head payload authenticatedPortion receivedTag packet with
      | .error e => (.error e, s)
      | .ok rtpPacket => (.ok rtpPacket, s.commitStream header.ssrc header.sequenceNumber roc)

end SrtpCryptoSuite

end Minghe.Media.Srtp
