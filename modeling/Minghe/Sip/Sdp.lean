import Minghe.Lib.Net
import Minghe.Media.Srtp.Sdes
import Minghe.Sip.Parser

/-!
# Session descriptions

Model of the functions that rewrite and read SDP: `rewrite_sdp_with_cryptos` (`parser.rs`), and
`extract_srtp_crypto_from_sdp`, `ensure_answer_crypto_not_last_line`, `fill_missing_rtpmap` and
`extract_audio_media_addr_from_sdp` (`router.rs`). None of them slices a text anywhere but behind an
ASCII prefix, so none can panic.
-/

namespace Minghe.Sip

open Minghe.Lib
open Minghe.Media.Srtp (Base64 SrtpSuite SuiteKeys parseCryptoAttribute)

/-! ## Rewriting -/

/-- `SdpCrypto`. -/
structure SdpCrypto where
  tag : Nat
  suite : Str
  keyB64 : Str
  deriving DecidableEq, Repr

/-- `SdpCrypto::to_line`. -/
def SdpCrypto.toLine (c : SdpCrypto) : Str :=
  "a=crypto:".toList ++ showNat c.tag ++ [' '] ++ c.suite ++ " inline:".toList ++ c.keyB64

/-- The lines that `should_strip_for_sdes_srtp` takes away. -/
def strippedPrefixes : List Str :=
  ["a=crypto:", "a=fingerprint:", "a=setup:", "a=connection:", "a=key-mgmt:", "a=ice-ufrag:",
    "a=ice-pwd:", "a=ice-options:", "a=candidate:", "a=end-of-candidates", "a=remote-candidates:",
    "a=rtcp:", "a=rtcp-mux", "a=rtcp-rsize"].map String.toList

/-- `should_strip_for_sdes_srtp`. -/
def shouldStripForSdesSrtp (line : Str) : Bool :=
  strippedPrefixes.any fun p => decide (p <+: toAsciiLowercase (trim line))

/-- A line that begins with `m=`, and one that begins with `m=audio`. -/
def isMedia (line : Str) : Bool := decide ("m=".toList <+: line)
def isAudio (line : Str) : Bool := decide ("m=audio".toList <+: line)

/-- The flags of the loop in `rewrite_sdp_with_cryptos`. -/
structure SdpState where
  inAudio : Bool := false
  foundAudio : Bool := false
  cryptoInserted : Bool := false
  deriving DecidableEq, Repr

section

variable (relayAddr : Str) (relayPort : UInt16) (cryptos : List SdpCrypto)

/-- `push_crypto_lines`. -/
def cryptoLines : List Str := cryptos.map SdpCrypto.toLine

/-- What a new media section begins with: the crypto lines that the section before it still lacks. -/
def enterSection (st : SdpState) (line : Str) : List Str × SdpState :=
  if isMedia line then
    (if st.inAudio && !st.cryptoInserted then cryptoLines cryptos else [],
      { st with inAudio := isAudio line, cryptoInserted := false })
  else ([], st)

/-- The line itself. -/
def rewriteSdpLine (st : SdpState) (line : Str) : List Str × SdpState :=
  if "c=".toList <+: line then (["c=IN IP4 ".toList ++ relayAddr], st)
  else if isAudio line then
    let parts := splitWhitespace line
    if 4 ≤ parts.length then
      let proto := if cryptos.isEmpty then parts.getD 2 [] else "RTP/SAVP".toList
      (["m=audio ".toList ++ showNat relayPort.toNat ++ [' '] ++ proto ++ [' '] ++
        [' '].intercalate (parts.drop 3)], { st with foundAudio := true })
    else ([line], st)
  else if st.inAudio && decide ("a=crypto".toList <+: line) then
    if st.cryptoInserted then ([], st) else (cryptoLines cryptos, { st with cryptoInserted := true })
  else if !cryptos.isEmpty && shouldStripForSdesSrtp line then ([], st)
  else ([line], st)

/-- The loop, and what follows it. -/
def rewriteSdpLines : SdpState → List Str → List Str
  | st, [] => if st.inAudio && st.foundAudio && !st.cryptoInserted then cryptoLines cryptos else []
  | st, line :: ls =>
    let (pending, st) := enterSection cryptos st line
    let (out, st) := rewriteSdpLine relayAddr relayPort cryptos st line
    pending ++ out ++ rewriteSdpLines st ls

/-- `rewrite_sdp_with_cryptos`. -/
def rewriteSdpWithCryptos (sdp : Str) : Str :=
  crlf.intercalate (rewriteSdpLines relayAddr relayPort cryptos {} (lines sdp)) ++ crlf

end

/-- The text without the line ends behind it: `trim_end_matches('\n').trim_end_matches('\r')`. -/
def trimLineEnds (sdp : Str) : Str := (sdp.rdropWhile (· == '\n')).rdropWhile (· == '\r')

/-- `ensure_answer_crypto_not_last_line`. -/
def ensureAnswerCryptoNotLastLine (sdp : Str) : Str :=
  let trimmed := trimLineEnds sdp
  let lastLine := ((trimmed.splitOn '\n').getLast?).getD []
  if "a=crypto:".toList <+: toAsciiLowercase (trim lastLine) then
    trimmed ++ "\r\na=ptime:20\r\n".toList
  else sdp

/-- What `fill_missing_rtpmap` finds in the audio sections: the payload types in use, and those that
are mapped. -/
structure PayloadTypes where
  inAudio : Bool := false
  audioPts : List Nat := []
  rtpmapPts : List Nat := []
  deriving DecidableEq, Repr

/-- One line of its loop. -/
def PayloadTypes.add (pts : PayloadTypes) (line : Str) : PayloadTypes :=
  let pts := if isMedia line then { pts with inAudio := isAudio line } else pts
  let pts :=
    if pts.inAudio && decide ("a=rtpmap:".toList <+: trim line) then
      match (splitWhitespace ((trim line).drop 9)).head?.bind (parseUnsigned 16) with
      | some num => { pts with rtpmapPts := num :: pts.rtpmapPts }
      | none => pts
    else pts
  if pts.inAudio && isAudio line then
    let parts := splitWhitespace line
    if 4 ≤ parts.length then
      { pts with audioPts := pts.audioPts ++ (parts.drop 3).filterMap (parseUnsigned 16) }
    else pts
  else pts

/-- `fill_missing_rtpmap`. -/
def fillMissingRtpmap (sdp : Str) : Str :=
  let pts := (lines sdp).foldl PayloadTypes.add {}
  let missing := pts.audioPts.filter fun pt => decide (95 < pt) && !pts.rtpmapPts.contains pt
  if missing.isEmpty then sdp
  else
    trimLineEnds sdp ++
      (missing.flatMap fun pt => "\r\na=rtpmap:".toList ++ showNat pt ++ " unknown/8000".toList) ++ crlf

/-! ## Reading -/

section

variable (B : Base64)

/-- The tag and the keys of a usable `crypto` line. -/
def readCryptoLine (line : Str) : Option (Nat × SuiteKeys) :=
  let trimmed := trim line
  let lower := toAsciiLowercase trimmed
  if "a=crypto".toList <+: lower ∨ "crypto:".toList <+: lower then
    (parseCryptoAttribute trimmed).bind fun (tag, suite, key) =>
      (SrtpSuite.fromSdpName suite).bind fun srtpSuite =>
        (SuiteKeys.fromSdesWithSuite B srtpSuite key).map fun crypto => (tag, crypto)
  else none

/-- The loop of `extract_srtp_crypto_from_sdp`. -/
def srtpCryptoFromLines (gcmFallback : Option (Nat × SuiteKeys)) : List Str → Option (Nat × SuiteKeys)
  | [] => gcmFallback
  | line :: ls =>
    match readCryptoLine B line with
    | none => srtpCryptoFromLines gcmFallback ls
    | some (tag, crypto) =>
      if crypto.suite = .aesCm128HmacSha180 then some (tag, crypto)
      else srtpCryptoFromLines (gcmFallback.or (some (tag, crypto))) ls

/-- `extract_srtp_crypto_from_sdp`. -/
def extractSrtpCryptoFromSdp (sdp : Str) : Option (Nat × SuiteKeys) :=
  srtpCryptoFromLines B none (lines sdp)

end

/-- `callee_answer_crypto_is_offered`. -/
def calleeAnswerCryptoIsOffered (tag : Nat) (suite : SrtpSuite) : Bool :=
  decide ((tag, suite) = (1, .aesCm128HmacSha180) ∨ (tag, suite) = (2, .aeadAes128Gcm))

/-- What `extract_audio_media_addr_from_sdp` has read. -/
structure AudioAddr where
  sessionAddr : Option Str := none
  audioAddr : Option Str := none
  audioPort : Option Nat := none
  inAudio : Bool := false
  deriving DecidableEq, Repr

/-- One line of its loop. -/
def AudioAddr.add (a : AudioAddr) (line : Str) : AudioAddr :=
  let trimmed := trim line
  if "c=".toList <+: trimmed then
    match splitWhitespace (trimmed.drop 2) with
    | net :: _ :: host :: _ =>
      if eqIgnoreAsciiCase net "IN".toList then
        if a.inAudio then { a with audioAddr := some host } else { a with sessionAddr := some host }
      else a
    | _ => a
  else if isMedia trimmed then
    if isAudio trimmed then
      { a with
        inAudio := true
        audioPort := ((splitWhitespace trimmed)[1]?.bind (parseUnsigned 16)).filter fun port => port ≠ 0 }
    else { a with inAudio := false }
  else a

/-- `extract_audio_media_addr_from_sdp`. -/
def extractAudioMediaAddrFromSdp (sdp : Str) : Option SocketAddr :=
  let a := (lines sdp).foldl AudioAddr.add {}
  (a.audioAddr.or a.sessionAddr).bind fun host =>
    a.audioPort.bind fun port =>
      (IpAddr.parse (upTo (· == '/') host)).map fun ip => SocketAddr.new ip (UInt16.ofNat port)

end Minghe.Sip
