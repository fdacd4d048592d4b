import Minghe.Sip.Parser

/-!
# The callee's responses, as the caller gets them

Model of `build_forwarded_invite_response` (`router.rs`) and what it uses. The response is written anew:
`Via`, `From`, `Call-ID` and `CSeq` come from the caller's INVITE, `To` from the callee's response.
-/

namespace Minghe.Sip

open Minghe.Lib

/-- `header_lines`: the header lines with one of the names, trimmed. -/
def namedHeaderLines (names : List Str) (msg : Str) : List Str :=
  (headerSection (lines msg)).filter (hasName names)

/-- `first_header_line`. -/
def firstHeaderLine (names : List Str) (msg : Str) : Option Str := (namedHeaderLines names msg).head?

/-- `reason_phrase`. -/
def reasonPhrase (response : Str) : Str :=
  let reason := (lines response).head?.bind fun line =>
    (splitOnce ' ' line).bind fun (_, rest) => (splitOnce ' ' rest).map fun (_, reason) => trim reason
  (reason.filter fun reason => !reason.isEmpty).getD "Unknown".toList

/-- `build_forwarded_invite_response`. -/
def buildForwardedInviteResponse (originalInvite calleeResponse : Str) (statusCode : Nat)
    (reason contactUri body : Str) : Str :=
  let toHeader := ((firstHeaderLine toNames calleeResponse).or (firstHeaderLine toNames originalInvite)).getD
    ("To: <".toList ++ contactUri ++ ['>'])
  let headers := namedHeaderLines viaNames originalInvite ++
    (firstHeaderLine fromNames originalInvite).toList ++ [toHeader] ++
    (firstHeaderLine callIdNames originalInvite).toList ++
    (firstHeaderLine cseqNames originalInvite).toList ++
    if 200 ≤ statusCode ∧ statusCode < 300 then ["Contact: <".toList ++ contactUri ++ ['>']] else []
  sipVersion ++ [' '] ++ showNat statusCode ++ [' '] ++ reason ++ crlf ++ headers.flatMap (· ++ crlf) ++
    (if body.isEmpty then [] else "Content-Type: application/sdp\r\n".toList) ++
    "Content-Length: ".toList ++ showNat (byteLen body) ++ headerEnd ++ body

end Minghe.Sip
