import Minghe.Lib.Fields

/-!
# Digest authentication

Model of the functions below the `RegistrarService` in `registrar.rs`: reading the `Authorization`
header and computing the response that a client should have sent. MD5 is a parameter.
-/

namespace Minghe.Sip

open Minghe.Lib

/-- `DigestParams`. -/
structure DigestParams where
  username : Str
  realm : Str
  nonce : Str
  uri : Str
  response : Str
  qop : Option Str
  nc : Option Str
  cnonce : Option Str
  deriving DecidableEq, Repr

/-- The loop of `split_digest_params`, with the parameter read so far. -/
def splitDigestParamsFrom (current : Str) (inQuotes : Bool) : Str → List Str
  | [] => if (trim current).isEmpty then [] else [current]
  | c :: input =>
    if c = '"' then splitDigestParamsFrom (current ++ [c]) (!inQuotes) input
    else if c = ',' ∧ inQuotes = false then
      (if (trim current).isEmpty then [] else [current]) ++ splitDigestParamsFrom [] inQuotes input
    else splitDigestParamsFrom (current ++ [c]) inQuotes input

/-- `split_digest_params`. -/
def splitDigestParams (input : Str) : List Str := splitDigestParamsFrom [] false input

/-- One parameter of the header, a key and a value. -/
def DigestParams.set (p : DigestParams) (param : Str) : DigestParams :=
  match splitOnce '=' (trim param) with
  | none => p
  | some (key, val) =>
    let key := String.ofList (toLowercase (trim key))
    let val := trimMatches '"' (trim val)
    match key with
    | "username" => { p with username := val }
    | "realm" => { p with realm := val }
    | "nonce" => { p with nonce := val }
    | "uri" => { p with uri := val }
    | "response" => { p with response := val }
    | "qop" => { p with qop := some val }
    | "nc" => { p with nc := some val }
    | "cnonce" => { p with cnonce := some val }
    | _ => p

/-- `parse_authorization`. -/
def parseAuthorization (headerValue : Str) : Option DigestParams :=
  let value := trim headerValue
  let value := if "Digest".toList <+: value then trim (value.drop 6) else value
  let p := (splitDigestParams value).foldl DigestParams.set ⟨[], [], [], [], [], none, none, none⟩
  if p.username.isEmpty || p.nonce.isEmpty || p.response.isEmpty then none else some p

section

variable (md5 : List UInt8 → Vector UInt8 16)

/-- `md5_hex`. -/
def md5Hex (input : Str) : Str := hexEncode (md5 (utf8 input)).toList

/-- Texts with a colon between them (`format!("{}:{}", …)`). -/
def colons (parts : List Str) : Str := [':'].intercalate parts

/-- `validate_digest`. -/
def validateDigest (username realm password nonce uri method response : Str)
    (qop nc cnonce : Option Str) : Bool :=
  let ha1 := md5Hex md5 (colons [username, realm, password])
  let ha2 := md5Hex md5 (colons [method, uri])
  let expected :=
    if qop = some "auth".toList then
      let nc := nc.getD "00000001".toList
      let cnonce := cnonce.getD []
      md5Hex md5 (colons [ha1, nonce, nc, cnonce, "auth".toList, ha2])
    else md5Hex md5 (colons [ha1, nonce, ha2])
  toLowercase expected == toLowercase response

/-! ## What verifies -/

/-- The text behind a response: `HA1:nonce:nc:cnonce:auth:HA2` with `qop=auth`, else `HA1:nonce:HA2`. -/
def digestText (username realm password nonce uri method : Str) (qop nc cnonce : Option Str) : Str :=
  let ha1 := md5Hex md5 (colons [username, realm, password])
  let ha2 := md5Hex md5 (colons [method, uri])
  if qop = some "auth".toList then
    colons [ha1, nonce, nc.getD "00000001".toList, cnonce.getD [], "auth".toList, ha2]
  else colons [ha1, nonce, ha2]

theorem length_hexEncode (b : List UInt8) : (hexEncode b).length = 2 * b.length := by
  induction b with
  | nil => rfl
  | cons x b ih =>
    rw [hexEncode, List.flatMap_cons, List.length_append, ← hexEncode, ih, List.length_cons]
    simp only [List.length_cons, List.length_nil]
    omega

/-- Hexadecimal digits are lower case. -/
theorem toLowercase_hexEncode (b : List UInt8) : toLowercase (hexEncode b) = hexEncode b := by
  have hdigit : ∀ n < 16, lowerChar (Nat.digitChar n) = [Nat.digitChar n] := by decide
  induction b with
  | nil => rfl
  | cons x b ih =>
    have hx := x.toNat_lt
    unfold toLowercase at ih ⊢
    rw [hexEncode, List.flatMap_cons, List.flatMap_append, ← hexEncode, ih, List.flatMap_cons,
      List.flatMap_cons, List.flatMap_nil, hdigit _ (by omega), hdigit _ (by omega)]
    rfl

theorem length_md5Hex (input : Str) : (md5Hex md5 input).length = 32 := by
  rw [md5Hex, length_hexEncode, Vector.length_toList]

theorem toLowercase_md5Hex (input : Str) : toLowercase (md5Hex md5 input) = md5Hex md5 input :=
  toLowercase_hexEncode _

/-- **What verifies** is the MD5 of the text, in either case of its digits. -/
theorem validateDigest_iff {username realm password nonce uri method response : Str}
    {qop nc cnonce : Option Str} :
    validateDigest md5 username realm password nonce uri method response qop nc cnonce = true ↔
      md5Hex md5 (digestText md5 username realm password nonce uri method qop nc cnonce) =
        toLowercase response := by
  unfold validateDigest digestText
  dsimp only
  split <;> rw [beq_iff_eq, toLowercase_md5Hex]

end

example : parseAuthorization
    "Digest username=\"1001\", realm=\"a,b\", nonce=\"abc\", uri=\"sip:x\", response=\"de\", qop=auth".toList
    = some ⟨"1001".toList, "a,b".toList, "abc".toList, "sip:x".toList, "de".toList,
      some "auth".toList, none, none⟩ := by decide +kernel

end Minghe.Sip
