import Mathlib.Data.Finset.Card
import Minghe.Lib.Net
import Minghe.Lib.Table
import Minghe.Sip.Digest
import Minghe.Sip.Parser
import Minghe.Sip.Transport

/-!
# The registrar

Model of `RegistrarService` in `registrar.rs`: the table of registered extensions, the table of issued
nonces, and the tables of failures and of blocked addresses.

* The fields that never change are a `RegistrarConfig`, the tables are the state. Addresses are the
  keys themselves and not their texts, which differ where the addresses do.
* A call reads the clock in several places; here it has one value. Seconds are `Nat`, so that `-` is
  `saturating_sub`; `now + expires` wraps at `2 ^ 64`.
* A call takes the random bytes of its nonce and of its tag as arguments. It returns the response, or
  panics where reading the request does; what it did to the tables before that stays.
* `log` is not in the source: it records which nonces were issued and which were accepted, and nothing
  reads it.
-/

namespace Minghe.Sip

open Minghe.Lib

/-- `Registration`. -/
structure Registration where
  extension : Str
  contact : Str
  expiresAt : Nat
  transportAddr : SocketAddr
  transport : Transport
  deriving DecidableEq, Repr

/-- `FailedIpEntry`. -/
structure FailedIpEntry where
  count : UInt32
  windowStart : Nat
  deriving DecidableEq, Repr

/-- `NonceEntry`. -/
structure NonceEntry where
  issuedAt : Nat
  ip : IpAddr
  maxNc : Nat
  deriving DecidableEq, Repr

/-- `NONCE_TTL_SECS`. -/
abbrev nonceTtlSecs : Nat := 300

/-- `MAX_ISSUED_NONCES`. -/
abbrev maxIssuedNonces : Nat := 100000

/-- `IpBlockPolicy`, with its default. -/
structure IpBlockPolicy where
  enabled : Bool := true
  maxFailures : UInt32 := 3
  windowSecs : Nat := 600
  maxFailedIps : Nat := 100000
  maxBlockedIps : Nat := 50000
  deriving DecidableEq, Repr

/-- The fields of `RegistrarService` that never change. -/
structure RegistrarConfig where
  domain : Str
  defaultPassword : Str
  passwords : Table Str Str := ∅
  rangeStart : Nat
  rangeEnd : Nat
  ipBlock : IpBlockPolicy := {}
  insecureExtensions : List Str := []

/-- What happened to a nonce: a challenge, or a `validate_nonce` that returned `true`. -/
inductive NonceEvent where
  | issued (nonce : Str) (ip : IpAddr) (issuedAt : Nat)
  | passed (nonce : Str) (nc : Option Nat) (qop : Option Str)
  deriving DecidableEq, Repr

/-- The tables of `RegistrarService`. -/
structure RegistrarService where
  registrations : Table Str Registration := ∅
  failedIps : Table IpAddr FailedIpEntry := ∅
  blockedIps : Finset IpAddr := ∅
  issuedNonces : Table Str NonceEntry := ∅
  log : List NonceEvent := []

/-- The arguments of `handle_register`, with its clock and its random bytes. -/
structure Register where
  text : Str
  fromAddr : SocketAddr
  transport : Transport
  now : Nat
  nonce : Vector UInt8 16
  tag : Vector UInt8 8

/-- `get_password`. -/
def RegistrarConfig.getPassword (cfg : RegistrarConfig) (extension : Str) : Str :=
  (cfg.passwords.lookup extension).getD cfg.defaultPassword

namespace RegistrarService

variable (cfg : RegistrarConfig)

/-! ## Failures -/

/-- `is_blocked`. -/
def isBlocked (ip : IpAddr) (s : RegistrarService) : Bool :=
  cfg.ipBlock.enabled && decide (ip ∈ s.blockedIps)

/-- `record_failure`: whether the address is blocked now. -/
def recordFailure (now : Nat) (ip : IpAddr) (s : RegistrarService) : Bool × RegistrarService :=
  if !cfg.ipBlock.enabled then (false, s)
  else
    let failed := s.failedIps.makeRoom cfg.ipBlock.maxFailedIps
      fun _ e => decide (now - e.windowStart < cfg.ipBlock.windowSecs)
    let entry := (failed.lookup ip).getD ⟨0, now⟩
    let entry := if cfg.ipBlock.windowSecs ≤ now - entry.windowStart then ⟨0, now⟩ else entry
    let entry := { entry with count := entry.count + 1 }
    if entry.count < cfg.ipBlock.maxFailures then
      (false, { s with failedIps := failed.insert ip entry })
    else if cfg.ipBlock.maxBlockedIps ≤ s.blockedIps.card then
      (false, { s with failedIps := failed.erase ip })
    else
      (true, { s with failedIps := failed.erase ip, blockedIps := insert ip s.blockedIps })

/-- `clear_failures`. -/
def clearFailures (ip : IpAddr) (s : RegistrarService) : RegistrarService :=
  { s with failedIps := s.failedIps.erase ip }

/-! ## Nonces -/

/-- `generate_nonce`, from its random bytes. -/
def generateNonce (random : Vector UInt8 16) : Str := hexEncode random.toList

/-- The challenge itself: the value of `WWW-Authenticate`. -/
def wwwAuthenticate (nonce : Str) : Str :=
  "Digest realm=\"".toList ++ cfg.domain ++ "\", nonce=\"".toList ++ nonce ++
    "\", algorithm=MD5, qop=\"auth\"".toList

/-- What `digest_challenge` does to the nonces. -/
def issueNonce (nonce : Str) (ip : IpAddr) (now : Nat) (s : RegistrarService) : RegistrarService :=
  let nonces := s.issuedNonces.makeRoom maxIssuedNonces
    fun _ e => decide (now - e.issuedAt < nonceTtlSecs)
  { s with
    issuedNonces := nonces.insert nonce ⟨now, ip, 0⟩
    log := s.log ++ [.issued nonce ip now] }

/-- `digest_challenge`. -/
def digestChallenge (req : Register) (s : RegistrarService) : Checked Str × RegistrarService :=
  let nonce := generateNonce req.nonce
  (.ok (buildResponseWithHeaders req.text 401 "Unauthorized".toList
      [("WWW-Authenticate".toList, wwwAuthenticate cfg nonce)] (generateTag req.tag)),
    issueNonce nonce req.fromAddr.ip req.now s)

/-- `validate_nonce`. -/
def validateNonce (nonce : Str) (ip : IpAddr) (nc : Option Nat) (qop : Option Str) (now : Nat)
    (s : RegistrarService) : Bool × RegistrarService :=
  match s.issuedNonces.lookup nonce with
  | none => (false, s)
  | some entry =>
    if entry.ip ≠ ip then (false, s)
    else if nonceTtlSecs ≤ now - entry.issuedAt then
      (false, { s with issuedNonces := s.issuedNonces.erase nonce })
    else if qop = some "auth".toList then
      if nc.getD 0 ≤ entry.maxNc then (false, s)
      else (true, { s with
        issuedNonces := s.issuedNonces.insert nonce { entry with maxNc := nc.getD 0 }
        log := s.log ++ [.passed nonce nc qop] })
    else (true, { s with log := s.log ++ [.passed nonce nc qop] })

/-! ## Registrations -/

/-- `register`. -/
def register (reg : Registration) (s : RegistrarService) : RegistrarService :=
  { s with registrations := s.registrations.insert reg.extension reg }

/-- `unregister`. -/
def unregister (extension : Str) (s : RegistrarService) : RegistrarService :=
  { s with registrations := s.registrations.erase extension }

/-- `lookup`. -/
def lookup (now : Nat) (extension : Str) (s : RegistrarService) : Option Registration :=
  (s.registrations.lookup extension).filter fun reg => decide (now < reg.expiresAt)

/-- `is_registered`. -/
def isRegistered (now : Nat) (extension : Str) (s : RegistrarService) : Bool :=
  (s.lookup now extension).isSome

/-- `cleanup_expired`. -/
def cleanupExpired (now : Nat) (s : RegistrarService) : RegistrarService :=
  { s with
    registrations := s.registrations.retain fun _ reg => decide (now < reg.expiresAt)
    issuedNonces := s.issuedNonces.retain fun _ e => decide (now - e.issuedAt < nonceTtlSecs) }

/-! ## REGISTER -/

/-- A response without further headers. -/
def respond (req : Register) (statusCode : Nat) (reason : Str) : Checked Str :=
  .ok (buildResponse req.text statusCode reason (generateTag req.tag))

/-- A refusal that counts as a failure of the source address. -/
def refuse (req : Register) (statusCode : Nat) (reason : Str) (s : RegistrarService) :
    Checked Str × RegistrarService :=
  (respond req statusCode reason, (s.recordFailure cfg req.now req.fromAddr.ip).2)

/-- The extension of a request: that of `To`, or of `From` if there is no `To`. -/
def requestedExtension (text : Str) : Checked (Option Str) := do
  match ← extractUriFromHeader text "To".toList with
  | some uri => extractExtension uri
  | none =>
    match ← extractUriFromHeader text "From".toList with
    | some uri => extractExtension uri
    | none => return none

/-- The end of `handle_register`, for an authenticated request. -/
def updateRegistration (req : Register) (extension : Str) (s : RegistrarService) :
    Checked Str × RegistrarService :=
  match extractExpires req.text with
  | .error e => (.error e, s)
  | .ok expires =>
    let expires := expires.getD 3600
    if expires = 0 then
      (.ok (buildResponseWithHeaders req.text 200 "OK".toList
        [("Expires".toList, "0".toList)] (generateTag req.tag)), s.unregister extension)
    else
      match extractContactUri req.text with
      | .error e => (.error e, s)
      | .ok contact =>
        let contact := contact.getD ("sip:".toList ++ extension ++ ['@'] ++ req.fromAddr.show)
        (.ok (buildResponseWithHeaders req.text 200 "OK".toList
          [("Contact".toList, ['<'] ++ contact ++ ">;expires=".toList ++ showNat expires),
            ("Expires".toList, showNat expires)] (generateTag req.tag)),
          s.register ⟨extension, contact, (req.now + expires) % 2 ^ 64, req.fromAddr, req.transport⟩)

section

variable (md5 : List UInt8 → Vector UInt8 16)

/-- Whether the response in the header is the one for the password of the extension. -/
def digestVerifies (extension : Str) (params : DigestParams) : Bool :=
  validateDigest md5 params.username params.realm (cfg.getPassword extension) params.nonce params.uri
    "REGISTER".toList params.response params.qop params.nc params.cnonce

/-- The text whose MD5 the response should be, with the password of the extension. -/
def digestTextOf (extension : Str) (params : DigestParams) : Str :=
  digestText md5 params.username params.realm (cfg.getPassword extension) params.nonce params.uri
    "REGISTER".toList params.qop params.nc params.cnonce

/-- A response verifies iff it is the MD5 of the text with the password of the extension. -/
theorem digestVerifies_iff {extension : Str} {params : DigestParams} :
    digestVerifies cfg md5 extension params = true ↔
      md5Hex md5 (digestTextOf cfg md5 extension params) = toLowercase params.response :=
  validateDigest_iff md5

/-- `handle_register` from the comparison of the Digest `username` on. -/
def authenticate (req : Register) (extension : Str) (params : DigestParams) (s : RegistrarService) :
    Checked Str × RegistrarService :=
  if params.username ≠ extension then refuse cfg req 403 "Forbidden".toList s
  else
    let ip := req.fromAddr.ip
    let (valid, s) :=
      s.validateNonce params.nonce ip (params.nc.bind (parseHex 64)) params.qop req.now
    if !valid then digestChallenge cfg req (s.recordFailure cfg req.now ip).2
    else if !digestVerifies cfg md5 extension params then refuse cfg req 403 "Forbidden".toList s
    else updateRegistration req extension (s.clearFailures ip)

/-- `handle_register`. -/
def handleRegister (req : Register) (s : RegistrarService) : Checked Str × RegistrarService :=
  if s.isBlocked cfg req.fromAddr.ip then (respond req 403 "Forbidden".toList, s)
  else
    match requestedExtension req.text with
    | .error e => (.error e, s)
    | .ok none => refuse cfg req 400 "Bad Request".toList s
    | .ok (some extension) =>
      match parseUnsigned 32 extension with
      | none => refuse cfg req 403 "Forbidden".toList s
      | some extNum =>
        if extNum < cfg.rangeStart ∨ cfg.rangeEnd < extNum then
          refuse cfg req 403 "Forbidden".toList s
        else if req.transport = .udp ∧ extension ∉ cfg.insecureExtensions then
          refuse cfg req 403 "Forbidden".toList s
        else
          match extractHeaderValue req.text "Authorization".toList with
          | .error e => (.error e, s)
          | .ok none => digestChallenge cfg req s
          | .ok (some authValue) =>
            match parseAuthorization authValue with
            | none => digestChallenge cfg req s
            | some params => authenticate cfg md5 req extension params s

end

end RegistrarService

end Minghe.Sip
