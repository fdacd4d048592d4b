import Minghe.Lib.Interleaving
import Minghe.Sip.Registered
import Minghe.Sip.Router

/-!
# The lock sections of the registrar

A finer model of the functions of `RegistrarService` (`registrar.rs`) and of the beginning of
`handle_invite` (`router.rs`). Executions overlap: what one does under a lock may come between two lock
sections of another, and the clock is read between them.

* `RegistrarRequest`: the lock sections and the clock, and `act`, what they do.
* `RegistrarProgram`: the functions as programs over them. By the theorems `alone_…`, a program that nothing
  comes between does what the function in `RegistrarService` does.
* `Bounded`: the tables are not larger than their limits.
* `tables_bounded`: the tables of the registrar stay within their bounds, however the calls overlap at the
  locks.

Behind the check of the caller, `handle_invite` only reads the registrations, so the rest of it is left
out.
-/

namespace Minghe.Sip

open Minghe.Lib

/-- A lock section of the registrar, or a look at the clock. -/
inductive RegistrarRequest where
  | nowSecs
  /-- `is_blocked`. -/
  | isBlocked (ip : IpAddr)
  /-- The first section of `record_failure`: whether the bound is reached. -/
  | countFailure (now : Nat) (ip : IpAddr)
  /-- The second one. -/
  | block (ip : IpAddr)
  | clearFailures (ip : IpAddr)
  /-- That of `digest_challenge`. -/
  | issueNonce (nonce : Str) (ip : IpAddr) (now : Nat)
  | validateNonce (nonce : Str) (ip : IpAddr) (nc : Option Nat) (qop : Option Str) (now : Nat)
  | lookup (now : Nat) (extension : Str)
  | register (reg : Registration)
  | unregister (extension : Str)
  /-- The first section of `cleanup_expired`. -/
  | cleanRegistrations (now : Nat)
  /-- The second one. -/
  | cleanNonces (now : Nat)

/-- What a section returns. -/
@[reducible] def RegistrarRequest.Reply : RegistrarRequest → Type
  | nowSecs => Nat
  | isBlocked _ | countFailure _ _ | block _ | validateNonce .. => Bool
  | lookup _ _ => Option Registration
  | clearFailures _ | issueNonce .. | register _ | unregister _ | cleanRegistrations _ | cleanNonces _ => Unit

namespace RegistrarService

variable (cfg : RegistrarConfig)

/-! ## The sections -/

/-- `record_failure` under the lock of the failures. -/
def countFailure (now : Nat) (ip : IpAddr) (s : RegistrarService) : Bool × RegistrarService :=
  let failed := s.failedIps.makeRoom cfg.ipBlock.maxFailedIps
    fun _ e => decide (now - e.windowStart < cfg.ipBlock.windowSecs)
  let entry := (failed.lookup ip).getD ⟨0, now⟩
  let entry := if cfg.ipBlock.windowSecs ≤ now - entry.windowStart then ⟨0, now⟩ else entry
  let entry := { entry with count := entry.count + 1 }
  if entry.count < cfg.ipBlock.maxFailures then (false, { s with failedIps := failed.insert ip entry })
  else (true, { s with failedIps := failed.erase ip })

/-- `record_failure` under the lock of the blocked addresses: whether there was room. -/
def block (ip : IpAddr) (s : RegistrarService) : Bool × RegistrarService :=
  if cfg.ipBlock.maxBlockedIps ≤ s.blockedIps.card then (false, s)
  else (true, { s with blockedIps := insert ip s.blockedIps })

/-- The first section of `record_failure` leaves an entry of the address, or takes it out at the bound. -/
theorem countFailure_cases (now : Nat) (ip : IpAddr) (s : RegistrarService) :
    let room := s.failedIps.makeRoom cfg.ipBlock.maxFailedIps
      fun _ e => decide (now - e.windowStart < cfg.ipBlock.windowSecs)
    (∃ entry, s.countFailure cfg now ip = (false, { s with failedIps := room.insert ip entry })) ∨
      s.countFailure cfg now ip = (true, { s with failedIps := room.erase ip }) := by
  intro room
  unfold countFailure
  dsimp only
  generalize (if cfg.ipBlock.windowSecs ≤ now - ((room.lookup ip).getD ⟨0, now⟩).windowStart then _
    else (room.lookup ip).getD ⟨0, now⟩ : FailedIpEntry) = entry
  by_cases hlt : entry.count + 1 < cfg.ipBlock.maxFailures
  · exact .inl ⟨_, if_pos hlt⟩
  · exact .inr (if_neg hlt)

variable {cfg} in
/-- `record_failure` is its two sections. -/
theorem recordFailure_sections (hon : ¬ (!cfg.ipBlock.enabled) = true) (now : Nat) (ip : IpAddr)
    (s : RegistrarService) : s.recordFailure cfg now ip =
      if (s.countFailure cfg now ip).1 then (s.countFailure cfg now ip).2.block cfg ip
      else (false, (s.countFailure cfg now ip).2) := by
  unfold recordFailure countFailure block
  rw [if_neg hon]
  dsimp only
  split_ifs <;> first | rfl | contradiction

/-- What a section does, and what it returns. The clock shows anything. -/
def act : (r : RegistrarRequest) → Nat → RegistrarService → r.Reply × RegistrarService
  | .nowSecs, now, s => (now, s)
  | .isBlocked ip, _, s => (decide (ip ∈ s.blockedIps), s)
  | .countFailure now ip, _, s => s.countFailure cfg now ip
  | .block ip, _, s => s.block cfg ip
  | .clearFailures ip, _, s => ((), s.clearFailures ip)
  | .issueNonce nonce ip now, _, s => ((), s.issueNonce nonce ip now)
  | .validateNonce nonce ip nc qop now, _, s => s.validateNonce nonce ip nc qop now
  | .lookup now extension, _, s => (s.lookup now extension, s)
  | .register reg, _, s => ((), s.register reg)
  | .unregister extension, _, s => ((), s.unregister extension)
  | .cleanRegistrations now, _, s =>
    ((), { s with registrations := s.registrations.retain fun _ reg => decide (now < reg.expiresAt) })
  | .cleanNonces now, _, s =>
    ((), { s with issuedNonces := s.issuedNonces.retain fun _ e => decide (now - e.issuedAt < nonceTtlSecs) })

end RegistrarService

/-! ## The programs -/

/-- A program over the sections. -/
abbrev RegistrarProgram := Program RegistrarRequest.Reply

namespace RegistrarProgram

variable (cfg : RegistrarConfig)

/-- One section. -/
def under (r : RegistrarRequest) : RegistrarProgram r.Reply := Program.ask r

/-- `is_blocked`. -/
def isBlocked (ip : IpAddr) : RegistrarProgram Bool :=
  if !cfg.ipBlock.enabled then return false
  else under (.isBlocked ip)

/-- `record_failure`. -/
def recordFailure (ip : IpAddr) : RegistrarProgram Bool :=
  if !cfg.ipBlock.enabled then return false
  else do
    let now : Nat ← under .nowSecs
    let reached : Bool ← under (.countFailure now ip)
    if reached then under (.block ip) else return false

/-- `clear_failures`. -/
def clearFailures (ip : IpAddr) : RegistrarProgram Unit := under (.clearFailures ip)

/-- `digest_challenge`. -/
def digestChallenge (req : Register) : RegistrarProgram (Checked Str) := do
  let nonce := RegistrarService.generateNonce req.nonce
  let now : Nat ← under .nowSecs
  let _ ← under (.issueNonce nonce req.fromAddr.ip now)
  return .ok (buildResponseWithHeaders req.text 401 "Unauthorized".toList
    [("WWW-Authenticate".toList, RegistrarService.wwwAuthenticate cfg nonce)] (generateTag req.tag))

/-- `validate_nonce`. -/
def validateNonce (nonce : Str) (ip : IpAddr) (nc : Option Nat) (qop : Option Str) : RegistrarProgram Bool := do
  let now : Nat ← under .nowSecs
  under (.validateNonce nonce ip nc qop now)

/-- `lookup`. -/
def lookup (extension : Str) : RegistrarProgram (Option Registration) := do
  let now : Nat ← under .nowSecs
  under (.lookup now extension)

/-- `cleanup_expired`. -/
def cleanupExpired : RegistrarProgram Unit := do
  let now : Nat ← under .nowSecs
  let _ ← under (.cleanRegistrations now)
  under (.cleanNonces now)

/-- A refusal that counts as a failure of the source address. -/
def refuse (req : Register) (statusCode : Nat) (reason : Str) : RegistrarProgram (Checked Str) := do
  let _ ← recordFailure cfg req.fromAddr.ip
  return RegistrarService.respond req statusCode reason

/-- The end of `handle_register`, for an authenticated request. -/
def updateRegistration (req : Register) (extension : Str) : RegistrarProgram (Checked Str) :=
  match extractExpires req.text with
  | .error e => return .error e
  | .ok expires =>
    let expires := expires.getD 3600
    if expires = 0 then do
      let _ ← under (.unregister extension)
      return .ok (buildResponseWithHeaders req.text 200 "OK".toList
        [("Expires".toList, "0".toList)] (generateTag req.tag))
    else
      match extractContactUri req.text with
      | .error e => return .error e
      | .ok contact => do
        let contact := contact.getD ("sip:".toList ++ extension ++ ['@'] ++ req.fromAddr.show)
        let now : Nat ← under .nowSecs
        let _ ← under (.register
          ⟨extension, contact, (now + expires) % 2 ^ 64, req.fromAddr, req.transport⟩)
        return .ok (buildResponseWithHeaders req.text 200 "OK".toList
          [("Contact".toList, ['<'] ++ contact ++ ">;expires=".toList ++ showNat expires),
            ("Expires".toList, showNat expires)] (generateTag req.tag))

section

variable (md5 : List UInt8 → Vector UInt8 16)

/-- `handle_register` from the comparison of the Digest `username` on. -/
def authenticate (req : Register) (extension : Str) (params : DigestParams) : RegistrarProgram (Checked Str) :=
  if params.username ≠ extension then refuse cfg req 403 "Forbidden".toList
  else do
    let valid ← validateNonce params.nonce req.fromAddr.ip (params.nc.bind (parseHex 64)) params.qop
    if !valid then
      let _ ← recordFailure cfg req.fromAddr.ip
      digestChallenge cfg req
    else if !RegistrarService.digestVerifies cfg md5 extension params then
      refuse cfg req 403 "Forbidden".toList
    else
      clearFailures req.fromAddr.ip
      updateRegistration req extension

/-- `handle_register`. Its argument `now` is not used. -/
def handleRegister (req : Register) : RegistrarProgram (Checked Str) := do
  if ← isBlocked cfg req.fromAddr.ip then return RegistrarService.respond req 403 "Forbidden".toList
  else
    match RegistrarService.requestedExtension req.text with
    | .error e => return .error e
    | .ok none => refuse cfg req 400 "Bad Request".toList
    | .ok (some extension) =>
      match parseUnsigned 32 extension with
      | none => refuse cfg req 403 "Forbidden".toList
      | some extNum =>
        if extNum < cfg.rangeStart ∨ cfg.rangeEnd < extNum then refuse cfg req 403 "Forbidden".toList
        else if req.transport = .udp ∧ extension ∉ cfg.insecureExtensions then
          refuse cfg req 403 "Forbidden".toList
        else
          match extractHeaderValue req.text "Authorization".toList with
          | .error e => return .error e
          | .ok none => digestChallenge cfg req
          | .ok (some authValue) =>
            match parseAuthorization authValue with
            | none => digestChallenge cfg req
            | some params => authenticate cfg md5 req extension params

end

/-- Where `handle_invite` is behind its check of the caller. -/
inductive InviteStart where
  | forbidden
  | panicked
  | goesOn (callerExt calleeExt : Str)
  deriving DecidableEq, Repr

/-- The refusal of a caller. -/
def forbid (ip : IpAddr) : RegistrarProgram InviteStart := do
  let _ ← recordFailure cfg ip
  return .forbidden

/-- The beginning of `handle_invite`. -/
def startInvite (msg : Incoming) : RegistrarProgram InviteStart := do
  let ip := msg.fromAddr.ip
  if ← isBlocked cfg ip then return .forbidden
  else
    match Router.callerOf msg.text, extractCalledExtension msg.text with
    | .ok callerExt, .ok calleeExt =>
      let goesOn := InviteStart.goesOn callerExt (calleeExt.getD [])
      if callerExt.isEmpty then forbid cfg ip
      else
        let registered ← lookup callerExt
        if registered.isNone then forbid cfg ip
        else
          match msg.connectionExt with
          | some ext => if ext = callerExt then return goesOn else forbid cfg ip
          | none =>
            if msg.sink.transport = .udp then
              let registered ← lookup callerExt
              if registered.any fun reg => decide (reg.transportAddr.ip = ip) then return goesOn
              else forbid cfg ip
            else forbid cfg ip
    | _, _ => return .panicked

/-! ## Programs that nothing comes between -/

variable {cfg}

open RegistrarService (act)

@[simp] theorem alone_under (r : RegistrarRequest) (now : Nat) (s : RegistrarService) :
    (under r).alone (act cfg) now s = act cfg r now s := rfl

theorem alone_isBlocked (now : Nat) (ip : IpAddr) (s : RegistrarService) :
    (isBlocked cfg ip).alone (act cfg) now s = (s.isBlocked cfg ip, s) := by
  unfold isBlocked RegistrarService.isBlocked
  cases cfg.ipBlock.enabled <;> rfl

theorem alone_recordFailure (now : Nat) (ip : IpAddr) (s : RegistrarService) :
    (recordFailure cfg ip).alone (act cfg) now s = s.recordFailure cfg now ip := by
  unfold recordFailure
  split
  · exact (if_pos ‹_›).symm
  rename_i hon
  rw [Program.alone_bind, Program.alone_bind, alone_under, alone_under,
    RegistrarService.recordFailure_sections hon]
  change (if (s.countFailure cfg now ip).1 then under (.block ip) else pure false : RegistrarProgram Bool).alone
    (act cfg) now (s.countFailure cfg now ip).2 = _
  split <;> rfl

theorem alone_digestChallenge (req : Register) (s : RegistrarService) :
    (digestChallenge cfg req).alone (act cfg) req.now s = s.digestChallenge cfg req := rfl

theorem alone_validateNonce (nonce : Str) (ip : IpAddr) (nc : Option Nat) (qop : Option Str) (now : Nat)
    (s : RegistrarService) : (validateNonce nonce ip nc qop).alone (act cfg) now s =
      s.validateNonce nonce ip nc qop now := rfl

theorem alone_lookup (now : Nat) (extension : Str) (s : RegistrarService) :
    (lookup extension).alone (act cfg) now s = (s.lookup now extension, s) := rfl

theorem alone_cleanupExpired (now : Nat) (s : RegistrarService) :
    cleanupExpired.alone (act cfg) now s = ((), s.cleanupExpired now) := rfl

theorem alone_refuse (req : Register) (statusCode : Nat) (reason : Str) (s : RegistrarService) :
    (refuse cfg req statusCode reason).alone (act cfg) req.now s =
      RegistrarService.refuse cfg req statusCode reason s := by
  unfold refuse RegistrarService.refuse
  rw [Program.alone_bind, alone_recordFailure]
  rfl

theorem alone_updateRegistration (req : Register) (extension : Str) (s : RegistrarService) :
    (updateRegistration req extension).alone (act cfg) req.now s = s.updateRegistration req extension := by
  unfold updateRegistration RegistrarService.updateRegistration
  cases extractExpires req.text with
  | error e => rfl
  | ok expires =>
    dsimp only
    split
    · rfl
    · cases extractContactUri req.text with
      | error e => rfl
      | ok contact => rfl

theorem alone_authenticate (md5 : List UInt8 → Vector UInt8 16) (req : Register) (extension : Str)
    (params : DigestParams) (s : RegistrarService) :
    (authenticate cfg md5 req extension params).alone (act cfg) req.now s =
      s.authenticate cfg md5 req extension params := by
  unfold authenticate RegistrarService.authenticate
  split
  · exact alone_refuse ..
  rw [Program.alone_bind, alone_validateNonce]
  dsimp only
  split
  · rw [Program.alone_bind, alone_recordFailure, alone_digestChallenge]
  split
  · exact alone_refuse ..
  · rw [Program.alone_bind]
    exact alone_updateRegistration ..

/-- **`handle_register`**, when nothing comes between its sections. -/
theorem alone_handleRegister (cfg : RegistrarConfig) (md5 : List UInt8 → Vector UInt8 16) (req : Register)
    (s : RegistrarService) :
    (handleRegister cfg md5 req).alone (act cfg) req.now s = s.handleRegister cfg md5 req := by
  unfold handleRegister RegistrarService.handleRegister
  rw [Program.alone_bind, alone_isBlocked]
  dsimp only
  split
  · rfl
  cases RegistrarService.requestedExtension req.text with
  | error e => rfl
  | ok requested =>
  cases requested with
  | none => exact alone_refuse ..
  | some extension =>
  dsimp only
  cases parseUnsigned 32 extension with
  | none => exact alone_refuse ..
  | some extNum =>
  dsimp only
  split
  · exact alone_refuse ..
  split
  · exact alone_refuse ..
  cases extractHeaderValue req.text "Authorization".toList with
  | error e => rfl
  | ok value =>
  cases value with
  | none => rfl
  | some authValue =>
  dsimp only
  cases parseAuthorization authValue with
  | none => rfl
  | some params => exact alone_authenticate ..

theorem alone_forbid (now : Nat) (ip : IpAddr) (s : RegistrarService) :
    (forbid cfg ip).alone (act cfg) now s = (.forbidden, (s.recordFailure cfg now ip).2) := by
  unfold forbid
  rw [Program.alone_bind, alone_recordFailure]
  rfl

/-- The check of the caller in `handle_invite`, when nothing comes between its sections. -/
theorem alone_startInvite {callerExt : Str} {calleeExt : Option Str} {msg : Incoming}
    (hcaller : Router.callerOf msg.text = .ok callerExt)
    (hcallee : extractCalledExtension msg.text = .ok calleeExt) {s : Router}
    (hblocked : s.registrar.isBlocked cfg msg.fromAddr.ip = false) (now : Nat) :
    (startInvite cfg msg).alone (act cfg) now s.registrar =
      if Router.mayCall msg callerExt now s then (.goesOn callerExt (calleeExt.getD []), s.registrar)
      else (.forbidden, (s.registrar.recordFailure cfg now msg.fromAddr.ip).2) := by
  have hforbid : (forbid cfg msg.fromAddr.ip).alone (act cfg) now s.registrar = _ := alone_forbid ..
  have hgoesOn : (pure (.goesOn callerExt (calleeExt.getD [])) : RegistrarProgram InviteStart).alone (act cfg)
    now s.registrar = (.goesOn callerExt (calleeExt.getD []), s.registrar) := rfl
  unfold startInvite Router.mayCall RegistrarService.isRegistered
  rw [Program.alone_bind, alone_isBlocked, hblocked, hcaller, hcallee]
  dsimp only
  rw [if_neg Bool.false_ne_true]
  cases callerExt.isEmpty with
  | true => exact hforbid
  | false =>
  rw [if_neg Bool.false_ne_true, Program.alone_bind, alone_lookup]
  dsimp only
  cases hregistered : s.registrar.lookup now callerExt with
  | none => exact hforbid
  | some reg =>
  cases msg.connectionExt with
  | some ext =>
    by_cases hext : ext = callerExt
    · simpa [hext] using hgoesOn
    · simpa [hext] using hforbid
  | none =>
    by_cases hudp : msg.sink.transport = .udp
    · by_cases hip : reg.transportAddr.ip = msg.fromAddr.ip
      · simpa [hudp, hip, alone_lookup, hregistered] using hgoesOn
      · simpa [hudp, hip, alone_lookup, hregistered] using hforbid
    · simpa [hudp] using hforbid

/-- **`handle_invite`** is its beginning, when nothing comes between the sections of that, and the rest. -/
theorem handleInvite_eq (cfg : RouterConfig) (B : Minghe.Media.Srtp.Base64) (id : Nat) (msg : Incoming)
    (d : Draw) (s : Router) : s.handleInvite cfg B id msg d =
      match (startInvite cfg.registrar msg).alone (act cfg.registrar) d.now s.registrar with
      | (.forbidden, registrar) => (.done (Router.reply msg d 403 "Forbidden"), { s with registrar })
      | (.panicked, registrar) => (.panicked, { s with registrar })
      | (.goesOn callerExt calleeExt, registrar) =>
        match extractCallId msg.text, extractFromTag msg.text with
        | .ok callId, .ok callerTag =>
          Router.acceptInvite cfg B id msg d callerExt calleeExt (callId.getD []) (callerTag.getD [])
            { s with registrar }
        | _, _ => (.panicked, { s with registrar }) := by
  unfold Router.handleInvite
  dsimp only
  cases hblocked : s.registrar.isBlocked cfg.registrar msg.fromAddr.ip with
  | true =>
    have hforbidden : (startInvite cfg.registrar msg).alone (act cfg.registrar) d.now s.registrar =
        (.forbidden, s.registrar) := by
      unfold startInvite
      rw [Program.alone_bind, alone_isBlocked, hblocked]
      rfl
    rw [hforbidden]
    rfl
  | false =>
    rw [if_neg Bool.false_ne_true]
    have hpanicked : (∀ callerExt calleeExt, ¬ (Router.callerOf msg.text = .ok callerExt ∧
        extractCalledExtension msg.text = .ok calleeExt)) →
        (startInvite cfg.registrar msg).alone (act cfg.registrar) d.now s.registrar =
          (.panicked, s.registrar) := by
      intro hno
      unfold startInvite
      rw [Program.alone_bind, alone_isBlocked, hblocked]
      cases hcaller : Router.callerOf msg.text with
      | error e => rfl
      | ok callerExt =>
        cases hcallee : extractCalledExtension msg.text with
        | error e => rfl
        | ok calleeExt => exact absurd ⟨hcaller, hcallee⟩ (hno _ _)
    cases hcaller : Router.callerOf msg.text with
    | error e =>
      rw [hpanicked fun _ _ h => by rw [hcaller] at h; cases h.1]
    | ok callerExt =>
      cases hcallee : extractCalledExtension msg.text with
      | error e =>
        rw [hpanicked fun _ _ h => by rw [hcallee] at h; cases h.2]
      | ok calleeExt =>
        rw [alone_startInvite hcaller hcallee hblocked]
        dsimp only
        split
        · rfl
        · rfl

/-! ## Calls from anywhere -/

end RegistrarProgram

/-- A call of one of the functions. -/
inductive RegistrarCall where
  | handleRegister (req : Register)
  | handleInvite (msg : Incoming)
  | recordFailure (ip : IpAddr)
  | clearFailures (ip : IpAddr)
  | digestChallenge (req : Register)
  | validateNonce (nonce : Str) (ip : IpAddr) (nc : Option Nat) (qop : Option Str)
  | cleanupExpired

/-- Its program. -/
def RegistrarCall.program (cfg : RegistrarConfig) (md5 : List UInt8 → Vector UInt8 16) :
    RegistrarCall → RegistrarProgram Unit
  | .handleRegister req => discard (RegistrarProgram.handleRegister cfg md5 req)
  | .handleInvite msg => discard (RegistrarProgram.startInvite cfg msg)
  | .recordFailure ip => discard (RegistrarProgram.recordFailure cfg ip)
  | .clearFailures ip => RegistrarProgram.clearFailures ip
  | .digestChallenge req => discard (RegistrarProgram.digestChallenge cfg req)
  | .validateNonce nonce ip nc qop => discard (RegistrarProgram.validateNonce nonce ip nc qop)
  | .cleanupExpired => RegistrarProgram.cleanupExpired

namespace RegistrarService

/-- A run of calls that overlap, from the empty tables. -/
def interleaved (cfg : RegistrarConfig) (md5 : List UInt8 → Vector UInt8 16)
    (events : List (InterleavingEvent RegistrarCall Nat)) :
    Interleaving RegistrarService RegistrarRequest.Reply :=
  Interleaving.run (act cfg) (RegistrarCall.program cfg md5) {} events

/-- The tables are not larger than their limits. -/
structure Bounded (cfg : RegistrarConfig) (s : RegistrarService) : Prop where
  failedIps : s.failedIps.size ≤ cfg.ipBlock.maxFailedIps
  blockedIps : s.blockedIps.card ≤ cfg.ipBlock.maxBlockedIps
  issuedNonces : s.issuedNonces.size ≤ maxIssuedNonces

variable {cfg : RegistrarConfig}

/-- **A section keeps the bounds.** -/
theorem Bounded.act (hlimit : 0 < cfg.ipBlock.maxFailedIps) (r : RegistrarRequest) (now : Nat)
    {s : RegistrarService} (h : s.Bounded cfg) : (act cfg r now s).2.Bounded cfg := by
  cases r with
  | nowSecs | isBlocked _ | lookup _ _ | register _ | unregister _ | cleanRegistrations _ =>
    exact ⟨h.failedIps, h.blockedIps, h.issuedNonces⟩
  | countFailure now ip =>
    have hroom := Table.size_makeRoom_lt hlimit
      (fun _ (e : FailedIpEntry) => decide (now - e.windowStart < cfg.ipBlock.windowSecs)) s.failedIps
    change (s.countFailure cfg now ip).2.Bounded cfg
    rcases countFailure_cases cfg now ip s with ⟨entry, hs⟩ | hs
    · rw [hs]
      exact ⟨(Table.size_insert_le ..).trans hroom, h.blockedIps, h.issuedNonces⟩
    · rw [hs]
      exact ⟨(Table.size_erase_le ..).trans hroom.le, h.blockedIps, h.issuedNonces⟩
  | block ip =>
    change (s.block cfg ip).2.Bounded cfg
    unfold block
    split
    · exact h
    · exact ⟨h.failedIps, (Finset.card_insert_le ..).trans (by omega), h.issuedNonces⟩
  | clearFailures ip => exact ⟨(Table.size_erase_le ..).trans h.failedIps, h.blockedIps, h.issuedNonces⟩
  | issueNonce nonce ip now =>
    exact ⟨h.failedIps, h.blockedIps,
      (Table.size_insert_le ..).trans (Table.size_makeRoom_lt (by decide) ..)⟩
  | validateNonce nonce ip nc qop now =>
    have herase := (Table.size_erase_le s.issuedNonces nonce).trans h.issuedNonces
    change (s.validateNonce nonce ip nc qop now).2.Bounded cfg
    unfold validateNonce
    cases hl : s.issuedNonces.lookup nonce with
    | none => exact h
    | some entry =>
      have hinsert : ∀ e, Table.size (s.issuedNonces.insert nonce e) ≤ maxIssuedNonces := fun e =>
        (Table.size_insert_of_lookup hl e).trans_le h.issuedNonces
      dsimp only
      split_ifs
      all_goals first
        | exact h
        | exact ⟨h.failedIps, h.blockedIps, herase⟩
        | exact ⟨h.failedIps, h.blockedIps, hinsert _⟩
        | exact ⟨h.failedIps, h.blockedIps, h.issuedNonces⟩
  | cleanNonces now => exact ⟨h.failedIps, h.blockedIps, (Table.size_retain_le ..).trans h.issuedNonces⟩

/-- **The tables are bounded**, however the calls overlap, whatever they are and whatever the clock shows.
When a nonce was issued it is in its table, and so is the address of a failure below the bound. -/
theorem tables_bounded (cfg : RegistrarConfig) (md5 : List UInt8 → Vector UInt8 16)
    (hfailed : 0 < cfg.ipBlock.maxFailedIps) (events : List (InterleavingEvent RegistrarCall Nat)) :
    let s := interleaved cfg md5 events
    s.shared.Bounded cfg ∧
    (∀ id now nonce ip issuedAt k, s.running.lookup id = some (.request (.issueNonce nonce ip issuedAt) k) →
      nonce ∈ (interleaved cfg md5 (events ++ [.advance id now])).shared.issuedNonces) ∧
    (∀ id now failedAt ip k, s.running.lookup id = some (.request (.countFailure failedAt ip) k) →
      (s.shared.countFailure cfg failedAt ip).1 = false →
      ip ∈ (interleaved cfg md5 (events ++ [.advance id now])).shared.failedIps) := by
  intro s
  have hnext : ∀ event, interleaved cfg md5 (events ++ [event]) =
      s.step (RegistrarService.act cfg) (RegistrarCall.program cfg md5) event :=
    fun event => List.foldl_concat ..
  refine ⟨?_, fun id now nonce ip issuedAt k hrequest => ?_, fun id now failedAt ip k hrequest hbelow => ?_⟩
  · have hempty : ({} : RegistrarService).Bounded cfg := ⟨Nat.zero_le _, Nat.zero_le _, Nat.zero_le _⟩
    exact Interleaving.run_invariant _ _ (fun r env _ h => h.act hfailed r env) hempty events
  · rw [hnext, Interleaving.step_advance _ _ hrequest]
    exact (AList.mem_insert _).mpr (.inl rfl)
  · rw [hnext, Interleaving.step_advance _ _ hrequest]
    change ip ∈ (s.shared.countFailure cfg failedAt ip).2.failedIps
    rcases countFailure_cases cfg failedAt ip s.shared with ⟨entry, hs⟩ | hs
    · rw [hs]
      exact (AList.mem_insert _).mpr (.inl rfl)
    · rw [hs] at hbelow
      cases hbelow

/-- Two failures of one address overlap: both read the clock before one of them counts. -/
theorem tables_bounded_concrete :
    let cfg : RegistrarConfig := {
      domain := "example.com".toList, defaultPassword := "pw".toList, rangeStart := 1000, rangeEnd := 2000 }
    let ip := IpAddr.v4 (Vector.replicate 4 9)
    let events : List (InterleavingEvent RegistrarCall Nat) := [.start 0 (.recordFailure ip),
      .start 1 (.recordFailure ip), .advance 0 5, .advance 1 4]
    ip ∈ (interleaved cfg md5Of (events ++ [.advance 1 0])).shared.failedIps ∧
      (interleaved cfg md5Of (events ++ [.advance 1 0])).shared.Bounded cfg := by
  intro cfg ip events
  have hcounts : ∃ k, (interleaved cfg md5Of events).running.lookup 1 =
      some (.request (.countFailure 4 ip) k) := ⟨_, rfl⟩
  obtain ⟨k, hk⟩ := hcounts
  exact ⟨(tables_bounded cfg md5Of (by decide) events).2.2 1 0 4 ip k hk (by decide),
    (tables_bounded cfg md5Of (by decide) _).1⟩

end RegistrarService

end Minghe.Sip
