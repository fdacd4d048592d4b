import Minghe.Sip.Authentic
import Minghe.Sip.Replay

/-!
# Challenge and answer

`digest_challenge` puts a nonce in the table, and the REGISTER that answers the challenge has to find it
there. The table has room for `MAX_ISSUED_NONCES`: where it is full, the old ones are given up, and if these
are not enough, all of them. Other requests may come between the two, and rounds of the cleanup.

* `recent`: the nonces of a log that are not too old at some time. `Roomy`: no challenge of the log found the
  table full of them.
* `Alive`: an issued nonce is in the table until it is `NONCE_TTL_SECS` old.
* `Redeems`: a REGISTER is the right answer to a challenge, from an address that is not blocked.
* `challenge_answered`: in a run of the whole server the right answer to a challenge, within the lifetime
  of its nonce, is accepted and registers the extension there, whatever else happened in between.
-/

namespace Minghe.Sip

open Minghe.Lib
open Minghe.Media.Relay (MediaRelayManager)
open Minghe.Media.Srtp (Base64)

/-- The nonces of a log that are not too old. -/
def recent (now : Nat) (log : List NonceEvent) : List Str :=
  log.filterMap fun
    | .issued nonce _ issuedAt => if now - issuedAt < nonceTtlSecs then some nonce else none
    | .passed _ _ _ => none

/-- No challenge found the table full of such nonces. -/
def Roomy (log : List NonceEvent) : Prop :=
  ∀ before nonce ip issuedAt, before ++ [.issued nonce ip issuedAt] <+: log →
    (recent issuedAt before).length < maxIssuedNonces

theorem mem_recent {now : Nat} {log : List NonceEvent} {nonce : Str} {ip : IpAddr} {issuedAt : Nat}
    (hissued : .issued nonce ip issuedAt ∈ log) (hage : now - issuedAt < nonceTtlSecs) :
    nonce ∈ recent now log :=
  List.mem_filterMap.mpr ⟨_, hissued, if_pos hage⟩

namespace RegistrarService

variable {cfg : RegistrarConfig} {md5 : List UInt8 → Vector UInt8 16}

/-! ## Nonces -/

/-- An issued nonce that will not be too old at `now` is in the table, for its address and with the last
counter that was accepted. -/
structure Alive (now : Nat) (s : RegistrarService) : Prop where
  entry : ∀ nonce ip issuedAt, .issued nonce ip issuedAt ∈ s.log → now - issuedAt < nonceTtlSecs →
    ∃ maxNc, s.issuedNonces.lookup nonce = some ⟨issuedAt, ip, maxNc⟩ ∧
      (maxNc = 0 ∨ maxNc ∈ countersIn nonce s.log)
  issued : s.EntriesIssued

theorem Alive.of_same {now : Nat} {s s' : RegistrarService} (h : s.Alive now)
    (hnonces : s'.issuedNonces = s.issuedNonces) (hlog : s'.log = s.log) : s'.Alive now := by
  obtain ⟨hentry, hissued⟩ := h
  unfold EntriesIssued at hissued
  rw [← hlog, ← hnonces] at hentry hissued
  exact ⟨hentry, hissued⟩

/-- **A challenge** leaves the nonces in the table that are not too old, if there is room. -/
theorem Alive.issueNonce {now t : Nat} {s : RegistrarService} (h : s.Alive now) (ht : t ≤ now) {nonce : Str}
    (hfresh : nonce ∉ issuedIn s.log) (hroom : (recent t s.log).length < maxIssuedNonces) (ip : IpAddr) :
    (s.issueNonce nonce ip t).Alive now := by
  have hsize : Table.size (s.issuedNonces.retain fun _ e => decide (t - e.issuedAt < nonceTtlSecs)) <
      maxIssuedNonces := by
    refine (Table.size_le_of_keys fun n e he => ?_).trans_lt hroom
    obtain ⟨he, hage⟩ := Table.lookup_retain_eq_some.mp he
    exact mem_recent (h.issued n e he) (of_decide_eq_true hage)
  constructor
  · intro n ip' t' hissued hage
    rcases List.mem_append.mp hissued with hold | hnew
    · obtain ⟨maxNc, hlookup, hcounter⟩ := h.entry n ip' t' hold hage
      have hne : n ≠ nonce := fun he => hfresh (he ▸ mem_issuedIn hold)
      refine ⟨maxNc, ?_, hcounter.imp_right fun hc => ?_⟩
      · rw [RegistrarService.issueNonce, AList.lookup_insert_ne hne]
        exact Table.lookup_makeRoom hsize (decide_eq_true (show t - t' < nonceTtlSecs by omega)) hlookup
      · rw [RegistrarService.issueNonce, countersIn_append]
        exact List.mem_append_left _ hc
    · cases List.mem_singleton.mp hnew
      exact ⟨0, AList.lookup_insert _, .inl rfl⟩
  · intro n e he
    rcases Table.lookup_insert_eq_some he with ⟨rfl, rfl⟩ | ⟨-, he⟩
    · exact List.mem_append_right _ (List.mem_singleton_self _)
    · exact List.mem_append_left _ (h.issued n e (Table.lookup_of_makeRoom he))

/-- **`validate_nonce`** drops a nonce only when it is too old, and otherwise raises its counter at most. -/
theorem Alive.validateNonce {now t : Nat} {s : RegistrarService} (h : s.Alive now) (ht : t ≤ now)
    (nonce : Str) (ip : IpAddr) (nc : Option Nat) (qop : Option Str) :
    (s.validateNonce nonce ip nc qop t).2.Alive now := by
  unfold RegistrarService.validateNonce
  cases hfound : s.issuedNonces.lookup nonce with
  | none => exact h
  | some entry =>
    dsimp only
    split
    · exact h
    split
    · -- the nonce is too old
      rename_i hold
      refine ⟨fun n ip' t' hissued hage => ?_, fun n e he => ?_⟩
      · obtain ⟨maxNc, hlookup, hcounter⟩ := h.entry n ip' t' hissued hage
        have hne : n ≠ nonce := by
          rintro rfl
          cases hfound.symm.trans hlookup
          dsimp only at hold
          omega
        exact ⟨maxNc, (AList.lookup_erase_ne hne).trans hlookup, hcounter⟩
      · rw [Table.lookup_erase_eq] at he
        split at he
        · cases he
        · exact h.issued n e he
    split
    · split
      · exact h
      · -- the counter is raised
        rename_i hqop hnc
        refine ⟨fun n ip' t' hissued hage => ?_, fun n e he => ?_⟩
        · have hissued : .issued n ip' t' ∈ s.log := by
            simpa using hissued
          obtain ⟨maxNc, hlookup, hcounter⟩ := h.entry n ip' t' hissued hage
          dsimp only
          rw [Table.lookup_insert_eq, countersIn_append]
          split
          · rename_i hn
            rw [hn] at hlookup
            cases hfound.symm.trans hlookup
            refine ⟨_, rfl, .inr (List.mem_append_right _ ?_)⟩
            simp [countersIn, hn, hqop]
          · exact ⟨maxNc, hlookup, hcounter.imp_right (List.mem_append_left _)⟩
        · refine List.mem_append_left _ ?_
          rcases Table.lookup_insert_eq_some he with ⟨rfl, rfl⟩ | ⟨-, he⟩
          · exact h.issued n entry hfound
          · exact h.issued n e he
    · refine ⟨fun n ip' t' hissued hage => ?_, fun n e he => List.mem_append_left _ (h.issued n e he)⟩
      have hissued : .issued n ip' t' ∈ s.log := by
        simpa using hissued
      obtain ⟨maxNc, hlookup, hcounter⟩ := h.entry n ip' t' hissued hage
      refine ⟨maxNc, hlookup, hcounter.imp_right fun hc => ?_⟩
      dsimp only
      rw [countersIn_append]
      exact List.mem_append_left _ hc

/-- **The cleanup** drops those that are too old. -/
theorem Alive.cleanupExpired {now t : Nat} {s : RegistrarService} (h : s.Alive now) (ht : t ≤ now) :
    (s.cleanupExpired t).Alive now := by
  constructor
  · intro n ip issuedAt hissued hage
    obtain ⟨maxNc, hlookup, hcounter⟩ := h.entry n ip issuedAt hissued hage
    exact ⟨maxNc, Table.lookup_retain_eq_some.mpr
      ⟨hlookup, decide_eq_true (show t - issuedAt < nonceTtlSecs by omega)⟩, hcounter⟩
  · exact fun n e he => h.issued n e (Table.lookup_retain_eq_some.mp he).1

/-- **A REGISTER** keeps them, whatever it is. -/
theorem Alive.handleRegister {now : Nat} {s : RegistrarService} (h : s.Alive now) {req : Register}
    (ht : req.now ≤ now) {log : List NonceEvent} (hlog : (s.handleRegister cfg md5 req).2.log <+: log)
    (hfresh : (issuedIn log).Nodup) (hroomy : Roomy log) : (s.handleRegister cfg md5 req).2.Alive now := by
  refine handleRegister_keeps (P := fun s' => s'.log <+: log → s'.Alive now) (fun s' hs hl => ?_)
    (fun s' hs hl => (hs hl).of_same rfl rfl) (fun s' hs hl => ?_) (fun s' nonce nc qop hs hl => ?_)
    (fun s' _ hs hl => (hs hl).of_same rfl rfl) (fun s' _ hs hl => (hs hl).of_same rfl rfl) (fun _ => h) hlog
  · obtain ⟨_, _, hf⟩ := recordFailure_frame cfg s' req.now req.fromAddr.ip
    rw [hf] at hl ⊢
    exact (hs hl).of_same rfl rfl
  · have hissued := nodup_issuedIn_start hl hfresh
    simp only [RegistrarService.issueNonce, issuedIn_append] at hissued
    obtain ⟨-, -, hdisj⟩ := List.nodup_append.mp hissued
    exact (hs ((List.prefix_append _ _).trans hl)).issueNonce ht
      (fun hmem => hdisj _ hmem _ (List.mem_singleton_self _) rfl) (hroomy _ _ _ _ hl) _
  · refine (hs (List.IsPrefix.trans ?_ hl)).validateNonce ht nonce _ nc qop
    rcases validateNonce_cases s' nonce req.fromAddr.ip nc qop req.now with
      ⟨_, hv, -⟩ | ⟨_, -, -, -, ⟨-, -, hv⟩ | ⟨-, hv⟩⟩
    · rw [hv]
    · rw [hv]
      exact List.prefix_append _ _
    · rw [hv]
      exact List.prefix_append _ _

/-! ## The answer -/

/-- A REGISTER is the right answer to a challenge: it may register `extension`, its nonce was issued to its
address less than `NONCE_TTL_SECS` ago, with `qop=auth` its counter is a new one, and its response is the one
for the password. Its `To` is read; it asks for some seconds, and not for so many that the sum overflows. -/
structure Redeems (cfg : RegistrarConfig) (md5 : List UInt8 → Vector UInt8 16) (s : RegistrarService)
    (req : Register) (extension : Str) (params : DigestParams) : Prop where
  admits : s.Admits cfg req extension
  credentials : credentials req.text = some params
  username : params.username = extension
  issued : ∃ issuedAt, .issued params.nonce req.fromAddr.ip issuedAt ∈ s.log ∧
    req.now - issuedAt < nonceTtlSecs
  counter : params.qop = some "auth".toList →
    ∀ nc ∈ 0 :: countersIn params.nonce s.log, nc < (params.nc.bind (parseHex 64)).getD 0
  verifies : digestVerifies cfg md5 extension params = true
  addressed : ∃ uri, extractUriFromHeader req.text "To".toList = .ok (some uri)
  contact : ∃ contact, extractContactUri req.text = .ok contact
  expires : ∃ expires, extractExpires req.text = .ok expires ∧ 0 < expires.getD 3600 ∧
    req.now + expires.getD 3600 < 2 ^ 64

/-- Its nonce passes. -/
theorem Redeems.valid {s : RegistrarService} {req : Register} {extension : Str} {params : DigestParams}
    (h : s.Redeems cfg md5 req extension params) (halive : s.Alive req.now) :
    (s.validateNonce params.nonce req.fromAddr.ip (params.nc.bind (parseHex 64)) params.qop req.now).1 =
      true := by
  obtain ⟨issuedAt, hissued, hage⟩ := h.issued
  obtain ⟨maxNc, hlookup, hcounter⟩ := halive.entry _ _ _ hissued hage
  unfold RegistrarService.validateNonce
  rw [hlookup]
  dsimp only
  rw [if_neg (by simp), if_neg (by omega)]
  by_cases hqop : params.qop = some "auth".toList
  · have hlt := h.counter hqop maxNc (List.mem_cons.mpr hcounter)
    rw [if_pos hqop, if_neg (by omega)]
  · rw [if_neg hqop]

/-- **The answer is accepted.** -/
theorem Redeems.accepted {s : RegistrarService} {req : Register} {extension : Str} {params : DigestParams}
    (h : s.Redeems cfg md5 req extension params) (halive : s.Alive req.now) :
    ∃ response reg, (s.handleRegister cfg md5 req).1 = .ok response ∧
      extractStatusCode response = some 200 ∧ Writes req extension reg ∧
      (s.handleRegister cfg md5 req).2.registrations.lookup extension = some reg := by
  obtain ⟨hblocked, hrequested, ⟨n, hn, hlow, hhigh⟩, hwhite⟩ := h.admits
  obtain ⟨contact, hcontact⟩ := h.contact
  obtain ⟨expires, hexpires, hpos, -⟩ := h.expires
  have hvalid := h.valid halive
  have hhandle : ∃ s' : RegistrarService,
      s.handleRegister cfg md5 req = s'.updateRegistration req extension := by
    have hcredentials := h.credentials
    unfold RegistrarService.credentials at hcredentials
    split at hcredentials
    · rename_i authValue hauth
      unfold RegistrarService.handleRegister
      rw [hblocked, hrequested]
      dsimp only
      rw [if_neg Bool.false_ne_true, hn]
      dsimp only
      rw [if_neg (by omega), if_neg (fun hudp => hudp.2 (hwhite hudp.1)), hauth]
      dsimp only
      rw [hcredentials]
      dsimp only
      unfold authenticate
      rw [if_neg (not_not_intro h.username)]
      dsimp only
      rw [hvalid, h.verifies]
      exact ⟨_, rfl⟩
    · cases hcredentials
  obtain ⟨s', hs'⟩ := hhandle
  rw [hs']
  have hok : ∃ response, (s'.updateRegistration req extension).1 = .ok response := by
    unfold updateRegistration
    rw [hexpires]
    dsimp only
    rw [if_neg (by omega), hcontact]
    exact ⟨_, rfl⟩
  obtain ⟨answer, hok⟩ := hok
  rcases updateRegistration_cases s' req extension with
    ⟨_, hu⟩ | ⟨hzero, -⟩ | ⟨-, response, reg, hu, h200, rfl, hwrites⟩
  · rw [hu] at hok
    cases hok
  · cases hexpires.symm.trans hzero
    exact absurd hpos (by decide)
  · rw [hu]
    exact ⟨response, reg, rfl, h200, hwrites, AList.lookup_insert _⟩

end RegistrarService

/-- The clock of an event. -/
def SystemEvent.clock : SystemEvent → Option Nat
  | .message _ _ st => some st.draw.now
  | .resume _ _ d | .delivery _ _ d => some d.now
  | .udpCleanup now | .cleanup now => some now
  | .accept _ | .handshake _ _ | .close _ => none

namespace RegistrarService

/-- It is found from then on. -/
theorem Redeems.found {s s' : RegistrarService} {req : Register} {extension : Str} {params : DigestParams}
    {reg : Registration} (h : s.Redeems cfg md5 req extension params) (hwrites : Writes req extension reg)
    (hl : s'.registrations.lookup extension = some reg) : s'.lookup req.now extension = some reg := by
  obtain ⟨_, expires', -, hexpires', rfl⟩ := hwrites
  obtain ⟨expires, hexpires, hpos, hlt⟩ := h.expires
  rw [RegistrarService.lookup, hl]
  refine Option.filter_eq_some_iff.mpr ⟨rfl, decide_eq_true ?_⟩
  change req.now < (req.now + expires'.getD 3600) % 2 ^ 64
  rw [Except.ok.inj (hexpires'.symm.trans hexpires), Nat.mod_eq_of_lt hlt]
  omega

/-- The server takes it for what it is. -/
theorem Redeems.effect {s : RegistrarService} {req : Register} {extension : Str} {params : DigestParams}
    {response : Str} (h : s.Redeems cfg md5 req extension params)
    (h200 : extractStatusCode response = some 200) :
    ServerState.registerEffect response req.text = .ok (some (.bind extension)) := by
  obtain ⟨uri, huri⟩ := h.addressed
  obtain ⟨expires, hexpires, hpos, -⟩ := h.expires
  have hrequested := h.admits.requested
  unfold requestedExtension at hrequested
  rw [huri] at hrequested
  have hextension : extractExtension uri = .ok (some extension) := hrequested
  unfold ServerState.registerEffect
  rw [if_pos h200, huri]
  change (extractExtension uri >>= _) = _
  rw [hextension]
  change (extractExpires req.text >>= _) = _
  rw [hexpires]
  refine if_neg ?_
  rintro rfl
  exact absurd hpos (by decide)

end RegistrarService

namespace System

variable {cfg : SystemConfig} {md5 : List UInt8 → Vector UInt8 16} {B : Base64} {media : MediaRelayManager}

/-! ## Runs of the whole server -/

/-- The nonces and the log are the same. -/
def SameNonces (s s' : RegistrarService) : Prop := s'.issuedNonces = s.issuedNonces ∧ s'.log = s.log

theorem SameNonces.trans {s s' s'' : RegistrarService} (h : SameNonces s s') (h' : SameNonces s' s'') :
    SameNonces s s'' :=
  ⟨h'.1.trans h.1, h'.2.trans h.2⟩

theorem sameNonces_recordFailure (registrar : RegistrarConfig) (s : RegistrarService) (now : Nat)
    (ip : IpAddr) : SameNonces s (s.recordFailure registrar now ip).2 := by
  obtain ⟨_, _, hf⟩ := RegistrarService.recordFailure_frame registrar s now ip
  rw [hf]
  exact ⟨rfl, rfl⟩

/-- The router leaves them alone. -/
theorem sameNonces_onRouter (s : System) {x : RouterEvent}
    (hx : ∀ writers registrar, x ≠ .world writers registrar) :
    SameNonces s.server.registrar (s.onRouter cfg B x).server.registrar := by
  have hserver : (s.onRouter cfg B x).server.registrar =
      ((s.router.step cfg.router B s.world).step cfg.router B x).registrar := rfl
  rw [hserver, Router.registrar_step cfg.router B _ hx]
  cases Router.counted cfg.router (s.router.step cfg.router B s.world) x with
  | none => exact ⟨rfl, rfl⟩
  | some failure => exact sameNonces_recordFailure ..

theorem Placed.registrar {id : Nat} {job : Job} {s s' : System} (h : Placed cfg md5 id job s s') :
    s'.server.registrar = s.server.registrar := by
  cases h with
  | moved => rfl
  | answered => rfl
  | crashed => cases hchannel : job.reader.channel <;> simp [crash, onServer, ServerState.step, setJob, hchannel]

/-- All that an event does to the nonces. -/
inductive NonceStep (cfg : SystemConfig) (md5 : List UInt8 → Vector UInt8 16) (s : System) :
    SystemEvent → RegistrarService → Prop
  | same {event : SystemEvent} {registrar : RegistrarService}
      (same : SameNonces s.server.registrar registrar) : NonceStep cfg md5 s event registrar
  | register {reader : Reader} {peer : SocketAddr} {st : Stimulus} :
    NonceStep cfg md5 s (.message reader peer st)
      (s.server.registrar.handleRegister cfg.registrar md5 (st.register reader peer)).2
  | cleanup {now : Nat} : NonceStep cfg md5 s (.cleanup now) (s.server.registrar.cleanupExpired now)

theorem registrar_crash (cfg : ServerConfig) (md5 : List UInt8 → Vector UInt8 16) (s : ServerState)
    (channel : Option Nat) : (s.step cfg md5 (.crash channel)).registrar = s.registrar := by
  cases channel <;> rfl

/-- A REGISTER that is read is handled. -/
theorem registrar_received (md5 : List UInt8 → Vector UInt8 16) (s : System) {reader : Reader}
    {peer : SocketAddr} {st : Stimulus} (hreads : s.reads cfg reader peer = true)
    (hregister : ServerState.isRegister st.text = true) :
    (s.server.step cfg.server md5 (st.received peer reader)).registrar =
      (s.server.registrar.handleRegister cfg.registrar md5 (st.register reader peer)).2 := by
  have hregistrar := (ServerState.processSipMessage_tables cfg.server md5 s.server (st.register reader peer)
    (reader.sink peer)).1.trans (if_pos hregister)
  rw [step_received s st hreads]
  split
  · exact hregistrar
  · rw [registrar_crash]
    exact hregistrar

/-- **An event and the nonces.** -/
theorem nonce_step (cfg : SystemConfig) (md5 : List UInt8 → Vector UInt8 16) (B : Base64) (s : System)
    (event : SystemEvent) : NonceStep cfg md5 s event (s.step cfg md5 B event).server.registrar := by
  have hnone : NonceStep cfg md5 s event s.server.registrar := .same ⟨rfl, rfl⟩
  have hplaced : ∀ {id job} {s₁ s₂ : System}, Placed cfg md5 id job s₁ s₂ →
      SameNonces s.server.registrar s₁.server.registrar →
      NonceStep cfg md5 s event s₂.server.registrar := by
    intro id job s₁ s₂ h hs₁
    rw [h.registrar]
    exact .same hs₁
  cases event with
  | accept addr =>
    refine .same ?_
    change SameNonces _ (s.server.accept addr).registrar
    unfold ServerState.accept
    split <;> exact ⟨rfl, rfl⟩
  | handshake addr completed =>
    refine .same ?_
    change SameNonces _ (s.server.handshake addr completed).registrar
    unfold ServerState.handshake
    split
    · cases completed <;> exact ⟨rfl, rfl⟩
    · exact ⟨rfl, rfl⟩
  | delivery id taken d => exact hnone
  | udpCleanup now => exact hnone
  | cleanup now => exact .cleanup
  | close channel =>
    unfold step
    dsimp only
    split
    · exact hnone
    · refine .same ?_
      change SameNonces _ (s.server.step cfg.server md5 (.close channel)).registrar
      unfold ServerState.step
      dsimp only
      split
      · unfold ServerState.close ServerState.removeConnection
        dsimp only
        split
        · split <;> exact ⟨rfl, rfl⟩
        · exact ⟨rfl, rfl⟩
      · exact ⟨rfl, rfl⟩
  | resume id taken d =>
    unfold step
    dsimp only
    cases s.jobs.lookup id with
    | none => exact hnone
    | some job =>
      dsimp only
      unfold proceed
      cases job.pc with
      | routing => exact hplaced (placed_afterRouter ..) (sameNonces_onRouter s nofun)
      | messaging => exact hplaced (placed_afterService ..) ⟨rfl, rfl⟩
      | responding response pendingDelivery => cases pendingDelivery <;> exact hnone
      | done => exact hnone
      | panicked => exact hnone
  | message reader peer st =>
    unfold step
    dsimp only
    split
    · rename_i henabled
      obtain ⟨hreads, hidle⟩ := Bool.and_eq_true_iff.mp henabled
      unfold process
      rcases hbranch : branchOf st.text with e | branch
      · exact hplaced .crashed ⟨rfl, rfl⟩
      · cases branch with
        | ignore => exact hnone
        | options => exact hnone
        | unsupported => exact hnone
        | register =>
          have hserver := server_processRegister md5 s s.nextJob ⟨reader, peer, st.text, .done⟩ st hreads
            hbranch (s.nextJob + 1)
          dsimp only at hserver ⊢
          rw [hserver, registrar_received md5 s hreads (isRegister_of_branch hbranch)]
          exact .register
        | route handler =>
          exact hplaced (placed_afterRouter ..) (sameNonces_onRouter { s with nextJob := s.nextJob + 1 } nofun)
        | message => exact hplaced (placed_afterService ..) ⟨rfl, rfl⟩
    · exact hnone

/-- The log only grows. -/
theorem nonceLog_step (cfg : SystemConfig) (md5 : List UInt8 → Vector UInt8 16) (B : Base64) (s : System)
    (event : SystemEvent) : s.server.registrar.log <+: (s.step cfg md5 B event).server.registrar.log := by
  have hstep := nonce_step cfg md5 B s event
  revert hstep
  generalize (s.step cfg md5 B event).server.registrar = registrar
  intro hstep
  cases hstep with
  | same same => rw [same.2]
  | register => exact RegistrarService.log_step s.server.registrar (.register _)
  | cleanup => exact List.prefix_rfl

/-- **In every run**, an issued nonce is in the table until it is too old. -/
theorem run_alive (cfg : SystemConfig) (md5 : List UInt8 → Vector UInt8 16) (B : Base64)
    (media : MediaRelayManager) {events : List SystemEvent} {now : Nat}
    (hclock : ∀ event ∈ events, ∀ t ∈ event.clock, t ≤ now) {log : List NonceEvent}
    (hlog : (run cfg md5 B media events).server.registrar.log <+: log) (hfresh : (issuedIn log).Nodup)
    (hroomy : Roomy log) : (run cfg md5 B media events).server.registrar.Alive now := by
  induction events using List.reverseRecOn with
  | nil => exact ⟨nofun, nofun⟩
  | append_singleton events event ih =>
    rw [run_append] at hlog ⊢
    have hbefore := ih (fun e he => hclock e (List.mem_append_left _ he))
      ((nonceLog_step cfg md5 B _ event).trans hlog)
    have ht := hclock event (List.mem_append_right _ (List.mem_singleton_self _))
    have hstep := nonce_step cfg md5 B (run cfg md5 B media events) event
    revert hstep hlog
    generalize ((run cfg md5 B media events).step cfg md5 B event).server.registrar = registrar
    intro hlog hstep
    cases hstep with
    | same same => exact hbefore.of_same same.1 same.2
    | register => exact hbefore.handleRegister (ht _ rfl) hlog hfresh hroomy
    | cleanup => exact hbefore.cleanupExpired (ht _ rfl)

/-- A REGISTER that is read, and answered with a registration. -/
theorem step_registers {s : System} {reader : Reader} {peer : SocketAddr} {st : Stimulus}
    {response extension : Str} (hreads : s.reads cfg reader peer = true) (hidle : s.busy reader = false)
    (hbranch : branchOf st.text = .ok .register)
    (hresponse : (s.server.registrar.handleRegister cfg.registrar md5 (st.register reader peer)).1 =
      .ok response)
    (heffect : ServerState.registerEffect response st.text = .ok (some (.bind extension))) :
    let s' := s.step cfg md5 B (.message reader peer st)
    s'.responses = s.responses ++ [(s.nextJob, response)] ∧
      s'.jobs.lookup s.nextJob = some ⟨reader, peer, st.text, .responding response (some extension)⟩ ∧
      s'.server = ServerState.applyEffect peer (reader.sink peer).transport (reader.sink peer)
        (.bind extension) { s.server with registrar :=
          (s.server.registrar.handleRegister cfg.registrar md5 (st.register reader peer)).2 } := by
  have hregister : ServerState.isRegister (st.register reader peer).text = true := isRegister_of_branch hbranch
  dsimp only
  unfold step
  simp only [hreads, hidle, Bool.not_false, Bool.and_self, if_true]
  unfold process
  rw [hbranch]
  dsimp only
  generalize hhandle : s.server.registrar.handleRegister cfg.registrar md5 (st.register reader peer) = handled
    at hresponse ⊢
  obtain ⟨result, registrar⟩ := handled
  subst hresponse
  have hprocess : s.server.processSipMessage cfg.server md5 (st.register reader peer) (reader.sink peer) =
      (.ok (), ServerState.applyEffect peer (reader.sink peer).transport (reader.sink peer)
        (.bind extension) { s.server with registrar }) := by
    unfold ServerState.processSipMessage ServerState.processRegister
    rw [if_pos hregister, show s.server.registrar.handleRegister cfg.server.registrar md5
      (st.register reader peer) = (.ok response, registrar) from hhandle]
    simp only [Except.bind]
    rw [show ServerState.registerEffect response (st.register reader peer).text =
      .ok (some (.bind extension)) from heffect]
    rfl
  unfold processRegister
  simp only [Job.sink]
  rw [hhandle, hprocess]
  simp only
  rw [show ServerState.registerEffect response (st.register reader peer).text =
    .ok (some (.bind extension)) from heffect]
  exact ⟨rfl, AList.lookup_insert _, rfl⟩

/-- What has become of a REGISTER that was read as job `id`: its response is 200, and is being sent; the
extension is registered for the address, and what is sent to it from then on goes to the sink of the reader.
(Over UDP that is so if no connection is left from before.) -/
structure Joined (cfg : SystemConfig) (s s' : System) (reader : Reader) (peer : SocketAddr) (st : Stimulus)
    (extension : Str) : Prop where
  answered : ∃ response, s'.responses = s.responses ++ [(s.nextJob, response)] ∧
    extractStatusCode response = some 200 ∧
    s'.jobs.lookup s.nextJob = some ⟨reader, peer, st.text, .responding response (some extension)⟩
  registered : ∃ reg, s'.server.registrar.lookup st.draw.now extension = some reg ∧
    RegistrarService.Writes (st.register reader peer) extension reg
  reached : reader ≠ .listener ∨ s.server.connectionWriters.lookup extension = none →
    cfg.message.getOutbound (s'.env st.draw.now) extension = some (reader.sink peer)

/-- **Who answers its challenge is registered.** A run of the whole server, in which no nonce is issued twice
and the table had room at each challenge, goes on with a REGISTER that is the right answer to one of the
challenges, from an address that is not blocked by then (`Redeems`): whatever else happened in between, it is
accepted. -/
theorem challenge_answered (cfg : SystemConfig) (md5 : List UInt8 → Vector UInt8 16) (B : Base64)
    (media : MediaRelayManager) (events : List SystemEvent) (reader : Reader) (peer : SocketAddr)
    (st : Stimulus) (extension : Str) (params : DigestParams)
    (hclock : ∀ event ∈ events, ∀ t ∈ event.clock, t ≤ st.draw.now)
    (hfresh : (issuedIn (run cfg md5 B media events).server.registrar.log).Nodup)
    (hroomy : Roomy (run cfg md5 B media events).server.registrar.log)
    (hreads : Reads cfg (run cfg md5 B media events) (.message reader peer st) reader peer st .register)
    (hanswers : (run cfg md5 B media events).server.registrar.Redeems cfg.registrar md5
      (st.register reader peer) extension params) :
    Joined cfg (run cfg md5 B media events) (run cfg md5 B media (events ++ [.message reader peer st])) reader
      peer st extension := by
  have halive := run_alive cfg md5 B media hclock List.prefix_rfl hfresh hroomy
  rw [run_append]
  generalize run cfg md5 B media events = s at hreads hanswers halive ⊢
  obtain ⟨response, reg, hresponse, h200, hwrites, hlookup⟩ := hanswers.accepted halive
  obtain ⟨hresponses, hjobs, hserver⟩ := step_registers (B := B) hreads.reads hreads.idle hreads.branch_eq
    hresponse (hanswers.effect h200)
  have hregistrar : (s.step cfg md5 B (.message reader peer st)).server.registrar =
      (s.server.registrar.handleRegister cfg.registrar md5 (st.register reader peer)).2 := by
    rw [hserver]
    unfold ServerState.applyEffect
    dsimp only
    split <;> rfl
  have hfound : (s.step cfg md5 B (.message reader peer st)).server.registrar.lookup st.draw.now extension =
      some reg := hanswers.found hwrites (hregistrar ▸ hlookup)
  refine ⟨⟨response, hresponses, h200, hjobs⟩, ⟨reg, hfound, hwrites⟩, fun hsink => ?_⟩
  have hwriters : (s.step cfg md5 B (.message reader peer st)).server.connectionWriters =
      if (reader.sink peer).transport = .tls then
        s.server.connectionWriters.insert extension (reader.sink peer)
      else s.server.connectionWriters := by
    rw [hserver]
    unfold ServerState.applyEffect
    dsimp only
    split <;> rfl
  unfold MessageConfig.getOutbound System.env
  dsimp only
  rw [hwriters]
  cases reader with
  | connection channel =>
    rw [if_pos (show (Reader.sink peer (.connection channel)).transport = .tls from rfl),
      AList.lookup_insert]
  | listener =>
    have hudp : cfg.message.udpSocket = true := (Bool.and_eq_true_iff.mp hreads.reads).1
    obtain ⟨_, _, -, -, hreg⟩ := hwrites
    rw [if_neg (show (Reader.sink peer .listener).transport ≠ .tls from nofun),
      hsink.resolve_left (not_not_intro rfl), hfound]
    dsimp only
    rw [if_pos hudp, hreg]
    rfl

/-- The first phone has connected, and asked for a challenge. -/
def phoneAsks : List SystemEvent := phonesJoin.take 4

/-- Its credentials. -/
def phoneParams : DigestParams where
  username := "1001".toList
  realm := "example.com".toList
  nonce := "000102030405060708090a0b0c0d0e0f".toList
  uri := "sip:example.com".toList
  response := "0582ac5c7b4bbb523c17f4dc4ee21981".toList
  qop := none
  nc := none
  cnonce := none

def phoneReplies : Stimulus :=
  phoneStimulus (phoneRegister "1001" ["Authorization: Digest username=\"1001\", realm=\"example.com\", " ++
    "nonce=\"000102030405060708090a0b0c0d0e0f\", uri=\"sip:example.com\", " ++
    "response=\"0582ac5c7b4bbb523c17f4dc4ee21981\""]) 0

/-- It is registered. -/
theorem challenge_answered_concrete :
    Joined phoneSystem (run phoneSystem phoneMd5 .standard Router.phoneManager phoneAsks)
      (run phoneSystem phoneMd5 .standard Router.phoneManager
        (phoneAsks ++ [.message (.connection 0) (Router.phoneAddr 1) phoneReplies]))
      (.connection 0) (Router.phoneAddr 1) phoneReplies "1001".toList := by
  have hlog : (run phoneSystem phoneMd5 .standard Router.phoneManager phoneAsks).server.registrar.log =
      [.issued phoneParams.nonce (Router.phoneAddr 1).ip 1000] := by decide +kernel
  have hreads : (run phoneSystem phoneMd5 .standard Router.phoneManager phoneAsks).reads phoneSystem
      (.connection 0) (Router.phoneAddr 1) = true ∧
      (run phoneSystem phoneMd5 .standard Router.phoneManager phoneAsks).busy (.connection 0) = false ∧
      branchOf phoneReplies.text = .ok .register ∧
      (run phoneSystem phoneMd5 .standard Router.phoneManager phoneAsks).server.registrar.isBlocked
        phoneSystem.registrar (Router.phoneAddr 1).ip = false := by decide +kernel
  have htext : RegistrarService.requestedExtension phoneReplies.text = .ok (some "1001".toList) ∧
      RegistrarService.credentials phoneReplies.text = some phoneParams ∧
      RegistrarService.digestVerifies phoneSystem.registrar phoneMd5 "1001".toList phoneParams = true ∧
      extractUriFromHeader phoneReplies.text "To".toList = .ok (some "sip:1001@example.com".toList) ∧
      extractContactUri phoneReplies.text = .ok none ∧
      extractExpires phoneReplies.text = .ok (some 300) := by decide +kernel
  obtain ⟨hreads, hidle, hbranch, hblocked⟩ := hreads
  obtain ⟨hrequested, hcredentials, hverifies, haddressed, hcontact, hexpires⟩ := htext
  have hrange : parseUnsigned 32 "1001".toList = some 1001 ∧ phoneSystem.registrar.rangeStart ≤ 1001 ∧
      1001 ≤ phoneSystem.registrar.rangeEnd := by decide +kernel
  have hevents : ∀ event ∈ phoneAsks, ∀ t ∈ event.clock, t ≤ phoneReplies.draw.now := by
    decide +kernel
  refine challenge_answered phoneSystem phoneMd5 .standard Router.phoneManager phoneAsks (.connection 0)
    (Router.phoneAddr 1) phoneReplies "1001".toList phoneParams hevents ?_ ?_ ⟨rfl, hreads, hidle, hbranch⟩ ?_
  · rw [hlog]
    exact List.nodup_singleton _
  · rw [hlog]
    intro before nonce ip issuedAt hprefix
    have hlen := hprefix.length_le
    rw [List.length_append, List.length_singleton, List.length_singleton] at hlen
    rw [List.eq_nil_of_length_eq_zero (by omega : before.length = 0)]
    exact Nat.zero_lt_succ _
  · exact {
      admits := ⟨hblocked, hrequested, ⟨1001, hrange⟩, nofun⟩
      credentials := hcredentials
      username := rfl
      issued := ⟨1000, by rw [hlog]; exact List.mem_singleton_self _, by decide⟩
      counter := nofun
      verifies := hverifies
      addressed := ⟨_, haddressed⟩
      contact := ⟨_, hcontact⟩
      expires := ⟨_, hexpires, by decide, by decide⟩ }

end System

end Minghe.Sip
