import Mathlib.Data.List.MinMax
import Minghe.Sip.Registrar

/-!
# Who is registered

Runs of the registrar from the empty tables, and what they say about a registered extension.

* `NonceInv`: what the table of nonces knows about the log. Entries are dropped at any time, by age, by
  the capacity bound and by the cleanup; since a nonce is never issued twice, a dropped one is not
  accepted again, and the counter of an entry bounds all that were accepted for its nonce.
* `Accepted`: what `handle_register` checked before it wrote an entry.
* `registrations_sound`: every entry was written by a request that was accepted, against a nonce
  issued to the same address less than 300 seconds before, and the counters accepted for one nonce
  increase.
-/

namespace Minghe.Sip

open Minghe.Lib

/-! ## Runs -/

/-- What happens to the registrar: a REGISTER, the cleanup, and the failures and successes that the
router reports for other methods. -/
inductive RegistrarOp where
  | register (req : Register)
  | cleanup (now : Nat)
  | failure (now : Nat) (ip : IpAddr)
  | success (now : Nat) (ip : IpAddr)

/-- The clock. -/
def RegistrarOp.now : RegistrarOp → Nat
  | register req => req.now
  | cleanup now | failure now _ | success now _ => now

namespace RegistrarService

variable (cfg : RegistrarConfig) (md5 : List UInt8 → Vector UInt8 16)

/-- One operation. -/
def step (s : RegistrarService) : RegistrarOp → RegistrarService
  | .register req => (s.handleRegister cfg md5 req).2
  | .cleanup now => s.cleanupExpired now
  | .failure now ip => (s.recordFailure cfg now ip).2
  | .success _ ip => s.clearFailures ip

/-- A run from the empty tables. -/
def run (ops : List RegistrarOp) : RegistrarService := ops.foldl (step cfg md5) {}

theorem run_append (before ops : List RegistrarOp) :
    run cfg md5 (before ++ ops) = ops.foldl (step cfg md5) (run cfg md5 before) :=
  List.foldl_append

end RegistrarService

/-! ## The log -/

/-- The nonces that were issued. -/
def issuedIn (log : List NonceEvent) : List Str :=
  log.filterMap fun
    | .issued nonce _ _ => some nonce
    | .passed _ _ _ => none

/-- The counters that were accepted for a nonce, of the requests with `qop=auth`. -/
def countersIn (nonce : Str) (log : List NonceEvent) : List Nat :=
  log.filterMap fun
    | .issued _ _ _ => none
    | .passed n nc qop => if n = nonce ∧ qop = some "auth".toList then some (nc.getD 0) else none

theorem issuedIn_append (log log' : List NonceEvent) :
    issuedIn (log ++ log') = issuedIn log ++ issuedIn log' := List.filterMap_append

theorem countersIn_append (nonce : Str) (log log' : List NonceEvent) :
    countersIn nonce (log ++ log') = countersIn nonce log ++ countersIn nonce log' :=
  List.filterMap_append

namespace RegistrarService

variable {cfg : RegistrarConfig} {md5 : List UInt8 → Vector UInt8 16}

/-! ## What the operations do -/

/-- A failure touches the tables of failures and blocked addresses only. -/
theorem recordFailure_frame (cfg : RegistrarConfig) (s : RegistrarService) (now : Nat) (ip : IpAddr) :
    ∃ failed blocked, (s.recordFailure cfg now ip).2 =
      { s with failedIps := failed, blockedIps := blocked } := by
  unfold recordFailure
  dsimp only
  split_ifs <;> exact ⟨_, _, rfl⟩

/-- **`validate_nonce`**: a refused nonce is perhaps dropped; an accepted one is in the table, was
issued to the address and is not too old, and with `qop=auth` its counter was raised. -/
theorem validateNonce_cases (s : RegistrarService) (nonce : Str) (ip : IpAddr) (nc : Option Nat)
    (qop : Option Str) (now : Nat) :
    (∃ nonces, s.validateNonce nonce ip nc qop now = (false, { s with issuedNonces := nonces }) ∧
      ∀ n e, nonces.lookup n = some e → s.issuedNonces.lookup n = some e) ∨
    ∃ entry, s.issuedNonces.lookup nonce = some entry ∧ entry.ip = ip ∧
      now - entry.issuedAt < nonceTtlSecs ∧
      ((qop = some "auth".toList ∧ entry.maxNc < nc.getD 0 ∧
          s.validateNonce nonce ip nc qop now = (true, { s with
            issuedNonces := s.issuedNonces.insert nonce { entry with maxNc := nc.getD 0 }
            log := s.log ++ [.passed nonce nc qop] })) ∨
        (qop ≠ some "auth".toList ∧ s.validateNonce nonce ip nc qop now =
          (true, { s with log := s.log ++ [.passed nonce nc qop] }))) := by
  unfold validateNonce
  cases hl : s.issuedNonces.lookup nonce with
  | none => exact .inl ⟨_, rfl, fun _ _ h => h⟩
  | some entry =>
    dsimp only
    by_cases hip : entry.ip = ip
    · rw [if_neg (not_not_intro hip)]
      by_cases hold : nonceTtlSecs ≤ now - entry.issuedAt
      · rw [if_pos hold]
        refine .inl ⟨_, rfl, fun n e h => ?_⟩
        rw [Table.lookup_erase_eq] at h
        split at h
        · cases h
        · exact h
      · rw [if_neg hold]
        by_cases hqop : qop = some "auth".toList
        · rw [if_pos hqop]
          by_cases hnc : nc.getD 0 ≤ entry.maxNc
          · rw [if_pos hnc]
            exact .inl ⟨_, rfl, fun _ _ h => h⟩
          · rw [if_neg hnc]
            exact .inr ⟨entry, rfl, hip, by omega, .inl ⟨hqop, by omega, rfl⟩⟩
        · rw [if_neg hqop]
          exact .inr ⟨entry, rfl, hip, by omega, .inr ⟨hqop, rfl⟩⟩
    · rw [if_pos hip]
      exact .inl ⟨_, rfl, fun _ _ h => h⟩

/-- **The rule for `handle_register`**: what all its parts keep, it keeps. -/
theorem handleRegister_keeps {P : RegistrarService → Prop} {req : Register}
    (hfail : ∀ s, P s → P (s.recordFailure cfg req.now req.fromAddr.ip).2)
    (hclear : ∀ s, P s → P (s.clearFailures req.fromAddr.ip))
    (hissue : ∀ s, P s → P (s.issueNonce (generateNonce req.nonce) req.fromAddr.ip req.now))
    (hvalidate : ∀ s nonce nc qop, P s → P (s.validateNonce nonce req.fromAddr.ip nc qop req.now).2)
    (hregister : ∀ s reg, P s → P (s.register reg))
    (hunregister : ∀ s extension, P s → P (s.unregister extension))
    {s : RegistrarService} (h : P s) : P (s.handleRegister cfg md5 req).2 := by
  have hupdate : ∀ s extension, P s → P (s.updateRegistration req extension).2 := by
    intro s extension h
    unfold updateRegistration
    split
    · exact h
    · dsimp only
      split
      · exact hunregister s extension h
      · split
        · exact h
        · exact hregister s _ h
  have hauth : ∀ s extension params, P s → P (s.authenticate cfg md5 req extension params).2 := by
    intro s extension params h
    have hv := hvalidate s params.nonce (params.nc.bind (parseHex 64)) params.qop h
    unfold authenticate
    split
    · exact hfail s h
    · dsimp only
      split
      · exact hissue _ (hfail _ hv)
      · split
        · exact hfail _ hv
        · exact hupdate _ extension (hclear _ hv)
  unfold handleRegister
  split
  · exact h
  split
  · exact h
  · exact hfail s h
  split
  · exact hfail s h
  split
  · exact hfail s h
  split
  · exact hfail s h
  split
  · exact h
  · exact hissue s h
  split
  · exact hissue s h
  · exact hauth s _ _ h

/-! ## Nonces -/

/-- What the table of nonces knows about the log: an entry was issued, not in the future, and its
counter bounds the ones accepted; a nonce with an accepted counter was issued; the counters accepted
for one nonce increase. -/
structure NonceInv (now : Nat) (s : RegistrarService) : Prop where
  entry : ∀ n e, s.issuedNonces.lookup n = some e →
    .issued n e.ip e.issuedAt ∈ s.log ∧ e.issuedAt ≤ now ∧ ∀ nc ∈ countersIn n s.log, nc ≤ e.maxNc
  issued : ∀ n, countersIn n s.log ≠ [] → n ∈ issuedIn s.log
  increasing : ∀ n, (countersIn n s.log).Pairwise (· < ·)

theorem NonceInv.mono {now now' : Nat} {s : RegistrarService} (h : s.NonceInv now) (hle : now ≤ now') :
    s.NonceInv now' where
  entry n e he := by
    obtain ⟨h1, h2, h3⟩ := h.entry n e he
    exact ⟨h1, by omega, h3⟩
  issued := h.issued
  increasing := h.increasing

/-- Only the log and the entries that are left matter. -/
theorem NonceInv.of_sub {now : Nat} {s s' : RegistrarService} (h : s.NonceInv now)
    (hlog : s'.log = s.log)
    (hsub : ∀ n e, s'.issuedNonces.lookup n = some e → s.issuedNonces.lookup n = some e) :
    s'.NonceInv now where
  entry n e he := hlog ▸ h.entry n e (hsub n e he)
  issued := hlog ▸ h.issued
  increasing := hlog ▸ h.increasing

theorem NonceInv.recordFailure {now : Nat} {s : RegistrarService} (h : s.NonceInv now) (t : Nat)
    (ip : IpAddr) : (s.recordFailure cfg t ip).2.NonceInv now := by
  obtain ⟨failed, blocked, hs⟩ := recordFailure_frame cfg s t ip
  rw [hs]
  exact h.of_sub rfl fun _ _ he => he

/-- A new nonce. -/
theorem NonceInv.issueNonce {now : Nat} {s : RegistrarService} (h : s.NonceInv now) {nonce : Str}
    (hfresh : nonce ∉ issuedIn s.log) (ip : IpAddr) : (s.issueNonce nonce ip now).NonceInv now := by
  have hcounters : ∀ n, countersIn n (s.log ++ [.issued nonce ip now]) = countersIn n s.log := by
    intro n
    rw [countersIn_append]
    exact List.append_nil _
  refine ⟨fun n e he => ?_, fun n hn => ?_, fun n => ?_⟩
  · simp only [RegistrarService.issueNonce, hcounters] at he ⊢
    rw [Table.lookup_insert_eq] at he
    split at he
    · rename_i hn
      cases he
      subst hn
      -- nothing was accepted for a nonce that was not issued before
      have hnone : countersIn n s.log = [] := by
        by_contra hne
        exact hfresh (h.issued n hne)
      rw [hnone]
      exact ⟨List.mem_append_right _ (List.mem_singleton_self _), Nat.le_refl _, nofun⟩
    · obtain ⟨h1, h2, h3⟩ := h.entry n e (Table.lookup_of_makeRoom he)
      exact ⟨List.mem_append_left _ h1, h2, h3⟩
  · simp only [RegistrarService.issueNonce, hcounters, issuedIn_append] at hn ⊢
    exact List.mem_append_left _ (h.issued n hn)
  · simp only [RegistrarService.issueNonce, hcounters]
    exact h.increasing n

theorem mem_issuedIn {n : Str} {ip : IpAddr} {t : Nat} {log : List NonceEvent}
    (h : .issued n ip t ∈ log) : n ∈ issuedIn log :=
  List.mem_filterMap.mpr ⟨_, h, rfl⟩

/-- The nonces issued are the same after a `validate_nonce`. -/
theorem issuedIn_passed (log : List NonceEvent) (nonce : Str) (nc : Option Nat) (qop : Option Str) :
    issuedIn (log ++ [.passed nonce nc qop]) = issuedIn log := by
  rw [issuedIn_append]
  exact List.append_nil _

theorem countersIn_passed (log : List NonceEvent) (n nonce : Str) (nc : Option Nat)
    (qop : Option Str) : countersIn n (log ++ [.passed nonce nc qop]) =
      countersIn n log ++ if nonce = n ∧ qop = some "auth".toList then [nc.getD 0] else [] := by
  rw [countersIn_append]
  congr 1
  split <;> rename_i hc
  · simp [countersIn, hc.1, hc.2]
  · simp only [countersIn, List.filterMap_cons, if_neg hc, List.filterMap_nil]

/-- A nonce that is looked at. -/
theorem NonceInv.validateNonce {now : Nat} {s : RegistrarService} (h : s.NonceInv now) (nonce : Str)
    (ip : IpAddr) (nc : Option Nat) (qop : Option Str) :
    (s.validateNonce nonce ip nc qop now).2.NonceInv now := by
  rcases validateNonce_cases s nonce ip nc qop now with ⟨nonces, hs, hsub⟩ | ⟨entry, he, -, -, hs⟩
  · rw [hs]
    exact h.of_sub rfl hsub
  · obtain ⟨hissued, htime, hbound⟩ := h.entry nonce entry he
    rcases hs with ⟨hqop, hlt, hs⟩ | ⟨hqop, hs⟩
    · rw [hs]
      refine ⟨fun n e hn => ?_, fun n hn => ?_, fun n => ?_⟩
      · simp only [countersIn_passed, hqop, and_true] at hn ⊢
        rw [Table.lookup_insert_eq] at hn
        split at hn
        · rename_i hnn
          cases hn
          subst hnn
          rw [if_pos rfl]
          refine ⟨List.mem_append_left _ hissued, htime, fun c hc => ?_⟩
          rcases List.mem_append.mp hc with hc | hc
          · exact Nat.le_of_lt (Nat.lt_of_le_of_lt (hbound c hc) hlt)
          · exact Nat.le_of_eq (List.mem_singleton.mp hc)
        · rename_i hnn
          rw [if_neg (Ne.symm hnn), List.append_nil]
          obtain ⟨h1, h2, h3⟩ := h.entry n e hn
          exact ⟨List.mem_append_left _ h1, h2, h3⟩
      · simp only [countersIn_passed, issuedIn_passed] at hn ⊢
        by_cases hnn : nonce = n
        · exact hnn ▸ mem_issuedIn hissued
        · rw [if_neg (fun hc => hnn hc.1), List.append_nil] at hn
          exact h.issued n hn
      · simp only [countersIn_passed]
        split
        · rename_i hc
          obtain ⟨rfl, -⟩ := hc
          refine List.pairwise_append.mpr ⟨h.increasing nonce, List.pairwise_singleton _ _, ?_⟩
          intro a ha b hb
          rw [List.mem_singleton.mp hb]
          exact Nat.lt_of_le_of_lt (hbound a ha) hlt
        · rw [List.append_nil]
          exact h.increasing n
    · have hcounters : ∀ n, countersIn n (s.log ++ [.passed nonce nc qop]) = countersIn n s.log := by
        intro n
        rw [countersIn_passed, if_neg (fun hc => hqop hc.2), List.append_nil]
      rw [hs]
      refine ⟨fun n e hn => ?_, fun n hn => ?_, fun n => ?_⟩
      · simp only [hcounters]
        obtain ⟨h1, h2, h3⟩ := h.entry n e hn
        exact ⟨List.mem_append_left _ h1, h2, h3⟩
      · simp only [hcounters, issuedIn_passed] at hn ⊢
        exact h.issued n hn
      · simp only [hcounters]
        exact h.increasing n

/-! ## Registrations -/

/-- What `handle_register` checked in the state `s` before it wrote `reg` for `extension`. That the response
verifies is that it is the MD5 of the text with the password of the extension (`digestVerifies_iff`). -/
structure Accepted (cfg : RegistrarConfig) (md5 : List UInt8 → Vector UInt8 16) (s : RegistrarService)
    (req : Register) (extension : Str) (params : DigestParams) (entry : NonceEntry)
    (reg : Registration) : Prop where
  extension_eq : reg.extension = extension
  transportAddr : reg.transportAddr = req.fromAddr
  transport : reg.transport = req.transport
  contact : ∃ contact, extractContactUri req.text = .ok contact ∧
    reg.contact = contact.getD ("sip:".toList ++ extension ++ ['@'] ++ req.fromAddr.show)
  expiresAt : ∃ expires, extractExpires req.text = .ok expires ∧
    reg.expiresAt = (req.now + expires.getD 3600) % 2 ^ 64
  not_blocked : s.isBlocked cfg req.fromAddr.ip = false
  in_range : ∃ n, parseUnsigned 32 extension = some n ∧ cfg.rangeStart ≤ n ∧ n ≤ cfg.rangeEnd
  whitelisted : req.transport = .udp → extension ∈ cfg.insecureExtensions
  authorization : ∃ authValue, extractHeaderValue req.text "Authorization".toList = .ok (some authValue) ∧
    parseAuthorization authValue = some params
  username : params.username = extension
  verifies : digestVerifies cfg md5 extension params = true
  nonce : s.issuedNonces.lookup params.nonce = some entry
  nonce_ip : entry.ip = req.fromAddr.ip
  nonce_age : req.now - entry.issuedAt < nonceTtlSecs

/-- The entry that `handle_register` writes for an extension. -/
def Writes (req : Register) (extension : Str) (reg : Registration) : Prop :=
  ∃ contact expires, extractContactUri req.text = .ok contact ∧ extractExpires req.text = .ok expires ∧
    reg = ⟨extension, contact.getD ("sip:".toList ++ extension ++ ['@'] ++ req.fromAddr.show),
      (req.now + expires.getD 3600) % 2 ^ 64, req.fromAddr, req.transport⟩

/-- **The end of `handle_register`** fails, takes an entry out, or writes one. -/
theorem updateRegistration_cases (s : RegistrarService) (req : Register) (extension : Str) :
    (∃ e, s.updateRegistration req extension = (.error e, s)) ∨
    (extractExpires req.text = .ok (some 0) ∧
      ∃ response, s.updateRegistration req extension = (.ok response, s.unregister extension) ∧
        extractStatusCode response = some 200) ∨
    (extractExpires req.text ≠ .ok (some 0) ∧
      ∃ response reg, s.updateRegistration req extension = (.ok response, s.register reg) ∧
        extractStatusCode response = some 200 ∧ reg.extension = extension ∧ Writes req extension reg) := by
  have h200 : ∀ extraHeaders, extractStatusCode (buildResponseWithHeaders req.text 200 "OK".toList extraHeaders
      (generateTag req.tag)) = some 200 := by
    intro extraHeaders
    rw [buildResponseWithHeaders, List.append_assoc, extractStatusCode_responseHead (by decide) (by decide)]
  unfold updateRegistration
  cases hexpires : extractExpires req.text with
  | error e => exact .inl ⟨e, rfl⟩
  | ok expires =>
    dsimp only
    split
    · rename_i hzero
      refine .inr (.inl ⟨?_, _, rfl, h200 _⟩)
      cases expires with
      | none => cases hzero
      | some n => exact congrArg _ (congrArg _ hzero)
    · rename_i hzero
      cases hcontact : extractContactUri req.text with
      | error e => exact .inl ⟨e, rfl⟩
      | ok contact =>
        refine .inr (.inr ⟨fun h => ?_, _, _, rfl, h200 _, rfl, contact, expires, hcontact, hexpires, rfl⟩)
        rw [Except.ok.inj h] at hzero
        exact hzero rfl

/-- The table after the end of `handle_register`. -/
theorem updateRegistration_lookup {s : RegistrarService} {req : Register} {extension e : Str}
    {reg : Registration}
    (h : (s.updateRegistration req extension).2.registrations.lookup e = some reg) :
    s.registrations.lookup e = some reg ∨ e = extension ∧ Writes req extension reg := by
  rcases updateRegistration_cases s req extension with
    ⟨_, hu⟩ | ⟨-, _, hu, -⟩ | ⟨-, _, reg', hu, -, hext, hwrites⟩
  · rw [hu] at h
    exact .inl h
  · rw [hu] at h
    simp only [unregister, Table.lookup_erase_eq] at h
    split at h
    · cases h
    · exact .inl h
  · rw [hu] at h
    rcases Table.lookup_insert_eq_some h with ⟨rfl, rfl⟩ | ⟨-, h⟩
    · exact .inr ⟨hext, hwrites⟩
    · exact .inl h

/-- A request that is answered, and not for 0 seconds, is in the table afterwards. -/
theorem updateRegistration_writes {s : RegistrarService} {req : Register} {extension response : Str}
    (h : (s.updateRegistration req extension).1 = .ok response)
    (hexpires : extractExpires req.text ≠ .ok (some 0)) :
    ∃ reg, (s.updateRegistration req extension).2.registrations.lookup extension = some reg ∧
      Writes req extension reg := by
  rcases updateRegistration_cases s req extension with
    ⟨_, hu⟩ | ⟨hzero, -⟩ | ⟨-, _, reg, hu, -, rfl, hwrites⟩
  · rw [hu] at h
    cases h
  · exact absurd hzero hexpires
  · rw [hu]
    exact ⟨reg, AList.lookup_insert _, hwrites⟩

theorem validateNonce_registrations (s : RegistrarService) (nonce : Str) (ip : IpAddr)
    (nc : Option Nat) (qop : Option Str) (now : Nat) :
    (s.validateNonce nonce ip nc qop now).2.registrations = s.registrations := by
  rcases validateNonce_cases s nonce ip nc qop now with ⟨_, hs, -⟩ | ⟨_, -, -, -, ⟨-, -, hs⟩ | ⟨-, hs⟩⟩
  all_goals rw [hs]

theorem recordFailure_registrations (s : RegistrarService) (now : Nat) (ip : IpAddr) :
    (s.recordFailure cfg now ip).2.registrations = s.registrations := by
  obtain ⟨_, _, hs⟩ := recordFailure_frame cfg s now ip
  rw [hs]

/-- The credentials of a request. -/
def credentials (text : Str) : Option DigestParams :=
  match extractHeaderValue text "Authorization".toList with
  | .ok (some authValue) => parseAuthorization authValue
  | _ => none

/-- The credentials of a request are right: the nonce is valid and the response verifies. The end of
`handle_register` works on the state `s'`. -/
structure Grants (cfg : RegistrarConfig) (md5 : List UInt8 → Vector UInt8 16) (s : RegistrarService)
    (req : Register) (params : DigestParams) (s' : RegistrarService) : Prop where
  credentials : credentials req.text = some params
  valid : (s.validateNonce params.nonce req.fromAddr.ip (params.nc.bind (parseHex 64)) params.qop
    req.now).1 = true
  verifies : digestVerifies cfg md5 params.username params = true
  state : s' = (s.validateNonce params.nonce req.fromAddr.ip (params.nc.bind (parseHex 64)) params.qop
    req.now).2.clearFailures req.fromAddr.ip

/-- The checks that `handle_register` makes before it looks at the credentials are met. -/
structure Admits (cfg : RegistrarConfig) (s : RegistrarService) (req : Register) (extension : Str) : Prop where
  not_blocked : s.isBlocked cfg req.fromAddr.ip = false
  requested : requestedExtension req.text = .ok (some extension)
  in_range : ∃ n, parseUnsigned 32 extension = some n ∧ cfg.rangeStart ≤ n ∧ n ≤ cfg.rangeEnd
  whitelisted : req.transport = .udp → extension ∈ cfg.insecureExtensions

/-- **`handle_register`** refuses a request, and the registrations stay; or all its checks were met, and
it updates them. -/
theorem handleRegister_cases (cfg : RegistrarConfig) (md5 : List UInt8 → Vector UInt8 16)
    (s : RegistrarService) (req : Register) :
    ((s.handleRegister cfg md5 req).2.registrations = s.registrations ∧
      ∀ response, (s.handleRegister cfg md5 req).1 = .ok response →
        extractStatusCode response ≠ some 200) ∨
    ∃ extension params entry, ∃ s' : RegistrarService,
      requestedExtension req.text = .ok (some extension) ∧
      (∀ reg, Writes req extension reg → s.Accepted cfg md5 req extension params entry reg) ∧
      s'.registrations = s.registrations ∧
      s.handleRegister cfg md5 req = s'.updateRegistration req extension ∧
      s.Grants cfg md5 req params s' ∧ params.username = extension ∧ s.Admits cfg req extension := by
  have hrefuse : ∀ s' : RegistrarService, s'.registrations = s.registrations →
      (s'.recordFailure cfg req.now req.fromAddr.ip).2.registrations = s.registrations :=
    fun s' hs => (recordFailure_registrations s' _ _).trans hs
  have hforbidden : ∀ response, respond req 403 "Forbidden".toList = .ok response →
      extractStatusCode response ≠ some 200 := by
    rintro response ⟨⟩
    rw [buildResponse, extractStatusCode_responseHead (by decide) (by decide)]
    decide
  have hbad : ∀ response, respond req 400 "Bad Request".toList = .ok response →
      extractStatusCode response ≠ some 200 := by
    rintro response ⟨⟩
    rw [buildResponse, extractStatusCode_responseHead (by decide) (by decide)]
    decide
  have hchallenge : ∀ (s' : RegistrarService) response, (s'.digestChallenge cfg req).1 = .ok response →
      extractStatusCode response ≠ some 200 := by
    rintro s' response ⟨⟩
    rw [buildResponseWithHeaders, List.append_assoc, extractStatusCode_responseHead (by decide) (by decide)]
    decide
  unfold handleRegister
  split
  · exact .inl ⟨rfl, hforbidden⟩
  rename_i hblocked
  split
  · exact .inl ⟨rfl, nofun⟩
  · exact .inl ⟨hrefuse s rfl, hbad⟩
  rename_i extension hextension
  split
  · exact .inl ⟨hrefuse s rfl, hforbidden⟩
  rename_i extNum hparse
  split
  · exact .inl ⟨hrefuse s rfl, hforbidden⟩
  rename_i hrange
  split
  · exact .inl ⟨hrefuse s rfl, hforbidden⟩
  rename_i hudp
  split
  · exact .inl ⟨rfl, nofun⟩
  · exact .inl ⟨rfl, hchallenge s⟩
  rename_i authValue hvalue
  split
  · exact .inl ⟨rfl, hchallenge s⟩
  rename_i params hparams
  -- the request has credentials
  unfold authenticate
  split
  · exact .inl ⟨hrefuse s rfl, hforbidden⟩
  rename_i huser
  rw [not_not] at huser
  have hreg := validateNonce_registrations s params.nonce req.fromAddr.ip
    (params.nc.bind (parseHex 64)) params.qop req.now
  dsimp only
  split
  · exact .inl ⟨hrefuse _ hreg, hchallenge _⟩
  rename_i hvalid
  split
  · exact .inl ⟨hrefuse _ hreg, hforbidden⟩
  rename_i hverifies
  -- the credentials are right
  rcases validateNonce_cases s params.nonce req.fromAddr.ip (params.nc.bind (parseHex 64)) params.qop
    req.now with ⟨_, hs, -⟩ | ⟨entry, hentry, hip, hage, -⟩
  · rw [hs] at hvalid
    exact absurd rfl hvalid
  have hadmits : s.Admits cfg req extension := {
    not_blocked := Bool.eq_false_iff.mpr hblocked
    requested := hextension
    in_range := ⟨extNum, hparse, by omega, by omega⟩
    whitelisted := fun hu => by
      by_contra hmem
      exact hudp ⟨hu, hmem⟩ }
  refine .inr ⟨extension, params, entry, _, hextension, ?_, ?_, rfl, ⟨?_, ?_, ?_, rfl⟩, huser, hadmits⟩
  case refine_2 => exact hreg
  case refine_3 => rw [credentials, hvalue]; exact hparams
  case refine_4 => simpa using hvalid
  case refine_5 => rw [huser]; simpa using hverifies
  rintro reg ⟨contact, expires, hcontact, hexpires, rfl⟩
  exact {
    extension_eq := rfl
    transportAddr := rfl
    transport := rfl
    contact := ⟨contact, hcontact, rfl⟩
    expiresAt := ⟨expires, hexpires, rfl⟩
    not_blocked := hadmits.not_blocked
    in_range := hadmits.in_range
    whitelisted := hadmits.whitelisted
    authorization := ⟨authValue, hvalue, hparams⟩
    username := huser
    verifies := by simpa using hverifies
    nonce := hentry
    nonce_ip := hip
    nonce_age := hage }

/-- **An entry after a REGISTER** was there before, or the request was checked. -/
theorem handleRegister_lookup {s : RegistrarService} {req : Register} {e : Str} {reg : Registration}
    (h : (s.handleRegister cfg md5 req).2.registrations.lookup e = some reg) :
    s.registrations.lookup e = some reg ∨ ∃ params entry, s.Accepted cfg md5 req e params entry reg := by
  rcases handleRegister_cases cfg md5 s req with
    ⟨hs, -⟩ | ⟨extension, params, entry, s', -, hacc, hs, hr, -⟩
  · rw [hs] at h
    exact .inl h
  · rw [hr] at h
    rcases updateRegistration_lookup h with h | ⟨rfl, hwrites⟩
    · rw [hs] at h
      exact .inl h
    · exact .inr ⟨params, entry, hacc reg hwrites⟩

/-- **A REGISTER that is answered with 200**, and is not for 0 seconds, was checked, and its extension is
in the table. -/
theorem accepted_of_ok {s : RegistrarService} {req : Register} {response : Str}
    (h : (s.handleRegister cfg md5 req).1 = .ok response) (h200 : extractStatusCode response = some 200)
    (hexpires : extractExpires req.text ≠ .ok (some 0)) :
    ∃ extension params entry reg, requestedExtension req.text = .ok (some extension) ∧
      (s.handleRegister cfg md5 req).2.registrations.lookup extension = some reg ∧
      s.Accepted cfg md5 req extension params entry reg := by
  rcases handleRegister_cases cfg md5 s req with
    ⟨-, hs⟩ | ⟨extension, params, entry, s', he, hacc, -, hr, -⟩
  · exact absurd h200 (hs response h)
  · rw [hr] at h ⊢
    obtain ⟨reg, hl, hwrites⟩ := updateRegistration_writes h hexpires
    exact ⟨extension, params, entry, reg, he, hl, hacc reg hwrites⟩

/-! ## Runs -/

/-- The log of a step starts with the log before it. -/
theorem log_step (s : RegistrarService) (op : RegistrarOp) : s.log <+: (s.step cfg md5 op).log := by
  have hfail : ∀ (s' : RegistrarService) now ip, s.log <+: s'.log →
      s.log <+: (s'.recordFailure cfg now ip).2.log := by
    intro s' now ip h
    obtain ⟨_, _, hs⟩ := recordFailure_frame cfg s' now ip
    rwa [hs]
  cases op with
  | register req =>
    refine handleRegister_keeps (P := fun s' => s.log <+: s'.log) (fun s' => hfail s' _ _) (fun _ h => h)
      (fun _ h => h.trans (List.prefix_append _ _)) (fun s' nonce nc qop h => ?_) (fun _ _ h => h)
      (fun _ _ h => h) (List.prefix_rfl)
    rcases validateNonce_cases s' nonce req.fromAddr.ip nc qop req.now with
      ⟨_, hs, -⟩ | ⟨_, -, -, -, ⟨-, -, hs⟩ | ⟨-, hs⟩⟩
    · rwa [hs]
    · rw [hs]
      exact h.trans (List.prefix_append _ _)
    · rw [hs]
      exact h.trans (List.prefix_append _ _)
  | cleanup now => exact List.prefix_rfl
  | failure now ip => exact hfail s now ip List.prefix_rfl
  | success now ip => exact List.prefix_rfl

theorem log_run (before ops : List RegistrarOp) :
    (run cfg md5 before).log <+: (run cfg md5 (before ++ ops)).log := by
  induction ops using List.reverseRecOn with
  | nil => rw [List.append_nil]
  | append_singleton ops op ih =>
    rw [← List.append_assoc, run_append cfg md5 (before ++ ops)]
    exact ih.trans (log_step _ op)

theorem nodup_issuedIn_start {log log' : List NonceEvent} (h : log <+: log')
    (hn : (issuedIn log').Nodup) : (issuedIn log).Nodup := by
  obtain ⟨rest, rfl⟩ := h
  rw [issuedIn_append] at hn
  exact (List.nodup_append.mp hn).1

/-- **A step keeps the invariant of the nonces**, if no nonce is issued twice. -/
theorem NonceInv.step {s : RegistrarService} {op : RegistrarOp} (h : s.NonceInv op.now)
    (hfresh : (issuedIn (s.step cfg md5 op).log).Nodup) : (s.step cfg md5 op).NonceInv op.now := by
  cases op with
  | register req =>
    refine handleRegister_keeps (P := fun s => (issuedIn s.log).Nodup → s.NonceInv req.now)
      (fun s' hs hn => ?_) (fun s' hs hn => (hs hn).of_sub rfl fun _ _ he => he)
      (fun s' hs hn => ?_) (fun s' nonce nc qop hs hn => ?_)
      (fun s' _ hs hn => (hs hn).of_sub rfl fun _ _ he => he)
      (fun s' _ hs hn => (hs hn).of_sub rfl fun _ _ he => he) (fun _ => h) hfresh
    · obtain ⟨_, _, hf⟩ := recordFailure_frame cfg s' req.now req.fromAddr.ip
      exact (hs (by rwa [hf] at hn)).recordFailure _ _
    · simp only [RegistrarService.issueNonce, issuedIn_append] at hn
      obtain ⟨hlog, -, hdisj⟩ := List.nodup_append.mp hn
      exact (hs hlog).issueNonce (fun hmem => hdisj _ hmem _ (List.mem_singleton_self _) rfl) _
    · refine (hs ?_).validateNonce nonce _ nc qop
      rcases validateNonce_cases s' nonce req.fromAddr.ip nc qop req.now with
        ⟨_, hv, -⟩ | ⟨_, -, -, -, ⟨-, -, hv⟩ | ⟨-, hv⟩⟩
      · rwa [hv] at hn
      · rwa [hv, issuedIn_passed] at hn
      · rwa [hv, issuedIn_passed] at hn
  | cleanup now =>
    exact h.of_sub rfl fun _ _ he => (Table.lookup_retain_eq_some.mp he).1
  | failure now ip => exact h.recordFailure _ _
  | success now ip => exact h.of_sub rfl fun _ _ he => he

/-- The invariant of the nonces holds in every run. -/
theorem nonceInv_run (ops : List RegistrarOp) (hclock : (ops.map RegistrarOp.now).Pairwise (· ≤ ·))
    (hfresh : (issuedIn (run cfg md5 ops).log).Nodup) (now : Nat) (hnow : ∀ op ∈ ops, op.now ≤ now) :
    (run cfg md5 ops).NonceInv now := by
  induction ops using List.reverseRecOn generalizing now with
  | nil => exact ⟨nofun, fun n hn => absurd rfl hn, fun _ => .nil⟩
  | append_singleton ops op ih =>
    rw [List.map_append, List.pairwise_append] at hclock
    have hle : ∀ o ∈ ops, o.now ≤ op.now := fun o ho =>
      hclock.2.2 o.now (List.mem_map_of_mem ho) op.now (List.mem_singleton_self _)
    have hprev := ih hclock.1 (nodup_issuedIn_start (log_run ops [op]) hfresh) op.now hle
    have hstep : run cfg md5 (ops ++ [op]) = (run cfg md5 ops).step cfg md5 op := run_append ..
    rw [hstep] at hfresh ⊢
    exact (hprev.step hfresh).mono (hnow op (List.mem_append_right _ (List.mem_singleton_self _)))

/-- Where the entries of a run come from. -/
theorem run_lookup (ops : List RegistrarOp) {e : Str} {reg : Registration}
    (h : (run cfg md5 ops).registrations.lookup e = some reg) :
    ∃ before req after params entry, ops = before ++ .register req :: after ∧
      (run cfg md5 (before ++ [.register req])).registrations.lookup e = some reg ∧
      (run cfg md5 before).Accepted cfg md5 req e params entry reg := by
  induction ops using List.reverseRecOn with
  | nil => cases h
  | append_singleton ops op ih =>
    have hstep : run cfg md5 (ops ++ [op]) = (run cfg md5 ops).step cfg md5 op := run_append ..
    have hold : (run cfg md5 ops).registrations.lookup e = some reg → ∃ before req after params entry,
        ops ++ [op] = before ++ .register req :: after ∧
        (run cfg md5 (before ++ [.register req])).registrations.lookup e = some reg ∧
        (run cfg md5 before).Accepted cfg md5 req e params entry reg := by
      intro h
      obtain ⟨before, req, after, params, entry, rfl, hreg, hacc⟩ := ih h
      exact ⟨before, req, after ++ [op], params, entry, by simp, hreg, hacc⟩
    have hlast := h
    rw [hstep] at h
    cases op with
    | register req =>
      rcases handleRegister_lookup h with h | ⟨params, entry, hacc⟩
      · exact hold h
      · exact ⟨ops, req, [], params, entry, rfl, hlast, hacc⟩
    | cleanup now => exact hold (Table.lookup_retain_eq_some.mp h).1
    | failure now ip => exact hold (by rwa [step, recordFailure_registrations] at h)
    | success now ip => exact hold h

/-- **A registered contact is on one line.** -/
theorem lf_not_mem_contact {ops : List RegistrarOp} {e : Str} {reg : Registration}
    (h : (run cfg md5 ops).registrations.lookup e = some reg) : '\n' ∉ reg.contact := by
  obtain ⟨before, req, after, params, entry, -, -, hacc⟩ := run_lookup ops h
  obtain ⟨contact, hcontact, heq⟩ := hacc.contact
  rw [heq]
  cases contact with
  | some uri =>
    obtain ⟨l, hl, hmem⟩ := mem_of_contactFromLines hcontact
    exact fun hn => not_mem_of_mem_lines hl (hmem _ hn)
  | none =>
    obtain ⟨n, hparse, -⟩ := hacc.in_range
    have hext : '\n' ∉ e := fun hn => absurd (isWhitespace_of_parseUnsigned hparse _ hn) (by decide)
    simp only [Option.getD_none, List.mem_append, not_or]
    exact ⟨⟨⟨by decide, hext⟩, by decide⟩, lf_not_mem_show _⟩

/-- **The table of registrations is sound.** With a clock that does not go back and nonces that never
repeat, every entry was written by a REGISTER that came from its address over its transport and was
accepted, against a nonce that had been issued to the same address less than 300 seconds before; and
the counters accepted for one nonce increase over the whole run. -/
theorem registrations_sound (cfg : RegistrarConfig) (md5 : List UInt8 → Vector UInt8 16)
    (ops : List RegistrarOp) (hclock : (ops.map RegistrarOp.now).Pairwise (· ≤ ·))
    (hfresh : (issuedIn (run cfg md5 ops).log).Nodup) :
    (∀ e reg, (run cfg md5 ops).registrations.lookup e = some reg →
      ∃ before req after params entry, ops = before ++ .register req :: after ∧
        (run cfg md5 (before ++ [.register req])).registrations.lookup e = some reg ∧
        (run cfg md5 before).Accepted cfg md5 req e params entry reg ∧
        .issued params.nonce req.fromAddr.ip entry.issuedAt ∈ (run cfg md5 before).log ∧
        entry.issuedAt ≤ req.now ∧ req.now < entry.issuedAt + 300) ∧
    ∀ nonce, (countersIn nonce (run cfg md5 ops).log).Pairwise (· < ·) := by
  constructor
  · intro e reg h
    obtain ⟨before, req, after, params, entry, rfl, hreg, hacc⟩ := run_lookup ops h
    rw [List.map_append, List.pairwise_append] at hclock
    have hinv := nonceInv_run before hclock.1 (nodup_issuedIn_start (log_run before _) hfresh)
      req.now fun op hop => hclock.2.2 op.now (List.mem_map_of_mem hop) req.now
        (by rw [List.map_cons]; exact List.mem_cons_self)
    obtain ⟨hissued, htime, -⟩ := hinv.entry _ _ hacc.nonce
    have hage : req.now - entry.issuedAt < 300 := hacc.nonce_age
    rw [hacc.nonce_ip] at hissued
    exact ⟨before, req, after, params, entry, rfl, hreg, hacc, hissued, htime, by omega⟩
  · obtain ⟨now, hnow⟩ : ∃ now, ∀ op ∈ ops, op.now ≤ now :=
      ⟨(ops.map RegistrarOp.now).foldr max 0,
        fun op hop => List.le_max_of_le' 0 (List.mem_map_of_mem hop) (Nat.le_refl _)⟩
    exact (nonceInv_run ops hclock hfresh now hnow).increasing

/-- MD5, on the three texts that the run below hashes. -/
def md5Of (input : List UInt8) : Vector UInt8 16 :=
  if input = utf8 "1001:example.com:pw".toList then
    #v[134, 52, 251, 0, 191, 176, 252, 178, 8, 123, 8, 117, 138, 205, 184, 161]
  else if input = utf8 "REGISTER:sip:example.com".toList then
    #v[2, 100, 176, 10, 190, 91, 49, 216, 127, 178, 41, 121, 104, 155, 136, 63]
  else #v[113, 216, 74, 167, 145, 8, 183, 189, 12, 171, 52, 151, 209, 24, 247, 111]

/-- A REGISTER of extension 1001 over UDP, with further headers. -/
def registerOf (now : Nat) (nonce : Vector UInt8 16) (headers : List String) : Register where
  text := (["REGISTER sip:example.com SIP/2.0", "To: <sip:1001@example.com>", "Call-ID: c",
    "Contact: <sip:1001@10.0.0.7:5060>", "Expires: 300"] ++ headers).flatMap (·.toList ++ crlf)
  fromAddr := .v4 #v[10, 0, 0, 7] 5060
  transport := .udp
  now := now
  nonce := nonce
  tag := #v[1, 2, 3, 4, 5, 6, 7, 8]

/-- A challenge and the REGISTER that answers it. -/
def challengeAndAnswer : List RegistrarOp :=
  [.register (registerOf 1000 #v[0, 1, 2, 3, 4, 5, 6, 7, 8, 9, 10, 11, 12, 13, 14, 15] []),
    .register (registerOf 1002 #v[16, 1, 2, 3, 4, 5, 6, 7, 8, 9, 10, 11, 12, 13, 14, 15]
      ["Authorization: Digest username=\"1001\", realm=\"example.com\", qop=auth, nc=00000001, "
        ++ "cnonce=\"c\", nonce=\"000102030405060708090a0b0c0d0e0f\", uri=\"sip:example.com\", "
        ++ "response=\"71d84aa79108b7bd0cab3497d118f76f\""]),
    .cleanup 1200]

/-- Extension 1001 answers a challenge over UDP and is registered. -/
theorem registrations_sound_concrete :
    let cfg : RegistrarConfig := {
      domain := "example.com".toList, defaultPassword := "pw".toList, rangeStart := 1000
      rangeEnd := 2000, insecureExtensions := ["1001".toList] }
    let reg : Registration :=
      ⟨"1001".toList, "sip:1001@10.0.0.7:5060".toList, 1302, .v4 #v[10, 0, 0, 7] 5060, .udp⟩
    (run cfg md5Of challengeAndAnswer).registrations.lookup "1001".toList = some reg ∧
    (∃ before req after params entry, challengeAndAnswer = before ++ .register req :: after ∧
      (run cfg md5Of (before ++ [.register req])).registrations.lookup "1001".toList = some reg ∧
      (run cfg md5Of before).Accepted cfg md5Of req "1001".toList params entry reg ∧
      .issued params.nonce req.fromAddr.ip entry.issuedAt ∈ (run cfg md5Of before).log ∧
      entry.issuedAt ≤ req.now ∧ req.now < entry.issuedAt + 300) ∧
    countersIn "000102030405060708090a0b0c0d0e0f".toList (run cfg md5Of challengeAndAnswer).log = [1] ∧
    ∀ nonce, (countersIn nonce (run cfg md5Of challengeAndAnswer).log).Pairwise (· < ·) := by
  intro cfg reg
  have hrun : (issuedIn (run cfg md5Of challengeAndAnswer).log).Nodup ∧
      (run cfg md5Of challengeAndAnswer).registrations.lookup "1001".toList = some reg ∧
      countersIn "000102030405060708090a0b0c0d0e0f".toList (run cfg md5Of challengeAndAnswer).log
        = [1] := by
    decide +kernel
  have hsound := registrations_sound cfg md5Of challengeAndAnswer (by decide) hrun.1
  exact ⟨hrun.2.1, hsound.1 _ _ hrun.2.1, hrun.2.2, hsound.2⟩

end RegistrarService

end Minghe.Sip
