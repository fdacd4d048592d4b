import Minghe.Sip.Registered

/-!
# Replayed credentials

The nonce of an accepted REGISTER stays in the table. `validate_nonce` accepts it again from the
address it was issued to, until it is 300 seconds old or given up; only with `qop=auth` does it ask
for a counter above the last one. The digest covers neither `Contact` nor `Expires`, so what is
replayed without `qop=auth` moves the registration to wherever the second request says
(`replay_accepted`).

`Spent` is what stays true of a nonce after it was accepted once: it is never issued again, and while
it is in the table it has its address, its time of issue and at least the accepted counter.

* `replay_refused`: a nonce is accepted from one address only, less than 300 seconds after its issue;
  credentials with `qop=auth` are not accepted twice, short of one MD5 for the texts behind the two
  responses.
* `replay_accepted`: a run in which credentials without `qop=auth` are accepted twice.
-/

namespace Minghe.Sip

open Minghe.Lib

namespace RegistrarService

variable {cfg : RegistrarConfig} {md5 : List UInt8 → Vector UInt8 16}

/-! ## Accepted credentials -/

/-- The text behind a response with `qop=auth` is longer than one without. -/
theorem digestTextOf_ne {params params' : DigestParams} (hqop : params.qop = some "auth".toList)
    (hqop' : params'.qop ≠ some "auth".toList) (hnonce : params'.nonce = params.nonce) :
    digestTextOf cfg md5 params'.username params' ≠ digestTextOf cfg md5 params.username params := by
  unfold digestTextOf digestText
  rw [if_pos hqop, if_neg hqop', hnonce]
  intro he
  have hlen := congrArg List.length he
  simp [colons, List.intercalate, List.intersperse, length_md5Hex] at hlen
  omega

/-- The request is answered with 200, for its credentials `params`. -/
def Answers200 (cfg : RegistrarConfig) (md5 : List UInt8 → Vector UInt8 16) (s : RegistrarService)
    (req : Register) (params : DigestParams) : Prop :=
  credentials req.text = some params ∧
    (s.handleRegister cfg md5 req).1.toOption.bind extractStatusCode = some 200

instance (s : RegistrarService) (req : Register) (params : DigestParams) :
    Decidable (s.Answers200 cfg md5 req params) := by
  unfold Answers200; infer_instance

/-- The end of `handle_register` leaves the nonces and the log alone. -/
theorem updateRegistration_frame (s : RegistrarService) (req : Register) (extension : Str) :
    (s.updateRegistration req extension).2.issuedNonces = s.issuedNonces ∧
      (s.updateRegistration req extension).2.log = s.log := by
  unfold updateRegistration
  split
  · exact ⟨rfl, rfl⟩
  · dsimp only
    split
    · exact ⟨rfl, rfl⟩
    · split <;> exact ⟨rfl, rfl⟩

/-- **A request that is answered with 200** has a nonce that was issued to its address less than 300
seconds before, with `qop=auth` a counter above all before it, and a response that verifies. The entry
of the nonce stays, with the counter. -/
theorem Answers200.cases {s : RegistrarService} {req : Register} {params : DigestParams}
    (h : s.Answers200 cfg md5 req params) : ∃ entry, s.issuedNonces.lookup params.nonce = some entry ∧
      entry.ip = req.fromAddr.ip ∧ req.now - entry.issuedAt < nonceTtlSecs ∧
      digestVerifies cfg md5 params.username params = true ∧
      (params.qop = some "auth".toList →
        entry.maxNc < (params.nc.bind (parseHex 64)).getD 0 ∧
        (s.handleRegister cfg md5 req).2.issuedNonces.lookup params.nonce =
          some { entry with maxNc := (params.nc.bind (parseHex 64)).getD 0 }) ∧
      (params.qop ≠ some "auth".toList →
        (s.handleRegister cfg md5 req).2.issuedNonces.lookup params.nonce = some entry) := by
  obtain ⟨hcred, h200⟩ := h
  rcases handleRegister_cases cfg md5 s req with
    ⟨-, hno⟩ | ⟨extension, params', entry', s', -, -, -, hr, hg, -⟩
  · cases hresp : (s.handleRegister cfg md5 req).1 with
    | error e => rw [hresp] at h200; cases h200
    | ok response => rw [hresp] at h200; exact absurd h200 (hno response hresp)
  have hparams : params' = params := Option.some.inj (hg.credentials.symm.trans hcred)
  subst hparams
  have hvalid := hg.valid
  have hstate := hg.state
  rw [hr, (s'.updateRegistration_frame req extension).1]
  rcases validateNonce_cases s params'.nonce req.fromAddr.ip (params'.nc.bind (parseHex 64)) params'.qop
    req.now with ⟨_, hv, -⟩ | ⟨entry, hentry, hip, hage, ⟨hqop, hlt, hv⟩ | ⟨hqop, hv⟩⟩
  · rw [hv] at hvalid; cases hvalid
  · rw [hv] at hstate
    refine ⟨entry, hentry, hip, hage, hg.verifies, fun _ => ⟨hlt, ?_⟩, fun hne => absurd hqop hne⟩
    rw [hstate]
    exact AList.lookup_insert _
  · rw [hv] at hstate
    refine ⟨entry, hentry, hip, hage, hg.verifies, fun he => absurd he hqop, fun _ => ?_⟩
    rw [hstate]
    exact hentry

/-! ## What is known of a nonce -/

/-- Every entry of the table was issued. -/
def EntriesIssued (s : RegistrarService) : Prop :=
  ∀ n e, s.issuedNonces.lookup n = some e → .issued n e.ip e.issuedAt ∈ s.log

theorem EntriesIssued.step {s : RegistrarService} (h : s.EntriesIssued) (op : RegistrarOp) :
    (s.step cfg md5 op).EntriesIssued := by
  have hfail : ∀ (s' : RegistrarService) now ip, s'.EntriesIssued →
      (s'.recordFailure cfg now ip).2.EntriesIssued := by
    intro s' now ip h
    obtain ⟨_, _, hs⟩ := recordFailure_frame cfg s' now ip
    rwa [hs]
  cases op with
  | cleanup now => exact fun n e he => h n e (Table.lookup_retain_eq_some.mp he).1
  | failure now ip => exact hfail s now ip h
  | success now ip => exact h
  | register req =>
    refine handleRegister_keeps (P := EntriesIssued) (fun s' => hfail s' _ _) (fun _ h => h)
      (fun s' h n e he => ?_) (fun s' nonce nc qop h => ?_) (fun _ _ h => h) (fun _ _ h => h) h
    · rcases Table.lookup_insert_eq_some he with ⟨rfl, rfl⟩ | ⟨-, he⟩
      · exact List.mem_append_right _ (List.mem_singleton_self _)
      · exact List.mem_append_left _ (h n e (Table.lookup_of_makeRoom he))
    · rcases validateNonce_cases s' nonce req.fromAddr.ip nc qop req.now with
        ⟨_, hs, hsub⟩ | ⟨entry, hentry, -, -, ⟨-, -, hs⟩ | ⟨-, hs⟩⟩
      · rw [hs]
        exact fun n e he => h n e (hsub n e he)
      · rw [hs]
        intro n e he
        refine List.mem_append_left _ ?_
        rcases Table.lookup_insert_eq_some he with ⟨rfl, rfl⟩ | ⟨-, he⟩
        · exact h n entry hentry
        · exact h n e he
      · rw [hs]
        exact fun n e he => List.mem_append_left _ (h n e he)

theorem entriesIssued_run (ops : List RegistrarOp) : (run cfg md5 ops).EntriesIssued := by
  induction ops using List.reverseRecOn with
  | nil => exact nofun
  | append_singleton ops op ih =>
    rw [run_append]
    exact ih.step op

/-- What is known of a nonce that was accepted with the counter `nc`: an entry for it has its address
and its time of issue, and no lower counter. -/
def Spent (nonce : Str) (ip : IpAddr) (issuedAt nc : Nat) (s : RegistrarService) : Prop :=
  nonce ∈ issuedIn s.log ∧ ∀ e, s.issuedNonces.lookup nonce = some e →
    e.ip = ip ∧ e.issuedAt = issuedAt ∧ nc ≤ e.maxNc

variable {nonce : Str} {ip : IpAddr} {issuedAt nc : Nat}

/-- **One step**, if no nonce is issued twice. -/
theorem Spent.step {s : RegistrarService} (h : s.Spent nonce ip issuedAt nc) (op : RegistrarOp)
    (hfresh : (issuedIn (s.step cfg md5 op).log).Nodup) :
    (s.step cfg md5 op).Spent nonce ip issuedAt nc := by
  have hfail : ∀ (s' : RegistrarService) now ip', s'.Spent nonce ip issuedAt nc →
      (s'.recordFailure cfg now ip').2.Spent nonce ip issuedAt nc := by
    intro s' now ip' h
    obtain ⟨_, _, hs⟩ := recordFailure_frame cfg s' now ip'
    rwa [hs]
  cases op with
  | cleanup now => exact ⟨h.1, fun e he => h.2 e (Table.lookup_retain_eq_some.mp he).1⟩
  | failure now ip' => exact hfail s now ip' h
  | success now ip' => exact h
  | register req =>
    refine handleRegister_keeps
      (P := fun s' => (issuedIn s'.log).Nodup → s'.Spent nonce ip issuedAt nc)
      (fun s' hs hn => ?_) (fun _ hs hn => hs hn) (fun s' hs hn => ?_)
      (fun s' n nc' qop hs hn => ?_) (fun _ _ hs hn => hs hn) (fun _ _ hs hn => hs hn) (fun _ => h) hfresh
    · obtain ⟨_, _, hf⟩ := recordFailure_frame cfg s' req.now req.fromAddr.ip
      exact hfail s' _ _ (hs (by rwa [hf] at hn))
    · simp only [RegistrarService.issueNonce, issuedIn_append] at hn ⊢
      obtain ⟨hlog, -, hdisj⟩ := List.nodup_append.mp hn
      obtain ⟨hmem, hentry⟩ := hs hlog
      refine ⟨by rw [issuedIn_append]; exact List.mem_append_left _ hmem, fun e he => ?_⟩
      rcases Table.lookup_insert_eq_some he with ⟨rfl, -⟩ | ⟨-, he⟩
      · -- the new nonce is another one
        exact absurd rfl (hdisj _ hmem _ (List.mem_singleton_self _))
      · exact hentry e (Table.lookup_of_makeRoom he)
    · rcases validateNonce_cases s' n req.fromAddr.ip nc' qop req.now with
        ⟨_, hv, hsub⟩ | ⟨entry, hentry, -, -, ⟨-, hlt, hv⟩ | ⟨-, hv⟩⟩
      · rw [hv] at hn ⊢
        exact ⟨(hs hn).1, fun e he => (hs hn).2 e (hsub _ _ he)⟩
      · rw [hv] at hn ⊢
        rw [issuedIn_passed] at hn
        obtain ⟨hmem, hold⟩ := hs hn
        refine ⟨by rw [issuedIn_passed]; exact hmem, fun e he => ?_⟩
        rcases Table.lookup_insert_eq_some he with ⟨rfl, rfl⟩ | ⟨-, he⟩
        · obtain ⟨hip, ht, hle⟩ := hold entry hentry
          exact ⟨hip, ht, hle.trans hlt.le⟩
        · exact hold e he
      · rw [hv] at hn ⊢
        rw [issuedIn_passed] at hn
        obtain ⟨hmem, hold⟩ := hs hn
        exact ⟨by rw [issuedIn_passed]; exact hmem, hold⟩

theorem Spent.run {before : List RegistrarOp} (h : (run cfg md5 before).Spent nonce ip issuedAt nc)
    (ops : List RegistrarOp) (hfresh : (issuedIn (run cfg md5 (before ++ ops)).log).Nodup) :
    (run cfg md5 (before ++ ops)).Spent nonce ip issuedAt nc := by
  induction ops using List.reverseRecOn with
  | nil => rwa [List.append_nil]
  | append_singleton ops op ih =>
    rw [← List.append_assoc] at hfresh ⊢
    have hprev := ih (nodup_issuedIn_start (log_run (before ++ ops) [op]) hfresh)
    rw [run_append] at hfresh ⊢
    exact hprev.step op hfresh

theorem issuedIn_subset {log log' : List NonceEvent} (h : log <+: log') : issuedIn log ⊆ issuedIn log' :=
  (h.filterMap _).subset

/-- **After a REGISTER was accepted**, its nonce is spent. -/
theorem Answers200.spent {before : List RegistrarOp} {req : Register} {params : DigestParams}
    (h : (run cfg md5 before).Answers200 cfg md5 req params) :
    ∃ issuedAt, .issued params.nonce req.fromAddr.ip issuedAt ∈ (run cfg md5 before).log ∧
      (run cfg md5 (before ++ [.register req])).Spent params.nonce req.fromAddr.ip issuedAt
        (if params.qop = some "auth".toList then (params.nc.bind (parseHex 64)).getD 0 else 0) := by
  obtain ⟨entry, hentry, hip, -, -, hauth, hplain⟩ := h.cases
  have hissued := entriesIssued_run before params.nonce entry hentry
  rw [hip] at hissued
  refine ⟨entry.issuedAt, hissued, ?_, fun e he => ?_⟩
  · exact (issuedIn_subset (log_run before [.register req])) (mem_issuedIn hissued)
  · rw [run_append] at he
    by_cases hqop : params.qop = some "auth".toList
    · rw [List.foldl_cons, List.foldl_nil, step, (hauth hqop).2] at he
      cases he
      rw [if_pos hqop]
      exact ⟨hip, rfl, Nat.le_refl _⟩
    · rw [List.foldl_cons, List.foldl_nil, step, hplain hqop] at he
      cases he
      rw [if_neg hqop]
      exact ⟨hip, rfl, Nat.zero_le _⟩

/-- **No replay from elsewhere, nor later, nor with a counter.** With nonces that never repeat, a request
that is accepted with the nonce of an earlier accepted one comes from the same address, less than 300
seconds after the nonce was issued. If the earlier one had `qop=auth` and the later one has its
counter, the later one has not; and if it has its response as well, then `HA1:nonce:HA2` of the later one
and `HA1:nonce:nc:cnonce:auth:HA2` of the earlier one, two texts, have one MD5. -/
theorem replay_refused (cfg : RegistrarConfig) (md5 : List UInt8 → Vector UInt8 16)
    (before between : List RegistrarOp) (req req' : Register) (params params' : DigestParams)
    (hfresh : (issuedIn (run cfg md5 (before ++ .register req :: between)).log).Nodup)
    (h : (run cfg md5 before).Answers200 cfg md5 req params)
    (h' : (run cfg md5 (before ++ .register req :: between)).Answers200 cfg md5 req' params')
    (hnonce : params'.nonce = params.nonce) :
    req'.fromAddr.ip = req.fromAddr.ip ∧
    (∃ issuedAt, .issued params.nonce req.fromAddr.ip issuedAt ∈ (run cfg md5 before).log ∧
      req'.now < issuedAt + 300) ∧
    (params.qop = some "auth".toList → params'.nc = params.nc →
      params'.qop ≠ some "auth".toList ∧
      (toLowercase params'.response = toLowercase params.response →
        digestTextOf cfg md5 params'.username params' ≠ digestTextOf cfg md5 params.username params ∧
        md5Hex md5 (digestTextOf cfg md5 params'.username params') =
          md5Hex md5 (digestTextOf cfg md5 params.username params))) := by
  obtain ⟨issuedAt, hissued, hspent⟩ := h.spent
  obtain ⟨entry, hentry, hip, hage, hverifies, hauth, -⟩ := h'.cases
  obtain ⟨-, -, -, -, hverified, -, -⟩ := h.cases
  rw [List.append_cons] at hfresh hentry
  rw [hnonce] at hentry
  obtain ⟨hip', htime, hcounter⟩ := (hspent.run between hfresh).2 entry hentry
  refine ⟨hip.symm.trans hip', ⟨issuedAt, hissued, ?_⟩, fun hqop hnc => ?_⟩
  · have hage' : req'.now - entry.issuedAt < 300 := hage
    omega
  · have hqop' : params'.qop ≠ some "auth".toList := by
      intro hq
      have hlt := (hauth hq).1
      rw [hnc] at hlt
      rw [if_pos hqop] at hcounter
      exact absurd hcounter (Nat.not_le.mpr hlt)
    refine ⟨hqop', fun hresponse => ?_⟩
    rw [digestVerifies_iff] at hverifies hverified
    exact ⟨digestTextOf_ne hqop hqop' hnonce, hverifies.trans (hresponse ▸ hverified.symm)⟩

/-! ## A concrete run -/

/-- MD5, on the texts that the run below hashes. -/
def md5Replayed (input : List UInt8) : Vector UInt8 16 :=
  if input = utf8 ("8634fb00bfb0fcb2087b08758acdb8a1:000102030405060708090a0b0c0d0e0f:"
      ++ "0264b00abe5b31d87fb22979689b883f").toList then
    #v[5, 130, 172, 92, 123, 75, 187, 82, 60, 23, 244, 220, 78, 226, 25, 129]
  else md5Of input

/-- A registrar that takes extension 1001 over UDP. -/
def replayConfig : RegistrarConfig where
  domain := "example.com".toList
  defaultPassword := "pw".toList
  rangeStart := 1000
  rangeEnd := 2000
  insecureExtensions := ["1001".toList]

/-- The credentials of the extension, without `qop`. -/
def replayParams : DigestParams where
  username := "1001".toList
  realm := "example.com".toList
  nonce := "000102030405060708090a0b0c0d0e0f".toList
  uri := "sip:example.com".toList
  response := "0582ac5c7b4bbb523c17f4dc4ee21981".toList
  qop := none
  nc := none
  cnonce := none

/-- A REGISTER with these credentials, from a port of 10.0.0.7. -/
def registerFrom (port : UInt16) (now : Nat) (contact expires : String) : Register where
  text := ["REGISTER sip:example.com SIP/2.0", "To: <sip:1001@example.com>", "Call-ID: c", contact, expires,
    "Authorization: Digest username=\"1001\", realm=\"example.com\", uri=\"sip:example.com\", "
      ++ "nonce=\"000102030405060708090a0b0c0d0e0f\", response=\"0582ac5c7b4bbb523c17f4dc4ee21981\""
    ].flatMap (·.toList ++ crlf)
  fromAddr := .v4 (Vector.ofFn fun i => [10, 0, 0, 7].getD i 0) port
  transport := .udp
  now := now
  nonce := Vector.replicate 16 1
  tag := Vector.replicate 8 0

/-- The REGISTER of the extension. -/
def firstRegister : Register := registerFrom 5060 1002 "Contact: <sip:1001@10.0.0.7:5060>" "Expires: 300"

/-- Its credentials, from another port and with another contact. -/
def secondRegister : Register := registerFrom 6666 1200 "Contact: <sip:evil@10.0.0.7:6666>" "Expires: 9999"

/-- The challenge. -/
def challenged : List RegistrarOp :=
  [.register (registerOf 1000 (Vector.ofFn fun i => UInt8.ofNat i) [])]

theorem answers_twice :
    (issuedIn (run replayConfig md5Replayed (challenged ++ [.register firstRegister])).log).Nodup ∧
    (run replayConfig md5Replayed challenged).Answers200 replayConfig md5Replayed firstRegister
      replayParams ∧
    (run replayConfig md5Replayed (challenged ++ [.register firstRegister])).Answers200 replayConfig
      md5Replayed secondRegister replayParams := by
  decide +kernel

/-- The second request comes from the address of the first, 200 seconds after the challenge. -/
theorem replay_refused_concrete :
    secondRegister.fromAddr.ip = firstRegister.fromAddr.ip ∧
    ∃ issuedAt, .issued replayParams.nonce firstRegister.fromAddr.ip issuedAt ∈
      (run replayConfig md5Replayed challenged).log ∧ secondRegister.now < issuedAt + 300 := by
  obtain ⟨hfresh, h, h'⟩ := answers_twice
  obtain ⟨hip, hage, -⟩ := replay_refused replayConfig md5Replayed challenged [] firstRegister
    secondRegister replayParams replayParams hfresh h h' rfl
  exact ⟨hip, hage⟩

/-- **Credentials without `qop=auth` are accepted again.** One nonce and one response, from another port
and with another contact: both requests are answered with 200, and the contact is the second one. -/
theorem replay_accepted :
    (run replayConfig md5Replayed challenged).Answers200 replayConfig md5Replayed firstRegister
      replayParams ∧
    (run replayConfig md5Replayed (challenged ++ [.register firstRegister])).Answers200 replayConfig
      md5Replayed secondRegister replayParams ∧
    secondRegister.fromAddr ≠ firstRegister.fromAddr ∧
    extractContactUri secondRegister.text ≠ extractContactUri firstRegister.text := by
  obtain ⟨-, h, h'⟩ := answers_twice
  exact ⟨h, h', by decide, by decide +kernel⟩

end RegistrarService

end Minghe.Sip
