import Minghe.Config

/-!
# Certificates

Model of `tls.rs`. The acceptor for new connections has a certificate and a key. If the configuration names
none, they are made by the program, kept in the directory `certs`, and renewed by a task that looks at the
files every 6 hours.

* `Round`: what the clock, the file system and `rcgen` do in one run of `setup_tls` or of the body of the loop.
  Texts of errors are left out, except where the program makes them of the configuration.
* `WriteResult`: a file that cannot be written may have been cut short, because it is emptied first.
* `build` stands for `build_acceptor`, `notAfter` for the end of the validity in a certificate.
* `Sound`: what is relied on in a round. The rounds may come at any time; `CameOff` is one that did not fail.
* `Honest`: no file promises more than there is. `Lasts`: a certificate in use that does not run out.
* `unexpired`: in every run of starts and rounds of the renewal task, for 29 days behind a round that did
  not fail, what new connections are given has not run out.
-/

namespace Minghe.Tls

open Minghe.Lib
open Minghe.Config (AppConfig TlsConfig Valid phoneApp)

/-! ## The program -/

/-- A day, in seconds. -/
def day : Nat := 86400

/-- `RENEWAL_DAYS_BEFORE`. -/
def renewalDaysBefore : Int := 30

/-- `CERT_VALIDITY_DAYS`. -/
def certValidityDays : Nat := 365

/-- `native_tls::Protocol`. -/
inductive TlsProtocol where
  | tlsv10 | tlsv11 | tlsv12 | tlsv13
  deriving DecidableEq, Repr

/-- `parse_min_version`. -/
def parseMinVersion (s : Str) : Except Str TlsProtocol :=
  let version := trim s
  if version = "1.0".toList then .ok .tlsv10
  else if version = "1.1".toList then .ok .tlsv11
  else if version = "1.2".toList then .ok .tlsv12
  else if version = "1.3".toList then .ok .tlsv13
  else .error ("tls_min_version '".toList ++ version ++
    "' 无效，支持: \"1.0\" / \"1.1\" / \"1.2\" / \"1.3\"".toList)

/-- `parse::<i64>()`: digits, perhaps after one sign. -/
def parseI64 : Str → Option Int
  | '-' :: digits =>
    if digits.head? = some '+' then none
    else (parseUnsigned 64 digits).bind fun n => if n ≤ 2 ^ 63 then some (-n) else none
  | s => (parseUnsigned 63 s).map Int.ofNat

/-- A certificate and its key, both in PEM. -/
structure Identity where
  certPem : List UInt8
  keyPem : List UInt8
  deriving DecidableEq, Repr

/-- `server.crt` with the time it was modified, `server.key` and `server.expiry`, in the directory `certs`. -/
structure Certs where
  crt : Option (List UInt8 × Nat) := none
  key : Option (List UInt8) := none
  expiry : Option Str := none
  deriving DecidableEq, Repr

/-- What becomes of a file that is written: it is whole, or there is an error, when the file is opened or behind
the first bytes. -/
inductive WriteResult where
  | whole
  | unopened
  | cut (length : Nat)
  deriving DecidableEq, Repr

def WriteResult.isOk : WriteResult → Bool
  | .whole => true
  | .unopened | .cut _ => false

/-- What is in the file then, if it is not what was there before. -/
def WriteResult.written {α : Type} (content : List α) : WriteResult → Option (List α)
  | .whole => some content
  | .unopened => none
  | .cut length => some (content.take length)

/-- What one round meets with. The clock is read at `now`, at `madeAt` for the new certificate, and at
`savedAt` for `server.expiry`. -/
structure Round where
  now : Nat
  madeAt : Nat
  wroteAt : Nat
  savedAt : Nat
  readCrt : Bool := true
  readKey : Bool := true
  readExpiry : Bool := true
  metadata : Bool := true
  generated : Option Identity
  createDir : Bool := true
  writeCrt : WriteResult := .whole
  writeKey : WriteResult := .whole
  writeExpiry : WriteResult := .whole
  /-- The files that the configuration names. -/
  external : Option Identity := none
  deriving DecidableEq, Repr

namespace Certs

variable (certs : Certs) (round : Round)

/-- The time that is read from `server.expiry`. -/
def expiryTs : Option Int :=
  (if round.readExpiry then certs.expiry else none).bind fun text => parseI64 (trim text)

/-- The time that `server.crt` was modified. -/
def modified : Option Nat := if round.metadata then certs.crt.map Prod.snd else none

/-- `is_cert_expiring_soon`. Days are rounded towards zero; a file from the future is new. -/
def isCertExpiringSoon : Bool :=
  match certs.expiryTs round with
  | some expiryTs => decide ((expiryTs - round.now).tdiv day < renewalDaysBefore)
  | none =>
    match certs.modified round with
    | some modified =>
      decide ((certValidityDays : Int) - ((round.now - modified) / day : Nat) < renewalDaysBefore)
    | none => false

/-- The files of a new certificate. The expiry is saved if both others could be written. -/
def saved (identity : Identity) : Certs where
  crt := ((round.writeCrt.written identity.certPem).map (·, round.wroteAt)).or certs.crt
  key := (round.writeKey.written identity.keyPem).or certs.key
  expiry :=
    if round.writeCrt.isOk && round.writeKey.isOk then
      (round.writeExpiry.written (showNat (round.savedAt + certValidityDays * day))).or certs.expiry
    else certs.expiry

/-- `generate_and_save_cert`. -/
def generateAndSaveCert : Option Identity × Certs :=
  match round.generated with
  | none => (none, certs)
  | some identity => if round.createDir then (some identity, certs.saved round identity) else (none, certs)

/-- What `setup_tls` reads from `certs`, if both files are there and the certificate lasts. -/
def existing : Option (Option Identity) :=
  match certs.crt, certs.key with
  | some (certPem, _), some keyPem =>
    if round.readCrt && !certs.isCertExpiringSoon round then
      some (if round.readKey then some ⟨certPem, keyPem⟩ else none)
    else none
  | _, _ => none

end Certs

/-- Nothing is configured, or only one of the two. -/
def selfSigned (config : TlsConfig) : Bool := config.certPath.isEmpty || config.keyPath.isEmpty

/-- The directory `certs`, and what the acceptor was built of, if there is a server. -/
structure TlsServer where
  certs : Certs := {}
  serving : Option Identity := none

/-- The program is started (again), or the loop of the renewal task goes round. -/
inductive TlsEvent where
  | start (round : Round)
  | check (round : Round)

def TlsEvent.round : TlsEvent → Round
  | .start round | .check round => round

section

variable (config : TlsConfig) (build : Identity → TlsProtocol → Bool)

/-- `setup_tls`, and the end of `main` if it fails. -/
def setupTls (round : Round) (certs : Certs) : TlsServer :=
  match parseMinVersion config.tlsMinVersion with
  | .error _ => ⟨certs, none⟩
  | .ok minVersion =>
    let built (identity : Option Identity) : Option Identity := identity.filter fun i => build i minVersion
    if selfSigned config then
      match certs.existing round with
      | some identity => ⟨certs, built identity⟩
      | none =>
        let (identity, certs') := certs.generateAndSaveCert round
        ⟨certs', built identity⟩
    else ⟨certs, built round.external⟩

/-- `needs_renewal`. -/
def Certs.needsRenewal (certs : Certs) (round : Round) : Bool :=
  if certs.crt.isSome && round.readCrt then certs.isCertExpiringSoon round else true

/-- The body of the loop of `start_cert_renewal_task`. -/
def TlsServer.renew (minVersion : TlsProtocol) (round : Round) (s : TlsServer) : TlsServer :=
  if s.certs.needsRenewal round then
    match s.certs.generateAndSaveCert round with
    | (some identity, certs) =>
      if build identity minVersion then ⟨certs, some identity⟩ else { s with certs }
    | (none, certs) => { s with certs }
  else s

/-- The task runs as long as the server, and only with certificates of its own. -/
def TlsServer.step (s : TlsServer) : TlsEvent → TlsServer
  | .start round => setupTls config build round s.certs
  | .check round =>
    match s.serving, parseMinVersion config.tlsMinVersion with
    | some _, .ok minVersion => if selfSigned config then s.renew build minVersion round else s
    | _, _ => s

/-- A run, from a directory that is not there yet. -/
def TlsServer.run (events : List TlsEvent) : TlsServer := events.foldl (TlsServer.step config build) {}

end

/-- A configuration that was checked has a version. -/
theorem parseMinVersion_of_valid {config : AppConfig} (h : Valid config) :
    ∃ minVersion, parseMinVersion config.tls.tlsMinVersion = .ok minVersion := by
  unfold parseMinVersion
  have htls := h.tls
  simp only [AppConfig.tlsVersions, List.mem_cons, List.not_mem_nil, or_false] at htls
  rcases htls with he | he | he | he <;> rw [he]
  · exact ⟨.tlsv10, by simp⟩
  · exact ⟨.tlsv11, by simp⟩
  · exact ⟨.tlsv12, by simp⟩
  · exact ⟨.tlsv13, by simp⟩

/-! ## What the files promise -/

/-- The validity of a new certificate, in seconds. -/
def validity : Nat := certValidityDays * day

section

variable (build : Identity → TlsProtocol → Bool) (notAfter : List UInt8 → Nat) (lag : Nat)

/-- What is relied on in a round: a new certificate lasts for 365 days, and an acceptor can be built of it; if
one can be built of a part of it, that has its end, too. The clock does not go back, and the files are written
within `lag` seconds. Where a file can be read, its metadata can. -/
structure Sound (round : Round) : Prop where
  made : ∀ identity, round.generated = some identity →
    notAfter identity.certPem = round.madeAt + validity ∧ ∀ minVersion, build identity minVersion = true
  cut : ∀ identity length, round.generated = some identity → round.writeCrt = .cut length →
    ∀ keyPem minVersion, build ⟨identity.certPem.take length, keyPem⟩ minVersion = true →
      notAfter (identity.certPem.take length) = notAfter identity.certPem
  now_le : round.now ≤ round.madeAt
  wroteAt_le : round.wroteAt ≤ round.madeAt + lag
  savedAt_le : round.savedAt ≤ round.madeAt + lag
  metadata : round.readCrt = true → round.metadata = true

/-- The files do not promise that a certificate lasts longer than until `limit`. -/
structure Promises (certs : Certs) (limit : Nat) : Prop where
  modified : ∀ certPem modified, certs.crt = some (certPem, modified) → modified + validity ≤ limit
  expiry : ∀ text expiryTs, certs.expiry = some text → parseI64 (trim text) = some expiryTs → expiryTs ≤ limit

/-- The files promise no more than a certificate that was made by `time` has, and no more than `server.crt` has
if an acceptor can be built of it. -/
structure CertsHonest (certs : Certs) (time : Nat) : Prop where
  latest : Promises certs (time + validity + lag)
  usable : ∀ certPem modified keyPem minVersion, certs.crt = some (certPem, modified) →
    build ⟨certPem, keyPem⟩ minVersion = true →
      notAfter certPem ≤ time + validity ∧ Promises certs (notAfter certPem + lag)

/-- Nor more than the certificate in use has. -/
structure Honest (s : TlsServer) (time : Nat) : Prop where
  certs : CertsHonest build notAfter lag s.certs time
  made : ∀ identity, s.serving = some identity → notAfter identity.certPem ≤ time + validity
  serving : ∀ identity, s.serving = some identity → Promises s.certs (notAfter identity.certPem + lag)

/-- The certificate in use, if there is a server, lasts for 29 days from `time`, short of `lag`. -/
def Lasts (s : TlsServer) (time : Nat) : Prop :=
  ∀ identity, s.serving = some identity → time + 29 * day ≤ notAfter identity.certPem + lag

end

/-- A round did not fail: no renewal was due, or there was a new certificate. -/
def TlsServer.CameOff (s : TlsServer) : TlsEvent → Prop
  | .start _ => True
  | .check round => s.certs.needsRenewal round = true → (s.certs.generateAndSaveCert round).1 ≠ none

/-- The rounds come one after the other. -/
def Timely (events : List TlsEvent) : Prop :=
  events.Pairwise fun event event' => event.round.madeAt ≤ event'.round.now

variable {config : TlsConfig} {build : Identity → TlsProtocol → Bool} {notAfter : List UInt8 → Nat}
  {lag : Nat}

theorem Promises.mono {certs : Certs} {limit limit' : Nat} (h : Promises certs limit) (hle : limit ≤ limit') :
    Promises certs limit' where
  modified certPem modified hcrt := (h.modified certPem modified hcrt).trans hle
  expiry text expiryTs htext hparse := (h.expiry text expiryTs htext hparse).trans (Int.ofNat_le.mpr hle)

theorem CertsHonest.mono {certs : Certs} {time time' : Nat} (h : CertsHonest build notAfter lag certs time)
    (hle : time ≤ time') : CertsHonest build notAfter lag certs time' where
  latest := h.latest.mono (by omega)
  usable certPem modified keyPem minVersion hcrt hbuild :=
    (h.usable certPem modified keyPem minVersion hcrt hbuild).imp_left (·.trans (Nat.add_le_add_right hle _))

theorem Honest.mono {s : TlsServer} {time time' : Nat} (h : Honest build notAfter lag s time)
    (hle : time ≤ time') : Honest build notAfter lag s time' where
  certs := h.certs.mono hle
  made identity hserving := (h.made identity hserving).trans (Nat.add_le_add_right hle _)
  serving := h.serving

/-- What is read of a number that is written to `server.expiry`, or of its first digits, is not more. -/
theorem parseI64_take_le {n k : Nat} {expiryTs : Int}
    (h : parseI64 (trim ((showNat n).take k)) = some expiryTs) : expiryTs ≤ n := by
  have hdigit : ∀ c ∈ (showNat n).take k, c.isDigit := fun c hc =>
    Nat.isDigit_of_mem_toDigits (by decide) (by decide) (List.mem_of_mem_take hc)
  have htrim : trim ((showNat n).take k) = (showNat n).take k := by
    have hlog : parseUnsigned (n + 1) (showNat n) = some n :=
      parseUnsigned_showNat (Nat.lt_two_pow_self.trans (Nat.pow_lt_pow_succ (by decide)))
    exact trim_of_forall_not fun c hc => isWhitespace_of_parseUnsigned hlog c (List.mem_of_mem_take hc)
  rw [htrim] at h
  unfold parseI64 at h
  split at h
  · rename_i digits he
    have hminus := hdigit '-' (he ▸ List.mem_cons_self)
    cases hminus
  · obtain ⟨m, hm, rfl⟩ := Option.map_eq_some_iff.mp h
    exact Int.ofNat_le.mpr (parseUnsigned_take_le hm)

/-- What is written, if anything is, is a part of the content. -/
theorem WriteResult.written_eq_some {α : Type} {content part : List α} {w : WriteResult}
    (h : w.written content = some part) : ∃ k, part = content.take k ∧ (w = .whole ∨ w = .cut k) := by
  cases w with
  | whole =>
    cases h
    exact ⟨content.length, content.take_length.symm, .inl rfl⟩
  | unopened => cases h
  | cut k =>
    cases h
    exact ⟨k, rfl, .inr rfl⟩

/-! ## A round -/

/-- **Files that were written** promise what the new certificate has, even if some could not be written, or
only a part of them. -/
theorem CertsHonest.generate {certs certs' : Certs} {time : Nat} {round : Round} {identity : Identity}
    (h : CertsHonest build notAfter lag certs time) (hround : Sound build notAfter lag round)
    (htime : time ≤ round.now) (hgenerate : certs.generateAndSaveCert round = (some identity, certs')) :
    CertsHonest build notAfter lag certs' round.madeAt ∧ notAfter identity.certPem = round.madeAt + validity ∧
      ∀ minVersion, build identity minVersion = true := by
  have hle : time ≤ round.madeAt := htime.trans hround.now_le
  unfold Certs.generateAndSaveCert at hgenerate
  split at hgenerate
  · cases hgenerate
  rename_i identity' hgenerated
  split at hgenerate
  swap
  · cases hgenerate
  obtain ⟨he, rfl⟩ := Prod.mk.inj hgenerate
  obtain rfl := Option.some.inj he
  obtain ⟨hmade, hbuild⟩ := hround.made _ hgenerated
  have hwroteAt := hround.wroteAt_le
  have hlatest := h.latest.mono (show time + validity + lag ≤ round.madeAt + validity + lag by omega)
  have hpromises : Promises (certs.saved round identity') (round.madeAt + validity + lag) := by
    constructor
    · intro certPem modified hcrt
      rcases Option.or_eq_some_iff.mp hcrt with hnew | ⟨-, hold⟩
      · obtain ⟨pem, -, hpem⟩ := Option.map_eq_some_iff.mp hnew
        cases hpem
        omega
      · exact hlatest.modified certPem modified hold
    · intro text expiryTs hexpiry hparse
      unfold Certs.saved at hexpiry
      dsimp only at hexpiry
      split at hexpiry
      · rcases Option.or_eq_some_iff.mp hexpiry with hnew | ⟨-, hold⟩
        · obtain ⟨k, rfl, -⟩ := WriteResult.written_eq_some hnew
          have hprinted := parseI64_take_le hparse
          have hsavedAt := hround.savedAt_le
          rw [← validity] at hprinted
          omega
        · exact hlatest.expiry text expiryTs hold hparse
      · exact hlatest.expiry text expiryTs hexpiry hparse
  refine ⟨⟨hpromises, fun certPem modified keyPem minVersion hcrt husable => ?_⟩, hmade, hbuild⟩
  rcases Option.or_eq_some_iff.mp hcrt with hnew | ⟨hnone, hold⟩
  · -- the new certificate, or a part of it
    obtain ⟨pem, hwritten, hpem⟩ := Option.map_eq_some_iff.mp hnew
    cases hpem
    have hend : notAfter certPem = round.madeAt + validity := by
      obtain ⟨k, rfl, hwrite | hwrite⟩ := WriteResult.written_eq_some hwritten
      · rw [hwrite] at hwritten
        rw [← Option.some.inj hwritten]
        exact hmade
      · exact (hround.cut _ k hgenerated hwrite keyPem minVersion husable).trans hmade
    rw [hend]
    exact ⟨Nat.le_refl _, hpromises⟩
  · -- The old one stays, and so does what is promised.
    obtain ⟨hbefore, hpromised⟩ := h.usable certPem modified keyPem minVersion hold husable
    have hexpiry : (certs.saved round identity').expiry = certs.expiry := by
      have hunopened : round.writeCrt.isOk = false := by
        cases hwrite : round.writeCrt with
        | whole => rw [hwrite] at hnone; cases hnone
        | unopened => rfl
        | cut length => rfl
      unfold Certs.saved
      rw [hunopened]
      rfl
    have hsame : (certs.saved round identity').crt = certs.crt := by
      unfold Certs.saved
      dsimp only
      rw [hnone, Option.none_or]
    refine ⟨by omega, fun certPem modified hcrt => ?_, fun text expiryTs htext => ?_⟩
    · exact hpromised.modified certPem modified (hsame ▸ hcrt)
    · exact hpromised.expiry text expiryTs (hexpiry ▸ htext)

/-- Where no certificate could be made, no file is touched. -/
theorem generateAndSaveCert_none {certs certs' : Certs} {round : Round}
    (h : certs.generateAndSaveCert round = (none, certs')) : certs' = certs := by
  unfold Certs.generateAndSaveCert at h
  split at h
  · exact (Prod.mk.inj h).2.symm
  · split at h
    · cases h
    · exact (Prod.mk.inj h).2.symm

/-- Days that are rounded towards zero. -/
theorem le_of_not_tdiv_lt {x : Int} (h : ¬ x.tdiv day < renewalDaysBefore) : 30 * day ≤ x := by
  unfold renewalDaysBefore day at *
  by_contra hlt
  rcases Int.le_total 0 x with hx | hx
  · rw [Int.tdiv_eq_ediv_of_nonneg hx] at h
    omega
  · have := Int.tdiv_nonneg (show 0 ≤ -x by omega) (show (0 : Int) ≤ (86400 : Nat) by decide)
    rw [Int.neg_tdiv] at this
    omega

/-- **Where no renewal is due**, what the files promise lasts for 29 days. -/
theorem Promises.lasts {certs : Certs} {limit : Nat} {round : Round} (h : Promises certs limit)
    (hround : Sound build notAfter lag round) (hcrt : certs.crt.isSome = true) (hread : round.readCrt = true)
    (hsoon : certs.isCertExpiringSoon round = false) : round.now + 29 * day ≤ limit := by
  unfold Certs.isCertExpiringSoon at hsoon
  split at hsoon
  · rename_i expiryTs hexpiry
    obtain ⟨text, htext, hparse⟩ := Option.bind_eq_some_iff.mp hexpiry
    rw [Option.ite_none_right_eq_some] at htext
    have := h.expiry text expiryTs htext.2 hparse
    have := le_of_not_tdiv_lt (of_decide_eq_false hsoon)
    unfold day at *
    omega
  · obtain ⟨⟨certPem, modified⟩, hcrt⟩ := Option.isSome_iff_exists.mp hcrt
    have hmodified : certs.modified round = some modified := by
      rw [Certs.modified, if_pos (hround.metadata hread), hcrt]
      rfl
    rw [hmodified] at hsoon
    have hdays := of_decide_eq_false hsoon
    have := h.modified certPem modified hcrt
    unfold validity certValidityDays renewalDaysBefore day at *
    omega

/-- A renewal, if one is due and a certificate can be made. -/
theorem Honest.renew {s : TlsServer} {time : Nat} {round : Round} (h : Honest build notAfter lag s time)
    (hround : Sound build notAfter lag round) (htime : time ≤ round.now) (minVersion : TlsProtocol) :
    Honest build notAfter lag (s.renew build minVersion round) round.madeAt ∧
      ∀ identity identity', s.serving = some identity →
        (s.renew build minVersion round).serving = some identity' →
          notAfter identity.certPem ≤ notAfter identity'.certPem := by
  have hle : time ≤ round.madeAt := htime.trans hround.now_le
  have hkept : ∀ {serving : Option Identity}, s.serving = serving → ∀ identity identity',
      s.serving = some identity → serving = some identity' →
        notAfter identity.certPem ≤ notAfter identity'.certPem := by
    rintro _ rfl identity identity' hi hi'
    cases hi.symm.trans hi'
    exact Nat.le_refl _
  unfold TlsServer.renew
  split
  · split
    · rename_i identity certs' hgenerate
      obtain ⟨hcerts, hmade, hbuild⟩ := h.certs.generate hround htime hgenerate
      rw [if_pos (hbuild minVersion)]
      refine ⟨⟨hcerts, ?_, ?_⟩, ?_⟩
      · rintro _ ⟨⟩
        exact hmade.le
      · rintro _ ⟨⟩
        rw [hmade]
        exact hcerts.latest
      · rintro old _ hold ⟨⟩
        have := h.made old hold
        omega
    · rename_i certs' hgenerate
      rw [generateAndSaveCert_none hgenerate]
      exact ⟨h.mono hle, hkept rfl⟩
  · exact ⟨h.mono hle, hkept rfl⟩

/-- The program is started. If there is a server then, its certificate lasts for 29 days. -/
theorem CertsHonest.setup {certs : Certs} {time : Nat} {round : Round}
    (h : CertsHonest build notAfter lag certs time) (hself : selfSigned config = true)
    (hround : Sound build notAfter lag round) (htime : time ≤ round.now) :
    Honest build notAfter lag (setupTls config build round certs) round.madeAt ∧
      Lasts notAfter lag (setupTls config build round certs) round.now := by
  have hle : time ≤ round.madeAt := htime.trans hround.now_le
  have hdown : Honest build notAfter lag ⟨certs, none⟩ round.madeAt := ⟨h.mono hle, nofun, nofun⟩
  unfold setupTls
  split
  · exact ⟨hdown, nofun⟩
  rename_i minVersion hversion
  dsimp only
  rw [if_pos hself]
  split
  · rename_i found hexisting
    unfold Certs.existing at hexisting
    split at hexisting
    · rename_i certPem modified keyPem hcrt hkey
      split at hexisting
      · rename_i hreads
        simp only [Bool.and_eq_true, Bool.not_eq_true'] at hreads
        have hfound : ∀ identity, found.filter (fun i => build i minVersion) = some identity →
            notAfter identity.certPem ≤ time + validity ∧ Promises certs (notAfter identity.certPem + lag) := by
          intro identity hidentity
          obtain ⟨hmem, hbuilt⟩ := Option.filter_eq_some_iff.mp hidentity
          rw [← Option.some.inj hexisting, Option.ite_none_right_eq_some] at hmem
          obtain rfl := Option.some.inj hmem.2
          exact h.usable certPem modified keyPem minVersion hcrt hbuilt
        refine ⟨⟨h.mono hle, fun identity hidentity => ?_, fun identity hidentity => ?_⟩,
          fun identity hidentity => ?_⟩
        · exact (hfound identity hidentity).1.trans (Nat.add_le_add_right hle _)
        · exact (hfound identity hidentity).2
        · exact (hfound identity hidentity).2.lasts hround (by rw [hcrt]; rfl) hreads.1 hreads.2
      · cases hexisting
    · cases hexisting
  · rcases hgenerate : certs.generateAndSaveCert round with ⟨_ | identity, certs'⟩
    · have hsame := generateAndSaveCert_none hgenerate
      rw [hsame]
      exact ⟨hdown, nofun⟩
    · obtain ⟨hcerts, hmade, hbuild⟩ := h.generate hround htime hgenerate
      have hserving : (some identity).filter (fun i => build i minVersion) = some identity := by
        rw [Option.filter_some, if_pos (hbuild minVersion)]
      dsimp only
      rw [hserving]
      refine ⟨⟨hcerts, ?_, ?_⟩, ?_⟩
      · rintro _ ⟨⟩
        exact hmade.le
      · rintro _ ⟨⟩
        rw [hmade]
        exact hcerts.latest
      · rintro _ ⟨⟩
        have := hround.now_le
        unfold validity certValidityDays day at hmade
        unfold day
        omega

/-! ## Runs -/

section

variable {minVersion : TlsProtocol} (hself : selfSigned config = true)
  (hversion : parseMinVersion config.tlsMinVersion = .ok minVersion)

include hself hversion

/-- A round of the loop. -/
theorem step_check (s : TlsServer) (round : Round) :
    s.serving = none ∧ s.step config build (.check round) = s ∨
      (∃ identity, s.serving = some identity) ∧
        s.step config build (.check round) = s.renew build minVersion round := by
  unfold TlsServer.step
  cases hserving : s.serving with
  | none => exact .inl ⟨rfl, rfl⟩
  | some identity =>
    rw [hversion]
    dsimp only
    rw [if_pos hself]
    exact .inr ⟨⟨identity, rfl⟩, rfl⟩

theorem Honest.step {s : TlsServer} {time : Nat} {event : TlsEvent} (h : Honest build notAfter lag s time)
    (hround : Sound build notAfter lag event.round) (htime : time ≤ event.round.now) :
    Honest build notAfter lag (s.step config build event) event.round.madeAt := by
  cases event with
  | start round => exact (h.certs.setup hself hround htime).1
  | check round =>
    rcases step_check hself hversion s round with ⟨-, he⟩ | ⟨-, he⟩ <;> rw [he]
    · exact h.mono (htime.trans hround.now_le)
    · exact (h.renew hround htime minVersion).1

/-- **A round that came off**: what is in use then lasts. -/
theorem Honest.lasts {s : TlsServer} {time : Nat} {event : TlsEvent} (h : Honest build notAfter lag s time)
    (hround : Sound build notAfter lag event.round) (htime : time ≤ event.round.now)
    (hcame : s.CameOff event) : Lasts notAfter lag (s.step config build event) event.round.now := by
  cases event with
  | start round => exact (h.certs.setup hself hround htime).2
  | check round =>
    intro identity hserving
    change round.now + 29 * day ≤ notAfter identity.certPem + lag
    rcases step_check hself hversion s round with ⟨hdown, he⟩ | ⟨-, he⟩ <;> rw [he] at hserving
    · cases hdown.symm.trans hserving
    unfold TlsServer.renew at hserving
    split at hserving
    · rename_i hneeds
      rcases hgenerate : s.certs.generateAndSaveCert round with ⟨_ | identity', certs'⟩
      · exact absurd (by rw [hgenerate]) (hcame hneeds)
      · obtain ⟨-, hmade, hbuild⟩ := h.certs.generate hround htime hgenerate
        rw [hgenerate] at hserving
        dsimp only at hserving
        rw [if_pos (hbuild minVersion)] at hserving
        cases hserving
        have := hround.now_le
        dsimp only [TlsEvent.round] at this hmade
        unfold validity certValidityDays day at hmade
        unfold day
        omega
    · rename_i hfine
      rw [Bool.not_eq_true, Certs.needsRenewal] at hfine
      split at hfine
      · rename_i hreads
        rw [Bool.and_eq_true] at hreads
        exact (h.serving identity hserving).lasts hround hreads.1 hreads.2 hfine
      · cases hfine

/-- What lasts still does after another round. -/
theorem Lasts.step {s : TlsServer} {time time' : Nat} {event : TlsEvent} (hlasts : Lasts notAfter lag s time')
    (h : Honest build notAfter lag s time) (hround : Sound build notAfter lag event.round)
    (htime : time ≤ event.round.now) (hle : time' ≤ event.round.now) :
    Lasts notAfter lag (s.step config build event) time' := by
  cases event with
  | start round =>
    intro identity hserving
    have := (h.certs.setup hself hround htime).2 identity hserving
    exact (Nat.add_le_add_right hle _).trans this
  | check round =>
    rcases step_check hself hversion s round with ⟨-, he⟩ | ⟨⟨old, hold⟩, he⟩ <;> rw [he]
    · exact hlasts
    · intro identity hserving
      have hnewer := (h.renew hround htime minVersion).2 old identity hold hserving
      exact (hlasts old hold).trans (Nat.add_le_add_right hnewer _)

/-- **The run lemma.** -/
theorem run_honest {events : List TlsEvent}
    (hsound : ∀ event ∈ events, Sound build notAfter lag event.round)
    (htimely : Timely events) {time : Nat} (hlate : ∀ event ∈ events, event.round.madeAt ≤ time) :
    Honest build notAfter lag (TlsServer.run config build events) time := by
  induction events using List.reverseRecOn generalizing time with
  | nil =>
    have hcerts : CertsHonest build notAfter lag {} time := ⟨⟨nofun, nofun⟩, nofun⟩
    exact ⟨hcerts, nofun, nofun⟩
  | append_singleton events event ih =>
    obtain ⟨htimely, -, hbefore⟩ := List.pairwise_append.mp htimely
    have hold : Honest build notAfter lag (TlsServer.run config build events) event.round.now :=
      ih (fun event' h => hsound event' (List.mem_append_left _ h)) htimely
        fun event' h => hbefore event' h event (List.mem_singleton_self _)
    have hmem : event ∈ events ++ [event] := List.mem_append_right _ (List.mem_singleton_self _)
    rw [TlsServer.run, List.foldl_append]
    exact (hold.step hself hversion (hsound event hmem) (Nat.le_refl _)).mono (hlate event hmem)

end

/-- **The certificate in use does not run out.** In every run of a program that makes its certificates itself,
with starts and rounds of the renewal task in any order and whatever files cannot be read, or are not written or
cut short: 29 days
from a round that did not fail, new connections are still given a certificate that is valid. -/
theorem unexpired {config : AppConfig} (hvalid : Valid config) (hself : selfSigned config.tls = true)
    (build : Identity → TlsProtocol → Bool) (notAfter : List UInt8 → Nat) (lag : Nat)
    (done late : List TlsEvent) (event : TlsEvent)
    (hsound : ∀ event' ∈ done ++ event :: late, Sound build notAfter lag event'.round)
    (htimely : Timely (done ++ event :: late))
    (hcame : (TlsServer.run config.tls build done).CameOff event) :
    Lasts notAfter lag (TlsServer.run config.tls build (done ++ event :: late)) event.round.now := by
  obtain ⟨minVersion, hversion⟩ := parseMinVersion_of_valid hvalid
  induction late using List.reverseRecOn with
  | nil =>
    obtain ⟨htimely, -, hbefore⟩ := List.pairwise_append.mp htimely
    have hold : Honest build notAfter lag (TlsServer.run config.tls build done) event.round.now :=
      run_honest hself hversion (fun event' h => hsound event' (List.mem_append_left _ h)) htimely
        fun event' h => hbefore event' h event (List.mem_singleton_self _)
    have hmem : event ∈ done ++ [event] := List.mem_append_right _ (List.mem_singleton_self _)
    rw [TlsServer.run, List.foldl_append]
    exact hold.lasts hself hversion (hsound event hmem) (Nat.le_refl _) hcame
  | append_singleton late event' ih =>
    rw [← List.cons_append, ← List.append_assoc] at hsound htimely ⊢
    obtain ⟨htimely, -, hbefore⟩ := List.pairwise_append.mp htimely
    have hearlier : ∀ event'' ∈ done ++ event :: late, event''.round.madeAt ≤ event'.round.now :=
      fun event'' h => hbefore event'' h event' (List.mem_singleton_self _)
    have hsound' := fun event'' h => hsound event'' (List.mem_append_left [event'] h)
    have hmem : event ∈ done ++ event :: late := List.mem_append_right _ List.mem_cons_self
    have hround := hsound event' (List.mem_append_right _ (List.mem_singleton_self _))
    rw [TlsServer.run, List.foldl_append]
    exact (ih hsound' htimely).step hself hversion (run_honest hself hversion hsound' htimely hearlier) hround
      (Nat.le_refl _) ((hsound' event hmem).now_le.trans (hearlier event hmem))

/-! ### A year

The program is started, the disk is full behind three digits of `server.expiry`, and a round is due 337 days
later. -/

/-- The certificate that is made in second `time`. -/
def yearIdentity (time : Nat) : Identity := ⟨utf8 (showNat time), []⟩

def yearRound (time : Nat) (writeExpiry : WriteResult) : Round where
  now := time
  madeAt := time
  wroteAt := time
  savedAt := time
  generated := some (yearIdentity time)
  writeExpiry := writeExpiry

def yearEnd (certPem : List UInt8) : Nat :=
  if certPem = utf8 "0".toList then validity else 337 * day + validity

/-- The new certificate is in use, and lasts. -/
theorem unexpired_concrete :
    let s := TlsServer.run phoneApp.tls (fun _ _ => true)
      [.start (yearRound 0 (.cut 3)), .check (yearRound (337 * day) .whole)]
    s.serving = some (yearIdentity (337 * day)) ∧ Lasts yearEnd 0 s (337 * day) := by
  have hvalid : Valid phoneApp := (AppConfig.check_ok_iff phoneApp).mp (by decide +kernel)
  have hsound : ∀ event ∈ [] ++ TlsEvent.start (yearRound 0 (.cut 3)) :: [.check (yearRound (337 * day) .whole)],
      Sound (fun _ _ => true) yearEnd 0 event.round := by
    intro event hevent
    simp only [List.nil_append, List.mem_cons, List.not_mem_nil, or_false] at hevent
    rcases hevent with rfl | rfl
    · refine ⟨?_, (fun _ _ _ hcut => by cases hcut), Nat.le_refl _, Nat.le_refl _, Nat.le_refl _, fun _ => rfl⟩
      rintro _ ⟨⟩
      exact ⟨by decide +kernel, fun _ => rfl⟩
    · refine ⟨?_, (fun _ _ _ hcut => by cases hcut), Nat.le_refl _, Nat.le_refl _, Nat.le_refl _, fun _ => rfl⟩
      rintro _ ⟨⟩
      exact ⟨by decide +kernel, fun _ => rfl⟩
  refine ⟨by decide +kernel, ?_⟩
  exact unexpired hvalid rfl (fun _ _ => true) yearEnd 0 [.start (yearRound 0 (.cut 3))] []
    (.check (yearRound (337 * day) .whole)) hsound (by simp [Timely, TlsEvent.round, yearRound])
    fun _ => by decide +kernel

end Minghe.Tls
