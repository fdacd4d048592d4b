import Minghe.Lib.Run
import Minghe.Sip.Lifetimes

/-!
# Spellings of an extension

`handle_register` checks the range of the number that an extension parses to, and `parse` accepts leading
zeros and a plus sign. The key of the table, the password and the whitelist go by the text. So another
spelling of a number is an extension of its own, with the default password.

* `PasswordOf`: the password that is configured for a number.
* `OneIdentity`: what is expected of a run: a number has one key and one password.
* `Spelled`: a REGISTER with right credentials names its extension in decimal, as it is printed.
* `one_identity`: in a run in which every REGISTER that meets the checks spells its extension as the number
  is printed, a number has one key and one password.
-/

namespace Minghe.Sip

open Minghe.Lib

/-- The password for a number: that of the entry for the number, and the default one if there is none. -/
def RegistrarConfig.PasswordOf (cfg : RegistrarConfig) (n : Nat) (password : Str) : Prop :=
  (∃ key, parseUnsigned 32 key = some n ∧ cfg.passwords.lookup key = some password) ∨
    (∀ key, parseUnsigned 32 key = some n → cfg.passwords.lookup key = none) ∧
      password = cfg.defaultPassword

/-- The credentials of a REGISTER are right for a password. -/
def Proves (md5 : List UInt8 → Vector UInt8 16) (password : Str) (params : DigestParams) : Prop :=
  validateDigest md5 params.username params.realm password params.nonce params.uri "REGISTER".toList
    params.response params.qop params.nc params.cnonce = true

namespace RegistrarService

section

variable (cfg : RegistrarConfig) (md5 : List UInt8 → Vector UInt8 16)

/-- **What is expected**: two keys for one number are the same, and who is accepted for a number has its
password. -/
structure OneIdentity (ops : List RegistrarOp) : Prop where
  keys : ∀ e e' n, e ∈ (run cfg md5 ops).registrations → e' ∈ (run cfg md5 ops).registrations →
    parseUnsigned 32 e = some n → parseUnsigned 32 e' = some n → e = e'
  passwords : ∀ done req e n, done ++ [.register req] <+: ops →
    (run cfg md5 done).AcceptedFor cfg md5 req e → parseUnsigned 32 e = some n →
    ∃ params password, credentials req.text = some params ∧ cfg.PasswordOf n password ∧
      Proves md5 password params

/-- A REGISTER that meets the checks of `handle_register` names its extension as the number is printed. -/
def Spelled (s : RegistrarService) (op : RegistrarOp) : Prop :=
  ∀ req extension n params s', op = .register req → s.Admits cfg req extension →
    s.Grants cfg md5 req params s' → params.username = extension → parseUnsigned 32 extension = some n →
    extension = showNat n

end

variable {cfg : RegistrarConfig} {md5 : List UInt8 → Vector UInt8 16}

/-- The keys are numbers as they are printed. -/
def KeysSpelled (s : RegistrarService) : Prop :=
  ∀ e n, e ∈ s.registrations → parseUnsigned 32 e = some n → e = showNat n

/-- A step keeps them. -/
theorem KeysSpelled.step {s : RegistrarService} {op : RegistrarOp} (h : s.KeysSpelled)
    (hop : s.Spelled cfg md5 op) : (s.step cfg md5 op).KeysSpelled := by
  intro e n hmem hn
  obtain ⟨reg, hl⟩ := Option.isSome_iff_exists.mp (AList.lookup_isSome.mpr hmem)
  have hold : s.registrations.lookup e = some reg → e = showNat n := fun hl =>
    h e n (AList.lookup_isSome.mp (by rw [hl]; rfl)) hn
  cases op with
  | cleanup now => exact hold (Table.lookup_retain_eq_some.mp hl).1
  | failure now ip =>
    change (s.recordFailure cfg now ip).2.registrations.lookup e = some reg at hl
    rw [recordFailure_registrations] at hl
    exact hold hl
  | success now ip => exact hold hl
  | register req =>
    change (s.handleRegister cfg md5 req).2.registrations.lookup e = some reg at hl
    rcases handleRegister_cases cfg md5 s req with
      ⟨hs, -⟩ | ⟨extension, params, entry, s', -, -, hs, hr, hgrants, huser, hadmits⟩
    · rw [hs] at hl
      exact hold hl
    · rw [hr] at hl
      rcases updateRegistration_lookup hl with hl | ⟨rfl, -⟩
      · rw [hs] at hl
        exact hold hl
      · exact hop req e n params s' rfl hadmits hgrants huser hn

/-- The password that `get_password` finds for a number as it is printed. -/
theorem passwordOf_getPassword (hkeys : ∀ key ∈ cfg.passwords, ∃ m, key = showNat m) {n : Nat}
    (hn : n < 2 ^ 32) : cfg.PasswordOf n (cfg.getPassword (showNat n)) := by
  unfold RegistrarConfig.getPassword
  cases hl : cfg.passwords.lookup (showNat n) with
  | some password => exact .inl ⟨showNat n, parseUnsigned_showNat hn, hl⟩
  | none =>
    refine .inr ⟨fun key hkey => AList.lookup_eq_none.mpr fun hmem => ?_, rfl⟩
    -- an entry for the number has it as its key
    obtain ⟨m, rfl⟩ := hkeys key hmem
    rw [parseUnsigned_showNat_eq] at hkey
    split at hkey
    · cases hkey
      exact AList.lookup_eq_none.mp hl hmem
    · cases hkey

/-- Who is accepted has the password of the number. -/
theorem AcceptedFor.password {s : RegistrarService} {req : Register} {extension : Str} {n : Nat}
    (hkeys : ∀ key ∈ cfg.passwords, ∃ m, key = showNat m) (hop : s.Spelled cfg md5 (.register req))
    (h : s.AcceptedFor cfg md5 req extension) (hn : parseUnsigned 32 extension = some n) :
    ∃ params password, credentials req.text = some params ∧ cfg.PasswordOf n password ∧
      Proves md5 password params := by
  rcases handleRegister_cases cfg md5 s req with
    ⟨-, hno⟩ | ⟨_, params, _, s', hext, -, -, -, hgrants, huser, hadmits⟩
  · obtain ⟨response, hok, h200⟩ := h.response
    exact absurd h200 (hno response hok)
  · cases hext.symm.trans h.requested
    have hspelled := hop req extension n params s' rfl hadmits hgrants huser hn
    have hverifies := hgrants.verifies
    rw [huser, hspelled] at hverifies
    exact ⟨params, _, hgrants.credentials, passwordOf_getPassword hkeys (parseUnsigned_lt hn), hverifies⟩

/-- **One identity for a number.** In a run in which every REGISTER that meets the checks names its
extension as the number is printed, a number has one key and one password. -/
theorem one_identity (cfg : RegistrarConfig) (md5 : List UInt8 → Vector UInt8 16)
    (hkeys : ∀ key ∈ cfg.passwords, ∃ m, key = showNat m) {ops : List RegistrarOp}
    (h : Stepwise (step cfg md5) (Spelled cfg md5) {} ops) : OneIdentity cfg md5 ops := by
  have hspelled := h.forall
  refine ⟨?_, fun done req e n hdone hacc hn => hacc.password hkeys (hspelled done _ hdone) hn⟩
  have hrun : (run cfg md5 ops).KeysSpelled := by
    refine prefix_induction (P := fun done => (run cfg md5 done).KeysSpelled) (fun e n hmem => ?_)
      (fun done op _ hdone hprev => ?_) List.nil_prefix List.prefix_rfl
    · exact absurd hmem (AList.notMem_empty e)
    · rw [run_append]
      exact hprev.step (hspelled done op hdone)
  intro e e' n he he' hn hn'
  rw [hrun e n he hn, hrun e' n he' hn']

/-! ## Two spellings -/

theorem spelled_of_requested {s : RegistrarService} {req : Register}
    (h : requestedExtension req.text = .ok (some "1001".toList)) : s.Spelled cfg md5 (.register req) := by
  rintro _ extension n _ _ ⟨⟩ hadmits - - hn
  cases hadmits.requested.symm.trans h
  have hread : parseUnsigned 32 "1001".toList = some 1001 := by decide
  cases hread.symm.trans hn
  decide

/-- Extension 1001 is registered. -/
theorem one_identity_concrete :
    OneIdentity replayConfig md5Replayed (challenged ++ [.register firstRegister]) :=
  one_identity replayConfig md5Replayed (fun key hmem => absurd hmem (AList.notMem_empty key))
    ⟨spelled_of_requested (by decide +kernel), spelled_of_requested (by decide +kernel), trivial⟩

/-- A registrar on which extension 1001 has its own password. -/
def spellingConfig : RegistrarConfig := { replayConfig with
  passwords := AList.insert "1001".toList "secret".toList ∅ }

/-- MD5, on the texts that the run below hashes. -/
def md5Spelled (input : List UInt8) : Vector UInt8 16 :=
  if input = utf8 "01001:example.com:pw".toList then
    #v[69, 27, 210, 75, 234, 83, 239, 207, 208, 5, 254, 140, 178, 238, 11, 85]
  else if input = utf8 ("451bd24bea53efcfd005fe8cb2ee0b55:000102030405060708090a0b0c0d0e0f:"
      ++ "0264b00abe5b31d87fb22979689b883f").toList then
    #v[80, 106, 82, 224, 120, 99, 222, 64, 196, 8, 73, 89, 48, 245, 229, 175]
  else if input = utf8 "1001:example.com:secret".toList then
    #v[9, 177, 184, 50, 66, 38, 36, 25, 193, 127, 105, 25, 131, 214, 146, 208]
  else if input = utf8 ("09b1b83242262419c17f691983d692d0:000102030405060708090a0b0c0d0e0f:"
      ++ "0264b00abe5b31d87fb22979689b883f").toList then
    #v[110, 31, 14, 18, 143, 47, 0, 40, 161, 25, 128, 140, 56, 56, 161, 184]
  else md5Of input

/-- A REGISTER over TLS that names its extension in some spelling. -/
def spelledRegister (spelling response : String) : Register := { firstRegister with
  text := ["REGISTER sip:example.com SIP/2.0", "To: <sip:" ++ spelling ++ "@example.com>",
    "Authorization: Digest username=\"" ++ spelling ++ "\", realm=\"example.com\", "
      ++ "uri=\"sip:example.com\", nonce=\"000102030405060708090a0b0c0d0e0f\", response=\"" ++ response
      ++ "\""].flatMap (·.toList ++ crlf)
  transport := .tls }

/-- A REGISTER of 01001 with the default password, and one of 1001 with its own. -/
def twoSpellings : List RegistrarOp :=
  challenged ++ [.register (spelledRegister "01001" "506a52e07863de40c408495930f5e5af"),
    .register (spelledRegister "1001" "6e1f0e128f2f0028a119808c3838a1b8")]

/-- Its only password is that of 1001. -/
theorem spellingConfig_passwords {key password : Str}
    (h : spellingConfig.passwords.lookup key = some password) :
    key = "1001".toList ∧ password = "secret".toList := by
  rcases Table.lookup_insert_eq_some h with ⟨rfl, rfl⟩ | ⟨-, hnone⟩
  · exact ⟨rfl, rfl⟩
  · cases hnone

/-- **A number has two keys**, and the default password does for one of them. -/
theorem two_spellings :
    (∀ key ∈ spellingConfig.passwords, ∃ m, key = showNat m) ∧
    (run spellingConfig md5Spelled challenged).AcceptedFor spellingConfig md5Spelled
      (spelledRegister "01001" "506a52e07863de40c408495930f5e5af") "01001".toList ∧
    ¬ spellingConfig.PasswordOf 1001 spellingConfig.defaultPassword ∧
    "01001".toList ∈ (run spellingConfig md5Spelled twoSpellings).registrations ∧
    "1001".toList ∈ (run spellingConfig md5Spelled twoSpellings).registrations ∧
    ¬ OneIdentity spellingConfig md5Spelled twoSpellings := by
  have hrun : requestedExtension (spelledRegister "01001" "506a52e07863de40c408495930f5e5af").text =
        .ok (some "01001".toList) ∧
      ((run spellingConfig md5Spelled challenged).handleRegister spellingConfig md5Spelled
        (spelledRegister "01001" "506a52e07863de40c408495930f5e5af")).1.toOption.bind
          extractStatusCode = some 200 ∧
      "01001".toList ∈ (run spellingConfig md5Spelled twoSpellings).registrations ∧
      "1001".toList ∈ (run spellingConfig md5Spelled twoSpellings).registrations := by decide +kernel
  obtain ⟨hrequested, hanswered, hfirst, hsecond⟩ := hrun
  refine ⟨fun key hmem => ⟨1001, ?_⟩, ⟨hrequested, hanswered⟩, ?_, hfirst, hsecond, fun hone => ?_⟩
  · obtain ⟨password, hl⟩ := Option.isSome_iff_exists.mp (AList.lookup_isSome.mpr hmem)
    rw [(spellingConfig_passwords hl).1]
    decide
  · rintro (⟨key, -, hl⟩ | ⟨hnone, -⟩)
    · exact absurd (spellingConfig_passwords hl).2 (by decide)
    · exact absurd (hnone "1001".toList (by decide)) (by decide)
  · exact absurd (hone.keys _ _ 1001 hfirst hsecond (by decide) (by decide)) (by decide)

end RegistrarService

end Minghe.Sip
