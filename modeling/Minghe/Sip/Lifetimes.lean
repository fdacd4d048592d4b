import Minghe.Lib.Run
import Minghe.Sip.Replay

/-!
# How long a registration lasts

`handle_register` stores `now + expires`, `lookup` and `cleanup_expired` compare it with the clock, and the
response promises `expires` seconds. `extract_expires` accepts every `u64`, and the sum wraps.

* `AcceptedFor`: a REGISTER is accepted for an extension.
* `Lasts`: what is expected of the registration that it writes.
* `lasts_iff`: a registration lasts as long as its response promised iff its end is a `u64`.
-/

namespace Minghe.Sip

open Minghe.Lib

namespace RegistrarService

section

variable (cfg : RegistrarConfig) (md5 : List UInt8 → Vector UInt8 16)

/-- A REGISTER for the extension is answered with 200. -/
structure AcceptedFor (s : RegistrarService) (req : Register) (extension : Str) : Prop where
  requested : requestedExtension req.text = .ok (some extension)
  answered : (s.handleRegister cfg md5 req).1.toOption.bind extractStatusCode = some 200

/-- The operation is not a REGISTER that is accepted for the extension. -/
def Spares (extension : Str) (s : RegistrarService) (op : RegistrarOp) : Prop :=
  ∀ req, op = .register req → ¬ s.AcceptedFor cfg md5 req extension

/-- **What is expected** of a registration that was written at `now` for `expires` seconds and left the
state `s`: the sum did not overflow, and until another one is accepted for the extension, it is found for
so long and not longer, whether or not the cleanup runs. -/
structure Lasts (s : RegistrarService) (extension : Str) (reg : Registration) (now expires : Nat) : Prop where
  expiresAt : reg.expiresAt = now + expires
  found : ∀ ops u, Stepwise (step cfg md5) (Spares cfg md5 extension) s ops →
    (∀ t, .cleanup t ∈ ops → t ≤ u) → now ≤ u → u < now + expires →
    (ops.foldl (step cfg md5) s).lookup u extension = some reg
  gone : ∀ ops u, Stepwise (step cfg md5) (Spares cfg md5 extension) s ops → now + expires ≤ u →
    (ops.foldl (step cfg md5) s).lookup u extension = none

end

variable {cfg : RegistrarConfig} {md5 : List UInt8 → Vector UInt8 16}

/-! ## One operation -/

theorem AcceptedFor.response {s : RegistrarService} {req : Register} {extension : Str}
    (h : s.AcceptedFor cfg md5 req extension) :
    ∃ response, (s.handleRegister cfg md5 req).1 = .ok response ∧ extractStatusCode response = some 200 := by
  have h200 := h.answered
  cases hr : (s.handleRegister cfg md5 req).1 with
  | error e =>
    rw [hr] at h200
    cases h200
  | ok response =>
    rw [hr] at h200
    exact ⟨response, rfl, h200⟩

/-- An accepted REGISTER that is not for 0 seconds writes its entry. -/
theorem AcceptedFor.writes {s : RegistrarService} {req : Register} {extension : Str} {expires : Option Nat}
    (h : s.AcceptedFor cfg md5 req extension) (hexpires : extractExpires req.text = .ok expires)
    (hpos : 0 < expires.getD 3600) :
    ∃ reg, (s.handleRegister cfg md5 req).2.registrations.lookup extension = some reg ∧
      Writes req extension reg := by
  obtain ⟨response, hok, h200⟩ := h.response
  have hnonzero : extractExpires req.text ≠ .ok (some 0) := by
    rw [hexpires]
    rintro ⟨⟩
    exact absurd hpos (by decide)
  rcases handleRegister_cases cfg md5 s req with ⟨-, hno⟩ | ⟨_, _, _, s', hext, -, -, hr, -⟩
  · exact absurd h200 (hno response hok)
  · cases hext.symm.trans h.requested
    rw [hr] at hok ⊢
    exact updateRegistration_writes hok hnonzero

/-- A REGISTER that is not accepted for an extension leaves its entry alone. -/
theorem handleRegister_spares {s : RegistrarService} {req : Register} {extension : Str}
    (h : ¬ s.AcceptedFor cfg md5 req extension) :
    (s.handleRegister cfg md5 req).2.registrations.lookup extension = s.registrations.lookup extension := by
  rcases handleRegister_cases cfg md5 s req with ⟨hs, -⟩ | ⟨other, _, _, s', hext, -, hs, hr, -⟩
  · rw [hs]
  have hother : ∀ response, (s.handleRegister cfg md5 req).1 = .ok response →
      extractStatusCode response = some 200 → extension ≠ other := by
    rintro response hok h200 rfl
    exact h ⟨hext, by rw [hok]; exact h200⟩
  rw [hr] at hother ⊢
  rw [← hs]
  rcases updateRegistration_cases s' req other with
    ⟨_, hu⟩ | ⟨-, response, hu, h200⟩ | ⟨-, response, reg, hu, h200, rfl, -⟩
  · rw [hu]
  · rw [hu] at hother ⊢
    exact AList.lookup_erase_ne (hother response rfl h200)
  · rw [hu] at hother ⊢
    exact AList.lookup_insert_ne (hother response rfl h200)

/-- **What an operation does to the entry** that it is not about: the cleanup drops it when it is over, and
nothing else does. -/
theorem step_spares {s : RegistrarService} {op : RegistrarOp} {extension : Str}
    (h : s.Spares cfg md5 extension op) :
    (s.step cfg md5 op).registrations.lookup extension =
      match op with
      | .cleanup now => (s.registrations.lookup extension).filter fun reg => decide (now < reg.expiresAt)
      | _ => s.registrations.lookup extension := by
  cases op with
  | register req => exact handleRegister_spares (h req rfl)
  | cleanup now => exact Table.lookup_retain ..
  | failure now ip => exact congrArg _ (recordFailure_registrations s now ip)
  | success now ip => rfl

/-! ## Runs -/

/-- The entry after a run is the one before it. -/
theorem lookup_of_spares {ops : List RegistrarOp} {s : RegistrarService} {extension : Str}
    {reg : Registration} (h : Stepwise (step cfg md5) (Spares cfg md5 extension) s ops)
    (hl : (ops.foldl (step cfg md5) s).registrations.lookup extension = some reg) :
    s.registrations.lookup extension = some reg := by
  induction ops generalizing s with
  | nil => exact hl
  | cons op ops ih =>
    have hnext := ih h.2 hl
    rw [step_spares h.1] at hnext
    cases op with
    | cleanup now => exact (Option.filter_eq_some_iff.mp hnext).1
    | register _ | failure _ _ | success _ _ => exact hnext

/-- It is kept while the cleanups come before its end. -/
theorem lookup_kept {ops : List RegistrarOp} {s : RegistrarService} {extension : Str} {reg : Registration}
    (h : Stepwise (step cfg md5) (Spares cfg md5 extension) s ops)
    (hcleanups : ∀ t, .cleanup t ∈ ops → t < reg.expiresAt)
    (hl : s.registrations.lookup extension = some reg) :
    (ops.foldl (step cfg md5) s).registrations.lookup extension = some reg := by
  induction ops generalizing s with
  | nil => exact hl
  | cons op ops ih =>
    refine ih h.2 (fun t ht => hcleanups t (List.mem_cons_of_mem _ ht)) ?_
    rw [step_spares h.1]
    cases op with
    | cleanup now =>
      exact Option.filter_eq_some_iff.mpr ⟨hl, decide_eq_true (hcleanups now List.mem_cons_self)⟩
    | register _ | failure _ _ | success _ _ => exact hl

/-- **How long a registration lasts.** It lasts as long as it was promised iff its end is a `u64`. -/
theorem lasts_iff (cfg : RegistrarConfig) (md5 : List UInt8 → Vector UInt8 16) {s : RegistrarService}
    {req : Register} {extension : Str} {expires : Option Nat} (h : s.AcceptedFor cfg md5 req extension)
    (hexpires : extractExpires req.text = .ok expires) (hpos : 0 < expires.getD 3600) :
    (∃ reg, Writes req extension reg ∧ Lasts cfg md5 (s.step cfg md5 (.register req)) extension reg req.now
      (expires.getD 3600)) ↔ req.now + expires.getD 3600 < 2 ^ 64 := by
  obtain ⟨reg, hl, hwrites⟩ := h.writes hexpires hpos
  have hend : ∀ reg, Writes req extension reg → reg.expiresAt = (req.now + expires.getD 3600) % 2 ^ 64 := by
    rintro reg ⟨_, _, -, hexpires', rfl⟩
    cases hexpires.symm.trans hexpires'
    rfl
  constructor
  · rintro ⟨reg, hwrites, hlasts⟩
    rw [← hlasts.expiresAt, hend reg hwrites]
    exact Nat.mod_lt _ (by decide)
  · intro hlt
    have hexact : reg.expiresAt = req.now + expires.getD 3600 := (hend reg hwrites).trans (Nat.mod_eq_of_lt hlt)
    refine ⟨reg, hwrites, hexact, fun ops u hops hcleanups _ hu => ?_, fun ops u hops hu => ?_⟩
    · have hbefore : ∀ t, .cleanup t ∈ ops → t < reg.expiresAt := by
        intro t ht
        have := hcleanups t ht
        omega
      rw [lookup, lookup_kept hops hbefore hl, Option.filter_eq_some_iff]
      exact ⟨rfl, decide_eq_true (by omega)⟩
    · rw [lookup, Option.filter_eq_none_iff]
      intro reg' hl'
      cases hl.symm.trans (lookup_of_spares hops hl')
      simp only [decide_eq_true_eq, not_lt]
      omega

/-! ## Two lifetimes -/

/-- A registration for five minutes lasts for five minutes. -/
theorem lasts_concrete : ∃ reg, Writes firstRegister "1001".toList reg ∧
    Lasts replayConfig md5Replayed
      ((run replayConfig md5Replayed challenged).step replayConfig md5Replayed (.register firstRegister))
      "1001".toList reg 1002 300 := by
  have h : (run replayConfig md5Replayed challenged).AcceptedFor replayConfig md5Replayed firstRegister
      "1001".toList := ⟨by decide +kernel, answers_twice.2.1.2⟩
  have hexpires : extractExpires firstRegister.text = .ok (some 300) := by decide +kernel
  exact (lasts_iff replayConfig md5Replayed h hexpires (by decide)).mpr (by decide)

/-- The REGISTER of the extension, for the longest time. -/
def longestRegister : Register :=
  registerFrom 5060 1002 "Contact: <sip:1001@10.0.0.7:5060>" "Expires: 18446744073709551615"

/-- A registration for the longest time is over at once. -/
theorem longest_lifetime_is_none :
    (run replayConfig md5Replayed challenged).AcceptedFor replayConfig md5Replayed longestRegister
      "1001".toList ∧
    extractExpires longestRegister.text = .ok (some (2 ^ 64 - 1)) ∧
    ¬ ∃ reg, Writes longestRegister "1001".toList reg ∧
      Lasts replayConfig md5Replayed
        ((run replayConfig md5Replayed challenged).step replayConfig md5Replayed (.register longestRegister))
        "1001".toList reg 1002 (2 ^ 64 - 1) := by
  have h : requestedExtension longestRegister.text = .ok (some "1001".toList) ∧
      extractExpires longestRegister.text = .ok (some (2 ^ 64 - 1)) ∧
      ((run replayConfig md5Replayed challenged).handleRegister replayConfig md5Replayed
        longestRegister).1.toOption.bind extractStatusCode = some 200 ∧
      ((run replayConfig md5Replayed challenged).step replayConfig md5Replayed
        (.register longestRegister)).lookup 1002 "1001".toList = none := by decide +kernel
  obtain ⟨hrequested, hexpires, hanswered, hnone⟩ := h
  refine ⟨⟨hrequested, hanswered⟩, hexpires, ?_⟩
  rintro ⟨reg, -, hlasts⟩
  have hfound := hlasts.found [] 1002 trivial nofun (Nat.le_refl _) (by decide)
  cases hnone.symm.trans hfound

end RegistrarService

end Minghe.Sip
