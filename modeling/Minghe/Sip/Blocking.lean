import Minghe.Lib.FixedWindow
import Minghe.Lib.Run
import Minghe.Sip.Registered
import Minghe.Sip.Router

/-!
# Blocked addresses

`record_failure` counts the failures of an address in a window that starts with the first of them, and
blocks the address when there are `max_failures`. `clear_failures` gives the counter up, and so does a full
table.

* `guardCall`: which of the two an operation calls, if any, and `guardCalls`, those of a run.
* `GuardInv`: what the tables know about the calls that were made.

Results:
* `blocking_sound`: a blocked address had that many failures within a window, and stays blocked.
* `burst_blocks_iff`: that many failures within a window block the address iff the counter does not start
  a new window between them, or one of the windows has enough of them by itself.
-/

namespace Minghe.Sip

open Minghe.Lib

/-- An entry as a counter. -/
def FailedIpEntry.counter (e : FailedIpEntry) : WindowCount := ⟨e.count.toNat, e.windowStart⟩

namespace RegistrarService

section

variable (cfg : RegistrarConfig) (md5 : List UInt8 → Vector UInt8 16)

/-! ## The calls -/

/-- The call of `handle_register` from the comparison of the Digest `username` on. -/
def authenticateCall (req : Register) (extension : Str) (params : DigestParams) (s : RegistrarService) :
    WindowCall IpAddr :=
  let ip := req.fromAddr.ip
  if params.username ≠ extension then .hit req.now ip
  else if !(s.validateNonce params.nonce ip (params.nc.bind (parseHex 64)) params.qop req.now).1 then
    .hit req.now ip
  else if !digestVerifies cfg md5 extension params then .hit req.now ip
  else .clear ip

/-- The call of `handle_register`: a `hit` is `record_failure`, a `clear` is `clear_failures`. -/
def registerCall (req : Register) (s : RegistrarService) : Option (WindowCall IpAddr) :=
  let failure := some (WindowCall.hit req.now req.fromAddr.ip)
  if s.isBlocked cfg req.fromAddr.ip then none
  else
    match requestedExtension req.text with
    | .error _ => none
    | .ok none => failure
    | .ok (some extension) =>
      match parseUnsigned 32 extension with
      | none => failure
      | some extNum =>
        if extNum < cfg.rangeStart ∨ cfg.rangeEnd < extNum then failure
        else if req.transport = .udp ∧ extension ∉ cfg.insecureExtensions then failure
        else
          match extractHeaderValue req.text "Authorization".toList with
          | .error _ => none
          | .ok none => none
          | .ok (some authValue) =>
            match parseAuthorization authValue with
            | none => none
            | some params => some (authenticateCall cfg md5 req extension params s)

/-- The call of an operation. -/
def guardCall (s : RegistrarService) : RegistrarOp → Option (WindowCall IpAddr)
  | .register req => registerCall cfg md5 req s
  | .cleanup _ => none
  | .failure now ip => some (.hit now ip)
  | .success _ ip => some (.clear ip)

/-- The calls of a run. -/
def guardCalls : RegistrarService → List RegistrarOp → List (WindowCall IpAddr)
  | _, [] => []
  | s, op :: ops => (s.guardCall cfg md5 op).toList ++ guardCalls (s.step cfg md5 op) ops

/-- What a call does. -/
def callGuard (s : RegistrarService) : WindowCall IpAddr → RegistrarService
  | .hit now ip => (s.recordFailure cfg now ip).2
  | .clear ip => s.clearFailures ip

end

/-- Two states have the same tables of failures and of blocked addresses. -/
def SameGuard (s s' : RegistrarService) : Prop := s.failedIps = s'.failedIps ∧ s.blockedIps = s'.blockedIps

variable {cfg : RegistrarConfig} {md5 : List UInt8 → Vector UInt8 16}

theorem SameGuard.recordFailure {s s' : RegistrarService} (h : SameGuard s s') (now : Nat) (ip : IpAddr) :
    SameGuard (s.recordFailure cfg now ip).2 (s'.recordFailure cfg now ip).2 := by
  obtain ⟨hfailed, hblocked⟩ := h
  unfold RegistrarService.recordFailure SameGuard
  rw [hfailed, hblocked]
  dsimp only
  split_ifs
  · exact ⟨hfailed, hblocked⟩
  all_goals exact ⟨rfl, rfl⟩

theorem validateNonce_guard (s : RegistrarService) (nonce : Str) (ip : IpAddr) (nc : Option Nat)
    (qop : Option Str) (now : Nat) : SameGuard (s.validateNonce nonce ip nc qop now).2 s := by
  rcases validateNonce_cases s nonce ip nc qop now with ⟨_, hs, -⟩ | ⟨_, -, -, -, ⟨-, -, hs⟩ | ⟨-, hs⟩⟩
  all_goals
    rw [hs]
    exact ⟨rfl, rfl⟩

theorem updateRegistration_guard (s : RegistrarService) (req : Register) (extension : Str) :
    SameGuard (s.updateRegistration req extension).2 s := by
  rcases updateRegistration_cases s req extension with ⟨_, hu⟩ | ⟨-, _, hu, -⟩ | ⟨-, _, _, hu, -⟩
  all_goals
    rw [hu]
    exact ⟨rfl, rfl⟩

/-- **The tables after an operation** are those after its call. -/
theorem step_guard (s : RegistrarService) (op : RegistrarOp) :
    SameGuard (s.step cfg md5 op) ((s.guardCall cfg md5 op).elim s (s.callGuard cfg)) := by
  have hsame : SameGuard s s := ⟨rfl, rfl⟩
  cases op with
  | cleanup now => exact hsame
  | failure now ip => exact ⟨rfl, rfl⟩
  | success now ip => exact ⟨rfl, rfl⟩
  | register req =>
    change SameGuard (s.handleRegister cfg md5 req).2 ((s.registerCall cfg md5 req).elim s (s.callGuard cfg))
    have hfailure : SameGuard (s.recordFailure cfg req.now req.fromAddr.ip).2 _ :=
      hsame.recordFailure req.now req.fromAddr.ip
    unfold handleRegister registerCall
    dsimp only
    split
    · exact hsame
    cases requestedExtension req.text with
    | error e => exact hsame
    | ok requested =>
    cases requested with
    | none => exact hfailure
    | some extension =>
    dsimp only
    cases parseUnsigned 32 extension with
    | none => exact hfailure
    | some extNum =>
    dsimp only
    split
    · exact hfailure
    split
    · exact hfailure
    cases extractHeaderValue req.text "Authorization".toList with
    | error e => exact hsame
    | ok value =>
    cases value with
    | none => exact ⟨rfl, rfl⟩
    | some authValue =>
    dsimp only
    cases parseAuthorization authValue with
    | none => exact ⟨rfl, rfl⟩
    | some params =>
      have hnonce := validateNonce_guard s params.nonce req.fromAddr.ip (params.nc.bind (parseHex 64))
        params.qop req.now
      change SameGuard (s.authenticate cfg md5 req extension params).2
        (s.callGuard cfg (s.authenticateCall cfg md5 req extension params))
      unfold authenticate authenticateCall
      split
      · exact hsame.recordFailure req.now req.fromAddr.ip
      dsimp only
      split
      · exact hnonce.recordFailure req.now req.fromAddr.ip
      split
      · exact hnonce.recordFailure req.now req.fromAddr.ip
      · have hupdate := updateRegistration_guard ((s.validateNonce params.nonce req.fromAddr.ip
          (params.nc.bind (parseHex 64)) params.qop req.now).2.clearFailures req.fromAddr.ip) req extension
        refine ⟨hupdate.1.trans ?_, hupdate.2.trans hnonce.2⟩
        exact congrArg (AList.erase req.fromAddr.ip) hnonce.1

/-! ## One failure -/

/-- The table of failures with room for one more. -/
def failedRoom (cfg : RegistrarConfig) (now : Nat) (s : RegistrarService) : Table IpAddr FailedIpEntry :=
  s.failedIps.makeRoom cfg.ipBlock.maxFailedIps
    fun _ e => decide (now - e.windowStart < cfg.ipBlock.windowSecs)

/-- The counters are below the bound. -/
def CountsBelow (cfg : RegistrarConfig) (s : RegistrarService) : Prop :=
  ∀ ip e, s.failedIps.lookup ip = some e → e.count < cfg.ipBlock.maxFailures

/-- **`record_failure`**: the counter is hit, and at the bound the address is blocked, if there is room. -/
theorem recordFailure_cases (hon : cfg.ipBlock.enabled = true) (now : Nat) (ip : IpAddr)
    {s : RegistrarService} (hbelow : s.CountsBelow cfg) :
    ∃ e : FailedIpEntry, e.counter = WindowCount.hit cfg.ipBlock.windowSecs now
        (((s.failedRoom cfg now).lookup ip).map FailedIpEntry.counter) ∧
      ((e.count < cfg.ipBlock.maxFailures ∧
          (s.recordFailure cfg now ip).2 = { s with failedIps := (s.failedRoom cfg now).insert ip e }) ∨
        (cfg.ipBlock.maxFailures ≤ e.count ∧ cfg.ipBlock.maxBlockedIps ≤ s.blockedIps.card ∧
          (s.recordFailure cfg now ip).2 = { s with failedIps := (s.failedRoom cfg now).erase ip }) ∨
        (cfg.ipBlock.maxFailures ≤ e.count ∧ s.blockedIps.card < cfg.ipBlock.maxBlockedIps ∧
          (s.recordFailure cfg now ip).2 = { s with
            failedIps := (s.failedRoom cfg now).erase ip
            blockedIps := insert ip s.blockedIps })) := by
  have hnext : ∃ e : FailedIpEntry, e.counter = WindowCount.hit cfg.ipBlock.windowSecs now
        (((s.failedRoom cfg now).lookup ip).map FailedIpEntry.counter) ∧
      (let entry := ((s.failedRoom cfg now).lookup ip).getD ⟨0, now⟩
      let entry := if cfg.ipBlock.windowSecs ≤ now - entry.windowStart then ⟨0, now⟩ else entry
      { entry with count := entry.count + 1 }) = e := by
    refine ⟨_, ?_, rfl⟩
    cases hl : (s.failedRoom cfg now).lookup ip with
    | none =>
      dsimp only [Option.getD_none, Option.map_none]
      split <;> rfl
    | some e =>
      dsimp only [Option.getD_some, Option.map_some]
      split
      · rename_i hbehind
        rw [WindowCount.hit_behind hbehind]
        rfl
      · rename_i hwithin
        rw [WindowCount.hit_within hwithin]
        have hlt := UInt32.lt_iff_toNat_lt.mp (hbelow ip e (Table.lookup_of_makeRoom hl))
        have hmax := cfg.ipBlock.maxFailures.toNat_lt
        have hcount : (e.count + 1).toNat = e.count.toNat + 1 := by
          rw [UInt32.toNat_add]
          exact Nat.mod_eq_of_lt (by simp; omega)
        exact congrArg (fun n => (⟨n, e.windowStart⟩ : WindowCount)) hcount
  obtain ⟨e, hcounter, he⟩ := hnext
  refine ⟨e, hcounter, ?_⟩
  have hrecord : s.recordFailure cfg now ip =
      if e.count < cfg.ipBlock.maxFailures then
        (false, { s with failedIps := (s.failedRoom cfg now).insert ip e })
      else if cfg.ipBlock.maxBlockedIps ≤ s.blockedIps.card then
        (false, { s with failedIps := (s.failedRoom cfg now).erase ip })
      else
        (true, { s with
          failedIps := (s.failedRoom cfg now).erase ip, blockedIps := insert ip s.blockedIps }) := by
    rw [← he, RegistrarService.recordFailure, if_neg (by simp [hon])]
    rfl
  rw [hrecord]
  split
  · exact .inl ⟨‹_›, rfl⟩
  rename_i hlt
  rw [UInt32.not_lt] at hlt
  split
  · exact .inr (.inl ⟨hlt, ‹_›, rfl⟩)
  · exact .inr (.inr ⟨hlt, by omega, rfl⟩)

/-! ## Every run -/

/-- What the tables know about the calls that were made. -/
structure GuardInv (cfg : RegistrarConfig) (calls : List (WindowCall IpAddr)) (s : RegistrarService) :
    Prop where
  below : s.CountsBelow cfg
  counted : ∀ ip e, s.failedIps.lookup ip = some e →
    WindowCall.Counted cfg.ipBlock.windowSecs calls ip e.counter
  blocked : ∀ ip ∈ s.blockedIps,
    WindowCall.Burst cfg.ipBlock.maxFailures.toNat cfg.ipBlock.windowSecs calls ip

theorem GuardInv.of_same {calls : List (WindowCall IpAddr)} {s s' : RegistrarService}
    (h : s'.GuardInv cfg calls) (hsame : SameGuard s s') : s.GuardInv cfg calls := by
  obtain ⟨hfailed, hblocked⟩ := hsame
  obtain ⟨hbelow, hcounted, hburst⟩ := h
  unfold CountsBelow at hbelow
  rw [← hfailed] at hbelow hcounted
  rw [← hblocked] at hburst
  exact ⟨hbelow, hcounted, hburst⟩

/-- **A call keeps it.** -/
theorem GuardInv.call (hon : cfg.ipBlock.enabled = true) (hwindow : 0 < cfg.ipBlock.windowSecs)
    {calls : List (WindowCall IpAddr)} {s : RegistrarService} (h : s.GuardInv cfg calls)
    (call : WindowCall IpAddr) : (s.callGuard cfg call).GuardInv cfg (calls ++ [call]) := by
  have hother : ∀ ip e, s.failedIps.lookup ip = some e → ip ≠ call.key →
      WindowCall.Counted cfg.ipBlock.windowSecs (calls ++ [call]) ip e.counter :=
    fun ip e hl hne => (h.counted ip e hl).other (Ne.symm hne)
  have hstays : ∀ ip ∈ s.blockedIps, WindowCall.Burst cfg.ipBlock.maxFailures.toNat cfg.ipBlock.windowSecs
      (calls ++ [call]) ip := fun ip hmem => (h.blocked ip hmem).append [call]
  cases call with
  | clear ip =>
    have herase : ∀ k e, (s.failedIps.erase ip).lookup k = some e →
        k ≠ ip ∧ s.failedIps.lookup k = some e := by
      intro k e hl
      rw [Table.lookup_erase_eq] at hl
      split at hl
      · cases hl
      · exact ⟨‹_›, hl⟩
    exact ⟨fun k e hl => h.below k e (herase k e hl).2,
      fun k e hl => hother k e (herase k e hl).2 (herase k e hl).1, hstays⟩
  | hit now ip =>
    have hroom : ∀ k e, (s.failedRoom cfg now).lookup k = some e → s.failedIps.lookup k = some e :=
      fun _ _ hl => Table.lookup_of_makeRoom hl
    have herase : ∀ k e, ((s.failedRoom cfg now).erase ip).lookup k = some e →
        k ≠ ip ∧ s.failedIps.lookup k = some e := by
      intro k e hl
      rw [Table.lookup_erase_eq] at hl
      split at hl
      · cases hl
      · exact ⟨‹_›, hroom k e hl⟩
    obtain ⟨e, hcounter, hcases⟩ := recordFailure_cases hon now ip h.below
    have hcount : WindowCall.Counted cfg.ipBlock.windowSecs (calls ++ [.hit now ip]) ip e.counter := by
      rw [hcounter]
      refine WindowCall.counted_hit hwindow (fun c hc => ?_) now
      obtain ⟨e', hl, rfl⟩ := Option.map_eq_some_iff.mp hc
      exact h.counted ip e' (hroom ip e' hl)
    change (s.recordFailure cfg now ip).2.GuardInv cfg _
    rcases hcases with ⟨hlt, hs⟩ | ⟨-, -, hs⟩ | ⟨hle, -, hs⟩
    · rw [hs]
      refine ⟨fun k e' hl => ?_, fun k e' hl => ?_, hstays⟩
      · rcases Table.lookup_insert_eq_some hl with ⟨-, rfl⟩ | ⟨-, hl⟩
        · exact hlt
        · exact h.below k e' (hroom k e' hl)
      · rcases Table.lookup_insert_eq_some hl with ⟨rfl, rfl⟩ | ⟨hne, hl⟩
        · exact hcount
        · exact hother k e' (hroom k e' hl) hne
    · rw [hs]
      exact ⟨fun k e' hl => h.below k e' (herase k e' hl).2,
        fun k e' hl => hother k e' (herase k e' hl).2 (herase k e' hl).1, hstays⟩
    · rw [hs]
      refine ⟨fun k e' hl => h.below k e' (herase k e' hl).2,
        fun k e' hl => hother k e' (herase k e' hl).2 (herase k e' hl).1, fun k hmem => ?_⟩
      rcases Finset.mem_insert.mp hmem with rfl | hmem
      · exact hcount.burst (UInt32.le_iff_toNat_le.mp hle)
      · exact hstays k hmem

/-- An operation keeps it. -/
theorem GuardInv.step (hon : cfg.ipBlock.enabled = true) (hwindow : 0 < cfg.ipBlock.windowSecs)
    {calls : List (WindowCall IpAddr)} {s : RegistrarService} (h : s.GuardInv cfg calls) (op : RegistrarOp) :
    (s.step cfg md5 op).GuardInv cfg (calls ++ (s.guardCall cfg md5 op).toList) := by
  refine GuardInv.of_same ?_ (step_guard s op)
  cases s.guardCall cfg md5 op with
  | none =>
    rw [Option.toList_none, List.append_nil]
    exact h
  | some call => exact h.call hon hwindow call

/-- So it holds in every run. -/
theorem GuardInv.run (hon : cfg.ipBlock.enabled = true) (hwindow : 0 < cfg.ipBlock.windowSecs)
    {calls : List (WindowCall IpAddr)} {s : RegistrarService} (h : s.GuardInv cfg calls)
    (ops : List RegistrarOp) :
    (ops.foldl (RegistrarService.step cfg md5) s).GuardInv cfg (calls ++ guardCalls cfg md5 s ops) := by
  induction ops generalizing s calls with
  | nil =>
    rw [guardCalls, List.append_nil]
    exact h
  | cons op ops ih =>
    rw [guardCalls, ← List.append_assoc]
    exact ih (h.step hon hwindow op)

theorem guardInv_empty (cfg : RegistrarConfig) : GuardInv cfg [] {} :=
  ⟨nofun, nofun, nofun⟩

/-! ## The clock -/

/-- The call of `handle_register` is about the address of the request, and comes at its time. -/
theorem registerCall_cases (cfg : RegistrarConfig) (md5 : List UInt8 → Vector UInt8 16) (req : Register)
    (s : RegistrarService) : s.registerCall cfg md5 req = none ∨
      s.registerCall cfg md5 req = some (.hit req.now req.fromAddr.ip) ∨
      s.registerCall cfg md5 req = some (.clear req.fromAddr.ip) := by
  have hauth : ∀ extension params,
      s.authenticateCall cfg md5 req extension params = .hit req.now req.fromAddr.ip ∨
        s.authenticateCall cfg md5 req extension params = .clear req.fromAddr.ip := by
    intro extension params
    unfold authenticateCall
    dsimp only
    split_ifs <;> simp
  unfold registerCall
  dsimp only
  repeat' split
  all_goals first
    | exact .inl rfl
    | exact .inr (.inl rfl)
    | exact .inr ((hauth _ _).imp (congrArg some) (congrArg some))

/-- The failures of an address come at the times of some of the operations, in order. -/
theorem hitsOf_sublist (ip : IpAddr) (ops : List RegistrarOp) (s : RegistrarService) :
    (WindowCall.hitsOf ip (guardCalls cfg md5 s ops)).Sublist (ops.map RegistrarOp.now) := by
  have hnow : ∀ (s : RegistrarService) op t k, s.guardCall cfg md5 op = some (.hit t k) → t = op.now := by
    intro s op t k h
    cases op with
    | cleanup now => cases h
    | failure now ip => cases h; rfl
    | success now ip => cases h
    | register req =>
      change registerCall cfg md5 req s = _ at h
      rcases registerCall_cases cfg md5 req s with hc | hc | hc
      · cases hc.symm.trans h
      · cases hc.symm.trans h
        rfl
      · cases hc.symm.trans h
  induction ops generalizing s with
  | nil => exact List.Sublist.refl _
  | cons op ops ih =>
    rw [guardCalls, WindowCall.hitsOf_append, List.map_cons]
    cases hcall : s.guardCall cfg md5 op with
    | none => exact (ih _).cons _
    | some call =>
      by_cases hkey : call.key = ip
      · cases call with
        | clear k => exact (ih _).cons _
        | hit t k =>
          change k = ip at hkey
          rw [hkey, hnow s op t k hcall, Option.toList_some, WindowCall.hitsOf_hit, List.singleton_append]
          exact (ih _).cons_cons _
      · rw [Option.toList_some, WindowCall.hitsOf_other hkey, List.nil_append]
        exact (ih _).cons _

/-! ## Blocked addresses -/

/-- A blocked address stays blocked. -/
theorem blockedIps_subset (s : RegistrarService) (ops : List RegistrarOp) :
    s.blockedIps ⊆ (ops.foldl (step cfg md5) s).blockedIps := by
  induction ops generalizing s with
  | nil => exact Finset.Subset.refl _
  | cons op ops ih =>
    refine Finset.Subset.trans ?_ (ih (s.step cfg md5 op))
    rw [(step_guard s op).2]
    rcases s.guardCall cfg md5 op with _ | ⟨now, ip⟩ | ip
    · exact Finset.Subset.refl _
    · change s.blockedIps ⊆ (s.recordFailure cfg now ip).2.blockedIps
      unfold RegistrarService.recordFailure
      dsimp only
      split_ifs
      all_goals first
        | exact Finset.Subset.refl _
        | exact Finset.subset_insert _ _
    · exact Finset.Subset.refl _

/-- What a blocked address is answered: 403, and nothing changes. -/
structure Refuses (cfg : RegistrarConfig) (md5 : List UInt8 → Vector UInt8 16) (s : RegistrarService)
    (ip : IpAddr) : Prop where
  register : ∀ req : Register, req.fromAddr.ip = ip → ∃ response,
    s.handleRegister cfg md5 req = (.ok response, s) ∧ extractStatusCode response = some 403
  invite : ∀ (routerConfig : RouterConfig) B (router : Router) id (msg : Incoming) d,
    routerConfig.registrar = cfg → router.registrar = s → msg.fromAddr.ip = ip →
    router.handleInvite routerConfig B id msg d =
      (.done (some (403, buildResponse msg.text 403 "Forbidden".toList (generateTag d.tag))), router)

theorem refuses_of_blocked {s : RegistrarService} {ip : IpAddr} (h : s.isBlocked cfg ip = true) :
    s.Refuses cfg md5 ip where
  register := by
    rintro req rfl
    refine ⟨_, if_pos h, ?_⟩
    rw [buildResponse, extractStatusCode_responseHead (by decide) (by decide)]
  invite := by
    rintro routerConfig B router id msg d rfl rfl rfl
    exact if_pos h

/-- **Blocking is sound and permanent.** A blocked address had as many failures as the bound within a window
of the first of them, and no success between them, whatever the other addresses did. It stays blocked, and
a blocked address gets nowhere. -/
theorem blocking_sound (cfg : RegistrarConfig) (md5 : List UInt8 → Vector UInt8 16) {ops : List RegistrarOp}
    (hclock : (ops.map RegistrarOp.now).Pairwise (· ≤ ·)) (hwindow : 0 < cfg.ipBlock.windowSecs)
    {ip : IpAddr} (h : (run cfg md5 ops).isBlocked cfg ip = true) :
    (∃ before since after t ts, guardCalls cfg md5 {} ops = before ++ since ++ after ∧
      .clear ip ∉ since ∧ WindowCall.hitsOf ip since = t :: ts ∧
      cfg.ipBlock.maxFailures.toNat ≤ (t :: ts).length ∧
      ∀ u ∈ t :: ts, t ≤ u ∧ u < t + cfg.ipBlock.windowSecs) ∧
    ∀ more, (run cfg md5 (ops ++ more)).isBlocked cfg ip = true ∧
      (run cfg md5 (ops ++ more)).Refuses cfg md5 ip := by
  obtain ⟨hon, hmem⟩ : cfg.ipBlock.enabled = true ∧ ip ∈ (run cfg md5 ops).blockedIps := by
    simpa [isBlocked] using h
  constructor
  · obtain ⟨before, since, after, t, ts, hcalls, hclear, hts, hmax, hin⟩ :=
      ((guardInv_empty cfg).run hon hwindow ops).blocked ip hmem
    rw [List.nil_append] at hcalls
    refine ⟨before, since, after, t, ts, hcalls, hclear, hts, hmax, fun u hu => ⟨?_, hin u hu⟩⟩
    -- the failures come in order
    have hsub : (WindowCall.hitsOf ip (guardCalls cfg md5 {} ops)).Sublist _ := hitsOf_sublist ip ops {}
    rw [hcalls, WindowCall.hitsOf_append, WindowCall.hitsOf_append, hts] at hsub
    have hsorted := hclock.sublist
      (((List.sublist_append_right _ _).trans (List.sublist_append_left _ _)).trans hsub)
    rcases List.mem_cons.mp hu with rfl | hu
    · exact Nat.le_refl _
    · exact (List.pairwise_cons.mp hsorted).1 u hu
  · intro more
    have hstays : (run cfg md5 (ops ++ more)).isBlocked cfg ip = true := by
      rw [run_append]
      simpa [isBlocked, hon] using blockedIps_subset _ more hmem
    exact ⟨hstays, refuses_of_blocked hstays⟩

/-! ## Bursts -/

/-- The tables have room. -/
def BelowCaps (cfg : RegistrarConfig) (s : RegistrarService) (_ : RegistrarOp) : Prop :=
  s.failedIps.size < cfg.ipBlock.maxFailedIps ∧ s.blockedIps.card < cfg.ipBlock.maxBlockedIps

instance (s : RegistrarService) (op : RegistrarOp) : Decidable (s.BelowCaps cfg op) :=
  inferInstanceAs (Decidable (_ ∧ _))

/-- A call about another address leaves the entry alone. -/
theorem callGuard_other (hon : cfg.ipBlock.enabled = true) {s : RegistrarService} (hbelow : s.CountsBelow cfg)
    {op : RegistrarOp} (hcaps : s.BelowCaps cfg op) {call : WindowCall IpAddr} {ip : IpAddr}
    (hne : call.key ≠ ip) : (s.callGuard cfg call).failedIps.lookup ip = s.failedIps.lookup ip ∧
      (ip ∈ (s.callGuard cfg call).blockedIps ↔ ip ∈ s.blockedIps) := by
  cases call with
  | clear k => exact ⟨AList.lookup_erase_ne (Ne.symm hne), Iff.rfl⟩
  | hit now k =>
    obtain ⟨e, -, hcases⟩ := recordFailure_cases hon now k hbelow
    unfold failedRoom at hcases
    rw [Table.makeRoom_of_lt hcaps.1] at hcases
    change (s.recordFailure cfg now k).2.failedIps.lookup ip = _ ∧
      (ip ∈ (s.recordFailure cfg now k).2.blockedIps ↔ _)
    rcases hcases with ⟨-, hs⟩ | ⟨-, -, hs⟩ | ⟨-, -, hs⟩
    · rw [hs]
      exact ⟨AList.lookup_insert_ne (Ne.symm hne), Iff.rfl⟩
    · rw [hs]
      exact ⟨AList.lookup_erase_ne (Ne.symm hne), Iff.rfl⟩
    · rw [hs]
      exact ⟨AList.lookup_erase_ne (Ne.symm hne), Finset.mem_insert.trans (or_iff_right (Ne.symm hne))⟩

/-- A failure hits the counter, and at the bound it blocks the address. -/
theorem recordFailure_hit (hon : cfg.ipBlock.enabled = true) {s : RegistrarService} (hbelow : s.CountsBelow cfg)
    {op : RegistrarOp} (hcaps : s.BelowCaps cfg op) (now : Nat) (ip : IpAddr) :
    let c := WindowCount.hit cfg.ipBlock.windowSecs now ((s.failedIps.lookup ip).map FailedIpEntry.counter)
    (cfg.ipBlock.maxFailures.toNat ≤ c.count ∧ ip ∈ (s.recordFailure cfg now ip).2.blockedIps) ∨
    (c.count < cfg.ipBlock.maxFailures.toNat ∧
      ((s.recordFailure cfg now ip).2.failedIps.lookup ip).map FailedIpEntry.counter = some c ∧
      (s.recordFailure cfg now ip).2.blockedIps = s.blockedIps) := by
  intro c
  obtain ⟨e, hcounter, hcases⟩ := recordFailure_cases hon now ip hbelow
  unfold failedRoom at hcounter hcases
  rw [Table.makeRoom_of_lt hcaps.1] at hcounter hcases
  have hcount : e.count.toNat = c.count := congrArg WindowCount.count hcounter
  rcases hcases with ⟨hlt, hs⟩ | ⟨-, hfull, -⟩ | ⟨hle, -, hs⟩
  · refine .inr ⟨?_, ?_, by rw [hs]⟩
    · rw [← hcount]
      exact UInt32.lt_iff_toNat_lt.mp hlt
    · rw [hs, AList.lookup_insert]
      exact congrArg some hcounter
  · exact absurd hcaps.2 (Nat.not_lt.mpr hfull)
  · refine .inl ⟨?_, by rw [hs]; exact Finset.mem_insert_self _ _⟩
    rw [← hcount]
    exact UInt32.le_iff_toNat_le.mp hle

/-- **A burst of failures** blocks an address iff its counter reaches the bound. -/
theorem mem_blockedIps_iff (hon : cfg.ipBlock.enabled = true) (hwindow : 0 < cfg.ipBlock.windowSecs)
    {calls : List (WindowCall IpAddr)} {s : RegistrarService} (hinv : s.GuardInv cfg calls) {ip : IpAddr}
    {burst : List RegistrarOp} (hcaps : Stepwise (step cfg md5) (BelowCaps cfg) s burst)
    (hclear : .clear ip ∉ guardCalls cfg md5 s burst) :
    ip ∈ (burst.foldl (step cfg md5) s).blockedIps ↔ ip ∈ s.blockedIps ∨
      WindowCount.reaches cfg.ipBlock.maxFailures.toNat cfg.ipBlock.windowSecs
        ((s.failedIps.lookup ip).map FailedIpEntry.counter)
        (WindowCall.hitsOf ip (guardCalls cfg md5 s burst)) := by
  induction burst generalizing s calls with
  | nil => simp [guardCalls, WindowCall.hitsOf, WindowCount.reaches]
  | cons op burst ih =>
    rw [guardCalls, List.mem_append, not_or] at hclear
    have hnext := ih (hinv.step hon hwindow op) hcaps.2 hclear.2
    obtain ⟨hfailed, hblocked⟩ : SameGuard (s.step cfg md5 op) _ := step_guard s op
    rw [guardCalls, WindowCall.hitsOf_append, List.foldl_cons]
    cases hcall : s.guardCall cfg md5 op with
    | none =>
      rw [hcall] at hfailed hblocked
      rw [hfailed, hblocked] at hnext
      exact hnext
    | some call =>
      rw [hcall] at hfailed hblocked hclear
      change _ = (s.callGuard cfg call).failedIps at hfailed
      change _ = (s.callGuard cfg call).blockedIps at hblocked
      rw [Option.toList_some]
      by_cases hkey : call.key = ip
      · cases call with
        | clear k => exact absurd (by rw [← hkey]; exact List.mem_singleton_self _) hclear.1
        | hit now k =>
          change k = ip at hkey
          subst hkey
          rw [WindowCall.hitsOf_hit, List.singleton_append, WindowCount.reaches]
          rcases recordFailure_hit hon hinv.below hcaps.1 now k with ⟨hle, hmem⟩ | ⟨hlt, hlookup, hsame⟩
          · -- the bound is reached, and the address stays blocked
            have hstays : _ ⊆ (burst.foldl (step cfg md5) (s.step cfg md5 op)).blockedIps :=
              blockedIps_subset _ burst
            rw [hblocked] at hstays
            exact iff_of_true (hstays hmem) (.inr (.inl hle))
          · rw [or_iff_right (Nat.not_le.mpr hlt), ← hlookup]
            rw [hfailed, hblocked] at hnext
            change _ ↔ k ∈ (s.recordFailure cfg now k).2.blockedIps ∨ _ at hnext
            rw [hsame] at hnext
            exact hnext
      · obtain ⟨hlookup, hmem⟩ := callGuard_other hon hinv.below hcaps.1 hkey
        rw [WindowCall.hitsOf_other hkey, List.nil_append, ← hlookup, ← hmem, ← hfailed, ← hblocked]
        exact hnext

/-- What the counter of an address adds to a burst is enough: it is blocked, or there is no counter, or the
failures in its window bring it to the bound, or those behind its window do by themselves. -/
def Suffices (cfg : RegistrarConfig) (s : RegistrarService) (ip : IpAddr) (times : List Nat) : Prop :=
  ip ∈ s.blockedIps ∨
    match s.failedIps.lookup ip with
    | none => True
    | some e =>
      let windowEnd := e.windowStart + cfg.ipBlock.windowSecs
      cfg.ipBlock.maxFailures.toNat ≤ e.count.toNat + times.countP (fun t => t < windowEnd) ∨
        cfg.ipBlock.maxFailures.toNat ≤ times.countP (fun t => windowEnd ≤ t)

/-- **When a burst of failures blocks.** As many failures as the bound, closer together than a window and
with no success between them, block their address for good iff what its counter adds to them is enough. -/
theorem burst_blocks_iff (cfg : RegistrarConfig) (md5 : List UInt8 → Vector UInt8 16)
    (hon : cfg.ipBlock.enabled = true) {before burst : List RegistrarOp}
    (hclock : (burst.map RegistrarOp.now).Pairwise (· ≤ ·))
    (hcaps : Stepwise (step cfg md5) (BelowCaps cfg) (run cfg md5 before) burst) {ip : IpAddr} {t : Nat}
    {ts : List Nat} (hts : WindowCall.hitsOf ip (guardCalls cfg md5 (run cfg md5 before) burst) = t :: ts)
    (hmany : cfg.ipBlock.maxFailures.toNat ≤ (t :: ts).length)
    (hspan : ∀ u ∈ t :: ts, u < t + cfg.ipBlock.windowSecs)
    (hclear : .clear ip ∉ guardCalls cfg md5 (run cfg md5 before) burst) :
    (∀ after, (run cfg md5 (before ++ burst ++ after)).isBlocked cfg ip = true) ↔
      (run cfg md5 before).Suffices cfg ip (t :: ts) := by
  have hwindow : 0 < cfg.ipBlock.windowSecs := by
    have := hspan t List.mem_cons_self
    omega
  have hinv : (run cfg md5 before).GuardInv cfg _ := (guardInv_empty cfg).run hon hwindow before
  have hsorted : (t :: ts).Pairwise (· ≤ ·) := hts ▸ hclock.sublist (hitsOf_sublist ip burst _)
  have hclose : ∀ u ∈ t :: ts, ∀ v ∈ t :: ts, v < u + cfg.ipBlock.windowSecs := by
    intro u hu v hv
    have hle : t ≤ u := by
      rcases List.mem_cons.mp hu with rfl | hu
      · exact Nat.le_refl _
      · exact (List.pairwise_cons.mp hsorted).1 u hu
    have := hspan v hv
    omega
  have hblocked : (∀ after, (run cfg md5 (before ++ burst ++ after)).isBlocked cfg ip = true) ↔
      ip ∈ (burst.foldl (step cfg md5) (run cfg md5 before)).blockedIps := by
    have hmem : ∀ s : RegistrarService, s.isBlocked cfg ip = true ↔ ip ∈ s.blockedIps := by
      simp [isBlocked, hon]
    simp only [hmem]
    rw [← run_append]
    refine ⟨fun h => by simpa using h [], fun h after => ?_⟩
    rw [run_append]
    exact blockedIps_subset _ after h
  rw [hblocked, mem_blockedIps_iff hon hwindow hinv hcaps hclear, hts, Suffices]
  refine or_congr_right ?_
  cases hl : (run cfg md5 before).failedIps.lookup ip with
  | none =>
    rw [Option.map_none, WindowCount.reaches_none_iff hsorted hclose]
    exact iff_true_intro hmany
  | some e =>
    exact WindowCount.reaches_some_iff hsorted hclose (UInt32.lt_iff_toNat_lt.mp (hinv.below ip e hl))

/-! ## Four failures -/

/-- A registrar that blocks after three failures in 600 seconds. -/
def guardConfig : RegistrarConfig where
  domain := "example.com".toList
  defaultPassword := "pw".toList
  rangeStart := 1000
  rangeEnd := 2000

/-- Failures of one address. -/
def failuresAt (times : List Nat) : List RegistrarOp :=
  times.map fun now => .failure now (.v4 (Vector.replicate 4 9))

/-- Three failures in a row block the address for good. -/
theorem blocking_sound_concrete :
    WindowCall.hitsOf (.v4 (Vector.replicate 4 9)) (guardCalls guardConfig md5Of {} (failuresAt [0, 1, 2])) =
      [0, 1, 2] ∧
    ∀ more, (run guardConfig md5Of (failuresAt [0, 1, 2] ++ more)).isBlocked guardConfig
      (.v4 (Vector.replicate 4 9)) = true :=
  ⟨by decide, fun more => ((blocking_sound guardConfig md5Of (by decide) (by decide) (by decide)).2 more).1⟩

/-- So do three behind the window of one that was before. -/
theorem burst_blocks_concrete :
    (run guardConfig md5Of (failuresAt [0])).failedIps.size = 1 ∧
    ∀ after, (run guardConfig md5Of (failuresAt [0] ++ failuresAt [600, 601, 602] ++ after)).isBlocked guardConfig
      (.v4 (Vector.replicate 4 9)) = true := by
  have hts : WindowCall.hitsOf (.v4 (Vector.replicate 4 9))
      (guardCalls guardConfig md5Of (run guardConfig md5Of (failuresAt [0])) (failuresAt [600, 601, 602])) =
        [600, 601, 602] := by decide
  refine ⟨by decide, (burst_blocks_iff guardConfig md5Of rfl (by decide) (by decide) hts (by decide) (by decide)
    (by decide)).mpr (.inr ?_)⟩
  exact .inr (by decide)

/-- **Three failures within two seconds** do not block the address, when the first of them is the last in
the window of one that was before. -/
theorem four_failures_pass :
    ((failuresAt [0] ++ failuresAt [599, 600, 601]).map RegistrarOp.now).Pairwise (· ≤ ·) ∧
    Stepwise (step guardConfig md5Of) (BelowCaps guardConfig) {} (failuresAt [0] ++ failuresAt [599, 600, 601]) ∧
    WindowCall.hitsOf (.v4 (Vector.replicate 4 9)) (guardCalls guardConfig md5Of
      (run guardConfig md5Of (failuresAt [0])) (failuresAt [599, 600, 601])) = [599, 600, 601] ∧
    .clear (.v4 (Vector.replicate 4 9)) ∉ guardCalls guardConfig md5Of
      (run guardConfig md5Of (failuresAt [0])) (failuresAt [599, 600, 601]) ∧
    (run guardConfig md5Of (failuresAt [0] ++ failuresAt [599, 600, 601])).isBlocked guardConfig
      (.v4 (Vector.replicate 4 9)) = false := by
  decide

end RegistrarService

end Minghe.Sip
