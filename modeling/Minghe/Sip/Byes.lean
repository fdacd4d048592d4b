import Minghe.Sip.Entries

/-!
# The direction of a BYE

`handle_bye` sends a BYE on to the other party of its call. It is to tell the sender by the tag of the
dialog, and by the extension of the connection only where the tag is of neither party. But it asks first
whether either of the two names the caller, and whether either names the callee, so that a BYE with the
caller's tag goes back to the caller when its connection has the callee's extension: an extension that calls
itself from another device, for one.

* `SendsBye`: where a BYE is sent.
* `ByeLaw`: what is expected of it.
* `bye_law_iff`: a BYE of one of the parties goes to the other one and ends the call iff the lock is not
  poisoned and its tag and its connection do not name different parties.
-/

namespace Minghe.Sip

open Minghe.Lib
open Minghe.Media.Relay (MediaRelayManager)
open Minghe.Media.Srtp (Base64)

/-! ## What is read -/

/-- A header whose names are in ASCII is read without a panic. -/
theorem valueFromLines_ok {names : List Str} (h : ∀ p ∈ names, Plain p) : ∀ ls : List Str,
    ∃ value, valueFromLines names ls = .ok value
  | [] => ⟨none, rfl⟩
  | line :: ls => by
    rw [valueFromLines, afterName_eq h]
    cases headField names (trim line) with
    | none => exact valueFromLines_ok h ls
    | some value => exact ⟨some (trim value), rfl⟩

/-- A parameter that is read is not empty. -/
theorem ne_nil_of_paramFromLines {names : List Str} {key value : Str} : ∀ {ls : List Str},
    paramFromLines names key ls = .ok (some value) → value ≠ []
  | [], h => by cases h
  | line :: ls, h => by
    unfold paramFromLines at h
    dsimp only at h
    split at h
    · split at h
      · exact ne_nil_of_paramFromLines h
      · obtain ⟨after, -, h⟩ := Res.bind_eq_ok.mp h
        split at h
        · exact ne_nil_of_paramFromLines h
        · rename_i hne
          cases h
          simpa using hne
    · exact ne_nil_of_paramFromLines h

namespace Router

/-- What `handle_bye` reads for its log is read without a panic. -/
theorem byeHeaders_ok (text : Str) : byeHeaders text = .ok () := by
  have hread : ∀ name ∈ ["Reason", "User-Agent", "Server", "Session-Expires", "x"],
      ∃ value, extractHeaderValue text name.toList = .ok value := by
    intro name hname
    refine valueFromLines_ok ?_ (lines text)
    simp only [List.mem_cons, List.not_mem_nil, or_false] at hname
    rcases hname with rfl | rfl | rfl | rfl | rfl <;> decide
  obtain ⟨reason, hreason⟩ := hread "Reason" (by simp)
  obtain ⟨agent, hagent⟩ := hread "User-Agent" (by simp)
  obtain ⟨server, hserver⟩ := hread "Server" (by simp)
  obtain ⟨expires, hexpires⟩ := hread "Session-Expires" (by simp)
  obtain ⟨compact, hcompact⟩ := hread "x" (by simp)
  unfold byeHeaders
  rw [hreason, hagent, hserver, hexpires, hcompact]
  cases agent <;> cases expires <;> rfl

section

variable (cfg : RouterConfig) (s : Router) (msg : Incoming) (d : Draw) (callId : Str)

/-- The BYE is sent to this sink, for this target. -/
def SendsBye (sink : Option ConnectionSink) (targetUri : Str) : Prop :=
  ∃ sink' out, sink = some sink' ∧ relayed cfg msg targetUri sink' d = .ok out ∧
    (s.handleBye cfg msg d).1 = .bye callId out

/-- The connection is authenticated as this extension. -/
def ConnectedAs (ext : Str) : Prop := ext ≠ [] ∧ msg.connectionExt = some ext

/-- Both parties are on one connection, and the BYE that is sent there is the same for both. -/
def SameBye (c : CallInfo) : Prop :=
  c.calleeSink = some c.callerSink ∧ relayed cfg msg (calleeTarget cfg c d.now s) c.callerSink d =
    relayed cfg msg (callerTarget cfg c d.now s) c.callerSink d

/-- **What is expected of a BYE** for the call `c`, with the tag `fromTag` or none. -/
structure ByeLaw (c : CallInfo) (fromTag : Option Str) : Prop where
  /-- With the caller's tag it goes to the callee. -/
  fromCaller : fromTag = some c.callerTag →
    SendsBye cfg s msg d callId c.calleeSink (calleeTarget cfg c d.now s)
  /-- With the callee's tag it goes to the caller. -/
  fromCallee : fromTag.isSome = true → fromTag = c.calleeTag →
    SendsBye cfg s msg d callId (some c.callerSink) (callerTarget cfg c d.now s)
  /-- With the tag of neither, the extension of the connection decides. -/
  byExtension : fromTag ≠ some c.callerTag → (fromTag.isSome = true → fromTag ≠ c.calleeTag) →
    (ConnectedAs msg c.callerExt → c.callerExt ≠ c.calleeExt →
      SendsBye cfg s msg d callId c.calleeSink (calleeTarget cfg c d.now s)) ∧
    (ConnectedAs msg c.calleeExt → c.callerExt ≠ c.calleeExt →
      SendsBye cfg s msg d callId (some c.callerSink) (callerTarget cfg c d.now s)) ∧
    (ConnectedAs msg c.callerExt → c.callerExt = c.calleeExt →
      SendsBye cfg s msg d callId c.calleeSink (calleeTarget cfg c d.now s) ∨
      SendsBye cfg s msg d callId (some c.callerSink) (callerTarget cfg c d.now s)) ∧
    (¬ ConnectedAs msg c.callerExt → ¬ ConnectedAs msg c.calleeExt →
      (s.handleBye cfg msg d).1 = .done (noCall msg d))

end

variable {cfg : RouterConfig} {s : Router} {msg : Incoming} {d : Draw} {callId : Str} {c : CallInfo}
  {fromTag : Option Str}

/-- What is compared where a missing text counts as an empty one, and an empty one as none. -/
theorem getD_nil_eq {o : Option Str} {x : Str} :
    (o.getD [] ≠ [] ∧ o.getD [] = x) ↔ x ≠ [] ∧ o = some x := by
  cases o with
  | none => exact ⟨fun h => absurd rfl h.1, fun h => absurd h.2 nofun⟩
  | some y =>
    rw [Option.getD_some, Option.some_inj]
    exact ⟨fun h => ⟨h.2 ▸ h.1, h.2⟩, fun h => ⟨h.2 ▸ h.1, h.2⟩⟩

/-- A party is matched by the tag, or by the extension. -/
theorem byeFromCaller_iff (msg : Incoming) (hne : ∀ tag, fromTag = some tag → tag ≠ []) :
    byeFromCaller (fromTag.getD []) (msg.connectionExt.getD []) c = true ↔
      fromTag = some c.callerTag ∨ ConnectedAs msg c.callerExt := by
  unfold byeFromCaller ConnectedAs
  rw [Bool.or_eq_true, Bool.and_eq_true, Bool.and_eq_true, Bool.not_eq_true', Bool.not_eq_true',
    List.isEmpty_eq_false_iff, List.isEmpty_eq_false_iff, decide_eq_true_eq, decide_eq_true_eq, getD_nil_eq,
    getD_nil_eq]
  exact or_congr_left ⟨fun h => h.2, fun h => ⟨hne _ h, h⟩⟩

theorem byeFromCallee_iff (msg : Incoming) (hne : ∀ tag, fromTag = some tag → tag ≠ []) :
    byeFromCallee (fromTag.getD []) (msg.connectionExt.getD []) c = true ↔
      (fromTag.isSome = true ∧ fromTag = c.calleeTag) ∨ ConnectedAs msg c.calleeExt := by
  unfold byeFromCallee ConnectedAs
  rw [Bool.or_eq_true, Bool.and_eq_true, Bool.and_eq_true, Bool.not_eq_true', Bool.not_eq_true',
    List.isEmpty_eq_false_iff, List.isEmpty_eq_false_iff, decide_eq_true_eq, decide_eq_true_eq, getD_nil_eq]
  refine or_congr_left ?_
  cases fromTag with
  | none => exact ⟨fun h => absurd rfl h.1, fun h => absurd h.1 nofun⟩
  | some tag => exact ⟨fun h => ⟨rfl, h.2.symm⟩, fun h => ⟨hne tag rfl, h.2.symm⟩⟩

/-- `handle_bye` for a call that is there. -/
theorem handleBye_found (cfg : RouterConfig) (d : Draw) (hid : extractCallId msg.text = .ok (some callId))
    (htag : extractFromTag msg.text = .ok fromTag) (hp : s.poisoned = false)
    (hfound : s.activeCalls.lookup callId = some c) {callerSide calleeSide : Bool}
    (hcaller : byeFromCaller (fromTag.getD []) (msg.connectionExt.getD []) c = callerSide)
    (hcallee : byeFromCallee (fromTag.getD []) (msg.connectionExt.getD []) c = calleeSide) :
    s.handleBye cfg msg d =
      if !callerSide && !calleeSide then (.done (noCall msg d), s)
      else
        let (otherSink, targetUri) :=
          if callerSide && !calleeSide then (c.calleeSink, calleeTarget cfg c d.now s)
          else (some c.callerSink, callerTarget cfg c d.now s)
        match otherSink with
        | none => cleanupThen callId (reply msg d 200 "OK") s
        | some sink =>
          match relayed cfg msg targetUri sink d with
          | .error _ => (.panicked, s)
          | .ok out => (.bye callId out, s) := by
  subst hcaller hcallee
  unfold handleBye
  rw [hid]
  dsimp only
  rw [htag]
  dsimp only
  rw [if_neg (by simp [hp]), hfound]
  dsimp only
  rewrite [byeHeaders_ok]
  rfl

/-- **Where a BYE goes**, by the parties that it matches. -/
theorem handleBye_of_side (cfg : RouterConfig) (d : Draw) (hid : extractCallId msg.text = .ok (some callId))
    (htag : extractFromTag msg.text = .ok fromTag) (hp : s.poisoned = false)
    (hfound : s.activeCalls.lookup callId = some c) :
    let callerSide := byeFromCaller (fromTag.getD []) (msg.connectionExt.getD []) c
    let calleeSide := byeFromCallee (fromTag.getD []) (msg.connectionExt.getD []) c
    (callerSide = false → calleeSide = false → (s.handleBye cfg msg d).1 = .done (noCall msg d)) ∧
    (callerSide = true → calleeSide = false → c.calleeSink.isSome = true →
      SendsBye cfg s msg d callId c.calleeSink (calleeTarget cfg c d.now s)) ∧
    (calleeSide = true → SendsBye cfg s msg d callId (some c.callerSink) (callerTarget cfg c d.now s)) := by
  intro callerSide calleeSide
  refine ⟨fun hcaller hcallee => ?_, fun hcaller hcallee hsome => ?_, fun hcallee => ?_⟩
  · rw [handleBye_found cfg d hid htag hp hfound hcaller hcallee]
    simp only [Bool.not_false, Bool.and_self, if_true]
  · obtain ⟨sink, hsink⟩ := Option.isSome_iff_exists.mp hsome
    obtain ⟨text, hout⟩ := relayed_ok cfg msg (calleeTarget cfg c d.now s) sink d
    refine ⟨sink, _, hsink, hout, ?_⟩
    rw [handleBye_found cfg d hid htag hp hfound hcaller hcallee]
    simp only [Bool.not_true, Bool.false_and, Bool.false_eq_true, if_false, Bool.not_false, Bool.and_self,
      if_true, hsink, hout]
  · obtain ⟨text, hout⟩ := relayed_ok cfg msg (callerTarget cfg c d.now s) c.callerSink d
    refine ⟨c.callerSink, _, rfl, hout, ?_⟩
    rw [handleBye_found cfg d hid htag hp hfound rfl hcallee]
    simp only [Bool.not_true, Bool.and_false, Bool.false_eq_true, if_false, hout]

theorem handleBye_poisoned (cfg : RouterConfig) (d : Draw) (hid : extractCallId msg.text = .ok (some callId))
    (htag : extractFromTag msg.text = .ok fromTag) (hp : s.poisoned = true) :
    (s.handleBye cfg msg d).1 = .panicked := by
  unfold handleBye
  rw [hid]
  dsimp only
  rw [htag]
  dsimp only
  rw [if_pos hp]

/-- **When a BYE goes to the other party.** It does iff the lock of the table is not poisoned, and no BYE
with the caller's tag comes on a connection that has the callee's extension; or the BYE is the same for both. -/
theorem bye_law_iff (cfg : RouterConfig) (B : Base64) (media : MediaRelayManager) (events : List RouterEvent)
    {msg : Incoming} (d : Draw) {callId : Str} {c : CallInfo} {fromTag : Option Str}
    (hfound : (run cfg B media events).activeCalls.lookup callId = some c)
    (hid : extractCallId msg.text = .ok (some callId)) (htag : extractFromTag msg.text = .ok fromTag)
    (hdiffer : c.calleeTag ≠ some c.callerTag) :
    ByeLaw cfg (run cfg B media events) msg d callId c fromTag ↔
      (run cfg B media events).poisoned = false ∧
        (fromTag = some c.callerTag → ConnectedAs msg c.calleeExt →
          SameBye cfg (run cfg B media events) msg d c) := by
  obtain ⟨sink, hsink⟩ := run_calleeSink hfound
  generalize run cfg B media events = s at hfound
  have hne : ∀ tag, fromTag = some tag → tag ≠ [] := by
    rintro tag rfl
    exact ne_nil_of_paramFromLines htag
  have hcaller := byeFromCaller_iff (c := c) msg hne
  have hcallee := byeFromCallee_iff (c := c) msg hne
  have hone : fromTag = some c.callerTag → ¬ (fromTag.isSome = true ∧ fromTag = c.calleeTag) := by
    rintro rfl ⟨-, he⟩
    exact hdiffer he.symm
  constructor
  · intro h
    have hp : s.poisoned = false := by
      by_contra hp
      have hpanicked := handleBye_poisoned cfg d hid htag (by simpa using hp)
      have hsends : ∀ sink targetUri, ¬ SendsBye cfg s msg d callId sink targetUri := by
        rintro _ _ ⟨_, _, -, -, hpc⟩
        rw [hpanicked] at hpc
        cases hpc
      obtain ⟨hfirst, hsecond, hboth, hnone⟩ := h.byExtension (fun he => hsends _ _ (h.fromCaller he))
        fun hsome he => hsends _ _ (h.fromCallee hsome he)
      by_cases heq : c.callerExt = c.calleeExt
      · by_cases hext : ConnectedAs msg c.callerExt
        · exact (hboth hext heq).elim (hsends _ _) (hsends _ _)
        · cases hpanicked.symm.trans (hnone hext (heq ▸ hext))
      · by_cases hext : ConnectedAs msg c.callerExt
        · exact hsends _ _ (hfirst hext heq)
        by_cases hext' : ConnectedAs msg c.calleeExt
        · exact hsends _ _ (hsecond hext' heq)
        · cases hpanicked.symm.trans (hnone hext hext')
    refine ⟨hp, fun hfrom hext => ?_⟩
    -- it is sent to the caller, and was to be sent to the callee
    obtain ⟨-, -, hback⟩ := handleBye_of_side cfg d hid htag hp hfound
    obtain ⟨sink₁, out₁, hsink₁, hout₁, hpc₁⟩ := hback (hcallee.mpr (.inr hext))
    obtain ⟨sink₂, out₂, hsink₂, hout₂, hpc₂⟩ := h.fromCaller hfrom
    cases hsink₁
    cases hpc₁.symm.trans hpc₂
    obtain ⟨text₁, htext₁⟩ := relayed_ok cfg msg (callerTarget cfg c d.now s) c.callerSink d
    obtain ⟨text₂, htext₂⟩ := relayed_ok cfg msg (calleeTarget cfg c d.now s) sink₂ d
    cases htext₁.symm.trans hout₁
    cases htext₂.symm.trans hout₂
    exact ⟨hsink₂, hout₂.trans hout₁.symm⟩
  · rintro ⟨hp, hsame⟩
    obtain ⟨hrefused, hforth, hback⟩ := handleBye_of_side cfg d hid htag hp hfound
    have hsome : c.calleeSink.isSome = true := by
      rw [hsink]
      rfl
    have hforth := fun h h' => hforth h h' hsome
    simp only [← Bool.not_eq_true, hcaller, hcallee, not_or] at hrefused hforth hback
    refine ⟨fun hfrom => ?_, fun hsome he => hback (.inl ⟨hsome, he⟩), fun hnot hnot' => ⟨?_, ?_, ?_, ?_⟩⟩
    · by_cases hext : ConnectedAs msg c.calleeExt
      · obtain ⟨hone, hboth⟩ := hsame hfrom hext
        obtain ⟨_, out, ⟨⟩, hout, hpc⟩ := hback (.inr hext)
        exact ⟨c.callerSink, out, hone, hboth.trans hout, hpc⟩
      · exact hforth (.inl hfrom) ⟨hone hfrom, hext⟩
    · intro hext heq
      refine hforth (.inr hext) ⟨fun h => hnot' h.1 h.2, fun hext' => heq ?_⟩
      exact Option.some_inj.mp (hext.2.symm.trans hext'.2)
    · exact fun hext _ => hback (.inr hext)
    · exact fun hext heq => .inr (hback (.inr (heq ▸ hext)))
    · exact fun hext hext' => hrefused ⟨hnot, hext⟩ ⟨fun h => hnot' h.1 h.2, hext'⟩

/-! ## Two phones -/

/-- A BYE with the tag of 1001, on the connection of an extension. -/
def phoneBye (connection : String) : Incoming where
  text := phoneText "BYE sip:1002@example.com SIP/2.0" ["To: <sip:1002@example.com>", "CSeq: 2 BYE"] []
  sink := .stream 1
  fromAddr := phoneAddr 1
  connectionExt := some connection.toList

theorem phoneBye_reads (connection : String) :
    extractCallId (phoneBye connection).text = .ok (some "c".toList) ∧
      extractFromTag (phoneBye connection).text = .ok (some "a".toList) ∧
      (phoneCalled.activeCalls.lookup "c".toList).map (fun c => (c.callerTag, c.calleeTag, c.calleeExt)) =
        some ("a".toList, none, "1002".toList) := by
  change extractCallId (phoneBye "").text = _ ∧ extractFromTag (phoneBye "").text = _ ∧ _
  decide +kernel

/-- 1001 hangs up. -/
theorem bye_law_concrete : ∃ c, (run phoneConfig .standard (.new 20000 20100 "192.0.2.1".toList)
      phoneCalls).activeCalls.lookup "c".toList = some c ∧
    ByeLaw phoneConfig (run phoneConfig .standard (.new 20000 20100 "192.0.2.1".toList) phoneCalls)
      (phoneBye "1001") phoneDraw "c".toList c (some "a".toList) := by
  obtain ⟨hid, htag, hcall⟩ := phoneBye_reads "1001"
  rw [← phoneCalls_eq] at hcall
  obtain ⟨c, hfound, hfields⟩ := Option.map_eq_some_iff.mp hcall
  obtain ⟨hcallerTag, hcalleeTag, hcalleeExt⟩ : c.callerTag = "a".toList ∧ c.calleeTag = none ∧
      c.calleeExt = "1002".toList := by simpa using hfields
  have hdiffer : c.calleeTag ≠ some c.callerTag := by
    rw [hcalleeTag]
    nofun
  refine ⟨c, hfound, (bye_law_iff _ _ _ _ phoneDraw hfound hid htag hdiffer).mpr ⟨?_, ?_⟩⟩
  · rw [phoneCalls_eq]
    decide +kernel
  · rintro - ⟨-, hext⟩
    rw [hcalleeExt] at hext
    exact absurd hext (by decide +kernel)

/-- The connection that a request goes to. -/
def requestSink : Outgoing → Option ConnectionSink
  | .request sink _ => some sink
  | .answer .. => none

/-- The BYE comes on the connection of 1002, and goes back to 1001. -/
theorem bye_returned : ∃ c, (run phoneConfig .standard (.new 20000 20100 "192.0.2.1".toList)
      phoneCalls).activeCalls.lookup "c".toList = some c ∧
    extractCallId (phoneBye "1002").text = .ok (some "c".toList) ∧
    extractFromTag (phoneBye "1002").text = .ok (some "a".toList) ∧ c.calleeTag ≠ some c.callerTag ∧
    ¬ ByeLaw phoneConfig (run phoneConfig .standard (.new 20000 20100 "192.0.2.1".toList) phoneCalls)
      (phoneBye "1002") phoneDraw "c".toList c (some "a".toList) := by
  obtain ⟨hid, htag, hcall⟩ := phoneBye_reads "1002"
  rw [phoneCalls_eq]
  obtain ⟨c, hfound, hfields⟩ := Option.map_eq_some_iff.mp hcall
  obtain ⟨hcallerTag, hcalleeTag, -⟩ : c.callerTag = "a".toList ∧ c.calleeTag = none ∧
      c.calleeExt = "1002".toList := by simpa using hfields
  refine ⟨c, hfound, hid, htag, by rw [hcalleeTag]; nofun, fun h => ?_⟩
  have hsinks : (phoneCalled.activeCalls.lookup "c".toList).map (fun c => c.calleeSink) =
        some (some (.stream 2)) ∧
      (phoneCalled.handleBye phoneConfig (phoneBye "1002") phoneDraw).1.sending.bind requestSink =
        some (.stream 1) := by decide +kernel
  obtain ⟨hsink, hsent⟩ := hsinks
  obtain ⟨sink, out, hcallee, hout, hpc⟩ := h.fromCaller (congrArg some hcallerTag.symm)
  obtain ⟨text, htext⟩ := relayed_ok phoneConfig (phoneBye "1002")
    (calleeTarget phoneConfig c phoneDraw.now phoneCalled) sink phoneDraw
  cases htext.symm.trans hout
  rw [hpc] at hsent
  rw [hfound, Option.map_some, hcallee] at hsink
  cases hsent
  cases hsink

end Router

end Minghe.Sip
