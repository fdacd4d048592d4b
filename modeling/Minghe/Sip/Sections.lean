import Minghe.Sip.Entries

/-!
# The lock sections of a response

A finer model of `handle_callee_response` (`router.rs`). Executions of it overlap not only at their sends:
each lock section of one may come between two of another.

* `ResponsePc`: the places of an execution between its lock sections. `next` runs one section, or a send.
* `alone`: sections of one execution that nothing comes between.
* `alone_eq`, `alone_behind`: an execution that is not interrupted between its sections is the one of
  `Router.step`.
* `sameAnswer_next`: a section leaves what the call answers as it is, unless it removes the call.
* `enters_next`: `start_media_relay` is entered when the flag has been set that was not.

What the source only logs is not read, so its last look at the table is left out.
-/

namespace Minghe.Sip

open Minghe.Lib
open Minghe.Media.Srtp (Base64 SuiteKeys)

/-- The variables of `handle_callee_response` behind its first lock section, most of them cloned from the
entry. `invite` is not in the source. -/
structure ResponseVars where
  callId : Str
  statusCode : Nat
  callerSink : ConnectionSink
  callerRelayPort : UInt16
  originalInvite : Str
  calleeExt : Str
  invite : Nat
  deriving DecidableEq, Repr

/-- The place of an execution of `handle_callee_response`. -/
inductive ResponsePc where
  /-- At the start. -/
  | entered
  /-- Before `caller_local_crypto` is read. -/
  | readCrypto (vars : ResponseVars) (body : Str)
  /-- Before `caller_remote_crypto_tag` is read. -/
  | readTag (vars : ResponseVars) (body : Str) (callerCrypto : SuiteKeys)
  /-- At the send of a refusal. -/
  | reject (callId : Str) (out : Outgoing)
  /-- At the send of the response. -/
  | forward (callId : Str) (statusCode : Nat) (out : Outgoing)
  /-- Before `cleanup_call`. -/
  | cleanup (callId : Str)
  /-- Before `relay_started` is tested and set. -/
  | testAndSet (callId : Str)
  /-- At the entry of `start_media_relay`. -/
  | startRelay (callId : Str)
  | done
  | panicked
  deriving DecidableEq, Repr

namespace ResponsePc

/-- The same place in `Router.step`, if that has it. -/
def toPc : ResponsePc → Option Pc
  | .reject callId out => some (.reject callId out)
  | .forward callId statusCode out => some (.forward callId statusCode out)
  | .done => some (.done none)
  | .panicked => some .panicked
  | .entered | .readCrypto .. | .readTag .. | .cleanup _ | .testAndSet _ | .startRelay _ => none

/-- The call that is handled here, once its entry was found. -/
def callId : ResponsePc → Option Str
  | .readCrypto vars _ | .readTag vars _ _ => some vars.callId
  | .reject callId _ | .forward callId _ _ | .cleanup callId | .testAndSet callId | .startRelay callId =>
    some callId
  | .entered | .done | .panicked => none

/-- The response that is handed to the sink of the caller here, and its call. -/
def forwards : ResponsePc → Option (Str × Outgoing)
  | .forward callId _ out => some (callId, out)
  | _ => none

/-- The call for which `start_media_relay` is entered here. -/
def enters : ResponsePc → Option Str
  | .startRelay callId => some callId
  | _ => none

end ResponsePc

namespace Router

section

variable (cfg : RouterConfig) (B : Base64)

/-- What the first lock section clones. -/
def responseVars (callId : Str) (statusCode : Nat) (c : CallInfo) : ResponseVars :=
  ⟨callId, statusCode, c.callerSink, c.callerRelayPort, c.originalInvite, c.calleeExt, c.invite⟩

/-- A refusal to the caller. -/
def refuse (vars : ResponseVars) (code : Nat) (reason : String) (d : Draw) : ResponsePc :=
  .reject vars.callId (.answer vars.invite code vars.callerSink
    (buildResponse vars.originalInvite code reason.toList (generateTag d.tag)) none)

/-- `forwarded_response`. -/
def forwardedWith (vars : ResponseVars) (text : Str) (hasBody : Bool) (sdp : Str) : Outgoing :=
  .answer vars.invite vars.statusCode vars.callerSink
    (buildForwardedInviteResponse vars.originalInvite text vars.statusCode
      (forwardedReason vars.statusCode hasBody text)
      (serverContactUri vars.calleeExt cfg.message.domain vars.callerSink.transport) sdp) (some text)

/-- The SDP for the caller, by the variables. -/
def answerSdp (vars : ResponseVars) (crypto : SuiteKeys) (tag : Nat) (body : Str) : Str :=
  fillMissingRtpmap (ensureAnswerCryptoNotLastLine (rewriteSdpWithCryptos cfg.mediaAddr
    vars.callerRelayPort [⟨tag, crypto.suite.sdpName, crypto.toSdesKey B⟩] body))

/-- Behind the first lock section: a refusal, the first look at the keys, or a response without SDP. -/
def afterUpdate (vars : ResponseVars) (missingRequiredSrtp : Bool) (text : Str) (d : Draw) : ResponsePc :=
  if missingRequiredSrtp then refuse vars 488 "Not Acceptable Here" d
  else
    match extractBody text with
    | .error _ => .panicked
    | .ok none => .forward vars.callId vars.statusCode (forwardedWith cfg vars text false [])
    | .ok (some body) => .readCrypto vars body

/-- The first lock section: the entry is updated, and cloned in part. -/
def updateEntry (msg : Incoming) (d : Draw) (s : Router) : ResponsePc × Router :=
  match extractCallId msg.text with
  | .error _ => (.panicked, s)
  | .ok none => (.done, s)
  | .ok (some callId) =>
    match extractStatusCode msg.text with
    | none => (.done, s)
    | some statusCode =>
      if s.poisoned then (.panicked, s)
      else
        match s.activeCalls.lookup callId with
        | none => (.done, s)
        | some call =>
          let (result, call) := updateCall B statusCode msg.text call
          let s := { s with activeCalls := s.activeCalls.insert callId call }
          match result with
          | .error _ => (.panicked, { s with poisoned := true })
          | .ok () =>
            let missingRequiredSrtp := decide (statusCode = 200) && call.calleeRemoteCrypto.isNone
            (afterUpdate cfg (responseVars callId statusCode call) missingRequiredSrtp msg.text d, s)

/-- The section that tests and sets `relay_started`. -/
def testAndSet (callId : Str) (s : Router) : ResponsePc × Router :=
  match s.activeCalls.lookup callId with
  | none => (.done, s)
  | some c =>
    if !c.relayStarted && c.calleeRemoteCrypto.isSome then
      (.startRelay callId,
        { s with activeCalls := s.activeCalls.insert callId { c with relayStarted := true } })
    else (.done, s)

/-- An execution runs its next lock section, or comes to the end of its send. A section panics when the
lock is poisoned. -/
def next (msg : Incoming) (taken : Bool) (d : Draw) (s : Router) : ResponsePc → ResponsePc × Router
  | .entered => s.updateEntry cfg B msg d
  | .readCrypto vars body =>
    if s.poisoned then (.panicked, s)
    else
      match (s.activeCalls.lookup vars.callId).bind CallInfo.callerLocalCrypto with
      | none => (refuse vars 500 "Internal Server Error" d, s)
      | some crypto => (.readTag vars body crypto, s)
  | .readTag vars body crypto =>
    if s.poisoned then (.panicked, s)
    else
      let tag := ((s.activeCalls.lookup vars.callId).map CallInfo.callerRemoteCryptoTag).getD 1
      (.forward vars.callId vars.statusCode
        (forwardedWith cfg vars msg.text true (answerSdp cfg B vars crypto tag body)), s)
  | .reject callId out => (.cleanup callId, { s with sent := s.sent ++ if taken then [out] else [] })
  | .forward callId statusCode out =>
    (if 400 ≤ statusCode then .cleanup callId
      else if statusCode = 200 then .testAndSet callId else .done,
      { s with sent := s.sent ++ if taken then [out] else [] })
  | .cleanup callId => if s.poisoned then (.panicked, s) else (.done, s.cleanupCall callId)
  | .testAndSet callId => if s.poisoned then (.panicked, s) else s.testAndSet callId
  | .startRelay callId => if s.poisoned then (.panicked, s) else (.done, s.startMediaRelay callId)
  | .done => (.done, s)
  | .panicked => (.panicked, s)

/-- Sections and sends of one execution that nothing comes between. -/
def alone (msg : Incoming) (taken : Bool) (d : Draw) : Nat → ResponsePc × Router → ResponsePc × Router
  | 0, p => p
  | n + 1, p => alone msg taken d n (p.2.next cfg B msg taken d p.1)

end

/-! ## One execution alone -/

variable {cfg : RouterConfig} {B : Base64}

/-- The sections behind the first one. -/
theorem alone_passOn {s : Router} {callId : Str} {c : CallInfo} (hp : s.poisoned = false)
    (hfound : s.activeCalls.lookup callId = some c) (statusCode : Nat) (msg : Incoming) (taken : Bool)
    (d : Draw) :
    ∃ n pc, alone cfg B msg taken d n (afterUpdate cfg (responseVars callId statusCode c)
        (decide (statusCode = 200) && c.calleeRemoteCrypto.isNone) msg.text d, s) = (pc, s) ∧
      pc.toPc = some (passOn cfg B callId statusCode msg d c) := by
  unfold afterUpdate passOn forwardedResponse
  by_cases hmissing : statusCode = 200 ∧ c.calleeRemoteCrypto = none
  · refine ⟨0, _, rfl, ?_⟩
    rw [if_pos (by simpa using hmissing), if_pos hmissing]
    rfl
  rw [if_neg (by simpa using hmissing), if_neg hmissing, extractBody_eq]
  generalize (if (bodyOf msg.text).isEmpty then none else some (bodyOf msg.text)) = body
  cases body with
  | none => exact ⟨0, _, rfl, rfl⟩
  | some body =>
    have hfirst : s.next cfg B msg taken d (.readCrypto (responseVars callId statusCode c) body) =
        (match c.callerLocalCrypto with
        | none => refuse (responseVars callId statusCode c) 500 "Internal Server Error" d
        | some crypto => .readTag (responseVars callId statusCode c) body crypto, s) := by
      unfold next
      dsimp only
      rw [if_neg (by simpa using hp), show s.activeCalls.lookup (responseVars callId statusCode c).callId =
        some c from hfound, Option.bind_some]
      cases c.callerLocalCrypto <;> rfl
    cases hcrypto : c.callerLocalCrypto with
    | none =>
      rw [hcrypto] at hfirst
      exact ⟨1, _, hfirst, rfl⟩
    | some crypto =>
      rw [hcrypto] at hfirst
      have hsecond : s.next cfg B msg taken d
          (.readTag (responseVars callId statusCode c) body crypto) =
          (.forward callId statusCode (forwardedWith cfg (responseVars callId statusCode c) msg.text true
            (callerSdp cfg B crypto body c)), s) := by
        unfold next
        dsimp only
        rw [if_neg (by simpa using hp), show s.activeCalls.lookup
          (responseVars callId statusCode c).callId = some c from hfound]
        rfl
      refine ⟨2, .forward callId statusCode (forwardedWith cfg (responseVars callId statusCode c) msg.text
        true (callerSdp cfg B crypto body c)), ?_, rfl⟩
      change alone cfg B msg taken d 1 (s.next cfg B msg taken d _) = _
      rw [hfirst]
      exact hsecond

/-- **The sections up to the send**, with nothing between them, are a handler up to its send. -/
theorem alone_eq (cfg : RouterConfig) (B : Base64) (msg : Incoming) (taken : Bool) (d : Draw) (s : Router) :
    ∃ n pc, alone cfg B msg taken d n (.entered, s) = (pc, (s.handleCalleeResponse cfg B msg d).2) ∧
      pc.toPc = some (s.handleCalleeResponse cfg B msg d).1 := by
  have hsection : ∀ n, alone cfg B msg taken d (n + 1) (.entered, s) =
      alone cfg B msg taken d n (s.updateEntry cfg B msg d) := fun _ => rfl
  unfold handleCalleeResponse
  unfold updateEntry at hsection
  cases hid : extractCallId msg.text with
  | error e =>
    rw [hid] at hsection
    exact ⟨1, _, hsection 0, rfl⟩
  | ok callId =>
  cases callId with
  | none =>
    rw [hid] at hsection
    exact ⟨1, _, hsection 0, rfl⟩
  | some callId =>
  simp only [hid] at hsection ⊢
  cases hstatus : extractStatusCode msg.text with
  | none =>
    rw [hstatus] at hsection
    exact ⟨1, _, hsection 0, rfl⟩
  | some statusCode =>
  simp only [hstatus] at hsection ⊢
  by_cases hp : s.poisoned = true
  · simp only [if_pos hp] at hsection ⊢
    exact ⟨1, _, hsection 0, rfl⟩
  simp only [if_neg hp] at hsection ⊢
  cases hfound : s.activeCalls.lookup callId with
  | none =>
    rw [hfound] at hsection
    exact ⟨1, _, hsection 0, rfl⟩
  | some c =>
  simp only [hfound] at hsection ⊢
  cases hresult : (updateCall B statusCode msg.text c).1 with
  | error e =>
    simp only [hresult] at hsection ⊢
    exact ⟨1, _, hsection 0, rfl⟩
  | ok _ =>
    simp only [hresult] at hsection ⊢
    obtain ⟨n, pc, hrest, hpc⟩ := alone_passOn (B := B) (s := { s with
      activeCalls := s.activeCalls.insert callId (updateCall B statusCode msg.text c).2 })
      (by simpa using hp) (AList.lookup_insert _) statusCode msg taken d
    exact ⟨n + 1, pc, (hsection n).trans hrest, hpc⟩

/-- **The sections behind the send**, with nothing between them, are a handler behind its send. -/
theorem alone_behind (cfg : RouterConfig) (B : Base64) (msg : Incoming) (taken : Bool) (d : Draw)
    (s : Router) {pc : ResponsePc} {place : Pc} {out : Outgoing} (hpc : pc.toPc = some place)
    (hsending : place.sending = some out) :
    let after := proceed ⟨.response, msg, place⟩ taken d
      { s with sent := s.sent ++ if taken then [out] else [] }
    ∃ n pc', alone cfg B msg taken d n (pc, s) = (pc', after.2) ∧ pc'.toPc = some after.1 := by
  have hcleanup : ∀ (s : Router) callId, ∃ pc', alone cfg B msg taken d 1 (.cleanup callId, s) =
      (pc', (cleanupThen callId none s).2) ∧ pc'.toPc = some (cleanupThen callId none s).1 := by
    intro s callId
    change ∃ pc', (if s.poisoned then (.panicked, s) else (.done, s.cleanupCall callId) :
      ResponsePc × Router) = _ ∧ _
    unfold cleanupThen
    split
    · exact ⟨_, rfl, rfl⟩
    · exact ⟨_, rfl, rfl⟩
  cases pc with
  | reject callId out' =>
    cases hpc
    cases hsending
    obtain ⟨pc', h, h'⟩ := hcleanup { s with sent := s.sent ++ if taken then [out] else [] } callId
    exact ⟨2, pc', h, h'⟩
  | forward callId statusCode out' =>
    cases hpc
    cases hsending
    have hsent : ∀ n, alone cfg B msg taken d (n + 1) (.forward callId statusCode out, s) = alone cfg B msg
        taken d n (if 400 ≤ statusCode then .cleanup callId
          else if statusCode = 200 then .testAndSet callId else .done,
          { s with sent := s.sent ++ if taken then [out] else [] }) := fun _ => rfl
    generalize ({ s with sent := s.sent ++ if taken then [out] else [] } : Router) = s at hsent
    unfold proceed
    dsimp only
    by_cases hfailed : 400 ≤ statusCode
    · rw [if_pos hfailed] at hsent ⊢
      obtain ⟨pc', h, h'⟩ := hcleanup s callId
      exact ⟨2, pc', (hsent 1).trans h, h'⟩
    by_cases hok : statusCode = 200
    · subst hok
      rw [if_neg hfailed, if_pos rfl] at hsent ⊢
      by_cases hp : s.poisoned = true
      · rw [if_pos hp]
        refine ⟨2, .panicked, (hsent 1).trans ?_, rfl⟩
        exact if_pos hp
      rw [if_neg hp]
      have htest : s.next cfg B msg taken d (.testAndSet callId) = s.testAndSet callId := if_neg hp
      unfold startOnce
      unfold testAndSet at htest
      cases hfound : s.activeCalls.lookup callId with
      | none =>
        rw [hfound] at htest
        exact ⟨2, .done, (hsent 1).trans htest, rfl⟩
      | some c =>
        rw [hfound] at htest
        dsimp only at htest ⊢
        split at htest
        · rename_i hstart
          rw [if_pos hstart]
          refine ⟨3, .done, (hsent 2).trans ?_, rfl⟩
          change alone cfg B msg taken d 1 (s.next cfg B msg taken d (.testAndSet callId)) = _
          rw [htest]
          exact if_neg hp
        · rename_i hkept
          rw [if_neg hkept]
          exact ⟨2, .done, (hsent 1).trans htest, rfl⟩
    · rw [if_neg hfailed, if_neg hok] at hsent ⊢
      exact ⟨1, _, hsent 0, rfl⟩
  | done =>
    cases hpc
    cases hsending
  | panicked =>
    cases hpc
    cases hsending
  | _ => cases hpc

/-! ## What a section does -/

/-- The first section finds no entry, or updates one. -/
theorem updateEntry_cases (cfg : RouterConfig) (B : Base64) (msg : Incoming) (d : Draw) (s : Router) :
    (s.updateEntry cfg B msg d).2 = s ∧
      ((s.updateEntry cfg B msg d).1 = .done ∨ (s.updateEntry cfg B msg d).1 = .panicked) ∨
    ∃ callId statusCode c, extractCallId msg.text = .ok (some callId) ∧
      extractStatusCode msg.text = some statusCode ∧ s.activeCalls.lookup callId = some c ∧
      (s.updateEntry cfg B msg d).2.activeCalls =
        s.activeCalls.insert callId (updateCall B statusCode msg.text c).2 ∧
      ((s.updateEntry cfg B msg d).1 = .panicked ∨ (updateCall B statusCode msg.text c).1 = .ok () ∧
        (s.updateEntry cfg B msg d).1 = afterUpdate cfg
          (responseVars callId statusCode (updateCall B statusCode msg.text c).2) (decide (statusCode = 200) &&
            (updateCall B statusCode msg.text c).2.calleeRemoteCrypto.isNone) msg.text d) := by
  unfold updateEntry
  split
  · exact .inl ⟨rfl, .inr rfl⟩
  · exact .inl ⟨rfl, .inl rfl⟩
  rename_i callId hid
  split
  · exact .inl ⟨rfl, .inl rfl⟩
  rename_i statusCode hstatus
  split
  · exact .inl ⟨rfl, .inr rfl⟩
  split
  · exact .inl ⟨rfl, .inl rfl⟩
  rename_i c hfound
  refine .inr ⟨callId, statusCode, c, hid, hstatus, hfound, ?_⟩
  cases hresult : (updateCall B statusCode msg.text c).1 with
  | error e =>
    simp only [hresult]
    exact ⟨trivial, .inl trivial⟩
  | ok _ =>
    simp only [hresult]
    exact ⟨trivial, .inr ⟨trivial, trivial⟩⟩

/-- What the responses to a call leave as it is in its entry: all that is read off it for an answer. A
relay that was started stays so. -/
structure SameAnswer (callId : Str) (c c' : CallInfo) : Prop where
  vars : responseVars callId 200 c' = responseVars callId 200 c
  callerLocalCrypto : c'.callerLocalCrypto = c.callerLocalCrypto
  callerRemoteCryptoTag : c'.callerRemoteCryptoTag = c.callerRemoteCryptoTag
  relayStarted : c.relayStarted = true → c'.relayStarted = true

theorem SameAnswer.refl (callId : Str) (c : CallInfo) : SameAnswer callId c c := ⟨rfl, rfl, rfl, fun h => h⟩

theorem sameAnswer_updateCall (B : Base64) (callId : Str) (statusCode : Nat) (text : Str) (c : CallInfo) :
    SameAnswer callId c (updateCall B statusCode text c).2 := by
  obtain ⟨_, _, _, _, _, he⟩ := updateCall_eq B statusCode text c
  rw [he]
  exact ⟨rfl, rfl, rfl, fun h => h⟩

theorem startMediaRelay_calls (callId : Str) (s : Router) :
    (s.startMediaRelay callId).activeCalls = s.activeCalls := by
  unfold startMediaRelay
  split <;> rfl

/-- A section leaves the entry of a call, unless it removes it. -/
theorem sameAnswer_next (cfg : RouterConfig) (B : Base64) {s : Router} {callId : Str} {c : CallInfo}
    (hfound : s.activeCalls.lookup callId = some c) (msg : Incoming) (taken : Bool) (d : Draw)
    {pc : ResponsePc} (h : pc ≠ .cleanup callId) :
    ∃ c', (s.next cfg B msg taken d pc).2.activeCalls.lookup callId = some c' ∧ SameAnswer callId c c' := by
  have hkept : ∀ {s' : Router}, s'.activeCalls = s.activeCalls →
      ∃ c', s'.activeCalls.lookup callId = some c' ∧ SameAnswer callId c c' := by
    intro s' he
    rw [he]
    exact ⟨c, hfound, .refl callId c⟩
  have hset : ∀ {s' : Router} {callId' : Str} {c₀ c' : CallInfo},
      s.activeCalls.lookup callId' = some c₀ → s'.activeCalls = s.activeCalls.insert callId' c' →
      SameAnswer callId c₀ c' →
      ∃ c', s'.activeCalls.lookup callId = some c' ∧ SameAnswer callId c c' := by
    intro s' callId' c₀ c' hfound' he hsame
    rw [he, Table.lookup_insert_eq]
    split
    · rename_i hid
      subst hid
      cases hfound.symm.trans hfound'
      exact ⟨c', rfl, hsame⟩
    · exact ⟨c, hfound, .refl callId c⟩
  cases pc with
  | entered =>
    change ∃ c', (s.updateEntry cfg B msg d).2.activeCalls.lookup callId = some c' ∧ _
    rcases updateEntry_cases cfg B msg d s with ⟨he, -⟩ | ⟨callId', statusCode, c₀, -, -, hfound', he, -⟩
    · exact hkept (congrArg activeCalls he)
    · exact hset hfound' he (sameAnswer_updateCall B callId statusCode msg.text c₀)
  | readCrypto vars body =>
    refine hkept ?_
    unfold next
    dsimp only
    split
    · rfl
    · split <;> rfl
  | readTag vars body crypto =>
    refine hkept ?_
    unfold next
    dsimp only
    split <;> rfl
  | cleanup callId' =>
    unfold next
    dsimp only
    split
    · exact hkept rfl
    · refine ⟨c, ?_, .refl callId c⟩
      rw [lookup_cleanupCall_ne s fun he => h (congrArg ResponsePc.cleanup he.symm)]
      exact hfound
  | testAndSet callId' =>
    unfold next testAndSet
    dsimp only
    split
    · exact hkept rfl
    split
    · exact hkept rfl
    rename_i c₀ hfound'
    split
    · exact hset hfound' rfl ⟨rfl, rfl, rfl, fun _ => rfl⟩
    · exact hkept rfl
  | startRelay callId' =>
    refine hkept ?_
    unfold next
    dsimp only
    split
    · rfl
    · exact startMediaRelay_calls callId' s
  | _ => exact hkept rfl

/-- `start_media_relay` is entered when the flag has been set that was not. -/
theorem enters_next {s : Router} {msg : Incoming} {taken : Bool} {d : Draw} {pc : ResponsePc} {callId : Str}
    (h : (s.next cfg B msg taken d pc).1.enters = some callId) :
    ∃ c, s.activeCalls.lookup callId = some c ∧ c.relayStarted = false ∧
      (s.next cfg B msg taken d pc).2.activeCalls.lookup callId = some { c with relayStarted := true } := by
  have hnot : ∀ {vars : ResponseVars} {missing : Bool} {text : Str},
      (afterUpdate cfg vars missing text d).enters = none := by
    intro vars missing text
    unfold afterUpdate
    split
    · rfl
    · split <;> rfl
  cases pc with
  | entered =>
    change (s.updateEntry cfg B msg d).1.enters = some callId at h
    rcases updateEntry_cases cfg B msg d s with ⟨-, he | he⟩ | ⟨_, _, _, -, -, -, -, he | ⟨-, he⟩⟩
    · rw [he] at h
      cases h
    · rw [he] at h
      cases h
    · rw [he] at h
      cases h
    · rw [he, hnot] at h
      cases h
  | testAndSet callId' =>
    revert h
    unfold next testAndSet
    dsimp only
    split
    · exact nofun
    split
    · exact nofun
    rename_i c hfound
    split
    · rename_i hstart
      rintro ⟨⟩
      exact ⟨c, hfound, by simpa using (Bool.and_eq_true_iff.mp hstart).1, AList.lookup_insert _⟩
    · exact nofun
  | _ =>
    revert h
    unfold next
    dsimp only
    repeat' split
    all_goals exact nofun

end Router

end Minghe.Sip
