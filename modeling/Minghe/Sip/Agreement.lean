import Minghe.Sip.Finals
import Minghe.Sip.Offers
import Minghe.Sip.Rtpmaps

/-!
# The keys of a call

The server stands between two SRTP streams with keys of their own. It chooses keys in the SDP of the INVITE and
in that of the 200, prints its own ones into what it sends on, and hands all four to the relay.

* `Grown`: what an INVITE writes into the entry of its call stays there. `GrownFrom` says so of a router.
* `Keyed`: a relay is only started with the keys of the callee.
* `Invited`: an INVITE is sent on to the callee. An answer that is accepted is one with `Accepts`.
* `KeysAgree`: what is expected of two descriptions that come in, two that are sent, and a relay.
* `keys_agree`: the keys in the descriptions that the two sides are sent are those that the relay of the
  call works with, whatever other calls do in between.
-/

namespace Minghe.Sip

open Minghe.Lib
open Minghe.Media.Relay (MediaRelayManager RelaySession)
open Minghe.Media.Srtp (Base64 SrtpSuite SuiteKeys parseCryptoAttribute)

/-! ## Completing the SDP for the caller -/

/-- Carriage returns at the end of a line are not read. -/
theorem readCryptoLine_trimmed (B : Base64) (line : Str) :
    readCryptoLine B (line.rdropWhile (· == '\r')) = readCryptoLine B line := by
  unfold readCryptoLine
  rw [trim_rdropWhile_cr]

/-- Lines without a key that are put behind a text offer nothing. -/
theorem usable_added (B : Base64) {sdp : Str} (hend : crlf <:+ sdp) {more : List Str}
    (hlf : ∀ line ∈ more, '\n' ∉ line) (hnone : ∀ line ∈ more, readCryptoLine B line = none) :
    usableCryptos B (lines (trimLineEnds sdp ++ more.flatMap (crlf ++ ·) ++ crlf)) =
      usableCryptos B (lines sdp) := by
  obtain ⟨init, last, hlines, htrimmed⟩ := exists_trimmed hend
  have hmore : usableCryptos B more = [] := List.filterMap_eq_nil_iff.mpr hnone
  have hlast : usableCryptos B [last.rdropWhile (· == '\r')] = usableCryptos B [last] := by
    unfold usableCryptos
    rw [List.filterMap_cons, List.filterMap_cons, readCryptoLine_trimmed]
  rw [htrimmed more hlf, hlines, usableCryptos_append, usableCryptos_append,
    ← List.singleton_append, usableCryptos_append, hmore, List.append_nil, hlast]

theorem ensureAnswer_cases (sdp : Str) : ensureAnswerCryptoNotLastLine sdp = sdp ∨
    ensureAnswerCryptoNotLastLine sdp =
      trimLineEnds sdp ++ ["a=ptime:20".toList].flatMap (crlf ++ ·) ++ crlf := by
  unfold ensureAnswerCryptoNotLastLine
  dsimp only
  split
  · refine .inr ?_
    rw [List.append_assoc]
    rfl
  · exact .inl rfl

/-- **What is completed for the caller** offers what it did. -/
theorem usable_completed (B : Base64) {sdp : Str} (hend : crlf <:+ sdp) :
    usableCryptos B (lines (fillMissingRtpmap (ensureAnswerCryptoNotLastLine sdp))) =
      usableCryptos B (lines sdp) := by
  have hensured : crlf <:+ ensureAnswerCryptoNotLastLine sdp ∧
      usableCryptos B (lines (ensureAnswerCryptoNotLastLine sdp)) = usableCryptos B (lines sdp) := by
    rcases ensureAnswer_cases sdp with he | he
    · rw [he]
      exact ⟨hend, rfl⟩
    · rw [he]
      refine ⟨List.suffix_append _ _, usable_added B hend (by decide) fun line hline => ?_⟩
      obtain rfl := List.mem_singleton.mp hline
      have hptime : readCryptoLine B ("a=ptime:".toList ++ "20".toList) = none :=
        readCryptoLine_of_word B (by decide) (by decide) (by decide) _
      exact hptime
  obtain ⟨hend', husable⟩ := hensured
  rw [← husable, fillMissingRtpmap_eq]
  split
  · rfl
  · refine usable_added B hend' (fun line hline => ?_) fun line hline => ?_
    · obtain ⟨pt, -, rfl⟩ := List.mem_map.mp hline
      exact lf_not_mem_rtpmapLine pt
    · obtain ⟨pt, -, rfl⟩ := List.mem_map.mp hline
      unfold rtpmapLine
      rw [List.append_assoc]
      exact readCryptoLine_of_word B (by decide) (by decide) (by decide) _

/-- A tag is a `u32`. -/
theorem tag_lt_of_parse {line suite key : Str} {tag : Nat}
    (h : parseCryptoAttribute line = some (tag, suite, key)) : tag < 2 ^ 32 := by
  unfold parseCryptoAttribute at h
  dsimp only at h
  generalize (if "a=".toList <+: trim line then (trim line).drop 2 else trim line) = content at h
  split at h
  · obtain ⟨_, -, h⟩ := Option.bind_eq_some_iff.mp h
    obtain ⟨_, -, h⟩ := Option.bind_eq_some_iff.mp h
    obtain ⟨n, hn, h⟩ := Option.bind_eq_some_iff.mp h
    split at h
    · split at h
      · cases h
      · cases h
        exact parseUnsigned_lt hn
    · cases h
  · cases h

theorem tag_lt_of_usable {B : Base64} {ls : List Str} {offer : Nat × SuiteKeys}
    (h : offer ∈ usableCryptos B ls) : offer.1 < 2 ^ 32 := by
  obtain ⟨line, -, hread⟩ := List.mem_filterMap.mp h
  unfold readCryptoLine at hread
  dsimp only at hread
  split at hread
  · obtain ⟨⟨tag, suite, key⟩, hparse, hread⟩ := Option.bind_eq_some_iff.mp hread
    obtain ⟨srtpSuite, -, hread⟩ := Option.bind_eq_some_iff.mp hread
    obtain ⟨crypto, -, rfl⟩ := Option.map_eq_some_iff.mp hread
    exact tag_lt_of_parse hparse
  · cases hread

/-- **The SDP for the caller** has the one key that is printed into it. -/
theorem extract_completed {B : Base64} (hB : B.Laws) {relayAddr : Str} (hrelay : '\n' ∉ relayAddr)
    (relayPort : UInt16) {tag : Nat} (htag : tag < 2 ^ 32) {crypto : SuiteKeys} (hcrypto : crypto.Padded)
    {sdp : Str} (haudio : HasAudio sdp) (hbare : NoBareCrypto sdp) :
    extractSrtpCryptoFromSdp B (fillMissingRtpmap (ensureAnswerCryptoNotLastLine
      (rewriteSdpWithCryptos relayAddr relayPort (offered B [(tag, crypto)]) sdp))) = some (tag, crypto) := by
  have hkeys : ∀ offer ∈ [(tag, crypto)], offer.1 < 2 ^ 32 ∧ offer.2.Padded := by
    intro offer hoffer
    obtain rfl := List.mem_singleton.mp hoffer
    exact ⟨htag, hcrypto⟩
  obtain ⟨ls, -, -, htext, hoffers⟩ :=
    offers_rewrite hB hrelay relayPort (List.cons_ne_nil _ _) hkeys haudio hbare
  have husable := usable_completed B (htext ▸ List.suffix_append (crlf.intercalate ls) crlf)
  refine extract_of_only ?_ fun offer hoffer => ?_
  · rw [husable]
    exact hoffers.ne_nil (List.cons_ne_nil _ _)
  · rw [husable] at hoffer
    exact List.mem_singleton.mp (hoffers.only offer hoffer)

namespace Router

variable {cfg : RouterConfig} {B : Base64} {media : MediaRelayManager}

/-! ## The entry of the call -/

/-- The entry `c` comes from `c₀`. -/
def Grown (c₀ c : CallInfo) : Prop :=
  ∃ calleeTag calleeRemoteContact state calleeRemoteCrypto calleeMediaAddr relayStarted,
    c = { c₀ with calleeTag, calleeRemoteContact, state, calleeRemoteCrypto, calleeMediaAddr, relayStarted }

/-- The entries of an INVITE come from the one that it made. -/
def GrownFrom (invite : Nat) (callId₀ : Str) (c₀ : CallInfo) (s : Router) : Prop :=
  ∀ callId c, s.activeCalls.lookup callId = some c → c.invite = invite → callId = callId₀ ∧ Grown c₀ c

theorem Grown.trans {c₀ c c' : CallInfo} (h : Grown c₀ c) (h' : Grown c c') : Grown c₀ c' := by
  obtain ⟨_, _, _, _, _, _, rfl⟩ := h
  obtain ⟨_, _, _, _, _, _, rfl⟩ := h'
  exact ⟨_, _, _, _, _, _, rfl⟩

theorem GrownFrom.step {invite : Nat} {callId₀ : Str} {c₀ : CallInfo} {s : Router}
    (h : GrownFrom invite callId₀ c₀ s) (hknown : (s.tasks.lookup invite).isSome = true) (event : RouterEvent) :
    GrownFrom invite callId₀ c₀ (s.step cfg B event) := by
  intro callId c hc hinvite
  cases entryStep hc with
  | kept found => exact h callId c found hinvite
  | @opened id _ _ _ _ _ _ _ _ event_eq fresh =>
    -- the INVITE is handled once
    obtain rfl : id = invite := hinvite
    rw [fresh] at hknown
    cases hknown
  | @answered _ text statusCode c₁ response =>
    obtain ⟨_, _, _, _, _, he⟩ := updateCall_eq B statusCode text c₁
    rw [he] at hinvite ⊢
    obtain ⟨hcallId, _, _, _, _, _, _, rfl⟩ := h callId c₁ response.found hinvite
    exact ⟨hcallId, _, _, _, _, _, _, rfl⟩
  | @cancelled _ _ c₁ cancel =>
    obtain ⟨hcallId, _, _, _, _, _, _, rfl⟩ := h callId c₁ cancel.found hinvite
    exact ⟨hcallId, _, _, _, _, _, _, rfl⟩
  | @started c₁ found =>
    obtain ⟨hcallId, _, _, _, _, _, _, rfl⟩ := h callId c₁ found hinvite
    exact ⟨hcallId, _, _, _, _, _, _, rfl⟩

theorem run_grown {invite : Nat} {callId₀ : Str} {c₀ : CallInfo} {early late : List RouterEvent}
    (hearly : early <+: late) (hknown : ((run cfg B media early).tasks.lookup invite).isSome = true)
    (h : GrownFrom invite callId₀ c₀ (run cfg B media early)) :
    GrownFrom invite callId₀ c₀ (run cfg B media late) := by
  refine prefix_induction (P := fun late => GrownFrom invite callId₀ c₀ (run cfg B media late)) h
    (fun done event hdone _ ih => ?_) hearly (List.prefix_refl late)
  rw [run_append]
  exact ih.step (isSome_tasks_run hdone hknown) event

/-- What a response does to the keys of the callee, and to the relay. -/
theorem updateCall_keys (B : Base64) (statusCode : Nat) (text : Str) (c : CallInfo) :
    (updateCall B statusCode text c).2.relayStarted = c.relayStarted ∧
      (c.calleeRemoteCrypto.isSome = true →
        (updateCall B statusCode text c).2.calleeRemoteCrypto.isSome = true) := by
  have hupdated := updated B statusCode text c
  revert hupdated
  generalize (updateCall B statusCode text c).1 = result, (updateCall B statusCode text c).2 = c'
  intro hupdated
  cases hupdated with
  | answered => exact ⟨rfl, fun _ => rfl⟩
  | _ => exact ⟨rfl, id⟩

/-- No relay is started without the keys of the callee. -/
def Keyed (s : Router) : Prop :=
  ∀ callId c, s.activeCalls.lookup callId = some c → c.relayStarted = true → c.calleeRemoteCrypto.isSome = true

theorem Keyed.step {s : Router} (h : Keyed s) (event : RouterEvent) : Keyed (s.step cfg B event) := by
  have hstep := stepped cfg B s event
  revert hstep
  generalize s.step cfg B event = s'
  intro hstep callId c hc hstarted
  have hanswered : ∀ {callId' : Str} {statusCode : Nat} {text : Str} {c₀ : CallInfo},
      s.activeCalls.lookup callId' = some c₀ →
      (s.activeCalls.insert callId' (updateCall B statusCode text c₀).2).lookup callId = some c →
      c.calleeRemoteCrypto.isSome = true := by
    intro callId' statusCode text c₀ hfound hc
    rcases Table.lookup_insert_eq_some hc with ⟨-, rfl⟩ | ⟨-, hc⟩
    · obtain ⟨hsame, hkeys⟩ := updateCall_keys B statusCode text c₀
      exact hkeys (h _ c₀ hfound (hsame ▸ hstarted))
    · exact h callId c hc hstarted
  cases hstep with
  | idle => exact h callId c hc hstarted
  | world => exact h callId c hc hstarted
  | received fresh handled =>
    cases handled with
    | quiet => exact h callId c hc hstarted
    | refused => exact h callId c (lookup_cleanup_some hc) hstarted
    | leaked => exact h callId c (lookup_cleanup_some hc) hstarted
    | opened =>
      rcases Table.lookup_insert_eq_some hc with ⟨-, rfl⟩ | ⟨-, hc⟩
      · cases hstarted
      · exact h callId c (lookup_cleanup_some hc) hstarted
    | answered _ _ _ found => exact hanswered found hc
    | unread _ _ _ found => exact hanswered found hc
    | ended => exact h callId c (lookup_cleanup_some hc) hstarted
    | untagged => exact h callId c hc hstarted
    | @cancelled _ _ _ c₀ _ _ _ found =>
      rcases Table.lookup_insert_eq_some hc with ⟨-, rfl⟩ | ⟨-, hc⟩
      · exact h _ c₀ found hstarted
      · exact h callId c hc hstarted
  | resumed running sending proceeded =>
    cases proceeded with
    | failed =>
      have hkept := lookup_cleanup_some hc
      exact h callId c hkept hstarted
    | ended =>
      have hkept := lookup_cleanup_some hc
      exact h callId c hkept hstarted
    | @started callId' =>
      rcases startOnce_cases callId' _ with ⟨he, -⟩ | ⟨c₀, -, hkeys, -, he⟩
      · rw [he] at hc
        exact h callId c hc hstarted
      · rw [he] at hc
        rcases Table.lookup_insert_eq_some hc with ⟨-, rfl⟩ | ⟨-, hc⟩
        · exact hkeys
        · exact h callId c hc hstarted
    | _ => exact h callId c hc hstarted

theorem run_keyed (cfg : RouterConfig) (B : Base64) (media : MediaRelayManager) (events : List RouterEvent) :
    Keyed (run cfg B media events) := by
  induction events using List.reverseRecOn with
  | nil =>
    intro callId c hc
    cases (AList.lookup_empty callId).symm.trans hc
  | append_singleton events event ih =>
    rw [run_append]
    exact ih.step event

/-! ## The INVITE -/

/-- The keys of the plan are those that are chosen in the SDP of the INVITE. -/
theorem of_planInvite {calleeExt text : Str} {now : Nat} {s : Router} {plan : InvitePlan}
    (h : planInvite cfg B calleeExt text now s = .ok (.ok plan)) : plan.body = bodyOf text ∧
      extractSrtpCryptoFromSdp B (bodyOf text) = some (plan.cryptoTag, plan.crypto) := by
  unfold planInvite at h
  rw [extractBody_eq] at h
  split at h
  · obtain ⟨_, -, h⟩ := Res.bind_eq_ok.mp h
    cases h
  split at h
  · cases h
  by_cases hempty : (bodyOf text).isEmpty = true
  · rw [if_pos hempty] at h
    cases h
  rw [if_neg hempty] at h
  cases hread : extractSrtpCryptoFromSdp B (bodyOf text) with
  | none =>
    simp only [bind, Except.bind, hread] at h
    cases h
  | some offer =>
    simp only [bind, Except.bind, hread] at h
    cases h
    exact ⟨rfl, rfl⟩

/-- The execution `invite` is to send the callee an INVITE. -/
structure Invited (cfg : RouterConfig) (B : Base64) (s : Router) (invite : Nat) (msg : Incoming) (d : Draw)
    (callId : Str) (out : Outgoing) : Prop where
  fresh : s.tasks.lookup invite = none
  sends : (s.handle cfg B invite .invite msg d).1 = .invite callId out

/-- What an INVITE that is forwarded leaves behind. -/
theorem Invited.opened {before : List RouterEvent} {invite : Nat} {msg : Incoming} {d : Draw} {callId : Str}
    {out : Outgoing} (h : Invited cfg B (run cfg B media before) invite msg d callId out) :
    ∃ callerExt calleeExt callerTag contact plan session s text,
      plan.body = bodyOf msg.text ∧
      extractSrtpCryptoFromSdp B (bodyOf msg.text) = some (plan.cryptoTag, plan.crypto) ∧
      calleeInvite cfg B msg.text callerExt calleeExt plan session d s = .ok text ∧
      out = .request plan.calleeSink text ∧
      GrownFrom invite callId (newCall invite msg callerExt calleeExt callId callerTag contact plan session d)
        (run cfg B media (before ++ [.receive invite .invite msg d])) := by
  rw [run_append, step_receive h.fresh]
  have hknown := run_known cfg B media before
  have hfresh := h.fresh
  have hsends := h.sends
  generalize run cfg B media before = s at hknown hfresh hsends
  rcases hhandle : s.handle cfg B invite .invite msg d with ⟨pc, s'⟩
  have hhandled := handled hhandle
  rw [hhandle] at hsends
  obtain rfl : pc = .invite callId out := hsends
  cases hhandled with
  | quiet _ quiet => exact quiet.elim
  | refused _ _ _ idle => cases idle
  | @opened callerExt calleeExt _ callerTag text plan session _ contact _ _ planned _ _ forwarded =>
    obtain ⟨hbody, hcrypto⟩ := of_planInvite planned
    refine ⟨callerExt, calleeExt, callerTag, contact, plan, session, _, text, hbody, hcrypto, forwarded, rfl,
      fun callId' c hc hinvite => ?_⟩
    rcases Table.lookup_insert_eq_some hc with ⟨rfl, rfl⟩ | ⟨-, hc⟩
    · exact ⟨rfl, _, _, _, _, _, _, rfl⟩
    · have hold := hknown callId' c (lookup_cleanup_some hc)
      rw [hinvite, hfresh] at hold
      cases hold

/-! ## The answer -/

/-- The keys that an answer is accepted with are chosen in its SDP, and the callee was offered their suite. -/
theorem of_answerCrypto {text : Str} {crypto : SuiteKeys} (h : answerCrypto B text = some crypto) :
    bodyOf text ≠ [] ∧ ∃ tag, extractSrtpCryptoFromSdp B (bodyOf text) = some (tag, crypto) ∧
      (tag = 1 ∧ crypto.suite = .aesCm128HmacSha180 ∨ tag = 2 ∧ crypto.suite = .aeadAes128Gcm) := by
  unfold answerCrypto answeredCrypto at h
  by_cases hempty : (bodyOf text).isEmpty = true
  · rw [if_pos hempty] at h
    cases h
  rw [if_neg hempty, Option.bind_some] at h
  obtain ⟨⟨tag, crypto'⟩, hread, hchosen⟩ := Option.bind_eq_some_iff.mp h
  dsimp only at hchosen
  split at hchosen
  · rename_i hoffered
    cases hchosen
    refine ⟨by simpa using hempty, tag, hread, ?_⟩
    simpa [calleeAnswerCryptoIsOffered] using hoffered
  · cases hchosen

/-- The entry behind a 200 that is accepted. -/
theorem updateCall_answered {text : Str} {c : CallInfo} {theirs : SuiteKeys}
    (htheirs : answerCrypto B text = some theirs) (hread : ¬ Unreadable 200 text c) :
    ∃ c', updateCall B 200 text c = (.ok (), c') ∧ Grown c c' ∧ c'.calleeRemoteCrypto = some theirs ∧
      c'.relayStarted = c.relayStarted := by
  have hok : ∀ e, (updateCall B 200 text c).1 ≠ .error e := fun e he => hread (unreadable_of_error he)
  have hupdated := updated B 200 text c
  rcases hupdate : updateCall B 200 text c with ⟨result, c'⟩
  rw [hupdate] at hok hupdated
  cases hupdated with
  | passed _ other => exact absurd (by simp) other
  | ringing _ status => omega
  | answered tag contact addr _ answer =>
    cases htheirs.symm.trans answer
    exact ⟨_, rfl, ⟨_, _, _, _, _, _, rfl⟩, rfl, rfl⟩
  | refused _ _ _ answer => cases htheirs.symm.trans answer
  | unread => exact absurd rfl (hok _)
  | failed status => omega

/-- What is sent for it. -/
theorem passOn_answered (cfg : RouterConfig) (callId : Str) {msg : Incoming} (d : Draw) {c : CallInfo}
    {theirs ours : SuiteKeys} (hbody : bodyOf msg.text ≠ []) (htheirs : c.calleeRemoteCrypto = some theirs)
    (hours : c.callerLocalCrypto = some ours) : passOn cfg B callId 200 msg d c =
      .forward callId 200 (.answer c.invite 200 c.callerSink
        (buildForwardedInviteResponse c.originalInvite msg.text 200 "OK".toList
          (serverContactUri c.calleeExt cfg.message.domain c.callerSink.transport)
          (callerSdp cfg B ours (bodyOf msg.text) c)) (some msg.text)) := by
  have hforwarded : forwardedResponse cfg B 200 msg.text c = .ok (some
      (buildForwardedInviteResponse c.originalInvite msg.text 200 "OK".toList
        (serverContactUri c.calleeExt cfg.message.domain c.callerSink.transport)
        (callerSdp cfg B ours (bodyOf msg.text) c))) := by
    unfold forwardedResponse
    rw [extractBody_eq, if_neg (by simpa using hbody), hours]
    rfl
  unfold passOn
  dsimp only
  rw [if_neg (by rw [htheirs]; exact nofun), hforwarded]

/-- The execution for it is sending that, and the entry has the keys of the callee. -/
theorem step_answered (cfg : RouterConfig) {s : Router} {answer : Nat} {msg : Incoming} (d : Draw)
    {callId : Str} {c : CallInfo} {theirs ours : SuiteKeys}
    (hresponse : ResponseTo s (.receive answer .response msg d) answer callId msg.text 200 c)
    (htheirs : answerCrypto B msg.text = some theirs) (hread : ¬ Unreadable 200 msg.text c)
    (hours : c.callerLocalCrypto = some ours) :
    ∃ c', Grown c c' ∧ c'.calleeRemoteCrypto = some theirs ∧ c'.relayStarted = c.relayStarted ∧
      (s.step cfg B (.receive answer .response msg d)).activeCalls.lookup callId = some c' ∧
      (s.step cfg B (.receive answer .response msg d)).tasks.lookup answer = some ⟨.response, msg,
        .forward callId 200 (.answer c'.invite 200 c'.callerSink
          (buildForwardedInviteResponse c'.originalInvite msg.text 200 "OK".toList
            (serverContactUri c'.calleeExt cfg.message.domain c'.callerSink.transport)
            (callerSdp cfg B ours (bodyOf msg.text) c')) (some msg.text))⟩ := by
  obtain ⟨_, _, ⟨⟩, -, hfresh, hp, hid, hstatus, hfound⟩ := hresponse
  obtain ⟨c', hupdate, hgrown, hkeys, hstarted⟩ := updateCall_answered htheirs hread
  have hours' : c'.callerLocalCrypto = some ours := by
    obtain ⟨_, _, _, _, _, _, rfl⟩ := hgrown
    exact hours
  have hhandle := handle_response_cases cfg B answer d hid hstatus hp hfound
  rw [hupdate, passOn_answered cfg callId d (of_answerCrypto htheirs).1 hkeys hours'] at hhandle
  obtain ⟨_, ⟨⟩, -⟩ | ⟨-, hhandle⟩ := hhandle
  refine ⟨c', hgrown, hkeys, hstarted, ?_⟩
  rw [step_receive hfresh, hhandle]
  refine ⟨AList.lookup_insert _, ?_⟩
  rw [settle_tasks, if_pos rfl]

/-- The relay of a call is started behind it. -/
theorem resume_answered (cfg : RouterConfig) (B : Base64) {s : Router} {answer : Nat} {msg : Incoming}
    {callId : Str} {out : Outgoing} {c : CallInfo}
    (hrunning : s.tasks.lookup answer = some ⟨.response, msg, .forward callId 200 out⟩)
    (hfound : s.activeCalls.lookup callId = some c) (hkeys : c.calleeRemoteCrypto.isSome = true)
    (hstarted : c.relayStarted = false) (taken : Bool) (d : Draw) :
    (s.step cfg B (.resume answer taken d)).relays =
      s.relays ++ if s.poisoned then [] else [relayOf callId c s.relays.length] := by
  rw [step_resume hrunning rfl]
  dsimp only [proceed]
  rw [if_neg (by decide), if_pos rfl]
  by_cases hp : s.poisoned = true
  · rw [if_pos hp, if_pos hp]
    exact (List.append_nil _).symm
  · rw [if_neg hp, if_neg hp]
    rcases startOnce_cases callId { s with sent := s.sent ++ if taken then [out] else [] } with
      ⟨-, hno⟩ | ⟨c', hfound', -, -, he⟩
    · have hyes := hno c hfound hkeys
      rw [hstarted] at hyes
      cases hyes
    · cases hfound.symm.trans hfound'
      exact congrArg Router.relays he

/-! ## Agreement -/

/-- **The keys agree**: on each side the relay decrypts with the keys that the server chose there, and
encrypts with the keys that the server put into the SDP for that side, under the tag that was chosen. -/
structure KeysAgree (B : Base64) (offer calleeSdp answer callerSdp : Str) (relay : RelayStart) : Prop where
  caller : ∃ tag theirs ours, (tag, theirs) ∈ usableCryptos B (lines offer) ∧
    extractSrtpCryptoFromSdp B offer = some (tag, theirs) ∧ relay.callerDecryptCrypto = some theirs ∧
    extractSrtpCryptoFromSdp B callerSdp = some (tag, ours) ∧ ours.suite = theirs.suite ∧
    relay.callerEncryptCrypto = some ours
  callee : ∃ cm gcm tag theirs ours, cm.suite = .aesCm128HmacSha180 ∧ gcm.suite = .aeadAes128Gcm ∧
    Offers B [(1, cm), (2, gcm)] calleeSdp ∧ (tag, theirs) ∈ usableCryptos B (lines answer) ∧
    extractSrtpCryptoFromSdp B answer = some (tag, theirs) ∧ relay.calleeDecryptCrypto = some theirs ∧
    (tag, ours) ∈ [(1, cm), (2, gcm)] ∧ ours.suite = theirs.suite ∧ relay.calleeEncryptCrypto = some ours

/-- The request is the INVITE with the SDP `sdp`. -/
def InviteWith (cfg : RouterConfig) (msg : Incoming) (d : Draw) (sdp : Str) (out : Outgoing) : Prop :=
  ∃ sink targetUri contactUri rebuilt text, rebuildRequestWithSdp msg.text sdp = .ok rebuilt ∧
    buildOutboundRequest rebuilt targetUri cfg.message.domain contactUri sink.transport d.branch = .ok text ∧
    out = .request sink text

/-- The answer is the 200 `answered` with the SDP `sdp`. -/
def AnswerWith (msg answered : Incoming) (invite : Nat) (sdp : Str) (out : Outgoing) : Prop :=
  ∃ sink contactUri, out = .answer invite 200 sink
    (buildForwardedInviteResponse msg.text answered.text 200 "OK".toList contactUri sdp) (some answered.text)

theorem inviteWith_calleeInvite {msg : Incoming} {callerExt calleeExt text : Str} {plan : InvitePlan}
    {session : RelaySession} {d : Draw} {s : Router}
    (h : calleeInvite cfg B msg.text callerExt calleeExt plan session d s = .ok text) :
    InviteWith cfg msg d (calleeSdp cfg B plan session d) (.request plan.calleeSink text) := by
  unfold calleeInvite at h
  obtain ⟨rebuilt, hrebuilt, h⟩ := Res.bind_eq_ok.mp h
  exact ⟨_, _, _, rebuilt, text, hrebuilt, h, rfl⟩

/-- The relay of a call, whose entry comes from its INVITE, when its first 200 was accepted. -/
theorem keysAgree_relayOf (hB : B.Laws) (haddr : (IpAddr.parse cfg.mediaAddr).isSome = true) {invite : Nat}
    {msg : Incoming} {callerExt calleeExt callId callerTag : Str} {contact : Option Str} {plan : InvitePlan}
    {session : RelaySession} {d : Draw} {c : CallInfo} {answer : Str} {theirs : SuiteKeys}
    (hbody : plan.body = bodyOf msg.text)
    (hplan : extractSrtpCryptoFromSdp B (bodyOf msg.text) = some (plan.cryptoTag, plan.crypto))
    (hgrown : Grown (newCall invite msg callerExt calleeExt callId callerTag contact plan session d) c)
    (hstored : c.calleeRemoteCrypto = some theirs) (htheirs : answerCrypto B answer = some theirs)
    (hoffer : HasAudio (bodyOf msg.text) ∧ NoBareCrypto (bodyOf msg.text))
    (hanswer : HasAudio (bodyOf answer) ∧ NoBareCrypto (bodyOf answer)) (shutdown : Nat) :
    KeysAgree B (bodyOf msg.text) (calleeSdp cfg B plan session d) (bodyOf answer)
      (callerSdp cfg B (.newWithSuite plan.crypto.suite d.callerKey) (bodyOf answer) c)
      (relayOf callId c shutdown) := by
  have hrelay : '\n' ∉ cfg.mediaAddr := lf_not_mem_of_parse haddr
  have hmem := mem_of_extract hplan
  have hprinted : extractSrtpCryptoFromSdp B (callerSdp cfg B (.newWithSuite plan.crypto.suite d.callerKey)
      (bodyOf answer) c) = some (plan.cryptoTag, .newWithSuite plan.crypto.suite d.callerKey) := by
    have htag : c.callerRemoteCryptoTag = plan.cryptoTag := by
      obtain ⟨_, _, _, _, _, _, rfl⟩ := hgrown
      rfl
    unfold callerSdp
    rw [htag]
    exact extract_completed hB hrelay c.callerRelayPort (tag_lt_of_usable hmem) (SuiteKeys.padded_ofBytes _ _)
      hanswer.1 hanswer.2
  obtain ⟨_, _, _, _, _, _, rfl⟩ := hgrown
  constructor
  · exact ⟨_, _, _, hmem, hplan, rfl, hprinted, SuiteKeys.suite_newWithSuite _ _, rfl⟩
  · obtain ⟨-, tag, hread, htag⟩ := of_answerCrypto htheirs
    have hkeys : ∀ offer ∈ [(1, calleeLocalCrypto d), (2, calleeLocalCryptoGcm d)],
        offer.1 < 2 ^ 32 ∧ offer.2.Padded := by
      intro offer hmem
      simp only [List.mem_cons, List.not_mem_nil, or_false] at hmem
      rcases hmem with rfl | rfl
      · exact ⟨(by decide : 1 < 2 ^ 32), SuiteKeys.padded_ofBytes _ _⟩
      · exact ⟨(by decide : 2 < 2 ^ 32), SuiteKeys.padded_ofBytes _ _⟩
    obtain ⟨_, -, -, -, hoffers⟩ :=
      offers_rewrite hB hrelay session.calleePort (List.cons_ne_nil _ _) hkeys hoffer.1 hoffer.2
    rw [← hbody] at hoffers
    have hours : ∃ ours, (tag, ours) ∈ [(1, calleeLocalCrypto d), (2, calleeLocalCryptoGcm d)] ∧
        ours.suite = theirs.suite ∧ (if some theirs.suite = some .aeadAes128Gcm then
          some (calleeLocalCryptoGcm d) else some (calleeLocalCrypto d)) = some ours := by
      rcases htag with ⟨rfl, hsuite⟩ | ⟨rfl, hsuite⟩
      · refine ⟨calleeLocalCrypto d, by simp, hsuite.symm, if_neg ?_⟩
        rw [hsuite]
        decide
      · refine ⟨calleeLocalCryptoGcm d, by simp, hsuite.symm, if_pos ?_⟩
        rw [hsuite]
    obtain ⟨ours, hours, hsuite, hchosen⟩ := hours
    refine ⟨calleeLocalCrypto d, calleeLocalCryptoGcm d, tag, theirs, ours, rfl, rfl, hoffers,
      mem_of_extract hread, hread, hstored, hours, hsuite, ?_⟩
    rw [← hchosen]
    unfold relayOf
    dsimp only at hstored ⊢
    rw [hstored]
    rfl

end Router

end Minghe.Sip
