import Minghe.Sip.Entries

/-!
# Messages of outsiders

BYE and CANCEL are checked against the call that they name. An INVITE is not: one with the Call-ID of a
call that is there removes this call. Nor is a response: whoever knows the Call-ID can answer for the
callee.

* `Outsider`: what the peer of a message is not.
* `process`: the handler of a message from its start on.
* `Repeats`: a response that tells its call nothing.
* `Spares`: a message that is none of the two.
* `undisturbed_iff`: a message of an outsider leaves a call and its session alone, up to the end of its
  execution, iff it is neither an admitted INVITE nor a telling response with the Call-ID of the call, or
  the lock is poisoned.
* `outsider_disturbs`: the 486 of a stranger ends a call.
-/

namespace Minghe.Sip

open Minghe.Lib
open Minghe.Media.Relay (MediaRelayManager)
open Minghe.Media.Srtp (Base64)

namespace Router

/-- The peer is not one of the two sides of the call, by the extension of its connection and by the tag in
`From`. -/
structure Outsider (msg : Incoming) (c : CallInfo) : Prop where
  caller : msg.connectionExt ≠ some c.callerExt
  callee : msg.connectionExt ≠ some c.calleeExt
  callerTag : extractFromTag msg.text ≠ .ok (some c.callerTag)
  calleeTag : ∀ tag, c.calleeTag = some tag → extractFromTag msg.text ≠ .ok (some tag)

/-- The handler of a message from its start on, and what becomes of its sends. -/
def process (cfg : RouterConfig) (B : Base64) (id : Nat) (handler : Handler) (msg : Incoming) (d : Draw)
    (outcomes : List (Bool × Draw)) (s : Router) : Router :=
  outcomes.foldl (fun s outcome => s.step cfg B (.resume id outcome.1 outcome.2))
    (s.step cfg B (.receive id handler msg d))

/-- The response names no tag, or the call knows that of its callee; and so for the contact. -/
def NoNewTag (text : Str) (c : CallInfo) : Prop :=
  c.calleeTag = none → ∀ tag, extractToTag text ≠ .ok (some tag)
def NoNewContact (text : Str) (c : CallInfo) : Prop :=
  c.calleeRemoteContact = none → ∀ contact, extractContactUri text ≠ .ok (some contact)

/-- The address for media in a 200. -/
def answerMediaAddr (text : Str) : Option SocketAddr :=
  (if (bodyOf text).isEmpty then none else some (bodyOf text)).bind extractAudioMediaAddrFromSdp

/-- The SDP of a 200 is what the call has in its entry. -/
def RepeatsAnswer (B : Base64) (text : Str) (c : CallInfo) : Prop :=
  match answerCrypto B text with
  | some crypto =>
    c.calleeRemoteCrypto = some crypto ∧ c.calleeMediaAddr = answerMediaAddr text ∧ c.state = .established
  | none => c.state = .terminated

/-- The response tells the call nothing: a 180 or 183 for a call that is ringing, a 200 with what is known
for a call whose relay was started, or one that makes the handler panic, or another status below 400. -/
def Repeats (B : Base64) (statusCode : Nat) (text : Str) (c : CallInfo) : Prop :=
  if statusCode = 180 ∨ statusCode = 183 then c.state = .ringing ∧ NoNewTag text c
  else if statusCode = 200 then
    NoNewTag text c ∧ (Unreadable 200 text c ∨
      (NoNewContact text c ∧ RepeatsAnswer B text c ∧ c.calleeRemoteCrypto.isSome = true ∧
        c.relayStarted = true))
  else statusCode < 400

/-- The message is no INVITE with the Call-ID of the call that is admitted, and no response with it that
tells the call something; or the table is not accessible. -/
def Spares (cfg : RouterConfig) (B : Base64) (s : Router) (handler : Handler) (msg : Incoming) (d : Draw)
    (callId : Str) (c : CallInfo) : Prop :=
  s.poisoned = true ∨
    ((handler = .invite → ∀ callerExt calleeExt callerTag,
        admitted cfg msg d s ≠ some (callerExt, calleeExt, callId, callerTag)) ∧
      (handler = .response → extractCallId msg.text = .ok (some callId) → ∀ statusCode,
        extractStatusCode msg.text = some statusCode → Repeats B statusCode msg.text c))

variable {cfg : RouterConfig} {B : Base64} {media : MediaRelayManager} {events : List RouterEvent}

/-! ## The call of an execution -/

theorem callId_of_idle {pc : Pc} (h : pc.sending = none) : pc.callId = none := by
  cases pc with
  | done => rfl
  | panicked => rfl
  | _ => cases h

/-- An ACK leaves no mark. -/
theorem handleAck_eq (cfg : RouterConfig) (msg : Incoming) (d : Draw) (s : Router) :
    ∃ pc, pc.callId = none ∧ s.handleAck cfg msg d = (pc, s) := by
  unfold handleAck
  split
  · exact ⟨_, rfl, rfl⟩
  · exact ⟨_, rfl, rfl⟩
  split
  · exact ⟨_, rfl, rfl⟩
  split
  · exact ⟨_, rfl, rfl⟩
  split
  · exact ⟨_, rfl, rfl⟩
  split
  · exact ⟨_, rfl, rfl⟩
  · exact ⟨_, rfl, rfl⟩

/-- A BYE is refused, or comes from one side of its call. -/
theorem handleBye_cases (cfg : RouterConfig) (msg : Incoming) (d : Draw) (s : Router) :
    (∃ pc, pc.sending = none ∧ s.handleBye cfg msg d = (pc, s)) ∨
    ∃ callId fromTag c, extractCallId msg.text = .ok (some callId) ∧
      extractFromTag msg.text = .ok fromTag ∧ s.activeCalls.lookup callId = some c ∧
      (byeFromCaller (fromTag.getD []) (msg.connectionExt.getD []) c = true ∨
        byeFromCallee (fromTag.getD []) (msg.connectionExt.getD []) c = true) ∧
      ∀ callId', (s.handleBye cfg msg d).1.callId = some callId' → callId' = callId := by
  unfold handleBye
  split
  · exact .inl ⟨_, rfl, rfl⟩
  · exact .inl ⟨_, rfl, rfl⟩
  rename_i callId hid
  split
  · exact .inl ⟨_, rfl, rfl⟩
  rename_i fromTag hread
  split
  · exact .inl ⟨_, rfl, rfl⟩
  rename_i hp
  split
  · exact .inl ⟨_, rfl, rfl⟩
  rename_i c hc
  dsimp only
  split
  · exact .inl ⟨_, rfl, rfl⟩
  rename_i hside
  refine .inr ⟨callId, fromTag, c, hid, hread, hc, ?_, ?_⟩
  · by_contra hnot
    exact hside (by simpa using hnot)
  · unfold cleanupThen
    rw [if_neg hp]
    intro callId' h
    split at h
    · cases h
    split at h
    · cases h
    split at h
    · cases h
    · cases h
      rfl

/-- An execution is about the call that its message names. -/
theorem callId_handle {s : Router} {id : Nat} {handler : Handler} {msg : Incoming} {d : Draw}
    {callId : Str} (h : (s.handle cfg B id handler msg d).1.callId = some callId) :
    namedCall handler msg.text = some callId := by
  cases handler with
  | invite =>
    rcases hhandle : s.handle cfg B id .invite msg d with ⟨pc, s'⟩
    rw [hhandle] at h
    cases handled hhandle with
    | quiet _ _ declines => cases (callId_of_idle (declines rfl).1).symm.trans h
    | refused _ _ _ idle => cases (callId_of_idle idle).symm.trans h
    | leaked => cases h
    | opened _ admitted =>
      cases h
      exact namedCall_of_admitted admitted
    | ended _ _ _ other => exact absurd rfl other
  | response =>
    change (s.handleCalleeResponse cfg B msg d).1.callId = some callId at h
    unfold handleCalleeResponse at h
    split at h
    · cases h
    · cases h
    rename_i callId' hid
    split at h
    · cases h
    rename_i statusCode _
    split at h
    · cases h
    split at h
    · cases h
    rename_i c _
    dsimp only at h
    split at h
    · cases h
    · rcases passOn_cases cfg B callId' statusCode msg d (updateCall B statusCode msg.text c).2 with
        ⟨-, -, _, he⟩ | ⟨-, _, he⟩ | ⟨-, _, he⟩
      all_goals
        dsimp only at h
        rw [he] at h
        cases h
        exact namedCall_of_ok (by decide) hid
  | ack =>
    obtain ⟨pc, hnone, he⟩ := handleAck_eq cfg msg d s
    change (s.handleAck cfg msg d).1.callId = some callId at h
    rw [he] at h
    cases hnone.symm.trans h
  | bye =>
    change (s.handleBye cfg msg d).1.callId = some callId at h
    rcases handleBye_cases cfg msg d s with ⟨pc, hidle, he⟩ | ⟨callId', _, _, hid, -, -, -, hcallId⟩
    · rw [he] at h
      cases (callId_of_idle hidle).symm.trans h
    · rw [hcallId callId h]
      exact namedCall_of_ok (by decide) hid
  | cancel =>
    change (s.handleCancel cfg msg d).1.callId = some callId at h
    unfold handleCancel cleanupThen at h
    split at h
    · cases h
    · cases h
    rename_i callId' hid
    split at h
    · cases h
    rename_i hp
    split at h
    · cases h
    split at h
    · cases h
    split at h
    · cases h
    dsimp only at h
    split at h
    · rw [if_neg hp] at h
      cases h
    split at h
    · cases h
    · cases h
      exact namedCall_of_ok (by decide) hid
/-! ## Responses that tell nothing -/

theorem learnTag_same_iff (text : Str) (c : CallInfo) : (learnTag text c).2 = c ↔ NoNewTag text c := by
  unfold learnTag NoNewTag
  cases htag : c.calleeTag with
  | some tag => exact ⟨fun _ => nofun, fun _ => rfl⟩
  | none =>
    cases extractToTag text with
    | error e => exact ⟨fun _ _ _ => nofun, fun _ => rfl⟩
    | ok tag =>
      constructor
      · intro h _ tag' he
        cases he
        have hsame : some tag' = c.calleeTag := congrArg CallInfo.calleeTag h
        cases hsame.trans htag
      · intro h
        cases tag with
        | some tag => exact absurd rfl (h rfl tag)
        | none =>
          change ({ c with calleeTag := none } : CallInfo) = c
          rw [← htag]

theorem learnContact_same_iff (text : Str) (c : CallInfo) :
    (learnContact text c).2 = c ↔ NoNewContact text c := by
  unfold learnContact NoNewContact
  cases hcontact : c.calleeRemoteContact with
  | some contact => exact ⟨fun _ => nofun, fun _ => rfl⟩
  | none =>
    cases extractContactUri text with
    | error e => exact ⟨fun _ _ _ => nofun, fun _ => rfl⟩
    | ok contact =>
      constructor
      · intro h _ contact' he
        cases he
        have hsame : some contact' = c.calleeRemoteContact := congrArg CallInfo.calleeRemoteContact h
        cases hsame.trans hcontact
      · intro h
        cases contact with
        | some contact => exact absurd rfl (h rfl contact)
        | none =>
          change ({ c with calleeRemoteContact := none } : CallInfo) = c
          rw [← hcontact]

/-- The entry behind the SDP of a 200. -/
theorem readAnswer_eq (B : Base64) (text : Str) (c : CallInfo) :
    readAnswer B text c = (.ok (), match answerCrypto B text with
      | some crypto => { c with
          calleeRemoteCrypto := some crypto
          calleeMediaAddr := answerMediaAddr text
          state := .established }
      | none => { c with state := .terminated }) := by
  unfold readAnswer answerCrypto answerMediaAddr
  rw [extractBody_eq]
  dsimp only
  cases answeredCrypto B (if (bodyOf text).isEmpty then none else some (bodyOf text)) <;> rfl

/-- A tag that cannot be read is not stored; nor is a contact. -/
theorem learnTag_of_error {text : Str} {c : CallInfo} {e : Fault Empty}
    (h : (learnTag text c).1 = .error e) : (learnTag text c).2 = c := by
  unfold learnTag at h ⊢
  split
  · split
    · rfl
    · rename_i hnone _ tag hread
      rw [if_pos hnone, hread] at h
      cases h
  · rfl

theorem learnContact_of_error {text : Str} {c : CallInfo} {e : Fault Empty}
    (h : (learnContact text c).1 = .error e) : (learnContact text c).2 = c := by
  unfold learnContact at h ⊢
  split
  · split
    · rfl
    · rename_i hnone _ contact hread
      rw [if_pos hnone, hread] at h
      cases h
  · rfl

theorem updateCall_ringing_same_iff {B : Base64} {statusCode : Nat}
    (h : statusCode = 180 ∨ statusCode = 183) (text : Str) (c : CallInfo) :
    (updateCall B statusCode text c).2 = c ↔ c.state = .ringing ∧ NoNewTag text c := by
  have he : updateCall B statusCode text c = learnTag text { c with state := .ringing } := by
    unfold updateCall
    rw [if_neg (by omega), if_pos h]
  rw [he]
  constructor
  · intro hsame
    obtain ⟨result, tag, hlearn⟩ := learnTag_eq text { c with state := .ringing }
    have hstate : c.state = .ringing := by
      rw [hlearn] at hsame
      exact (congrArg CallInfo.state hsame).symm
    have hc : { c with state := .ringing } = c := by rw [← hstate]
    rw [hc] at hsame
    exact ⟨hstate, (learnTag_same_iff text c).mp hsame⟩
  · rintro ⟨hstate, hnew⟩
    have hc : { c with state := .ringing } = c := by rw [← hstate]
    rw [hc]
    exact (learnTag_same_iff text c).mpr hnew

/-- A 200 is read as far as its tag, its contact or its SDP. -/
theorem updateCall_answer (B : Base64) (text : Str) (c : CallInfo) :
    (∃ e, learnTag text c = (.error e, c) ∧ updateCall B 200 text c = (.error e, c)) ∨
    (∃ calleeTag e, learnTag text c = (.ok (), { c with calleeTag }) ∧
      updateCall B 200 text c = (.error e, { c with calleeTag })) ∨
    ∃ calleeTag calleeRemoteContact, learnTag text c = (.ok (), { c with calleeTag }) ∧
      learnContact text { c with calleeTag } = (.ok (), { c with calleeTag, calleeRemoteContact }) ∧
      updateCall B 200 text c = readAnswer B text { c with calleeTag, calleeRemoteContact } := by
  unfold updateCall
  rw [if_neg (by decide), if_neg (by decide), if_pos rfl]
  obtain ⟨result, calleeTag, hlearn⟩ := learnTag_eq text c
  cases result with
  | error e =>
    have hsame := learnTag_of_error (congrArg Prod.fst hlearn)
    rw [hlearn] at hsame ⊢
    change { c with calleeTag } = c at hsame
    rw [hsame]
    exact .inl ⟨e, rfl, rfl⟩
  | ok _ =>
    right
    rw [hlearn]
    obtain ⟨result, calleeRemoteContact, hcontact⟩ := learnContact_eq text { c with calleeTag }
    cases result with
    | error e =>
      have hsame := learnContact_of_error (congrArg Prod.fst hcontact)
      dsimp only
      rw [hcontact] at hsame ⊢
      exact .inl ⟨calleeTag, e, rfl, congrArg _ hsame⟩
    | ok _ =>
      dsimp only
      rw [hcontact]
      exact .inr ⟨calleeTag, calleeRemoteContact, rfl, hcontact, rfl⟩

theorem readAnswer_same_iff (B : Base64) (text : Str) (c : CallInfo) :
    (readAnswer B text c).2 = c ↔ RepeatsAnswer B text c := by
  rw [readAnswer_eq]
  unfold RepeatsAnswer
  cases answerCrypto B text with
  | some crypto =>
    constructor
    · intro h
      exact ⟨(congrArg CallInfo.calleeRemoteCrypto h).symm, (congrArg CallInfo.calleeMediaAddr h).symm,
        (congrArg CallInfo.state h).symm⟩
    · rintro ⟨hcrypto, haddr, hstate⟩
      change ({ c with calleeRemoteCrypto := some crypto, calleeMediaAddr := answerMediaAddr text,
                       state := .established } : CallInfo) = c
      rw [← hcrypto, ← haddr, ← hstate]
  | none =>
    constructor
    · exact fun h => (congrArg CallInfo.state h).symm
    · intro hstate
      change ({ c with state := .terminated } : CallInfo) = c
      rw [← hstate]

/-- The tag and the contact of a 200 are stored, whatever else it says. -/
theorem readAnswer_kept (B : Base64) (text : Str) (c : CallInfo) :
    (readAnswer B text c).2.calleeTag = c.calleeTag ∧
      (readAnswer B text c).2.calleeRemoteContact = c.calleeRemoteContact := by
  rw [readAnswer_eq]
  cases answerCrypto B text <;> exact ⟨rfl, rfl⟩

theorem updateCall_answer_same_iff (B : Base64) (text : Str) (c : CallInfo) :
    (updateCall B 200 text c).2 = c ↔ NoNewTag text c ∧ (Unreadable 200 text c ∨
      (NoNewContact text c ∧ RepeatsAnswer B text c)) := by
  have htag := learnTag_same_iff text c
  rcases updateCall_answer B text c with ⟨e, hlearn, he⟩ | ⟨tag, e, hlearn, he⟩ |
    ⟨tag, contact, hlearn, hcontact, he⟩
  · rw [hlearn] at htag
    have hunread := unreadable_of_error (congrArg Prod.fst he)
    rw [he]
    exact ⟨fun hsame => ⟨htag.mp hsame, .inl hunread⟩, fun _ => rfl⟩
  · rw [hlearn] at htag
    have hunread := unreadable_of_error (congrArg Prod.fst he)
    rw [he]
    exact ⟨fun hsame => ⟨htag.mp hsame, .inl hunread⟩, fun h => htag.mpr h.1⟩
  · rw [hlearn] at htag
    have hread : ¬ Unreadable 200 text c := by
      have hok : (updateCall B 200 text c).1 = .ok () := by rw [he, readAnswer_eq]
      exact readable_of_ok hok
    have hnew := learnContact_same_iff text { c with calleeTag := tag }
    rw [hcontact] at hnew
    obtain ⟨hkept, hkept'⟩ :=
      readAnswer_kept B text { c with calleeTag := tag, calleeRemoteContact := contact }
    rw [he]
    constructor
    · intro hsame
      rw [hsame] at hkept hkept'
      obtain rfl : c.calleeTag = tag := hkept
      obtain rfl : c.calleeRemoteContact = contact := hkept'
      exact ⟨htag.mp rfl, .inr ⟨hnew.mp rfl, (readAnswer_same_iff B text c).mp hsame⟩⟩
    · rintro ⟨hnotag, hunread | ⟨hnocontact, hrepeats⟩⟩
      · exact absurd hunread hread
      · have hc : { c with calleeTag := tag } = c := htag.mpr hnotag
        have hc' : ({ c with calleeTag := tag, calleeRemoteContact := contact } : CallInfo) =
          { c with calleeTag := tag } := hnew.mpr hnocontact
        rw [hc', hc]
        exact (readAnswer_same_iff B text c).mpr hrepeats

/-! ## What is left to be done -/

/-- Where an execution is going to leave the call alone: it is about another one, or has passed on a
response that told it nothing. -/
def Harmless (callId : Str) (c : CallInfo) (pc : Pc) : Prop :=
  pc.callId ≠ some callId ∨ ∃ statusCode out, pc = .forward callId statusCode out ∧ statusCode < 400 ∧
    (statusCode = 200 → c.relayStarted = true)

theorem harmless_of_none {callId : Str} {c : CallInfo} {pc : Pc} (h : pc.callId = none) :
    Harmless callId c pc := .inl (by rw [h]; exact nofun)

/-- So it is behind a send. -/
theorem harmless_resume (cfg : RouterConfig) (B : Base64) {s : Router} {id : Nat} {callId : Str}
    {c : CallInfo} (hfound : s.activeCalls.lookup callId = some c)
    (h : s.poisoned = true ∨ ∀ task, s.tasks.lookup id = some task → Harmless callId c task.pc)
    (taken : Bool) (d : Draw) :
    SameCall callId s (s.step cfg B (.resume id taken d)) ∧
      ((s.step cfg B (.resume id taken d)).poisoned = true ∨
        ∀ task, (s.step cfg B (.resume id taken d)).tasks.lookup id = some task →
          Harmless callId c task.pc) := by
  have hstep := stepped cfg B s (.resume id taken d)
  revert hstep
  generalize s.step cfg B (.resume id taken d) = s'
  intro hstep
  cases hstep with
  | idle => exact ⟨⟨rfl, rfl, rfl⟩, h⟩
  | @resumed _ _ _ task out pc s₁ running sending proceeded =>
    suffices hboth : SameCall callId { s with sent := s.sent ++ if taken then [out] else [] } s₁ ∧
        (s₁.poisoned = true ∨ Harmless callId c pc) by
      refine ⟨⟨hboth.1.entry, hboth.1.session, hboth.1.sender⟩,
        hboth.2.imp_right fun hpc task htask => ?_⟩
      rw [settle_tasks, if_pos rfl] at htask
      cases htask
      exact hpc
    have hpc : s.poisoned = false → Harmless callId c task.pc := fun hp =>
      (h.resolve_left (by rw [hp]; exact nofun)) task running
    cases proceeded with
    | stuck poisoned => exact ⟨⟨rfl, rfl, rfl⟩, .inl poisoned⟩
    | trying => exact ⟨⟨rfl, rfl, rfl⟩, .inr (harmless_of_none rfl)⟩
    | failed place _ poisoned =>
      rcases hpc poisoned with hother | ⟨_, _, he, -⟩
      · rw [place] at hother
        exact ⟨sameCall_cleanupCall _ fun he => hother (congrArg some he.symm),
          .inr (harmless_of_none rfl)⟩
      · cases place.symm.trans he
    | ended place _ poisoned =>
      rcases hpc poisoned with hother | ⟨_, _, he, hlt, -⟩
      · rw [place.callId] at hother
        exact ⟨sameCall_cleanupCall _ fun he => hother (congrArg some he.symm),
          .inr (harmless_of_none rfl)⟩
      · rw [he] at place
        exact absurd place.2 (by omega)
    | terminated place poisoned =>
      rcases hpc poisoned with hother | ⟨_, _, he, -⟩
      · rw [place] at hother
        exact ⟨⟨rfl, rfl, rfl⟩, .inr (.inl hother)⟩
      · cases place.symm.trans he
    | @started callId' _ place poisoned =>
      rcases hpc poisoned with hother | ⟨_, _, he, -, hstarted⟩
      · rw [place] at hother
        exact ⟨sameCall_startOnce _ fun he => hother (congrArg some he.symm),
          .inr (harmless_of_none rfl)⟩
      · cases place.symm.trans he
        rcases startOnce_cases callId { s with sent := s.sent ++ if taken then [out] else [] } with
          ⟨hsame, -⟩ | ⟨c', hfound', -, hnot, -⟩
        · rw [hsame]
          exact ⟨⟨rfl, rfl, rfl⟩, .inr (harmless_of_none rfl)⟩
        · -- the relay was started before
          cases hfound.symm.trans hfound'
          rw [hstarted rfl] at hnot
          cases hnot
    | passed => exact ⟨⟨rfl, rfl, rfl⟩, .inr (harmless_of_none rfl)⟩

theorem sameCall_resumes (cfg : RouterConfig) (B : Base64) {s : Router} {id : Nat} {callId : Str}
    {c : CallInfo} (hfound : s.activeCalls.lookup callId = some c)
    (h : s.poisoned = true ∨ ∀ task, s.tasks.lookup id = some task → Harmless callId c task.pc)
    (outcomes : List (Bool × Draw)) :
    SameCall callId s
      (outcomes.foldl (fun s outcome => s.step cfg B (.resume id outcome.1 outcome.2)) s) := by
  induction outcomes generalizing s with
  | nil => exact ⟨rfl, rfl, rfl⟩
  | cons outcome outcomes ih =>
    obtain ⟨hsame, hnext⟩ := harmless_resume cfg B hfound h outcome.1 outcome.2
    exact hsame.trans (ih (hsame.entry.trans hfound) hnext)

/-! ## Messages that spare the call -/

/-- A response that tells the call nothing. -/
theorem harmless_response (cfg : RouterConfig) {s : Router} (id : Nat) {msg : Incoming} (d : Draw)
    {callId : Str} {statusCode : Nat} {c : CallInfo} (hid : extractCallId msg.text = .ok (some callId))
    (hstatus : extractStatusCode msg.text = some statusCode) (hp : s.poisoned = false)
    (hfound : s.activeCalls.lookup callId = some c) (hlocal : c.callerLocalCrypto.isSome = true)
    (h : Repeats B statusCode msg.text c) :
    SameCall callId s (s.handle cfg B id .response msg d).2 ∧
      ((s.handle cfg B id .response msg d).2.poisoned = true ∨
        Harmless callId c (s.handle cfg B id .response msg d).1) := by
  have hsame : (updateCall B statusCode msg.text c).2 = c := by
    unfold Repeats at h
    split at h
    · rename_i hringing
      exact (updateCall_ringing_same_iff hringing msg.text c).mpr h
    rename_i hringing
    split at h
    · rename_i hok
      subst hok
      exact (updateCall_answer_same_iff B msg.text c).mpr
        ⟨h.1, h.2.imp_right fun hknown => ⟨hknown.1, hknown.2.1⟩⟩
    · rename_i hok
      unfold updateCall
      split
      · rfl
      · rw [if_neg (by omega)]
  have hentry : (s.activeCalls.insert callId c).lookup callId = s.activeCalls.lookup callId :=
    (AList.lookup_insert _).trans hfound.symm
  rcases handle_response_cases cfg B id d hid hstatus hp hfound with ⟨e, -, he⟩ | ⟨hread, he⟩
  · rw [he, hsame]
    exact ⟨⟨hentry, rfl, rfl⟩, .inl rfl⟩
  · rw [he, hsame]
    refine ⟨⟨hentry, rfl, rfl⟩, .inr ?_⟩
    have hknown : statusCode = 200 → c.calleeRemoteCrypto.isSome = true ∧ c.relayStarted = true := by
      rintro rfl
      have h := (show NoNewTag msg.text c ∧ _ from h).2
      rcases h with hunread | ⟨-, -, hknown⟩
      · exact absurd hunread (readable_of_ok hread)
      · exact hknown
    rcases passOn_cases cfg B callId statusCode msg d c with
      ⟨hok, hnone, -⟩ | ⟨hnone, -⟩ | ⟨-, text, hforward⟩
    · have hsome := (hknown hok).1
      rw [hnone] at hsome
      cases hsome
    · rw [hnone] at hlocal
      cases hlocal
    · refine .inr ⟨statusCode, _, hforward, ?_, fun hok => (hknown hok).2⟩
      unfold Repeats at h
      split at h
      · omega
      split at h
      · omega
      · exact h

/-- A BYE of an outsider is refused. -/
theorem handleBye_outsider (cfg : RouterConfig) {s : Router} {msg : Incoming} (d : Draw) {callId : Str}
    {c : CallInfo} (hid : extractCallId msg.text = .ok (some callId))
    (hfound : s.activeCalls.lookup callId = some c) (h : Outsider msg c) :
    ∃ pc, pc.sending = none ∧ s.handleBye cfg msg d = (pc, s) := by
  rcases handleBye_cases cfg msg d s with
    hrefused | ⟨callId', fromTag, c', hid', hread, hfound', hside, -⟩
  · exact hrefused
  cases hid.symm.trans hid'
  cases hfound.symm.trans hfound'
  have hext : ∀ ext, msg.connectionExt ≠ some ext →
      (!(msg.connectionExt.getD []).isEmpty && decide (msg.connectionExt.getD [] = ext)) = false := by
    intro ext hne
    cases hconnection : msg.connectionExt with
    | none => rfl
    | some ext' =>
      have hne : ext' ≠ ext := fun he => hne (hconnection.trans (congrArg some he))
      simp [hne]
  have htag : ∀ tag, fromTag ≠ some tag →
      (!(fromTag.getD []).isEmpty && decide (fromTag.getD [] = tag)) = false := by
    intro tag hne
    cases fromTag with
    | none => rfl
    | some tag' => simpa using fun _ he => hne (congrArg some he)
  rcases hside with hside | hside
  · unfold byeFromCaller at hside
    rw [hext _ h.caller, htag _ fun he => h.callerTag (he ▸ hread)] at hside
    cases hside
  · unfold byeFromCallee at hside
    rw [hext _ h.callee, Bool.or_false, Bool.and_eq_true, decide_eq_true_eq] at hside
    obtain ⟨hnamed, htag⟩ := hside
    cases fromTag with
    | none => cases hnamed
    | some tag => exact absurd hread (h.calleeTag tag htag)

/-- The message up to its first send. -/
theorem harmless_receive (cfg : RouterConfig) {s : Router} {id : Nat} {handler : Handler} {msg : Incoming}
    {d : Draw} {callId : Str} {c : CallInfo} (hfresh : s.tasks.lookup id = none)
    (hfound : s.activeCalls.lookup callId = some c) (hlocal : c.callerLocalCrypto.isSome = true)
    (houtsider : Outsider msg c) (h : Spares cfg B s handler msg d callId c) :
    SameCall callId s (s.step cfg B (.receive id handler msg d)) ∧
      ((s.step cfg B (.receive id handler msg d)).poisoned = true ∨
        ∀ task, (s.step cfg B (.receive id handler msg d)).tasks.lookup id = some task →
          Harmless callId c task.pc) := by
  suffices hboth : SameCall callId s (s.handle cfg B id handler msg d).2 ∧
      ((s.handle cfg B id handler msg d).2.poisoned = true ∨
        Harmless callId c (s.handle cfg B id handler msg d).1) by
    rw [step_receive hfresh]
    refine ⟨⟨hboth.1.entry, hboth.1.session, hboth.1.sender⟩,
      hboth.2.imp_right fun hpc task htask => ?_⟩
    rw [settle_tasks, if_pos rfl] at htask
    cases htask
    exact hpc
  by_cases hp : s.poisoned = true
  · rcases hhandle : s.handle cfg B id handler msg d with ⟨pc, s'⟩
    cases handled hhandle with
    | quiet => exact ⟨⟨rfl, rfl, rfl⟩, .inl hp⟩
    | refused poisoned => cases hp.symm.trans poisoned
    | leaked poisoned => cases hp.symm.trans poisoned
    | opened poisoned => cases hp.symm.trans poisoned
    | answered _ _ poisoned => cases hp.symm.trans poisoned
    | unread _ _ poisoned => cases hp.symm.trans poisoned
    | ended poisoned => cases hp.symm.trans poisoned
    | untagged _ poisoned => cases hp.symm.trans poisoned
    | cancelled _ poisoned => cases hp.symm.trans poisoned
  obtain ⟨hinvite, hresponse⟩ := h.resolve_left hp
  by_cases hnamed : namedCall handler msg.text = some callId
  · have hid : handler ≠ .invite → extractCallId msg.text = .ok (some callId) := by
      intro hother
      unfold namedCall at hnamed
      split at hnamed
      · cases hnamed
      · rename_i hread
        rw [if_neg hother] at hnamed
        rw [hread, hnamed]
    cases handler with
    | invite =>
      rcases handleInvite_cases cfg B id msg d s with
        ⟨_, _, callId', _, hadmitted, -⟩ | ⟨-, pc, registrar, -, hidle, -, he⟩
      · cases hnamed.symm.trans (namedCall_of_admitted hadmitted)
        exact absurd hadmitted (hinvite rfl _ _ _)
      · change SameCall callId s (s.handleInvite cfg B id msg d).2 ∧
          ((s.handleInvite cfg B id msg d).2.poisoned = true ∨
            Harmless callId c (s.handleInvite cfg B id msg d).1)
        rw [he]
        exact ⟨⟨rfl, rfl, rfl⟩, .inr (harmless_of_none (callId_of_idle hidle))⟩
    | response =>
      have hid := hid (by decide)
      cases hstatus : extractStatusCode msg.text with
      | none =>
        have he : s.handleCalleeResponse cfg B msg d = (.done none, s) := by
          unfold handleCalleeResponse
          rw [hid]
          dsimp only
          rw [hstatus]
        rw [show s.handle cfg B id .response msg d = _ from he]
        exact ⟨⟨rfl, rfl, rfl⟩, .inr (harmless_of_none rfl)⟩
      | some statusCode =>
        exact harmless_response cfg id d hid hstatus (by simpa using hp) hfound hlocal
          (hresponse rfl hid statusCode hstatus)
    | ack =>
      obtain ⟨pc, hnone, he⟩ := handleAck_eq cfg msg d s
      rw [show s.handle cfg B id .ack msg d = _ from he]
      exact ⟨⟨rfl, rfl, rfl⟩, .inr (harmless_of_none hnone)⟩
    | bye =>
      obtain ⟨pc, hidle, he⟩ := handleBye_outsider cfg d (hid (by decide)) hfound houtsider
      rw [show s.handle cfg B id .bye msg d = _ from he]
      exact ⟨⟨rfl, rfl, rfl⟩, .inr (harmless_of_none (callId_of_idle hidle))⟩
    | cancel =>
      obtain ⟨pc, poisoned, hidle, he⟩ := handleCancel_stranger cfg d (hid (by decide)) hfound
        fun _ htag => absurd htag houtsider.callerTag
      rw [show s.handle cfg B id .cancel msg d = _ from he]
      exact ⟨⟨rfl, rfl, rfl⟩, .inr (harmless_of_none (callId_of_idle hidle))⟩
  · have hsame := sameCall_step cfg B (show ¬ Concerns callId s (.receive id handler msg d) from hnamed)
    rw [step_receive hfresh] at hsame
    exact ⟨⟨hsame.entry, hsame.session, hsame.sender⟩, .inr (.inl fun he => hnamed (callId_handle he))⟩

/-! ## Messages that do not -/

/-- An INVITE that is admitted leaves no call with its Call-ID but its own. -/
theorem lookup_acceptInvite (cfg : RouterConfig) (B : Base64) (id : Nat) (msg : Incoming) (d : Draw)
    {s : Router} (hp : s.poisoned = false) (callerExt calleeExt callId callerTag : Str) {c : CallInfo}
    (h : (s.acceptInvite cfg B id msg d callerExt calleeExt callId callerTag).2.activeCalls.lookup
      callId = some c) : c.invite = id := by
  have hgone : (s.cleanupCall callId).activeCalls.lookup callId ≠ some c := by
    rw [lookup_cleanupCall, if_pos rfl]
    exact nofun
  unfold acceptInvite at h
  rw [if_neg (by simpa using hp)] at h
  dsimp only at h
  split at h
  · exact absurd h hgone
  · exact absurd h hgone
  split at h
  · exact absurd h hgone
  unfold openCall at h
  split at h
  · exact absurd h hgone
  split at h
  · exact absurd h hgone
  · cases (AList.lookup_insert _).symm.trans h
    rfl

/-- A response that is refused, or a refusal of the callee, is the end of the call. -/
theorem lookup_resume_of_ends (cfg : RouterConfig) (B : Base64) {s : Router} (hp : s.poisoned = false)
    {id : Nat} {task : Task} {callId : Str} (hrunning : s.tasks.lookup id = some task)
    (hpc : (∃ out, task.pc = .reject callId out) ∨
      ∃ statusCode out, task.pc = .forward callId statusCode out ∧ 400 ≤ statusCode) (d : Draw) :
    (s.step cfg B (.resume id true d)).activeCalls.lookup callId = none := by
  have hgone : ∀ s : Router, (s.cleanupCall callId).activeCalls.lookup callId = none := by
    intro s
    rw [lookup_cleanupCall, if_pos rfl]
  rcases hpc with ⟨out, hpc⟩ | ⟨statusCode, out, hpc, hstatus⟩
  · rw [step_resume hrunning (by rw [hpc]; rfl)]
    simp only [proceed, hpc, cleanupThen, hp]
    exact hgone _
  · rw [step_resume hrunning (by rw [hpc]; rfl)]
    simp only [proceed, hpc, if_pos hstatus, cleanupThen, hp]
    exact hgone _

/-- A 200 that is passed on starts the relay of its call. -/
theorem relayStarted_of_resume (cfg : RouterConfig) (B : Base64) {s : Router} (hp : s.poisoned = false)
    {id : Nat} {task : Task} {callId : Str} {c : CallInfo} {out : Outgoing}
    (hrunning : s.tasks.lookup id = some task) (hpc : task.pc = .forward callId 200 out) (d : Draw)
    (hfound : (s.step cfg B (.resume id true d)).activeCalls.lookup callId = some c)
    (hcrypto : c.calleeRemoteCrypto.isSome = true) : c.relayStarted = true := by
  have hproceed : Router.proceed task true d { s with sent := s.sent ++ [out] } =
      (.done none, startOnce callId { s with sent := s.sent ++ [out] }) := by
    unfold proceed
    rw [hpc]
    dsimp only
    rw [if_neg (by decide), if_pos rfl, if_neg (by simpa using hp)]
  rw [step_resume hrunning (by rw [hpc]; rfl)] at hfound
  change (Router.proceed task true d { s with sent := s.sent ++ [out] }).2.activeCalls.lookup callId = _
    at hfound
  rw [hproceed] at hfound
  rcases startOnce_cases callId { s with sent := s.sent ++ [out] } with
    ⟨he, hstarted⟩ | ⟨c', -, -, -, he⟩
  · rw [he] at hfound
    exact hstarted c hfound hcrypto
  · rw [he] at hfound
    cases (AList.lookup_insert _).symm.trans hfound
    rfl

/-- A response that leaves the call alone, up to the end of its execution, tells it nothing. -/
theorem repeats_of_sameCall (cfg : RouterConfig) {s : Router} {id : Nat} {msg : Incoming} {d : Draw}
    {callId : Str} {statusCode : Nat} {c : CallInfo} (hfresh : s.tasks.lookup id = none)
    (hid : extractCallId msg.text = .ok (some callId))
    (hstatus : extractStatusCode msg.text = some statusCode) (hp : s.poisoned = false)
    (hfound : s.activeCalls.lookup callId = some c) (hlocal : c.callerLocalCrypto.isSome = true)
    (h : ∀ outcomes, SameCall callId s (process cfg B id .response msg d outcomes s)) :
    Repeats B statusCode msg.text c := by
  have hread := (h []).entry
  have hdone := (h [(true, d)]).entry
  change (s.step cfg B (.receive id .response msg d)).activeCalls.lookup callId = _ at hread
  change ((s.step cfg B (.receive id .response msg d)).step cfg B (.resume id true d)).activeCalls.lookup
    callId = _ at hdone
  rw [hfound] at hread hdone
  have hsame : (updateCall B statusCode msg.text c).2 = c := by
    rw [step_receive hfresh] at hread
    rcases handle_response_cases cfg B id d hid hstatus hp hfound with ⟨e, -, he⟩ | ⟨-, he⟩
    · rw [he] at hread
      exact Option.some.inj ((AList.lookup_insert _).symm.trans hread)
    · rw [he] at hread
      exact Option.some.inj ((AList.lookup_insert _).symm.trans hread)
  -- where its execution is when it is read without a panic
  have hplace : (updateCall B statusCode msg.text c).1 = .ok () →
      (s.step cfg B (.receive id .response msg d)).poisoned = false ∧
      (s.step cfg B (.receive id .response msg d)).tasks.lookup id =
        some ⟨.response, msg, passOn cfg B callId statusCode msg d c⟩ := by
    intro hok
    rw [step_receive hfresh]
    rcases handle_response_cases cfg B id d hid hstatus hp hfound with ⟨e, he, -⟩ | ⟨-, he⟩
    · cases hok.symm.trans he
    · rw [he, hsame]
      exact ⟨hp, by rw [settle_tasks, if_pos rfl]⟩
  have hforward : (updateCall B statusCode msg.text c).1 = .ok () →
      ¬ (statusCode = 200 ∧ c.calleeRemoteCrypto = none) ∧ ∃ out,
        passOn cfg B callId statusCode msg d c = .forward callId statusCode out := by
    intro hok
    obtain ⟨hp', hrunning⟩ := hplace hok
    rcases passOn_cases cfg B callId statusCode msg d c with
      ⟨-, -, _, he⟩ | ⟨hnone, -⟩ | ⟨hneither, _, he⟩
    · cases (lookup_resume_of_ends cfg B hp' hrunning (.inl ⟨_, he⟩) d).symm.trans hdone
    · rw [hnone] at hlocal
      cases hlocal
    · exact ⟨hneither, _, he⟩
  unfold Repeats
  split
  · rename_i hringing
    exact (updateCall_ringing_same_iff hringing msg.text c).mp hsame
  rename_i hringing
  split
  · rename_i hok
    subst hok
    obtain ⟨hnotag, hknown⟩ := (updateCall_answer_same_iff B msg.text c).mp hsame
    refine ⟨hnotag, ?_⟩
    by_cases hunread : Unreadable 200 msg.text c
    · exact .inl hunread
    · have hok : (updateCall B 200 msg.text c).1 = .ok () := by
        cases hresult : (updateCall B 200 msg.text c).1 with
        | ok _ => rfl
        | error e => exact absurd (unreadable_of_error hresult) hunread
      obtain ⟨hnocontact, hrepeats⟩ := hknown.resolve_left hunread
      obtain ⟨hp', hrunning⟩ := hplace hok
      obtain ⟨hneither, out, hpc⟩ := hforward hok
      have hcrypto : c.calleeRemoteCrypto.isSome = true :=
        Option.isSome_iff_ne_none.mpr fun hnone => hneither ⟨rfl, hnone⟩
      have hstarted := relayStarted_of_resume cfg B hp' hrunning hpc d hdone hcrypto
      exact .inr ⟨hnocontact, hrepeats, hcrypto, hstarted⟩
  · rename_i hok
    by_contra hlarge
    have hread : (updateCall B statusCode msg.text c).1 = .ok () := by
      unfold updateCall
      rw [if_neg (by omega), if_neg hringing, if_neg hok, if_pos (by omega)]
    obtain ⟨hp', hrunning⟩ := hplace hread
    obtain ⟨-, out, hpc⟩ := hforward hread
    cases (lookup_resume_of_ends cfg B hp' hrunning (.inr ⟨_, _, hpc, by omega⟩) d).symm.trans hdone

/-- **When an outsider leaves a call alone.** In every state that a run of the router reaches, a message of an
outsider leaves a call and its session as they were, up to the end of its execution, iff it is neither an
INVITE with the Call-ID of the call that is admitted nor a response with it that tells the call something,
or the table is not accessible. -/
theorem undisturbed_iff (cfg : RouterConfig) (B : Base64) (media : MediaRelayManager)
    (events : List RouterEvent) {id : Nat} {handler : Handler} {msg : Incoming} {d : Draw} {callId : Str}
    {c : CallInfo} (hfound : (run cfg B media events).activeCalls.lookup callId = some c)
    (hfresh : (run cfg B media events).tasks.lookup id = none) (houtsider : Outsider msg c) :
    (∀ outcomes, SameCall callId (run cfg B media events)
      (process cfg B id handler msg d outcomes (run cfg B media events))) ↔
      Spares cfg B (run cfg B media events) handler msg d callId c := by
  have hlocal := run_callerLocalCrypto hfound
  constructor
  · intro h
    by_cases hp : (run cfg B media events).poisoned = true
    · exact .inl hp
    have hp : (run cfg B media events).poisoned = false := by simpa using hp
    refine .inr ⟨?_, ?_⟩
    · rintro rfl callerExt calleeExt callerTag hadmitted
      have hread := (h []).entry
      change ((run cfg B media events).step cfg B (.receive id .invite msg d)).activeCalls.lookup callId = _
        at hread
      rw [step_receive hfresh, hfound] at hread
      rcases handleInvite_cases cfg B id msg d (run cfg B media events) with
        ⟨_, _, _, _, hadmitted', he⟩ | ⟨hnone, -⟩
      · cases hadmitted.symm.trans hadmitted'
        change ((run cfg B media events).handleInvite cfg B id msg d).2.activeCalls.lookup callId = _
          at hread
        rw [he] at hread
        -- the call of a new execution is another one
        have hinvite := lookup_acceptInvite cfg B id msg d hp callerExt calleeExt callId callerTag hread
        have hknown := run_known cfg B media events callId c hfound
        rw [hinvite, hfresh] at hknown
        cases hknown
      · cases hnone.symm.trans hadmitted
    · rintro rfl hid statusCode hstatus
      exact repeats_of_sameCall cfg hfresh hid hstatus hp hfound hlocal h
  · intro h outcomes
    obtain ⟨hsame, hharmless⟩ := harmless_receive cfg hfresh hfound hlocal houtsider h
    exact hsame.trans (sameCall_resumes cfg B (hsame.entry.trans hfound) hharmless outcomes)

/-! ## Two phones -/

/-- A message of somebody who knows the Call-ID. -/
def strangerMessage (first : String) : Incoming where
  text := ([first, "From: <sip:1003@example.com>;tag=x", "To: <sip:1002@example.com>;tag=y", "Call-ID: c",
    "CSeq: 1 INVITE", ""].flatMap (·.toList ++ crlf))
  sink := .stream 3
  fromAddr := phoneAddr 3

theorem outsider_stranger {first : String} {c : CallInfo}
    (htag : extractFromTag (strangerMessage first).text = .ok (some "x".toList))
    (hc : c.callerTag = "a".toList ∧ c.calleeTag = none) : Outsider (strangerMessage first) c := by
  refine ⟨nofun, nofun, ?_, ?_⟩
  · rw [htag, hc.1]
    decide
  · rw [hc.2]
    exact nofun

/-- The BYE of a stranger. -/
theorem undisturbed_iff_concrete :
    ∃ c, (run phoneConfig .standard (.new 20000 20100 "192.0.2.1".toList) phoneCalls).activeCalls.lookup
      "c".toList = some c ∧ ∀ outcomes, SameCall "c".toList
        (run phoneConfig .standard (.new 20000 20100 "192.0.2.1".toList) phoneCalls)
        (process phoneConfig .standard 1 .bye (strangerMessage "BYE sip:1002@example.com SIP/2.0") phoneDraw
          outcomes (run phoneConfig .standard (.new 20000 20100 "192.0.2.1".toList) phoneCalls)) := by
  have hreads : extractFromTag (strangerMessage "BYE sip:1002@example.com SIP/2.0").text =
        .ok (some "x".toList) ∧
      (phoneCalled.activeCalls.lookup "c".toList).map (fun c => (c.callerTag, c.calleeTag)) =
        some ("a".toList, none) ∧ (phoneCalled.tasks.lookup 1).isNone = true := by decide +kernel
  obtain ⟨htag, hcall, hfresh⟩ := hreads
  obtain ⟨c, hfound, hc⟩ := Option.map_eq_some_iff.mp hcall
  have houtsider := outsider_stranger htag ⟨congrArg Prod.fst hc, congrArg Prod.snd hc⟩
  have hfound : (run phoneConfig .standard (.new 20000 20100 "192.0.2.1".toList) phoneCalls).activeCalls.lookup
      "c".toList = some c := by rw [phoneCalls_eq]; exact hfound
  have hfresh : (run phoneConfig .standard (.new 20000 20100 "192.0.2.1".toList) phoneCalls).tasks.lookup 1 =
      none := by rw [phoneCalls_eq]; exact Option.isNone_iff_eq_none.mp hfresh
  have hspares : Spares phoneConfig .standard
      (run phoneConfig .standard (.new 20000 20100 "192.0.2.1".toList) phoneCalls) .bye
      (strangerMessage "BYE sip:1002@example.com SIP/2.0") phoneDraw "c".toList c := .inr ⟨nofun, nofun⟩
  exact ⟨c, hfound, (undisturbed_iff _ _ _ _ hfound hfresh houtsider).mpr hspares⟩

/-- The 486 of a stranger. -/
theorem outsider_disturbs :
    ∃ c, (run phoneConfig .standard (.new 20000 20100 "192.0.2.1".toList) phoneCalls).activeCalls.lookup
      "c".toList = some c ∧ Outsider (strangerMessage "SIP/2.0 486 Busy Here") c ∧
      ¬ SameCall "c".toList (run phoneConfig .standard (.new 20000 20100 "192.0.2.1".toList) phoneCalls)
        (process phoneConfig .standard 1 .response (strangerMessage "SIP/2.0 486 Busy Here") phoneDraw
          [(true, phoneDraw)]
          (run phoneConfig .standard (.new 20000 20100 "192.0.2.1".toList) phoneCalls)) := by
  have hreads : extractFromTag (strangerMessage "SIP/2.0 486 Busy Here").text = .ok (some "x".toList) ∧
      (phoneCalled.activeCalls.lookup "c".toList).map (fun c => (c.callerTag, c.calleeTag)) =
        some ("a".toList, none) ∧
      (process phoneConfig .standard 1 .response (strangerMessage "SIP/2.0 486 Busy Here") phoneDraw
        [(true, phoneDraw)] phoneCalled).activeCalls.lookup "c".toList = none := by decide +kernel
  obtain ⟨htag, hcall, hgone⟩ := hreads
  obtain ⟨c, hfound, hc⟩ := Option.map_eq_some_iff.mp hcall
  rw [phoneCalls_eq]
  refine ⟨c, hfound, outsider_stranger htag ⟨congrArg Prod.fst hc, congrArg Prod.snd hc⟩, fun h => ?_⟩
  cases hfound.symm.trans (h.entry.symm.trans hgone)

end Router

end Minghe.Sip
