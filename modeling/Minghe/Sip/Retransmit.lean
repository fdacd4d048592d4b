import Minghe.Sip.Sections

/-!
# A 200 and its retransmissions

Each retransmission of a 200 is handled from the start again: the entry is updated, the SDP rewritten, and
the relay started or not.

* `Overlap`: the router, any number of executions of `handle_callee_response`, and what they have forwarded
  and entered. `Overlap.step` runs one lock section of one of them, or something else in the router.
* `Retransmits`: an event in which no other message of the call is handled.
* `one_relay`: however the executions for a 200 and its retransmissions overlap, `start_media_relay` is
  entered once at most for the call, and all of them forward the same.
-/

namespace Minghe.Sip

open Minghe.Lib
open Minghe.Media.Relay (MediaRelayManager)
open Minghe.Media.Srtp (Base64 SuiteKeys)

/-- The router, the executions that overlap, the responses that they have handed to the callers, and the
calls for which they have entered `start_media_relay`. -/
structure Overlap where
  router : Router
  executions : Table Nat (Incoming × ResponsePc) := ∅
  forwarded : List (Str × Outgoing) := []
  entered : List Str := []

/-- What happens: something else in the router, a response is handed to a new execution, or an execution
goes on. -/
inductive OverlapEvent where
  | other (event : RouterEvent)
  | spawn (id : Nat) (msg : Incoming)
  | advance (id : Nat) (taken : Bool) (d : Draw)

namespace Overlap

/-- One event. -/
def step (cfg : RouterConfig) (B : Base64) (o : Overlap) : OverlapEvent → Overlap
  | .other event => { o with router := o.router.step cfg B event }
  | .spawn id msg =>
    match o.executions.lookup id with
    | some _ => o
    | none => { o with executions := o.executions.insert id (msg, .entered) }
  | .advance id taken d =>
    match o.executions.lookup id with
    | none => o
    | some (msg, pc) =>
      let (pc, router) := o.router.next cfg B msg taken d pc
      { router
        executions := o.executions.insert id (msg, pc)
        forwarded := o.forwarded ++ pc.forwards.toList
        entered := o.entered ++ pc.enters.toList }

/-- Everything that overlaps from a state of the router on. -/
def run (cfg : RouterConfig) (B : Base64) (s : Router) (events : List OverlapEvent) : Overlap :=
  events.foldl (step cfg B) { router := s }

/-- No message of the call is handled but the one text. -/
def Retransmits (callId text : Str) (o : Overlap) : OverlapEvent → Prop
  | .other event => ¬ Router.Concerns callId o.router event
  | .spawn _ msg => extractCallId msg.text = .ok (some callId) → msg.text = text
  | .advance .. => True

end Overlap

/-! ## One acceptable 200 -/

namespace Router

section

variable {cfg : RouterConfig} {B : Base64}

/-- A 200 that is acceptable, its call and its body. -/
structure Acceptable (B : Base64) (callId text body : Str) : Prop where
  callId : extractCallId text = .ok (some callId)
  status : extractStatusCode text = some 200
  body : extractBody text = .ok (some body)
  crypto : (answerCrypto B text).isSome = true

/-- Where an execution may be, when the 200 is the only message of its call: it reads what belongs to the
call, and refuses nothing. -/
def At (vars : ResponseVars) (crypto : SuiteKeys) (text body : Str) (msg : Incoming) : ResponsePc → Prop
  | .entered => extractCallId msg.text = .ok (some vars.callId) → msg.text = text
  | .readCrypto vars' body' => vars'.callId = vars.callId → msg.text = text ∧ vars' = vars ∧ body' = body
  | .readTag vars' body' crypto' =>
    vars'.callId = vars.callId → msg.text = text ∧ vars' = vars ∧ body' = body ∧ crypto' = crypto
  | .reject callId _ | .cleanup callId => callId ≠ vars.callId
  | .forward callId statusCode _ => callId = vars.callId → statusCode = 200
  | .testAndSet _ | .startRelay _ | .done | .panicked => True

variable {vars : ResponseVars} {crypto : SuiteKeys} {text body : Str}

/-- Executions for other calls may be anywhere. -/
theorem At.of_other {msg : Incoming} {pc : ResponsePc} (hentered : pc ≠ .entered)
    (h : pc.callId ≠ some vars.callId) : At vars crypto text body msg pc := by
  cases pc with
  | entered => exact absurd rfl hentered
  | readCrypto => exact fun he => absurd (congrArg some he) h
  | readTag => exact fun he => absurd (congrArg some he) h
  | reject => exact fun he => h (congrArg some he)
  | cleanup => exact fun he => h (congrArg some he)
  | forward => exact fun he => absurd (congrArg some he) h
  | _ => trivial

/-- What an execution knows of its call it does not forget. -/
theorem callId_afterUpdate (cfg : RouterConfig) (vars : ResponseVars) (missing : Bool) (text : Str)
    (d : Draw) : afterUpdate cfg vars missing text d ≠ .entered ∧
      ((afterUpdate cfg vars missing text d).callId = none ∨
        (afterUpdate cfg vars missing text d).callId = some vars.callId) := by
  unfold afterUpdate
  split
  · exact ⟨nofun, .inr rfl⟩
  · split
    · exact ⟨nofun, .inl rfl⟩
    · exact ⟨nofun, .inr rfl⟩
    · exact ⟨nofun, .inr rfl⟩

theorem callId_of_forwards {pc : ResponsePc} {callId : Str} {out : Outgoing}
    (h : pc.forwards = some (callId, out)) : pc.callId = some callId := by
  cases pc with
  | forward => cases h; rfl
  | _ => cases h

/-- An acceptable answer leaves keys in the entry. -/
theorem isSome_updateCall {callId : Str} (h : Acceptable B callId text body) {c : CallInfo}
    (hread : (updateCall B 200 text c).1 = .ok ()) :
    (updateCall B 200 text c).2.calleeRemoteCrypto.isSome = true := by
  have hsome := h.crypto
  have hupdated := updated B 200 text c
  revert hupdated
  rw [hread]
  generalize (updateCall B 200 text c).2 = c'
  intro hupdated
  cases hupdated with
  | passed _ other => exact absurd (by decide) other
  | ringing _ status => exact absurd status (by decide)
  | answered => rfl
  | refused _ _ _ answer =>
    rw [answer] at hsome
    cases hsome
  | failed status => exact absurd status (by decide)

/-- The entry has what an answer is built from. -/
def Stored (vars : ResponseVars) (crypto : SuiteKeys) (tag : Nat) (s : Router) : Prop :=
  ∃ c, s.activeCalls.lookup vars.callId = some c ∧ responseVars vars.callId 200 c = vars ∧
    c.callerLocalCrypto = some crypto ∧ c.callerRemoteCryptoTag = tag

/-- The response that is forwarded, whichever execution it is. -/
def answerOf (cfg : RouterConfig) (B : Base64) (vars : ResponseVars) (crypto : SuiteKeys) (tag : Nat)
    (text body : Str) : Outgoing :=
  forwardedWith cfg vars text true (answerSdp cfg B vars crypto tag body)

/-- The first section of an execution for the call. -/
theorem afterUpdate_acceptable (cfg : RouterConfig) (h : Acceptable B vars.callId text body) {c : CallInfo}
    (hvars : responseVars vars.callId 200 c = vars) (hread : (updateCall B 200 text c).1 = .ok ())
    (d : Draw) :
    afterUpdate cfg (responseVars vars.callId 200 (updateCall B 200 text c).2) (decide (200 = 200) &&
      (updateCall B 200 text c).2.calleeRemoteCrypto.isNone) text d = .readCrypto vars body := by
  have hsome := isSome_updateCall h hread
  have hnone : (updateCall B 200 text c).2.calleeRemoteCrypto.isNone = false := by
    rw [← Option.not_isSome, hsome]
    rfl
  rw [(sameAnswer_updateCall B vars.callId 200 text c).vars, hvars]
  unfold afterUpdate
  rw [hnone, h.body]
  rfl

/-- **A section of an execution**, when the 200 is the only message of its call. -/
theorem at_next (cfg : RouterConfig) (h : Acceptable B vars.callId text body) {tag : Nat} {s : Router}
    (hstored : Stored vars crypto tag s) {msg : Incoming} (taken : Bool) (d : Draw) {pc : ResponsePc}
    (hat : At vars crypto text body msg pc) :
    At vars crypto text body msg (s.next cfg B msg taken d pc).1 ∧
      ∀ out, (s.next cfg B msg taken d pc).1.forwards = some (vars.callId, out) →
        out = answerOf cfg B vars crypto tag text body := by
  obtain ⟨c, hfound, hvars, hcrypto, htag⟩ := hstored
  have hover : ∀ {pc' : ResponsePc}, pc' ≠ .entered → pc'.callId ≠ some vars.callId →
      At vars crypto text body msg pc' ∧ ∀ out, pc'.forwards = some (vars.callId, out) →
        out = answerOf cfg B vars crypto tag text body :=
    fun hentered hother => ⟨.of_other hentered hother,
      fun out hout => absurd (callId_of_forwards hout) hother⟩
  cases pc with
  | entered =>
    change At vars crypto text body msg (s.updateEntry cfg B msg d).1 ∧
      ∀ out, (s.updateEntry cfg B msg d).1.forwards = _ → _
    rcases updateEntry_cases cfg B msg d s with ⟨-, he | he⟩ |
      ⟨callId, statusCode, c', hid, hstatus, hfound', -, he | ⟨hread, he⟩⟩
    · rw [he]
      exact hover nofun nofun
    · rw [he]
      exact hover nofun nofun
    · rw [he]
      exact hover nofun nofun
    · rw [he]
      by_cases hcall : callId = vars.callId
      · subst hcall
        obtain rfl : text = msg.text := (hat hid).symm
        cases h.status.symm.trans hstatus
        cases hfound.symm.trans hfound'
        rw [afterUpdate_acceptable cfg h hvars hread]
        exact ⟨fun _ => ⟨rfl, rfl, rfl⟩, nofun⟩
      · obtain ⟨hentered, hnone | hsome⟩ := callId_afterUpdate cfg
          (responseVars callId statusCode (updateCall B statusCode msg.text c').2) (decide (statusCode = 200) &&
            (updateCall B statusCode msg.text c').2.calleeRemoteCrypto.isNone) msg.text d
        · exact hover hentered (hnone ▸ nofun)
        · refine hover hentered ?_
          rw [hsome]
          exact fun he => hcall (Option.some.inj he)
  | readCrypto vars' body' =>
    unfold next
    dsimp only
    by_cases hcall : vars'.callId = vars.callId
    · obtain ⟨rfl, rfl, rfl⟩ := hat hcall
      rw [hfound, Option.bind_some, hcrypto]
      split
      · exact hover nofun nofun
      · exact ⟨fun _ => ⟨rfl, rfl, rfl, rfl⟩, nofun⟩
    · have hcall : some vars'.callId ≠ some vars.callId := fun he => hcall (Option.some.inj he)
      split
      · exact hover nofun nofun
      split
      · exact hover nofun hcall
      · exact hover nofun hcall
  | readTag vars' body' crypto' =>
    unfold next
    dsimp only
    by_cases hcall : vars'.callId = vars.callId
    · obtain ⟨rfl, rfl, rfl, rfl⟩ := hat hcall
      rw [hfound, Option.map_some, Option.getD_some, htag]
      split
      · exact hover nofun nofun
      · refine ⟨fun _ => ?_, ?_⟩
        · rw [← hvars]
          rfl
        · rintro _ ⟨⟩
          rfl
    · have hcall : some vars'.callId ≠ some vars.callId := fun he => hcall (Option.some.inj he)
      split
      · exact hover nofun nofun
      · exact hover nofun hcall
  | reject callId => exact ⟨hat, nofun⟩
  | forward callId statusCode =>
    unfold next
    dsimp only
    split
    · rename_i hfailed
      refine ⟨fun hcall => ?_, nofun⟩
      rw [hat hcall] at hfailed
      exact absurd hfailed (by decide)
    · split
      · exact ⟨trivial, nofun⟩
      · exact hover nofun nofun
  | cleanup callId =>
    unfold next
    dsimp only
    split <;> exact hover nofun nofun
  | testAndSet callId =>
    unfold next testAndSet
    dsimp only
    repeat' split
    all_goals exact ⟨trivial, nofun⟩
  | startRelay callId =>
    unfold next
    dsimp only
    split <;> exact hover nofun nofun
  | done => exact hover nofun nofun
  | panicked => exact hover nofun nofun

end

end Router

namespace Overlap

open Router

variable {cfg : RouterConfig} {B : Base64} {vars : ResponseVars} {crypto : SuiteKeys} {tag : Nat}
  {text body : Str}

/-- The relay of the call has been started. -/
def Started (callId : Str) (o : Overlap) : Prop :=
  ∃ c, o.router.activeCalls.lookup callId = some c ∧ c.relayStarted = true

/-- What holds while the executions overlap. -/
structure Steady (cfg : RouterConfig) (B : Base64) (vars : ResponseVars) (crypto : SuiteKeys) (tag : Nat)
    (text body : Str) (o : Overlap) : Prop where
  stored : Stored vars crypto tag o.router
  place : ∀ id msg pc, o.executions.lookup id = some (msg, pc) → At vars crypto text body msg pc
  forwarded : ∀ out, (vars.callId, out) ∈ o.forwarded → out = answerOf cfg B vars crypto tag text body
  entered : o.entered.count vars.callId = 0 ∨ o.entered.count vars.callId = 1 ∧ Started vars.callId o

theorem steady_start (cfg : RouterConfig) (B : Base64) {s : Router} {callId : Str} {c : CallInfo}
    (hfound : s.activeCalls.lookup callId = some c) (hcrypto : c.callerLocalCrypto = some crypto)
    (text body : Str) : Steady cfg B (responseVars callId 200 c) crypto c.callerRemoteCryptoTag text body
      { router := s } := by
  refine ⟨⟨c, hfound, rfl, hcrypto, rfl⟩, fun id msg pc hexecution => ?_, fun out hout => ?_, .inl rfl⟩
  · cases (AList.lookup_empty id).symm.trans hexecution
  · cases hout

theorem Steady.advance {o : Overlap} (h : Steady cfg B vars crypto tag text body o)
    (ha : Acceptable B vars.callId text body) (id : Nat) (taken : Bool) (d : Draw) :
    Steady cfg B vars crypto tag text body (o.step cfg B (.advance id taken d)) := by
  unfold step
  dsimp only
  split
  · exact h
  rename_i msg pc hexecution
  have hat := h.place id msg pc hexecution
  obtain ⟨hat', hforwards⟩ := at_next cfg ha h.stored taken d hat
  obtain ⟨c, hfound, hvars, hcrypto, htag⟩ := h.stored
  have hkept : pc ≠ .cleanup vars.callId := by
    rintro rfl
    exact hat rfl
  obtain ⟨c', hfound', hsame⟩ := sameAnswer_next cfg B hfound msg taken d hkept
  refine ⟨⟨c', hfound', hsame.vars.trans hvars, hsame.callerLocalCrypto.trans hcrypto,
    hsame.callerRemoteCryptoTag.trans htag⟩, ?_, ?_, ?_⟩
  · intro id' msg' pc' hexecution'
    rcases Table.lookup_insert_eq_some hexecution' with ⟨-, he⟩ | ⟨-, hold⟩
    · cases he
      exact hat'
    · exact h.place id' msg' pc' hold
  · intro out hout
    rcases List.mem_append.mp hout with hold | hnew
    · exact h.forwarded out hold
    · exact hforwards out (Option.mem_toList.mp hnew)
  · change (o.entered ++ _).count vars.callId = 0 ∨ (o.entered ++ _).count vars.callId = 1 ∧ _
    rw [List.count_append]
    by_cases henters : (o.router.next cfg B msg taken d pc).1.enters = some vars.callId
    · -- the flag was not set, so none has entered it yet
      obtain ⟨c₀, hfound₀, hfalse, hset⟩ := enters_next henters
      cases hfound.symm.trans hfound₀
      rw [henters]
      rcases h.entered with hzero | ⟨-, c₁, hfound₁, htrue⟩
      · right
        rw [hzero]
        exact ⟨by simp, _, hset, rfl⟩
      · cases hfound.symm.trans hfound₁
        cases hfalse.symm.trans htrue
    · have hzero : ((o.router.next cfg B msg taken d pc).1.enters.toList).count vars.callId = 0 :=
        List.count_eq_zero.mpr fun hmem => henters (Option.mem_toList.mp hmem)
      rw [hzero, Nat.add_zero]
      refine h.entered.imp_right fun ⟨hone, c₀, hfound₀, hstarted⟩ => ⟨hone, c', hfound', ?_⟩
      cases hfound.symm.trans hfound₀
      exact hsame.relayStarted hstarted

theorem Steady.step {o : Overlap} (h : Steady cfg B vars crypto tag text body o)
    (ha : Acceptable B vars.callId text body) {event : OverlapEvent}
    (honly : Retransmits vars.callId text o event) :
    Steady cfg B vars crypto tag text body (o.step cfg B event) := by
  cases event with
  | other event =>
    have hlookup := (sameCall_step cfg B honly).entry
    refine ⟨?_, h.place, h.forwarded, h.entered.imp_right fun ⟨hone, c, hc⟩ => ⟨hone, c, ?_⟩⟩
    · obtain ⟨c, hc⟩ := h.stored
      exact ⟨c, hlookup.trans hc.1, hc.2⟩
    · exact ⟨hlookup.trans hc.1, hc.2⟩
  | spawn id msg =>
    unfold Overlap.step
    dsimp only
    split
    · exact h
    · refine ⟨h.stored, fun id' msg' pc' hexecution => ?_, h.forwarded, h.entered⟩
      rcases Table.lookup_insert_eq_some hexecution with ⟨-, he⟩ | ⟨-, hold⟩
      · cases he
        exact honly
      · exact h.place id' msg' pc' hold
  | advance id taken d => exact h.advance ha id taken d

/-- **One relay for each call.** However the executions for an acceptable 200 and its retransmissions
overlap, `start_media_relay` is entered once at most for the call, and what they forward is the same. -/
theorem one_relay (cfg : RouterConfig) (B : Base64) (media : MediaRelayManager) (before : List RouterEvent)
    {callId text : Str} {c : CallInfo}
    (hfound : (Router.run cfg B media before).activeCalls.lookup callId = some c)
    (hid : extractCallId text = .ok (some callId)) (hstatus : extractStatusCode text = some 200)
    (hoffered : (answerCrypto B text).isSome = true) (events : List OverlapEvent)
    (honly : ∀ done event, done ++ [event] <+: events →
      Retransmits callId text (run cfg B (Router.run cfg B media before) done) event) :
    (run cfg B (Router.run cfg B media before) events).entered.count callId ≤ 1 ∧
      ∀ out out', (callId, out) ∈ (run cfg B (Router.run cfg B media before) events).forwarded →
        (callId, out') ∈ (run cfg B (Router.run cfg B media before) events).forwarded → out = out' := by
  obtain ⟨crypto, hcrypto⟩ := Option.isSome_iff_exists.mp (run_callerLocalCrypto hfound)
  obtain ⟨body, hbody⟩ : ∃ body, extractBody text = .ok (some body) := by
    rw [extractBody_eq]
    split
    · rename_i hempty
      unfold answerCrypto at hoffered
      rw [if_pos hempty] at hoffered
      cases hoffered
    · exact ⟨_, rfl⟩
  have ha : Acceptable B callId text body := ⟨hid, hstatus, hbody, hoffered⟩
  have hstart : Steady cfg B (responseVars callId 200 c) crypto c.callerRemoteCryptoTag text body
      (run cfg B (Router.run cfg B media before) []) := steady_start cfg B hfound hcrypto text body
  have hsteady : Steady cfg B (responseVars callId 200 c) crypto c.callerRemoteCryptoTag text body
      (run cfg B (Router.run cfg B media before) events) := by
    refine prefix_induction (P := fun done => Steady cfg B (responseVars callId 200 c) crypto
      c.callerRemoteCryptoTag text body (run cfg B (Router.run cfg B media before) done))
      hstart (fun done event _ hevent ih => ?_) List.nil_prefix (List.prefix_refl events)
    have hstep : run cfg B (Router.run cfg B media before) (done ++ [event]) =
      (run cfg B (Router.run cfg B media before) done).step cfg B event := List.foldl_concat ..
    rw [hstep]
    exact ih.step ha (honly done event hevent)
  constructor
  · rcases hsteady.entered with hzero | ⟨hone, -⟩
    · exact hzero.trans_le (by decide)
    · exact hone.le
  · intro out out' hout hout'
    rw [hsteady.forwarded out hout, hsteady.forwarded out' hout']

/-! ## Two phones -/

/-- 1002 has answered twice, and the two executions overlap. -/
def phoneAnswers : List OverlapEvent :=
  [.spawn 1 (phoneResponse "200 OK" (phoneSdp phoneCrypto)),
    .spawn 2 (phoneResponse "200 OK" (phoneSdp phoneCrypto)),
    .advance 1 true phoneDraw, .advance 2 true phoneDraw, .advance 2 true phoneDraw,
    .advance 2 true phoneDraw, .advance 1 true phoneDraw, .advance 1 true phoneDraw,
    .advance 1 true phoneDraw, .advance 2 true phoneDraw, .advance 2 true phoneDraw,
    .advance 1 true phoneDraw, .advance 2 true phoneDraw]

example : (run phoneConfig .standard phoneCalled phoneAnswers).entered = ["c".toList] := by decide +kernel

theorem one_relay_concrete :
    (run phoneConfig .standard (Router.run phoneConfig .standard (.new 20000 20100 "192.0.2.1".toList)
      phoneCalls) phoneAnswers).entered.count "c".toList ≤ 1 ∧
    ∀ out out',
      ("c".toList, out) ∈ (run phoneConfig .standard (Router.run phoneConfig .standard
        (.new 20000 20100 "192.0.2.1".toList) phoneCalls) phoneAnswers).forwarded →
      ("c".toList, out') ∈ (run phoneConfig .standard (Router.run phoneConfig .standard
        (.new 20000 20100 "192.0.2.1".toList) phoneCalls) phoneAnswers).forwarded → out = out' := by
  have hreads : extractCallId (phoneResponse "200 OK" (phoneSdp phoneCrypto)).text =
        .ok (some "c".toList) ∧
      extractStatusCode (phoneResponse "200 OK" (phoneSdp phoneCrypto)).text = some 200 ∧
      (answerCrypto .standard (phoneResponse "200 OK" (phoneSdp phoneCrypto)).text).isSome = true ∧
      (phoneCalled.activeCalls.lookup "c".toList).isSome = true := by decide +kernel
  obtain ⟨hid, hstatus, hoffered, hcall⟩ := hreads
  obtain ⟨c, hfound⟩ := Option.isSome_iff_exists.mp hcall
  rw [← phoneCalls_eq] at hfound
  have honly : Stepwise (step phoneConfig .standard)
      (Retransmits "c".toList (phoneResponse "200 OK" (phoneSdp phoneCrypto)).text)
      { router := Router.run phoneConfig .standard (.new 20000 20100 "192.0.2.1".toList) phoneCalls }
      phoneAnswers :=
    ⟨fun _ => rfl, fun _ => rfl, trivial, trivial, trivial, trivial, trivial, trivial, trivial, trivial,
      trivial, trivial, trivial, trivial⟩
  exact one_relay phoneConfig .standard (.new 20000 20100 "192.0.2.1".toList) phoneCalls hfound hid hstatus
    hoffered phoneAnswers honly.forall

end Overlap

end Minghe.Sip
