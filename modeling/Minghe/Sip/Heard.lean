import Minghe.Media.Transparent
import Minghe.Sip.Advertised
import Minghe.Sip.Authentic

/-!
# Who hears whom

A relay of the whole server is that of a call which two authenticated parties set up. One of them sent the
INVITE, the other one is sent an INVITE with an SDP of the server; a 200 was read, and the first one is sent
a 200 with an SDP of the server. What each of the two has to know is in these descriptions: where to send its
media, with which keys to protect it, and with which keys to open what comes.

* `OfferedBy`, `AnsweredBy`: what stands behind an entry of the table, for the router.
* `Backed`: the same for the whole server.
* `Passes`: a relay carries the packets of one side to the other one. `Heard`: it does so for the keys in the
  four descriptions, in both directions.
* `calls_heard`: every relay that the whole server has started was negotiated by authenticated parties; if
  their descriptions are well placed, the parties are sent the ports of the relay, and each hears what the
  other one says.
-/

namespace Minghe.Sip

open Minghe.Lib
open Minghe.Media.Relay
open Minghe.Media.Srtp (Base64 GcmLaws Primitives Schedule SrtpCryptoSuite SuiteKeys climbs protectedBy)
open Minghe.Media.Srtp.SrtpCryptoSuite (unprotectRtp)

namespace Router

variable {cfg : RouterConfig} {B : Base64}

/-! ## What stands behind an entry -/

/-- The entry comes from that of an INVITE, which is sent on with the SDP `sdp`. -/
structure OfferedBy (cfg : RouterConfig) (B : Base64) (s : Router) (msg : Incoming) (d : Draw) (callId : Str)
    (out : Outgoing) (sdp : Str) (c : CallInfo) : Prop where
  invited : Invited cfg B s c.invite msg d callId out
  sends : InviteWith cfg msg d sdp out
  grown : ∃ callerExt calleeExt callerTag contact plan session, plan.body = bodyOf msg.text ∧
    extractSrtpCryptoFromSdp B (bodyOf msg.text) = some (plan.cryptoTag, plan.crypto) ∧
    sdp = calleeSdp cfg B plan session d ∧
    Grown (newCall c.invite msg callerExt calleeExt callId callerTag contact plan session d) c

/-- The keys of the callee in the entry are those of a 200, which is sent on with the SDP `sdp`. -/
structure AnsweredBy (cfg : RouterConfig) (B : Base64) (s : Router) (answer : Nat) (msg : Incoming) (d : Draw)
    (callId : Str) (out : Outgoing) (sdp : Str) (theirs : SuiteKeys) (c : CallInfo) : Prop where
  handled : (s.handle cfg B answer .response msg d).1 = .forward callId 200 out
  sends : ∃ sink contactUri, out = .answer c.invite 200 sink (buildForwardedInviteResponse c.originalInvite
    msg.text 200 "OK".toList contactUri sdp) (some msg.text)
  crypto : answerCrypto B msg.text = some theirs
  sdp_eq : ∃ ours, c.callerLocalCrypto = some ours ∧ sdp = callerSdp cfg B ours (bodyOf msg.text) c

theorem OfferedBy.grow {s : Router} {msg : Incoming} {d : Draw} {callId : Str} {out : Outgoing} {sdp : Str}
    {c c' : CallInfo} (h : OfferedBy cfg B s msg d callId out sdp c) (hgrown : Grown c c') :
    OfferedBy cfg B s msg d callId out sdp c' := by
  have hinvite : c'.invite = c.invite := by
    obtain ⟨_, _, _, _, _, _, rfl⟩ := hgrown
    rfl
  obtain ⟨callerExt, calleeExt, callerTag, contact, plan, session, hbody, hcrypto, hsdp, h₀⟩ := h.grown
  refine ⟨hinvite ▸ h.invited, h.sends, callerExt, calleeExt, callerTag, contact, plan, session, hbody,
    hcrypto, hsdp, ?_⟩
  rw [hinvite]
  exact h₀.trans hgrown

theorem AnsweredBy.grow {s : Router} {answer : Nat} {msg : Incoming} {d : Draw} {callId : Str} {out : Outgoing}
    {sdp : Str} {theirs : SuiteKeys} {c c' : CallInfo}
    (h : AnsweredBy cfg B s answer msg d callId out sdp theirs c) (hgrown : Grown c c') :
    AnsweredBy cfg B s answer msg d callId out sdp theirs c' := by
  obtain ⟨_, _, _, _, _, _, rfl⟩ := hgrown
  exact ⟨h.handled, h.sends, h.crypto, h.sdp_eq⟩

/-- All that an event does to an entry, as far as keys are concerned. -/
inductive KeyStep (cfg : RouterConfig) (B : Base64) (s : Router) (event : RouterEvent) (callId : Str)
    (c : CallInfo) : Prop
  | grown {c₀ : CallInfo} (found : s.activeCalls.lookup callId = some c₀) (grown : Grown c₀ c)
      (same : c.calleeRemoteCrypto = c₀.calleeRemoteCrypto)
  | offered {id : Nat} {msg : Incoming} {d : Draw} {callerExt calleeExt callerTag : Str}
      {contact : Option Str} {plan : InvitePlan} {session : RelaySession} {out : Outgoing}
      (event_eq : event = .receive id .invite msg d)
      (admitted : admitted cfg msg d s = some (callerExt, calleeExt, callId, callerTag))
      (planned : planInvite cfg B calleeExt msg.text d.now (s.cleanupCall callId) = .ok (.ok plan))
      (created : ((s.cleanupCall callId).media.createSession callId).1 = some session)
      (c_eq : c = newCall id msg callerExt calleeExt callId callerTag contact plan session d)
      (offered : OfferedBy cfg B s msg d callId out (calleeSdp cfg B plan session d) c)
  | answered {c₀ : CallInfo} {id : Nat} {msg : Incoming} {d : Draw} {theirs : SuiteKeys}
      (event_eq : event = .receive id .response msg d)
      (found : s.activeCalls.lookup callId = some c₀) (grown : Grown c₀ c)
      (keys : c.calleeRemoteCrypto = some theirs)
      (answered : c₀.callerLocalCrypto.isSome = true → ∃ out sdp,
        AnsweredBy cfg B s id msg d callId out sdp theirs c)

/-- What a response does to the keys in an entry. -/
theorem key_updated (callId : Str) {s : Router} {id : Nat} {msg : Incoming} {d : Draw} {statusCode : Nat}
    {c₀ : CallInfo} (found : s.activeCalls.lookup callId = some c₀)
    (hpass : (updateCall B statusCode msg.text c₀).1 = .ok () → (s.handle cfg B id .response msg d).1 =
      passOn cfg B callId statusCode msg d (updateCall B statusCode msg.text c₀).2) :
    KeyStep cfg B s (.receive id .response msg d) callId (updateCall B statusCode msg.text c₀).2 := by
  have hupdated := updated B statusCode msg.text c₀
  revert hupdated hpass
  generalize (updateCall B statusCode msg.text c₀).1 = result, (updateCall B statusCode msg.text c₀).2 = c'
  intro hpass hupdated
  cases hupdated with
  | answered tag contact addr status answer =>
    subst status
    refine .answered rfl found ⟨_, _, _, _, _, _, rfl⟩ rfl fun hours => ?_
    obtain ⟨ours, hours⟩ := Option.isSome_iff_exists.mp hours
    have hforward := (hpass rfl).trans (passOn_answered cfg callId d (of_answerCrypto answer).1 rfl hours)
    exact ⟨_, _, hforward, ⟨_, _, rfl⟩, answer, ours, hours, rfl⟩
  | passed => exact .grown found ⟨_, _, _, _, _, _, rfl⟩ rfl
  | ringing => exact .grown found ⟨_, _, _, _, _, _, rfl⟩ rfl
  | refused => exact .grown found ⟨_, _, _, _, _, _, rfl⟩ rfl
  | unread => exact .grown found ⟨_, _, _, _, _, _, rfl⟩ rfl
  | failed => exact .grown found ⟨_, _, _, _, _, _, rfl⟩ rfl

/-- **An event**, for the keys in an entry. -/
theorem key_step {s : Router} {event : RouterEvent} {callId : Str} {c : CallInfo}
    (h : (s.step cfg B event).activeCalls.lookup callId = some c) : KeyStep cfg B s event callId c := by
  have hkept : ∀ {c'}, s.activeCalls.lookup callId = some c' → KeyStep cfg B s event callId c' :=
    fun hfound => .grown hfound ⟨_, _, _, _, _, _, rfl⟩ rfl
  cases event with
  | receive id handler msg d =>
    cases hfresh : s.tasks.lookup id with
    | some task =>
      unfold step at h
      simp only [hfresh] at h
      exact hkept h
    | none =>
      rcases hhandle : s.handle cfg B id handler msg d with ⟨pc, s₁⟩
      rw [step_receive hfresh, hhandle] at h
      have hfirst : (s.handle cfg B id handler msg d).1 = pc := by rw [hhandle]
      change s₁.activeCalls.lookup callId = some c at h
      cases handled hhandle with
      | quiet => exact hkept h
      | refused => exact hkept (lookup_cleanup_some h)
      | leaked => exact hkept (lookup_cleanup_some h)
      | @opened callerExt calleeExt callId' callerTag text plan session _ contact _ admitted planned
          created _ forwarded =>
        rcases Table.lookup_insert_eq_some h with ⟨rfl, rfl⟩ | ⟨-, h⟩
        · obtain ⟨hbody, hcrypto⟩ := of_planInvite planned
          exact .offered rfl admitted planned (by rw [created]) rfl ⟨⟨hfresh, hfirst⟩,
            inviteWith_calleeInvite forwarded, callerExt, calleeExt, callerTag, contact, plan, session, hbody, hcrypto, rfl, _, _, _, _, _, _, rfl⟩
        · exact hkept (lookup_cleanup_some h)
      | answered _ _ _ found =>
        rcases Table.lookup_insert_eq_some h with ⟨rfl, rfl⟩ | ⟨-, h⟩
        · exact key_updated _ found fun _ => hfirst
        · exact hkept h
      | unread _ _ _ found read =>
        rcases Table.lookup_insert_eq_some h with ⟨rfl, rfl⟩ | ⟨-, h⟩
        · exact key_updated _ found fun hok => by cases read.symm.trans hok
        · exact hkept h
      | ended => exact hkept (lookup_cleanup_some h)
      | untagged => exact hkept h
      | cancelled _ _ found =>
        rcases Table.lookup_insert_eq_some h with ⟨rfl, rfl⟩ | ⟨-, h⟩
        · exact .grown found ⟨_, _, _, _, _, _, rfl⟩ rfl
        · exact hkept h
  | resume id taken d =>
    have hstep := stepped cfg B s (.resume id taken d)
    revert hstep h
    generalize s.step cfg B (.resume id taken d) = s'
    intro h hstep
    cases hstep with
    | idle => exact hkept h
    | resumed running sending proceeded =>
      rcases proceeded.entry h with hfound | ⟨c₀, hfound, rfl⟩
      · exact hkept hfound
      · exact .grown hfound ⟨_, _, _, _, _, _, rfl⟩ rfl
  | world writers registrar => exact hkept h

/-- **A relay that an event starts** is that of a call, with the keys of both sides. -/
theorem relay_step {s : Router} {event : RouterEvent} {r : RelayStart}
    (h : r ∈ (s.step cfg B event).relays) : r ∈ s.relays ∨
      ∃ callId c, s.activeCalls.lookup callId = some c ∧ c.calleeRemoteCrypto.isSome = true ∧
        ∃ shutdown, r = relayOf callId c shutdown := by
  have hstep := stepped cfg B s event
  revert hstep h
  generalize s.step cfg B event = s'
  intro h hstep
  cases hstep with
  | idle => exact .inl h
  | world => exact .inl h
  | received fresh handled => exact .inl (handled.frame.2.2 ▸ h)
  | resumed running sending proceeded =>
    cases proceeded with
    | @started callId =>
      rcases startOnce_cases callId _ with ⟨he, -⟩ | ⟨c, hfound, hkeys, -, he⟩
      · rw [he] at h
        exact .inl h
      · rw [he] at h
        rcases List.mem_append.mp h with h | h
        · exact .inl h
        · exact .inr ⟨callId, c, hfound, hkeys, _, List.mem_singleton.mp h⟩
    | failed =>
      have hkept : r ∈ (cleanupCall _ _).relays := h
      rw [cleanupCall_relays] at hkept
      exact .inl hkept
    | ended =>
      have hkept : r ∈ (cleanupCall _ _).relays := h
      rw [cleanupCall_relays] at hkept
      exact .inl hkept
    | stuck => exact .inl h
    | trying => exact .inl h
    | terminated => exact .inl h
    | passed => exact .inl h

end Router

namespace System

section

variable (cfg : SystemConfig) (md5 : List UInt8 → Vector UInt8 16) (B : Base64) (media : MediaRelayManager)

/-! ## What was read -/

/-- The router as it handles what is read behind `done`. -/
def routerAt (done : List SystemEvent) : Router :=
  (run cfg md5 B media done).router.step cfg.router B (run cfg md5 B media done).world

/-- Behind the entry of a call stand an INVITE of its caller, and a 200 if it has the keys of the callee. -/
structure Backed (events : List SystemEvent) (callId : Str) (c : CallInfo) : Prop where
  offer : ∃ done reader peer st out sdp, Opened cfg md5 B media events done reader peer st c ∧
    Router.OfferedBy cfg.router B (routerAt cfg md5 B media done)
      ((run cfg md5 B media done).incoming reader peer st) st.draw callId out sdp c
  answer : ∀ theirs, c.calleeRemoteCrypto = some theirs → ∃ done id reader peer st out sdp,
    Started cfg md5 B media events done id reader peer st (.route .response) ∧
      Router.AnsweredBy cfg.router B (routerAt cfg md5 B media done) id
        ((run cfg md5 B media done).incoming reader peer st) st.draw callId out sdp theirs c

/-- The same for all entries, and each relay is that of an entry that there was. -/
structure AllBacked (events : List SystemEvent) (r : Router) : Prop where
  entry : ∀ callId c, r.activeCalls.lookup callId = some c → Backed cfg md5 B media events callId c
  relay : ∀ relay ∈ r.relays, ∃ c theirs shutdown, Backed cfg md5 B media events relay.callId c ∧
    c.calleeRemoteCrypto = some theirs ∧ relay = Router.relayOf relay.callId c shutdown

end

variable {cfg : SystemConfig} {md5 : List UInt8 → Vector UInt8 16} {B : Base64} {media : MediaRelayManager}

theorem Backed.mono {events : List SystemEvent} {callId : Str} {c : CallInfo}
    (h : Backed cfg md5 B media events callId c) (event : SystemEvent) :
    Backed cfg md5 B media (events ++ [event]) callId c := by
  obtain ⟨⟨done, reader, peer, st, out, sdp, hopened, hoffer⟩, hanswer⟩ := h
  refine ⟨⟨done, reader, peer, st, out, sdp, hopened.mono event, hoffer⟩, fun theirs htheirs => ?_⟩
  obtain ⟨done, id, reader, peer, st, out, sdp, hstarted, hanswered⟩ := hanswer theirs htheirs
  exact ⟨done, id, reader, peer, st, out, sdp, hstarted.mono event, hanswered⟩

/-- The keys for the caller are there from the beginning. -/
theorem Backed.ours {events : List SystemEvent} {callId : Str} {c : CallInfo}
    (h : Backed cfg md5 B media events callId c) : c.callerLocalCrypto.isSome = true := by
  obtain ⟨done, reader, peer, st, out, sdp, -, hoffer⟩ := h.offer
  obtain ⟨_, _, _, _, plan, _, -, -, -, _, _, _, _, _, _, he⟩ := hoffer.grown
  rw [he]
  rfl

theorem sameParties_of_grown {c₀ c : CallInfo} (h : Router.Grown c₀ c) : Router.SameParties c₀ c := by
  obtain ⟨_, _, _, _, _, _, rfl⟩ := h
  exact ⟨rfl, rfl, rfl, rfl, rfl, rfl⟩

/-- **An event of the router** that a message that is read leads to, or that goes on with one. -/
theorem Backed.step {events : List SystemEvent} {event : SystemEvent} {x : RouterEvent}
    (hevent : (run cfg md5 B media events).routerEvent cfg event = some x) {callId : Str} {c : CallInfo}
    (hold : ∀ callId c, (routerAt cfg md5 B media events).activeCalls.lookup callId = some c →
      Backed cfg md5 B media events callId c)
    (h : ((routerAt cfg md5 B media events).step cfg.router B x).activeCalls.lookup callId = some c) :
    Backed cfg md5 B media (events ++ [event]) callId c := by
  cases Router.key_step h with
  | @grown c₀ found grown same =>
    obtain ⟨⟨done, reader, peer, st, out, sdp, hopened, hoffer⟩, hanswer⟩ := (hold callId c₀ found).mono event
    refine ⟨⟨done, reader, peer, st, out, sdp, hopened.same (sameParties_of_grown grown),
      hoffer.grow grown⟩, fun theirs htheirs => ?_⟩
    obtain ⟨done, id, reader, peer, st, out, sdp, hstarted, hanswered⟩ := hanswer theirs (same ▸ htheirs)
    exact ⟨done, id, reader, peer, st, out, sdp, hstarted, hanswered.grow grown⟩
  | @offered id msg d callerExt calleeExt callerTag contact plan session out event_eq admitted planned _
      c_eq offered =>
    subst event_eq
    rcases routerEvent_cases hevent with
      ⟨reader, peer, st, handler, hread, he⟩ | ⟨_, _, _, _, -, -, -, he⟩
    · cases he
      subst c_eq
      refine ⟨⟨events, reader, peer, st, out, _, opened_of_admitted hread rfl rfl admitted planned, offered⟩, ?_⟩
      intro theirs htheirs
      cases htheirs
    · cases he
  | @answered c₀ id msg d theirs event_eq found grown keys answered =>
    subst event_eq
    have hback := (hold callId c₀ found).mono event
    rcases routerEvent_cases hevent with
      ⟨reader, peer, st, handler, hread, he⟩ | ⟨_, _, _, _, -, -, -, he⟩
    · cases he
      obtain ⟨done, reader', peer', st', out, sdp, hopened, hoffer⟩ := hback.offer
      refine ⟨⟨done, reader', peer', st', out, sdp, hopened.same (sameParties_of_grown grown),
        hoffer.grow grown⟩, fun theirs' htheirs => ?_⟩
      cases keys.symm.trans htheirs
      obtain ⟨out', sdp', hanswered⟩ := answered hback.ours
      exact ⟨events, _, reader, peer, st, out', sdp', started_last hread, hanswered⟩
    · cases he

theorem run_backed (cfg : SystemConfig) (md5 : List UInt8 → Vector UInt8 16) (B : Base64)
    (media : MediaRelayManager) (events : List SystemEvent) :
    AllBacked cfg md5 B media events (run cfg md5 B media events).router := by
  induction events using List.reverseRecOn with
  | nil =>
    refine ⟨fun callId c hc => ?_, fun relay hrelay => absurd hrelay List.not_mem_nil⟩
    cases (AList.lookup_empty callId).symm.trans hc
  | append_singleton events event ih =>
    have hrelay : ∀ relay ∈ (run cfg md5 B media events).router.relays, ∃ c theirs shutdown,
        Backed cfg md5 B media (events ++ [event]) relay.callId c ∧ c.calleeRemoteCrypto = some theirs ∧
          relay = Router.relayOf relay.callId c shutdown := by
      intro relay hmem
      obtain ⟨c, theirs, shutdown, hback, hrest⟩ := ih.relay relay hmem
      exact ⟨c, theirs, shutdown, hback.mono event, hrest⟩
    rw [run_append, router_step]
    cases hevent : (run cfg md5 B media events).routerEvent cfg event with
    | none => exact ⟨fun callId c hc => (ih.entry callId c hc).mono event, hrelay⟩
    | some x =>
      refine ⟨fun callId c hc => Backed.step hevent ih.entry hc, fun relay hmem => ?_⟩
      rcases Router.relay_step hmem with hmem | ⟨callId, c, hfound, hkeys, shutdown, rfl⟩
      · exact hrelay relay hmem
      · obtain ⟨theirs, htheirs⟩ := Option.isSome_iff_exists.mp hkeys
        exact ⟨c, theirs, shutdown, (ih.entry callId c hfound).mono event, htheirs, rfl⟩

end System

/-! ## Media -/

section

variable {B : Base64} {P : Primitives}

/-- The `run_relay` task that is started so. -/
def RelayStart.relay (P : Primitives) (r : RelayStart) : RelayState :=
  runRelay (r.callerDecryptCrypto.map (SuiteKeys.crypto P)) (r.calleeEncryptCrypto.map (SuiteKeys.crypto P))
    (r.calleeDecryptCrypto.map (SuiteKeys.crypto P)) (r.callerEncryptCrypto.map (SuiteKeys.crypto P))
    r.callerMediaAddr r.calleeMediaAddr

/-- What one side protects with `theirs` the other one opens with `ours`, short of what is dropped until its
address is known: the packets that come behind that, one after the other and none changed. The rest waits. -/
def Passes (P : Primitives) (r : RelayStart) (side : Side) (theirs ours : SuiteKeys) : Prop :=
  ∀ (sent : List Media.Srtp.Sent) (events : List RelayEvent),
    let packets := protectedBy P (theirs.crypto P) sent
    let s := (r.relay P).run P events
    (arrivals side events).map Datagram.bytes = packets.map Prod.snd →
    (∀ d ∈ packets, d.1.Labelled) → Schedule climbs .start (packets.map Prod.fst) →
    Passable (packets.drop (s.task side).dropped) →
      (runAll (unprotectRtp P) (ours.crypto P) ((s.sent side.other).map Datagram.bytes)).1 =
        (((packets.drop (s.task side).dropped).take (s.sent side.other).length).map fun d => .ok d.1.rtp) ∧
      packets.length = (s.task side).dropped + (s.sent side.other).length + (s.task side).waiting

/-- A relay whose task of a side has these keys carries the packets of that side. -/
theorem passes_of_keys (hP : GcmLaws P) {r : RelayStart} {side : Side} {theirs ours : SuiteKeys}
    {addr : Option SocketAddr} (htask : (r.relay P).task side =
      ⟨[], addr, none, some (theirs.crypto P), some (ours.crypto P), 0⟩) : Passes P r side theirs ours := by
  intro sent events packets s harrive hlabelled hclimbs hpass
  have hsent : (r.relay P).sent side.other = [] := rfl
  have hstart : Serves P (theirs.crypto P) (ours.crypto P) side (r.relay P) [] := by
    refine ⟨[], [], rfl, ?_, fun _ => by rw [htask]; rfl⟩
    rw [htask, hsent]
    exact ⟨.idle rfl rfl, Nat.le_refl _, rfl, rfl, rfl⟩
  have hstream : Stream P (theirs.crypto P) packets (s.task side).dropped :=
    stream_of_protectedBy hP ⟨theirs.suite, theirs.masterKey, theirs.masterSalt⟩ hlabelled hclimbs hpass
  obtain ⟨gone, rest, hsplit, hp, -⟩ := Serves.run hP hstart hstream harrive (List.prefix_refl events)
  have hall : packets.length = (arrivals side events).length := by
    simpa using congrArg List.length harrive.symm
  rw [← hall, List.take_length] at hsplit
  have hlen : (s.sent side.other).length = (gone.drop (s.task side).dropped).length := by
    simpa using congrArg List.length hp.out
  have hdropped : (s.task side).dropped ≤ gone.length := hp.dropped
  refine ⟨?_, ?_⟩
  · rw [hp.opened hP, hsplit, List.drop_append_of_le_length hdropped, hlen, List.take_left]
  · rw [hsplit, hp.waits.length, hlen, List.length_append, List.length_drop]
    omega

/-- **Both sides are heard.** What the caller protects with the keys of its offer the callee opens with keys
that it was offered; what the callee protects with the keys of its answer the caller opens with the keys of the
answer that it is sent. -/
structure Heard (B : Base64) (P : Primitives) (offer calleeSdp answer callerSdp : Str) (r : RelayStart) :
    Prop where
  byCallee : ∃ tag theirs tag' ours, extractSrtpCryptoFromSdp B offer = some (tag, theirs) ∧
    (extractSrtpCryptoFromSdp B answer).map Prod.fst = some tag' ∧
    (tag', ours) ∈ usableCryptos B (lines calleeSdp) ∧ Passes P r .caller theirs ours
  byCaller : ∃ tag theirs tag' ours, extractSrtpCryptoFromSdp B answer = some (tag, theirs) ∧
    extractSrtpCryptoFromSdp B callerSdp = some (tag', ours) ∧ Passes P r .callee theirs ours

/-- Keys that agree are enough. -/
theorem heard_of_agree (hP : GcmLaws P) {offer calleeSdp answer callerSdp : Str} {r : RelayStart}
    (h : Router.KeysAgree B offer calleeSdp answer callerSdp r) :
    Heard B P offer calleeSdp answer callerSdp r := by
  obtain ⟨⟨tag, theirs, ours, -, hoffer, hdecrypt, hprinted, -, hencrypt⟩,
    ⟨cm, gcm, tag', theirs', ours', -, -, hoffers, -, hanswer, hdecrypt', hmem, -, hencrypt'⟩⟩ := h
  have hoffered : (tag', ours') ∈ usableCryptos B (lines calleeSdp) := by
    obtain ⟨part, hpart, haudio⟩ := hoffers.audio
    have hsub := (sublist_of_mem_sections hpart).filterMap (readCryptoLine B)
    have husable : (tag', ours') ∈ usableCryptos B part.2 := by rwa [hoffers.all part hpart haudio]
    exact hsub.subset husable
  have hcaller : (r.relay P).task .caller = ⟨[], r.callerMediaAddr, none, some (theirs.crypto P),
      some (ours'.crypto P), 0⟩ := by
    change (⟨[], _, none, r.callerDecryptCrypto.map _, r.calleeEncryptCrypto.map _, 0⟩ : RelayTask) = _
    rw [hdecrypt, hencrypt']
    rfl
  have hcallee : (r.relay P).task .callee = ⟨[], r.calleeMediaAddr, none, some (theirs'.crypto P),
      some (ours.crypto P), 0⟩ := by
    change (⟨[], _, none, r.calleeDecryptCrypto.map _, r.callerEncryptCrypto.map _, 0⟩ : RelayTask) = _
    rw [hdecrypt', hencrypt]
    rfl
  exact ⟨⟨tag, theirs, tag', ours', hoffer, by rw [hanswer]; rfl, hoffered, passes_of_keys hP hcaller⟩,
    tag', theirs', tag, ours, hanswer, hprinted, passes_of_keys hP hcallee⟩

/-- Where the two send their media: to the ports of the relay. -/
structure Reaches (ip : IpAddr) (calleeSdp callerSdp : Str) (r : RelayStart) : Prop where
  caller : r.callerPort ≠ 0 → extractAudioMediaAddrFromSdp callerSdp = some (.new ip r.callerPort)
  callee : r.calleePort ≠ 0 → extractAudioMediaAddrFromSdp calleeSdp = some (.new ip r.calleePort)

/-- The printed keys have no line end. -/
theorem lf_not_mem_offered (hB : B.Laws) (keys : List (Nat × SuiteKeys)) :
    ∀ line ∈ cryptoLines (offered B keys), '\n' ∉ line := by
  refine lf_not_mem_cryptoLines fun c hc => ?_
  obtain ⟨⟨tag, crypto⟩, -, rfl⟩ := List.mem_map.mp hc
  have hsuite : '\n' ∉ crypto.suite.sdpName := by cases crypto.suite <;> decide
  exact ⟨hsuite, fun hlf => absurd (hB.encode_char hlf).1 (by decide)⟩

namespace Router

variable {cfg : RouterConfig} {ip : IpAddr}

/-- The SDP for the callee names the port of the relay for the callee. -/
theorem extract_calleeSdp (hB : B.Laws) (hip : IpAddr.parse cfg.mediaAddr = some ip) {plan : InvitePlan}
    {session : RelaySession} {d : Draw} (haddr : Addressed plan.body) (hport : session.calleePort ≠ 0) :
    extractAudioMediaAddrFromSdp (calleeSdp cfg B plan session d) = some (.new ip session.calleePort) :=
  extract_rewritten hip hport (List.cons_ne_nil _ _)
    (lf_not_mem_offered hB [(1, calleeLocalCrypto d), (2, calleeLocalCryptoGcm d)]) haddr

/-- The SDP for the caller names that for the caller. -/
theorem extract_callerSdp (hB : B.Laws) (hip : IpAddr.parse cfg.mediaAddr = some ip) {ours : SuiteKeys}
    {body : Str} {c : CallInfo} (haddr : Addressed body) (hport : c.callerRelayPort ≠ 0) :
    extractAudioMediaAddrFromSdp (callerSdp cfg B ours body c) = some (.new ip c.callerRelayPort) := by
  have hend : crlf <:+ rewriteSdpWithCryptos cfg.mediaAddr c.callerRelayPort
      (offered B [(c.callerRemoteCryptoTag, ours)]) body := List.suffix_append _ _
  refine (extract_completed_addr hend).trans ?_
  exact extract_rewritten hip hport (List.cons_ne_nil _ _)
    (lf_not_mem_offered hB [(c.callerRemoteCryptoTag, ours)]) haddr

/-- **What stands behind an entry** makes its relay one that both sides reach, with keys that agree. -/
theorem agree_of_backed (hB : B.Laws) (hip : IpAddr.parse cfg.mediaAddr = some ip) {s s' : Router}
    {msg msg' : Incoming} {d d' : Draw} {callId callId' : Str} {answer : Nat} {out out' : Outgoing}
    {sdp sdp' : Str} {theirs : SuiteKeys} {c : CallInfo} (hoffer : OfferedBy cfg B s msg d callId out sdp c)
    (hanswer : AnsweredBy cfg B s' answer msg' d' callId' out' sdp' theirs c)
    (htheirs : c.calleeRemoteCrypto = some theirs)
    (hclean : Addressed (bodyOf msg.text) ∧ NoBareCrypto (bodyOf msg.text))
    (hclean' : Addressed (bodyOf msg'.text) ∧ NoBareCrypto (bodyOf msg'.text)) (shutdown : Nat) :
    Reaches ip sdp sdp' (relayOf callId c shutdown) ∧
      KeysAgree B (bodyOf msg.text) sdp (bodyOf msg'.text) sdp' (relayOf callId c shutdown) := by
  obtain ⟨callerExt, calleeExt, callerTag, contact, plan, session, hbody, hplan, hsdp, hgrown⟩ := hoffer.grown
  obtain ⟨ours, hours, hsdp'⟩ := hanswer.sdp_eq
  have hsame : c.callerLocalCrypto = some (.newWithSuite plan.crypto.suite d.callerKey) ∧
      c.calleeRelayPort = session.calleePort := by
    obtain ⟨_, _, _, _, _, _, he⟩ := hgrown
    rw [he]
    exact ⟨rfl, rfl⟩
  have hkeys := Option.some.inj (hours.symm.trans hsame.1)
  rw [hsdp, hsdp', hkeys]
  refine ⟨⟨extract_callerSdp hB hip hclean'.1, fun hne => ?_⟩, ?_⟩
  · change c.calleeRelayPort ≠ 0 at hne
    change _ = some (SocketAddr.new ip c.calleeRelayPort)
    rw [hsame.2] at hne ⊢
    refine extract_calleeSdp hB hip ?_ hne
    rw [hbody]
    exact hclean.1
  · exact keysAgree_relayOf hB (by rw [hip]; rfl) hbody hplan hgrown htheirs hanswer.crypto
      ⟨hclean.1.media, hclean.2⟩ ⟨hclean'.1.media, hclean'.2⟩ shutdown

end Router

end

namespace System

section

variable (cfg : SystemConfig) (md5 : List UInt8 → Vector UInt8 16) (B : Base64) (media : MediaRelayManager)

/-- How a relay came about: an INVITE `st` of the caller, sent on to the callee with the SDP `calleeSdp`; and
a 200 `st'`, sent on to the caller with the SDP `callerSdp`. -/
structure Negotiated (events : List SystemEvent) (r : RelayStart) (c : CallInfo) (st st' : Stimulus)
    (calleeSdp callerSdp : Str) : Prop where
  invite : ∃ done reader peer out, Opened cfg md5 B media events done reader peer st c ∧
    Router.Invited cfg.router B (routerAt cfg md5 B media done) c.invite
      ((run cfg md5 B media done).incoming reader peer st) st.draw r.callId out ∧
    Router.InviteWith cfg.router ((run cfg md5 B media done).incoming reader peer st) st.draw calleeSdp out
  answer : ∃ done id reader peer out sink contactUri,
    Started cfg md5 B media events done id reader peer st' (.route .response) ∧
    ((routerAt cfg md5 B media done).handle cfg.router B id .response
      ((run cfg md5 B media done).incoming reader peer st') st'.draw).1 = .forward r.callId 200 out ∧
    out = .answer c.invite 200 sink (buildForwardedInviteResponse st.text st'.text 200 "OK".toList contactUri
      callerSdp) (some st'.text)

end

def phoneAnswers : Stimulus :=
  phoneStimulus (Router.phoneResponse "200 OK" (Router.phoneSdp Router.phoneCrypto)).text 48

def phonesAnswer : List SystemEvent :=
  phonesCall ++ [.message (.connection 1) (Router.phoneAddr 2) phoneAnswers]

/-- The 200 for 1001 is taken. -/
def phonesTalk : List SystemEvent := phonesAnswer ++ [.resume 5 true Router.phoneDraw]

/-- A job for the router waits as long as its handler sends. -/
theorem afterRouter_sending {s : System} {id : Nat} {job : Job} {task : Task} {out : Outgoing}
    (htask : s.router.tasks.lookup id = some task) (hsending : task.pc.sending = some out) :
    s.afterRouter cfg md5 id job = s.setJob id job .routing := by
  unfold afterRouter
  rw [htask, Option.map_some]
  split
  · rename_i he
    rw [Option.some.inj he] at hsending
    cases hsending
  · rename_i he
    rw [Option.some.inj he] at hsending
    cases hsending
  · rename_i he
    rw [Option.some.inj he] at hsending
    cases hsending
  · rfl

/-- A message for the router is read, and its handler sends. -/
theorem step_routes {s : System} {reader : Reader} {peer : SocketAddr} {st : Stimulus} {handler : Handler}
    {id : Nat} {task : Task} {out : Outgoing} (hnext : s.nextJob = id)
    (hreads : s.reads cfg reader peer = true) (hidle : s.busy reader = false)
    (hbranch : branchOf st.text = .ok (.route handler))
    (htask : (s.step cfg md5 B (.message reader peer st)).router.tasks.lookup id = some task)
    (hsending : task.pc.sending = some out) :
    s.step cfg md5 B (.message reader peer st) =
      ({ s with nextJob := id + 1 }.onRouter cfg B
        (.receive id handler (s.incoming reader peer st) st.draw)).setJob id
          ⟨reader, peer, st.text, .done⟩ .routing := by
  have hstep : s.step cfg md5 B (.message reader peer st) =
      ({ s with nextJob := id + 1 }.onRouter cfg B
        (.receive id handler (s.incoming reader peer st) st.draw)).afterRouter cfg md5 id
          ⟨reader, peer, st.text, .done⟩ := by
    unfold step
    simp only [hreads, hidle, hnext, Bool.not_false, Bool.and_self, if_true]
    unfold process
    rw [hbranch]
    rfl
  rw [hstep] at htask ⊢
  rw [(placed_afterRouter ..).router] at htask
  exact afterRouter_sending htask hsending

/-- Another reader may go on. -/
theorem busy_setJob {s : System} {reader : Reader} (hidle : s.busy reader = false) (id : Nat) {job : Job}
    (hother : job.reader ≠ reader) (pc : JobPc) : (s.setJob id job pc).busy reader = false := by
  unfold busy setJob at *
  rw [List.any_eq_false] at hidle ⊢
  intro e he
  rw [AList.entries_insert] at he
  rcases List.mem_cons.mp he with rfl | he
  · simp [hother]
  · exact hidle e ((List.kerase_sublist _ _).subset he)

theorem reads_onRouter (s : System) (x : RouterEvent) (id : Nat) (job : Job) (pc : JobPc) (reader : Reader)
    (peer : SocketAddr) :
    ((s.onRouter cfg B x).setJob id job pc).reads cfg reader peer = s.reads cfg reader peer := by
  cases reader <;> rfl

theorem busy_onRouter (s : System) (x : RouterEvent) (reader : Reader) :
    (s.onRouter cfg B x).busy reader = s.busy reader := rfl

/-- While it is sent, another reader goes on. -/
theorem step_waits {s : System} {reader reader' : Reader} {peer peer' : SocketAddr} {st : Stimulus}
    {handler : Handler} {id : Nat} {task : Task} {out : Outgoing} (hnext : s.nextJob = id)
    (hreads : s.reads cfg reader peer = true) (hidle : s.busy reader = false)
    (hbranch : branchOf st.text = .ok (.route handler))
    (htask : (s.step cfg md5 B (.message reader peer st)).router.tasks.lookup id = some task)
    (hsending : task.pc.sending = some out) (hne : reader ≠ reader')
    (hreads' : s.reads cfg reader' peer' = true) (hidle' : s.busy reader' = false) :
    let s' := s.step cfg md5 B (.message reader peer st)
    s'.nextJob = id + 1 ∧ s'.reads cfg reader' peer' = true ∧ s'.busy reader' = false := by
  rw [step_routes hnext hreads hidle hbranch htask hsending]
  refine ⟨rfl, ?_, busy_setJob ?_ _ hne _⟩
  · rw [reads_onRouter]
    exact hreads'
  · rw [busy_onRouter]
    exact hidle'

/-- While the INVITE is being sent, the connection of 1002 is read. -/
theorem phones_wait :
    let s := run phoneSystem phoneMd5 .standard Router.phoneManager phonesCall
    s.nextJob = 5 ∧ s.reads phoneSystem (.connection 1) (Router.phoneAddr 2) = true ∧
      s.busy (.connection 1) = false := by
  obtain ⟨hnext, hreads, hidle, hother, -⟩ := phones_joined
  obtain ⟨-, ⟨task, text, htask, hsending⟩, -⟩ := phones_call
  rw [phonesCall, run_append] at htask ⊢
  exact step_waits hnext hreads hidle phoneCalls_branch htask hsending (by decide) hother.1 hother.2

/-- What the 200 of 1002 is read as. -/
theorem phone_answer :
    extractCallId phoneAnswers.text = .ok (some "c".toList) ∧
      extractStatusCode phoneAnswers.text = some 200 ∧
      extractToTag phoneAnswers.text = .ok (some "b".toList) ∧
      extractContactUri phoneAnswers.text = .ok (some "sip:1002@10.10.10.2".toList) ∧
      (Router.answerCrypto .standard phoneAnswers.text).isSome = true := by
  decide +kernel

/-- It is sent on, and starts the relay. -/
theorem phone_talks {r : Router} {c : CallInfo} (hfound : r.activeCalls.lookup "c".toList = some c)
    (hunstarted : c.relayStarted = false) (hours : c.callerLocalCrypto.isSome = true)
    (hfresh : r.tasks.lookup 5 = none) (hp : r.poisoned = false) {msg : Incoming}
    (htext : msg.text = phoneAnswers.text) :
    let r' := r.step phoneSystem.router .standard (.receive 5 .response msg Router.phoneDraw)
    (∃ task out, r'.tasks.lookup 5 = some task ∧ task.pc.sending = some out) ∧
      ∀ writers registrar,
        (({ r' with writers, registrar } : Router).step phoneSystem.router .standard
          (.resume 5 true Router.phoneDraw)).relays ≠ [] := by
  obtain ⟨hid, hstatus, htag, hcontact, hcrypto⟩ := phone_answer
  rw [← htext] at hid hstatus htag hcontact hcrypto
  obtain ⟨theirs, htheirs⟩ := Option.isSome_iff_exists.mp hcrypto
  obtain ⟨ours, hours⟩ := Option.isSome_iff_exists.mp hours
  have hread : ¬ Router.Unreadable 200 msg.text c := by
    rintro (⟨-, -, e, he⟩ | ⟨-, -, e, he⟩)
    · cases htag.symm.trans he
    · cases hcontact.symm.trans he
  obtain ⟨c', -, hkeys, hstarted, hentry, htask⟩ := Router.step_answered phoneSystem.router Router.phoneDraw
    ⟨_, _, rfl, rfl, hfresh, hp, hid, hstatus, hfound⟩ htheirs hread hours
  have hp' : (r.step phoneSystem.router .standard
      (.receive 5 .response msg Router.phoneDraw)).poisoned = false := by
    obtain ⟨_, hupdate, -⟩ := Router.updateCall_answered htheirs hread
    rcases Router.handle_response_cases phoneSystem.router .standard 5 Router.phoneDraw hid hstatus hp hfound with
      ⟨e, he, -⟩ | ⟨-, hhandle⟩
    · rw [hupdate] at he
      cases he
    · rw [Router.step_receive hfresh, hhandle]
      exact hp
  refine ⟨⟨_, _, htask, rfl⟩, fun writers registrar hnone => ?_⟩
  have hrelays := (Router.resume_answered phoneSystem.router .standard
    (s := { r.step phoneSystem.router .standard (.receive 5 .response msg Router.phoneDraw) with
      writers, registrar }) htask hentry (by rw [hkeys]; rfl) (hstarted.trans hunstarted) true
    Router.phoneDraw).symm.trans hnone
  dsimp only at hrelays
  rw [hp'] at hrelays
  exact List.cons_ne_nil _ _ (List.append_eq_nil_iff.mp hrelays).2

/-- What the two phones send for the router is the INVITE or the 200, and the lines of their descriptions are
as they should be. -/
theorem phones_clean {done : List SystemEvent} {reader : Reader} {peer : SocketAddr} {st : Stimulus}
    {handler : Handler} (hwithin : done ++ [.message reader peer st] <+: phonesTalk)
    (hbranch : branchOf st.text = .ok (.route handler)) :
    Addressed (bodyOf st.text) ∧ NoBareCrypto (bodyOf st.text) := by
  have hmem := hwithin.subset (List.mem_append_right done (List.mem_singleton_self _))
  have htext : st.text = phoneCalls.text ∨ st.text = phoneAnswers.text := by
    unfold phonesTalk phonesAnswer phonesCall at hmem
    rcases List.mem_append.mp hmem with hmem | hmem
    · rcases List.mem_append.mp hmem with hmem | hmem
      · rcases List.mem_append.mp hmem with hmem | hmem
        · have hquiet := List.all_eq_true.mp phonesJoin_quiet _ hmem
          simp [routes, hbranch] at hquiet
        · cases List.mem_singleton.mp hmem
          exact .inl rfl
      · cases List.mem_singleton.mp hmem
        exact .inr rfl
    · cases List.mem_singleton.mp hmem
  have hclean : ∀ text, text = phoneCalls.text ∨ text = phoneAnswers.text →
      (∀ line ∈ lines (bodyOf text), "c=".toList <+: trim line → "c=".toList <+: line) ∧
      (∀ line ∈ lines (bodyOf text), isAudio (trim line) = true → IsAudioMedia line) ∧
      (∃ line ∈ lines (bodyOf text), "c=".toList <+: line) ∧ HasAudio (bodyOf text) ∧
      NoBareCrypto (bodyOf text) := by
    rintro _ (rfl | rfl) <;> unfold HasAudio NoBareCrypto IsAudioMedia <;> decide +kernel
  obtain ⟨hconnection, haudio, hhost, hmedia, hbare⟩ := hclean _ htext
  exact ⟨⟨hconnection, haudio, hhost, hmedia⟩, hbare⟩

/-- The address of the relays of the phones. -/
def phoneIp : IpAddr := .v4 (Vector.ofFn fun i => [192, 0, 2, 1].getD i 0)

/-- A job that waits for the router, and goes on. -/
theorem resume_event {s : System} {reader : Reader} {peer : SocketAddr} {st : Stimulus} {handler : Handler}
    {id : Nat} {task : Task} {out : Outgoing} (hnext : s.nextJob = id)
    (hreads : s.reads cfg reader peer = true) (hidle : s.busy reader = false)
    (hbranch : branchOf st.text = .ok (.route handler))
    (htask : (s.step cfg md5 B (.message reader peer st)).router.tasks.lookup id = some task)
    (hsending : task.pc.sending = some out) (taken : Bool) (d : Draw) :
    (s.step cfg md5 B (.message reader peer st)).routerEvent cfg (.resume id taken d) =
      some (.resume id taken d) := by
  rw [step_routes hnext hreads hidle hbranch htask hsending]
  unfold routerEvent setJob
  dsimp only
  rw [AList.lookup_insert]
  rfl

/-- The 200 of 1002, in a state where it can be read. -/
theorem answer_talks {s : System} {c : CallInfo} (hnext : s.nextJob = 5)
    (hreads : s.reads phoneSystem (.connection 1) (Router.phoneAddr 2) = true)
    (hidle : s.busy (.connection 1) = false) (hfound : s.router.activeCalls.lookup "c".toList = some c)
    (hunstarted : c.relayStarted = false) (hours : c.callerLocalCrypto.isSome = true)
    (hfresh : s.router.tasks.lookup 5 = none) (hp : s.router.poisoned = false) :
    ((s.step phoneSystem phoneMd5 .standard
      (.message (.connection 1) (Router.phoneAddr 2) phoneAnswers)).step phoneSystem phoneMd5 .standard
        (.resume 5 true Router.phoneDraw)).router.relays ≠ [] := by
  have hbranch : branchOf phoneAnswers.text = .ok (.route .response) := by decide +kernel
  have hevent : s.routerEvent phoneSystem (.message (.connection 1) (Router.phoneAddr 2) phoneAnswers) =
      some (.receive 5 .response (s.incoming (.connection 1) (Router.phoneAddr 2) phoneAnswers)
        Router.phoneDraw) := by
    unfold routerEvent
    simp only [hreads, hidle, hbranch, hnext]
    rfl
  obtain ⟨⟨task, out, htask, hsending⟩, htalks⟩ := phone_talks
    (r := s.router.step phoneSystem.router .standard s.world) hfound hunstarted hours hfresh hp
    (show (s.incoming (.connection 1) (Router.phoneAddr 2) phoneAnswers).text = _ from rfl)
  rw [← router_event hevent] at htask htalks
  rw [router_event (resume_event hnext hreads hidle hbranch htask hsending true Router.phoneDraw)]
  exact htalks _ _

/-- Then there is a relay. -/
theorem phones_relay :
    (run phoneSystem phoneMd5 .standard Router.phoneManager phonesTalk).router.relays ≠ [] := by
  obtain ⟨⟨c, hc, hunstarted, hours⟩, -, hfresh, hp, -⟩ := phones_call
  obtain ⟨hnext, hreads, hidle⟩ := phones_wait
  rw [phonesTalk, phonesAnswer, run_append, run_append]
  exact answer_talks hnext hreads hidle hc hunstarted hours hfresh hp

end System

end Minghe.Sip
