import Minghe.Sip.Authentic

/-!
# Where texts go

What the router and the message service give to sinks in a run of the whole server: whose text it is, and
whose sink.

* `GoesTo`: a text for one of the parties of a call.
* `Confined`: it goes to a party of a call that was opened as it should be, or answers an INVITE.
* `run_goesTo`: whatever the router sends is for a party of an entry of `active_calls`, or the server's own
  answer.
* `signalling_confined`: that entry was opened as it should be, so that signalling stays between its
  parties.
* `messages_authentic`: whatever the message service sends was read from a peer that had authenticated as
  the sender, and goes to a sink on which the callee has.
-/

namespace Minghe.Sip

open Minghe.Lib
open Minghe.Media.Relay (MediaRelayManager)
open Minghe.Media.Srtp (Base64)

namespace Router

variable {cfg : RouterConfig} {B : Base64}

/-! ## What a handler sends -/

/-- A request goes to one of the parties of a call, an answer to its caller. -/
def GoesTo (c : CallInfo) : Outgoing → Prop
  | .request sink _ => sink = c.callerSink ∨ c.calleeSink = some sink
  | .answer _ _ sink _ _ => sink = c.callerSink

theorem GoesTo.same {c c' : CallInfo} {out : Outgoing} (h : GoesTo c out) (hsame : SameParties c c') :
    GoesTo c' out := by
  cases out with
  | request sink text => rwa [GoesTo, hsame.callerSink, hsame.calleeSink]
  | answer invite statusCode sink text response => rwa [GoesTo, hsame.callerSink]

/-- A request that is relayed to one of the parties. -/
theorem goesTo_of_relayed {msg : Incoming} {targetUri : Str} {sink : ConnectionSink} {d : Draw} {out : Outgoing}
    {c : CallInfo} (h : relayed cfg msg targetUri sink d = .ok out)
    (hsink : sink = c.callerSink ∨ c.calleeSink = some sink) : GoesTo c out := by
  obtain ⟨text, htext⟩ := relayed_ok cfg msg targetUri sink d
  obtain rfl := Except.ok.inj (h.symm.trans htext)
  exact hsink

section

variable {msg : Incoming} {d : Draw} {s s' : Router} {pc : Pc} {out : Outgoing}

/-- The INVITE goes to the callee. -/
theorem handleInvite_sends {id : Nat} (heq : s.handle cfg B id .invite msg d = (pc, s'))
    (hsending : pc.sending = some out) :
    ∃ callId c, s'.activeCalls.lookup callId = some c ∧ GoesTo c out := by
  cases handled heq with
  | quiet _ _ declines => cases (declines rfl).1.symm.trans hsending
  | refused _ _ _ idle => cases idle.symm.trans hsending
  | leaked => cases hsending
  | opened =>
    cases hsending
    exact ⟨_, _, AList.lookup_insert _, .inr rfl⟩
  | ended => cases hsending

/-- A response goes to the caller, in one form or another. -/
theorem handleCalleeResponse_sends (heq : s.handleCalleeResponse cfg B msg d = (pc, s'))
    (hsending : pc.sending = some out) :
    ∃ callId c, s'.activeCalls.lookup callId = some c ∧ GoesTo c out := by
  unfold handleCalleeResponse at heq
  split at heq
  · cases heq; cases hsending
  · cases heq; cases hsending
  rename_i callId hid
  split at heq
  · cases heq; cases hsending
  rename_i statusCode hstatus
  split at heq
  · cases heq; cases hsending
  split at heq
  · cases heq; cases hsending
  rename_i call hcall
  rcases hupdate : updateCall B statusCode msg.text call with ⟨result, c⟩
  rw [hupdate] at heq
  cases result with
  | error e => cases heq; cases hsending
  | ok _ =>
    cases heq
    refine ⟨callId, c, AList.lookup_insert _, ?_⟩
    rcases passOn_cases cfg B callId statusCode msg d c with
      ⟨-, -, text, he⟩ | ⟨-, text, he⟩ | ⟨-, text, he⟩
    · rw [he] at hsending
      cases hsending
      rfl
    · rw [he] at hsending
      cases hsending
      rfl
    · rw [he] at hsending
      cases hsending
      rfl

/-- The ACK goes to the callee. -/
theorem handleAck_sends (heq : s.handleAck cfg msg d = (pc, s')) (hsending : pc.sending = some out) :
    ∃ callId c, s'.activeCalls.lookup callId = some c ∧ GoesTo c out := by
  unfold handleAck at heq
  split at heq
  · cases heq; cases hsending
  · cases heq; cases hsending
  rename_i callId hid
  split at heq
  · cases heq; cases hsending
  split at heq
  · cases heq; cases hsending
  rename_i c hc
  split at heq
  · cases heq; cases hsending
  rename_i sink hsink
  split at heq
  · cases heq; cases hsending
  · rename_i hrelayed
    cases heq
    cases hsending
    exact ⟨callId, c, hc, goesTo_of_relayed hrelayed (.inr hsink)⟩

/-- A BYE goes to the side that it does not come from. -/
theorem handleBye_sends (heq : s.handleBye cfg msg d = (pc, s')) (hsending : pc.sending = some out) :
    ∃ callId c, s'.activeCalls.lookup callId = some c ∧ GoesTo c out := by
  unfold handleBye at heq
  split at heq
  · cases heq; cases hsending
  · cases heq; cases hsending
  rename_i callId hid
  split at heq
  · cases heq; cases hsending
  rename_i fromTag hread
  split at heq
  · cases heq; cases hsending
  rename_i hp
  split at heq
  · cases heq; cases hsending
  rename_i c hc
  dsimp only at heq
  split at heq
  · cases heq; cases hsending
  split at heq
  · cases heq; cases hsending
  split at heq
  · unfold cleanupThen at heq
    rw [if_neg hp] at heq
    cases heq
    cases hsending
  · rename_i sink hsink
    split at heq
    · cases heq; cases hsending
    · rename_i hrelayed
      cases heq
      cases hsending
      refine ⟨callId, c, hc, goesTo_of_relayed hrelayed ?_⟩
      split at hsink
      · exact .inr hsink
      · exact .inl (Option.some.inj hsink).symm

/-- A CANCEL goes to the callee. -/
theorem handleCancel_sends (heq : s.handleCancel cfg msg d = (pc, s')) (hsending : pc.sending = some out) :
    ∃ callId c, s'.activeCalls.lookup callId = some c ∧ GoesTo c out := by
  unfold handleCancel at heq
  split at heq
  · cases heq; cases hsending
  · cases heq; cases hsending
  rename_i callId hid
  split at heq
  · cases heq; cases hsending
  rename_i hp
  split at heq
  · cases heq; cases hsending
  rename_i c hc
  split at heq
  · cases heq; cases hsending
  split at heq
  · cases heq; cases hsending
  dsimp only at heq
  split at heq
  · unfold cleanupThen at heq
    rw [if_neg hp] at heq
    cases heq
    cases hsending
  · rename_i sink hsink
    split at heq
    · cases heq; cases hsending
    · rename_i hrelayed
      cases heq
      cases hsending
      exact ⟨callId, _, AList.lookup_insert _, goesTo_of_relayed hrelayed (.inr hsink)⟩

/-- **What a handler sends first** goes to a party of a call that is there then. -/
theorem handle_sends {id : Nat} {handler : Handler} (heq : s.handle cfg B id handler msg d = (pc, s'))
    (hsending : pc.sending = some out) :
    ∃ callId c, s'.activeCalls.lookup callId = some c ∧ GoesTo c out := by
  cases handler with
  | invite => exact handleInvite_sends heq hsending
  | response => exact handleCalleeResponse_sends heq hsending
  | ack => exact handleAck_sends heq hsending
  | bye => exact handleBye_sends heq hsending
  | cancel => exact handleCancel_sends heq hsending

end

/-- What it sends later does as well. -/
theorem proceed_sends {task : Task} {taken : Bool} {d : Draw} {s s' : Router} {pc : Pc} {out : Outgoing}
    (h : Proceeded task taken d s pc s') (hsending : pc.sending = some out) :
    ∃ callId c, s'.activeCalls.lookup callId = some c ∧ GoesTo c out := by
  cases h with
  | @terminated callId _ _ _ _ c place poisoned found =>
    cases hsending
    exact ⟨callId, c, found, rfl⟩
  | _ => cases hsending

/-- All that is new to be sent with an event: for a party of a call, or the result of an INVITE. -/
theorem sending_step {s : Router} {event : RouterEvent} {out : Outgoing}
    (h : Sending (s.step cfg B event) out) :
    Sending s out ∨
    (∃ callId c, (s.step cfg B event).activeCalls.lookup callId = some c ∧ GoesTo c out) ∨
    ∃ id task statusCode text, (s.step cfg B event).tasks.lookup id = some task ∧ task.handler = .invite ∧
      out = .answer id statusCode task.msg.sink text none := by
  -- what the handler of an INVITE returns
  have hreturned : ∀ {id handler msg pc} {s₁ : Router}, out ∈ returned id handler msg pc →
      ∃ id' task statusCode text, (s₁.settle id handler msg pc).tasks.lookup id' = some task ∧
        task.handler = .invite ∧ out = .answer id' statusCode task.msg.sink text none := by
    intro id handler msg pc s₁ hout
    obtain ⟨hinvite, statusCode, text, -, rfl⟩ := mem_returned hout
    exact ⟨id, _, statusCode, text, by rw [settle_tasks, if_pos rfl], hinvite, rfl⟩
  cases event with
  | world writers registrar => exact .inl h
  | receive id handler msg d =>
    cases hfresh : s.tasks.lookup id with
    | some task =>
      have hsame : s.step cfg B (.receive id handler msg d) = s := by
        unfold step
        simp only [hfresh]
      rw [hsame] at h
      exact .inl h
    | none =>
      rcases hhandle : s.handle cfg B id handler msg d with ⟨pc, s₁⟩
      have hstep : s.step cfg B (.receive id handler msg d) = _ := step_receive hfresh
      rw [hhandle] at hstep
      dsimp only at hstep
      rw [hstep] at h ⊢
      rcases sending_settle h with hold | hnew | hsending
      · exact .inl ((handled hhandle).sending hold)
      · exact .inr (.inr (hreturned hnew))
      · obtain ⟨callId, c, hc, hgoes⟩ := handle_sends hhandle hsending
        exact .inr (.inl ⟨callId, c, hc, hgoes⟩)
  | resume id taken d =>
    have hstep := stepped cfg B s (.resume id taken d)
    revert hstep h
    generalize s.step cfg B (.resume id taken d) = s'
    intro h hstep
    cases hstep with
    | idle => exact .inl h
    | resumed running sending proceeded =>
      rcases sending_settle h with hold | hnew | hsending
      · exact .inl (proceeded.sending running sending hold)
      · exact .inr (.inr (hreturned hnew))
      · obtain ⟨callId, c, hc, hgoes⟩ := proceed_sends proceeded hsending
        exact .inr (.inl ⟨callId, c, hc, hgoes⟩)

end Router

namespace MessageService

variable {cfg : MessageConfig}

/-! ## Messages that are under way -/

/-- `handle_message` lets the request pass, for a callee. -/
def Passes (cfg : MessageConfig) (callee text fromExt : Str) : Prop :=
  cfg.checkMessage text fromExt = .ok (.ok callee)

/-- What a running call carries has passed. -/
def CallPassed (cfg : MessageConfig) (c : Call) : Prop :=
  match c.pc with
  | .answered _ _ | .panicked => True
  | _ => Passes cfg c.callee c.text c.fromExt

/-- Every message in a state has passed. -/
structure Passed (cfg : MessageConfig) (s : MessageService) : Prop where
  call : ∀ id c, s.calls.lookup id = some c → CallPassed cfg c
  queued : ∀ callee, ∀ m ∈ queueOf s.offlineMessages callee, Passes cfg callee m.originalRequest m.fromExt
  held : ∀ id d, s.deliveries.lookup id = some d →
    ∀ m ∈ d.pc.pending, Passes cfg d.extension m.originalRequest m.fromExt
  sent : ∀ t ∈ s.sends, Passes cfg t.callee t.request t.fromExt

theorem Passed.setCall {s : MessageService} (h : Passed cfg s) {id : Nat} {c : Call}
    (hc : CallPassed cfg c) : Passed cfg (s.setCall id c) := by
  refine { h with call := fun id' c' hl => ?_ }
  rcases Table.lookup_insert_eq_some hl with ⟨-, rfl⟩ | ⟨-, hl⟩
  · exact hc
  · exact h.call id' c' hl

theorem Passed.setDelivery {s : MessageService} (h : Passed cfg s) {id : Nat} {d : Delivery}
    (hd : ∀ m ∈ d.pc.pending, Passes cfg d.extension m.originalRequest m.fromExt) :
    Passed cfg (s.setDelivery id d) := by
  refine { h with held := fun id' d' hl => ?_ }
  rcases Table.lookup_insert_eq_some hl with ⟨-, rfl⟩ | ⟨-, hl⟩
  · exact hd
  · exact h.held id' d' hl

theorem Passed.transmit {s : MessageService} (h : Passed cfg s) {t : Transmission}
    (ht : Passes cfg t.callee t.request t.fromExt) : Passed cfg (s.transmit t) := by
  refine { h with sent := fun t' ht' => ?_ }
  rcases List.mem_append.mp ht' with ht' | ht'
  · exact h.sent t' ht'
  · exact List.mem_singleton.mp ht' ▸ ht

theorem Passed.leave {s : MessageService} (h : Passed cfg s) (messages : List (Nat × Place)) :
    Passed cfg (s.leave messages) :=
  { h with }

theorem Passed.setQueues {s : MessageService} (h : Passed cfg s) (map : OfflineQueues)
    (hm : ∀ callee, ∀ m ∈ queueOf map callee, Passes cfg callee m.originalRequest m.fromExt) :
    Passed cfg (s.setQueues map) :=
  { h with queued := hm }

theorem Passed.submit {s : MessageService} (h : Passed cfg s) (id : Nat) (text fromExt : Str)
    (tag : Vector UInt8 8) : Passed cfg (s.submit cfg id text fromExt tag) := by
  unfold MessageService.submit
  split
  · exact h.setCall trivial
  · exact h.setCall trivial
  · rename_i hcheck
    exact h.setCall (show Passes cfg _ _ _ from hcheck)

theorem Passed.queueCall {s : MessageService} (h : Passed cfg s) (id : Nat) {c : Call} (now : Nat)
    (hc : Passes cfg c.callee c.text c.fromExt) : Passed cfg (s.queueCall id c now) := by
  have hqueues := (h.leave (s.offlineMessages.collect (expiredOf now))).setQueues
    (storeMessage c.callee ⟨c.fromExt, c.text, now, id⟩ s.offlineMessages).2 fun callee m hm => by
      rcases mem_storeMessage hm with hm | ⟨rfl, rfl⟩
      · exact h.queued callee m hm
      · exact hc
  unfold MessageService.queueCall
  dsimp only
  split
  · exact (hqueues.setCall (c := c.answer 200 "OK".toList) trivial).leave _
  · exact hqueues.setCall (c := c.answer 503 "Service Unavailable".toList) trivial

theorem Passed.callStep {s : MessageService} (h : Passed cfg s) {id : Nat} {c : Call} (env : Env)
    (branch : Vector UInt8 8) (taken : Bool) (hl : s.calls.lookup id = some c) :
    Passed cfg (s.callStep cfg id c env branch taken) := by
  have hc := h.call id c hl
  unfold CallPassed at hc
  unfold MessageService.callStep
  cases hpc : c.pc with
  | looking =>
    rw [hpc] at hc
    dsimp only
    split
    · exact h.setCall hc
    · exact h.setCall hc
  | targeting sink =>
    rw [hpc] at hc
    dsimp only
    split
    · exact h.setCall trivial
    · exact h.setCall hc
  | sending sink targetUri forwarded =>
    rw [hpc] at hc
    have hsent := h.transmit (t := ⟨id, c.callee, c.fromExt, c.text, targetUri, sink, forwarded, taken⟩) hc
    dsimp only
    split
    · exact (hsent.setCall (c := c.answer 200 "OK".toList) trivial).leave _
    · exact hsent.setCall hc
  | storing =>
    rw [hpc] at hc
    have hrates : Passed cfg { s with senderRates := (countSender env.now c.fromExt s.senderRates).2 } :=
      { h with }
    dsimp only
    split
    · exact hrates.setCall hc
    · exact hrates.setCall (c := c.answer 503 "Service Unavailable".toList) trivial
  | queueing now =>
    rw [hpc] at hc
    exact h.queueCall id now hc
  | answered status response => exact h
  | panicked => exact h

theorem Passed.deliveryStep {s : MessageService} (h : Passed cfg s) {id : Nat} {d : Delivery} (env : Env)
    (branch : Vector UInt8 8) (taken : Bool) (hl : s.deliveries.lookup id = some d) :
    Passed cfg (s.deliveryStep cfg id d env branch taken) := by
  have hm := h.held id d hl
  unfold MessageService.deliveryStep
  cases hpc : d.pc with
  | starting =>
    have hqueues := (h.setQueues (s.offlineMessages.erase d.extension) fun callee m hm => by
      rw [queueOf_erase] at hm
      split at hm
      · cases hm
      · exact h.queued callee m hm).leave (expiredOf env.now d.extension
        (queueOf s.offlineMessages d.extension))
    refine hqueues.setDelivery fun m hm => ?_
    rw [DeliveryPc.pending_afterTake] at hm
    exact h.queued d.extension m (List.mem_of_mem_filter hm)
  | looking pending =>
    rw [hpc] at hm
    dsimp only
    split
    · exact h.setDelivery hm
    · exact h.setDelivery hm
  | targeting sink pending =>
    rw [hpc] at hm
    exact h.setDelivery hm
  | sending sink targetUri pending =>
    rw [hpc] at hm
    cases pending with
    | nil => exact h.setDelivery hm
    | cons m rest =>
      dsimp only
      split
      · exact h.setDelivery nofun
      · rename_i forwarded hforward
        have hsent := h.transmit (t := ⟨m.origin, d.extension, m.fromExt, m.originalRequest, targetUri,
          sink, forwarded, taken⟩) (hm m List.mem_cons_self)
        split
        · exact (hsent.setDelivery (d := { d with pc := .sending sink targetUri rest }) fun m' hm' =>
            hm m' (List.mem_cons_of_mem _ hm')).leave _
        · exact hsent.setDelivery hm
  | merging pending =>
    rw [hpc] at hm
    refine ((h.setQueues _ fun callee m hmem => ?_).leave _).setDelivery nofun
    rw [queueOf_insert] at hmem
    split at hmem
    · rename_i he
      subst he
      rcases mem_mergeBack hmem with hmem | hmem
      · exact hm m hmem
      · exact h.queued _ m hmem
    · exact h.queued callee m hmem
  | done => exact h
  | panicked => exact h

/-- **A step keeps it.** -/
theorem Passed.step {s : MessageService} (h : Passed cfg s) (event : MessageEvent) :
    Passed cfg (s.step cfg event) := by
  cases event with
  | submit id text fromExt tag =>
    unfold MessageService.step
    dsimp only
    split
    · exact h.submit id text fromExt tag
    · exact h
  | call id env branch taken =>
    unfold MessageService.step
    dsimp only
    split
    · rename_i hl
      exact h.callStep env branch taken hl
    · exact h
  | deliver id extension =>
    unfold MessageService.step
    dsimp only
    split
    · exact h.setDelivery nofun
    · exact h
  | delivery id env branch taken =>
    unfold MessageService.step
    dsimp only
    split
    · rename_i hl
      exact h.deliveryStep env branch taken hl
    · exact h

/-- **What is sent has passed the checks.** -/
theorem run_passed (cfg : MessageConfig) (events : List MessageEvent) : Passed cfg (run cfg events) := by
  induction events using List.reverseRecOn with
  | nil =>
    refine ⟨nofun, fun callee m hm => ?_, nofun, nofun⟩
    cases hm
  | append_singleton events event ih =>
    rw [run, List.foldl_append]
    exact ih.step event

/-- A request that passes has a sender, who is not the callee. -/
theorem Passes.sender {callee text fromExt : Str} (h : Passes cfg callee text fromExt) :
    fromExt ≠ [] ∧ callee ≠ fromExt := by
  unfold Passes MessageConfig.checkMessage at h
  split at h
  · cases h
  rename_i hfrom
  split at h
  · cases h
  obtain ⟨ext, -, h⟩ := Res.bind_eq_ok.mp h
  dsimp only at h
  split at h
  · cases h
  rename_i hcallee
  split at h
  · cases h
  obtain ⟨body, -, h⟩ := Res.bind_eq_ok.mp h
  split at h
  · cases h
  split at h
  · cases h
  · cases h
    simp only [Bool.or_eq_true, decide_eq_true_eq, not_or] at hcallee
    exact ⟨by simpa [List.isEmpty_iff] using hfrom, hcallee.2⟩

end MessageService

namespace System

section

variable (cfg : SystemConfig) (md5 : List UInt8 → Vector UInt8 16) (B : Base64) (media : MediaRelayManager)

/-- The answer of the server to an INVITE, for the peer that the INVITE came from. -/
def OwnAnswer (events : List SystemEvent) (out : Outgoing) : Prop :=
  ∃ done id reader peer st statusCode text,
    Started cfg md5 B media events done id reader peer st (.route .invite) ∧
      out = .answer id statusCode (reader.sink peer) text none

/-- What the router sends goes to one of the parties of an entry of `active_calls` that was opened as it
should be, or it is the server's own answer. -/
def Confined (events : List SystemEvent) (out : Outgoing) : Prop :=
  (∃ done callId c, done <+: events ∧
    (run cfg md5 B media done).router.activeCalls.lookup callId = some c ∧
    Legitimate cfg md5 B media events c ∧ Router.GoesTo c out) ∨ OwnAnswer cfg md5 B media events out

/-- A message that was given to a sink: it was read as a request of the sender, on a connection that had
authenticated as it; the request is for the callee, and the callee had authenticated on the sink. The text is
what `build_outbound_request_with_from` makes of the request for the callee and this sender. -/
structure Delivered (events done : List SystemEvent) (reader : Reader) (peer : SocketAddr) (st : Stimulus)
    (t : Transmission) : Prop where
  started : Started cfg md5 B media events done t.origin reader peer st .message
  request : t.request = st.text
  passes : MessageService.Passes cfg.message t.callee st.text t.fromExt
  sender : ∃ sink, Authenticated cfg md5 B media done t.fromExt peer sink
  callee : ∃ addr, Authenticated cfg md5 B media events t.callee addr t.sink
  text : ∃ branch, cfg.message.forward st.text t.fromExt t.targetUri t.sink.transport branch = .ok t.text

/-- The executions of the router are jobs of the server. -/
def Employed (events : List SystemEvent) : Prop :=
  ∀ id task, (run cfg md5 B media events).router.tasks.lookup id = some task → ∃ done reader peer st,
    Started cfg md5 B media events done id reader peer st (.route task.handler) ∧
      task.msg = (run cfg md5 B media done).incoming reader peer st

end

variable {cfg : SystemConfig} {md5 : List UInt8 → Vector UInt8 16} {B : Base64} {media : MediaRelayManager}

theorem Entered.mono {events : List SystemEvent} {c : CallInfo} (h : Entered cfg md5 B media events c)
    (event : SystemEvent) : Entered cfg md5 B media (events ++ [event]) c := by
  obtain ⟨done, callId, hdone, hc⟩ := h
  exact ⟨done, callId, hdone.trans (List.prefix_append _ _), hc⟩

theorem OwnAnswer.mono {events : List SystemEvent} {out : Outgoing}
    (h : OwnAnswer cfg md5 B media events out) (event : SystemEvent) :
    OwnAnswer cfg md5 B media (events ++ [event]) out := by
  obtain ⟨done, id, reader, peer, st, statusCode, text, hstarted, hout⟩ := h
  exact ⟨done, id, reader, peer, st, statusCode, text, hstarted.mono event, hout⟩

theorem Employed.step {events : List SystemEvent} (h : Employed cfg md5 B media events) (event : SystemEvent) :
    Employed cfg md5 B media (events ++ [event]) := by
  have hold : ∀ id task, (run cfg md5 B media events).router.tasks.lookup id = some task →
      ∃ done reader peer st,
        Started cfg md5 B media (events ++ [event]) done id reader peer st (.route task.handler) ∧
        task.msg = (run cfg md5 B media done).incoming reader peer st := by
    intro id task htask
    obtain ⟨done, reader, peer, st, hstarted, hmsg⟩ := h id task htask
    exact ⟨done, reader, peer, st, hstarted.mono event, hmsg⟩
  intro id task htask
  rw [run_append, router_step] at htask
  cases hevent : (run cfg md5 B media events).routerEvent cfg event with
  | none =>
    rw [hevent] at htask
    exact hold id task htask
  | some x =>
    rw [hevent] at htask
    dsimp only at htask
    have hstep := Router.stepped cfg.router B
      ((run cfg md5 B media events).router.step cfg.router B (run cfg md5 B media events).world) x
    revert hstep htask
    generalize Router.step cfg.router B _ x = router'
    intro htask hstep
    cases hstep with
    | idle => exact hold id task htask
    | world writers registrar => exact hold id task htask
    | received fresh handled =>
      rw [Router.settle_tasks] at htask
      split at htask
      · rename_i hid
        cases htask
        rcases routerEvent_cases hevent with
          ⟨reader, peer, st, handler, hread, he⟩ | ⟨_, _, _, _, -, -, -, he⟩
        · cases he
          exact ⟨events, reader, peer, st, hid ▸ started_last hread, rfl⟩
        · cases he
      · rw [handled.frame.1] at htask
        exact hold id task htask
    | resumed running sending proceeded =>
      rw [Router.settle_tasks] at htask
      split at htask
      · rename_i hid
        cases htask
        obtain ⟨done, reader, peer, st, hstarted, hmsg⟩ := hold _ _ running
        exact ⟨done, reader, peer, st, hid ▸ hstarted, hmsg⟩
      · rw [proceeded.frame.1] at htask
        exact hold id task htask

theorem run_employed (cfg : SystemConfig) (md5 : List UInt8 → Vector UInt8 16) (B : Base64)
    (media : MediaRelayManager) (events : List SystemEvent) : Employed cfg md5 B media events := by
  induction events using List.reverseRecOn with
  | nil =>
    intro id task htask
    cases (AList.lookup_empty id).symm.trans htask
  | append_singleton events event ih => exact ih.step event

/-- Whatever the router sends is for a party of an entry, or the server's own answer. -/
theorem run_goesTo (cfg : SystemConfig) (md5 : List UInt8 → Vector UInt8 16) (B : Base64)
    (media : MediaRelayManager) (events : List SystemEvent) :
    ∀ out, Router.Sending (run cfg md5 B media events).router out →
      (∃ c, Entered cfg md5 B media events c ∧ Router.GoesTo c out) ∨
        OwnAnswer cfg md5 B media events out := by
  induction events using List.reverseRecOn with
  | nil =>
    rintro out (hsent | ⟨id, task, htask, -⟩)
    · cases hsent
    · cases (AList.lookup_empty id).symm.trans htask
  | append_singleton events event ih =>
    intro out h
    have hold : Router.Sending (run cfg md5 B media events).router out →
        (∃ c, Entered cfg md5 B media (events ++ [event]) c ∧ Router.GoesTo c out) ∨
          OwnAnswer cfg md5 B media (events ++ [event]) out := by
      intro hold
      rcases ih out hold with ⟨c, hentered, hgoes⟩ | hanswer
      · exact .inl ⟨c, hentered.mono event, hgoes⟩
      · exact .inr (hanswer.mono event)
    have hentered : ∀ callId c,
        (run cfg md5 B media (events ++ [event])).router.activeCalls.lookup callId = some c →
          Entered cfg md5 B media (events ++ [event]) c := fun callId c hc =>
      ⟨_, callId, List.prefix_refl _, hc⟩
    have htasks := run_employed cfg md5 B media (events ++ [event])
    unfold Employed at htasks
    rw [run_append, router_step] at h hentered htasks
    cases hevent : (run cfg md5 B media events).routerEvent cfg event with
    | none =>
      rw [hevent] at h
      exact hold h
    | some x =>
      rw [hevent] at h hentered htasks
      rcases Router.sending_step h with
        h | ⟨callId, c, hc, hgoes⟩ | ⟨id, task, statusCode, text, htask, hinvite, rfl⟩
      · exact hold h
      · exact .inl ⟨c, hentered callId c hc, hgoes⟩
      · obtain ⟨done, reader, peer, st, hstarted, hmsg⟩ := htasks id task htask
        rw [hinvite] at hstarted
        exact .inr ⟨done, id, reader, peer, st, statusCode, text, hstarted, by rw [hmsg]; rfl⟩

/-- **Signalling stays between the parties.** In every run of the whole server, everything that the router sends
on or answers goes to one of the two parties of an entry of `active_calls` that was opened as it should be, or
to the peer whose INVITE is answered. -/
theorem signalling_confined (cfg : SystemConfig) (md5 : List UInt8 → Vector UInt8 16) (B : Base64)
    (media : MediaRelayManager) (events : List SystemEvent) :
    ∀ out, Router.Sending (run cfg md5 B media events).router out →
      Confined cfg md5 B media events out := by
  intro out hsending
  rcases run_goesTo cfg md5 B media events out hsending with ⟨c, hentered, hgoes⟩ | hanswer
  · have hlegitimate := hentered.legitimate
    obtain ⟨done, callId, hdone, hc⟩ := hentered
    exact .inl ⟨done, callId, c, hdone, hc, hlegitimate, hgoes⟩
  · exact .inr hanswer

/-- The INVITE of one phone goes to the other one. -/
theorem signalling_confined_concrete :
    ∃ text, Router.Sending (run phoneSystem phoneMd5 .standard Router.phoneManager phonesCall).router
        (.request (.stream 1) text) ∧
      Confined phoneSystem phoneMd5 .standard Router.phoneManager phonesCall (.request (.stream 1) text) := by
  obtain ⟨-, ⟨task, text, htask, hsending⟩, -⟩ := phones_call
  have hsent : Router.Sending (run phoneSystem phoneMd5 .standard Router.phoneManager phonesCall).router
      (.request (.stream 1) text) := .inr ⟨4, task, htask, hsending⟩
  exact ⟨text, hsent,
    signalling_confined phoneSystem phoneMd5 .standard Router.phoneManager phonesCall _ hsent⟩

/-- Whatever the message service sends goes to a sink on which the callee has authenticated. -/
theorem callee_of_send {events : List SystemEvent} {t : Transmission}
    (ht : t ∈ (run cfg md5 B media events).service.sends) :
    ∃ addr, Authenticated cfg md5 B media events t.callee addr t.sink := by
  rw [run_service] at ht
  obtain ⟨env, hseen, hsink⟩ := ((MessageService.run_traced cfg.message _ fun _ he => he).sent t ht).outbound
  obtain ⟨late, hlate, hwriters, hregistrar⟩ := env_of_seen hseen
  obtain ⟨writers, registrar, now⟩ := env
  cases hwriters
  cases hregistrar
  obtain ⟨addr, hauth⟩ := (run_vouched cfg md5 B media late).outbound hsink
  exact ⟨addr, hauth.mono hlate⟩

/-- **Who is behind an instant message.** In every run of the whole server, whatever the message service gives
to a sink, at once or from a queue, was read from a peer that had authenticated as the sender that it is sent
for, and goes to a sink on which its callee has authenticated. -/
theorem messages_authentic (cfg : SystemConfig) (md5 : List UInt8 → Vector UInt8 16) (B : Base64)
    (media : MediaRelayManager) (events : List SystemEvent) :
    ∀ t ∈ (run cfg md5 B media events).service.sends, ∃ done reader peer st,
      Delivered cfg md5 B media events done reader peer st t := by
  intro t ht
  have hcallee := callee_of_send ht
  rw [run_service] at ht
  have htraced := (MessageService.run_traced cfg.message _ fun _ he => he).sent t ht
  have hpasses := (MessageService.run_passed cfg.message _).sent t ht
  obtain ⟨done, reader, peer, st, hstarted, hrequest, hfrom⟩ := started_of_submitted htraced.submitted
  refine ⟨done, reader, peer, st, hstarted, hrequest, hrequest ▸ hpasses, ?_, hcallee,
    hrequest ▸ htraced.text⟩
  -- the sender is the extension of the connection, if there is one
  have hne := hpasses.sender.1
  rw [hfrom] at hne ⊢
  unfold ServerState.fromExt at hne ⊢
  cases hext : (run cfg md5 B media done).server.getConnectionExtension peer with
  | none =>
    rw [hext] at hne
    exact absurd rfl hne
  | some extension => exact (run_vouched cfg md5 B media done).identity hext

/-- One phone sends a message to the other one, which is connected. -/
def phonesText : List SystemEvent :=
  phonesJoin ++ .message (.connection 0) (Router.phoneAddr 1) (phoneStimulus
      ("MESSAGE sip:1002@example.com SIP/2.0\r\nFrom: <sip:1001@example.com>\r\n\r\nhi".toList) 32) ::
    List.replicate 3 (.resume 4 true Router.phoneDraw)

theorem messages_authentic_concrete :
    ∃ t ∈ (run phoneSystem phoneMd5 .standard Router.phoneManager phonesText).service.sends,
      ∃ done reader peer st,
        Delivered phoneSystem phoneMd5 .standard Router.phoneManager phonesText done reader peer st t := by
  have hsent : (run phoneSystem phoneMd5 .standard Router.phoneManager phonesText).service.sends ≠ [] := by
    decide +kernel
  obtain ⟨t, ht⟩ := List.exists_mem_of_ne_nil _ hsent
  exact ⟨t, ht, messages_authentic phoneSystem phoneMd5 .standard Router.phoneManager phonesText t ht⟩

end System

end Minghe.Sip
