import Minghe.Sip.Message

/-!
# Where everything in the message service comes from

`Traced all s`: in a state `s` that some of the events `all` led to, every message, running call,
delivery and transmission goes back to one of these events. A message was submitted by a call from its
sender; a sink is what `get_outbound` gave for the callee in some environment, a target what
`registered_contact_uri` gave; a text on the wire is the rewritten request.

* `Traced.step`: a step keeps the traces, whatever it sees of the rest of the server.
* `run_traced`: in every run, everything that is queued, held or on the wire goes back to its events.
-/

namespace Minghe.Sip

open Minghe.Lib

namespace MessageService

/-- What an event saw of the rest of the server. -/
def seenBy : MessageEvent → Option Env
  | .call _ env _ _ | .delivery _ env _ _ => some env
  | .submit _ _ _ _ | .deliver _ _ => none

section

variable (cfg : MessageConfig) (all : List MessageEvent)

/-! ## Origins -/

/-- A call submitted a request. -/
def Submitted (id : Nat) (text fromExt : Str) : Prop := ∃ tag, .submit id text fromExt tag ∈ all

/-- The rest of the server, as some event saw it. -/
def Seen (env : Env) : Prop := ∃ event ∈ all, seenBy event = some env

/-- A sink of a callee. -/
def Outbound (callee : Str) (sink : ConnectionSink) : Prop :=
  ∃ env, Seen all env ∧ cfg.getOutbound env callee = some sink

/-- A target for a callee. -/
def Target (callee targetUri : Str) : Prop :=
  ∃ env, Seen all env ∧ targetUri = registeredContactUri callee cfg.domain env.now env.registrar

/-- A message for a callee. -/
def MessageTraced (callee : Str) (m : OfflineMessage) : Prop :=
  cfg.isValidExtension callee = true ∧ Submitted all m.origin m.originalRequest m.fromExt

/-- A text that was given to a sink. -/
structure TransmissionTraced (t : Transmission) : Prop where
  submitted : Submitted all t.origin t.request t.fromExt
  valid : cfg.isValidExtension t.callee = true
  outbound : Outbound cfg all t.callee t.sink
  target : Target cfg all t.callee t.targetUri
  text : ∃ branch, cfg.forward t.request t.fromExt t.targetUri t.sink.transport branch = .ok t.text

/-- What a call has found out. -/
def CallTraced (c : Call) : Prop :=
  match c.pc with
  | .looking | .storing | .queueing _ => cfg.isValidExtension c.callee = true
  | .targeting sink => cfg.isValidExtension c.callee = true ∧ Outbound cfg all c.callee sink
  | .sending sink targetUri forwarded => cfg.isValidExtension c.callee = true ∧
      Outbound cfg all c.callee sink ∧ Target cfg all c.callee targetUri ∧
      ∃ branch, cfg.forward c.text c.fromExt targetUri sink.transport branch = .ok forwarded
  | .answered _ _ | .panicked => True

/-- What a delivery has found out. -/
def DeliveryTraced (d : Delivery) : Prop :=
  match d.pc with
  | .targeting sink _ => Outbound cfg all d.extension sink
  | .sending sink targetUri _ => Outbound cfg all d.extension sink ∧ Target cfg all d.extension targetUri
  | _ => True

/-- Everything in a state goes back to an event. -/
structure Traced (s : MessageService) : Prop where
  call : ∀ id c, s.calls.lookup id = some c → Submitted all id c.text c.fromExt ∧ CallTraced cfg all c
  queued : ∀ callee, ∀ m ∈ queueOf s.offlineMessages callee, MessageTraced cfg all callee m
  held : ∀ id d, s.deliveries.lookup id = some d →
    (∀ m ∈ d.pc.pending, MessageTraced cfg all d.extension m) ∧ DeliveryTraced cfg all d
  sent : ∀ t ∈ s.sends, TransmissionTraced cfg all t

end

variable {cfg : MessageConfig} {all : List MessageEvent}

/-! ## What the parts of a step keep -/

theorem Traced.setCall {s : MessageService} (h : Traced cfg all s) {id : Nat} {c : Call}
    (hs : Submitted all id c.text c.fromExt) (hc : CallTraced cfg all c) :
    Traced cfg all (s.setCall id c) := by
  refine { h with call := fun id' c' hl => ?_ }
  simp only [MessageService.setCall, Table.lookup_insert_eq] at hl
  split at hl
  · rename_i he
    cases hl
    exact he ▸ ⟨hs, hc⟩
  · exact h.call id' c' hl

theorem Traced.answer {s : MessageService} (h : Traced cfg all s) {id : Nat} {c : Call}
    (hs : Submitted all id c.text c.fromExt) (status : Nat) (reason : Str) :
    Traced cfg all (s.setCall id (c.answer status reason)) :=
  h.setCall (c := c.answer status reason) hs trivial

theorem Traced.setDelivery {s : MessageService} (h : Traced cfg all s) {id : Nat} {d : Delivery}
    (hm : ∀ m ∈ d.pc.pending, MessageTraced cfg all d.extension m) (hd : DeliveryTraced cfg all d) :
    Traced cfg all (s.setDelivery id d) := by
  refine { h with held := fun id' d' hl => ?_ }
  simp only [MessageService.setDelivery, Table.lookup_insert_eq] at hl
  split at hl
  · cases hl
    exact ⟨hm, hd⟩
  · exact h.held id' d' hl

theorem Traced.leave {s : MessageService} (h : Traced cfg all s) (messages : List (Nat × Place)) :
    Traced cfg all (s.leave messages) := { h with }

theorem Traced.transmit {s : MessageService} (h : Traced cfg all s) {t : Transmission}
    (ht : TransmissionTraced cfg all t) : Traced cfg all (s.transmit t) :=
  { h with
    sent := fun t' ht' => by
      rcases List.mem_append.mp ht' with ht' | ht'
      · exact h.sent t' ht'
      · exact List.mem_singleton.mp ht' ▸ ht }

theorem Traced.setQueues {s : MessageService} (h : Traced cfg all s) (map : OfflineQueues)
    (hm : ∀ callee, ∀ m ∈ queueOf map callee, MessageTraced cfg all callee m) :
    Traced cfg all (s.setQueues map) :=
  { h with queued := hm }

/-! ## Queues -/

theorem queueOf_insert (map : OfflineQueues) (callee callee' : Str) (queue : List OfflineMessage) :
    queueOf (map.insert callee queue) callee' = if callee' = callee then queue else queueOf map callee' := by
  unfold queueOf
  rw [Table.lookup_insert_eq]
  split <;> rfl

theorem queueOf_erase (map : OfflineQueues) (callee callee' : Str) :
    queueOf (map.erase callee) callee' = if callee' = callee then [] else queueOf map callee' := by
  unfold queueOf
  rw [Table.lookup_erase_eq]
  split <;> rfl

/-- `prune_expired` filters every queue. -/
theorem queueOf_pruneExpired (now : Nat) (map : OfflineQueues) (callee : Str) :
    queueOf (pruneExpired now map) callee = (queueOf map callee).filter (OfflineMessage.live now) := by
  unfold queueOf pruneExpired
  rw [Table.lookup_filterMap]
  cases map.lookup callee with
  | none => rfl
  | some queue =>
    simp only [Option.bind_some, Option.getD_some]
    split
    · rename_i hempty
      exact (List.isEmpty_iff.mp hempty).symm
    · rfl

theorem mem_pushMessage {queue : List OfflineMessage} {m m' : OfflineMessage}
    (h : m' ∈ pushMessage queue m) : m' ∈ queue ∨ m' = m := by
  unfold pushMessage at h
  rw [List.mem_append, List.mem_singleton] at h
  refine h.imp_left fun h => ?_
  split at h
  · exact List.mem_of_mem_tail h
  · exact h

theorem mem_mergeBack {queue pending : List OfflineMessage} {m : OfflineMessage}
    (h : m ∈ mergeBack queue pending) : m ∈ pending ∨ m ∈ queue :=
  List.mem_append.mp (List.mem_of_mem_drop h)

/-- A message that `store_offline_message` leaves in a queue was there before or is the new one. -/
theorem mem_storeMessage {callee callee' : Str} {m m' : OfflineMessage} {map : OfflineQueues}
    (h : m' ∈ queueOf (storeMessage callee m map).2 callee') :
    m' ∈ queueOf map callee' ∨ m' = m ∧ callee' = callee := by
  have hprune : m' ∈ queueOf (pruneExpired m.receivedAt map) callee' → m' ∈ queueOf map callee' := by
    rw [queueOf_pruneExpired]
    exact List.mem_of_mem_filter
  unfold storeMessage at h
  dsimp only at h
  split at h
  · exact .inl (hprune h)
  split at h
  · exact .inl (hprune h)
  rw [queueOf_insert] at h
  split at h
  · rename_i he
    subst he
    exact (mem_pushMessage h).imp hprune fun he => ⟨he, rfl⟩
  · exact .inl (hprune h)

/-! ## Steps -/

/-- What `handle_message` checked of an accepted request. -/
theorem checkMessage_ok {text fromExt callee : Str} (h : cfg.checkMessage text fromExt = .ok (.ok callee)) :
    cfg.isValidExtension callee = true := by
  unfold MessageConfig.checkMessage at h
  split at h
  · cases h
  split at h
  · cases h
  obtain ⟨ext, -, h⟩ := Res.bind_eq_ok.mp h
  dsimp only at h
  split at h
  · cases h
  split at h
  · cases h
  rename_i hvalid
  obtain ⟨body, -, h⟩ := Res.bind_eq_ok.mp h
  split at h
  · cases h
  split at h
  · cases h
  · cases h
    simpa using hvalid

theorem Traced.submit {s : MessageService} (h : Traced cfg all s) {id : Nat} {text fromExt : Str}
    {tag : Vector UInt8 8} (he : .submit id text fromExt tag ∈ all) :
    Traced cfg all (s.submit cfg id text fromExt tag) := by
  unfold MessageService.submit
  split
  · exact h.setCall ⟨tag, he⟩ trivial
  · exact h.setCall ⟨tag, he⟩ trivial
  · rename_i hcheck
    exact h.setCall ⟨tag, he⟩ (checkMessage_ok hcheck)

theorem Traced.queueCall {s : MessageService} (h : Traced cfg all s) {id : Nat} {c : Call} (now : Nat)
    (hs : Submitted all id c.text c.fromExt) (hvalid : cfg.isValidExtension c.callee = true) :
    Traced cfg all (s.queueCall id c now) := by
  have hqueues := (h.leave (s.offlineMessages.collect (expiredOf now))).setQueues
    (storeMessage c.callee ⟨c.fromExt, c.text, now, id⟩ s.offlineMessages).2
    fun callee m hm => by
      rcases mem_storeMessage hm with hm | ⟨rfl, rfl⟩
      · exact h.queued callee m hm
      · exact ⟨hvalid, hs⟩
  unfold MessageService.queueCall
  dsimp only
  split
  · exact (hqueues.answer hs _ _).leave _
  · exact hqueues.answer hs _ _

theorem Traced.callStep {s : MessageService} (h : Traced cfg all s) {id : Nat} {c : Call} {env : Env}
    {branch : Vector UInt8 8} {taken : Bool} (hl : s.calls.lookup id = some c) (hseen : Seen all env) :
    Traced cfg all (s.callStep cfg id c env branch taken) := by
  obtain ⟨hs, hc⟩ := h.call id c hl
  unfold CallTraced at hc
  unfold MessageService.callStep
  cases hpc : c.pc with
  | looking =>
    rw [hpc] at hc
    dsimp only
    split
    · rename_i sink hsink
      exact h.setCall hs ⟨hc, env, hseen, hsink⟩
    · exact h.setCall hs hc
  | targeting sink =>
    rw [hpc] at hc
    dsimp only
    split
    · exact h.setCall hs trivial
    · rename_i forwarded hforward
      exact h.setCall hs ⟨hc.1, hc.2, ⟨env, hseen, rfl⟩, branch, hforward⟩
  | sending sink targetUri forwarded =>
    rw [hpc] at hc
    obtain ⟨hvalid, hsink, htarget, htext⟩ := hc
    have hsent := h.transmit (t := ⟨id, c.callee, c.fromExt, c.text, targetUri, sink, forwarded, taken⟩)
      ⟨hs, hvalid, hsink, htarget, htext⟩
    dsimp only
    split
    · exact (hsent.answer hs _ _).leave _
    · exact hsent.setCall hs hvalid
  | storing =>
    rw [hpc] at hc
    have hrates : Traced cfg all { s with senderRates := (countSender env.now c.fromExt s.senderRates).2 } :=
      { h with }
    dsimp only
    split
    · exact hrates.setCall hs hc
    · exact hrates.answer hs _ _
  | queueing now =>
    rw [hpc] at hc
    exact h.queueCall now hs hc
  | answered status response => exact h
  | panicked => exact h

theorem Traced.deliveryStep {s : MessageService} (h : Traced cfg all s) {id : Nat} {d : Delivery}
    {env : Env} {branch : Vector UInt8 8} {taken : Bool} (hl : s.deliveries.lookup id = some d)
    (hseen : Seen all env) : Traced cfg all (s.deliveryStep cfg id d env branch taken) := by
  obtain ⟨hm, hd⟩ := h.held id d hl
  unfold DeliveryTraced at hd
  unfold MessageService.deliveryStep
  cases hpc : d.pc with
  | starting =>
    have hqueues := (h.setQueues (s.offlineMessages.erase d.extension) fun callee m hm => by
      rw [queueOf_erase] at hm
      split at hm
      · cases hm
      · exact h.queued callee m hm).leave (expiredOf env.now d.extension
        (queueOf s.offlineMessages d.extension))
    refine hqueues.setDelivery (fun m hm => ?_) ?_
    · rw [DeliveryPc.pending_afterTake] at hm
      exact h.queued d.extension m (List.mem_of_mem_filter hm)
    · unfold DeliveryTraced
      cases (queueOf s.offlineMessages d.extension).filter (OfflineMessage.live env.now) with
      | nil => trivial
      | cons m rest => trivial
  | looking pending =>
    rw [hpc] at hm
    dsimp only
    split
    · rename_i sink hsink
      exact h.setDelivery hm ⟨env, hseen, hsink⟩
    · exact h.setDelivery hm trivial
  | targeting sink pending =>
    rw [hpc] at hm hd
    exact h.setDelivery hm ⟨hd, env, hseen, rfl⟩
  | sending sink targetUri pending =>
    rw [hpc] at hm hd
    cases pending with
    | nil => exact h.setDelivery hm trivial
    | cons m rest =>
      have hrest : ∀ m' ∈ rest, MessageTraced cfg all d.extension m' := fun m' hm' =>
        hm m' (List.mem_cons_of_mem _ hm')
      obtain ⟨hvalid, hs⟩ := hm m List.mem_cons_self
      dsimp only
      split
      · exact h.setDelivery nofun trivial
      · rename_i forwarded hforward
        have hsent := h.transmit (t := ⟨m.origin, d.extension, m.fromExt, m.originalRequest, targetUri,
          sink, forwarded, taken⟩) ⟨hs, hvalid, hd.1, hd.2, branch, hforward⟩
        split
        · exact (hsent.setDelivery (d := { d with pc := .sending sink targetUri rest }) hrest hd).leave _
        · exact hsent.setDelivery hm trivial
  | merging pending =>
    rw [hpc] at hm
    refine Traced.setDelivery (Traced.leave (h.setQueues _ fun callee m hmem => ?_) _) nofun trivial
    rw [queueOf_insert] at hmem
    split at hmem
    · rename_i he
      subst he
      rcases mem_mergeBack hmem with hmem | hmem
      · exact hm m hmem
      · exact h.queued _ m hmem
    · exact h.queued callee m hmem
  | done => exact h
  | panicked => exact h

/-- **A step keeps the traces.** -/
theorem Traced.step {s : MessageService} (h : Traced cfg all s) {event : MessageEvent}
    (he : event ∈ all) : Traced cfg all (s.step cfg event) := by
  cases event with
  | submit id text fromExt tag =>
    unfold MessageService.step
    dsimp only
    split
    · exact h.submit he
    · exact h
  | call id env branch taken =>
    unfold MessageService.step
    dsimp only
    split
    · rename_i hl
      exact h.callStep hl ⟨_, he, rfl⟩
    · exact h
  | deliver id extension =>
    unfold MessageService.step
    dsimp only
    split
    · exact h.setDelivery nofun trivial
    · exact h
  | delivery id env branch taken =>
    unfold MessageService.step
    dsimp only
    split
    · rename_i hl
      exact h.deliveryStep hl ⟨_, he, rfl⟩
    · exact h

/-- **Everything in a run goes back to its events.** -/
theorem run_traced (cfg : MessageConfig) {all : List MessageEvent} (events : List MessageEvent)
    (h : ∀ event ∈ events, event ∈ all) : Traced cfg all (run cfg events) := by
  induction events using List.reverseRecOn with
  | nil =>
    refine ⟨nofun, fun callee m hm => ?_, nofun, nofun⟩
    cases hm
  | append_singleton events event ih =>
    rw [run, List.foldl_append]
    exact (ih fun e he => h e (List.mem_append_left _ he)).step
      (h event (List.mem_append_right _ (List.mem_singleton_self _)))

end MessageService

end Minghe.Sip
