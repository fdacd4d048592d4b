import Minghe.Sip.Traced

/-!
# What a step does to the queues

`QueueStep s event s'` lists all that an event can do to the offline queues and to what the running
deliveries hold: nothing but a delivery that lets go of a message, `store_offline_message`, the taking
of a queue, and the writing back. Every invariant of the queues is proved by going through it.

* `storedBy` is the call whose message an event stores, `writtenBack` the extension and the messages
  that an event writes back; both read the state before the event.
* `stored` are the calls whose messages a run has stored, in the order in which it stored them.
* `queueStep`: the list is complete: every event does one of these.
* `writtenBack_spec`: an event that writes back writes what a delivery holds.
* `stored_append`: what a run stores, event by event.
-/

namespace Minghe.Sip

open Minghe.Lib

namespace MessageService

/-- The messages that a delivery holds. -/
def holding (s : MessageService) (id : Nat) : List OfflineMessage :=
  ((s.deliveries.lookup id).map fun d => d.pc.pending).getD []

/-- The message that a call stores. -/
def messageOf (id : Nat) (c : Call) (now : Nat) : OfflineMessage := ⟨c.fromExt, c.text, now, id⟩

/-- The call whose message an event stores. -/
def storedBy (s : MessageService) : MessageEvent → Option Nat
  | .call id _ _ _ =>
    match s.calls.lookup id with
    | some c =>
      match c.pc with
      | .queueing now =>
        if (storeMessage c.callee (messageOf id c now) s.offlineMessages).1 = .stored then some id else none
      | _ => none
    | none => none
  | _ => none

/-- The extension and the messages that an event writes back. -/
def writtenBack (s : MessageService) : MessageEvent → Option (Str × List OfflineMessage)
  | .delivery id _ _ _ =>
    match s.deliveries.lookup id with
    | some d =>
      match d.pc with
      | .merging pending => some (d.extension, pending)
      | _ => none
    | none => none
  | _ => none

/-- What an event does to the queues and to the messages that are held. -/
inductive QueueStep (s : MessageService) (event : MessageEvent) (s' : MessageService) : Prop
  | stay (queues : s'.offlineMessages = s.offlineMessages) (stored : storedBy s event = none)
      (held : ∀ id, s'.holding id <:+ s.holding id)
  | store (id : Nat) (c : Call) (now : Nat) (call : s.calls.lookup id = some c)
      (pc : c.pc = .queueing now)
      (queues : s'.offlineMessages = (storeMessage c.callee (messageOf id c now) s.offlineMessages).2)
      (stored : storedBy s event =
        if (storeMessage c.callee (messageOf id c now) s.offlineMessages).1 = .stored then some id else none)
      (held : ∀ id', s'.holding id' = s.holding id')
  | take (id : Nat) (extension : Str) (now : Nat)
      (queues : s'.offlineMessages = s.offlineMessages.erase extension) (stored : storedBy s event = none)
      (held : ∀ id', s'.holding id' =
        if id' = id then (queueOf s.offlineMessages extension).filter (OfflineMessage.live now)
        else s.holding id')
  | merge (extension : Str) (pending : List OfflineMessage)
      (back : writtenBack s event = some (extension, pending))
      (queues : s'.offlineMessages = s.offlineMessages.insert extension
        (mergeBack (queueOf s.offlineMessages extension) pending))
      (stored : storedBy s event = none) (held : ∀ id, s'.holding id <:+ s.holding id)

@[simp] theorem holding_setCall (s : MessageService) (id : Nat) (c : Call) :
    (s.setCall id c).holding = s.holding := rfl

theorem holding_setDelivery (s : MessageService) (id id' : Nat) (d : Delivery) :
    (s.setDelivery id d).holding id' = if id' = id then d.pc.pending else s.holding id' := by
  unfold holding setDelivery
  rw [Table.lookup_insert_eq]
  split <;> rfl

/-- A delivery that keeps what it holds, or lets go of the first messages. -/
theorem holding_suffix {s s₀ : MessageService} {id : Nat} {d : Delivery} (pc : DeliveryPc)
    (hs : s.deliveries = s₀.deliveries) (h : s₀.deliveries.lookup id = some d)
    (hpc : pc.pending <:+ d.pc.pending) (id' : Nat) :
    (s.setDelivery id { d with pc := pc }).holding id' <:+ s₀.holding id' := by
  rw [holding_setDelivery]
  split
  · rename_i he
    rw [he, holding, h]
    exact hpc
  · rw [holding, hs]
    exact List.suffix_refl _

section

variable (cfg : MessageConfig) {s : MessageService} {id : Nat} (env : Env) (branch : Vector UInt8 8)
  (taken : Bool)

theorem queueStep_call {c : Call} (h : s.calls.lookup id = some c) :
    QueueStep s (.call id env branch taken) (s.callStep cfg id c env branch taken) := by
  have hstored : (∀ now, c.pc ≠ .queueing now) → storedBy s (.call id env branch taken) = none := by
    intro hne
    unfold storedBy
    simp only [h]
  have hstay : ∀ s' : MessageService, (∀ now, c.pc ≠ .queueing now) →
      s'.offlineMessages = s.offlineMessages → s'.deliveries = s.deliveries →
      QueueStep s (.call id env branch taken) s' := by
    intro s' hne hqueues hheld
    refine .stay hqueues (hstored hne) fun id' => ?_
    rw [holding, holding, hheld]
  unfold callStep
  cases hpc : c.pc with
  | looking =>
    dsimp only
    split
    · exact hstay _ (by rw [hpc]; nofun) rfl rfl
    · exact hstay _ (by rw [hpc]; nofun) rfl rfl
  | targeting sink =>
    dsimp only
    split
    · exact hstay _ (by rw [hpc]; nofun) rfl rfl
    · exact hstay _ (by rw [hpc]; nofun) rfl rfl
  | sending sink targetUri forwarded =>
    dsimp only
    split
    · exact hstay _ (by rw [hpc]; nofun) rfl rfl
    · exact hstay _ (by rw [hpc]; nofun) rfl rfl
  | storing =>
    dsimp only
    split
    · exact hstay _ (by rw [hpc]; nofun) rfl rfl
    · exact hstay _ (by rw [hpc]; nofun) rfl rfl
  | queueing now =>
    refine .store id c now h hpc ?_ ?_ ?_
    · unfold queueCall
      dsimp only
      split <;> rfl
    · unfold storedBy
      simp only [h, hpc]
    · intro id'
      unfold queueCall
      dsimp only
      split <;> rfl
  | answered status response => exact hstay _ (by rw [hpc]; nofun) rfl rfl
  | panicked => exact hstay _ (by rw [hpc]; nofun) rfl rfl

theorem queueStep_delivery {d : Delivery} (h : s.deliveries.lookup id = some d) :
    QueueStep s (.delivery id env branch taken) (s.deliveryStep cfg id d env branch taken) := by
  have hstay : ∀ (s' : MessageService) (pc : DeliveryPc), s'.offlineMessages = s.offlineMessages →
      s'.deliveries = s.deliveries → pc.pending <:+ d.pc.pending →
      QueueStep s (.delivery id env branch taken) (s'.setDelivery id { d with pc := pc }) :=
    fun s' pc hqueues hheld hpc => .stay hqueues rfl (holding_suffix pc hheld h hpc)
  unfold deliveryStep
  cases hpc : d.pc with
  | starting =>
    refine .take id d.extension env.now rfl rfl fun id' => ?_
    dsimp only
    rw [holding_setDelivery, DeliveryPc.pending_afterTake]
    rfl
  | looking pending =>
    dsimp only
    split
    · exact hstay s _ rfl rfl (by rw [hpc]; exact List.suffix_refl _)
    · exact hstay s _ rfl rfl (by rw [hpc]; exact List.suffix_refl _)
  | targeting sink pending => exact hstay s _ rfl rfl (by rw [hpc]; exact List.suffix_refl _)
  | sending sink targetUri pending =>
    cases pending with
    | nil => exact hstay s _ rfl rfl (by rw [hpc]; exact List.suffix_refl _)
    | cons m rest =>
      dsimp only
      split
      · exact hstay s _ rfl rfl List.nil_suffix
      · rename_i forwarded hforward
        have hsent := hstay (s.transmit ⟨m.origin, d.extension, m.fromExt, m.originalRequest, targetUri,
          sink, forwarded, taken⟩)
        split
        · exact .stay rfl rfl (holding_suffix (s := s.transmit _) (.sending sink targetUri rest) rfl h
            (by rw [hpc]; exact List.suffix_cons m rest))
        · exact hsent (.merging (m :: rest)) rfl rfl (by rw [hpc]; exact List.suffix_refl _)
  | merging pending =>
    refine .merge d.extension pending ?_ rfl rfl (holding_suffix .done rfl h List.nil_suffix)
    unfold writtenBack
    simp only [h, hpc]
  | done =>
    exact .stay rfl rfl fun _ => List.suffix_refl _
  | panicked => exact .stay rfl rfl fun _ => List.suffix_refl _

end

/-- **All that a step does to the queues.** -/
theorem queueStep (cfg : MessageConfig) (s : MessageService) (event : MessageEvent) :
    QueueStep s event (s.step cfg event) := by
  have hrefl : storedBy s event = none → QueueStep s event s :=
    fun h => .stay rfl h fun _ => List.suffix_refl _
  cases event with
  | submit id text fromExt tag =>
    unfold step
    dsimp only
    split
    · unfold submit
      split <;> exact .stay rfl rfl fun _ => List.suffix_refl _
    · exact hrefl rfl
  | call id env branch taken =>
    unfold step
    dsimp only
    split
    · rename_i c hl
      exact queueStep_call cfg env branch taken hl
    · rename_i hl
      refine hrefl ?_
      unfold storedBy
      simp only [hl]
  | deliver id extension =>
    unfold step
    dsimp only
    split
    · refine .stay rfl rfl fun id' => ?_
      rw [holding_setDelivery]
      split
      · exact List.nil_suffix
      · exact List.suffix_refl _
    · exact hrefl rfl
  | delivery id env branch taken =>
    unfold step
    dsimp only
    split
    · rename_i d hl
      exact queueStep_delivery cfg env branch taken hl
    · exact hrefl rfl

/-- An event that writes back writes what a delivery holds, and does nothing else to the queues. -/
theorem writtenBack_spec (cfg : MessageConfig) {s : MessageService} {event : MessageEvent}
    {extension : Str} {pending : List OfflineMessage}
    (h : writtenBack s event = some (extension, pending)) :
    (s.step cfg event).offlineMessages = s.offlineMessages.insert extension
      (mergeBack (queueOf s.offlineMessages extension) pending) ∧
    storedBy s event = none ∧ ∃ id, s.holding id = pending := by
  unfold writtenBack at h
  split at h
  · rename_i id env branch taken
    split at h
    · rename_i d hl
      split at h
      · rename_i pending' hpc
        cases h
        refine ⟨?_, rfl, id, ?_⟩
        · unfold step
          simp only [hl]
          unfold deliveryStep
          simp only [hpc]
          rfl
        · simp only [holding, hl, Option.map_some, Option.getD_some, hpc, DeliveryPc.pending]
      · cases h
    · cases h
  · cases h

/-! ## Runs -/

/-- The calls whose messages the events store, from a state on. -/
def storedFrom (cfg : MessageConfig) : MessageService → List MessageEvent → List Nat
  | _, [] => []
  | s, event :: events => (storedBy s event).toList ++ storedFrom cfg (s.step cfg event) events

/-- The calls whose messages a run stores, in this order. -/
def stored (cfg : MessageConfig) (events : List MessageEvent) : List Nat := storedFrom cfg {} events

theorem storedFrom_append (cfg : MessageConfig) :
    ∀ (s : MessageService) (events : List MessageEvent) (event : MessageEvent),
      storedFrom cfg s (events ++ [event]) =
        storedFrom cfg s events ++ (storedBy (events.foldl (step cfg) s) event).toList
  | s, [], event => List.append_nil _
  | s, e :: events, event => by
    rw [List.cons_append, storedFrom, storedFrom_append cfg (s.step cfg e) events event, storedFrom,
      List.append_assoc, List.foldl_cons]

theorem stored_append (cfg : MessageConfig) (events : List MessageEvent) (event : MessageEvent) :
    stored cfg (events ++ [event]) =
      stored cfg events ++ (storedBy (run cfg events) event).toList :=
  storedFrom_append cfg {} events event

theorem run_append (cfg : MessageConfig) (events : List MessageEvent) (event : MessageEvent) :
    run cfg (events ++ [event]) = (run cfg events).step cfg event := by
  rw [run, List.foldl_append]
  rfl

end MessageService

end Minghe.Sip
