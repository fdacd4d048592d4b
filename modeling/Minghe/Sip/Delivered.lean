import Minghe.Sip.Traced

/-!
# No message is lost or duplicated

`parcels` lists every message of the service with the place where it is: those that have left, the
queues and the deliveries that run. The invariant of the system is that the origins of all parcels,
with their callees, are the calls that answered 200, each once.

* `step_balanced`: a step moves parcels from place to place, and adds one iff it answers 200.
* `run_addresses`: in every run, the parcels are those of the calls that answered 200.
* `callees_locate`: a call that answered 200 has its message in exactly one place, one of its callee; one
  that answered anything else has it nowhere.
-/

namespace Minghe.Sip

open Minghe.Lib

namespace MessageService

/-! ## Parcels -/

/-- Every message, with its place. -/
def parcels (s : MessageService) : List (Nat × Place) :=
  s.gone ++
    s.offlineMessages.collect (fun callee queue => queue.map fun m => (m.origin, .queued callee)) ++
    s.deliveries.collect (fun id d => d.pc.pending.map fun m => (m.origin, .held d.extension id))

/-- The places where the message of a call is. -/
def locate (s : MessageService) (id : Nat) : List Place :=
  (s.parcels.filter fun p => decide (p.1 = id)).map Prod.snd

/-- Where a message comes from and goes to. -/
def address (p : Nat × Place) : Nat × Str := (p.1, p.2.callee)

/-- The addresses of messages to one callee. -/
def addressesOf (callee : Str) (messages : List OfflineMessage) : List (Nat × Str) :=
  messages.map fun m => (m.origin, callee)

/-- The addresses of the messages in the queues. -/
def queuedAddresses (map : OfflineQueues) : List (Nat × Str) := map.collect addressesOf

/-- The addresses of the messages that deliveries hold. -/
def heldAddresses (deliveries : Table Nat Delivery) : List (Nat × Str) :=
  deliveries.collect fun _ d => addressesOf d.extension d.pc.pending

/-- The addresses of all messages. -/
def addresses (s : MessageService) : List (Nat × Str) := s.parcels.map address

/-- The calls that answered 200, with their callees. -/
def accepted (s : MessageService) : List (Nat × Str) :=
  s.calls.collect fun id c => if c.status = some 200 then [(id, c.callee)] else []

theorem addresses_eq (s : MessageService) : s.addresses =
    s.gone.map address ++ queuedAddresses s.offlineMessages ++ heldAddresses s.deliveries := by
  unfold addresses parcels queuedAddresses heldAddresses
  rw [List.map_append, List.map_append, Table.map_collect, Table.map_collect]
  congr 2
  · congr 1
    funext callee queue
    simp [addressesOf, address, Place.callee]
  · funext id d
    simp [addressesOf, address, Place.callee]

theorem address_expiredOf (now : Nat) (callee : Str) (queue : List OfflineMessage) :
    (expiredOf now callee queue).map address = addressesOf callee (queue.filter fun m => !m.live now) := by
  simp [expiredOf, addressesOf, address, Place.callee]

theorem address_evictedOf (callee : Str) (backlog : Nat) (messages : List OfflineMessage) :
    (evictedOf callee backlog messages).map address = addressesOf callee messages := by
  simp [evictedOf, addressesOf, address, Place.callee]

theorem addressesOf_append (callee : Str) (ms ms' : List OfflineMessage) :
    addressesOf callee (ms ++ ms') = addressesOf callee ms ++ addressesOf callee ms' := List.map_append

/-- A TTL filter drops what it does not keep. -/
theorem addressesOf_filter (now : Nat) (callee : Str) (queue : List OfflineMessage) :
    (addressesOf callee (queue.filter fun m => !m.live now) ++
      addressesOf callee (queue.filter (OfflineMessage.live now))).Perm (addressesOf callee queue) := by
  rw [← addressesOf_append]
  exact (List.perm_append_comm.trans (List.filter_append_perm _ queue)).map _

/-! ## The queues -/

/-- What `prune_expired` takes out. -/
theorem queuedAddresses_pruneExpired (now : Nat) (map : OfflineQueues) :
    ((map.collect (expiredOf now)).map address ++ queuedAddresses (pruneExpired now map)).Perm
      (queuedAddresses map) := by
  rw [Table.map_collect]
  refine Table.collect_filterMap (fun callee queue => ?_) map
  rw [address_expiredOf]
  refine .trans (.of_eq ?_) (addressesOf_filter now callee queue)
  congr 1
  dsimp only
  split
  · rename_i hempty
    rw [List.isEmpty_iff.mp hempty]
    rfl
  · rfl

theorem found_addressesOf (map : OfflineQueues) (callee : Str) :
    Table.found addressesOf callee (map.lookup callee) = addressesOf callee (queueOf map callee) := by
  unfold Table.found queueOf
  cases map.lookup callee with
  | none => rfl
  | some queue => rfl

theorem queuedAddresses_insert (map : OfflineQueues) (callee : Str) (queue : List OfflineMessage) :
    (addressesOf callee (queueOf map callee) ++ queuedAddresses (map.insert callee queue)).Perm
      (addressesOf callee queue ++ queuedAddresses map) :=
  found_addressesOf map callee ▸ Table.collect_insert addressesOf map callee queue

theorem queuedAddresses_erase (map : OfflineQueues) (callee : Str) :
    (addressesOf callee (queueOf map callee) ++ queuedAddresses (map.erase callee)).Perm
      (queuedAddresses map) :=
  found_addressesOf map callee ▸ Table.collect_erase addressesOf map callee

/-- A full queue loses its first message to the new one. -/
theorem addressesOf_pushMessage (callee : Str) (queue : List OfflineMessage) (m : OfflineMessage) :
    (addressesOf callee (if maxOfflineMessages ≤ queue.length then queue.take 1 else []) ++
      addressesOf callee (pushMessage queue m)).Perm ((m.origin, callee) :: addressesOf callee queue) := by
  rw [← addressesOf_append]
  have hcomm : (addressesOf callee queue ++ addressesOf callee [m]).Perm
      ((m.origin, callee) :: addressesOf callee queue) := List.perm_append_comm
  refine .trans (.of_eq ?_) hcomm
  rw [← addressesOf_append, pushMessage, ← List.append_assoc]
  congr 2
  split
  · rw [← List.drop_one, List.take_append_drop]
  · rfl

/-- `merge_back` drops the head of what it puts together. -/
theorem addressesOf_mergeBack (callee : Str) (queue pending : List OfflineMessage) :
    addressesOf callee ((pending ++ queue).take ((pending ++ queue).length - maxOfflineMessages)) ++
      addressesOf callee (mergeBack queue pending) =
    addressesOf callee pending ++ addressesOf callee queue := by
  rw [← addressesOf_append, ← addressesOf_append, mergeBack, List.take_append_drop]

/-! ## Steps -/

/-- A step that answers 200 to the calls in `new`, and to no others. -/
def Balanced (s s' : MessageService) (new : List (Nat × Str)) : Prop :=
  s'.addresses.Perm (new ++ s.addresses) ∧ s'.accepted.Perm (new ++ s.accepted)

/-- What a call adds to the answers when it moves on. -/
theorem accepted_setCall {s : MessageService} {id : Nat} {c : Call}
    (h : ∀ c₀, s.calls.lookup id = some c₀ → c₀.status = none) :
    (s.setCall id c).accepted.Perm
      ((if c.status = some 200 then [(id, c.callee)] else []) ++ s.accepted) := by
  have hnone : Table.found (fun id (c : Call) => if c.status = some 200 then [(id, c.callee)] else []) id
      (s.calls.lookup id) = [] := by
    cases hl : s.calls.lookup id with
    | none => rfl
    | some c₀ => simp [Table.found, h c₀ hl]
  have := Table.collect_insert (fun id (c : Call) => if c.status = some 200 then [(id, c.callee)] else [])
    s.calls id c
  rwa [hnone, List.nil_append] at this

/-- A call that does not answer 200 now. -/
theorem balanced_setCall {s : MessageService} (s₀ : MessageService) {id : Nat} {c : Call} (hs : s.calls = s₀.calls)
    (haddr : s.addresses.Perm s₀.addresses)
    (h : ∀ c₀, s.calls.lookup id = some c₀ → c₀.status = none) (hc : c.status ≠ some 200) :
    Balanced s₀ (s.setCall id c) [] := by
  refine ⟨haddr, (accepted_setCall h).trans ?_⟩
  rw [if_neg hc, accepted, accepted, hs, List.nil_append]

theorem heldAddresses_insert {deliveries : Table Nat Delivery} {id : Nat} {d : Delivery} (d' : Delivery)
    (h : deliveries.lookup id = some d) :
    (addressesOf d.extension d.pc.pending ++ heldAddresses (deliveries.insert id d')).Perm
      (addressesOf d'.extension d'.pc.pending ++ heldAddresses deliveries) := by
  have := Table.collect_insert (fun _ (d : Delivery) => addressesOf d.extension d.pc.pending) deliveries
    id d'
  rwa [h] at this

/-- The text to send on is always there. -/
theorem forward_ok (cfg : MessageConfig) (request fromExt targetUri : Str) (transport : Transport)
    (branch : Vector UInt8 8) :
    ∃ text, cfg.forward request fromExt targetUri transport branch = .ok text :=
  ⟨_, buildOutboundRequestWithFrom_eq ..⟩

/-- The second lock of `store_offline_message`. -/
theorem queueCall_balanced {s : MessageService} {id : Nat} {c : Call} (now : Nat)
    (h : s.calls.lookup id = some c) (hc : c.status = none) :
    ∃ new, Balanced s (s.queueCall id c now) new := by
  have hprune := queuedAddresses_pruneExpired now s.offlineMessages
  have hold : ∀ c₀, s.calls.lookup id = some c₀ → c₀.status = none := by
    intro c₀ h0
    rw [h] at h0
    cases h0
    exact hc
  unfold queueCall
  dsimp only
  split
  · -- the message is stored
    rename_i hstored
    have hmap : (storeMessage c.callee ⟨c.fromExt, c.text, now, id⟩ s.offlineMessages).2 =
        (pruneExpired now s.offlineMessages).insert c.callee (pushMessage
          (queueOf (pruneExpired now s.offlineMessages) c.callee) ⟨c.fromExt, c.text, now, id⟩) := by
      unfold storeMessage at hstored ⊢
      dsimp only at hstored ⊢
      split at hstored
      · cases hstored
      · rename_i hquota
        rw [if_neg hquota]
        split at hstored
        · cases hstored
        · rename_i hfull
          rw [if_neg hfull]
    refine ⟨[(id, c.callee)], ?_, accepted_setCall hold⟩
    rw [addresses_eq, addresses_eq]
    simp only [leave, setCall, setQueues, hmap, List.map_append, address_evictedOf]
    have hpush := addressesOf_pushMessage c.callee (queueOf (pruneExpired now s.offlineMessages) c.callee)
      ⟨c.fromExt, c.text, now, id⟩
    have hinsert := queuedAddresses_insert (pruneExpired now s.offlineMessages) c.callee (pushMessage
      (queueOf (pruneExpired now s.offlineMessages) c.callee) ⟨c.fromExt, c.text, now, id⟩)
    rw [List.perm_iff_count] at *
    intro a
    have h1 := hprune a
    have h2 := hpush a
    have h3 := hinsert a
    simp only [List.count_append, List.count_cons, List.count_nil] at h1 h2 h3 ⊢
    omega
  · -- it is refused
    rename_i hrefused
    have hmap : (storeMessage c.callee ⟨c.fromExt, c.text, now, id⟩ s.offlineMessages).2 =
        pruneExpired now s.offlineMessages := by
      unfold storeMessage at hrefused ⊢
      dsimp only at hrefused ⊢
      split
      · rfl
      · rename_i hquota
        rw [if_neg hquota] at hrefused
        split
        · rfl
        · rename_i hfull
          rw [if_neg hfull] at hrefused
          exact absurd rfl hrefused
    refine ⟨[], balanced_setCall s rfl ?_ hold (by simp [Call.answer, Call.status])⟩
    rw [addresses_eq, addresses_eq]
    simp only [leave, setQueues, hmap, List.map_append]
    rw [List.perm_iff_count] at *
    intro a
    have h1 := hprune a
    simp only [List.count_append] at h1 ⊢
    omega

/-- **A step of a `handle_message` call** moves messages, and adds its own iff it answers 200. -/
theorem callStep_balanced {cfg : MessageConfig} {s : MessageService} {id : Nat} {c : Call} (env : Env)
    (branch : Vector UInt8 8) (taken : Bool) (h : s.calls.lookup id = some c) :
    ∃ new, Balanced s (s.callStep cfg id c env branch taken) new := by
  have hrefl : Balanced s s [] := ⟨.refl _, .refl _⟩
  have hold : c.status = none → ∀ c₀, s.calls.lookup id = some c₀ → c₀.status = none := by
    intro hc c₀ h0
    rw [h] at h0
    cases h0
    exact hc
  unfold callStep
  cases hpc : c.pc with
  | looking =>
    have hc : c.status = none := by rw [Call.status, hpc]
    dsimp only
    split
    · exact ⟨[], balanced_setCall s rfl (.refl _) (hold hc) (by simp [Call.status])⟩
    · exact ⟨[], balanced_setCall s rfl (.refl _) (hold hc) (by simp [Call.status])⟩
  | targeting sink =>
    have hc : c.status = none := by rw [Call.status, hpc]
    dsimp only
    split
    · exact ⟨[], balanced_setCall s rfl (.refl _) (hold hc) (by simp [Call.status])⟩
    · exact ⟨[], balanced_setCall s rfl (.refl _) (hold hc) (by simp [Call.status])⟩
  | sending sink targetUri forwarded =>
    have hc : c.status = none := by rw [Call.status, hpc]
    dsimp only
    split
    · -- the sink took it: the call answers 200
      refine ⟨[(id, c.callee)], ?_, accepted_setCall (hold hc)⟩
      rw [addresses_eq, addresses_eq]
      simp only [leave, setCall, transmit, List.map_append, List.append_assoc]
      exact List.perm_append_comm_assoc _ _ _
    · exact ⟨[], balanced_setCall s rfl (.refl _) (hold hc) (by simp [Call.status])⟩
  | storing =>
    have hc : c.status = none := by rw [Call.status, hpc]
    dsimp only
    split
    · exact ⟨[], balanced_setCall s rfl (.refl _) (hold hc) (by simp [Call.status])⟩
    · exact ⟨[], balanced_setCall s rfl (.refl _) (hold hc) (by simp [Call.answer, Call.status])⟩
  | queueing now => exact queueCall_balanced now h (by rw [Call.status, hpc])
  | answered status response => exact ⟨[], hrefl⟩
  | panicked => exact ⟨[], hrefl⟩

/-- **A step of a delivery** moves messages. -/
theorem deliveryStep_addresses {cfg : MessageConfig} {s : MessageService} {id : Nat} {d : Delivery}
    (env : Env) (branch : Vector UInt8 8) (taken : Bool) (h : s.deliveries.lookup id = some d) :
    (s.deliveryStep cfg id d env branch taken).addresses.Perm s.addresses := by
  -- a step that only changes what the delivery waits for
  have hstay : ∀ pc, pc.pending = d.pc.pending →
      (s.setDelivery id { d with pc := pc }).addresses.Perm s.addresses := by
    intro pc hpending
    rw [addresses_eq, addresses_eq]
    refine .append_left _ ((List.perm_append_left_iff (addressesOf d.extension d.pc.pending)).mp ?_)
    have := heldAddresses_insert { d with pc := pc } h
    rwa [hpending] at this
  unfold deliveryStep
  cases hpc : d.pc with
  | starting =>
    have hheld := heldAddresses_insert { d with
      pc := .afterTake ((queueOf s.offlineMessages d.extension).filter (OfflineMessage.live env.now)) } h
    have hfilter := addressesOf_filter env.now d.extension (queueOf s.offlineMessages d.extension)
    have herase := queuedAddresses_erase s.offlineMessages d.extension
    rw [DeliveryPc.pending_afterTake, hpc] at hheld
    rw [addresses_eq, addresses_eq]
    simp only [setDelivery, setQueues, leave, List.map_append, address_expiredOf]
    rw [List.perm_iff_count] at *
    intro a
    have h1 := hheld a
    have h2 := hfilter a
    have h3 := herase a
    simp only [List.count_append, DeliveryPc.pending, addressesOf, List.map_nil, List.count_nil]
      at h1 h2 h3 ⊢
    omega
  | looking pending =>
    dsimp only
    split
    · exact hstay _ (by rw [hpc]; rfl)
    · exact hstay _ (by rw [hpc]; rfl)
  | targeting sink pending => exact hstay _ (by rw [hpc]; rfl)
  | sending sink targetUri pending =>
    cases pending with
    | nil => exact hstay _ (by rw [hpc]; rfl)
    | cons m rest =>
      obtain ⟨text, htext⟩ := forward_ok cfg m.originalRequest m.fromExt targetUri sink.transport branch
      simp only [htext]
      split
      · -- the sink took it
        have hheld := heldAddresses_insert { d with pc := .sending sink targetUri rest } h
        rw [hpc] at hheld
        rw [addresses_eq, addresses_eq]
        simp only [setDelivery, transmit, leave, List.map_append]
        rw [List.perm_iff_count] at *
        intro a
        have h1 := hheld a
        simp only [List.count_append, DeliveryPc.pending, addressesOf, List.map_cons, List.count_cons,
          List.map_nil, List.count_nil, address, Place.callee] at h1 ⊢
        omega
      · exact hstay (.merging (m :: rest)) (by rw [hpc]; rfl)
  | merging pending =>
    have hheld := heldAddresses_insert { d with pc := .done } h
    have hinsert := queuedAddresses_insert s.offlineMessages d.extension
      (mergeBack (queueOf s.offlineMessages d.extension) pending)
    have hmerge := addressesOf_mergeBack d.extension (queueOf s.offlineMessages d.extension) pending
    rw [hpc] at hheld
    rw [addresses_eq, addresses_eq]
    simp only [setDelivery, setQueues, leave, List.map_append, address_evictedOf]
    rw [List.perm_iff_count] at *
    intro a
    have h1 := hheld a
    have h2 := hinsert a
    have h3 := congrArg (List.count a) hmerge
    simp only [List.count_append, DeliveryPc.pending, addressesOf, List.map_nil, List.count_nil]
      at h1 h2 h3 ⊢
    omega
  | done => exact .refl _
  | panicked => exact .refl _

/-- A delivery answers nothing. -/
theorem deliveryStep_calls (cfg : MessageConfig) (s : MessageService) (id : Nat) (d : Delivery)
    (env : Env) (branch : Vector UInt8 8) (taken : Bool) :
    (s.deliveryStep cfg id d env branch taken).calls = s.calls := by
  unfold deliveryStep
  split
  · rfl
  · split <;> rfl
  · rfl
  · rfl
  · split
    · rfl
    · dsimp only
      split <;> rfl
  · rfl
  · rfl
  · rfl

/-- **A step** adds the addresses of the calls that answer 200 in it, and of no others. -/
theorem step_balanced (cfg : MessageConfig) (s : MessageService) (event : MessageEvent) :
    ∃ new, Balanced s (s.step cfg event) new := by
  have hrefl : Balanced s s [] := ⟨.refl _, .refl _⟩
  unfold step
  cases event with
  | submit id text fromExt tag =>
    dsimp only
    split
    · rename_i hl
      have hnew : ∀ c₀, s.calls.lookup id = some c₀ → c₀.status = none := by
        intro c₀ h0
        rw [hl] at h0
        cases h0
      unfold submit
      split
      · exact ⟨[], balanced_setCall s rfl (.refl _) hnew (by simp [Call.status])⟩
      · rename_i hcheck
        refine ⟨[], balanced_setCall s rfl (.refl _) hnew ?_⟩
        have hstatus := (MessageConfig.checkMessage_refused hcheck).1
        simp only [MessageConfig.refusals, List.mem_cons, List.not_mem_nil, or_false, Prod.mk.injEq] at hstatus
        rcases hstatus with ⟨rfl, -⟩ | ⟨rfl, -⟩ | ⟨rfl, -⟩ | ⟨rfl, -⟩ <;> simp [Call.answer, Call.status]
      · exact ⟨[], balanced_setCall s rfl (.refl _) hnew (by simp [Call.status])⟩
    · exact ⟨[], hrefl⟩
  | call id env branch taken =>
    dsimp only
    split
    · rename_i c hl
      exact callStep_balanced env branch taken hl
    · exact ⟨[], hrefl⟩
  | deliver id extension =>
    dsimp only
    split
    · rename_i hl
      refine ⟨[], ?_, .refl _⟩
      have := Table.collect_insert (fun _ (d : Delivery) => addressesOf d.extension d.pc.pending)
        s.deliveries id ⟨extension, .starting⟩
      rw [hl] at this
      rw [addresses_eq, addresses_eq]
      exact this.append_left _
    · exact ⟨[], hrefl⟩
  | delivery id env branch taken =>
    dsimp only
    split
    · rename_i d hl
      refine ⟨[], deliveryStep_addresses env branch taken hl, .of_eq ?_⟩
      rw [accepted, deliveryStep_calls]
      rfl
    · exact ⟨[], hrefl⟩

/-- **The invariant**: the messages of the service are those of the calls that answered 200. -/
theorem run_addresses (cfg : MessageConfig) (events : List MessageEvent) :
    (run cfg events).addresses.Perm (run cfg events).accepted := by
  induction events using List.reverseRecOn with
  | nil => exact .refl _
  | append_singleton events event ih =>
    rw [run, List.foldl_append]
    obtain ⟨new, haddr, haccepted⟩ := step_balanced cfg (run cfg events) event
    exact haddr.trans ((ih.append_left new).trans haccepted.symm)

/-! ## Runs -/

/-- An answer stands: a call that has answered does not move. -/
theorem step_answered {cfg : MessageConfig} {s : MessageService} {id : Nat} {c : Call}
    (h : s.calls.lookup id = some c) (hc : c.status ≠ none) (event : MessageEvent) :
    (s.step cfg event).calls.lookup id = some c := by
  have hset : ∀ {s' : MessageService} {id' : Nat} (c' : Call), s'.calls = s.calls → id' ≠ id →
      (s'.setCall id' c').calls.lookup id = some c := by
    intro s' id' c' hs hne
    rw [setCall, Table.lookup_insert_eq, if_neg (Ne.symm hne), hs, h]
  unfold step
  cases event with
  | submit id' text fromExt tag =>
    dsimp only
    split
    · rename_i hl
      have hne : id' ≠ id := by
        rintro rfl
        rw [hl] at h
        cases h
      unfold submit
      split
      · exact hset _ rfl hne
      · exact hset _ rfl hne
      · exact hset _ rfl hne
    · exact h
  | call id' env branch taken =>
    dsimp only
    split
    · rename_i c' hl
      by_cases hne : id' = id
      · subst hne
        rw [h] at hl
        cases hl
        unfold callStep
        unfold Call.status at hc
        split <;> simp_all
      · unfold callStep
        split
        · split <;> exact hset _ rfl hne
        · dsimp only
          split <;> exact hset _ rfl hne
        · dsimp only
          split <;> exact hset _ rfl hne
        · dsimp only
          split <;> exact hset _ rfl hne
        · unfold queueCall
          dsimp only
          split <;> exact hset _ rfl hne
        · exact h
        · exact h
    · exact h
  | deliver id' extension =>
    dsimp only
    split <;> exact h
  | delivery id' env branch taken =>
    dsimp only
    split
    · rw [deliveryStep_calls]
      exact h
    · exact h

theorem run_answered {cfg : MessageConfig} {before : List MessageEvent} {id : Nat} {c : Call}
    (h : (run cfg before).calls.lookup id = some c) (hc : c.status ≠ none) (after : List MessageEvent) :
    (run cfg (before ++ after)).calls.lookup id = some c := by
  induction after using List.reverseRecOn with
  | nil => rwa [List.append_nil]
  | append_singleton after event ih =>
    rw [← List.append_assoc, run, List.foldl_append]
    exact step_answered ih hc event

/-- The callees of the places of a call's message. -/
theorem map_callee_locate (s : MessageService) (id : Nat) :
    (s.locate id).map Place.callee =
      (s.addresses.filter fun a => decide (a.1 = id)).map Prod.snd := by
  unfold locate addresses
  rw [List.filter_map, List.map_map, List.map_map]
  rfl

/-- A call that answered 200 has its message in one place, a place of its callee; one that answered
anything else has it nowhere. -/
theorem callees_locate {cfg : MessageConfig} {events : List MessageEvent} {id : Nat} {c : Call} {status : Nat}
    (h : (run cfg events).calls.lookup id = some c) (hc : c.status = some status) :
    ((run cfg events).locate id).map Place.callee = if status = 200 then [c.callee] else [] := by
  have hperm := ((run_addresses cfg events).filter fun a => decide (a.1 = id)).map Prod.snd
  rw [accepted, Table.filter_collect Prod.fst (by intro k v a ha; split at ha <;> simp_all),
    h, ← map_callee_locate] at hperm
  simp only [Table.found, Option.elim_some, hc, Option.some.injEq] at hperm
  split
  · rename_i h200
    rw [if_pos h200] at hperm
    exact List.perm_singleton.mp hperm
  · rename_i h200
    rw [if_neg h200] at hperm
    exact List.perm_nil.mp hperm

end MessageService

end Minghe.Sip
