import Minghe.Sip.Delivered
import Minghe.Sip.Queues

/-!
# Where the messages are

What the places of `locate` say of the wire, of the queues and of the running deliveries.

* `Departs`: how a step lets go of a message. A sink took its text; or a TTL filter dropped it; or it was
  at the head of a queue that was cut to `maxOfflineMessages`.
* `Kept`: every message in a queue, held or on the wire is the one of the call it comes from, for the
  callee of that call.
* `run_departs`: what the sinks took is what was handed over, text for text and in the same order, and
  every other message that left did so in one of the ways of `Departs`.
* `offline_conserved`: in every run, a call that answered 200 has its message in exactly one place, and
  a sink of its callee took it iff that place says so, once; of a call that answered anything else no
  sink ever took the message.
-/

namespace Minghe.Sip

open Minghe.Lib

/-- The place of a text that a sink took, with the call it comes from. -/
def Transmission.parcel (t : Transmission) : Nat × Place := (t.origin, .handed t.callee t.sink)

/-- Handed to a sink. -/
def Place.isHanded : Place → Bool
  | .handed _ _ => true
  | .queued _ | .held _ _ | .expired _ _ _ | .evicted _ _ => false

namespace MessageService

/-! ## How messages leave -/

/-- What the sinks took. -/
def handedOver (s : MessageService) : List (Nat × Place) :=
  (s.sends.filter Transmission.taken).map Transmission.parcel

/-- The transmissions of the message of a call that a sink took. -/
def takenOf (s : MessageService) (id : Nat) : List Transmission :=
  (s.sends.filter Transmission.taken).filter fun t => decide (t.origin = id)

/-- The time that the TTL filter of an event goes by, if the queue of the callee is filtered. -/
def filterTime (s : MessageService) (callee : Str) : MessageEvent → Option Nat
  | .call id _ _ _ =>
    match s.calls.lookup id with
    | some c =>
      match c.pc with
      | .queueing now => some now
      | _ => none
    | none => none
  | .delivery id env _ _ =>
    match s.deliveries.lookup id with
    | some d =>
      match d.pc with
      | .starting => if d.extension = callee then some env.now else none
      | _ => none
    | none => none
  | .submit _ _ _ _ | .deliver _ _ => none

/-- The queue that an event makes longer, before it is cut. -/
def grown (s : MessageService) : MessageEvent → Option (Str × List OfflineMessage)
  | .call id _ _ _ =>
    match s.calls.lookup id with
    | some c =>
      match c.pc with
      | .queueing now =>
        some (c.callee, queueOf (pruneExpired now s.offlineMessages) c.callee ++ [messageOf id c now])
      | _ => none
    | none => none
  | .delivery id _ _ _ =>
    match s.deliveries.lookup id with
    | some d =>
      match d.pc with
      | .merging pending => some (d.extension, pending ++ queueOf s.offlineMessages d.extension)
      | _ => none
    | none => none
  | .submit _ _ _ _ | .deliver _ _ => none

/-- How a step lets go of a message. What is cut off a queue is its head, and `maxOfflineMessages` stay. -/
inductive Departs (s : MessageService) (event : MessageEvent) (s' : MessageService) : Nat × Place → Prop
  | handed (t : Transmission) (sends : s'.sends = s.sends ++ [t]) (taken : t.taken = true) :
      Departs s event s' t.parcel
  | expired (callee : Str) (m : OfflineMessage) (now : Nat) (time : filterTime s callee event = some now)
      (mem : m ∈ queueOf s.offlineMessages callee) (old : m.expiresAt ≤ now) :
      Departs s event s' (m.origin, .expired callee m.expiresAt now)
  | evicted (callee : Str) (m : OfflineMessage) (head : List OfflineMessage)
      (grew : grown s event = some (callee, head ++ queueOf s'.offlineMessages callee)) (mem : m ∈ head)
      (full : maxOfflineMessages ≤ (queueOf s'.offlineMessages callee).length) :
      Departs s event s'
        (m.origin, .evicted callee (head ++ queueOf s'.offlineMessages callee).length)

/-- What leaves in a step does so in one of these ways, and what is handed over is what sinks take. -/
def Leaving (s : MessageService) (event : MessageEvent) (s' : MessageService) : Prop :=
  ∃ left, s'.gone = s.gone ++ left ∧ (∀ p ∈ left, Departs s event s' p) ∧
    s'.handedOver = s.handedOver ++ left.filter fun p => p.2.isHanded

/-- A step in which nothing leaves, and no sink takes anything. -/
theorem leaving_nothing {s s' : MessageService} {event : MessageEvent} (hgone : s'.gone = s.gone)
    (hsends : s'.handedOver = s.handedOver) : Leaving s event s' :=
  ⟨[], by rw [hgone, List.append_nil], nofun, by rw [hsends, List.filter_nil, List.append_nil]⟩

/-- A step in which one text is given to a sink. -/
theorem handedOver_append {s s' : MessageService} {t : Transmission} (h : s'.sends = s.sends ++ [t]) :
    s'.handedOver = s.handedOver ++ if t.taken then [t.parcel] else [] := by
  unfold handedOver
  rw [h, List.filter_append, List.map_append]
  congr 1
  cases ht : t.taken <;> simp [ht]

/-- A sink takes a text. -/
theorem leaving_handed {s s' : MessageService} {event : MessageEvent} {t : Transmission}
    (hsends : s'.sends = s.sends ++ [t]) (htaken : t.taken = true)
    (hgone : s'.gone = s.gone ++ [t.parcel]) : Leaving s event s' := by
  refine ⟨[t.parcel], hgone, fun p hp => ?_, ?_⟩
  · rw [List.mem_singleton.mp hp]
    exact .handed t hsends htaken
  · rw [handedOver_append hsends, htaken, if_pos rfl]
    rfl

/-- A sink does not take a text. -/
theorem leaving_refused {s s' : MessageService} {event : MessageEvent} {t : Transmission}
    (hsends : s'.sends = s.sends ++ [t]) (htaken : t.taken = false) (hgone : s'.gone = s.gone) :
    Leaving s event s' :=
  leaving_nothing hgone (by rw [handedOver_append hsends, htaken, if_neg Bool.false_ne_true,
    List.append_nil])

/-- Only old and cut off messages leave: nothing is handed over. -/
theorem leaving_unsent {s s' : MessageService} {event : MessageEvent} {left : List (Nat × Place)}
    (hgone : s'.gone = s.gone ++ left) (hsends : s'.sends = s.sends)
    (hleft : ∀ p ∈ left, Departs s event s' p ∧ p.2.isHanded = false) : Leaving s event s' := by
  refine ⟨left, hgone, fun p hp => (hleft p hp).1, ?_⟩
  have hnone : (left.filter fun p => p.2.isHanded) = [] :=
    List.filter_eq_nil_iff.mpr fun p hp => by simp [(hleft p hp).2]
  rw [handedOver, handedOver, hsends, hnone, List.append_nil]

theorem departs_expired {s s' : MessageService} {event : MessageEvent} {now : Nat} {callee : Str}
    (htime : filterTime s callee event = some now) :
    ∀ p ∈ expiredOf now callee (queueOf s.offlineMessages callee),
      Departs s event s' p ∧ p.2.isHanded = false := by
  intro p hp
  obtain ⟨m, hm, rfl⟩ := List.mem_map.mp hp
  obtain ⟨hm, hold⟩ := List.mem_filter.mp hm
  refine ⟨.expired callee m now htime hm ?_, rfl⟩
  simpa [OfflineMessage.live] using hold

theorem departs_evicted {s s' : MessageService} {event : MessageEvent} {callee : Str} {backlog : Nat}
    {head : List OfflineMessage}
    (hgrown : grown s event = some (callee, head ++ queueOf s'.offlineMessages callee))
    (hfull : head ≠ [] → maxOfflineMessages ≤ (queueOf s'.offlineMessages callee).length)
    (hbacklog : backlog = (head ++ queueOf s'.offlineMessages callee).length) :
    ∀ p ∈ evictedOf callee backlog head, Departs s event s' p ∧ p.2.isHanded = false := by
  intro p hp
  obtain ⟨m, hm, rfl⟩ := List.mem_map.mp hp
  rw [hbacklog]
  exact ⟨.evicted callee m head hgrown hm (hfull (List.ne_nil_of_mem hm)), rfl⟩

/-! ## Steps -/

/-- What `store_offline_message` leaves in the queues. -/
theorem storeMessage_map (callee : Str) (m : OfflineMessage) (map : OfflineQueues) :
    (storeMessage callee m map).2 =
      if (storeMessage callee m map).1 = .stored then
        (pruneExpired m.receivedAt map).insert callee
          (pushMessage (queueOf (pruneExpired m.receivedAt map) callee) m)
      else pruneExpired m.receivedAt map := by
  unfold storeMessage
  dsimp only
  split
  · rfl
  split <;> rfl

/-- The message that makes room, and the queue with the new one. -/
theorem take_append_pushMessage (queue : List OfflineMessage) (m : OfflineMessage) :
    (if maxOfflineMessages ≤ queue.length then queue.take 1 else []) ++ pushMessage queue m =
      queue ++ [m] := by
  unfold pushMessage
  split
  · rw [← List.drop_one, ← List.append_assoc, List.take_append_drop]
  · rfl

theorem leaving_queueCall {s : MessageService} {id now : Nat} {c : Call} {event : MessageEvent}
    (htime : ∀ callee, filterTime s callee event = some now)
    (hgrown : grown s event =
      some (c.callee, queueOf (pruneExpired now s.offlineMessages) c.callee ++ [messageOf id c now])) :
    Leaving s event (s.queueCall id c now) := by
  have hmap := storeMessage_map c.callee (messageOf id c now) s.offlineMessages
  have hexpired : ∀ {s' : MessageService}, ∀ p ∈ s.offlineMessages.collect (expiredOf now),
      Departs s event s' p ∧ p.2.isHanded = false := by
    intro s' p hp
    obtain ⟨⟨callee, queue⟩, he, hp⟩ := List.mem_flatMap.mp hp
    have hqueue : queueOf s.offlineMessages callee = queue := by
      have hlookup : s.offlineMessages.lookup callee = some queue :=
        (List.mem_dlookup_iff s.offlineMessages.nodupKeys).mpr he
      rw [queueOf, hlookup]
      rfl
    exact departs_expired (htime callee) p (hqueue ▸ hp)
  unfold queueCall
  dsimp only
  split
  · -- stored: a full queue loses its first message
    rename_i hstored
    rw [messageOf, if_pos hstored] at hmap
    refine leaving_unsent (List.append_assoc s.gone (s.offlineMessages.collect (expiredOf now)) _) rfl
      fun p hp => ?_
    rcases List.mem_append.mp hp with hp | hp
    · exact hexpired p hp
    have hqueue : queueOf (storeMessage c.callee ⟨c.fromExt, c.text, now, id⟩ s.offlineMessages).2 c.callee =
        pushMessage (queueOf (pruneExpired now s.offlineMessages) c.callee) (messageOf id c now) := by
      rw [hmap, queueOf_insert, if_pos rfl]
      rfl
    have hcut := take_append_pushMessage (queueOf (pruneExpired now s.offlineMessages) c.callee)
      (messageOf id c now)
    refine departs_evicted ?_ (fun hne => ?_) ?_ p hp
    · refine hgrown.trans (congrArg (fun queue => some (c.callee, queue)) ?_)
      exact hcut.symm.trans (congrArg _ hqueue.symm)
    · refine le_of_le_of_eq ?_ (congrArg List.length hqueue).symm
      split at hne
      · rename_i hfull
        rw [pushMessage, if_pos hfull, List.length_append, List.length_tail, List.length_singleton]
        omega
      · exact absurd rfl hne
    · refine Eq.trans ?_ (congrArg (fun queue => (_ ++ queue : List OfflineMessage).length) hqueue.symm)
      rw [hcut, List.length_append, List.length_singleton]
  · -- refused
    exact leaving_unsent rfl rfl hexpired

theorem leaving_call (cfg : MessageConfig) {s : MessageService} {id : Nat} {c : Call} (env : Env)
    (branch : Vector UInt8 8) (taken : Bool) (h : s.calls.lookup id = some c) :
    Leaving s (.call id env branch taken) (s.callStep cfg id c env branch taken) := by
  unfold callStep
  cases hpc : c.pc with
  | looking =>
    dsimp only
    split <;> exact leaving_nothing rfl rfl
  | targeting sink =>
    dsimp only
    split <;> exact leaving_nothing rfl rfl
  | sending sink targetUri forwarded =>
    cases taken with
    | true => exact leaving_handed rfl rfl rfl
    | false => exact leaving_refused rfl rfl rfl
  | storing =>
    dsimp only
    split <;> exact leaving_nothing rfl rfl
  | queueing now =>
    refine leaving_queueCall (fun callee => ?_) ?_
    · simp only [filterTime, h, hpc]
    · simp only [grown, h, hpc]
  | answered status response => exact leaving_nothing rfl rfl
  | panicked => exact leaving_nothing rfl rfl

theorem leaving_delivery (cfg : MessageConfig) {s : MessageService} {id : Nat} {d : Delivery} (env : Env)
    (branch : Vector UInt8 8) (taken : Bool) (h : s.deliveries.lookup id = some d) :
    Leaving s (.delivery id env branch taken) (s.deliveryStep cfg id d env branch taken) := by
  unfold deliveryStep
  cases hpc : d.pc with
  | starting =>
    refine leaving_unsent rfl rfl (departs_expired ?_)
    simp only [filterTime, h, hpc, if_true]
  | looking pending =>
    dsimp only
    split <;> exact leaving_nothing rfl rfl
  | targeting sink pending => exact leaving_nothing rfl rfl
  | sending sink targetUri pending =>
    cases pending with
    | nil => exact leaving_nothing rfl rfl
    | cons m rest =>
      dsimp only
      split
      · exact leaving_nothing rfl rfl
      · cases taken with
        | true => exact leaving_handed rfl rfl rfl
        | false => exact leaving_refused rfl rfl rfl
  | merging pending =>
    have hqueue : queueOf (s.offlineMessages.insert d.extension
        (mergeBack (queueOf s.offlineMessages d.extension) pending)) d.extension =
        mergeBack (queueOf s.offlineMessages d.extension) pending := by
      rw [queueOf_insert, if_pos rfl]
    have hcut : (pending ++ queueOf s.offlineMessages d.extension).take
          ((pending ++ queueOf s.offlineMessages d.extension).length - maxOfflineMessages) ++
        mergeBack (queueOf s.offlineMessages d.extension) pending =
        pending ++ queueOf s.offlineMessages d.extension := List.take_append_drop ..
    refine leaving_unsent rfl rfl (departs_evicted ?_ (fun hne => ?_) ?_)
    · have hgrown : grown s (.delivery id env branch taken) =
          some (d.extension, pending ++ queueOf s.offlineMessages d.extension) := by
        simp only [grown, h, hpc]
      refine hgrown.trans (congrArg (fun queue => some (d.extension, queue)) ?_)
      exact hcut.symm.trans (congrArg _ hqueue.symm)
    · refine le_of_le_of_eq ?_ (congrArg List.length hqueue).symm
      have hlong : maxOfflineMessages < (pending ++ queueOf s.offlineMessages d.extension).length := by
        by_contra hle
        exact hne (by rw [Nat.sub_eq_zero_of_le (Nat.le_of_not_lt hle), List.take_zero])
      rw [mergeBack, List.length_drop]
      omega
    · exact (congrArg List.length hcut).symm.trans
        (congrArg (fun queue => (_ ++ queue : List OfflineMessage).length) hqueue.symm)
  | done => exact leaving_nothing rfl rfl
  | panicked => exact leaving_nothing rfl rfl

/-- **A step** lets go of messages in these ways only. -/
theorem step_departs (cfg : MessageConfig) (s : MessageService) (event : MessageEvent) :
    Leaving s event (s.step cfg event) := by
  unfold step
  cases event with
  | submit id text fromExt tag =>
    dsimp only
    split
    · unfold submit
      split <;> exact leaving_nothing rfl rfl
    · exact leaving_nothing rfl rfl
  | call id env branch taken =>
    dsimp only
    split
    · rename_i c hl
      exact leaving_call cfg env branch taken hl
    · exact leaving_nothing rfl rfl
  | deliver id extension =>
    dsimp only
    split <;> exact leaving_nothing rfl rfl
  | delivery id env branch taken =>
    dsimp only
    split
    · rename_i d hl
      exact leaving_delivery cfg env branch taken hl
    · exact leaving_nothing rfl rfl

/-- **What left in a run.** The sinks took what was handed over, and every message that left did so in
some step. -/
theorem run_departs (cfg : MessageConfig) (events : List MessageEvent) :
    ((run cfg events).gone.filter fun p => p.2.isHanded) = (run cfg events).handedOver ∧
    ∀ p ∈ (run cfg events).gone, ∃ done event, done ++ [event] <+: events ∧
      Departs (run cfg done) event (run cfg (done ++ [event])) p := by
  induction events using List.reverseRecOn with
  | nil => exact ⟨rfl, nofun⟩
  | append_singleton events event ih =>
    obtain ⟨left, hgone, hdeparts, hsends⟩ := step_departs cfg (run cfg events) event
    rw [← run_append] at hgone hdeparts hsends
    refine ⟨by rw [hgone, List.filter_append, ih.1, hsends], fun p hp => ?_⟩
    rw [hgone] at hp
    rcases List.mem_append.mp hp with hp | hp
    · obtain ⟨done, event', hdone, hdeparts⟩ := ih.2 p hp
      exact ⟨done, event', hdone.trans (List.prefix_append ..), hdeparts⟩
    · exact ⟨events, event, List.prefix_refl _, hdeparts p hp⟩

/-! ## Whose messages they are -/

/-- A step of the call with this number read this time. -/
def ReadBy (all : List MessageEvent) (id now : Nat) : Prop :=
  ∃ env branch taken, .call id env branch taken ∈ all ∧ env.now = now

/-- The message of a call: its text and sender, received at a time that the call read. -/
def IsMessageOf (all : List MessageEvent) (id : Nat) (c : Call) (m : OfflineMessage) : Prop :=
  ∃ now, ReadBy all id now ∧ m = messageOf id c now

/-- The message is the one of its call, and goes to the callee of that call. -/
def Owned (all : List MessageEvent) (s : MessageService) (callee : Str) (m : OfflineMessage) : Prop :=
  ∃ c, s.calls.lookup m.origin = some c ∧ c.callee = callee ∧ IsMessageOf all m.origin c m

/-- The text is sent for its call, to the callee of that call. -/
def SentFor (s : MessageService) (t : Transmission) : Prop :=
  ∃ c, s.calls.lookup t.origin = some c ∧ c.callee = t.callee ∧ c.text = t.request ∧
    c.fromExt = t.fromExt

/-- Every message goes with its call. -/
structure Kept (all : List MessageEvent) (s : MessageService) : Prop where
  time : ∀ id c now, s.calls.lookup id = some c → c.pc = .queueing now → ReadBy all id now
  queued : ∀ callee, ∀ m ∈ queueOf s.offlineMessages callee, Owned all s callee m
  held : ∀ id d, s.deliveries.lookup id = some d → ∀ m ∈ d.pc.pending, Owned all s d.extension m
  sent : ∀ t ∈ s.sends, SentFor s t

/-- Calls stay what they are, but for where they stand. -/
def Stays (s s' : MessageService) : Prop :=
  ∀ id c, s.calls.lookup id = some c → ∃ pc, s'.calls.lookup id = some { c with pc := pc }

theorem Stays.refl (s : MessageService) : Stays s s := fun _ c h => ⟨c.pc, h⟩

theorem Stays.trans {s s' s'' : MessageService} (h : Stays s s') (h' : Stays s' s'') : Stays s s'' := by
  intro id c hl
  obtain ⟨pc, hl⟩ := h id c hl
  obtain ⟨pc', hl⟩ := h' id _ hl
  exact ⟨pc', hl⟩

variable {cfg : MessageConfig} {all : List MessageEvent}

theorem Owned.mono {s s' : MessageService} {callee : Str} {m : OfflineMessage} (h : Owned all s callee m)
    (hs : Stays s s') : Owned all s' callee m := by
  obtain ⟨c, hl, hcallee, hm⟩ := h
  obtain ⟨pc, hl⟩ := hs _ c hl
  exact ⟨_, hl, hcallee, hm⟩

theorem SentFor.mono {s s' : MessageService} {t : Transmission} (h : SentFor s t) (hs : Stays s s') :
    SentFor s' t := by
  obtain ⟨c, hl, ht⟩ := h
  obtain ⟨pc, hl⟩ := hs _ c hl
  exact ⟨_, hl, ht⟩

theorem ReadBy.mono {early late : List MessageEvent} {id now : Nat} (h : ReadBy early id now)
    (hs : early ⊆ late) : ReadBy late id now := by
  obtain ⟨env, branch, taken, hmem, hnow⟩ := h
  exact ⟨env, branch, taken, hs hmem, hnow⟩

/-! ### What the parts of a step keep -/

theorem stays_setCall {s : MessageService} {id : Nat} {c : Call}
    (h : ∀ c₀, s.calls.lookup id = some c₀ → ∃ pc, c = { c₀ with pc := pc }) : Stays s (s.setCall id c) := by
  intro id' c' hl
  simp only [setCall, Table.lookup_insert_eq]
  split
  · rename_i he
    obtain ⟨pc, rfl⟩ := h c' (he ▸ hl)
    exact ⟨pc, rfl⟩
  · exact ⟨c'.pc, hl⟩

theorem Kept.setCall {s : MessageService} (h : Kept all s) {id : Nat} {c : Call}
    (hold : ∀ c₀, s.calls.lookup id = some c₀ → ∃ pc, c = { c₀ with pc := pc })
    (htime : ∀ now, c.pc = .queueing now → ReadBy all id now) : Kept all (s.setCall id c) := by
  have hs := stays_setCall hold
  refine ⟨fun id' c' now hl hpc => ?_, fun callee m hm => (h.queued callee m hm).mono hs,
    fun id' d hl m hm => (h.held id' d hl m hm).mono hs, fun t ht => (h.sent t ht).mono hs⟩
  simp only [MessageService.setCall, Table.lookup_insert_eq] at hl
  split at hl
  · rename_i he
    cases hl
    exact he ▸ htime now hpc
  · exact h.time id' c' now hl hpc

/-- A running call moves on. -/
theorem Kept.move {s : MessageService} (h : Kept all s) {id : Nat} {c : Call}
    (hl : s.calls.lookup id = some c) (pc : CallPc) (hpc : ∀ now, pc = .queueing now → ReadBy all id now) :
    Kept all (s.setCall id { c with pc := pc }) := by
  refine h.setCall (fun c₀ h0 => ⟨pc, ?_⟩) hpc
  rw [hl] at h0
  cases h0
  rfl

theorem Kept.answer {s : MessageService} (h : Kept all s) {id : Nat} {c : Call}
    (hl : s.calls.lookup id = some c) (status : Nat) (reason : Str) :
    Kept all (s.setCall id (c.answer status reason)) :=
  h.move hl (.answered status (buildResponse c.text status reason (generateTag c.tag))) nofun

theorem Kept.setDelivery {s : MessageService} (h : Kept all s) {id : Nat} {d : Delivery}
    (hm : ∀ m ∈ d.pc.pending, Owned all s d.extension m) : Kept all (s.setDelivery id d) := by
  refine { h with held := fun id' d' hl => ?_ }
  simp only [MessageService.setDelivery, Table.lookup_insert_eq] at hl
  split at hl
  · cases hl
    exact hm
  · exact h.held id' d' hl

theorem Kept.leave {s : MessageService} (h : Kept all s) (messages : List (Nat × Place)) :
    Kept all (s.leave messages) := { h with }

theorem Kept.transmit {s : MessageService} (h : Kept all s) {t : Transmission} (ht : SentFor s t) :
    Kept all (s.transmit t) :=
  { h with
    sent := fun t' ht' => by
      rcases List.mem_append.mp ht' with ht' | ht'
      · exact h.sent t' ht'
      · exact List.mem_singleton.mp ht' ▸ ht }

theorem Kept.setQueues {s : MessageService} (h : Kept all s) (map : OfflineQueues)
    (hm : ∀ callee, ∀ m ∈ queueOf map callee, Owned all s callee m) : Kept all (s.setQueues map) :=
  { h with queued := hm }

/-! ### Steps -/

theorem Kept.queueCall {s : MessageService} (h : Kept all s) {id now : Nat} {c : Call}
    (hl : s.calls.lookup id = some c) (hpc : c.pc = .queueing now) : Kept all (s.queueCall id c now) := by
  have hqueues := (h.leave (s.offlineMessages.collect (expiredOf now))).setQueues
    (storeMessage c.callee ⟨c.fromExt, c.text, now, id⟩ s.offlineMessages).2
    fun callee m hm => by
      rcases mem_storeMessage hm with hm | ⟨rfl, rfl⟩
      · exact h.queued callee m hm
      · exact ⟨c, hl, rfl, now, h.time id c now hl hpc, rfl⟩
  unfold MessageService.queueCall
  dsimp only
  split
  · exact (hqueues.answer hl _ _).leave _
  · exact hqueues.answer hl _ _

theorem Kept.callStep {s : MessageService} (h : Kept all s) {id : Nat} {c : Call} {env : Env}
    {branch : Vector UInt8 8} {taken : Bool} (hl : s.calls.lookup id = some c)
    (he : .call id env branch taken ∈ all) : Kept all (s.callStep cfg id c env branch taken) := by
  unfold MessageService.callStep
  cases hpc : c.pc with
  | looking =>
    dsimp only
    split <;> exact h.move hl _ nofun
  | targeting sink =>
    dsimp only
    split <;> exact h.move hl _ nofun
  | sending sink targetUri forwarded =>
    have hsent := h.transmit (t := ⟨id, c.callee, c.fromExt, c.text, targetUri, sink, forwarded, taken⟩)
      ⟨c, hl, rfl, rfl, rfl⟩
    dsimp only
    split
    · exact (hsent.answer hl _ _).leave _
    · exact hsent.move hl _ nofun
  | storing =>
    have hrates : Kept all { s with senderRates := (countSender env.now c.fromExt s.senderRates).2 } :=
      { h with }
    dsimp only
    split
    · refine hrates.move hl _ fun now hnow => ⟨env, branch, taken, he, ?_⟩
      cases hnow
      rfl
    · exact hrates.answer hl _ _
  | queueing now => exact h.queueCall hl hpc
  | answered status response => exact h
  | panicked => exact h

theorem Kept.deliveryStep {s : MessageService} (h : Kept all s) {id : Nat} {d : Delivery} (env : Env)
    (branch : Vector UInt8 8) (taken : Bool) (hl : s.deliveries.lookup id = some d) :
    Kept all (s.deliveryStep cfg id d env branch taken) := by
  have hm := h.held id d hl
  unfold MessageService.deliveryStep
  cases hpc : d.pc with
  | starting =>
    have hqueues := (h.setQueues (s.offlineMessages.erase d.extension) fun callee m hm => by
      rw [queueOf_erase] at hm
      split at hm
      · cases hm
      · exact h.queued callee m hm).leave (expiredOf env.now d.extension
        (queueOf s.offlineMessages d.extension))
    refine hqueues.setDelivery fun m hm => ?_
    rw [DeliveryPc.pending_afterTake] at hm
    exact h.queued d.extension m (List.mem_of_mem_filter hm)
  | looking pending =>
    rw [hpc] at hm
    dsimp only
    split <;> exact h.setDelivery hm
  | targeting sink pending =>
    rw [hpc] at hm
    exact h.setDelivery hm
  | sending sink targetUri pending =>
    rw [hpc] at hm
    cases pending with
    | nil => exact h.setDelivery nofun
    | cons m rest =>
      obtain ⟨c, hcall, hcallee, now, -, hmessage⟩ := hm m List.mem_cons_self
      have htext : c.text = m.originalRequest := (congrArg OfflineMessage.originalRequest hmessage).symm
      have hfrom : c.fromExt = m.fromExt := (congrArg OfflineMessage.fromExt hmessage).symm
      dsimp only
      split
      · exact h.setDelivery nofun
      · rename_i forwarded hforward
        have hsent := h.transmit (t := ⟨m.origin, d.extension, m.fromExt, m.originalRequest, targetUri,
          sink, forwarded, taken⟩) ⟨c, hcall, hcallee, htext, hfrom⟩
        split
        · refine (hsent.setDelivery (d := { d with pc := .sending sink targetUri rest }) fun m' hm' => ?_).leave _
          exact hm m' (List.mem_cons_of_mem _ hm')
        · exact hsent.setDelivery hm
  | merging pending =>
    rw [hpc] at hm
    refine Kept.setDelivery (Kept.leave (h.setQueues _ fun callee m hmem => ?_) _) nofun
    rw [queueOf_insert] at hmem
    split at hmem
    · rename_i he
      subst he
      rcases mem_mergeBack hmem with hmem | hmem
      · exact hm m hmem
      · exact h.queued _ m hmem
    · exact h.queued callee m hmem
  | done => exact h
  | panicked => exact h

/-- **A step keeps every message with its call.** -/
theorem Kept.step {s : MessageService} (h : Kept all s) {event : MessageEvent} (he : event ∈ all) :
    Kept all (s.step cfg event) := by
  cases event with
  | submit id text fromExt tag =>
    unfold MessageService.step
    dsimp only
    split
    · rename_i hnone
      have hold : ∀ c c₀ : Call, s.calls.lookup id = some c₀ → ∃ pc, c = { c₀ with pc := pc } := by
        intro c c₀ hl
        cases hnone.symm.trans hl
      unfold MessageService.submit
      split <;> exact h.setCall (hold _) nofun
    · exact h
  | call id env branch taken =>
    unfold MessageService.step
    dsimp only
    split
    · rename_i hl
      exact h.callStep hl he
    · exact h
  | deliver id extension =>
    unfold MessageService.step
    dsimp only
    split
    · exact h.setDelivery nofun
    · exact h
  | delivery id env branch taken =>
    unfold MessageService.step
    dsimp only
    split
    · rename_i hl
      exact h.deliveryStep env branch taken hl
    · exact h

theorem run_kept (cfg : MessageConfig) (events : List MessageEvent) (h : events ⊆ all) :
    Kept all (run cfg events) := by
  induction events using List.reverseRecOn with
  | nil =>
    refine ⟨nofun, fun callee m hm => ?_, nofun, nofun⟩
    cases hm
  | append_singleton events event ih =>
    rw [run_append]
    exact (ih fun e he => h (List.mem_append_left _ he)).step
      (h (List.mem_append_right _ (List.mem_singleton_self _)))

/-- A step leaves the calls what they are. -/
theorem step_stays (cfg : MessageConfig) (s : MessageService) (event : MessageEvent) :
    Stays s (s.step cfg event) := by
  -- a call that moves on, in a state with the calls of `s`
  have hmove : ∀ {s' : MessageService} {id : Nat} {c : Call} (pc : CallPc), s'.calls = s.calls →
      s.calls.lookup id = some c → Stays s (s'.setCall id { c with pc := pc }) := by
    intro s' id c pc hcalls hl
    have hs : Stays s s' := fun id' c' hl' => ⟨c'.pc, by rw [hcalls, hl']⟩
    refine hs.trans (stays_setCall fun c₀ h0 => ⟨pc, ?_⟩)
    rw [hcalls, hl] at h0
    cases h0
    rfl
  unfold step
  cases event with
  | submit id text fromExt tag =>
    dsimp only
    split
    · rename_i hnone
      have hold : ∀ c c₀ : Call, s.calls.lookup id = some c₀ → ∃ pc, c = { c₀ with pc := pc } := by
        intro c c₀ hl
        cases hnone.symm.trans hl
      unfold submit
      split <;> exact stays_setCall (hold _)
    · exact .refl s
  | call id env branch taken =>
    dsimp only
    split
    · rename_i c hl
      unfold callStep
      split
      · split <;> exact hmove _ rfl hl
      · dsimp only
        split <;> exact hmove _ rfl hl
      · dsimp only
        split <;> exact hmove _ rfl hl
      · dsimp only
        split <;> exact hmove _ rfl hl
      · unfold queueCall
        dsimp only
        split <;> exact hmove _ rfl hl
      · exact .refl s
      · exact .refl s
    · exact .refl s
  | deliver id extension =>
    dsimp only
    split <;> exact .refl s
  | delivery id env branch taken =>
    dsimp only
    split
    · intro id' c' hl'
      exact ⟨c'.pc, by rw [deliveryStep_calls, hl']⟩
    · exact .refl s

theorem run_stays (cfg : MessageConfig) {early late : List MessageEvent} (h : early <+: late) :
    Stays (run cfg early) (run cfg late) := by
  obtain ⟨rest, rfl⟩ := h
  induction rest using List.reverseRecOn with
  | nil => rw [List.append_nil]; exact .refl _
  | append_singleton rest event ih =>
    rw [← List.append_assoc, run_append]
    exact ih.trans (step_stays cfg _ event)

/-! ## What the places say -/

/-- What a place says of the message of a call, after the events `all`. -/
def Situated (cfg : MessageConfig) (all : List MessageEvent) (id : Nat) (c : Call) : Place → Prop
  | .handed callee sink => ∃ t, (run cfg all).takenOf id = [t] ∧ t.callee = callee ∧ t.sink = sink ∧
      t.request = c.text ∧ t.fromExt = c.fromExt ∧ TransmissionTraced cfg all t
  | .queued callee => ∃ m ∈ queueOf (run cfg all).offlineMessages callee, IsMessageOf all id c m
  | .held callee delivery => ∃ d, (run cfg all).deliveries.lookup delivery = some d ∧
      d.extension = callee ∧ ∃ m ∈ d.pc.pending, IsMessageOf all id c m
  | .expired callee expiresAt now => ∃ done event, done ++ [event] <+: all ∧
      filterTime (run cfg done) callee event = some now ∧ (∃ env, Seen all env ∧ env.now = now) ∧
      ∃ m ∈ queueOf (run cfg done).offlineMessages callee, IsMessageOf all id c m ∧
        m.expiresAt = expiresAt ∧ expiresAt ≤ now
  | .evicted callee backlog => ∃ done event head queue, done ++ [event] <+: all ∧
      queue = queueOf (run cfg (done ++ [event])).offlineMessages callee ∧
      grown (run cfg done) event = some (callee, head ++ queue) ∧ (head ++ queue).length = backlog ∧
      maxOfflineMessages ≤ queue.length ∧ ∃ m ∈ head, IsMessageOf all id c m

/-- A TTL filter goes by a time that some event saw. -/
theorem seen_of_filterTime {s : MessageService} (h : Kept all s) {event : MessageEvent} (he : event ∈ all)
    {callee : Str} {now : Nat} (htime : filterTime s callee event = some now) :
    ∃ env, Seen all env ∧ env.now = now := by
  unfold filterTime at htime
  cases event with
  | submit id text fromExt tag => cases htime
  | deliver id extension => cases htime
  | call id env branch taken =>
    dsimp only at htime
    split at htime
    · rename_i c hl
      split at htime
      · rename_i hpc
        cases htime
        obtain ⟨env', branch', taken', hmem, hnow⟩ := h.time id c now hl hpc
        exact ⟨env', ⟨_, hmem, rfl⟩, hnow⟩
      · cases htime
    · cases htime
  | delivery id env branch taken =>
    dsimp only at htime
    split at htime
    · split at htime
      · split at htime
        · cases htime
          exact ⟨env, ⟨_, he, rfl⟩, rfl⟩
        · cases htime
      · cases htime
    · cases htime

/-- The message of a call, in a queue or a delivery of an earlier state. -/
theorem isMessageOf_of_owned {early : List MessageEvent} (hearly : early <+: all) {id : Nat} {c : Call}
    (hl : (run cfg all).calls.lookup id = some c) {callee : Str} {m : OfflineMessage}
    (hm : Owned all (run cfg early) callee m) (horigin : m.origin = id) : IsMessageOf all id c m := by
  obtain ⟨c', hl', -, hmessage⟩ := hm.mono (run_stays cfg hearly)
  rw [horigin, hl] at hl'
  cases hl'
  exact horigin ▸ hmessage

/-- What an event writes into a queue was in a queue before, was held, or is the message of a call. -/
theorem owned_grown {s : MessageService} (h : Kept all s) {event : MessageEvent} {callee : Str}
    {messages : List OfflineMessage} (hgrown : grown s event = some (callee, messages)) :
    ∀ m ∈ messages, Owned all s callee m := by
  intro m hm
  unfold grown at hgrown
  cases event with
  | submit id text fromExt tag => cases hgrown
  | deliver id extension => cases hgrown
  | call id env branch taken =>
    dsimp only at hgrown
    split at hgrown
    · rename_i c hl
      split at hgrown
      · rename_i now hpc
        cases hgrown
        rcases List.mem_append.mp hm with hm | hm
        · rw [queueOf_pruneExpired] at hm
          exact h.queued _ m (List.mem_of_mem_filter hm)
        · rw [List.mem_singleton.mp hm]
          exact ⟨c, hl, rfl, now, h.time id c now hl hpc, rfl⟩
      · cases hgrown
    · cases hgrown
  | delivery id env branch taken =>
    dsimp only at hgrown
    split at hgrown
    · rename_i d hl
      split at hgrown
      · rename_i pending hpc
        cases hgrown
        rcases List.mem_append.mp hm with hm | hm
        · exact h.held id d hl m (hpc ▸ hm)
        · exact h.queued _ m hm
      · cases hgrown
    · cases hgrown

/-- **A sink took the message of a call iff its place says so**, once for each time. -/
theorem map_takenOf (cfg : MessageConfig) (events : List MessageEvent) (id : Nat) :
    ((run cfg events).takenOf id).map (fun t => t.parcel.2) =
      ((run cfg events).locate id).filter Place.isHanded := by
  have hqueued : ∀ map : OfflineQueues, ((map.collect fun callee queue =>
      queue.map fun m => (m.origin, Place.queued callee)).filter fun p => p.2.isHanded) = [] := by
    refine fun map => List.filter_eq_nil_iff.mpr fun p hp => ?_
    obtain ⟨e, -, hp⟩ := List.mem_flatMap.mp hp
    obtain ⟨m, -, rfl⟩ := List.mem_map.mp hp
    exact Bool.false_ne_true
  have hheld : ∀ deliveries : Table Nat Delivery, ((deliveries.collect fun id d =>
      d.pc.pending.map fun m => (m.origin, Place.held d.extension id)).filter fun p => p.2.isHanded) = [] := by
    refine fun deliveries => List.filter_eq_nil_iff.mpr fun p hp => ?_
    obtain ⟨e, -, hp⟩ := List.mem_flatMap.mp hp
    obtain ⟨m, -, rfl⟩ := List.mem_map.mp hp
    exact Bool.false_ne_true
  have hparcels : ((run cfg events).parcels.filter fun p => p.2.isHanded) = (run cfg events).handedOver := by
    rw [parcels, List.filter_append, List.filter_append, hqueued, hheld, List.append_nil, List.append_nil,
      (run_departs cfg events).1]
  have hcomm : ((run cfg events).parcels.filter fun p => decide (p.1 = id)).filter (fun p => p.2.isHanded) =
      (run cfg events).handedOver.filter fun p => decide (p.1 = id) := by
    rw [List.filter_comm, hparcels]
  unfold locate takenOf
  rw [List.filter_map]
  change _ = (List.filter (fun p : Nat × Place => p.2.isHanded) _).map Prod.snd
  rw [hcomm, handedOver, List.filter_map, List.map_map]
  rfl

/-- What a parcel that has left says is true. -/
theorem situated_of_departs {done : List MessageEvent} {event : MessageEvent}
    (hdone : done ++ [event] <+: all) {id : Nat} {c : Call}
    (hl : (run cfg all).calls.lookup id = some c) {x : Nat × Place}
    (h : Departs (run cfg done) event (run cfg (done ++ [event])) x) (hid : x.1 = id)
    (hhanded : x.2.isHanded = true → ∃ t, (run cfg all).takenOf id = [t] ∧ t.parcel.2 = x.2) :
    Situated cfg all id c x.2 := by
  have hearly : done <+: all := (List.prefix_append ..).trans hdone
  have hkept : Kept all (run cfg done) := run_kept cfg done hearly.subset
  cases h with
  | handed t sends taken =>
    obtain ⟨t', htaken, hplace⟩ := hhanded rfl
    have hmem : t' ∈ (run cfg all).takenOf id := htaken ▸ List.mem_singleton_self t'
    obtain ⟨hmem, horigin⟩ := List.mem_filter.mp hmem
    have hsent := List.mem_of_mem_filter hmem
    obtain ⟨c', hl', -, htext, hfrom⟩ := (run_kept cfg all (List.Subset.refl all)).sent t' hsent
    rw [of_decide_eq_true horigin, hl] at hl'
    cases hl'
    injection hplace with hcallee hsink
    exact ⟨t', htaken, hcallee, hsink, htext.symm, hfrom.symm,
      (run_traced cfg all fun _ he => he).sent t' hsent⟩
  | expired callee m now time mem old =>
    exact ⟨done, event, hdone, time,
      seen_of_filterTime hkept (hdone.subset (List.mem_append_right _ (List.mem_singleton_self event))) time,
      m, mem, isMessageOf_of_owned hearly hl (hkept.queued callee m mem) hid, rfl, old⟩
  | evicted callee m head grew mem full =>
    exact ⟨done, event, head, _, hdone, rfl, grew, rfl, full, m, mem,
      isMessageOf_of_owned hearly hl (owned_grown hkept grew m (List.mem_append_left _ mem)) hid⟩

/-- **What the place of a message says is true.** -/
theorem situated_locate {id : Nat} {c : Call} (hl : (run cfg all).calls.lookup id = some c) {p : Place}
    (hp : (run cfg all).locate id = [p]) : Situated cfg all id c p := by
  have hhanded : p.isHanded = true → ∃ t, (run cfg all).takenOf id = [t] ∧ t.parcel.2 = p := by
    intro hp'
    have htaken := map_takenOf cfg all id
    rw [hp, List.filter_cons_of_pos hp', List.filter_nil] at htaken
    exact List.map_eq_singleton_iff.mp htaken
  have hkept : Kept all (run cfg all) := run_kept cfg all (List.Subset.refl all)
  have hmem : p ∈ (run cfg all).locate id := hp ▸ List.mem_singleton_self p
  obtain ⟨x, hx, rfl⟩ := List.mem_map.mp hmem
  obtain ⟨hx, hid⟩ := List.mem_filter.mp hx
  have hid : x.1 = id := of_decide_eq_true hid
  rcases List.mem_append.mp hx with hx | hx
  · rcases List.mem_append.mp hx with hx | hx
    · -- it has left
      obtain ⟨done, event, hdone, hdeparts⟩ := (run_departs cfg all).2 x hx
      exact situated_of_departs hdone hl hdeparts hid hhanded
    · -- in a queue
      obtain ⟨⟨callee, queue⟩, he, hx⟩ := List.mem_flatMap.mp hx
      obtain ⟨m, hm, rfl⟩ := List.mem_map.mp hx
      have hlookup : (run cfg all).offlineMessages.lookup callee = some queue :=
        (List.mem_dlookup_iff (run cfg all).offlineMessages.nodupKeys).mpr he
      have hm : m ∈ queueOf (run cfg all).offlineMessages callee := by
        rw [queueOf, hlookup]
        exact hm
      exact ⟨m, hm, isMessageOf_of_owned (List.prefix_refl all) hl (hkept.queued callee m hm) hid⟩
  · -- held by a delivery
    obtain ⟨⟨delivery, d⟩, he, hx⟩ := List.mem_flatMap.mp hx
    obtain ⟨m, hm, rfl⟩ := List.mem_map.mp hx
    have hlookup : (run cfg all).deliveries.lookup delivery = some d :=
      (List.mem_dlookup_iff (run cfg all).deliveries.nodupKeys).mpr he
    exact ⟨d, hlookup, rfl, m, hm,
      isMessageOf_of_owned (List.prefix_refl all) hl (hkept.held delivery d hlookup m hm) hid⟩

/-- **Offline messages are neither lost nor duplicated.** When a call has answered, then at that moment
and at every later one: if it answered 200, its message is in exactly one place, once, a place of its
callee, and is there as the place says; a sink took it once if it was handed over, and never otherwise.
If it answered anything else, its message is nowhere, and no sink ever took it. -/
theorem offline_conserved (cfg : MessageConfig) (before after : List MessageEvent) (id : Nat) (c : Call)
    (status : Nat) (h : (run cfg before).calls.lookup id = some c) (hc : c.status = some status) :
    if status = 200 then
      ∃ p, (run cfg (before ++ after)).locate id = [p] ∧ p.callee = c.callee ∧
        Situated cfg (before ++ after) id c p ∧
        (p.isHanded = false → (run cfg (before ++ after)).takenOf id = [])
    else (run cfg (before ++ after)).locate id = [] ∧ (run cfg (before ++ after)).takenOf id = [] := by
  have hl := run_answered h (by rw [hc]; exact Option.some_ne_none _) after
  have hcallees := callees_locate hl hc
  have htaken := map_takenOf cfg (before ++ after) id
  split
  · rename_i h200
    rw [if_pos h200] at hcallees
    obtain ⟨p, hp, hcallee⟩ := List.map_eq_singleton_iff.mp hcallees
    refine ⟨p, hp, hcallee, situated_locate hl hp, fun hunsent => ?_⟩
    rw [hp, List.filter_cons_of_neg (by rw [hunsent]; exact Bool.false_ne_true), List.filter_nil] at htaken
    exact List.map_eq_nil_iff.mp htaken
  · rename_i h200
    rw [if_neg h200] at hcallees
    have hnone := List.map_eq_nil_iff.mp hcallees
    rw [hnone, List.filter_nil] at htaken
    exact ⟨hnone, List.map_eq_nil_iff.mp htaken⟩

/-- A message for 1002, who is not there: it is queued, and the delivery that follows fails to send it
and writes it back. -/
theorem offline_conserved_concrete :
    let cfg : MessageConfig := ⟨"example.com".toList, 1000, 2000, false⟩
    let text := "MESSAGE sip:1002@example.com SIP/2.0\r\n\r\nhi".toList
    let tag : Vector UInt8 8 := #v[1, 2, 3, 4, 5, 6, 7, 8]
    let online : Env := { writers := AList.singleton "1002".toList (.stream 7), now := 1010 }
    let before : List MessageEvent := .submit 0 text "1001".toList tag ::
      List.replicate 3 (.call 0 { now := 1000 } tag false)
    let after : List MessageEvent := .deliver 0 "1002".toList ::
      List.replicate 5 (.delivery 0 online tag false)
    (run cfg (before ++ after)).locate 0 = [.queued "1002".toList] ∧
    (run cfg (before ++ after)).sends.length = 1 ∧
    ∃ c, (run cfg before).calls.lookup 0 = some c ∧ c.status = some 200 ∧
      ∃ p, (run cfg (before ++ after)).locate 0 = [p] ∧ p.callee = c.callee ∧
        Situated cfg (before ++ after) 0 c p ∧
        (p.isHanded = false → (run cfg (before ++ after)).takenOf 0 = []) := by
  intro cfg text tag online before after
  have h : ((run cfg before).calls.lookup 0).bind Call.status = some 200 := by decide +kernel
  obtain ⟨c, hl, hc⟩ := Option.bind_eq_some_iff.mp h
  have hconserved := offline_conserved cfg before after 0 c 200 hl hc
  rw [if_pos rfl] at hconserved
  exact ⟨by decide +kernel, by decide +kernel, c, hl, hc, hconserved⟩

end MessageService

end Minghe.Sip
