import Minghe.Sip.Queues

/-!
# The caps on offline messages

`store_offline_message` keeps three bounds: so many messages in all, so many of one sender, and so many
for one callee. It counts what is in the queues. A delivery takes a queue out, so that others can fill
the room it leaves, and `merge_back` trims the queue it writes to its own bound without counting the
rest.

* `tally p map` counts the messages in the queues that satisfy `p`.
* `WithinCaps` are the three bounds.
* `Room map extension pending`: what is written back fits in the first two. Together with the messages
  in the queues, and without those that are trimmed, it does not exceed them.
* `caps_iff`: in every state of a run the queues are within all three bounds iff each time messages are
  written back there is room for them.
* `caps_exceeded`: a run in which the messages that are written back exceed the quota of their sender.
-/

namespace Minghe.Sip

open Minghe.Lib

namespace MessageService

/-! ## Counting -/

/-- The number of messages in the queues that satisfy `p`. -/
def tally (p : OfflineMessage → Bool) (map : OfflineQueues) : Nat := (allMessages map).countP p

/-- The messages of a sender. -/
def sentBy (fromExt : Str) (m : OfflineMessage) : Bool := decide (m.fromExt = fromExt)

theorem found_queue (map : OfflineQueues) (callee : Str) :
    Table.found (fun _ queue => queue) callee (map.lookup callee) = queueOf map callee := by
  unfold Table.found queueOf
  cases map.lookup callee <;> rfl

theorem tally_true (map : OfflineQueues) : tally (fun _ => true) map = (allMessages map).length :=
  congrFun List.countP_true _

/-- The count that is compared with the quota. -/
theorem length_filter_sender (map : OfflineQueues) (fromExt : Str) :
    ((allMessages map).filter fun o => decide (o.fromExt = fromExt)).length = tally (sentBy fromExt) map :=
  List.countP_eq_length_filter.symm

theorem tally_insert (p : OfflineMessage → Bool) (map : OfflineQueues) (callee : Str)
    (queue : List OfflineMessage) :
    (queueOf map callee).countP p + tally p (map.insert callee queue) = queue.countP p + tally p map := by
  have h := (Table.collect_insert (fun _ queue => queue) map callee queue).countP_eq p
  rwa [found_queue, List.countP_append, List.countP_append] at h

theorem tally_erase (p : OfflineMessage → Bool) (map : OfflineQueues) (callee : Str) :
    (queueOf map callee).countP p + tally p (map.erase callee) = tally p map := by
  have h := (Table.collect_erase (fun _ queue => queue) map callee).countP_eq p
  rwa [found_queue, List.countP_append] at h

/-- What `prune_expired` drops is what is too old. -/
theorem tally_pruneExpired (p : OfflineMessage → Bool) (map : OfflineQueues) (now : Nat) :
    (map.collect fun _ queue => queue.filter fun m => !m.live now).countP p +
      tally p (pruneExpired now map) = tally p map := by
  rw [tally, ← List.countP_append]
  refine List.Perm.countP_eq p (Table.collect_filterMap (fun _ queue => ?_) map)
  refine .trans (.of_eq ?_) (List.perm_append_comm.trans
    (List.filter_append_perm (OfflineMessage.live now) queue))
  congr 1
  dsimp only
  split
  · rename_i hempty
    exact (List.isEmpty_iff.mp hempty).symm
  · rfl

theorem tally_pruneExpired_le (p : OfflineMessage → Bool) (map : OfflineQueues) (now : Nat) :
    tally p (pruneExpired now map) ≤ tally p map :=
  Nat.le.intro ((Nat.add_comm _ _).trans (tally_pruneExpired p map now))

theorem countP_pushMessage_le (p : OfflineMessage → Bool) (queue : List OfflineMessage)
    (m : OfflineMessage) : (pushMessage queue m).countP p ≤ queue.countP p + if p m then 1 else 0 := by
  unfold pushMessage
  rw [List.countP_append, List.countP_singleton]
  refine Nat.add_le_add_right ?_ _
  split
  · exact (List.tail_sublist queue).countP_le
  · exact Nat.le_refl _

theorem length_pushMessage_le {queue : List OfflineMessage} (m : OfflineMessage)
    (h : queue.length ≤ maxOfflineMessages) : (pushMessage queue m).length ≤ maxOfflineMessages := by
  unfold pushMessage
  rw [List.length_append, List.length_singleton]
  split
  · rw [List.length_tail]
    have : 0 < maxOfflineMessages := by decide
    omega
  · omega

/-- The messages that `merge_back` trims. -/
def trimmed (queue pending : List OfflineMessage) : List OfflineMessage :=
  (pending ++ queue).take ((pending ++ queue).length - maxOfflineMessages)

theorem countP_mergeBack (p : OfflineMessage → Bool) (queue pending : List OfflineMessage) :
    (trimmed queue pending).countP p + (mergeBack queue pending).countP p =
      pending.countP p + queue.countP p := by
  rw [← List.countP_append, ← List.countP_append]
  exact congrArg (List.countP p) (List.take_append_drop _ _)

theorem length_mergeBack_le (queue pending : List OfflineMessage) :
    (mergeBack queue pending).length ≤ maxOfflineMessages := by
  unfold mergeBack
  dsimp only
  rw [List.length_drop]
  omega

/-! ## The bounds -/

/-- The bounds on the queues. -/
structure WithinCaps (map : OfflineQueues) : Prop where
  total : (allMessages map).length ≤ maxTotalOfflineMessages
  sender : ∀ fromExt, tally (sentBy fromExt) map ≤ senderOfflineQuota
  queue : ∀ callee, (queueOf map callee).length ≤ maxOfflineMessages

/-- What is written back fits, without what is trimmed. -/
def Room (map : OfflineQueues) (extension : Str) (pending : List OfflineMessage) : Prop :=
  (allMessages map).length + pending.length ≤
      maxTotalOfflineMessages + (trimmed (queueOf map extension) pending).length ∧
    ∀ fromExt, tally (sentBy fromExt) map + pending.countP (sentBy fromExt) ≤
      senderOfflineQuota + (trimmed (queueOf map extension) pending).countP (sentBy fromExt)

theorem withinCaps_empty : WithinCaps ∅ :=
  ⟨Nat.zero_le _, fun _ => Nat.zero_le _, fun _ => Nat.zero_le _⟩

theorem WithinCaps.pruneExpired {map : OfflineQueues} (h : WithinCaps map) (now : Nat) :
    WithinCaps (pruneExpired now map) where
  total := by
    rw [← tally_true]
    exact (tally_pruneExpired_le _ map now).trans ((tally_true map).trans_le h.total)
  sender fromExt := (tally_pruneExpired_le _ map now).trans (h.sender fromExt)
  queue callee := by
    rw [queueOf_pruneExpired]
    exact List.filter_sublist.length_le.trans (h.queue callee)

/-- A message more adds one to the counts that it is in. -/
theorem tally_push_le (p : OfflineMessage → Bool) (map : OfflineQueues) (callee : Str)
    (m : OfflineMessage) :
    tally p (map.insert callee (pushMessage (queueOf map callee) m)) ≤
      tally p map + if p m then 1 else 0 := by
  have h1 := tally_insert p map callee (pushMessage (queueOf map callee) m)
  have h2 := countP_pushMessage_le p (queueOf map callee) m
  omega

/-- **`store_offline_message` keeps the bounds.** -/
theorem WithinCaps.storeMessage {map : OfflineQueues} (h : WithinCaps map) (callee : Str)
    (m : OfflineMessage) : WithinCaps (storeMessage callee m map).2 := by
  have hprune := h.pruneExpired m.receivedAt
  unfold Minghe.Sip.storeMessage
  dsimp only
  split
  · exact hprune
  rename_i hquota
  split
  · exact hprune
  rename_i hfull
  refine ⟨?_, fun fromExt => ?_, fun callee' => ?_⟩
  · have hpush := tally_push_le (fun _ => true) (Minghe.Sip.pruneExpired m.receivedAt map) callee m
    rw [tally_true, tally_true, if_pos rfl] at hpush
    exact hpush.trans (Nat.lt_of_not_le hfull)
  · refine (tally_push_le (sentBy fromExt) _ callee m).trans ?_
    by_cases hfrom : m.fromExt = fromExt
    · subst hfrom
      rw [length_filter_sender] at hquota
      split <;> omega
    · rw [if_neg (by simpa [sentBy] using hfrom)]
      exact hprune.sender fromExt
  · rw [queueOf_insert]
    split
    · exact length_pushMessage_le m (hprune.queue callee)
    · exact hprune.queue callee'

/-- **`merge_back` keeps the bounds iff there is room.** -/
theorem withinCaps_mergeBack {map : OfflineQueues} (h : WithinCaps map) (extension : Str)
    (pending : List OfflineMessage) :
    WithinCaps (map.insert extension (mergeBack (queueOf map extension) pending)) ↔
      Room map extension pending := by
  have hcount := fun p => And.intro
    (tally_insert p map extension (mergeBack (queueOf map extension) pending))
    (countP_mergeBack p (queueOf map extension) pending)
  have htotal := hcount fun _ => true
  simp only [tally_true, List.countP_true] at htotal
  constructor
  · intro hafter
    have h1 := hafter.total
    refine ⟨by omega, fun fromExt => ?_⟩
    have h2 := hafter.sender fromExt
    have := hcount (sentBy fromExt)
    omega
  · rintro ⟨h1, h2⟩
    refine ⟨by omega, fun fromExt => ?_, fun callee => ?_⟩
    · have := h2 fromExt
      have := hcount (sentBy fromExt)
      omega
    · rw [queueOf_insert]
      split
      · exact length_mergeBack_le _ _
      · exact h.queue callee

/-- A step keeps the bounds unless it writes back more than there is room for. -/
theorem WithinCaps.step {cfg : MessageConfig} {s : MessageService} (h : WithinCaps s.offlineMessages)
    {event : MessageEvent}
    (hroom : ∀ extension pending, writtenBack s event = some (extension, pending) →
      Room s.offlineMessages extension pending) :
    WithinCaps (s.step cfg event).offlineMessages := by
  cases queueStep cfg s event with
  | stay queues => rwa [queues]
  | store id c now call pc queues =>
    rw [queues]
    exact h.storeMessage c.callee _
  | take id extension now queues =>
    rw [queues]
    refine ⟨?_, fun fromExt => ?_, fun callee => ?_⟩
    · have := tally_erase (fun _ => true) s.offlineMessages extension
      have := h.total
      rw [tally_true, tally_true] at *
      omega
    · have := tally_erase (sentBy fromExt) s.offlineMessages extension
      have := h.sender fromExt
      omega
    · rw [queueOf_erase]
      split
      · exact Nat.zero_le _
      · exact h.queue callee
  | merge extension pending back queues =>
    rw [queues]
    exact (withinCaps_mergeBack h extension pending).mpr (hroom extension pending back)

/-! ## Runs -/

/-- The events of a run write back only what there is room for. -/
def WritesBackWithRoom (cfg : MessageConfig) (events : List MessageEvent) : Prop :=
  ∀ done event, done ++ [event] <+: events → ∀ extension pending,
    writtenBack (run cfg done) event = some (extension, pending) →
    Room (run cfg done).offlineMessages extension pending

theorem run_withinCaps {cfg : MessageConfig} (events : List MessageEvent)
    (h : WritesBackWithRoom cfg events) : WithinCaps (run cfg events).offlineMessages := by
  induction events using List.reverseRecOn with
  | nil => exact withinCaps_empty
  | append_singleton events event ih =>
    rw [run_append]
    exact WithinCaps.step (ih fun done e hdone => h done e (hdone.trans (List.prefix_append _ _)))
      (h events event (List.prefix_refl _))

/-- **When the caps hold.** In every state that a run reaches the queues are within all three bounds
iff each time messages are written back there is room for them. -/
theorem caps_iff (cfg : MessageConfig) (events : List MessageEvent) :
    (∀ done, done <+: events → WithinCaps (run cfg done).offlineMessages) ↔
      WritesBackWithRoom cfg events := by
  constructor
  · intro h done event hdone extension pending hback
    have hafter := h _ hdone
    rw [run_append, (writtenBack_spec cfg hback).1] at hafter
    exact (withinCaps_mergeBack (h done ((List.prefix_append _ _).trans hdone)) extension pending).mp hafter
  · exact fun h done hdone =>
      run_withinCaps done fun done' event hdone' => h done' event (hdone'.trans hdone)

/-! ## A sender beyond its quota

1001 sends a message a minute, so that its rate is never too high, to callees who are not there: 100 to
each of five. A delivery takes the queue of the first callee, 1001 sends 100 messages to a sixth, and
the delivery, for which there is no connection, writes back what it took. -/

/-- The domain, extensions from 1000 to 2000, and no UDP. -/
def floodConfig : MessageConfig := ⟨"example.com".toList, 1000, 2000, false⟩

/-- A request from 1001. -/
def floodRequest (callee : Str) : Str :=
  "MESSAGE sip:".toList ++ callee ++ "@example.com SIP/2.0\r\n\r\nhi".toList

/-- The events of one `handle_message` call that stores its message, at minute `id`. -/
def floodCall (callee : Str) (id : Nat) : List MessageEvent :=
  .submit id (floodRequest callee) "1001".toList (Vector.replicate 8 0) ::
    List.replicate 3 (.call id { now := 60 * id } (Vector.replicate 8 0) false)

/-- So many calls, the first at minute `start`. -/
def floodCalls (callee : Str) (start count : Nat) : List MessageEvent :=
  (List.range' start count).flatMap (floodCall callee)

/-- The next step of the delivery, after the last call. -/
def floodDelivery : MessageEvent := .delivery 0 { now := 36000 } (Vector.replicate 8 0) false

/-- 100 calls for each callee. -/
def floodAll : List Str → Nat → List MessageEvent
  | [], _ => []
  | callee :: callees, start => floodCalls callee start 100 ++ floodAll callees (start + 100)

def floodCallees : List Str := ["1002", "1003", "1004", "1005", "1006", "1007"].map String.toList

def floodEvents : List MessageEvent :=
  floodAll (floodCallees.take 5) 0 ++ ([.deliver 0 "1002".toList, floodDelivery] ++
    (floodAll (floodCallees.drop 5) 500 ++ [floodDelivery, floodDelivery]))

/-- What the calls up to minute `n` lead to, with `count` messages in the queues. -/
structure Flooded (n count : Nat) (s : MessageService) : Prop where
  calls : ∀ id, n ≤ id → s.calls.lookup id = none
  rates : ∀ win, s.senderRates.lookup "1001".toList = some win →
    win.windowStart + senderRateWindowSecs ≤ 60 * n
  total : tally (fun _ => true) s.offlineMessages = count
  sender : tally (sentBy "1001".toList) s.offlineMessages = count

/-- On the first day nothing is too old. -/
theorem live_of_lt {now : Nat} (h : now < offlineMsgTtlSecs) (m : OfflineMessage) : m.live now = true := by
  unfold OfflineMessage.live OfflineMessage.expiresAt
  have : offlineMsgTtlSecs < 2 ^ 64 - 1 := by decide
  simp only [decide_eq_true_eq]
  omega

/-- A message a minute is not too many. -/
theorem countSender_flood {n : Nat} {rates : Table Str SenderRateWindow}
    (h : ∀ win, rates.lookup "1001".toList = some win → win.windowStart + senderRateWindowSecs ≤ 60 * n) :
    countSender (60 * n) "1001".toList rates = (true, rates.insert "1001".toList ⟨60 * n, 1⟩) := by
  unfold countSender
  cases hl : rates.lookup "1001".toList with
  | none => simp [senderRateLimit]
  | some win =>
    have hold := (Nat.mod_le _ (2 ^ 64)).trans (h win hl)
    simp only [Option.getD_some]
    rw [if_pos hold]
    rfl

theorem step_call {cfg : MessageConfig} {s : MessageService} {id : Nat} {c : Call}
    (h : s.calls.lookup id = some c) (env : Env) (branch : Vector UInt8 8) (taken : Bool) :
    s.step cfg (.call id env branch taken) = s.callStep cfg id c env branch taken := by
  unfold step
  simp only [h]

theorem step_delivery {cfg : MessageConfig} {s : MessageService} {id : Nat} {d : Delivery}
    (h : s.deliveries.lookup id = some d) (env : Env) (branch : Vector UInt8 8) (taken : Bool) :
    s.step cfg (.delivery id env branch taken) = s.deliveryStep cfg id d env branch taken := by
  unfold step
  simp only [h]

theorem lookup_setCall (s : MessageService) (id id' : Nat) (c : Call) :
    (s.setCall id c).calls.lookup id' = if id' = id then some c else s.calls.lookup id' :=
  Table.lookup_insert_eq s.calls id id' c

/-- A call that stores its message. -/
theorem run_floodCall {s : MessageService} {n count : Nat} {callee : Str} (h : Flooded n count s)
    (hcheck : floodConfig.checkMessage (floodRequest callee) "1001".toList = .ok (.ok callee)) :
    ∃ s', (floodCall callee n).foldl (step floodConfig) s = s' ∧
      s'.offlineMessages = (storeMessage callee ⟨"1001".toList, floodRequest callee, 60 * n, n⟩
        s.offlineMessages).2 ∧
      s'.senderRates = s.senderRates.insert "1001".toList ⟨60 * n, 1⟩ ∧ s'.deliveries = s.deliveries ∧
      ∀ id, n < id → s'.calls.lookup id = none := by
  let bytes : Vector UInt8 8 := Vector.replicate 8 0
  let env : Env := { now := 60 * n }
  let c (pc : CallPc) : Call := ⟨floodRequest callee, "1001".toList, bytes, callee, pc⟩
  have hself : ∀ (s : MessageService) pc, (s.setCall n (c pc)).calls.lookup n = some (c pc) :=
    fun s pc => AList.lookup_insert s.calls
  have hsubmit : s.step floodConfig (.submit n (floodRequest callee) "1001".toList bytes) =
      s.setCall n (c .looking) := by
    unfold step
    simp only [h.calls n (Nat.le_refl _)]
    unfold submit
    rw [hcheck]
  have hlooking : (s.setCall n (c .looking)).step floodConfig (.call n env bytes false) =
      (s.setCall n (c .looking)).setCall n (c .storing) := step_call (hself _ _) env bytes false
  let rates := s.senderRates.insert "1001".toList ⟨60 * n, 1⟩
  let s₂ := (s.setCall n (c .looking)).setCall n (c .storing)
  have hstoring : s₂.step floodConfig (.call n env bytes false) =
      setCall n (c (.queueing (60 * n))) { s₂ with senderRates := rates } := by
    rw [step_call (hself _ _)]
    unfold callStep
    dsimp only [c]
    rw [show countSender env.now "1001".toList s₂.senderRates = (true, rates) from
      countSender_flood h.rates]
    rfl
  let s₃ := setCall n (c (.queueing (60 * n))) { s₂ with senderRates := rates }
  refine ⟨s₃.queueCall n (c (.queueing (60 * n))) (60 * n), ?_, ?_, ?_, ?_, fun id hid => ?_⟩
  · rw [floodCall, List.foldl_cons, hsubmit]
    change ((step floodConfig ((s.setCall n (c .looking)).step floodConfig (.call n env bytes false))
      (.call n env bytes false)).step floodConfig (.call n env bytes false)) = _
    rw [hlooking, hstoring, step_call (hself _ _)]
    rfl
  · unfold queueCall
    dsimp only
    split <;> rfl
  · unfold queueCall
    dsimp only
    split <;> rfl
  · unfold queueCall
    dsimp only
    split <;> rfl
  · have hne : id ≠ n := by omega
    have hlookup : s₃.calls.lookup id = none := by
      rw [lookup_setCall, if_neg hne, lookup_setCall, if_neg hne, lookup_setCall, if_neg hne]
      exact h.calls id hid.le
    unfold queueCall
    dsimp only
    split
    · exact (lookup_setCall _ n id _).trans ((if_neg hne).trans hlookup)
    · exact (lookup_setCall _ n id _).trans ((if_neg hne).trans hlookup)

/-- On the first day, while no bound is reached, a message that is stored comes to the end of its
queue and nothing else changes. -/
theorem storeMessage_first_day (map : OfflineQueues) (callee : Str) {m : OfflineMessage}
    (hday : m.receivedAt < offlineMsgTtlSecs)
    (hsender : tally (sentBy m.fromExt) map < senderOfflineQuota)
    (htotal : tally (fun _ => true) map < maxTotalOfflineMessages)
    (hqueue : (queueOf map callee).length < maxOfflineMessages) :
    (∀ p, tally p (storeMessage callee m map).2 = tally p map + if p m then 1 else 0) ∧
      ∀ callee', queueOf (storeMessage callee m map).2 callee' =
        if callee' = callee then queueOf map callee ++ [m] else queueOf map callee' := by
  have hlive := live_of_lt hday
  have hprune : ∀ callee', queueOf (pruneExpired m.receivedAt map) callee' = queueOf map callee' := by
    intro callee'
    rw [queueOf_pruneExpired, List.filter_eq_self]
    exact fun m' _ => hlive m'
  have htally : ∀ p, tally p (pruneExpired m.receivedAt map) = tally p map := by
    intro p
    have hnone : (map.collect fun _ queue => queue.filter fun m' => !m'.live m.receivedAt) = [] := by
      refine List.flatMap_eq_nil_iff.mpr fun e _ => ?_
      simp [hlive]
    have h := tally_pruneExpired p map m.receivedAt
    rwa [hnone, List.countP_nil, Nat.zero_add] at h
  have hpush : pushMessage (queueOf map callee) m = queueOf map callee ++ [m] := by
    rw [pushMessage, if_neg (Nat.not_le_of_lt hqueue)]
  have hstored : (storeMessage callee m map).2 =
      (pruneExpired m.receivedAt map).insert callee (queueOf map callee ++ [m]) := by
    rw [← htally] at hsender
    rw [← htally, tally_true] at htotal
    unfold storeMessage
    dsimp only
    rw [length_filter_sender, if_neg (Nat.not_le_of_lt hsender), if_neg (Nat.not_le_of_lt htotal), hprune,
      hpush]
  rw [hstored]
  refine ⟨fun p => ?_, fun callee' => ?_⟩
  · have h := tally_insert p (pruneExpired m.receivedAt map) callee (queueOf map callee ++ [m])
    rw [hprune, htally, List.countP_append, List.countP_singleton] at h
    omega
  · rw [queueOf_insert, hprune]

/-- So many calls for one callee. -/
theorem run_floodCalls {callee : Str}
    (hcheck : floodConfig.checkMessage (floodRequest callee) "1001".toList = .ok (.ok callee)) :
    ∀ (k : Nat) {n count : Nat} {s : MessageService}, Flooded n count s → n + k ≤ 1000 →
      count + k ≤ senderOfflineQuota → (queueOf s.offlineMessages callee).length + k ≤ maxOfflineMessages →
      ∃ s', (floodCalls callee n k).foldl (step floodConfig) s = s' ∧ Flooded (n + k) (count + k) s' ∧
        (∀ callee', (queueOf s'.offlineMessages callee').length =
          (queueOf s.offlineMessages callee').length + if callee' = callee then k else 0) ∧
        s'.deliveries = s.deliveries
  | 0, n, count, s, h, _, _, _ => ⟨s, rfl, h, fun callee' => by simp, rfl⟩
  | k + 1, n, count, s, h, hday, hquota, hroom => by
    obtain ⟨s₁, hrun, hqueues, hrates, hdeliveries, hcalls⟩ := run_floodCall h hcheck
    have hquota' : senderOfflineQuota < maxTotalOfflineMessages := by decide
    obtain ⟨htally, hqueueOf⟩ := storeMessage_first_day s.offlineMessages callee
      (m := ⟨"1001".toList, floodRequest callee, 60 * n, n⟩)
      (by simp only [offlineMsgTtlSecs]; omega) (by rw [h.sender]; omega) (by rw [h.total]; omega)
      (by omega)
    rw [← hqueues] at htally hqueueOf
    have hlength : ∀ callee', (queueOf s₁.offlineMessages callee').length =
        (queueOf s.offlineMessages callee').length + if callee' = callee then 1 else 0 := by
      intro callee'
      rw [hqueueOf]
      split
      · rename_i he
        rw [he, List.length_append, List.length_singleton]
      · rfl
    have h₁ : Flooded (n + 1) (count + 1) s₁ := by
      refine ⟨fun id hid => hcalls id hid, fun win hwin => ?_, ?_, ?_⟩
      · rw [hrates, AList.lookup_insert] at hwin
        cases hwin
        simp only [senderRateWindowSecs]
        omega
      · rw [htally, h.total, if_pos rfl]
      · rw [htally, h.sender, if_pos (by simp [sentBy])]
    obtain ⟨s₂, hrun', h₂, hlength', hdeliveries'⟩ := run_floodCalls hcheck k h₁ (by omega) (by omega)
      (by rw [hlength, if_pos rfl]; omega)
    refine ⟨s₂, ?_, ?_, fun callee' => ?_, hdeliveries'.trans hdeliveries⟩
    · rw [floodCalls, List.range'_succ, List.flatMap_cons, List.foldl_append, hrun]
      exact hrun'
    · rwa [Nat.add_right_comm n, Nat.add_right_comm count] at h₂
    · rw [hlength', hlength]
      split <;> omega

/-- So many calls for each of the callees, whose queues are empty. -/
theorem run_floodAll : ∀ {callees : List Str} {n count : Nat} {s : MessageService},
    (∀ callee ∈ callees,
      floodConfig.checkMessage (floodRequest callee) "1001".toList = .ok (.ok callee)) →
    callees.Nodup → Flooded n count s → n + 100 * callees.length ≤ 1000 →
    count + 100 * callees.length ≤ senderOfflineQuota →
    (∀ callee ∈ callees, queueOf s.offlineMessages callee = []) →
    ∃ s', (floodAll callees n).foldl (step floodConfig) s = s' ∧
      Flooded (n + 100 * callees.length) (count + 100 * callees.length) s' ∧
      (∀ callee, (queueOf s'.offlineMessages callee).length =
        (queueOf s.offlineMessages callee).length + if callee ∈ callees then 100 else 0) ∧
      s'.deliveries = s.deliveries
  | [], n, count, s, _, _, h, _, _, _ => ⟨s, rfl, h, fun callee => by simp, rfl⟩
  | callee :: callees, n, count, s, hcheck, hnodup, h, hday, hquota, hempty => by
    rw [List.nodup_cons] at hnodup
    rw [List.length_cons] at hday hquota
    obtain ⟨s₁, hrun₁, h₁, hlength₁, hdeliveries₁⟩ := run_floodCalls (hcheck callee List.mem_cons_self)
      100 h (by omega) (by omega) (by rw [hempty callee List.mem_cons_self]; decide)
    have hempty₁ : ∀ callee' ∈ callees, queueOf s₁.offlineMessages callee' = [] := by
      intro callee' hmem
      have hne : callee' ≠ callee := fun he => hnodup.1 (he ▸ hmem)
      rw [← List.length_eq_zero_iff, hlength₁, if_neg hne, hempty callee' (List.mem_cons_of_mem _ hmem)]
      rfl
    obtain ⟨s₂, hrun₂, h₂, hlength₂, hdeliveries₂⟩ := run_floodAll
      (fun callee' hmem => hcheck callee' (List.mem_cons_of_mem _ hmem)) hnodup.2 h₁ (by omega)
      (by omega) hempty₁
    refine ⟨s₂, ?_, ?_, fun callee' => ?_, hdeliveries₂.trans hdeliveries₁⟩
    · rw [floodAll, List.foldl_append, hrun₁, hrun₂]
    · rw [List.length_cons, show n + 100 * (callees.length + 1) = n + 100 + 100 * callees.length by omega,
        show count + 100 * (callees.length + 1) = count + 100 + 100 * callees.length by omega]
      exact h₂
    · rw [hlength₂, hlength₁]
      by_cases he : callee' = callee
      · subst he
        rw [if_pos rfl, if_neg hnodup.1, if_pos List.mem_cons_self]
      · simp only [List.mem_cons, he, if_false, false_or, Nat.add_zero]

theorem checkMessage_flood : ∀ callee ∈ floodCallees,
    floodConfig.checkMessage (floodRequest callee) "1001".toList = .ok (.ok callee) := by
  decide +kernel

/-- The delivery takes the queue of 1002, which is full and holds messages of 1001 only. -/
theorem take_flood {s : MessageService} {n count : Nat} (h : Flooded n count s)
    (hdeliveries : s.deliveries = ∅)
    (hfull : (queueOf s.offlineMessages "1002".toList).length = maxOfflineMessages) :
    ∃ s' q, [MessageEvent.deliver 0 "1002".toList, floodDelivery].foldl (step floodConfig) s = s' ∧
      s'.deliveries.lookup 0 = some ⟨"1002".toList, .looking q⟩ ∧
      q.countP (sentBy "1001".toList) = maxOfflineMessages ∧ q.length = maxOfflineMessages ∧
      Flooded n (count - maxOfflineMessages) s' ∧ ∀ callee, queueOf s'.offlineMessages callee =
        if callee = "1002".toList then [] else queueOf s.offlineMessages callee := by
  let q := queueOf s.offlineMessages "1002".toList
  have hlive : q.filter (OfflineMessage.live 36000) = q :=
    List.filter_eq_self.mpr fun m _ => live_of_lt (by decide) m
  have hlooking : DeliveryPc.afterTake q = .looking q := by
    cases hq : q with
    | nil =>
      rw [show queueOf s.offlineMessages "1002".toList = [] from hq] at hfull
      cases hfull
    | cons m rest => rfl
  have hstart : s.step floodConfig (.deliver 0 "1002".toList) =
      s.setDelivery 0 ⟨"1002".toList, .starting⟩ := by
    unfold step
    simp only [hdeliveries, AList.lookup_empty]
  let s₀ := s.setDelivery 0 ⟨"1002".toList, .starting⟩
  let s₁ := (s₀.setQueues (s.offlineMessages.erase "1002".toList)).leave (expiredOf 36000 "1002".toList q)
  have htake : s₀.step floodConfig floodDelivery = s₁.setDelivery 0 ⟨"1002".toList, .looking q⟩ := by
    rw [floodDelivery, step_delivery (AList.lookup_insert _)]
    change s₁.setDelivery 0 ⟨_, .afterTake (q.filter (OfflineMessage.live 36000))⟩ = _
    rw [hlive, hlooking]
  -- what is taken counts for both tallies
  have htotal := tally_erase (fun _ => true) s.offlineMessages "1002".toList
  have hsender := tally_erase (sentBy "1001".toList) s.offlineMessages "1002".toList
  have hle := List.countP_le_length (p := sentBy "1001".toList) (l := q)
  have hpart : tally (sentBy "1001".toList) (s.offlineMessages.erase "1002".toList) ≤
      tally (fun _ => true) (s.offlineMessages.erase "1002".toList) :=
    (tally_true _).symm ▸ List.countP_le_length
  rw [h.total, show (queueOf s.offlineMessages "1002".toList).countP (fun _ => true) = maxOfflineMessages
    from (congrFun List.countP_true _).trans hfull] at htotal
  rw [h.sender] at hsender
  change q.length = _ at hfull
  change q.countP _ + _ = _ at hsender
  refine ⟨s₁.setDelivery 0 ⟨"1002".toList, .looking q⟩, q, ?_, AList.lookup_insert _, by omega, hfull,
    ⟨h.calls, h.rates, ?_, ?_⟩, fun callee => ?_⟩
  · rw [List.foldl_cons, hstart]
    exact htake
  · exact Nat.eq_sub_of_add_eq' htotal
  · change tally _ (s.offlineMessages.erase _) = _
    omega
  · exact queueOf_erase _ _ _

/-- The delivery, which finds no connection, writes back what it took. -/
theorem merge_flood {s : MessageService} {q : List OfflineMessage}
    (h : s.deliveries.lookup 0 = some ⟨"1002".toList, .looking q⟩) :
    ([floodDelivery, floodDelivery].foldl (step floodConfig) s).offlineMessages =
      s.offlineMessages.insert "1002".toList (mergeBack (queueOf s.offlineMessages "1002".toList) q) := by
  have hlooking : s.step floodConfig floodDelivery = s.setDelivery 0 ⟨"1002".toList, .merging q⟩ := by
    rw [floodDelivery, step_delivery h]
    rfl
  rw [List.foldl_cons, hlooking]
  change ((s.setDelivery 0 ⟨"1002".toList, .merging q⟩).step floodConfig floodDelivery).offlineMessages = _
  rw [floodDelivery, step_delivery (AList.lookup_insert _)]
  rfl

/-- **The quota of a sender is exceeded** by the messages that are written back. -/
theorem caps_exceeded :
    tally (sentBy "1001".toList) (run floodConfig floodEvents).offlineMessages = 600 ∧
      ¬ WithinCaps (run floodConfig floodEvents).offlineMessages := by
  have h₀ : Flooded 0 0 {} := ⟨fun _ _ => rfl, nofun, rfl, rfl⟩
  obtain ⟨s₁, hrun₁, h₁, hlength₁, hdeliveries₁⟩ := run_floodAll
    (fun callee hmem => checkMessage_flood callee (List.mem_of_mem_take (i := 5) hmem))
    (by decide) h₀ (by decide) (by decide) (fun _ _ => rfl)
  obtain ⟨s₂, q, hrun₂, hheld, hcount, hfull, h₂, hqueueOf⟩ := take_flood h₁ hdeliveries₁
    (by rw [hlength₁]; decide)
  have hempty : queueOf s₂.offlineMessages "1007".toList = [] := by
    rw [hqueueOf, if_neg (by decide), ← List.length_eq_zero_iff, hlength₁]
    decide
  obtain ⟨s₃, hrun₃, h₃, hlength₃, hdeliveries₃⟩ := run_floodAll
    (fun callee hmem => checkMessage_flood callee (List.mem_of_mem_drop (i := 5) hmem))
    (by decide) h₂ (by decide) (by decide) (fun callee hmem => List.mem_singleton.mp hmem ▸ hempty)
  have hqueue : queueOf s₃.offlineMessages "1002".toList = [] := by
    rw [← List.length_eq_zero_iff, hlength₃, hqueueOf, if_pos rfl]
    decide
  have hrun : run floodConfig floodEvents = [floodDelivery, floodDelivery].foldl (step floodConfig) s₃ := by
    unfold run floodEvents
    rw [show 0 + 100 * (floodCallees.take 5).length = 500 from rfl] at hrun₃
    rw [List.foldl_append, List.foldl_append, List.foldl_append, hrun₁, hrun₂, hrun₃]
  have htally : tally (sentBy "1001".toList) (run floodConfig floodEvents).offlineMessages = 600 := by
    rw [hrun, merge_flood (hdeliveries₃ ▸ hheld), hqueue]
    have h := tally_insert (sentBy "1001".toList) s₃.offlineMessages "1002".toList (mergeBack [] q)
    have hmerge : mergeBack [] q = q := by
      unfold mergeBack
      simp only [List.append_nil, hfull, Nat.sub_self, List.drop_zero]
    rw [hqueue, h₃.sender, hmerge, hcount, List.countP_nil, Nat.zero_add] at h
    rw [hmerge]
    exact h
  refine ⟨htally, fun h => ?_⟩
  have := h.sender "1001".toList
  rw [htally] at this
  exact absurd this (by decide)

end MessageService

end Minghe.Sip
