import Minghe.Sip.Delivered
import Minghe.Sip.Queues

/-!
# The order of an offline queue

`store_offline_message` puts a message at the end of a queue, a delivery takes the whole queue and
sends from its head, and `merge_back` puts what is left in front of what has come in since. That is
the order of arrival as long as only one delivery of an extension is under way. With two of them the
second takes newer messages than the first, and if it writes them back last, they come in front.

* `Before log m m'`: `m` was stored before `m'`; `log` are the calls whose messages were stored.
* `InOrder log l`: `l` lists messages that were stored, older before newer.
* `InFront log pending queue` is what `merge_back` relies on: what it keeps of `pending` was stored
  before everything in `queue`.
* `stored_nodup`: a call stores at most one message, so that `Before` is an order.
* `arrival_order_iff`: in every state of a run every queue is in the order in which its messages were
  stored, iff each time messages are written back they are older than those in the queue.
-/

namespace Minghe.Sip

open Minghe.Lib
open scoped List

namespace MessageService

/-- The message of the first was stored before that of the second. -/
def Before (log : List Nat) (m m' : OfflineMessage) : Prop := [m.origin, m'.origin] <+ log

/-- Messages that were stored, in the order in which they were stored. -/
def InOrder (log : List Nat) (l : List OfflineMessage) : Prop :=
  (∀ m ∈ l, m.origin ∈ log) ∧ l.Pairwise (Before log)

/-- The messages that `merge_back` keeps of those it writes back were stored before those in the
queue. -/
def InFront (log : List Nat) (pending queue : List OfflineMessage) : Prop :=
  ∀ p ∈ pending.drop ((pending ++ queue).length - maxOfflineMessages), ∀ q ∈ queue, Before log p q

instance (log : List Nat) (m m' : OfflineMessage) : Decidable (Before log m m') :=
  inferInstanceAs (Decidable (_ <+ _))

instance (log : List Nat) (l : List OfflineMessage) : Decidable (InOrder log l) :=
  inferInstanceAs (Decidable (_ ∧ _))

theorem inOrder_nil (log : List Nat) : InOrder log [] := ⟨nofun, .nil⟩

theorem InOrder.sublist {log : List Nat} {l l' : List OfflineMessage} (h : InOrder log l)
    (hl : l' <+ l) : InOrder log l' :=
  ⟨fun m hm => h.1 m (hl.subset hm), h.2.sublist hl⟩

/-- What was in order stays in order when more messages are stored. -/
theorem InOrder.mono {log log' : List Nat} {l : List OfflineMessage} (h : InOrder log l)
    (hlog : log <+ log') : InOrder log' l :=
  ⟨fun m hm => hlog.subset (h.1 m hm), h.2.imp fun hb => List.Sublist.trans hb hlog⟩

/-- A message that is stored now goes to the end. -/
theorem InOrder.push {log : List Nat} {l : List OfflineMessage} (h : InOrder log l)
    (m : OfflineMessage) : InOrder (log ++ [m.origin]) (l ++ [m]) := by
  have hmono := h.mono (List.sublist_append_left log [m.origin])
  refine ⟨fun m' hm' => ?_, List.pairwise_append.mpr ⟨hmono.2, List.pairwise_singleton _ _, ?_⟩⟩
  · rcases List.mem_append.mp hm' with hm' | hm'
    · exact hmono.1 m' hm'
    · rw [List.mem_singleton.mp hm']
      exact List.mem_append_right _ (List.mem_singleton_self _)
  · intro m' hm' m'' hm''
    rw [List.mem_singleton.mp hm'']
    exact (List.singleton_sublist.mpr (h.1 m' hm')).append (List.Sublist.refl [m.origin])

theorem inOrder_append {log : List Nat} {l l' : List OfflineMessage} :
    InOrder log (l ++ l') ↔
      InOrder log l ∧ InOrder log l' ∧ ∀ m ∈ l, ∀ m' ∈ l', Before log m m' := by
  unfold InOrder
  rw [List.pairwise_append, List.forall_mem_append]
  tauto

/-- **What `merge_back` relies on**: the queue it makes is in order iff what it puts in front is
older. -/
theorem inOrder_mergeBack {log : List Nat} {queue pending : List OfflineMessage}
    (hq : InOrder log queue) (hp : InOrder log pending) :
    InOrder log (mergeBack queue pending) ↔ InFront log pending queue := by
  unfold mergeBack InFront
  dsimp only
  rw [List.drop_append]
  set k := (pending ++ queue).length - maxOfflineMessages
  have hpk := hp.sublist (List.drop_sublist k pending)
  have hqk := hq.sublist (List.drop_sublist (k - pending.length) queue)
  rw [inOrder_append]
  constructor
  · rintro ⟨-, -, hcross⟩ p hp' q hq'
    refine hcross p hp' q ?_
    -- something is kept of `pending`, so nothing is dropped of the queue
    have hlt : k < pending.length := by
      by_contra hle
      rw [List.drop_eq_nil_of_le (Nat.le_of_not_lt hle)] at hp'
      cases hp'
    rwa [Nat.sub_eq_zero_of_le hlt.le, List.drop_zero]
  · exact fun h => ⟨hpk, hqk, fun p hp' q hq' => h p hp' q (List.mem_of_mem_drop hq')⟩

theorem InOrder.pruneExpired {log : List Nat} {map : OfflineQueues} {callee : Str}
    (h : InOrder log (queueOf map callee)) (now : Nat) :
    InOrder log (queueOf (pruneExpired now map) callee) := by
  rw [queueOf_pruneExpired]
  exact h.sublist List.filter_sublist

/-- A queue with a message more. -/
theorem InOrder.pushMessage {log : List Nat} {queue : List OfflineMessage} (h : InOrder log queue)
    (m : OfflineMessage) : InOrder (log ++ [m.origin]) (pushMessage queue m) := by
  unfold Minghe.Sip.pushMessage
  refine InOrder.push ?_ m
  split
  · exact h.sublist (List.tail_sublist queue)
  · exact h

/-- **`store_offline_message` keeps the order.** -/
theorem inOrder_storeMessage {log : List Nat} {map : OfflineQueues}
    (h : ∀ callee, InOrder log (queueOf map callee)) (callee callee' : Str) (m : OfflineMessage) :
    InOrder (log ++ if (storeMessage callee m map).1 = .stored then [m.origin] else [])
      (queueOf (storeMessage callee m map).2 callee') := by
  have hprune := (h callee').pruneExpired m.receivedAt
  unfold storeMessage
  dsimp only
  split
  · rw [if_neg (by simp), List.append_nil]
    exact hprune
  split
  · rw [if_neg (by simp), List.append_nil]
    exact hprune
  rw [if_pos rfl, queueOf_insert]
  split
  · rename_i he
    subst he
    exact hprune.pushMessage m
  · exact hprune.mono (List.sublist_append_left _ _)

/-! ## The invariant -/

/-- The queues, and what the deliveries hold, are in order. -/
structure Ordered (log : List Nat) (s : MessageService) : Prop where
  queued : ∀ callee, InOrder log (queueOf s.offlineMessages callee)
  held : ∀ id, InOrder log (s.holding id)

theorem ordered_empty : Ordered [] {} :=
  ⟨fun _ => inOrder_nil [], fun _ => inOrder_nil []⟩

/-- **A step keeps the order** unless it writes back newer messages. -/
theorem Ordered.step {cfg : MessageConfig} {log : List Nat} {s : MessageService} (h : Ordered log s)
    {event : MessageEvent}
    (hfront : ∀ extension pending, writtenBack s event = some (extension, pending) →
      InFront log pending (queueOf s.offlineMessages extension)) :
    Ordered (log ++ (storedBy s event).toList) (s.step cfg event) := by
  cases queueStep cfg s event with
  | stay queues stored held =>
    rw [stored, Option.toList_none, List.append_nil]
    refine ⟨fun callee => ?_, fun id => (h.held id).sublist (held id).sublist⟩
    rw [queues]
    exact h.queued callee
  | store id c now call pc queues stored held =>
    have hlog : (storedBy s event).toList =
        if (storeMessage c.callee (messageOf id c now) s.offlineMessages).1 = .stored then
          [(messageOf id c now).origin] else [] := by
      rw [stored]
      split <;> rfl
    rw [hlog]
    refine ⟨fun callee => ?_, fun id' => ?_⟩
    · rw [queues]
      exact inOrder_storeMessage h.queued c.callee callee _
    · rw [held]
      exact (h.held id').mono (List.sublist_append_left _ _)
  | take id extension now queues stored held =>
    rw [stored, Option.toList_none, List.append_nil]
    refine ⟨fun callee => ?_, fun id' => ?_⟩
    · rw [queues, queueOf_erase]
      split
      · exact inOrder_nil log
      · exact h.queued callee
    · rw [held]
      split
      · exact (h.queued extension).sublist List.filter_sublist
      · exact h.held id'
  | merge extension pending back queues stored held =>
    rw [stored, Option.toList_none, List.append_nil]
    refine ⟨fun callee => ?_, fun id => (h.held id).sublist (held id).sublist⟩
    rw [queues, queueOf_insert]
    split
    · obtain ⟨-, -, id, hid⟩ := writtenBack_spec cfg back
      exact (inOrder_mergeBack (h.queued extension) (hid ▸ h.held id)).mpr (hfront extension pending back)
    · exact h.queued callee

/-! ## A call stores once -/

/-- A call that stores had not answered, and answers. -/
theorem storedBy_status (cfg : MessageConfig) {s : MessageService} {event : MessageEvent} {id : Nat}
    (h : storedBy s event = some id) :
    (∃ c, s.calls.lookup id = some c ∧ c.status = none) ∧
      ∃ c, (s.step cfg event).calls.lookup id = some c ∧ c.status ≠ none := by
  unfold storedBy at h
  split at h
  · rename_i id' env branch taken
    split at h
    · rename_i c hl
      split at h
      · rename_i now hpc
        split at h
        · rename_i hstored
          cases h
          refine ⟨⟨c, hl, by rw [Call.status, hpc]⟩, c.answer 200 "OK".toList, ?_, nofun⟩
          unfold step
          simp only [hl]
          unfold callStep queueCall
          simp only [hpc]
          rw [show (⟨c.fromExt, c.text, now, id⟩ : OfflineMessage) = messageOf id c now from rfl,
            if_pos hstored]
          exact AList.lookup_insert _
        · cases h
      · cases h
    · cases h
  · cases h

/-- The calls that have stored have answered. -/
theorem answered_of_stored {cfg : MessageConfig} (events : List MessageEvent) :
    ∀ id ∈ stored cfg events, ∃ c, (run cfg events).calls.lookup id = some c ∧ c.status ≠ none := by
  induction events using List.reverseRecOn with
  | nil => nofun
  | append_singleton events event ih =>
    intro id hid
    rw [stored_append, List.mem_append, Option.mem_toList] at hid
    rw [run_append]
    rcases hid with hid | hid
    · obtain ⟨c, hl, hc⟩ := ih id hid
      exact ⟨c, step_answered hl hc event, hc⟩
    · exact (storedBy_status cfg hid).2

/-- **A call stores at most once**, so `Before` is an order. -/
theorem stored_nodup (cfg : MessageConfig) (events : List MessageEvent) : (stored cfg events).Nodup := by
  induction events using List.reverseRecOn with
  | nil => exact List.nodup_nil
  | append_singleton events event ih =>
    rw [stored_append]
    cases h : storedBy (run cfg events) event with
    | none => rwa [Option.toList_none, List.append_nil]
    | some id =>
      rw [Option.toList_some, List.nodup_append_comm, List.singleton_append, List.nodup_cons]
      refine ⟨fun hid => ?_, ih⟩
      obtain ⟨c, hl, hc⟩ := answered_of_stored events id hid
      obtain ⟨c', hl', hc'⟩ := (storedBy_status cfg h).1
      rw [hl] at hl'
      cases hl'
      exact hc hc'

/-! ## Runs -/

/-- The events of a run write back only messages that are older than those in the queue. -/
def WritesBackInFront (cfg : MessageConfig) (events : List MessageEvent) : Prop :=
  ∀ done event, done ++ [event] <+: events → ∀ extension pending,
    writtenBack (run cfg done) event = some (extension, pending) →
    InFront (stored cfg done) pending (queueOf (run cfg done).offlineMessages extension)

/-- **The run keeps the order.** -/
theorem run_ordered {cfg : MessageConfig} (events : List MessageEvent)
    (h : WritesBackInFront cfg events) : Ordered (stored cfg events) (run cfg events) := by
  induction events using List.reverseRecOn with
  | nil => exact ordered_empty
  | append_singleton events event ih =>
    rw [stored_append, run_append]
    exact (ih fun done e hdone => h done e (hdone.trans (List.prefix_append _ _))).step
      (h events event (List.prefix_refl _))

/-- **When offline queues stay in the order of arrival.** Every call stores at most one message. In
every state that a run reaches, every queue lists its messages in the order in which they were stored,
iff each time messages are written back, those that are kept of them were stored before all messages
that are in the queue then. -/
theorem arrival_order_iff (cfg : MessageConfig) (events : List MessageEvent) :
    (stored cfg events).Nodup ∧
      ((∀ done, done <+: events → ∀ callee,
          InOrder (stored cfg done) (queueOf (run cfg done).offlineMessages callee)) ↔
        WritesBackInFront cfg events) := by
  refine ⟨stored_nodup cfg events, fun h => ?_, fun h done hdone callee => ?_⟩
  · induction events using List.reverseRecOn with
    | nil => exact fun done event hdone => absurd (List.prefix_nil.mp hdone) (by simp)
    | append_singleton events last ih =>
      have hall := ih fun done hdone => h done (hdone.trans (List.prefix_append _ _))
      intro done event hdone extension pending hback
      rcases List.prefix_concat_iff.mp hdone with heq | hdone
      · -- the last event: what it makes is in order, and so was what it started from
        obtain ⟨rfl, hevent⟩ := List.append_inj' heq rfl
        cases hevent
        have hordered := run_ordered done hall
        obtain ⟨hqueues, hstored, id, hid⟩ := writtenBack_spec cfg hback
        have hafter := h _ (List.prefix_refl _) extension
        rw [stored_append, hstored, Option.toList_none, List.append_nil, run_append, hqueues,
          queueOf_insert, if_pos rfl] at hafter
        exact (inOrder_mergeBack (hordered.queued extension) (hid ▸ hordered.held id)).mp hafter
      · exact hall done event hdone extension pending hback
  · exact (run_ordered done fun done' event hdone' => h done' event (hdone'.trans hdone)).queued callee

/-- Two deliveries for 1002, who has no connection: the first takes message 0 and the second message 1,
and the second writes back last. -/
theorem arrival_order_reversed :
    let cfg : MessageConfig := ⟨"example.com".toList, 1000, 2000, false⟩
    let text := "MESSAGE sip:1002@example.com SIP/2.0\r\n\r\nhi".toList
    let bytes : Vector UInt8 8 := Vector.replicate 8 0
    let store (id : Nat) : List MessageEvent :=
      .submit id text "1001".toList bytes :: List.replicate 3 (.call id { now := 1000 } bytes false)
    let deliver (id steps : Nat) : List MessageEvent :=
      List.replicate steps (.delivery id { now := 1000 } bytes false)
    let events := store 0 ++ .deliver 0 "1002".toList :: deliver 0 1 ++
      store 1 ++ .deliver 1 "1002".toList :: deliver 1 1 ++ deliver 0 2 ++ deliver 1 2
    stored cfg events = [0, 1] ∧
      (queueOf (run cfg events).offlineMessages "1002".toList).map OfflineMessage.origin = [1, 0] ∧
      ¬ InOrder (stored cfg events) (queueOf (run cfg events).offlineMessages "1002".toList) := by
  decide +kernel

end MessageService

end Minghe.Sip
