import Minghe.Sip.Places
import Minghe.Sip.Routing

/-!
# Messages that come in while the callee registers

`handle_message` asks `get_outbound` under one lock, and stores under another. In between the callee may
register, and the delivery that is spawned for it take the queue: what is stored then waits for the next
REGISTER.

* `MessageServer`: the message service, with the handling of REGISTERs by the server (`server.rs`) in its
  steps: `handle_register`, the writer, the response, and the delivery behind it. Every send succeeds.
* `Awaited`: a delivery is to come that takes the queue of an extension.
* `NoneStranded`: what is expected of a state.
* `Timely`: a step that puts nothing into a queue that nobody is going to look at, and discards nothing.
* `none_stranded`: in a run whose steps are all timely no state strands a message: when all is over, sinks
  have taken all of them.
* `message_stranded`: a message is stored when the delivery of the REGISTER has looked already, and waits
  for the next one.
-/

namespace Minghe.Sip

open Minghe.Lib

/-- Where the handling of a REGISTER stands. -/
inductive RegisterPc where
  /-- Before `handle_register`. -/
  | received
  /-- Before `register_writer`. -/
  | writing (extension : Str)
  /-- Before `unregister_writer`. -/
  | erasing (extension : Str)
  /-- At the send of the response, with the extension in `pending_delivery`. -/
  | responding (pendingDelivery : Option Str)
  | done
  deriving DecidableEq, Repr

/-- The handling of a REGISTER, on a connection with a channel if it came over TLS. -/
structure Registering where
  req : Register
  channel : Nat
  pc : RegisterPc

/-- The message service, the tables that it shares with the server, the clock, and the REGISTERs that are
handled. -/
structure MessageServer where
  service : MessageService := {}
  writers : Table Str ConnectionSink := ∅
  registrar : RegistrarService := {}
  now : Nat := 0
  registers : Table Nat Registering := ∅

/-- What happens: time passes, a call of the service starts or goes on, or the handling of a REGISTER. -/
inductive MessageServerEvent where
  | wait (seconds : Nat)
  | submit (id : Nat) (text fromExt : Str) (tag : Vector UInt8 8)
  | call (id : Nat) (branch : Vector UInt8 8)
  | delivery (id : Nat) (branch : Vector UInt8 8)
  | register (id : Nat) (req : Register) (channel : Nat)
  | proceed (id : Nat)

deriving instance DecidableEq for DeliveryPc

namespace MessageServer

/-- What a step of the message service sees of the server. -/
def env (s : MessageServer) : Env := ⟨s.writers, s.registrar, s.now⟩

/-- The handling of a REGISTER moves on. -/
def setRegister (id : Nat) (t : Registering) (pc : RegisterPc) (s : MessageServer) : MessageServer :=
  { s with registers := s.registers.insert id { t with pc } }

variable (cfg : MessageConfig) (server : ServerConfig) (md5 : List UInt8 → Vector UInt8 16)

/-- Where the REGISTER branch of `process_sip_message` goes from the response. -/
def afterRegister (req : Register) (response : Checked Str) : RegisterPc :=
  match response.bind fun response => ServerState.registerEffect response req.text with
  | .error _ => .done
  | .ok none => .responding none
  | .ok (some (.unbind extension)) => .erasing extension
  | .ok (some (.bind extension)) =>
    if req.transport = .tls then .writing extension else .responding (some extension)

/-- The next step of the handling of a REGISTER. -/
def registerStep (id : Nat) (t : Registering) (s : MessageServer) : MessageServer :=
  match t.pc with
  | .received =>
    let req := { t.req with now := s.now }
    let (response, registrar) := s.registrar.handleRegister server.registrar md5 req
    { s with registrar }.setRegister id t (afterRegister req response)
  | .writing extension =>
    { s with writers := s.writers.insert extension (.stream t.channel) }.setRegister id t
      (.responding (some extension))
  | .erasing extension =>
    { s with writers := s.writers.erase extension }.setRegister id t (.responding none)
  | .responding (some extension) =>
    { s with service := s.service.step cfg (.deliver id extension) }.setRegister id t .done
  | .responding none => s.setRegister id t .done
  | .done => s

/-- One step. A datagram is received only if there is a UDP socket. -/
def step (s : MessageServer) : MessageServerEvent → MessageServer
  | .wait seconds => { s with now := s.now + seconds }
  | .submit id text fromExt tag => { s with service := s.service.step cfg (.submit id text fromExt tag) }
  | .call id branch => { s with service := s.service.step cfg (.call id s.env branch true) }
  | .delivery id branch => { s with service := s.service.step cfg (.delivery id s.env branch true) }
  | .register id req channel =>
    match s.registers.lookup id with
    | some _ => s
    | none =>
      if ServerState.isRegister req.text ∧ (req.transport = .udp → server.udp = true) then
        s.setRegister id ⟨req, channel, .received⟩ .received
      else s
  | .proceed id =>
    match s.registers.lookup id with
    | none => s
    | some t => s.registerStep cfg server md5 id t

/-- A run from the start of the server. -/
def run (events : List MessageServerEvent) : MessageServer := events.foldl (step cfg server md5) {}

theorem run_append (events : List MessageServerEvent) (event : MessageServerEvent) :
    run cfg server md5 (events ++ [event]) = (run cfg server md5 events).step cfg server md5 event :=
  List.foldl_concat ..

/-! ## What is expected -/

/-- `get_outbound` has a sink for the extension. -/
def Reachable (extension : Str) (s : MessageServer) : Prop :=
  (cfg.getOutbound s.env extension).isSome = true

/-- A delivery is to come that takes the queue of the extension: it is there and has not done so yet, or
is spawned at the end of a REGISTER. -/
def Awaited (extension : Str) (s : MessageServer) : Prop :=
  (∃ e ∈ s.registers.entries,
    e.2.pc = .writing extension ∨ e.2.pc = .responding (some extension)) ∨
  ∃ e ∈ s.service.deliveries.entries, e.2.extension = extension ∧ e.2.pc = .starting

/-- No call for the callee, no delivery and no REGISTER is under way. -/
structure Finished (callee : Str) (s : MessageServer) : Prop where
  calls : ∀ id c, s.service.calls.lookup id = some c → c.callee = callee →
    c.status ≠ none ∨ c.pc = .panicked
  deliveries : ∀ id d, s.service.deliveries.lookup id = some d → d.extension = callee →
    d.pc = .done ∨ d.pc = .panicked
  registers : ∀ id t, s.registers.lookup id = some t → t.pc = .done

/-- **No message is stranded**: when all is finished and there is a sink for the callee, its queue is empty,
and every message for it that was answered with 200 has been taken by a sink of the callee, once. -/
def NoneStranded (callee : Str) (s : MessageServer) : Prop :=
  Finished callee s → Reachable cfg callee s →
    queueOf s.service.offlineMessages callee = [] ∧
    ∀ id c, s.service.calls.lookup id = some c → c.callee = callee → c.status = some 200 →
      ∃ t, s.service.takenOf id = [t] ∧ t.callee = callee ∧
        s.service.locate id = [.handed callee t.sink]

/-! ## The condition -/

variable {cfg server md5}

/-- What a step does in the message service. -/
def messageEvent (s : MessageServer) : MessageServerEvent → Option MessageEvent
  | .submit id text fromExt tag => some (.submit id text fromExt tag)
  | .call id branch => some (.call id s.env branch true)
  | .delivery id branch => some (.delivery id s.env branch true)
  | .proceed id =>
    match s.registers.lookup id with
    | some ⟨_, _, .responding (some extension)⟩ => some (.deliver id extension)
    | _ => none
  | .wait _ | .register .. => none

end MessageServer

namespace MessageService

/-- The callee into whose queue an event puts messages: it stores one, or writes some back. -/
def putsInto (s : MessageService) (event : MessageEvent) : Option Str :=
  match storedBy s event with
  | some id => (s.calls.lookup id).map Call.callee
  | none => (writtenBack s event).map Prod.fst

/-- The event discards no message for the callee: none is too old where they are looked through, and a
queue that grows has room. -/
def KeepsAll (callee : Str) (s : MessageService) : MessageEvent → Prop
  | .call id _ _ _ =>
    match s.calls.lookup id with
    | some ⟨_, _, _, callee', .queueing now⟩ =>
      (∀ m ∈ queueOf s.offlineMessages callee, m.live now = true) ∧
        (callee' = callee → (queueOf s.offlineMessages callee).length < maxOfflineMessages)
    | _ => True
  | .delivery id env _ _ =>
    match s.deliveries.lookup id with
    | some ⟨extension, .starting⟩ =>
      extension = callee → ∀ m ∈ queueOf s.offlineMessages callee, m.live env.now = true
    | some ⟨extension, .merging pending⟩ =>
      extension = callee → (pending ++ queueOf s.offlineMessages callee).length ≤ maxOfflineMessages
    | _ => True
  | .submit .. | .deliver .. => True

end MessageService

namespace MessageServer

open MessageService (queueStep putsInto KeepsAll)

section

variable (cfg : MessageConfig) (server : ServerConfig) (md5 : List UInt8 → Vector UInt8 16)

/-- A REGISTER that is accepted for the callee names it in its `To`, so that a delivery is spawned. -/
def Spawns (callee : Str) (s : MessageServer) : MessageServerEvent → Prop
  | .proceed id =>
    match s.registers.lookup id with
    | some ⟨req, _, .received⟩ =>
      s.registrar.accepts server.registrar md5 { req with now := s.now } = some callee →
        ServerState.registered server md5 s.registrar { req with now := s.now } = some (.bind callee)
    | _ => True
  | _ => True

/-- **Nobody is missed.** The step puts messages into the queue of the callee only while there is no sink
for it or a delivery is to come, and discards none; a REGISTER of the callee spawns its delivery. -/
structure Timely (callee : Str) (s : MessageServer) (event : MessageServerEvent) : Prop where
  watched : ∀ m ∈ messageEvent s event, putsInto s.service m = some callee →
    ¬ Reachable cfg callee s ∨ Awaited callee s
  kept : ∀ m ∈ messageEvent s event, KeepsAll callee s.service m
  spawns : Spawns server md5 callee s event

instance (callee : Str) (s : MessageService) (event : MessageEvent) : Decidable (KeepsAll callee s event) := by
  unfold KeepsAll; split <;> (try split) <;> infer_instance

instance (callee : Str) (s : MessageServer) (event : MessageServerEvent) :
    Decidable (Spawns server md5 callee s event) := by
  unfold Spawns; split <;> (try split) <;> infer_instance

instance (extension : Str) (s : MessageServer) : Decidable (Reachable cfg extension s) :=
  inferInstanceAs (Decidable (_ = true))

instance (extension : Str) (s : MessageServer) : Decidable (Awaited extension s) :=
  inferInstanceAs (Decidable (_ ∨ _))

instance (callee : Str) (s : MessageServer) (event : MessageServerEvent) :
    Decidable (Timely cfg server md5 callee s event) :=
  decidable_of_iff ((∀ m ∈ messageEvent s event, putsInto s.service m = some callee →
      ¬ Reachable cfg callee s ∨ Awaited callee s) ∧
    (∀ m ∈ messageEvent s event, KeepsAll callee s.service m) ∧ Spawns server md5 callee s event)
    ⟨fun h => ⟨h.1, h.2.1, h.2.2⟩, fun h => ⟨h.watched, h.kept, h.spawns⟩⟩

end

variable {cfg server md5}

/-! ## One step -/

/-- A step, as the message service sees it. -/
theorem step_service (s : MessageServer) (event : MessageServerEvent) :
    (s.step cfg server md5 event).service =
      match messageEvent s event with
      | some m => s.service.step cfg m
      | none => s.service := by
  cases event with
  | wait seconds => rfl
  | submit id text fromExt tag => rfl
  | call id branch => rfl
  | delivery id branch => rfl
  | register id req channel =>
    unfold step messageEvent
    dsimp only
    split
    · rfl
    · split <;> rfl
  | proceed id =>
    unfold step messageEvent
    dsimp only
    cases s.registers.lookup id with
    | none => rfl
    | some t =>
      obtain ⟨req, channel, pc⟩ := t
      cases pc with
      | responding pendingDelivery => cases pendingDelivery <;> rfl
      | _ => rfl

theorem awaited_iff {extension : Str} {s : MessageServer} : Awaited extension s ↔
    (∃ id t, s.registers.lookup id = some t ∧
      (t.pc = .writing extension ∨ t.pc = .responding (some extension))) ∨
    ∃ id d, s.service.deliveries.lookup id = some d ∧ d.extension = extension ∧ d.pc = .starting := by
  refine or_congr ⟨?_, ?_⟩ ⟨?_, ?_⟩
  · rintro ⟨e, he, hpc⟩
    exact ⟨e.1, e.2, (List.mem_dlookup_iff s.registers.nodupKeys).mpr he, hpc⟩
  · rintro ⟨id, t, ht, hpc⟩
    exact ⟨⟨id, t⟩, (List.mem_dlookup_iff s.registers.nodupKeys).mp ht, hpc⟩
  · rintro ⟨e, he, hpc⟩
    exact ⟨e.1, e.2, (List.mem_dlookup_iff s.service.deliveries.nodupKeys).mpr he, hpc⟩
  · rintro ⟨id, d, hd, hpc⟩
    exact ⟨⟨id, d⟩, (List.mem_dlookup_iff s.service.deliveries.nodupKeys).mp hd, hpc⟩

theorem storeMessage_refused {callee : Str} {m : OfflineMessage} {map : OfflineQueues}
    (h : (storeMessage callee m map).1 ≠ .stored) :
    (storeMessage callee m map).2 = pruneExpired m.receivedAt map := by
  unfold storeMessage at h ⊢
  dsimp only at h ⊢
  split
  · rfl
  rename_i hquota
  rw [if_neg hquota] at h
  split
  · rfl
  · rename_i hfull
    rw [if_neg hfull] at h
    exact absurd rfl h

/-- What is in a queue was there before, or is put there. -/
theorem queue_step {s : MessageService} {event : MessageEvent} {callee : Str}
    (h : queueOf (s.step cfg event).offlineMessages callee ≠ []) :
    queueOf s.offlineMessages callee ≠ [] ∨ putsInto s event = some callee := by
  cases queueStep cfg s event with
  | stay queues => exact .inl (queues ▸ h)
  | store id c now call pc queues stored =>
    by_cases hstored : c.callee = callee ∧
        (storeMessage c.callee (MessageService.messageOf id c now) s.offlineMessages).1 = .stored
    · right
      unfold putsInto
      rw [stored, if_pos hstored.2]
      dsimp only
      rw [call, Option.map_some, hstored.1]
    · left
      rintro hempty
      rw [queues] at h
      obtain ⟨m, hm⟩ := List.exists_mem_of_ne_nil _ h
      by_cases hcallee : c.callee = callee
      · rw [storeMessage_refused fun hs => hstored ⟨hcallee, hs⟩, MessageService.queueOf_pruneExpired,
          hempty] at hm
        cases hm
      · rcases MessageService.mem_storeMessage hm with hm | ⟨-, he⟩
        · rw [hempty] at hm
          cases hm
        · exact hcallee he.symm
  | take id extension now queues =>
    left
    rintro hempty
    rw [queues, MessageService.queueOf_erase] at h
    split at h
    · exact h rfl
    · exact h hempty
  | merge extension pending back queues stored =>
    by_cases hcallee : callee = extension
    · right
      unfold putsInto
      rw [stored, back, hcallee]
      rfl
    · left
      rwa [queues, MessageService.queueOf_insert, if_neg hcallee] at h

/-- Each delivery comes from a REGISTER that has been handled. -/
def Spawned (s : MessageServer) : Prop :=
  ∀ id d, s.service.deliveries.lookup id = some d → ∃ t, s.registers.lookup id = some t ∧ t.pc = .done

/-- A step of a call leaves the deliveries. -/
theorem callStep_deliveries (s : MessageService) (id : Nat) (c : Call) (env : Env)
    (branch : Vector UInt8 8) (taken : Bool) :
    (s.callStep cfg id c env branch taken).deliveries = s.deliveries := by
  unfold MessageService.callStep MessageService.queueCall
  split
  · split <;> rfl
  · dsimp only
    split <;> rfl
  · dsimp only
    split <;> rfl
  · dsimp only
    split <;> rfl
  · dsimp only
    split <;> rfl
  · rfl
  · rfl

/-- A delivery that takes a step has taken its queue then. -/
theorem deliveryStep_deliveries (cfg : MessageConfig) (s : MessageService) {id : Nat} {d : Delivery}
    (h : s.deliveries.lookup id = some d) (env : Env) (branch : Vector UInt8 8) (taken : Bool) :
    ∃ pc, pc ≠ .starting ∧ ∀ id', (s.deliveryStep cfg id d env branch taken).deliveries.lookup id' =
      if id' = id then some { d with pc } else s.deliveries.lookup id' := by
  have hset : ∀ {t : MessageService} {pc : DeliveryPc}, t.deliveries = s.deliveries → pc ≠ .starting →
      ∃ pc', pc' ≠ .starting ∧ ∀ id', (t.setDelivery id { d with pc := pc }).deliveries.lookup id' =
        if id' = id then some { d with pc := pc' } else s.deliveries.lookup id' :=
    fun hs hpc => ⟨_, hpc, fun id' => hs ▸ Table.lookup_insert_eq ..⟩
  have hstay : d.pc ≠ .starting → ∃ pc, pc ≠ .starting ∧ ∀ id', s.deliveries.lookup id' =
      if id' = id then some { d with pc } else s.deliveries.lookup id' := by
    refine fun hpc => ⟨d.pc, hpc, fun id' => ?_⟩
    split
    · rename_i he
      rw [he, h]
    · rfl
  unfold MessageService.deliveryStep
  cases hpc : d.pc with
  | starting =>
    refine hset rfl ?_
    cases (queueOf s.offlineMessages d.extension).filter (OfflineMessage.live env.now) <;> exact nofun
  | looking pending =>
    dsimp only
    split
    · exact hset rfl nofun
    · exact hset rfl nofun
  | targeting sink pending => exact hset rfl nofun
  | sending sink targetUri pending =>
    cases pending with
    | nil => exact hset rfl nofun
    | cons m rest =>
      dsimp only
      split
      · exact hset rfl nofun
      · split
        · exact hset (t := s.transmit _) rfl (nofun : DeliveryPc.sending sink targetUri rest ≠ .starting)
        · exact hset rfl nofun
  | merging pending => exact hset rfl nofun
  | done => exact hstay (by rw [hpc]; exact nofun)
  | panicked => exact hstay (by rw [hpc]; exact nofun)

/-- All that a step does to the deliveries: one moves on, or is spawned. -/
inductive DeliveriesStep (s : MessageService) (event : MessageEvent) (s' : MessageService) : Prop
  | stay (deliveries : s'.deliveries = s.deliveries)
  | moved (id : Nat) (d : Delivery) (pc : DeliveryPc) (running : s.deliveries.lookup id = some d)
      (taken : pc ≠ .starting)
      (queue : d.pc = .starting → queueOf s'.offlineMessages d.extension = [])
      (deliveries : ∀ id', s'.deliveries.lookup id' =
        if id' = id then some { d with pc } else s.deliveries.lookup id')
  | spawned (id : Nat) (extension : Str) (event_eq : event = .deliver id extension)
      (fresh : s.deliveries.lookup id = none)
      (deliveries : ∀ id', s'.deliveries.lookup id' =
        if id' = id then some ⟨extension, .starting⟩ else s.deliveries.lookup id')

theorem deliveriesStep (cfg : MessageConfig) (s : MessageService) (event : MessageEvent) :
    DeliveriesStep s event (s.step cfg event) := by
  cases event with
  | submit id text fromExt tag =>
    refine .stay ?_
    unfold MessageService.step MessageService.submit
    dsimp only
    split
    · split <;> rfl
    · rfl
  | call id env branch taken =>
    refine .stay ?_
    unfold MessageService.step
    dsimp only
    split
    · exact callStep_deliveries ..
    · rfl
  | deliver id extension =>
    unfold MessageService.step
    dsimp only
    split
    · rename_i hfresh
      exact .spawned id extension rfl hfresh fun id' => Table.lookup_insert_eq ..
    · exact .stay rfl
  | delivery id env branch taken =>
    unfold MessageService.step
    dsimp only
    split
    · rename_i d hd
      obtain ⟨pc, hpc, hdeliveries⟩ := deliveryStep_deliveries cfg s hd env branch taken
      refine .moved id d pc hd hpc (fun hstarting => ?_) hdeliveries
      unfold MessageService.deliveryStep
      rw [hstarting]
      change queueOf (s.offlineMessages.erase d.extension) d.extension = []
      rw [MessageService.queueOf_erase, if_pos rfl]
    · exact .stay rfl

/-! ## A delivery that is to come -/

theorem registers_setRegister (s : MessageServer) (id id' : Nat) (t : Registering) (pc : RegisterPc) :
    (s.setRegister id t pc).registers.lookup id' =
      if id' = id then some { t with pc } else s.registers.lookup id' := Table.lookup_insert_eq ..

/-- The handling of a REGISTER changes no entry but its own, and has moved on then. -/
theorem registers_step {s : MessageServer} {event : MessageServerEvent} {id : Nat} {t : Registering}
    (h : s.registers.lookup id = some t) (hother : event ≠ .proceed id) :
    (s.step cfg server md5 event).registers.lookup id = some t := by
  cases event with
  | register id' req channel =>
    unfold step
    dsimp only
    split
    · exact h
    · rename_i hfresh
      split
      · rw [registers_setRegister, if_neg, h]
        rintro rfl
        cases h.symm.trans hfresh
      · exact h
  | proceed id' =>
    have hne : id ≠ id' := fun he => hother (congrArg _ he.symm)
    unfold step
    dsimp only
    split
    · exact h
    · rename_i t' _
      unfold registerStep
      split
      all_goals first
        | exact h
        | exact (registers_setRegister _ _ _ _ _).trans ((if_neg hne).trans h)
  | _ => exact h

theorem Spawned.step {s : MessageServer} (h : Spawned s) (event : MessageServerEvent) :
    Spawned (s.step cfg server md5 event) := by
  -- a delivery that was there keeps its REGISTER
  have hold : ∀ id d, s.service.deliveries.lookup id = some d →
      ∃ t, (s.step cfg server md5 event).registers.lookup id = some t ∧ t.pc = .done := by
    intro id d hd
    obtain ⟨t, ht, hdone⟩ := h id d hd
    by_cases hevent : event = .proceed id
    · subst hevent
      refine ⟨t, ?_, hdone⟩
      unfold MessageServer.step
      simp only [ht]
      unfold registerStep
      rw [hdone]
      exact ht
    · exact ⟨t, registers_step ht hevent, hdone⟩
  intro id d hd
  rw [step_service] at hd
  cases hm : messageEvent s event with
  | none =>
    rw [hm] at hd
    exact hold id d hd
  | some m =>
    rw [hm] at hd
    cases deliveriesStep cfg s.service m with
    | stay deliveries =>
      rw [deliveries] at hd
      exact hold id d hd
    | moved id' d' pc running taken queue deliveries =>
      rw [deliveries] at hd
      split at hd
      · rename_i he
        exact he ▸ hold id' d' running
      · exact hold id d hd
    | spawned id' extension event_eq fresh deliveries =>
      rw [deliveries] at hd
      split at hd
      · -- the REGISTER that spawns it is at its end now
        rename_i he
        subst he event_eq
        cases event with
        | proceed id' =>
          unfold messageEvent at hm
          dsimp only at hm
          split at hm
          · rename_i req channel extension' ht
            cases hm
            refine ⟨⟨req, channel, .done⟩, ?_, rfl⟩
            unfold MessageServer.step
            simp only [ht]
            exact (registers_setRegister _ _ _ _ _).trans (if_pos rfl)
          · cases hm
        | submit => cases hm
        | call => cases hm
        | delivery => cases hm
        | wait => cases hm
        | register => cases hm
      · exact hold id d hd

/-- **A delivery that is to come** is still, or takes the queue. -/
theorem awaited_step (cfg : MessageConfig) (server : ServerConfig) (md5 : List UInt8 → Vector UInt8 16)
    {s : MessageServer} {callee : Str} (h : Awaited callee s) (hspawned : Spawned s)
    (event : MessageServerEvent) : Awaited callee (s.step cfg server md5 event) ∨
      queueOf (s.step cfg server md5 event).service.offlineMessages callee = [] := by
  rw [awaited_iff] at h ⊢
  rcases h with ⟨id, t, ht, hpc⟩ | ⟨id, d, hd, hcallee, hstarting⟩
  · left
    by_cases hevent : event = .proceed id
    · subst hevent
      have hfresh : s.service.deliveries.lookup id = none := by
        cases hd : s.service.deliveries.lookup id with
        | none => rfl
        | some d =>
          obtain ⟨t', ht', hdone⟩ := hspawned id d hd
          cases ht.symm.trans ht'
          rcases hpc with hpc | hpc <;> cases hpc.symm.trans hdone
      unfold step
      simp only [ht]
      unfold registerStep
      rcases hpc with hpc | hpc
      · rw [hpc]
        exact .inl ⟨id, { t with pc := .responding (some callee) },
          (registers_setRegister _ _ _ _ _).trans (if_pos rfl), .inr rfl⟩
      · rw [hpc]
        refine .inr ⟨id, ⟨callee, .starting⟩, ?_, rfl, rfl⟩
        change (s.service.step cfg (.deliver id callee)).deliveries.lookup id = _
        unfold MessageService.step
        simp only [hfresh]
        exact AList.lookup_insert _
    · exact .inl ⟨id, t, registers_step ht hevent, hpc⟩
  · rw [step_service]
    cases messageEvent s event with
    | none => exact .inl (.inr ⟨id, d, hd, hcallee, hstarting⟩)
    | some m =>
      dsimp only
      cases deliveriesStep cfg s.service m with
      | stay deliveries =>
        rw [deliveries]
        exact .inl (.inr ⟨id, d, hd, hcallee, hstarting⟩)
      | moved id' d' pc running taken queue deliveries =>
        by_cases he : id = id'
        · subst he
          cases hd.symm.trans running
          right
          rw [← hcallee]
          exact queue hstarting
        · exact .inl (.inr ⟨id, d, (deliveries id).trans ((if_neg he).trans hd), hcallee, hstarting⟩)
      | spawned id' extension event_eq fresh deliveries =>
        refine .inl (.inr ⟨id, d, (deliveries id).trans ((if_neg ?_).trans hd), hcallee, hstarting⟩)
        rintro rfl
        cases hd.symm.trans fresh

/-! ## A sink that comes -/

theorem reachable_iff {extension : Str} {s : MessageServer} : Reachable cfg extension s ↔
    (s.writers.lookup extension).isSome = true ∨ cfg.udpSocket = true ∧
      ∃ reg, s.registrar.registrations.lookup extension = some reg ∧ s.now < reg.expiresAt ∧
        reg.transport = .udp := by
  unfold Reachable MessageConfig.getOutbound env RegistrarService.lookup
  cases s.writers.lookup extension with
  | some sink => simp
  | none =>
    cases s.registrar.registrations.lookup extension with
    | none => simp
    | some reg =>
      by_cases hlive : s.now < reg.expiresAt
      · by_cases hudp : reg.transport = .udp <;> simp [Option.filter, hlive, hudp]
      · simp [Option.filter, hlive]

/-- A sink that is not there stays away, unless there is more for it than there was. -/
theorem not_reachable_of_sub {extension : Str} {s s' : MessageServer} (h : ¬ Reachable cfg extension s)
    (hwriters : ∀ sink, s'.writers.lookup extension = some sink → s.writers.lookup extension = some sink)
    (hregistrations : ∀ reg, s'.registrar.registrations.lookup extension = some reg →
      s.registrar.registrations.lookup extension = some reg)
    (hnow : s.now ≤ s'.now) : ¬ Reachable cfg extension s' := by
  rw [reachable_iff] at h ⊢
  rintro (hsome | ⟨hudp, reg, hreg, hlive, htransport⟩)
  · obtain ⟨sink, hsink⟩ := Option.isSome_iff_exists.mp hsome
    exact h (.inl (by rw [hwriters sink hsink]; rfl))
  · exact h (.inr ⟨hudp, reg, hregistrations reg hreg, hnow.trans_lt hlive, htransport⟩)

/-- **A sink that comes** comes with a REGISTER, behind which a delivery is spawned. -/
theorem reachable_step {s : MessageServer} {callee : Str} (h : ¬ Reachable cfg callee s)
    {event : MessageServerEvent} (hspawns : Spawns server md5 callee s event) :
    ¬ Reachable cfg callee (s.step cfg server md5 event) ∨ Awaited callee (s.step cfg server md5 event) := by
  have hkept : ∀ {s' : MessageServer}, s'.writers = s.writers → s'.registrar = s.registrar →
      s.now ≤ s'.now → ¬ Reachable cfg callee s' ∨ Awaited callee s' :=
    fun hwriters hregistrar hnow => .inl (not_reachable_of_sub h (fun _ => by rw [hwriters]; exact id)
      (fun _ => by rw [hregistrar]; exact id) hnow)
  cases event with
  | wait seconds => exact hkept rfl rfl (Nat.le_add_right _ _)
  | register id req channel =>
    unfold step
    dsimp only
    split
    · exact hkept rfl rfl le_rfl
    · split
      · exact hkept rfl rfl le_rfl
      · exact hkept rfl rfl le_rfl
  | proceed id =>
    cases ht : s.registers.lookup id with
    | none =>
      unfold step
      simp only [ht]
      exact hkept rfl rfl le_rfl
    | some t =>
      obtain ⟨req, channel, pc⟩ := t
      unfold Spawns at hspawns
      simp only [ht] at hspawns
      unfold step registerStep
      simp only [ht]
      cases pc with
      | received =>
        dsimp only at hspawns ⊢
        rcases RegistrarService.registrations_cases server.registrar md5 s.registrar
          { req with now := s.now } with ⟨-, hsub⟩ | ⟨extension, reg, haccepts, -, -, hinsert⟩
        · exact .inl (not_reachable_of_sub h (fun _ hs => hs) (hsub callee) le_rfl)
        by_cases hcallee : extension = callee
        · -- the REGISTER is one of the callee, so its delivery is to come
          subst hcallee
          have hbind := hspawns haccepts
          right
          rw [awaited_iff]
          refine .inl ⟨id, _, (registers_setRegister _ _ _ _ _).trans (if_pos rfl), ?_⟩
          unfold ServerState.registered at hbind
          split at hbind
          · unfold afterRegister
            split at hbind
            · rename_i heffect
              subst hbind
              rw [heffect]
              dsimp only
              split
              · exact .inl rfl
              · exact .inr rfl
            · cases hbind
          · cases hbind
        · refine .inl (not_reachable_of_sub h (fun _ hs => hs) (fun reg' hreg' => ?_) le_rfl)
          change (s.registrar.handleRegister server.registrar md5
            { req with now := s.now }).2.registrations.lookup callee = some reg' at hreg'
          rw [hinsert] at hreg'
          rcases Table.lookup_insert_eq_some hreg' with ⟨he, -⟩ | ⟨-, hold⟩
          · exact absurd he.symm hcallee
          · exact hold
      | writing extension =>
        by_cases hcallee : extension = callee
        · subst hcallee
          right
          rw [awaited_iff]
          exact .inl ⟨id, _, (registers_setRegister _ _ _ _ _).trans (if_pos rfl), .inr rfl⟩
        · refine .inl (not_reachable_of_sub h (fun sink hsink => ?_) (fun _ hs => hs) le_rfl)
          rcases Table.lookup_insert_eq_some hsink with ⟨he, -⟩ | ⟨-, hold⟩
          · exact absurd he.symm hcallee
          · exact hold
      | erasing extension =>
        refine .inl (not_reachable_of_sub h (fun sink hsink => ?_) (fun _ hs => hs) le_rfl)
        change (s.writers.erase extension).lookup callee = some sink at hsink
        rw [Table.lookup_erase_eq] at hsink
        split at hsink
        · cases hsink
        · exact hsink
      | responding pendingDelivery =>
        cases pendingDelivery with
        | none => exact hkept rfl rfl le_rfl
        | some extension => exact hkept rfl rfl le_rfl
      | done => exact hkept rfl rfl le_rfl
  | _ => exact hkept rfl rfl le_rfl

/-- Messages wait only while there is no sink for the callee, or a delivery is to come. -/
def Watched (cfg : MessageConfig) (callee : Str) (s : MessageServer) : Prop :=
  queueOf s.service.offlineMessages callee ≠ [] → ¬ Reachable cfg callee s ∨ Awaited callee s

theorem Watched.step {s : MessageServer} {callee : Str} (h : Watched cfg callee s) (hspawned : Spawned s)
    {event : MessageServerEvent} (htimely : Timely cfg server md5 callee s event) :
    Watched cfg callee (s.step cfg server md5 event) := by
  intro hqueue
  have hbefore : ¬ Reachable cfg callee s ∨ Awaited callee s := by
    have hkept := hqueue
    rw [step_service] at hkept
    cases hm : messageEvent s event with
    | none =>
      rw [hm] at hkept
      exact h hkept
    | some m =>
      rw [hm] at hkept
      rcases queue_step hkept with hold | hnew
      · exact h hold
      · exact htimely.watched m hm hnew
  rcases hbefore with haway | hawaited
  · exact reachable_step haway htimely.spawns
  · rcases awaited_step cfg server md5 hawaited hspawned event with hstill | hempty
    · exact .inr hstill
    · exact absurd hempty hqueue

/-! ## What leaves -/

/-- A filter that goes over the queue of the callee finds no message that is too old. -/
theorem live_of_filterTime {s : MessageService} {event : MessageEvent} {callee : Str}
    (h : KeepsAll callee s event) {now : Nat} (htime : MessageService.filterTime s callee event = some now)
    {m : OfflineMessage} (hm : m ∈ queueOf s.offlineMessages callee) : m.live now = true := by
  unfold MessageService.filterTime at htime
  unfold KeepsAll at h
  cases event with
  | submit id text fromExt tag => cases htime
  | deliver id extension => cases htime
  | call id env branch taken =>
    dsimp only at htime h
    cases hc : s.calls.lookup id with
    | none =>
      rw [hc] at htime
      cases htime
    | some c =>
      obtain ⟨text, fromExt, tag, callee, pc⟩ := c
      simp only [hc] at htime h
      cases pc with
      | queueing now' =>
        cases htime
        exact h.1 m hm
      | _ => cases htime
  | delivery id env branch taken =>
    dsimp only at htime h
    cases hd : s.deliveries.lookup id with
    | none =>
      rw [hd] at htime
      cases htime
    | some d =>
      obtain ⟨extension, pc⟩ := d
      simp only [hd] at htime h
      cases pc with
      | starting =>
        dsimp only at htime
        split at htime
        · cases htime
          exact h ‹_› m hm
        · cases htime
      | _ => cases htime

/-- A queue of the callee that grows need not be cut. -/
theorem length_le_of_grown {s : MessageService} {event : MessageEvent} {callee : Str}
    (h : KeepsAll callee s event) {queue : List OfflineMessage}
    (hgrown : MessageService.grown s event = some (callee, queue)) : queue.length ≤ maxOfflineMessages := by
  unfold MessageService.grown at hgrown
  unfold KeepsAll at h
  cases event with
  | submit id text fromExt tag => cases hgrown
  | deliver id extension => cases hgrown
  | call id env branch taken =>
    dsimp only at hgrown h
    cases hc : s.calls.lookup id with
    | none =>
      rw [hc] at hgrown
      cases hgrown
    | some c =>
      obtain ⟨text, fromExt, tag, callee', pc⟩ := c
      simp only [hc] at hgrown h
      cases pc with
      | queueing now =>
        cases hgrown
        have hlength := h.2 rfl
        have hfilter := List.length_filter_le (OfflineMessage.live now) (queueOf s.offlineMessages callee)
        rw [List.length_append, List.length_singleton, MessageService.queueOf_pruneExpired]
        omega
      | _ => cases hgrown
  | delivery id env branch taken =>
    dsimp only at hgrown h
    cases hd : s.deliveries.lookup id with
    | none =>
      rw [hd] at hgrown
      cases hgrown
    | some d =>
      obtain ⟨extension, pc⟩ := d
      simp only [hd] at hgrown h
      cases pc with
      | merging pending =>
        cases hgrown
        exact h rfl
      | _ => cases hgrown

/-- What leaves for the callee is handed to a sink, when nothing is discarded. -/
theorem handed_of_departs {s s' : MessageService} {event : MessageEvent} {callee : Str}
    (h : KeepsAll callee s event) {p : Nat × Place} (hp : MessageService.Departs s event s' p)
    (hcallee : p.2.callee = callee) : ∃ sink, p.2 = .handed callee sink := by
  cases hp with
  | handed t sends taken => exact ⟨t.sink, congrArg (Place.handed · t.sink) hcallee⟩
  | expired callee' m now time mem old =>
    obtain rfl : callee' = callee := hcallee
    have hlive := live_of_filterTime h time mem
    rw [OfflineMessage.live, decide_eq_true_eq] at hlive
    omega
  | evicted callee' m head grew mem full =>
    obtain rfl : callee' = callee := hcallee
    have hlength := length_le_of_grown h grew
    have hhead : 0 < head.length := List.length_pos_of_mem mem
    rw [List.length_append] at hlength
    omega

/-! ## Runs -/

/-- What has left for the callee was handed to a sink. -/
def Handed (callee : Str) (s : MessageServer) : Prop :=
  ∀ p ∈ s.service.gone, p.2.callee = callee → ∃ sink, p.2 = .handed callee sink

theorem Handed.step {s : MessageServer} {callee : Str} (h : Handed callee s) {event : MessageServerEvent}
    (htimely : Timely cfg server md5 callee s event) : Handed callee (s.step cfg server md5 event) := by
  intro p hp hcallee
  rw [step_service] at hp
  cases hm : messageEvent s event with
  | none =>
    rw [hm] at hp
    exact h p hp hcallee
  | some m =>
    obtain ⟨left, hgone, hdeparts, -⟩ := MessageService.step_departs cfg s.service m
    rw [hm] at hp
    change p ∈ (s.service.step cfg m).gone at hp
    rw [hgone] at hp
    rcases List.mem_append.mp hp with hold | hnew
    · exact h p hold hcallee
    · exact handed_of_departs (htimely.kept m hm) (hdeparts p hnew) hcallee

/-- The message service runs. -/
theorem run_service (cfg : MessageConfig) (server : ServerConfig) (md5 : List UInt8 → Vector UInt8 16)
    (events : List MessageServerEvent) :
    ∃ steps, (run cfg server md5 events).service = MessageService.run cfg steps := by
  induction events using List.reverseRecOn with
  | nil => exact ⟨[], rfl⟩
  | append_singleton events event ih =>
    obtain ⟨steps, ih⟩ := ih
    rw [run_append, step_service]
    cases messageEvent (run cfg server md5 events) event with
    | none => exact ⟨steps, ih⟩
    | some m => exact ⟨steps ++ [m], by rw [MessageService.run_append, ← ih]⟩

/-- Nothing is under way for the callee, and its queue is empty: a message that was answered with 200 has
left, and a sink took it. -/
theorem handed_of_finished {s : MessageServer} {callee : Str} (h : Handed callee s)
    {steps : List MessageEvent} (hrun : s.service = MessageService.run cfg steps)
    (hfinished : Finished callee s) (hempty : queueOf s.service.offlineMessages callee = []) {id : Nat}
    {c : Call} (hc : s.service.calls.lookup id = some c) (hcallee : c.callee = callee)
    (hstatus : c.status = some 200) :
    ∃ t, s.service.takenOf id = [t] ∧ t.callee = callee ∧
        s.service.locate id = [.handed callee t.sink] := by
  have htaken : ∀ {sink : ConnectionSink}, s.service.locate id = [.handed callee sink] →
      ∃ t, s.service.takenOf id = [t] ∧ t.callee = callee ∧
        s.service.locate id = [.handed callee t.sink] := by
    intro sink hlocate
    have hmap := MessageService.map_takenOf cfg steps id
    rw [← hrun, hlocate] at hmap
    obtain ⟨t, ht, hplace⟩ := List.map_eq_singleton_iff.mp hmap
    injection hplace with hcallee hsink
    exact ⟨t, ht, hcallee, hsink ▸ hlocate⟩
  have hcallees : (s.service.locate id).map Place.callee = [callee] := by
    rw [hrun] at hc ⊢
    rw [MessageService.callees_locate hc hstatus, if_pos rfl, hcallee]
  obtain ⟨place, hlocate, hplace⟩ := List.map_eq_singleton_iff.mp hcallees
  have hmem : place ∈ s.service.locate id := hlocate ▸ List.mem_singleton_self place
  obtain ⟨p, hp, rfl⟩ := List.mem_map.mp hmem
  rcases List.mem_append.mp (List.mem_of_mem_filter hp) with hp | hp
  · rcases List.mem_append.mp hp with hp | hp
    · obtain ⟨sink, hsink⟩ := h p hp hplace
      exact htaken (hlocate.trans (congrArg (List.cons · []) hsink))
    · -- in the queue
      obtain ⟨⟨callee', queue⟩, he, hp⟩ := List.mem_flatMap.mp hp
      obtain ⟨m, hm, rfl⟩ := List.mem_map.mp hp
      obtain rfl : callee' = callee := hplace
      have hlookup : s.service.offlineMessages.lookup callee' = some queue :=
        (List.mem_dlookup_iff s.service.offlineMessages.nodupKeys).mpr he
      rw [queueOf, hlookup, Option.getD_some] at hempty
      subst hempty
      cases hm
  · -- held by a delivery
    obtain ⟨⟨id', d⟩, he, hp⟩ := List.mem_flatMap.mp hp
    obtain ⟨m, hm, rfl⟩ := List.mem_map.mp hp
    have hlookup : s.service.deliveries.lookup id' = some d :=
      (List.mem_dlookup_iff s.service.deliveries.nodupKeys).mpr he
    rcases hfinished.deliveries id' d hlookup hplace with hpc | hpc
    · rw [show d.pc = .done from hpc] at hm
      cases hm
    · rw [show d.pc = .panicked from hpc] at hm
      cases hm

/-- **When no message is stranded.** In every state of a run whose steps are all timely. -/
theorem none_stranded (cfg : MessageConfig) (server : ServerConfig) (md5 : List UInt8 → Vector UInt8 16)
    (callee : Str) (events : List MessageServerEvent)
    (h : ∀ done event, done ++ [event] <+: events →
      Timely cfg server md5 callee (run cfg server md5 done) event) :
    ∀ done, done <+: events → NoneStranded cfg callee (run cfg server md5 done) := by
  have hstart : Watched cfg callee (run cfg server md5 []) ∧ Spawned (run cfg server md5 []) ∧
      Handed callee (run cfg server md5 []) := by
    refine ⟨fun hne => absurd rfl hne, fun id d hd => ?_, fun p hp => by cases hp⟩
    cases (AList.lookup_empty id).symm.trans hd
  intro done hdone hfinished hreachable
  obtain ⟨hwatched, -, hhanded⟩ : Watched cfg callee (run cfg server md5 done) ∧
      Spawned (run cfg server md5 done) ∧ Handed callee (run cfg server md5 done) := by
    refine prefix_induction (P := fun done => Watched cfg callee (run cfg server md5 done) ∧
      Spawned (run cfg server md5 done) ∧ Handed callee (run cfg server md5 done))
      hstart (fun done event _ hevent ih => ?_) List.nil_prefix hdone
    rw [run_append]
    have htimely := h done event hevent
    exact ⟨ih.1.step ih.2.1 htimely, ih.2.1.step event, ih.2.2.step htimely⟩
  have hempty : queueOf (run cfg server md5 done).service.offlineMessages callee = [] := by
    by_contra hne
    rcases hwatched hne with haway | hawaited
    · exact haway hreachable
    · -- no delivery is to come
      rcases awaited_iff.mp hawaited with ⟨id, t, ht, hpc⟩ | ⟨id, d, hd, hcallee, hstarting⟩
      · have hdone := hfinished.registers id t ht
        rcases hpc with hpc | hpc <;> cases hpc.symm.trans hdone
      · rcases hfinished.deliveries id d hd hcallee with hpc | hpc <;> cases hstarting.symm.trans hpc
  obtain ⟨steps, hrun⟩ := run_service cfg server md5 done
  exact ⟨hempty, fun id c hc hcallee hstatus =>
    handed_of_finished hhanded hrun hfinished hempty hc hcallee hstatus⟩

/-! ## A device that registers -/

open ServerState (deviceMessages deviceConfig deviceMd5 deviceAddr devicePacket deviceAnswer)

/-- 1002 sends a message to the device. -/
def deviceMessage : MessageServerEvent :=
  .submit 0 "MESSAGE sip:1001@example.com SIP/2.0\r\n\r\nhi".toList "1002".toList (.replicate 8 0)

/-- The call of `handle_message` goes on. -/
def messageSteps (steps : Nat) : List MessageServerEvent := List.replicate steps (.call 0 (.replicate 8 0))

/-- The device registers over TLS, and its messages are delivered. -/
def deviceRegisters (deliverySteps : Nat) : List MessageServerEvent :=
  [.register 1 ((devicePacket []).register (deviceAddr 5061) .tls) 7, .proceed 1, .proceed 1,
    .register 2 (deviceAnswer.register (deviceAddr 5061) .tls) 7, .proceed 2, .proceed 2, .proceed 2] ++
  List.replicate deliverySteps (.delivery 2 (.replicate 8 0))

/-- The message is stored before the device registers. -/
def messageFirst : List MessageServerEvent :=
  .wait 1000 :: deviceMessage :: messageSteps 3 ++ deviceRegisters 5

/-- The call sees that the device is not there, and stores when it has registered. -/
def messageBetween : List MessageServerEvent :=
  .wait 1000 :: deviceMessage :: messageSteps 1 ++ deviceRegisters 1 ++ messageSteps 2

theorem none_stranded_concrete :
    NoneStranded deviceMessages "1001".toList (run deviceMessages deviceConfig deviceMd5 messageFirst) :=
  none_stranded deviceMessages deviceConfig deviceMd5 "1001".toList messageFirst
    (Stepwise.forall (by decide +kernel)) messageFirst (List.prefix_refl _)

theorem finished_of_entries {callee : Str} {s : MessageServer}
    (calls : ∀ e ∈ s.service.calls.entries, e.2.status ≠ none)
    (deliveries : ∀ e ∈ s.service.deliveries.entries, e.2.pc = .done)
    (registers : ∀ e ∈ s.registers.entries, e.2.pc = .done) : Finished callee s where
  calls id c hc _ := .inl (calls ⟨id, c⟩ (List.of_mem_dlookup hc))
  deliveries id d hd _ := .inl (deliveries ⟨id, d⟩ (List.of_mem_dlookup hd))
  registers id t ht := registers ⟨id, t⟩ (List.of_mem_dlookup ht)

/-- **A message is stranded.** The device is there to the end once it has come, and its message is in the
queue when all is over. -/
theorem message_stranded :
    Stepwise (step deviceMessages deviceConfig deviceMd5) (fun s event =>
      Reachable deviceMessages "1001".toList s →
        Reachable deviceMessages "1001".toList (s.step deviceMessages deviceConfig deviceMd5 event))
      {} messageBetween ∧
    ¬ NoneStranded deviceMessages "1001".toList
      (run deviceMessages deviceConfig deviceMd5 messageBetween) := by
  have hover : Stepwise (step deviceMessages deviceConfig deviceMd5) (fun s event =>
        Reachable deviceMessages "1001".toList s →
          Reachable deviceMessages "1001".toList (s.step deviceMessages deviceConfig deviceMd5 event))
        {} messageBetween ∧
      (∀ e ∈ (run deviceMessages deviceConfig deviceMd5 messageBetween).service.calls.entries,
        e.2.status ≠ none) ∧
      (∀ e ∈ (run deviceMessages deviceConfig deviceMd5 messageBetween).service.deliveries.entries,
        e.2.pc = .done) ∧
      (∀ e ∈ (run deviceMessages deviceConfig deviceMd5 messageBetween).registers.entries,
        e.2.pc = .done) ∧
      Reachable deviceMessages "1001".toList (run deviceMessages deviceConfig deviceMd5 messageBetween) ∧
      queueOf (run deviceMessages deviceConfig deviceMd5 messageBetween).service.offlineMessages
        "1001".toList ≠ [] := by decide +kernel
  obtain ⟨hstays, hcalls, hdeliveries, hregisters, hreachable, hqueue⟩ := hover
  refine ⟨hstays, fun h => ?_⟩
  exact hqueue (h (finished_of_entries hcalls hdeliveries hregisters) hreachable).1

end MessageServer

end Minghe.Sip
