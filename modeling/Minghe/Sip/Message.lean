import Minghe.Lib.Contents
import Minghe.Sip.Outbound

/-!
# Instant messages

Model of `message.rs` as a system of any number of running `handle_message` and
`deliver_offline_messages` calls.

* A step of a call is what the source does under one lock, or one send. Calls are known by a number;
  an event names the call that goes on. Between two steps of a call any others may go on.
* What a step sees of the rest of the server is an `Env`: the connection writers, the registrar and the
  clock. It may be different in every step. Whether a send succeeds, and the random bytes of a branch,
  come with the event.
* `origin` of an offline message, `gone` and `sends` are not in the source. They record which call a
  message comes from, which messages have left and where to, and what was put on the wire; nothing
  reads them.
-/

namespace Minghe.Sip

open Minghe.Lib

/-! ## Constants -/

/-- `MAX_MESSAGE_BODY_LEN`. -/
abbrev maxMessageBodyLen : Nat := 4096

/-- `MAX_MESSAGE_REQUEST_LEN`. -/
abbrev maxMessageRequestLen : Nat := 8192

/-- `MAX_OFFLINE_MESSAGES`. -/
abbrev maxOfflineMessages : Nat := 100

/-- `MAX_TOTAL_OFFLINE_MESSAGES`. -/
abbrev maxTotalOfflineMessages : Nat := 10000

/-- `OFFLINE_MSG_TTL_SECS`. -/
abbrev offlineMsgTtlSecs : Nat := 24 * 60 * 60

/-- `SENDER_RATE_WINDOW_SECS`. -/
abbrev senderRateWindowSecs : Nat := 60

/-- `SENDER_RATE_LIMIT`. -/
abbrev senderRateLimit : Nat := 120

/-- `SENDER_OFFLINE_QUOTA`. -/
abbrev senderOfflineQuota : Nat := 500

/-! ## Offline messages -/

/-- `OfflineMessage`. -/
structure OfflineMessage where
  fromExt : Str
  originalRequest : Str
  receivedAt : Nat
  origin : Nat
  deriving DecidableEq, Repr

/-- When a message is too old: `received_at.saturating_add(OFFLINE_MSG_TTL_SECS)`. -/
def OfflineMessage.expiresAt (m : OfflineMessage) : Nat := min (m.receivedAt + offlineMsgTtlSecs) (2 ^ 64 - 1)

/-- The test of both TTL filters. -/
def OfflineMessage.live (now : Nat) (m : OfflineMessage) : Bool := decide (now < m.expiresAt)

/-- The messages of each callee, oldest first. -/
abbrev OfflineQueues := Table Str (List OfflineMessage)

/-- The queue of a callee, empty if it is not there. -/
def queueOf (map : OfflineQueues) (callee : Str) : List OfflineMessage := (map.lookup callee).getD []

/-- `prune_expired`. -/
def pruneExpired (now : Nat) (map : OfflineQueues) : OfflineQueues :=
  map.filterMap fun _ queue =>
    let queue := queue.filter (OfflineMessage.live now)
    if queue.isEmpty then none else some queue

/-- `merge_back`: the queue, from the one that is there and the messages to put in front. -/
def mergeBack (queue pending : List OfflineMessage) : List OfflineMessage :=
  let combined := pending ++ queue
  combined.drop (combined.length - maxOfflineMessages)

/-- `StoreOutcome`. -/
inductive StoreOutcome where
  | stored
  | rateLimited
  | quotaExceeded
  | capacityFull
  deriving DecidableEq, Repr

/-- `SenderRateWindow`. -/
structure SenderRateWindow where
  windowStart : Nat
  count : Nat
  deriving DecidableEq, Repr

/-- The first lock of `store_offline_message`: whether the sender may store, and the new rates. -/
def countSender (now : Nat) (fromExt : Str) (rates : Table Str SenderRateWindow) :
    Bool × Table Str SenderRateWindow :=
  let win := (rates.lookup fromExt).getD ⟨now, 0⟩
  let win := if (win.windowStart + senderRateWindowSecs) % 2 ^ 64 ≤ now then ⟨now, 0⟩ else win
  if senderRateLimit ≤ win.count then (false, rates.insert fromExt win)
  else (true, rates.insert fromExt { win with count := win.count + 1 })

/-- All messages of the queues. -/
def allMessages (map : OfflineQueues) : List OfflineMessage := map.collect fun _ queue => queue

/-- The queue of a callee, made room in, with a message more. -/
def pushMessage (queue : List OfflineMessage) (m : OfflineMessage) : List OfflineMessage :=
  (if maxOfflineMessages ≤ queue.length then queue.tail else queue) ++ [m]

/-- The second lock of `store_offline_message`. -/
def storeMessage (callee : Str) (m : OfflineMessage) (map : OfflineQueues) :
    StoreOutcome × OfflineQueues :=
  let map := pruneExpired m.receivedAt map
  let senderTotal := ((allMessages map).filter fun o => decide (o.fromExt = m.fromExt)).length
  if senderOfflineQuota ≤ senderTotal then (.quotaExceeded, map)
  else if maxTotalOfflineMessages ≤ (allMessages map).length then (.capacityFull, map)
  else (.stored, map.insert callee (pushMessage (queueOf map callee) m))

/-! ## Reading a request -/

/-- The fields of `MessageService` that never change; `udpSocket` says whether there is one. -/
structure MessageConfig where
  domain : Str
  rangeStart : Nat
  rangeEnd : Nat
  udpSocket : Bool

/-- What a step sees of the rest of the server. -/
structure Env where
  writers : Table Str ConnectionSink := ∅
  registrar : RegistrarService := {}
  now : Nat := 0

namespace MessageConfig

variable (cfg : MessageConfig)

/-- `get_outbound`. -/
def getOutbound (env : Env) (extension : Str) : Option ConnectionSink :=
  match env.writers.lookup extension with
  | some sink => some sink
  | none =>
    if cfg.udpSocket then
      match env.registrar.lookup env.now extension with
      | some reg => if reg.transport = .udp then some (.udp reg.transportAddr) else none
      | none => none
    else none

/-- `is_valid_extension`. -/
def isValidExtension (extension : Str) : Bool :=
  match parseUnsigned 32 extension with
  | some num => decide (cfg.rangeStart ≤ num) && decide (num ≤ cfg.rangeEnd)
  | none => false

/-- The checks of `handle_message`: the callee, or a status and a reason. -/
def checkMessage (requestText fromExt : Str) : Checked (Except (Nat × Str) Str) :=
  if fromExt.isEmpty then .ok (.error (403, "Forbidden".toList))
  else if maxMessageRequestLen < byteLen requestText then
    .ok (.error (413, "Message Too Large".toList))
  else do
    let calleeExt := (← extractCalledExtension requestText).getD []
    if calleeExt.isEmpty || calleeExt = fromExt then .ok (.error (400, "Bad Request".toList))
    else if !cfg.isValidExtension calleeExt then .ok (.error (404, "Not Found".toList))
    else
      let body := (← extractBody requestText).getD []
      if (trim body).isEmpty then .ok (.error (400, "Bad Request".toList))
      else if maxMessageBodyLen < byteLen body then .ok (.error (413, "Message Too Large".toList))
      else .ok (.ok calleeExt)

/-- The statuses that a MESSAGE is refused with, and their reasons. -/
def refusals : List (Nat × Str) :=
  [(400, "Bad Request".toList), (403, "Forbidden".toList), (404, "Not Found".toList),
    (413, "Message Too Large".toList)]

variable {cfg} in
/-- A refusal, with 403 for a connection without an extension only. -/
theorem checkMessage_refused {text fromExt reason : Str} {status : Nat}
    (h : cfg.checkMessage text fromExt = .ok (.error (status, reason))) :
    (status, reason) ∈ refusals ∧ (status = 403 → fromExt.isEmpty = true) := by
  have hcode : ∀ {code : Nat} {why : Str}, (code, why) ∈ refusals → code ≠ 403 →
      (Except.ok (.error (code, why)) : Checked (Except (Nat × Str) Str)) = .ok (.error (status, reason)) →
      (status, reason) ∈ refusals ∧ (status = 403 → fromExt.isEmpty = true) := by
    rintro code why hcode hne ⟨⟩
    exact ⟨hcode, fun he => absurd he hne⟩
  unfold checkMessage at h
  split at h
  · rename_i hempty
    cases h
    exact ⟨by decide, fun _ => hempty⟩
  split at h
  · exact hcode (by decide) (by decide) h
  obtain ⟨ext, -, h⟩ := Res.bind_eq_ok.mp h
  dsimp only at h
  split at h
  · exact hcode (by decide) (by decide) h
  split at h
  · exact hcode (by decide) (by decide) h
  obtain ⟨body, -, h⟩ := Res.bind_eq_ok.mp h
  split at h
  · exact hcode (by decide) (by decide) h
  split at h
  · exact hcode (by decide) (by decide) h
  · cases h

/-- The text that is sent on for an authenticated sender. -/
def forward (request fromExt targetUri : Str) (transport : Transport) (branch : Vector UInt8 8) :
    Checked Str :=
  buildOutboundRequestWithFrom request targetUri cfg.domain
    (serverContactUri fromExt cfg.domain transport) (serverContactUri fromExt cfg.domain transport)
    transport branch

end MessageConfig

/-! ## Running calls -/

/-- Where a `handle_message` call stands. -/
inductive CallPc where
  /-- Before `get_outbound`. -/
  | looking
  /-- Before `registered_contact_uri`. -/
  | targeting (sink : ConnectionSink)
  /-- Before the send. -/
  | sending (sink : ConnectionSink) (targetUri forwarded : Str)
  /-- Before the first lock of `store_offline_message`. -/
  | storing
  /-- Before its second lock. -/
  | queueing (now : Nat)
  | answered (status : Nat) (response : Str)
  | panicked

/-- A `handle_message` call, with the callee it has read. -/
structure Call where
  text : Str
  fromExt : Str
  tag : Vector UInt8 8
  callee : Str
  pc : CallPc

/-- The status that a call has answered with. -/
def Call.status (c : Call) : Option Nat :=
  match c.pc with
  | .answered status _ => some status
  | _ => none

/-- The call after its answer. -/
def Call.answer (c : Call) (status : Nat) (reason : Str) : Call :=
  { c with pc := .answered status (buildResponse c.text status reason (generateTag c.tag)) }

/-- Where a `deliver_offline_messages` call stands, with the messages it holds. -/
inductive DeliveryPc where
  /-- Before the queue is taken. -/
  | starting
  /-- Before `get_outbound`. -/
  | looking (pending : List OfflineMessage)
  /-- Before `registered_contact_uri`. -/
  | targeting (sink : ConnectionSink) (pending : List OfflineMessage)
  /-- Before the send of the first message. -/
  | sending (sink : ConnectionSink) (targetUri : Str) (pending : List OfflineMessage)
  /-- Before the messages are written back. -/
  | merging (pending : List OfflineMessage)
  | done
  | panicked

/-- The messages that are held. -/
def DeliveryPc.pending : DeliveryPc → List OfflineMessage
  | .looking pending | .targeting _ pending | .sending _ _ pending | .merging pending => pending
  | .starting | .done | .panicked => []

/-- Behind the first lock: there is nothing to deliver, or a sink is looked for. -/
def DeliveryPc.afterTake : List OfflineMessage → DeliveryPc
  | [] => .done
  | m :: rest => .looking (m :: rest)

@[simp] theorem DeliveryPc.pending_afterTake (messages : List OfflineMessage) :
    (afterTake messages).pending = messages := by
  cases messages <;> rfl

/-- A `deliver_offline_messages` call. -/
structure Delivery where
  extension : Str
  pc : DeliveryPc

/-- Where a message can be. -/
inductive Place where
  /-- Handed to a sink of the callee. -/
  | handed (callee : Str) (sink : ConnectionSink)
  /-- In the queue of the callee. -/
  | queued (callee : Str)
  /-- Held by a running delivery. -/
  | held (callee : Str) (delivery : Nat)
  /-- Discarded because it was too old. -/
  | expired (callee : Str) (expiresAt now : Nat)
  /-- Discarded from the head of the callee's queue, when the queue had grown to `backlog`. -/
  | evicted (callee : Str) (backlog : Nat)
  deriving DecidableEq, Repr

/-- The callee of the message. -/
def Place.callee : Place → Str
  | .handed callee _ | .queued callee | .held callee _ | .expired callee _ _ | .evicted callee _ => callee

/-- A text that was given to a sink, and whether the sink took it. -/
structure Transmission where
  origin : Nat
  callee : Str
  fromExt : Str
  request : Str
  targetUri : Str
  sink : ConnectionSink
  text : Str
  taken : Bool

/-- The tables of `MessageService` and the calls that run. -/
structure MessageService where
  offlineMessages : OfflineQueues := ∅
  senderRates : Table Str SenderRateWindow := ∅
  calls : Table Nat Call := ∅
  deliveries : Table Nat Delivery := ∅
  gone : List (Nat × Place) := []
  sends : List Transmission := []

/-- What happens: a call starts, or goes on. -/
inductive MessageEvent where
  | submit (id : Nat) (text fromExt : Str) (tag : Vector UInt8 8)
  | call (id : Nat) (env : Env) (branch : Vector UInt8 8) (taken : Bool)
  | deliver (id : Nat) (extension : Str)
  | delivery (id : Nat) (env : Env) (branch : Vector UInt8 8) (taken : Bool)

namespace MessageService

variable (cfg : MessageConfig)

/-- A call moves on. -/
def setCall (id : Nat) (c : Call) (s : MessageService) : MessageService :=
  { s with calls := s.calls.insert id c }

/-- A delivery moves on. -/
def setDelivery (id : Nat) (d : Delivery) (s : MessageService) : MessageService :=
  { s with deliveries := s.deliveries.insert id d }

/-- A text is given to a sink. -/
def transmit (t : Transmission) (s : MessageService) : MessageService :=
  { s with sends := s.sends ++ [t] }

/-- Messages leave. -/
def leave (messages : List (Nat × Place)) (s : MessageService) : MessageService :=
  { s with gone := s.gone ++ messages }

/-- The queues change. -/
def setQueues (map : OfflineQueues) (s : MessageService) : MessageService :=
  { s with offlineMessages := map }

/-- The messages of a queue that a TTL filter drops. -/
def expiredOf (now : Nat) (callee : Str) (queue : List OfflineMessage) : List (Nat × Place) :=
  (queue.filter fun m => !m.live now).map fun m => (m.origin, .expired callee m.expiresAt now)

/-- Messages from the head of a queue that has grown to `backlog`. -/
def evictedOf (callee : Str) (backlog : Nat) (messages : List OfflineMessage) : List (Nat × Place) :=
  messages.map fun m => (m.origin, .evicted callee backlog)

/-- A new call of `handle_message`, up to the end of its checks. -/
def submit (id : Nat) (text fromExt : Str) (tag : Vector UInt8 8) (s : MessageService) :
    MessageService :=
  match cfg.checkMessage text fromExt with
  | .error _ => s.setCall id ⟨text, fromExt, tag, [], .panicked⟩
  | .ok (.error (status, reason)) =>
    s.setCall id (Call.answer ⟨text, fromExt, tag, [], .looking⟩ status reason)
  | .ok (.ok callee) => s.setCall id ⟨text, fromExt, tag, callee, .looking⟩

/-- The second lock of `store_offline_message` and the answer. -/
def queueCall (id : Nat) (c : Call) (now : Nat) (s : MessageService) : MessageService :=
  let m : OfflineMessage := ⟨c.fromExt, c.text, now, id⟩
  let queue := queueOf (pruneExpired now s.offlineMessages) c.callee
  let (outcome, map) := storeMessage c.callee m s.offlineMessages
  let s := (s.leave (s.offlineMessages.collect (expiredOf now))).setQueues map
  if outcome = .stored then
    let evicted := if maxOfflineMessages ≤ queue.length then queue.take 1 else []
    (s.setCall id (c.answer 200 "OK".toList)).leave (evictedOf c.callee (queue.length + 1) evicted)
  else s.setCall id (c.answer 503 "Service Unavailable".toList)

/-- The next step of a `handle_message` call. -/
def callStep (id : Nat) (c : Call) (env : Env) (branch : Vector UInt8 8) (taken : Bool)
    (s : MessageService) : MessageService :=
  match c.pc with
  | .looking =>
    match cfg.getOutbound env c.callee with
    | some sink => s.setCall id { c with pc := .targeting sink }
    | none => s.setCall id { c with pc := .storing }
  | .targeting sink =>
    let targetUri := registeredContactUri c.callee cfg.domain env.now env.registrar
    match cfg.forward c.text c.fromExt targetUri sink.transport branch with
    | .error _ => s.setCall id { c with pc := .panicked }
    | .ok forwarded => s.setCall id { c with pc := .sending sink targetUri forwarded }
  | .sending sink targetUri forwarded =>
    let s := s.transmit ⟨id, c.callee, c.fromExt, c.text, targetUri, sink, forwarded, taken⟩
    if taken then
      (s.setCall id (c.answer 200 "OK".toList)).leave [(id, .handed c.callee sink)]
    else s.setCall id { c with pc := .storing }
  | .storing =>
    let (allowed, rates) := countSender env.now c.fromExt s.senderRates
    let s := { s with senderRates := rates }
    if allowed then s.setCall id { c with pc := .queueing env.now }
    else s.setCall id (c.answer 503 "Service Unavailable".toList)
  | .queueing now => s.queueCall id c now
  | .answered _ _ | .panicked => s

/-- The next step of a `deliver_offline_messages` call. -/
def deliveryStep (id : Nat) (d : Delivery) (env : Env) (branch : Vector UInt8 8) (taken : Bool)
    (s : MessageService) : MessageService :=
  match d.pc with
  | .starting =>
    let queue := queueOf s.offlineMessages d.extension
    let messages := queue.filter (OfflineMessage.live env.now)
    let s := (s.setQueues (s.offlineMessages.erase d.extension)).leave
      (expiredOf env.now d.extension queue)
    s.setDelivery id { d with pc := .afterTake messages }
  | .looking pending =>
    match cfg.getOutbound env d.extension with
    | some sink => s.setDelivery id { d with pc := .targeting sink pending }
    | none => s.setDelivery id { d with pc := .merging pending }
  | .targeting sink pending =>
    let targetUri := registeredContactUri d.extension cfg.domain env.now env.registrar
    s.setDelivery id { d with pc := .sending sink targetUri pending }
  | .sending _ _ [] => s.setDelivery id { d with pc := .done }
  | .sending sink targetUri (m :: rest) =>
    match cfg.forward m.originalRequest m.fromExt targetUri sink.transport branch with
    | .error _ => s.setDelivery id { d with pc := .panicked }
    | .ok forwarded =>
      let s := s.transmit
        ⟨m.origin, d.extension, m.fromExt, m.originalRequest, targetUri, sink, forwarded, taken⟩
      if taken then
        (s.setDelivery id { d with pc := .sending sink targetUri rest }).leave
          [(m.origin, .handed d.extension sink)]
      else s.setDelivery id { d with pc := .merging (m :: rest) }
  | .merging pending =>
    let queue := queueOf s.offlineMessages d.extension
    let combined := pending ++ queue
    let s := (s.setQueues (s.offlineMessages.insert d.extension (mergeBack queue pending))).leave
      (evictedOf d.extension combined.length (combined.take (combined.length - maxOfflineMessages)))
    s.setDelivery id { d with pc := .done }
  | .done | .panicked => s

/-- One step of the system. A number is used once, and an event for a call that does not run does
nothing. -/
def step (s : MessageService) : MessageEvent → MessageService
  | .submit id text fromExt tag =>
    match s.calls.lookup id with
    | none => s.submit cfg id text fromExt tag
    | some _ => s
  | .call id env branch taken =>
    match s.calls.lookup id with
    | some c => s.callStep cfg id c env branch taken
    | none => s
  | .deliver id extension =>
    match s.deliveries.lookup id with
    | none => s.setDelivery id ⟨extension, .starting⟩
    | some _ => s
  | .delivery id env branch taken =>
    match s.deliveries.lookup id with
    | some d => s.deliveryStep cfg id d env branch taken
    | none => s

/-- A run from the empty service. -/
def run (events : List MessageEvent) : MessageService := events.foldl (step cfg) {}

end MessageService

end Minghe.Sip
