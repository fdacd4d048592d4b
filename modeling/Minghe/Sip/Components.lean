import Minghe.Sip.Calls
import Minghe.Sip.Routing
import Minghe.Sip.System
import Minghe.Sip.Traced

/-!
# The components of the server

What an event of the whole server is for each component, and that a run of the whole server is a run of
each of them, whose surroundings are the others.

* `routerEvent`, `serviceEvent`, `serverEvents`: what an event is for the router, the message service and
  the tables of the server, if they take part. It is read off the state before the event, and with it what
  the component sees of the others.
* `Reads`: the event is a message that is read in a certain branch.
* `router_step`, `service_step`, `server_step`: an event moves each component by what it is for it, and does
  nothing else to it.
* `components`: after any run, each component is where its own events lead, the registrar included.
-/

namespace Minghe.Sip

open Minghe.Lib
open Minghe.Media.Relay (MediaRelayManager)
open Minghe.Media.Srtp (Base64)

/-- An event of the server that is not a message. -/
def ServerEvent.Quiet : ServerEvent → Prop
  | .receive .. | .datagram .. => False
  | .registrar (.register _) => False
  | _ => True

/-- The message, for the tables of the server. -/
def Stimulus.packet (st : Stimulus) : Packet := ⟨st.text, st.draw.now, st.nonce, st.draw.tag⟩

/-- The event of the server that reads it. -/
def Stimulus.received (st : Stimulus) (peer : SocketAddr) : Reader → ServerEvent
  | .connection channel => .receive channel st.packet
  | .listener => .datagram peer st.packet

namespace Router

variable {cfg : RouterConfig} {B : Base64}

/-! ## The router and the registrar -/

theorem registrar_cleanupCall (s : Router) (callId : Str) :
    (s.cleanupCall callId).registrar = s.registrar := by
  unfold cleanupCall; split <;> rfl

theorem registrar_cleanupThen (callId : Str) (result : Option (Nat × Str)) (s : Router) :
    (cleanupThen callId result s).2.registrar = s.registrar := by
  unfold cleanupThen
  split
  · rfl
  · exact registrar_cleanupCall s callId

theorem registrar_acceptInvite (id : Nat) (msg : Incoming) (d : Draw)
    (callerExt calleeExt callId callerTag : Str) (s : Router) :
    (s.acceptInvite cfg B id msg d callerExt calleeExt callId callerTag).2.registrar = s.registrar := by
  unfold acceptInvite
  split
  · rfl
  dsimp only
  split
  · exact registrar_cleanupCall s callId
  · exact registrar_cleanupCall s callId
  · split
    · exact registrar_cleanupCall s callId
    · unfold openCall
      split
      · exact registrar_cleanupCall s callId
      · split <;> exact registrar_cleanupCall s callId

theorem registrar_startOnce (callId : Str) (s : Router) : (s.startOnce callId).registrar = s.registrar := by
  rcases startOnce_cases callId s with ⟨he, -⟩ | ⟨_, -, -, -, he⟩ <;> rw [he]

/-- The failure that a handler counts (`record_failure` in `handle_invite`): the caller of an INVITE is not
who it says it is. -/
def failureOf (cfg : RouterConfig) (handler : Handler) (msg : Incoming) (d : Draw) (s : Router) :
    Option (Nat × IpAddr) :=
  match handler with
  | .invite =>
    if s.registrar.isBlocked cfg.registrar msg.fromAddr.ip then none
    else
      match callerOf msg.text, extractCalledExtension msg.text with
      | .ok callerExt, .ok _ => if mayCall msg callerExt d.now s then none else some (d.now, msg.fromAddr.ip)
      | _, _ => none
  | .response | .ack | .bye | .cancel => none

/-- The registrar, with the failure counted. -/
def countFailure (cfg : RouterConfig) (registrar : RegistrarService) :
    Option (Nat × IpAddr) → RegistrarService
  | some (now, ip) => (registrar.recordFailure cfg.registrar now ip).2
  | none => registrar

/-- A handler does nothing else to the registrar. -/
theorem registrar_handle (cfg : RouterConfig) (B : Base64) (id : Nat) (handler : Handler) (msg : Incoming)
    (d : Draw) (s : Router) :
    (s.handle cfg B id handler msg d).2.registrar =
      countFailure cfg s.registrar (s.failureOf cfg handler msg d) := by
  cases handler with
  | invite =>
    change (s.handleInvite cfg B id msg d).2.registrar = _
    unfold handleInvite failureOf
    dsimp only
    split
    · rfl
    rcases callerOf msg.text with e | callerExt
    · rfl
    rcases extractCalledExtension msg.text with e | calleeExt
    · rfl
    dsimp only
    split
    · split
      · exact registrar_acceptInvite ..
      · rfl
    · rfl
  | response =>
    change (s.handleCalleeResponse cfg B msg d).2.registrar = s.registrar
    unfold handleCalleeResponse
    split
    · rfl
    · rfl
    split
    · rfl
    split
    · rfl
    split
    · rfl
    · dsimp only
      split <;> rfl
  | ack =>
    change (s.handleAck cfg msg d).2.registrar = s.registrar
    unfold handleAck
    split
    · rfl
    · rfl
    split
    · rfl
    split
    · rfl
    split
    · rfl
    · split <;> rfl
  | bye =>
    change (s.handleBye cfg msg d).2.registrar = s.registrar
    unfold handleBye
    split
    · rfl
    · rfl
    split
    · rfl
    split
    · rfl
    split
    · rfl
    dsimp only
    split
    · rfl
    split
    · rfl
    split
    · exact registrar_cleanupThen ..
    · split <;> rfl
  | cancel =>
    change (s.handleCancel cfg msg d).2.registrar = s.registrar
    unfold handleCancel
    split
    · rfl
    · rfl
    split
    · rfl
    split
    · rfl
    split
    · rfl
    split
    · rfl
    dsimp only
    split
    · exact registrar_cleanupThen ..
    · split <;> rfl

theorem registrar_proceed (task : Task) (taken : Bool) (d : Draw) (s : Router) :
    (s.proceed task taken d).2.registrar = s.registrar := by
  unfold proceed
  cases task.pc with
  | invite =>
    dsimp only
    split
    · rfl
    · exact registrar_cleanupThen ..
  | forward =>
    dsimp only
    split
    · exact registrar_cleanupThen ..
    split
    · split
      · rfl
      · exact registrar_startOnce ..
    · rfl
  | cancel =>
    dsimp only
    unfold sendTerminated
    split
    · rfl
    split
    · exact registrar_cleanupThen ..
    · rfl
  | ack => rfl
  | done => rfl
  | panicked => rfl
  | _ => exact registrar_cleanupThen ..

/-- The failure that an event makes the router count. -/
def counted (cfg : RouterConfig) (s : Router) : RouterEvent → Option (Nat × IpAddr)
  | .receive id handler msg d =>
    match s.tasks.lookup id with
    | some _ => none
    | none => s.failureOf cfg handler msg d
  | .world .. | .resume .. => none

/-- **An event and the registrar.** -/
theorem registrar_step (cfg : RouterConfig) (B : Base64) (s : Router) {event : RouterEvent}
    (h : ∀ writers registrar, event ≠ .world writers registrar) :
    (s.step cfg B event).registrar = countFailure cfg s.registrar (s.counted cfg event) := by
  cases event with
  | world writers registrar => exact absurd rfl (h writers registrar)
  | receive id handler msg d =>
    unfold step counted
    cases htask : s.tasks.lookup id with
    | some task =>
      simp only [htask]
      rfl
    | none =>
      simp only [htask]
      exact registrar_handle ..
  | resume id taken d =>
    change (s.step cfg B (.resume id taken d)).registrar = s.registrar
    unfold step
    dsimp only
    split
    · rfl
    split
    · rfl
    · rw [sending_eq]
      exact registrar_proceed ..

end Router

namespace System

section

variable (cfg : SystemConfig) (md5 : List UInt8 → Vector UInt8 16) (B : Base64)

/-- The event is a message that is read, in a branch. -/
structure Reads (s : System) (event : SystemEvent) (reader : Reader) (peer : SocketAddr) (st : Stimulus)
    (branch : Branch) : Prop where
  event_eq : event = .message reader peer st
  reads : s.reads cfg reader peer = true
  idle : s.busy reader = false
  branch_eq : branchOf st.text = .ok branch

/-- What the router is given for a message. -/
def incoming (reader : Reader) (peer : SocketAddr) (st : Stimulus) (s : System) : Incoming :=
  ⟨st.text, reader.sink peer, peer, s.server.getConnectionExtension peer⟩

/-- What an event is for the router. -/
def routerEvent (s : System) : SystemEvent → Option RouterEvent
  | .message reader peer st =>
    if s.reads cfg reader peer && !s.busy reader then
      match branchOf st.text with
      | .ok (.route handler) => some (.receive s.nextJob handler (s.incoming reader peer st) st.draw)
      | _ => none
    else none
  | .resume id taken d =>
    match (s.jobs.lookup id).map Job.pc with
    | some .routing => some (.resume id taken d)
    | _ => none
  | _ => none

/-- What it is for the message service. -/
def serviceEvent (s : System) : SystemEvent → Option MessageEvent
  | .message reader peer st =>
    if s.reads cfg reader peer && !s.busy reader then
      match branchOf st.text with
      | .ok .message => some (.submit s.nextJob st.text (s.server.fromExt peer) st.draw.tag)
      | _ => none
    else none
  | .resume id taken d =>
    match (s.jobs.lookup id).map Job.pc with
    | some .messaging => some (.call id (s.env d.now) d.branch taken)
    | some (.responding _ (some extension)) => some (.deliver id extension)
    | _ => none
  | .delivery id taken d => some (.delivery id (s.env d.now) d.branch taken)
  | _ => none

/-- The failure that the router counts, for the tables of the server. -/
def failures (s : System) (event : SystemEvent) : List ServerEvent :=
  match (s.routerEvent cfg event).bind (Router.counted cfg.router (s.router.step cfg.router B s.world)) with
  | some (now, ip) => [.registrar (.failure now ip)]
  | none => []

/-- The end of the reader of a job that has panicked, for the tables of the server. -/
def crashes (s : System) (id : Nat) (reader : Reader) : List ServerEvent :=
  if (s.jobs.lookup id).map Job.pc = some .panicked then [.crash reader.channel] else []

/-- What an event is for the tables of the server. -/
def serverEvents (s : System) (event : SystemEvent) : List ServerEvent :=
  match event with
  | .accept addr => [.accept addr]
  | .handshake addr completed => [.handshake addr completed]
  | .message reader peer st =>
    if s.reads cfg reader peer && !s.busy reader then
      match branchOf st.text with
      | .ok .register => [st.received peer reader]
      | _ => s.failures cfg B event ++ (s.step cfg md5 B event).crashes s.nextJob reader
    else []
  | .resume id _ _ =>
    match s.jobs.lookup id with
    | some job =>
      if job.pc.ended then []
      else s.failures cfg B event ++ (s.step cfg md5 B event).crashes id job.reader
    | none => []
  | .delivery .. => []
  | .close channel => if s.busy (.connection channel) then [] else [.close channel]
  | .udpCleanup now => [.udpCleanup now]
  | .cleanup now => [.registrar (.cleanup now)]

end

variable {cfg : SystemConfig} {md5 : List UInt8 → Vector UInt8 16} {B : Base64}

/-! ## Places of a job -/

/-- The place of a job changes, and its reader ends if it panics. -/
inductive Placed (cfg : SystemConfig) (md5 : List UInt8 → Vector UInt8 16) (id : Nat) (job : Job)
    (s : System) : System → Prop
  | moved (pc : JobPc) (running : pc ≠ .panicked) : Placed cfg md5 id job s (s.setJob id job pc)
  | answered (response : Str) (pendingDelivery : Option Str) :
    Placed cfg md5 id job s (s.respond id job response pendingDelivery)
  | crashed : Placed cfg md5 id job s (s.crash cfg md5 id job)

theorem placed_afterRouter (id : Nat) (job : Job) (s : System) :
    Placed cfg md5 id job s (s.afterRouter cfg md5 id job) := by
  unfold afterRouter
  split
  · exact .answered _ _
  · exact .moved _ nofun
  · exact .crashed
  · exact .moved _ nofun

theorem placed_afterService (id : Nat) (job : Job) (s : System) :
    Placed cfg md5 id job s (s.afterService cfg md5 id job) := by
  unfold afterService
  split
  · exact .answered _ _
  · exact .crashed
  · exact .moved _ nofun

theorem Placed.router {id : Nat} {job : Job} {s s' : System} (h : Placed cfg md5 id job s s') :
    s'.router = s.router := by
  cases h <;> rfl

theorem Placed.service {id : Nat} {job : Job} {s s' : System} (h : Placed cfg md5 id job s s') :
    s'.service = s.service := by
  cases h <;> rfl

/-- What it is for the tables of the server. -/
theorem Placed.server {id : Nat} {job : Job} {s s' : System} (h : Placed cfg md5 id job s s') :
    s'.server = (s'.crashes id job.reader).foldl (ServerState.step cfg.server md5) s.server := by
  have hcrashes : ∀ {s : System} {pc : JobPc}, (s.setJob id job pc).crashes id job.reader =
      if pc = .panicked then [.crash job.reader.channel] else [] := by
    intro s pc
    unfold crashes setJob
    rw [AList.lookup_insert]
    simp only [Option.map_some, Option.some.injEq]
  cases h with
  | moved pc running =>
    rw [hcrashes, if_neg running]
    rfl
  | answered response pendingDelivery =>
    change s.server = ((s.setJob id job (.responding response pendingDelivery)).crashes id
      job.reader).foldl _ _
    rw [hcrashes, if_neg nofun]
    rfl
  | crashed =>
    unfold crash
    rw [hcrashes, if_pos rfl]
    rfl

/-! ## What an event is for a component -/

theorem placed_processRegister (id : Nat) (job : Job) (req : Register) (s : System) :
    (s.processRegister cfg md5 id job req).router = s.router ∧
      (s.processRegister cfg md5 id job req).service = s.service := by
  unfold processRegister
  dsimp only
  split
  · exact ⟨rfl, rfl⟩
  · exact ⟨rfl, rfl⟩

/-- **An event and the router.** -/
theorem router_step (cfg : SystemConfig) (md5 : List UInt8 → Vector UInt8 16) (B : Base64) (s : System)
    (event : SystemEvent) :
    (s.step cfg md5 B event).router =
      match s.routerEvent cfg event with
      | some x => (s.router.step cfg.router B s.world).step cfg.router B x
      | none => s.router := by
  cases event with
  | message reader peer st =>
    unfold step routerEvent
    dsimp only
    split
    · rename_i henabled
      unfold process
      rcases hbranch : branchOf st.text with e | branch
      · rfl
      · cases branch with
        | register => exact (placed_processRegister ..).1
        | route handler => exact (placed_afterRouter ..).router
        | message => exact (placed_afterService ..).router
        | _ => rfl
    · rfl
  | resume id taken d =>
    unfold step routerEvent
    dsimp only
    cases s.jobs.lookup id with
    | none => rfl
    | some job =>
      rw [Option.map_some]
      dsimp only
      unfold proceed
      cases job.pc with
      | routing => exact (placed_afterRouter ..).router
      | messaging => exact (placed_afterService ..).router
      | responding response pendingDelivery => cases pendingDelivery <;> rfl
      | done => rfl
      | panicked => rfl
  | close channel =>
    unfold step routerEvent
    dsimp only
    split <;> rfl
  | _ => rfl

/-- **An event and the message service.** -/
theorem service_step (cfg : SystemConfig) (md5 : List UInt8 → Vector UInt8 16) (B : Base64) (s : System)
    (event : SystemEvent) :
    (s.step cfg md5 B event).service =
      match s.serviceEvent cfg event with
      | some x => s.service.step cfg.message x
      | none => s.service := by
  cases event with
  | message reader peer st =>
    unfold step serviceEvent
    dsimp only
    split
    · rename_i henabled
      unfold process
      rcases hbranch : branchOf st.text with e | branch
      · rfl
      · cases branch with
        | register => exact (placed_processRegister ..).2
        | route handler => exact (placed_afterRouter ..).service
        | message => exact (placed_afterService ..).service
        | _ => rfl
    · rfl
  | resume id taken d =>
    unfold step serviceEvent
    dsimp only
    cases s.jobs.lookup id with
    | none => rfl
    | some job =>
      rw [Option.map_some]
      dsimp only
      unfold proceed
      cases job.pc with
      | routing => exact (placed_afterRouter ..).service
      | messaging => exact (placed_afterService ..).service
      | responding response pendingDelivery => cases pendingDelivery <;> rfl
      | done => rfl
      | panicked => rfl
  | close channel =>
    unfold step serviceEvent
    dsimp only
    split <;> rfl
  | _ => rfl

/-- What the router does to the registrar is an event of the server. -/
theorem server_onRouter {s : System} {event : SystemEvent} {x : RouterEvent}
    (h : s.routerEvent cfg event = some x) (hx : ∀ writers registrar, x ≠ .world writers registrar) :
    (s.onRouter cfg B x).server =
      (s.failures cfg B event).foldl (ServerState.step cfg.server md5) s.server := by
  have hserver : (s.onRouter cfg B x).server = { s.server with
      registrar := ((s.router.step cfg.router B s.world).step cfg.router B x).registrar } := rfl
  rw [hserver, failures, h, Router.registrar_step cfg.router B _ hx]
  dsimp only [Option.bind_some]
  cases Router.counted cfg.router (s.router.step cfg.router B s.world) x with
  | none => rfl
  | some failure => rfl

/-- An event in which the router does not take part. -/
theorem failures_of_none {s : System} {event : SystemEvent} (h : s.routerEvent cfg event = none) :
    s.failures cfg B event = [] := by
  rw [failures, h]
  rfl

/-- A REGISTER is processed to its end only if it has a response. -/
theorem response_of_processed (cfg : SystemConfig) (md5 : List UInt8 → Vector UInt8 16) {s : ServerState}
    {req : Register} {sink : ConnectionSink} (hregister : ServerState.isRegister req.text = true)
    (h : (s.processSipMessage cfg.server md5 req sink).1 = .ok ()) :
    ∃ response, (s.registrar.handleRegister cfg.registrar md5 req).1 = .ok response := by
  unfold ServerState.processSipMessage at h
  rw [if_pos hregister] at h
  unfold ServerState.processRegister at h
  cases hresponse : (s.registrar.handleRegister cfg.registrar md5 req).1 with
  | error e =>
    have hbound : (s.registrar.handleRegister cfg.server.registrar md5 req).1 = .error e := hresponse
    simp only [hbound] at h
    cases h
  | ok response => exact ⟨response, rfl⟩

/-- A message that is read, for the tables of the server. -/
theorem step_received (s : System) {reader : Reader} {peer : SocketAddr} (st : Stimulus)
    (hreads : s.reads cfg reader peer = true) :
    s.server.step cfg.server md5 (st.received peer reader) =
      if (s.server.processSipMessage cfg.server md5 (st.register reader peer) (reader.sink peer)).1 = .ok ()
      then
        (s.server.processSipMessage cfg.server md5 (st.register reader peer) (reader.sink peer)).2
      else
        (s.server.processSipMessage cfg.server md5 (st.register reader peer) (reader.sink peer)).2.step
          cfg.server md5 (.crash reader.channel) := by
  cases reader with
  | connection channel =>
    have htask : s.server.tasks.lookup channel = some peer := of_decide_eq_true hreads
    unfold ServerState.step Stimulus.received
    simp only [htask]
    unfold ServerState.receive
    split
    · rename_i h
      have h : s.server.processSipMessage cfg.server md5 (st.register (.connection channel) peer)
          (Reader.sink peer (.connection channel)) = _ := h
      rw [h, if_pos rfl]
    · rename_i h
      have h : s.server.processSipMessage cfg.server md5 (st.register (.connection channel) peer)
          (Reader.sink peer (.connection channel)) = _ := h
      rw [h, if_neg nofun]
      rfl
  | listener =>
    have hudp : (cfg.server.udp && s.server.listening) = true := hreads
    unfold ServerState.step Stimulus.received
    simp only [hudp, if_true]
    unfold ServerState.datagram
    split
    · rename_i h
      have h : s.server.processSipMessage cfg.server md5 (st.register .listener peer)
          (Reader.sink peer .listener) = _ := h
      rw [h, if_pos rfl]
    · rename_i h
      have h : s.server.processSipMessage cfg.server md5 (st.register .listener peer)
          (Reader.sink peer .listener) = _ := h
      rw [h, if_neg nofun]
      rfl

theorem isRegister_of_branch {text : Str} (h : branchOf text = .ok .register) :
    ServerState.isRegister text = true := by
  rw [isRegister_eq, decide_eq_true_iff]
  unfold branchOf at h
  split at h
  · cases h
  · rename_i method hmethod
    rw [hmethod]
    have hname : requestBranch method = .register := Except.ok.inj h
    unfold requestBranch at hname
    split at hname
    · rename_i he
      rw [he]
    · split_ifs at hname
  · obtain ⟨cseq, -, h⟩ := Res.bind_eq_ok.mp h
    split at h <;> cases h

/-- The REGISTER branch, for the tables of the server. -/
theorem server_processRegister (md5 : List UInt8 → Vector UInt8 16) (s : System) (id : Nat) (job : Job)
    (st : Stimulus) (hreads : s.reads cfg job.reader job.peer = true)
    (hbranch : branchOf st.text = .ok .register) (next : Nat) :
    (({ s with nextJob := next } : System).processRegister cfg md5 id job
        (st.register job.reader job.peer)).server =
      s.server.step cfg.server md5 (st.received job.peer job.reader) := by
  have hresponse := @response_of_processed cfg md5 s.server (st.register job.reader job.peer) job.sink
    (isRegister_of_branch hbranch)
  rw [step_received s st hreads]
  unfold processRegister
  dsimp only
  change _ = if (s.server.processSipMessage cfg.server md5 (st.register job.reader job.peer) job.sink).1 =
      .ok () then (s.server.processSipMessage cfg.server md5 (st.register job.reader job.peer) job.sink).2 else
    (s.server.processSipMessage cfg.server md5 (st.register job.reader job.peer) job.sink).2.step cfg.server md5
      (.crash job.reader.channel)
  rcases hprocess : s.server.processSipMessage cfg.server md5 (st.register job.reader job.peer) job.sink with
    ⟨result, server⟩
  rw [hprocess] at hresponse
  cases result with
  | ok _ =>
    obtain ⟨response, hresponse⟩ := hresponse rfl
    rw [hresponse, if_pos rfl]
    rfl
  | error e =>
    rw [if_neg nofun]
    rfl

/-- The place of a job changes, after what the router counted. -/
theorem Placed.server_append {id : Nat} {job : Job} {s s₁ s₂ : System} {event : SystemEvent}
    (h : Placed cfg md5 id job s₁ s₂)
    (hs₁ : s₁.server = (s.failures cfg B event).foldl (ServerState.step cfg.server md5) s.server) :
    s₂.server = (s.failures cfg B event ++ s₂.crashes id job.reader).foldl
      (ServerState.step cfg.server md5) s.server := by
  rw [List.foldl_append, ← hs₁]
  exact h.server

/-- The router counts nothing when it takes no part. -/
theorem server_of_none {s : System} {event : SystemEvent} (h : s.routerEvent cfg event = none) :
    s.server = (s.failures cfg B event).foldl (ServerState.step cfg.server md5) s.server := by
  rw [failures_of_none h]
  rfl

/-- A job goes on. -/
theorem server_resume {s : System} {id : Nat} {job : Job} (hjob : s.jobs.lookup id = some job) (taken : Bool)
    (d : Draw) :
    (s.step cfg md5 B (.resume id taken d)).server =
      (s.serverEvents cfg md5 B (.resume id taken d)).foldl (ServerState.step cfg.server md5) s.server := by
  have hstep : s.step cfg md5 B (.resume id taken d) = s.proceed cfg md5 B id job taken d := by
    unfold step
    simp only [hjob]
  unfold serverEvents
  simp only [hjob]
  rw [hstep]
  unfold proceed
  cases hpc : job.pc with
  | routing =>
    have hevent : s.routerEvent cfg (.resume id taken d) = some (.resume id taken d) := by
      simp only [routerEvent, hjob, Option.map_some, hpc]
    exact (placed_afterRouter ..).server_append (server_onRouter hevent nofun)
  | messaging =>
    have hevent : s.routerEvent cfg (.resume id taken d) = none := by
      simp only [routerEvent, hjob, Option.map_some, hpc]
    exact (placed_afterService ..).server_append (server_of_none hevent)
  | responding response pendingDelivery =>
    have hevent : s.routerEvent cfg (.resume id taken d) = none := by
      simp only [routerEvent, hjob, Option.map_some, hpc]
    cases pendingDelivery with
    | none => exact (Placed.moved .done nofun).server_append (server_of_none hevent)
    | some extension =>
      exact @Placed.server_append cfg md5 B id job s (s.onService cfg (.deliver id extension)) _ _
        (.moved .done nofun) (server_of_none hevent)
  | done => rfl
  | panicked => rfl

/-- A message is read. -/
theorem server_message {s : System} {reader : Reader} {peer : SocketAddr} {st : Stimulus}
    (henabled : (s.reads cfg reader peer && !s.busy reader) = true) :
    (s.step cfg md5 B (.message reader peer st)).server =
      (s.serverEvents cfg md5 B (.message reader peer st)).foldl (ServerState.step cfg.server md5)
        s.server := by
  have hstep : s.step cfg md5 B (.message reader peer st) = { s with nextJob := s.nextJob + 1 }.process
      cfg md5 B s.nextJob ⟨reader, peer, st.text, .done⟩ st := if_pos henabled
  obtain ⟨hreads, -⟩ := Bool.and_eq_true_iff.mp henabled
  have hother : (∀ handler, branchOf st.text ≠ .ok (.route handler)) →
      s.routerEvent cfg (.message reader peer st) = none := by
    intro hbranch
    unfold routerEvent
    dsimp only
    rw [if_pos henabled]
    split
    · rename_i handler h
      exact absurd h (hbranch handler)
    · rfl
  unfold serverEvents
  dsimp only
  rw [if_pos henabled, hstep]
  unfold process
  rcases hbranch : branchOf st.text with e | branch
  · rw [hbranch] at hother
    exact Placed.crashed.server_append (server_of_none (hother nofun))
  · rw [hbranch] at hother
    cases branch with
    | ignore => exact (Placed.moved .done nofun).server_append (server_of_none (hother nofun))
    | options => exact (Placed.answered _ _).server_append (server_of_none (hother nofun))
    | unsupported => exact (Placed.answered _ _).server_append (server_of_none (hother nofun))
    | register =>
      exact server_processRegister md5 s s.nextJob ⟨reader, peer, st.text, .done⟩ st hreads hbranch
        (s.nextJob + 1)
    | route handler =>
      have hevent : s.routerEvent cfg (.message reader peer st) =
          some (.receive s.nextJob handler (s.incoming reader peer st) st.draw) := by
        simp only [routerEvent, henabled, if_true, hbranch]
      exact (placed_afterRouter ..).server_append (server_onRouter hevent nofun)
    | message => exact (placed_afterService ..).server_append (server_of_none (hother nofun))

/-- **An event and the tables of the server.** -/
theorem server_step (cfg : SystemConfig) (md5 : List UInt8 → Vector UInt8 16) (B : Base64) (s : System)
    (event : SystemEvent) :
    (s.step cfg md5 B event).server =
      (s.serverEvents cfg md5 B event).foldl (ServerState.step cfg.server md5) s.server := by
  cases event with
  | accept addr => rfl
  | handshake addr completed => rfl
  | delivery id taken d => rfl
  | udpCleanup now => rfl
  | cleanup now => rfl
  | close channel =>
    unfold serverEvents step
    dsimp only
    split <;> rfl
  | resume id taken d =>
    cases hjob : s.jobs.lookup id with
    | none =>
      unfold serverEvents step
      simp only [hjob]
      rfl
    | some job => exact server_resume hjob taken d
  | message reader peer st =>
    cases henabled : s.reads cfg reader peer && !s.busy reader with
    | true => exact server_message henabled
    | false =>
      have hdisabled : ¬ (s.reads cfg reader peer && !s.busy reader) = true := by simp [henabled]
      have hstep : s.step cfg md5 B (.message reader peer st) = s := if_neg hdisabled
      unfold serverEvents
      dsimp only
      rw [hstep, if_neg hdisabled]
      rfl

/-- A REGISTER is read, or no message is. -/
theorem serverEvents_cases (cfg : SystemConfig) (md5 : List UInt8 → Vector UInt8 16) (B : Base64) (s : System)
    (event : SystemEvent) :
    (∃ reader peer st, Reads cfg s event reader peer st .register ∧
      s.serverEvents cfg md5 B event = [st.received peer reader]) ∨
    ∀ x ∈ s.serverEvents cfg md5 B event, x.Quiet := by
  have hquiet : ∀ {s' : System} {id : Nat} {reader : Reader},
      ∀ x ∈ s.failures cfg B event ++ s'.crashes id reader, x.Quiet := by
    intro s' id reader x hx
    rcases List.mem_append.mp hx with hx | hx
    · unfold failures at hx
      split at hx
      · rw [List.mem_singleton.mp hx]
        trivial
      · cases hx
    · unfold crashes at hx
      split at hx
      · rw [List.mem_singleton.mp hx]
        trivial
      · cases hx
  have hone : ∀ {x y : ServerEvent}, y.Quiet → x ∈ [y] → x.Quiet := by
    intro x y hy hx
    rwa [List.mem_singleton.mp hx]
  cases event with
  | accept addr => exact .inr fun x hx => hone (y := .accept addr) trivial hx
  | handshake addr completed => exact .inr fun x hx => hone (y := .handshake addr completed) trivial hx
  | delivery id taken d => exact .inr nofun
  | udpCleanup now => exact .inr fun x hx => hone (y := .udpCleanup now) trivial hx
  | cleanup now => exact .inr fun x hx => hone (y := .registrar (.cleanup now)) trivial hx
  | close channel =>
    right
    unfold serverEvents
    dsimp only
    split
    · exact nofun
    · exact fun x hx => hone (y := .close channel) trivial hx
  | resume id taken d =>
    right
    unfold serverEvents
    dsimp only
    split
    · split
      · exact nofun
      · exact hquiet
    · exact nofun
  | message reader peer st =>
    unfold serverEvents
    dsimp only
    split
    · rename_i henabled
      obtain ⟨hreads, hidle⟩ := Bool.and_eq_true_iff.mp henabled
      split
      · rename_i hbranch
        exact .inl ⟨reader, peer, st, ⟨rfl, hreads, by simpa using hidle, hbranch⟩, rfl⟩
      · exact .inr hquiet
    · exact .inr nofun

/-! ## The registrar -/

/-- What an event of the server is for the registrar. -/
def registrarOps (cfg : ServerConfig) (s : ServerState) : ServerEvent → List RegistrarOp
  | .receive channel packet =>
    match s.tasks.lookup channel with
    | some addr =>
      if ServerState.isRegister packet.text then [.register (packet.register addr .tls)] else []
    | none => []
  | .datagram peer packet =>
    if cfg.udp && s.listening then
      if ServerState.isRegister packet.text then [.register (packet.register peer .udp)] else []
    else []
  | .registrar (.register _) => []
  | .registrar op => [op]
  | .accept _ | .handshake .. | .close _ | .crash _ | .udpCleanup _ => []

/-- **An event of the server and the registrar.** -/
theorem registrar_serverStep (cfg : ServerConfig) (md5 : List UInt8 → Vector UInt8 16) (s : ServerState)
    (event : ServerEvent) :
    (s.step cfg md5 event).registrar =
      (registrarOps cfg s event).foldl (RegistrarService.step cfg.registrar md5) s.registrar := by
  have hmessage : ∀ (req : Register) (sink : ConnectionSink),
      (s.processSipMessage cfg md5 req sink).2.registrar =
        (if ServerState.isRegister req.text then [RegistrarOp.register req] else []).foldl
          (RegistrarService.step cfg.registrar md5) s.registrar := by
    intro req sink
    rw [(ServerState.processSipMessage_tables cfg md5 s req sink).1]
    split <;> rfl
  cases event with
  | accept addr =>
    change (s.accept addr).registrar = s.registrar
    unfold ServerState.accept
    split <;> rfl
  | handshake addr completed =>
    change (s.handshake addr completed).registrar = s.registrar
    unfold ServerState.handshake
    split
    · cases completed <;> rfl
    · rfl
  | receive channel packet =>
    unfold ServerState.step registrarOps
    cases htask : s.tasks.lookup channel with
    | none =>
      simp only [htask]
      rfl
    | some addr =>
      have hops := hmessage (packet.register addr .tls) (.stream channel)
      simp only [htask]
      unfold ServerState.receive
      split <;> rename_i h <;> rw [h] at hops <;> exact hops
  | datagram peer packet =>
    unfold ServerState.step registrarOps
    cases cfg.udp && s.listening with
    | false => rfl
    | true =>
      have hops := hmessage (packet.register peer .udp) (.udp peer)
      simp only [if_true]
      unfold ServerState.datagram
      split <;> rename_i h <;> rw [h] at hops <;> exact hops
  | close channel =>
    change _ = s.registrar
    unfold ServerState.step
    dsimp only
    split
    · unfold ServerState.close ServerState.removeConnection
      dsimp only
      split
      · split <;> rfl
      · rfl
    · rfl
  | crash channel => cases channel <;> rfl
  | udpCleanup now => rfl
  | registrar op => cases op <;> rfl

/-! ## Runs -/

section

variable (cfg : SystemConfig) (md5 : List UInt8 → Vector UInt8 16) (B : Base64) (media : MediaRelayManager)

/-- In a run, behind `done`, a message is read in a branch: the job has the number `id`. -/
structure Started (events done : List SystemEvent) (id : Nat) (reader : Reader) (peer : SocketAddr)
    (st : Stimulus) (branch : Branch) : Prop where
  within : done ++ [.message reader peer st] <+: events
  read : Reads cfg (run cfg md5 B media done) (.message reader peer st) reader peer st branch
  id_eq : id = (run cfg md5 B media done).nextJob

/-- The events that a run has for the tables of the server. -/
def serverRun (events : List SystemEvent) : List ServerEvent :=
  projected (step cfg md5 B) (serverEvents cfg md5 B) { router := .start media } events

/-- Those that it has for the router. In front of each, the router looks at the tables of the server. -/
def routerRun (events : List SystemEvent) : List RouterEvent :=
  projected (step cfg md5 B) (fun s event => (s.routerEvent cfg event).elim [] fun x => [s.world, x])
    { router := .start media } events

/-- Those that it has for the message service. -/
def serviceRun (events : List SystemEvent) : List MessageEvent :=
  projected (step cfg md5 B) (fun s event => (s.serviceEvent cfg event).toList) { router := .start media }
    events

/-- What is done to the registrar. -/
def registrarRun (events : List SystemEvent) : List RegistrarOp :=
  projected (ServerState.step cfg.server md5) (registrarOps cfg.server) {}
    (serverRun cfg md5 B media events)

end

variable {media : MediaRelayManager}

theorem Started.mono {events done : List SystemEvent} {id : Nat} {reader : Reader} {peer : SocketAddr}
    {st : Stimulus} {branch : Branch} (h : Started cfg md5 B media events done id reader peer st branch)
    (event : SystemEvent) : Started cfg md5 B media (events ++ [event]) done id reader peer st branch :=
  ⟨h.within.trans (List.prefix_append _ _), h.read, h.id_eq⟩

/-- The router is given a message that is read, or goes on. -/
theorem routerEvent_cases {s : System} {event : SystemEvent} {x : RouterEvent}
    (h : s.routerEvent cfg event = some x) :
    (∃ reader peer st handler, Reads cfg s event reader peer st (.route handler) ∧
      x = .receive s.nextJob handler (s.incoming reader peer st) st.draw) ∨
    ∃ id taken d job, event = .resume id taken d ∧ s.jobs.lookup id = some job ∧ job.pc = .routing ∧
      x = .resume id taken d := by
  unfold routerEvent at h
  split at h
  · rename_i reader peer st
    split at h
    · rename_i henabled
      obtain ⟨hreads, hidle⟩ := Bool.and_eq_true_iff.mp henabled
      split at h
      · rename_i handler hbranch
        cases h
        exact .inl ⟨reader, peer, st, handler, ⟨rfl, hreads, by simpa using hidle, hbranch⟩, rfl⟩
      · cases h
    · cases h
  · rename_i id taken d
    split at h
    · rename_i hpc
      obtain ⟨job, hjob, hpc⟩ := Option.map_eq_some_iff.mp hpc
      cases h
      exact .inr ⟨id, taken, d, job, rfl, hjob, hpc, rfl⟩
    · cases h
  · cases h

/-- The message service is given a message that is read, goes on with one, or starts a delivery or goes on
with it. -/
theorem serviceEvent_cases {s : System} {event : SystemEvent} {x : MessageEvent}
    (h : s.serviceEvent cfg event = some x) :
    (∃ reader peer st, Reads cfg s event reader peer st .message ∧
      x = .submit s.nextJob st.text (s.server.fromExt peer) st.draw.tag) ∨
    (∃ id taken d job, event = .resume id taken d ∧ s.jobs.lookup id = some job ∧ job.pc = .messaging ∧
      x = .call id (s.env d.now) d.branch taken) ∨
    (∃ id taken d job response extension, event = .resume id taken d ∧ s.jobs.lookup id = some job ∧
      job.pc = .responding response (some extension) ∧ x = .deliver id extension) ∨
    ∃ id taken d, event = .delivery id taken d ∧ x = .delivery id (s.env d.now) d.branch taken := by
  unfold serviceEvent at h
  split at h
  · rename_i reader peer st
    split at h
    · rename_i henabled
      obtain ⟨hreads, hidle⟩ := Bool.and_eq_true_iff.mp henabled
      split at h
      · rename_i hbranch
        cases h
        exact .inl ⟨reader, peer, st, ⟨rfl, hreads, by simpa using hidle, hbranch⟩, rfl⟩
      · cases h
    · cases h
  · rename_i id taken d
    split at h
    · rename_i hpc
      obtain ⟨job, hjob, hpc⟩ := Option.map_eq_some_iff.mp hpc
      cases h
      exact .inr (.inl ⟨id, taken, d, job, rfl, hjob, hpc, rfl⟩)
    · rename_i response extension hpc
      obtain ⟨job, hjob, hpc⟩ := Option.map_eq_some_iff.mp hpc
      cases h
      exact .inr (.inr (.inl ⟨id, taken, d, job, response, extension, rfl, hjob, hpc, rfl⟩))
    · cases h
  · rename_i id taken d
    cases h
    exact .inr (.inr (.inr ⟨id, taken, d, rfl, rfl⟩))
  · cases h

/-- A message that is read at the end of a run. -/
theorem started_last {done : List SystemEvent} {event : SystemEvent} {reader : Reader} {peer : SocketAddr}
    {st : Stimulus} {branch : Branch}
    (h : Reads cfg (run cfg md5 B media done) event reader peer st branch) :
    Started cfg md5 B media (done ++ [event]) done (run cfg md5 B media done).nextJob reader peer st
      branch := by
  obtain ⟨rfl, hreads, hidle, hbranch⟩ := h
  exact ⟨List.prefix_refl _, ⟨rfl, hreads, hidle, hbranch⟩, rfl⟩

/-! ## The components of a run -/

theorem run_server (cfg : SystemConfig) (md5 : List UInt8 → Vector UInt8 16) (B : Base64)
    (media : MediaRelayManager) (events : List SystemEvent) :
    (run cfg md5 B media events).server =
      ServerState.run cfg.server md5 (serverRun cfg md5 B media events) :=
  foldl_projected (server_step cfg md5 B) _ events

theorem run_router (cfg : SystemConfig) (md5 : List UInt8 → Vector UInt8 16) (B : Base64)
    (media : MediaRelayManager) (events : List SystemEvent) :
    (run cfg md5 B media events).router =
      Router.run cfg.router B media (routerRun cfg md5 B media events) := by
  refine foldl_projected (fun s event => ?_) _ events
  rw [router_step]
  cases s.routerEvent cfg event <;> rfl

theorem run_service (cfg : SystemConfig) (md5 : List UInt8 → Vector UInt8 16) (B : Base64)
    (media : MediaRelayManager) (events : List SystemEvent) :
    (run cfg md5 B media events).service =
      MessageService.run cfg.message (serviceRun cfg md5 B media events) := by
  refine foldl_projected (fun s event => ?_) _ events
  rw [service_step]
  cases s.serviceEvent cfg event <;> rfl

theorem run_registrar (cfg : SystemConfig) (md5 : List UInt8 → Vector UInt8 16) (B : Base64)
    (media : MediaRelayManager) (events : List SystemEvent) :
    (run cfg md5 B media events).server.registrar =
      RegistrarService.run cfg.registrar md5 (registrarRun cfg md5 B media events) := by
  rw [run_server]
  exact foldl_projected (registrar_serverStep cfg.server md5) _ _

/-- What a step of the message service saw of the server is what was there. -/
theorem env_of_seen {events : List SystemEvent} {env : Env}
    (h : MessageService.Seen (serviceRun cfg md5 B media events) env) :
    ∃ done, done <+: events ∧ env.writers = (run cfg md5 B media done).server.connectionWriters ∧
      env.registrar = (run cfg md5 B media done).server.registrar := by
  obtain ⟨x, hmem, hseen⟩ := h
  obtain ⟨done, event, hdone, hx⟩ := mem_projected hmem
  refine ⟨done, (List.prefix_append ..).trans hdone, ?_⟩
  rcases serviceEvent_cases (Option.mem_toList.mp hx) with
    ⟨_, _, _, -, rfl⟩ | ⟨_, _, _, _, -, -, -, rfl⟩ | ⟨_, _, _, _, _, _, -, -, -, rfl⟩ |
    ⟨_, _, _, -, rfl⟩
  · cases hseen
  · cases hseen
    exact ⟨rfl, rfl⟩
  · cases hseen
  · cases hseen
    exact ⟨rfl, rfl⟩

/-- What was submitted to the message service was read. -/
theorem started_of_submitted {events : List SystemEvent} {id : Nat} {text fromExt : Str}
    (h : MessageService.Submitted (serviceRun cfg md5 B media events) id text fromExt) :
    ∃ done reader peer st, Started cfg md5 B media events done id reader peer st .message ∧
      text = st.text ∧ fromExt = (run cfg md5 B media done).server.fromExt peer := by
  obtain ⟨tag, hmem⟩ := h
  obtain ⟨done, event, hdone, hx⟩ := mem_projected hmem
  rcases serviceEvent_cases (Option.mem_toList.mp hx) with
    ⟨reader, peer, st, hread, he⟩ | ⟨_, _, _, _, -, -, -, he⟩ |
    ⟨_, _, _, _, _, _, -, -, -, he⟩ | ⟨_, _, _, -, he⟩
  · cases he
    obtain ⟨rfl, hreads, hidle, hbranch⟩ := hread
    exact ⟨done, reader, peer, st, ⟨hdone, ⟨rfl, hreads, hidle, hbranch⟩, rfl⟩, rfl, rfl⟩
  · cases he
  · cases he
  · cases he

/-- **A run of the whole server is one of each component**: the tables of the server, the router, the
message service and the registrar are where the events lead that the run has for each of them. What the
router and a step of the message service see is what the server has at that very time (`routerRun`,
`serviceEvent`). -/
theorem components (cfg : SystemConfig) (md5 : List UInt8 → Vector UInt8 16) (B : Base64)
    (media : MediaRelayManager) (events : List SystemEvent) :
    (run cfg md5 B media events).server =
      ServerState.run cfg.server md5 (serverRun cfg md5 B media events) ∧
    (run cfg md5 B media events).router =
      Router.run cfg.router B media (routerRun cfg md5 B media events) ∧
    (run cfg md5 B media events).service =
      MessageService.run cfg.message (serviceRun cfg md5 B media events) ∧
    (run cfg md5 B media events).server.registrar =
      RegistrarService.run cfg.registrar md5 (registrarRun cfg md5 B media events) :=
  ⟨run_server cfg md5 B media events, run_router cfg md5 B media events,
    run_service cfg md5 B media events, run_registrar cfg md5 B media events⟩

end System

end Minghe.Sip
