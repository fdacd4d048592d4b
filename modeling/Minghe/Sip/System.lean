import Minghe.Sip.KeepAlives
import Minghe.Sip.Router

/-!
# The whole server

Model of `process_sip_message` and of what runs around it (`server.rs`, `main.rs`): the read loops and the
UDP listener, the handlers of the registrar, the router and the message service that they call, the
responses, and the deliveries that are spawned.

* `branchOf`: the branch of `process_sip_message` that a text gets to.
* A `Reader` gives one message at a time to `process_sip_message`, and waits for it to come to its end. An
  execution of it is a `Job`. It stops at the places where the handler that it calls does, and at the send
  of its response. Jobs may be interleaved at these places in any order.
* `SystemEvent`: what happens. The steps of the components are those of `ServerState`, `Router` and
  `MessageService`; they share the table of writers and the registrar, which belong to the server here.
* `responses` is not in the source: it records what was given to a sink as the response of a job.
-/

namespace Minghe.Sip

open Minghe.Lib
open Minghe.Media.Relay (MediaRelayManager)
open Minghe.Media.Srtp (Base64)

/-- What does not change, as `main` hands it to the components: the configuration of the registrar, the
address for the SDP, and whether there is a UDP socket. -/
structure SystemConfig where
  registrar : RegistrarConfig
  mediaAddr : Str
  udp : Bool

namespace SystemConfig

def server (cfg : SystemConfig) : ServerConfig := ⟨cfg.registrar, cfg.udp⟩

def message (cfg : SystemConfig) : MessageConfig :=
  ⟨cfg.registrar.domain, cfg.registrar.rangeStart, cfg.registrar.rangeEnd, cfg.udp⟩

def router (cfg : SystemConfig) : RouterConfig := ⟨cfg.message, cfg.registrar, cfg.mediaAddr⟩

end SystemConfig

/-- What calls `process_sip_message`: the read loop of a TLS connection, or the UDP listener. -/
inductive Reader where
  | connection (channel : Nat)
  | listener
  deriving DecidableEq, Repr

/-- The sink for a message from a peer. -/
def Reader.sink (peer : SocketAddr) : Reader → ConnectionSink
  | .connection channel => .stream channel
  | .listener => .udp peer

/-- The channel of a connection. -/
def Reader.channel : Reader → Option Nat
  | .connection channel => some channel
  | .listener => none

/-- The branches of `process_sip_message`. -/
inductive Branch where
  | ignore
  | register
  | route (handler : Handler)
  | message
  | options
  | unsupported
  deriving DecidableEq, Repr

/-- The branch for a request. -/
def requestBranch (method : Str) : Branch :=
  if method = "REGISTER".toList then .register
  else if method = "INVITE".toList then .route .invite
  else if method = "ACK".toList then .route .ack
  else if method = "BYE".toList then .route .bye
  else if method = "CANCEL".toList then .route .cancel
  else if method = "MESSAGE".toList then .message
  else if method = "OPTIONS".toList then .options
  else .unsupported

/-- The branch for a text. -/
def branchOf (text : Str) : Checked Branch :=
  match dispatch text with
  | none => .ok .ignore
  | some (.request method) => .ok (requestBranch method)
  | some .response => do
    if (← extractCseqMethod text) = some "INVITE".toList then return .route .response else return .ignore

/-- A response is owed in this branch. -/
def Branch.answers : Branch → Bool
  | .ignore | .route .ack | .route .response => false
  | .register | .route .invite | .route .bye | .route .cancel | .message | .options | .unsupported => true

/-- Where an execution of `process_sip_message` stands. -/
inductive JobPc where
  /-- In a handler of the router. -/
  | routing
  /-- In `handle_message`. -/
  | messaging
  /-- At the send of the response, with the extension in `pending_delivery`. -/
  | responding (response : Str) (pendingDelivery : Option Str)
  | done
  | panicked
  deriving DecidableEq, Repr

/-- It is at its end. -/
def JobPc.ended : JobPc → Bool
  | .routing | .messaging | .responding .. => false
  | .done | .panicked => true

/-- An execution of `process_sip_message`, with its arguments. -/
structure Job where
  reader : Reader
  peer : SocketAddr
  text : Str
  pc : JobPc
  deriving DecidableEq, Repr

/-- The sink of the peer. -/
def Job.sink (job : Job) : ConnectionSink := job.reader.sink job.peer

/-- A message, with the clock and the random bytes that its handlers see. -/
structure Stimulus where
  text : Str
  draw : Draw
  nonce : Vector UInt8 16

/-- The arguments of `handle_register`. -/
def Stimulus.register (st : Stimulus) (reader : Reader) (peer : SocketAddr) : Register :=
  ⟨st.text, peer, (reader.sink peer).transport, st.draw.now, st.nonce, st.draw.tag⟩

/-- The components, the executions of `process_sip_message`, and the next number for one. A delivery has
the number of the REGISTER that it is spawned for. -/
structure System where
  server : ServerState := {}
  router : Router
  service : MessageService := {}
  jobs : Table Nat Job := ∅
  nextJob : Nat := 0
  responses : List (Nat × Str) := []

/-- What happens: connections come and go, a message is read, a job goes on (its send comes to an end, with
the sink having taken the text or not), a delivery does, or there is a round of a cleanup loop. -/
inductive SystemEvent where
  | accept (addr : SocketAddr)
  | handshake (addr : SocketAddr) (completed : Bool)
  | message (reader : Reader) (peer : SocketAddr) (st : Stimulus)
  | resume (job : Nat) (taken : Bool) (draw : Draw)
  | delivery (job : Nat) (taken : Bool) (draw : Draw)
  | close (channel : Nat)
  | udpCleanup (now : Nat)
  | cleanup (now : Nat)

namespace System

section

variable (cfg : SystemConfig) (md5 : List UInt8 → Vector UInt8 16) (B : Base64)

/-! ## The components -/

/-- A step of the server. -/
def onServer (event : ServerEvent) (s : System) : System :=
  { s with server := s.server.step cfg.server md5 event }

/-- What the router sees of the server. -/
def world (s : System) : RouterEvent := .world s.server.connectionWriters s.server.registrar

/-- A step of the router. What it does to the registrar is done to that of the server. -/
def onRouter (event : RouterEvent) (s : System) : System :=
  let router := (s.router.step cfg.router B s.world).step cfg.router B event
  { s with router, server := { s.server with registrar := router.registrar } }

/-- What a step of the message service sees of the server. -/
def env (now : Nat) (s : System) : Env := ⟨s.server.connectionWriters, s.server.registrar, now⟩

/-- A step of the message service. -/
def onService (event : MessageEvent) (s : System) : System :=
  { s with service := s.service.step cfg.message event }

/-! ## Jobs -/

/-- A job moves on. -/
def setJob (id : Nat) (job : Job) (pc : JobPc) (s : System) : System :=
  { s with jobs := s.jobs.insert id { job with pc } }

/-- A job has its response. -/
def respond (id : Nat) (job : Job) (response : Str) (pendingDelivery : Option Str) (s : System) : System :=
  { s.setJob id job (.responding response pendingDelivery) with
    responses := s.responses ++ [(id, response)] }

/-- A job panics, and its reader with it. -/
def crash (id : Nat) (job : Job) (s : System) : System :=
  (s.onServer cfg md5 (.crash job.reader.channel)).setJob id job .panicked

/-- Where a job is when the handler of the router has stopped. -/
def afterRouter (id : Nat) (job : Job) (s : System) : System :=
  match (s.router.tasks.lookup id).map Task.pc with
  | some (.done (some (_, response))) => s.respond id job response none
  | some (.done none) => s.setJob id job .done
  | some .panicked => s.crash cfg md5 id job
  | _ => s.setJob id job .routing

/-- Where it is when `handle_message` has. -/
def afterService (id : Nat) (job : Job) (s : System) : System :=
  match (s.service.calls.lookup id).map Call.pc with
  | some (.answered _ response) => s.respond id job response none
  | some .panicked => s.crash cfg md5 id job
  | _ => s.setJob id job .messaging

/-- The headers of the answer to an OPTIONS. -/
def optionsHeaders : List (Str × Str) :=
  [("Allow".toList, "INVITE, ACK, BYE, CANCEL, REGISTER, OPTIONS, MESSAGE".toList),
    ("Accept".toList, "application/sdp".toList)]

/-- The REGISTER branch. -/
def processRegister (id : Nat) (job : Job) (req : Register) (s : System) : System :=
  let response := (s.server.registrar.handleRegister cfg.registrar md5 req).1
  let (result, server) := s.server.processSipMessage cfg.server md5 req job.sink
  let s := { s with server }
  match result, response with
  | .ok (), .ok response =>
    let pendingDelivery :=
      match ServerState.registerEffect response req.text with
      | .ok (some (.bind extension)) => some extension
      | _ => none
    s.respond id job response pendingDelivery
  | _, _ => s.crash cfg md5 id job

/-- A text in its branch, up to the first place where the job stops. -/
def process (id : Nat) (job : Job) (st : Stimulus) (s : System) : System :=
  match branchOf st.text with
  | .error _ => s.crash cfg md5 id job
  | .ok .ignore => s.setJob id job .done
  | .ok .register => s.processRegister cfg md5 id job (st.register job.reader job.peer)
  | .ok (.route handler) =>
    let msg : Incoming := ⟨st.text, job.sink, job.peer, s.server.getConnectionExtension job.peer⟩
    (s.onRouter cfg B (.receive id handler msg st.draw)).afterRouter cfg md5 id job
  | .ok .message =>
    (s.onService cfg (.submit id st.text (s.server.fromExt job.peer) st.draw.tag)).afterService cfg md5 id
      job
  | .ok .options =>
    s.respond id job
      (buildResponseWithHeaders st.text 200 "OK".toList optionsHeaders (generateTag st.draw.tag)) none
  | .ok .unsupported =>
    s.respond id job (buildResponse st.text 405 "Method Not Allowed".toList (generateTag st.draw.tag)) none

/-- A job behind a send, or further on in `handle_message`. -/
def proceed (id : Nat) (job : Job) (taken : Bool) (d : Draw) (s : System) : System :=
  match job.pc with
  | .routing => (s.onRouter cfg B (.resume id taken d)).afterRouter cfg md5 id job
  | .messaging =>
    (s.onService cfg (.call id (s.env d.now) d.branch taken)).afterService cfg md5 id job
  | .responding _ none => s.setJob id job .done
  | .responding _ (some extension) => (s.onService cfg (.deliver id extension)).setJob id job .done
  | .done | .panicked => s

/-! ## Steps -/

/-- The reader runs, for this peer. -/
def reads (reader : Reader) (peer : SocketAddr) (s : System) : Bool :=
  match reader with
  | .connection channel => decide (s.server.tasks.lookup channel = some peer)
  | .listener => cfg.udp && s.server.listening

/-- It waits for a job. -/
def busy (reader : Reader) (s : System) : Bool :=
  s.jobs.entries.any fun e => decide (e.2.reader = reader) && !e.2.pc.ended

/-- One event. -/
def step (s : System) : SystemEvent → System
  | .accept addr => s.onServer cfg md5 (.accept addr)
  | .handshake addr completed => s.onServer cfg md5 (.handshake addr completed)
  | .message reader peer st =>
    if s.reads cfg reader peer && !s.busy reader then
      let id := s.nextJob
      { s with nextJob := id + 1 }.process cfg md5 B id ⟨reader, peer, st.text, .done⟩ st
    else s
  | .resume id taken d =>
    match s.jobs.lookup id with
    | some job => s.proceed cfg md5 B id job taken d
    | none => s
  | .delivery id taken d => s.onService cfg (.delivery id (s.env d.now) d.branch taken)
  | .close channel => if s.busy (.connection channel) then s else s.onServer cfg md5 (.close channel)
  | .udpCleanup now => s.onServer cfg md5 (.udpCleanup now)
  | .cleanup now => s.onServer cfg md5 (.registrar (.cleanup now))

/-- A run from the start of the server, with a manager for the ports. -/
def run (media : MediaRelayManager) (events : List SystemEvent) : System :=
  events.foldl (step cfg md5 B) { router := .start media }

theorem run_append (media : MediaRelayManager) (events : List SystemEvent) (event : SystemEvent) :
    run cfg md5 B media (events ++ [event]) = (run cfg md5 B media events).step cfg md5 B event :=
  List.foldl_concat ..

end

end System

end Minghe.Sip
