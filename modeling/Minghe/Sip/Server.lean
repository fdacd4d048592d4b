import Minghe.Sip.Registered

/-!
# The server's connections

Model of `server.rs`: the table of connections, what a REGISTER does to it and to the writers of the
router, and the loops that open and close connections.

* An event is what the server does for one connection, message or datagram, or one round of a loop. The
  updates of one event follow each other without an `await`.
* `tasks` are the `handle_connection` tasks that run, with the addresses of their peers. A channel is
  known by a number, and every connection has a new one. A panic ends the task it happens in, without
  the cleanup.
* Messages other than REGISTER do not touch these tables. What they do to the registrar is an event of
  its own.
-/

namespace Minghe.Sip

open Minghe.Lib

/-- `MAX_CONNECTIONS`. -/
abbrev maxConnections : Nat := 1024

/-- `ConnectionState`. Its `peer_addr` is the key of the table. -/
structure ConnectionState where
  extension : Option Str := none
  sink : ConnectionSink
  deriving DecidableEq, Repr

/-- What does not change: the configuration of the registrar, and whether there is a UDP socket. -/
structure ServerConfig where
  registrar : RegistrarConfig
  udp : Bool

/-- The tables of `ServerState` and of the router, and the tasks. The peers whose TLS handshake is not
finished are listed, the source counts them. -/
structure ServerState where
  connections : Table SocketAddr ConnectionState := ∅
  pendingHandshakes : List SocketAddr := []
  connectionWriters : Table Str ConnectionSink := ∅
  registrar : RegistrarService := {}
  tasks : Table Nat SocketAddr := ∅
  nextChannel : Nat := 0
  listening : Bool := true

/-- A message, with the clock and the random bytes that its handler sees. -/
structure Packet where
  text : Str
  now : Nat
  nonce : Vector UInt8 16
  tag : Vector UInt8 8

/-- The arguments of `handle_register`. -/
def Packet.register (p : Packet) (addr : SocketAddr) (transport : Transport) : Register :=
  ⟨p.text, addr, transport, p.now, p.nonce, p.tag⟩

/-- What happens to the server. -/
inductive ServerEvent where
  /-- A TCP connection is accepted, if there is room. -/
  | accept (addr : SocketAddr)
  /-- A TLS handshake ends. -/
  | handshake (addr : SocketAddr) (completed : Bool)
  /-- A message on a TLS connection. -/
  | receive (channel : Nat) (packet : Packet)
  /-- A datagram. -/
  | datagram (peer : SocketAddr) (packet : Packet)
  /-- The read loop of a connection ends. -/
  | close (channel : Nat)
  /-- The handler of some other message panics, on a connection or in the UDP listener. -/
  | crash (channel : Option Nat)
  /-- A round of `udp_session_cleanup_loop`. -/
  | udpCleanup (now : Nat)
  /-- What else is done to the registrar. -/
  | registrar (op : RegistrarOp)

/-- What a REGISTER that was answered with 200 means for its connection. -/
inductive RegisterEffect where
  | bind (extension : Str)
  | unbind (extension : Str)
  deriving DecidableEq, Repr

namespace ServerState

/-! ## The table of connections -/

/-- `register_connection`. -/
def registerConnection (addr : SocketAddr) (sink : ConnectionSink) (s : ServerState) : ServerState :=
  { s with connections := s.connections.insert addr { sink } }

/-- `set_connection_extension`. -/
def setConnectionExtension (addr : SocketAddr) (extension : Str) (s : ServerState) : ServerState :=
  { s with connections := s.connections.modify addr fun c => { c with extension := some extension } }

/-- `clear_connection_extension`. -/
def clearConnectionExtension (addr : SocketAddr) (s : ServerState) : ServerState :=
  { s with connections := s.connections.modify addr fun c => { c with extension := none } }

/-- `has_connection_for_extension`. -/
def hasConnectionForExtension (extension : Str) (s : ServerState) : Bool :=
  s.connections.entries.any fun e => decide (e.2.extension = some extension)

/-- `get_connection_extension`. -/
def getConnectionExtension (addr : SocketAddr) (s : ServerState) : Option Str :=
  (s.connections.lookup addr).bind fun c => c.extension

/-- `remove_connection`. -/
def removeConnection (addr : SocketAddr) (s : ServerState) : Option Str × ServerState :=
  (s.getConnectionExtension addr, { s with connections := s.connections.erase addr })

/-- `Router::register_writer`. -/
def registerWriter (extension : Str) (sink : ConnectionSink) (s : ServerState) : ServerState :=
  { s with connectionWriters := s.connectionWriters.insert extension sink }

/-- `Router::unregister_writer`. -/
def unregisterWriter (extension : Str) (s : ServerState) : ServerState :=
  { s with connectionWriters := s.connectionWriters.erase extension }

/-! ## Messages -/

/-- `process_sip_message` has a REGISTER to handle. -/
def isRegister (text : Str) : Bool :=
  !(trim text).isEmpty && isRequest text && decide (extractMethod text = some "REGISTER".toList)

/-- What the REGISTER branch of `process_sip_message` reads off the request and its response. -/
def registerEffect (response text : Str) : Checked (Option RegisterEffect) :=
  if extractStatusCode response = some 200 then do
    match ← extractUriFromHeader text "To".toList with
    | none => return none
    | some uri =>
      match ← extractExtension uri with
      | none => return none
      | some extension =>
        if (← extractExpires text) = some 0 then return some (.unbind extension)
        else return some (.bind extension)
  else .ok none

/-- What it does to the tables. -/
def applyEffect (addr : SocketAddr) (transport : Transport) (sink : ConnectionSink) :
    RegisterEffect → ServerState → ServerState
  | .unbind extension, s => (s.clearConnectionExtension addr).unregisterWriter extension
  | .bind extension, s =>
    let s := s.setConnectionExtension addr extension
    if transport = .tls then s.registerWriter extension sink else s

/-- The sender of a MESSAGE or BYE from an address. -/
def fromExt (addr : SocketAddr) (s : ServerState) : Str := (s.getConnectionExtension addr).getD []

variable (cfg : ServerConfig) (md5 : List UInt8 → Vector UInt8 16)

/-- The REGISTER branch of `process_sip_message`. -/
def processRegister (req : Register) (sink : ConnectionSink) (s : ServerState) :
    Checked Unit × ServerState :=
  let (response, registrar) := s.registrar.handleRegister cfg.registrar md5 req
  let s := { s with registrar }
  match response.bind fun response => registerEffect response req.text with
  | .error e => (.error e, s)
  | .ok none => (.ok (), s)
  | .ok (some effect) => (.ok (), applyEffect req.fromAddr req.transport sink effect s)

/-- `process_sip_message`. -/
def processSipMessage (req : Register) (sink : ConnectionSink) (s : ServerState) :
    Checked Unit × ServerState :=
  if isRegister req.text then processRegister cfg md5 req sink s else (.ok (), s)

/-! ## Loops -/

/-- The accept loop. -/
def accept (addr : SocketAddr) (s : ServerState) : ServerState :=
  if maxConnections ≤ s.connections.size + s.pendingHandshakes.length then s
  else { s with pendingHandshakes := addr :: s.pendingHandshakes }

/-- The end of a handshake, and the start of `handle_connection`. -/
def handshake (addr : SocketAddr) (completed : Bool) (s : ServerState) : ServerState :=
  if addr ∈ s.pendingHandshakes then
    let s := { s with pendingHandshakes := s.pendingHandshakes.erase addr }
    if completed then
      { s.registerConnection addr (.stream s.nextChannel) with
        tasks := s.tasks.insert s.nextChannel addr
        nextChannel := s.nextChannel + 1 }
    else s
  else s

/-- The read loop of `handle_connection`, for a message. -/
def receive (channel : Nat) (addr : SocketAddr) (packet : Packet) (s : ServerState) : ServerState :=
  match s.processSipMessage cfg md5 (packet.register addr .tls) (.stream channel) with
  | (.ok (), s) => s
  | (.error _, s) => { s with tasks := s.tasks.erase channel }

/-- `run_udp_listener`, for a datagram. -/
def datagram (peer : SocketAddr) (packet : Packet) (s : ServerState) : ServerState :=
  match s.processSipMessage cfg md5 (packet.register peer .udp) (.udp peer) with
  | (.ok (), s) => s
  | (.error _, s) => { s with listening := false }

/-- The end of `handle_connection`. -/
def close (channel : Nat) (addr : SocketAddr) (s : ServerState) : ServerState :=
  let (extension, s) := s.removeConnection addr
  let s := { s with tasks := s.tasks.erase channel }
  match extension with
  | some extension =>
    if s.hasConnectionForExtension extension then s else s.unregisterWriter extension
  | none => s

/-- A round of `udp_session_cleanup_loop`. -/
def udpCleanup (now : Nat) (s : ServerState) : ServerState :=
  { s with
    connections := s.connections.retain fun _ c =>
      decide (c.sink.transport ≠ .udp) ||
        c.extension.any fun extension => s.registrar.isRegistered now extension }

/-- One event. -/
def step (s : ServerState) : ServerEvent → ServerState
  | .accept addr => s.accept addr
  | .handshake addr completed => s.handshake addr completed
  | .receive channel packet =>
    match s.tasks.lookup channel with
    | some addr => s.receive cfg md5 channel addr packet
    | none => s
  | .datagram peer packet => if cfg.udp && s.listening then s.datagram cfg md5 peer packet else s
  | .close channel =>
    match s.tasks.lookup channel with
    | some addr => s.close channel addr
    | none => s
  | .crash (some channel) => { s with tasks := s.tasks.erase channel }
  | .crash none => { s with listening := false }
  | .udpCleanup now => s.udpCleanup now
  | .registrar (.register _) => s
  | .registrar op => { s with registrar := s.registrar.step cfg.registrar md5 op }

/-- A run from the start of the server. -/
def run (events : List ServerEvent) : ServerState := events.foldl (step cfg md5) {}

theorem run_append (events : List ServerEvent) (event : ServerEvent) :
    run cfg md5 (events ++ [event]) = (run cfg md5 events).step cfg md5 event := by
  rw [run, List.foldl_append]
  rfl

end ServerState

end Minghe.Sip
