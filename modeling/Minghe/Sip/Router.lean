import Minghe.Media.Relay
import Minghe.Sip.Answer
import Minghe.Sip.Message
import Minghe.Sip.Sdp

/-!
# The call router

Model of `Router` (`router.rs`): the table of active calls, and the handlers of INVITE, of the callee's
responses, ACK, BYE and CANCEL.

* An execution of a handler runs without interruption up to a `send(..).await`, and goes on when the send
  has come to an end. Its place in between is a `Pc`, and the executions are `tasks`. Executions may be
  interleaved at these places in any order.
* The registrar and the writers belong to the rest of the server as well, which may change them at any
  time (`RouterEvent.world`).
* The lock of `active_calls` is poisoned when a handler panics while it writes; from then on every access
  to the table panics. A panic ends the execution where it is.
* `sent` is not in the source: it records the requests that the router sent on, and the answers to INVITEs
  that it sent or returned to the server. What is only logged is not read.
-/

namespace Minghe.Sip

open Minghe.Lib
open Minghe.Media.Relay (MediaRelayManager RelaySession)
open Minghe.Media.Srtp (Base64 SuiteKeys)

/-! ## Calls -/

/-- `CallState`. -/
inductive CallState where
  | trying
  | ringing
  | established
  | terminated
  deriving DecidableEq, Repr

/-- `CallInfo`. `invite` is not in the source: the execution of `handle_invite` that made the entry. -/
structure CallInfo where
  callId : Str
  callerExt : Str
  calleeExt : Str
  callerTag : Str
  calleeTag : Option Str
  callerRemoteContact : Option Str
  calleeRemoteContact : Option Str
  state : CallState
  originalInvite : Str
  callerSink : ConnectionSink
  calleeSink : Option ConnectionSink
  callerRemoteCrypto : Option SuiteKeys
  callerRemoteCryptoTag : Nat
  callerLocalCrypto : Option SuiteKeys
  calleeRemoteCrypto : Option SuiteKeys
  calleeLocalCrypto : Option SuiteKeys
  calleeLocalCryptoGcm : Option SuiteKeys
  callerMediaAddr : Option SocketAddr
  calleeMediaAddr : Option SocketAddr
  callerRelayPort : UInt16
  calleeRelayPort : UInt16
  relayStarted : Bool
  invite : Nat
  deriving DecidableEq, Repr

/-- The fields of `Router` that never change; `message` has those it shares with the message service. -/
structure RouterConfig where
  message : MessageConfig
  registrar : RegistrarConfig
  mediaAddr : Str

/-- A SIP message as it reaches a handler: where it came from, and the extension of its connection. -/
structure Incoming where
  text : Str
  sink : ConnectionSink
  fromAddr : SocketAddr
  connectionExt : Option Str := none

/-- The clock and the random bytes that a step sees. -/
structure Draw where
  now : Nat
  branch : Vector UInt8 8
  tag : Vector UInt8 8
  callerKey : Vector UInt8 30
  calleeKey : Vector UInt8 30
  calleeKeyGcm : Vector UInt8 30

/-- What the router sends: a request that it sends on, or an answer to the INVITE of the execution
`invite`, perhaps in place of a response of the callee. -/
inductive Outgoing where
  | request (sink : ConnectionSink) (text : Str)
  | answer (invite : Nat) (statusCode : Nat) (sink : ConnectionSink) (text : Str)
      (calleeResponse : Option Str)
  deriving DecidableEq, Repr

/-- Where an execution is: at the end, or sending. The result of a handler is a status and a text, or
nothing. -/
inductive Pc where
  /-- `handle_invite`: the INVITE to the callee. -/
  | invite (callId : Str) (out : Outgoing)
  /-- `handle_callee_response`: a refusal to the caller. -/
  | reject (callId : Str) (out : Outgoing)
  /-- `handle_callee_response`: the response to the caller. -/
  | forward (callId : Str) (statusCode : Nat) (out : Outgoing)
  /-- `handle_ack`: the ACK to the callee. -/
  | ack (out : Outgoing)
  /-- `handle_bye`: the BYE to the other side. -/
  | bye (callId : Str) (out : Outgoing)
  /-- `handle_cancel`: the CANCEL to the callee. -/
  | cancel (callId : Str) (originalInvite : Str) (invite : Nat) (out : Outgoing)
  /-- `handle_cancel`: the 487 to the caller. -/
  | terminate (callId : Str) (out : Outgoing)
  | done (result : Option (Nat × Str))
  | panicked
  deriving DecidableEq, Repr

/-- What an execution is sending. -/
def Pc.sending : Pc → Option Outgoing
  | .invite _ out | .reject _ out | .forward _ _ out | .ack out | .bye _ out | .cancel _ _ _ out
  | .terminate _ out => some out
  | .done _ | .panicked => none

/-- The handlers. -/
inductive Handler where
  | invite
  | response
  | ack
  | bye
  | cancel
  deriving DecidableEq, Repr

/-- An execution of a handler. -/
structure Task where
  handler : Handler
  msg : Incoming
  pc : Pc

/-- The arguments of a `run_relay` task. The shutdown channel has a number. -/
structure RelayStart where
  callId : Str
  callerPort : UInt16
  calleePort : UInt16
  callerDecryptCrypto : Option SuiteKeys
  calleeEncryptCrypto : Option SuiteKeys
  calleeDecryptCrypto : Option SuiteKeys
  callerEncryptCrypto : Option SuiteKeys
  callerMediaAddr : Option SocketAddr
  calleeMediaAddr : Option SocketAddr
  shutdown : Nat
  deriving DecidableEq, Repr

/-- The tables of `Router`, what it shares, and the executions. -/
structure Router where
  activeCalls : Table Str CallInfo := ∅
  poisoned : Bool := false
  media : MediaRelayManager
  registrar : RegistrarService := {}
  writers : Table Str ConnectionSink := ∅
  tasks : Table Nat Task := ∅
  sent : List Outgoing := []
  relays : List RelayStart := []

/-- What happens: the rest of the server does something, a message is handled, or a send ends. -/
inductive RouterEvent where
  | world (writers : Table Str ConnectionSink) (registrar : RegistrarService)
  | receive (id : Nat) (handler : Handler) (msg : Incoming) (draw : Draw)
  | resume (id : Nat) (taken : Bool) (draw : Draw)

namespace Router

/-- `cleanup_call`. -/
def cleanupCall (callId : Str) (s : Router) : Router :=
  match s.activeCalls.lookup callId with
  | some _ =>
    { s with
      activeCalls := s.activeCalls.erase callId
      media := (s.media.removeSession callId).2 }
  | none => s

/-- The end of an execution that cleans up. -/
def cleanupThen (callId : Str) (result : Option (Nat × Str)) (s : Router) : Pc × Router :=
  if s.poisoned then (.panicked, s) else (.done result, s.cleanupCall callId)

section

variable (cfg : RouterConfig) (B : Base64)

/-- A response to the message that is handled, as the result of the handler. -/
def reply (msg : Incoming) (d : Draw) (statusCode : Nat) (reason : String) : Option (Nat × Str) :=
  some (statusCode, buildResponse msg.text statusCode reason.toList (generateTag d.tag))

/-! ## INVITE -/

/-- The extension of the `From` of a request. -/
def callerOf (text : Str) : Checked Str := do
  match ← extractUriFromHeader text "From".toList with
  | some uri => return (← extractExtension uri).getD []
  | none => return []

/-- The checks of `handle_invite` on the caller: it is registered, and the connection is authenticated
as it, or has no extension and is a UDP one from the address that the extension registered from. -/
def mayCall (msg : Incoming) (callerExt : Str) (now : Nat) (s : Router) : Bool :=
  !callerExt.isEmpty && s.registrar.isRegistered now callerExt &&
    match msg.connectionExt with
    | some ext => decide (ext = callerExt)
    | none =>
      decide (msg.sink.transport = .udp) &&
        (s.registrar.lookup now callerExt).any fun reg => decide (reg.transportAddr.ip = msg.fromAddr.ip)

/-- What an INVITE is forwarded by. -/
structure InvitePlan where
  calleeSink : ConnectionSink
  body : Str
  cryptoTag : Nat
  crypto : SuiteKeys
  deriving DecidableEq, Repr

/-- The checks of `handle_invite` on the callee and the SDP: a plan, or a status and a reason. -/
def planInvite (calleeExt text : Str) (now : Nat) (s : Router) :
    Checked (Except (Nat × String) InvitePlan) :=
  if !s.registrar.isRegistered now calleeExt then do
    -- the warning in the log reads the `To`, which can panic
    let _ ← extractUriFromHeader text "To".toList
    return .error (404, "Not Found")
  else
    match cfg.message.getOutbound ⟨s.writers, s.registrar, now⟩ calleeExt with
    | none => .ok (.error (480, "Temporarily Unavailable"))
    | some calleeSink => do
      match ← extractBody text with
      | none => return .error (488, "Not Acceptable Here")
      | some body =>
        match extractSrtpCryptoFromSdp B body with
        | none => return .error (488, "Not Acceptable Here")
        | some (cryptoTag, crypto) => return .ok ⟨calleeSink, body, cryptoTag, crypto⟩

/-- The keys of the server that the callee is offered: `callee_local_crypto`, and the one for GCM. -/
def calleeLocalCrypto (d : Draw) : SuiteKeys := .newWithSuite .aesCm128HmacSha180 d.calleeKey
def calleeLocalCryptoGcm (d : Draw) : SuiteKeys := .newWithSuite .aeadAes128Gcm d.calleeKeyGcm

/-- `callee_cryptos`. -/
def calleeCryptos (d : Draw) : List SdpCrypto :=
  [⟨1, (calleeLocalCrypto d).suite.sdpName, (calleeLocalCrypto d).toSdesKey B⟩,
    ⟨2, (calleeLocalCryptoGcm d).suite.sdpName, (calleeLocalCryptoGcm d).toSdesKey B⟩]

/-- The SDP for the callee. -/
def calleeSdp (plan : InvitePlan) (session : RelaySession) (d : Draw) : Str :=
  rewriteSdpWithCryptos cfg.mediaAddr session.calleePort (calleeCryptos B d) plan.body

/-- `callee_invite`. The bytes of a text are the text again for `build_outbound_request_bytes`. -/
def calleeInvite (text callerExt calleeExt : Str) (plan : InvitePlan) (session : RelaySession) (d : Draw)
    (s : Router) : Checked Str := do
  let targetUri := registeredContactUri calleeExt cfg.message.domain d.now s.registrar
  let rebuilt ← rebuildRequestWithSdp text (calleeSdp cfg B plan session d)
  buildOutboundRequest rebuilt targetUri cfg.message.domain
    (serverContactUri callerExt cfg.message.domain plan.calleeSink.transport) plan.calleeSink.transport
    d.branch

/-- `call_info`, for an INVITE that names the caller's contact. -/
def newCall (id : Nat) (msg : Incoming) (callerExt calleeExt callId callerTag : Str)
    (callerRemoteContact : Option Str) (plan : InvitePlan) (session : RelaySession) (d : Draw) :
    CallInfo where
  callId := callId
  callerExt := callerExt
  calleeExt := calleeExt
  callerTag := callerTag
  calleeTag := none
  callerRemoteContact := callerRemoteContact
  calleeRemoteContact := none
  state := .trying
  originalInvite := msg.text
  callerSink := msg.sink
  calleeSink := some plan.calleeSink
  callerRemoteCrypto := some plan.crypto
  callerRemoteCryptoTag := plan.cryptoTag
  callerLocalCrypto := some (.newWithSuite plan.crypto.suite d.callerKey)
  calleeRemoteCrypto := none
  calleeLocalCrypto := some (calleeLocalCrypto d)
  calleeLocalCryptoGcm := some (calleeLocalCryptoGcm d)
  callerMediaAddr := extractAudioMediaAddrFromSdp plan.body
  calleeMediaAddr := none
  callerRelayPort := session.callerPort
  calleeRelayPort := session.calleePort
  relayStarted := false
  invite := id

/-- `handle_invite` behind `create_session`. The contact is read when the session is there already. -/
def openCall (id : Nat) (msg : Incoming) (d : Draw) (callerExt calleeExt callId callerTag : Str)
    (plan : InvitePlan) (session : RelaySession) (s : Router) : Pc × Router :=
  match calleeInvite cfg B msg.text callerExt calleeExt plan session d s with
  | .error _ => (.panicked, s)
  | .ok calleeInvite =>
    match extractContactUri msg.text with
    | .error _ => (.panicked, s)
    | .ok contact =>
      let call := newCall id msg callerExt calleeExt callId callerTag contact plan session d
      (.invite callId (.request plan.calleeSink calleeInvite),
        { s with activeCalls := s.activeCalls.insert callId call })

/-- `handle_invite` from the check for a call that is left over with the same Call-ID. -/
def acceptInvite (id : Nat) (msg : Incoming) (d : Draw) (callerExt calleeExt callId callerTag : Str)
    (s : Router) : Pc × Router :=
  if s.poisoned then (.panicked, s)
  else
    let s := s.cleanupCall callId
    match planInvite cfg B calleeExt msg.text d.now s with
    | .error _ => (.panicked, s)
    | .ok (.error (statusCode, reason)) => (.done (reply msg d statusCode reason), s)
    | .ok (.ok plan) =>
      let (session, media) := s.media.createSession callId
      let s := { s with media }
      match session with
      | none => (.done (reply msg d 503 "Service Unavailable"), s)
      | some session => openCall cfg B id msg d callerExt calleeExt callId callerTag plan session s

/-- `handle_invite`. -/
def handleInvite (id : Nat) (msg : Incoming) (d : Draw) (s : Router) : Pc × Router :=
  let forbidden := Pc.done (reply msg d 403 "Forbidden")
  if s.registrar.isBlocked cfg.registrar msg.fromAddr.ip then (forbidden, s)
  else
    match callerOf msg.text, extractCalledExtension msg.text with
    | .ok callerExt, .ok calleeExt =>
      if mayCall msg callerExt d.now s then
        match extractCallId msg.text, extractFromTag msg.text with
        | .ok callId, .ok callerTag =>
          acceptInvite cfg B id msg d callerExt (calleeExt.getD []) (callId.getD []) (callerTag.getD []) s
        | _, _ => (.panicked, s)
      else
        (forbidden, { s with
          registrar := (s.registrar.recordFailure cfg.registrar d.now msg.fromAddr.ip).2 })
    | _, _ => (.panicked, s)

/-! ## Responses -/

/-- The tag of the callee is taken from the first response that has one. -/
def learnTag (text : Str) (c : CallInfo) : Checked Unit × CallInfo :=
  if c.calleeTag.isNone then
    match extractToTag text with
    | .error e => (.error e, c)
    | .ok tag => (.ok (), { c with calleeTag := tag })
  else (.ok (), c)

/-- So is its contact. -/
def learnContact (text : Str) (c : CallInfo) : Checked Unit × CallInfo :=
  if c.calleeRemoteContact.isNone then
    match extractContactUri text with
    | .error e => (.error e, c)
    | .ok contact => (.ok (), { c with calleeRemoteContact := contact })
  else (.ok (), c)

/-- The keys that the callee answers with, if it chose from what it was offered. -/
def answeredCrypto (body : Option Str) : Option SuiteKeys :=
  (body.bind (extractSrtpCryptoFromSdp B)).bind fun (tag, crypto) =>
    if calleeAnswerCryptoIsOffered tag crypto.suite then some crypto else none

/-- The SDP of a 200. -/
def readAnswer (text : Str) (c : CallInfo) : Checked Unit × CallInfo :=
  match extractBody text with
  | .error e => (.error e, c)
  | .ok body =>
    match answeredCrypto B body with
    | some crypto =>
      (.ok (), { c with
        calleeRemoteCrypto := some crypto
        calleeMediaAddr := body.bind extractAudioMediaAddrFromSdp
        state := .established })
    | none => (.ok (), { c with state := .terminated })

/-- What `handle_callee_response` does to the entry of the call under the lock. -/
def updateCall (statusCode : Nat) (text : Str) (c : CallInfo) : Checked Unit × CallInfo :=
  if statusCode = 100 then (.ok (), c)
  else if statusCode = 180 ∨ statusCode = 183 then learnTag text { c with state := .ringing }
  else if statusCode = 200 then
    match learnTag text c with
    | (.error e, c) => (.error e, c)
    | (.ok (), c) =>
      match learnContact text c with
      | (.error e, c) => (.error e, c)
      | (.ok (), c) => readAnswer B text c
  else if 400 ≤ statusCode then (.ok (), { c with state := .terminated })
  else (.ok (), c)

/-- The reason of a response that is passed on. -/
def forwardedReason (statusCode : Nat) (hasBody : Bool) (text : Str) : Str :=
  if statusCode = 100 then "Trying".toList
  else if statusCode = 180 then "Ringing".toList
  else if statusCode = 183 then "Session Progress".toList
  else if statusCode = 200 then "OK".toList
  else if hasBody then reasonPhrase text
  else if statusCode = 404 then "Not Found".toList
  else if statusCode = 486 then "Busy Here".toList
  else if statusCode = 487 then "Request Terminated".toList
  else if statusCode = 603 then "Decline".toList
  else reasonPhrase text

/-- The SDP for the caller, with the key of the server for this call. -/
def callerSdp (crypto : SuiteKeys) (body : Str) (c : CallInfo) : Str :=
  fillMissingRtpmap (ensureAnswerCryptoNotLastLine (rewriteSdpWithCryptos cfg.mediaAddr c.callerRelayPort
    [⟨c.callerRemoteCryptoTag, crypto.suite.sdpName, crypto.toSdesKey B⟩] body))

/-- The response for the caller, unless a key is missing. -/
def forwardedResponse (statusCode : Nat) (text : Str) (c : CallInfo) : Checked (Option Str) := do
  let contactUri := serverContactUri c.calleeExt cfg.message.domain c.callerSink.transport
  match ← extractBody text with
  | some body =>
    return c.callerLocalCrypto.map fun crypto =>
      buildForwardedInviteResponse c.originalInvite text statusCode (forwardedReason statusCode true text)
        contactUri (callerSdp cfg B crypto body c)
  | none =>
    return some (buildForwardedInviteResponse c.originalInvite text statusCode
      (forwardedReason statusCode false text) contactUri [])

/-- `handle_callee_response` behind the update of the entry. -/
def passOn (callId : Str) (statusCode : Nat) (msg : Incoming) (d : Draw) (c : CallInfo) : Pc :=
  let refuse (code : Nat) (reason : String) : Pc :=
    .reject callId (.answer c.invite code c.callerSink
      (buildResponse c.originalInvite code reason.toList (generateTag d.tag)) none)
  if statusCode = 200 ∧ c.calleeRemoteCrypto = none then refuse 488 "Not Acceptable Here"
  else
    match forwardedResponse cfg B statusCode msg.text c with
    | .error _ => .panicked
    | .ok none => refuse 500 "Internal Server Error"
    | .ok (some text) =>
      .forward callId statusCode (.answer c.invite statusCode c.callerSink text (some msg.text))

/-- `handle_callee_response`. -/
def handleCalleeResponse (msg : Incoming) (d : Draw) (s : Router) : Pc × Router :=
  match extractCallId msg.text with
  | .error _ => (.panicked, s)
  | .ok none => (.done none, s)
  | .ok (some callId) =>
    match extractStatusCode msg.text with
    | none => (.done none, s)
    | some statusCode =>
      if s.poisoned then (.panicked, s)
      else
        match s.activeCalls.lookup callId with
        | none => (.done none, s)
        | some call =>
          let (result, call) := updateCall B statusCode msg.text call
          let s := { s with activeCalls := s.activeCalls.insert callId call }
          match result with
          | .error _ => (.panicked, { s with poisoned := true })
          | .ok () => (passOn cfg B callId statusCode msg d call, s)

/-- `start_media_relay`. -/
def startMediaRelay (callId : Str) (s : Router) : Router :=
  match s.activeCalls.lookup callId with
  | none => s
  | some c =>
    let calleeEncryptCrypto :=
      if c.calleeRemoteCrypto.map SuiteKeys.suite = some .aeadAes128Gcm then
        c.calleeLocalCryptoGcm.or c.calleeLocalCrypto
      else c.calleeLocalCrypto
    let shutdown := s.relays.length
    { s with
      media := s.media.registerShutdown callId shutdown
      relays := s.relays ++ [⟨callId, c.callerRelayPort, c.calleeRelayPort, c.callerRemoteCrypto,
        calleeEncryptCrypto, c.calleeRemoteCrypto, c.callerLocalCrypto, c.callerMediaAddr,
        c.calleeMediaAddr, shutdown⟩] }

/-- The end of `handle_callee_response` for a 200: the relay is started, once. -/
def startOnce (callId : Str) (s : Router) : Router :=
  match s.activeCalls.lookup callId with
  | none => s
  | some c =>
    if !c.relayStarted && c.calleeRemoteCrypto.isSome then
      startMediaRelay callId
        { s with activeCalls := s.activeCalls.insert callId { c with relayStarted := true } }
    else s

/-! ## ACK, BYE and CANCEL -/

/-- The remote target of the callee, or of the caller. -/
def calleeTarget (c : CallInfo) (now : Nat) (s : Router) : Str :=
  c.calleeRemoteContact.getD (registeredContactUri c.calleeExt cfg.message.domain now s.registrar)
def callerTarget (c : CallInfo) (now : Nat) (s : Router) : Str :=
  c.callerRemoteContact.getD (registeredContactUri c.callerExt cfg.message.domain now s.registrar)

/-- A request as it is sent on within a call. -/
def relayed (msg : Incoming) (targetUri : Str) (sink : ConnectionSink) (d : Draw) : Checked Outgoing := do
  return .request sink
    (← buildOutboundRequest msg.text targetUri cfg.message.domain [] sink.transport d.branch)

/-- `handle_ack`. -/
def handleAck (msg : Incoming) (d : Draw) (s : Router) : Pc × Router :=
  match extractCallId msg.text with
  | .error _ => (.panicked, s)
  | .ok none => (.done none, s)
  | .ok (some callId) =>
    if s.poisoned then (.panicked, s)
    else
      match s.activeCalls.lookup callId with
      | none => (.done none, s)
      | some c =>
        match c.calleeSink with
        | none => (.done none, s)
        | some sink =>
          match relayed cfg msg (calleeTarget cfg c d.now s) sink d with
          | .error _ => (.panicked, s)
          | .ok out => (.ack out, s)

/-- A call that is not there, or not for this peer. -/
def noCall (msg : Incoming) (d : Draw) : Option (Nat × Str) :=
  reply msg d 481 "Call/Transaction Does Not Exist"

/-- Whether a BYE comes from the caller's side, and whether from the callee's: by its tag, or by the
extension of its connection. -/
def byeFromCaller (fromTag fromExtension : Str) (c : CallInfo) : Bool :=
  (!fromTag.isEmpty && decide (fromTag = c.callerTag)) ||
    (!fromExtension.isEmpty && decide (fromExtension = c.callerExt))
def byeFromCallee (fromTag fromExtension : Str) (c : CallInfo) : Bool :=
  (!fromTag.isEmpty && decide (c.calleeTag = some fromTag)) ||
    (!fromExtension.isEmpty && decide (fromExtension = c.calleeExt))

/-- The headers of a BYE that `handle_bye` reads for its log. -/
def byeHeaders (text : Str) : Checked Unit := do
  let _ ← extractHeaderValue text "Reason".toList
  if (← extractHeaderValue text "User-Agent".toList).isNone then
    let _ ← extractHeaderValue text "Server".toList
  if (← extractHeaderValue text "Session-Expires".toList).isNone then
    let _ ← extractHeaderValue text "x".toList

/-- `handle_bye`. -/
def handleBye (msg : Incoming) (d : Draw) (s : Router) : Pc × Router :=
  match extractCallId msg.text with
  | .error _ => (.panicked, s)
  | .ok none => (.done (noCall msg d), s)
  | .ok (some callId) =>
    match extractFromTag msg.text with
    | .error _ => (.panicked, s)
    | .ok fromTag =>
      if s.poisoned then (.panicked, s)
      else
        match s.activeCalls.lookup callId with
        | none => (.done (noCall msg d), s)
        | some c =>
          let callerSide := byeFromCaller (fromTag.getD []) (msg.connectionExt.getD []) c
          let calleeSide := byeFromCallee (fromTag.getD []) (msg.connectionExt.getD []) c
          if !callerSide && !calleeSide then (.done (noCall msg d), s)
          else
            let (otherSink, targetUri) :=
              if callerSide && !calleeSide then (c.calleeSink, calleeTarget cfg c d.now s)
              else (some c.callerSink, callerTarget cfg c d.now s)
            match byeHeaders msg.text with
            | .error _ => (.panicked, s)
            | .ok () =>
              match otherSink with
              | none => cleanupThen callId (reply msg d 200 "OK") s
              | some sink =>
                match relayed cfg msg targetUri sink d with
                | .error _ => (.panicked, s)
                | .ok out => (.bye callId out, s)

/-- `handle_cancel`. The tag is read while the table is locked. -/
def handleCancel (msg : Incoming) (d : Draw) (s : Router) : Pc × Router :=
  match extractCallId msg.text with
  | .error _ => (.panicked, s)
  | .ok none => (.done (noCall msg d), s)
  | .ok (some callId) =>
    if s.poisoned then (.panicked, s)
    else
      match s.activeCalls.lookup callId with
      | none => (.done (noCall msg d), s)
      | some c =>
        match extractFromTag msg.text with
        | .error _ => (.panicked, { s with poisoned := true })
        | .ok fromTag =>
          if (fromTag.getD []).isEmpty || decide (fromTag.getD [] ≠ c.callerTag) then
            (.done (noCall msg d), s)
          else
            let s := { s with activeCalls := s.activeCalls.insert callId { c with state := .terminated } }
            match c.calleeSink with
            | none => cleanupThen callId (reply msg d 200 "OK") s
            | some sink =>
              match relayed cfg msg (calleeTarget cfg c d.now s) sink d with
              | .error _ => (.panicked, s)
              | .ok out => (.cancel callId c.originalInvite c.invite out, s)

/-! ## Steps -/

/-- A handler up to its first send. -/
def handle (id : Nat) (handler : Handler) (msg : Incoming) (d : Draw) (s : Router) : Pc × Router :=
  match handler with
  | .invite => s.handleInvite cfg B id msg d
  | .response => s.handleCalleeResponse cfg B msg d
  | .ack => s.handleAck cfg msg d
  | .bye => s.handleBye cfg msg d
  | .cancel => s.handleCancel cfg msg d

/-- `handle_cancel` between its two sends. -/
def sendTerminated (callId originalInvite : Str) (invite : Nat) (msg : Incoming) (d : Draw) (s : Router) :
    Pc × Router :=
  if s.poisoned then (.panicked, s)
  else
    match s.activeCalls.lookup callId with
    | none => cleanupThen callId (reply msg d 200 "OK") s
    | some c =>
      let terminated :=
        buildResponse originalInvite 487 "Request Terminated".toList (generateTag d.tag)
      (.terminate callId (.answer invite 487 c.callerSink terminated none), s)

/-- A handler behind a send, which the sink has taken or not. -/
def proceed (task : Task) (taken : Bool) (d : Draw) (s : Router) : Pc × Router :=
  match task.pc with
  | .invite callId _ =>
    if taken then (.done (reply task.msg d 100 "Trying"), s)
    else cleanupThen callId (reply task.msg d 500 "Internal Server Error") s
  | .reject callId _ => cleanupThen callId none s
  | .forward callId statusCode _ =>
    if 400 ≤ statusCode then cleanupThen callId none s
    else if statusCode = 200 then
      if s.poisoned then (.panicked, s) else (.done none, startOnce callId s)
    else (.done none, s)
  | .ack _ => (.done none, s)
  | .bye callId _ => cleanupThen callId (reply task.msg d 200 "OK") s
  | .cancel callId originalInvite invite _ => sendTerminated callId originalInvite invite task.msg d s
  | .terminate callId _ => cleanupThen callId (reply task.msg d 200 "OK") s
  | .done result => (.done result, s)
  | .panicked => (.panicked, s)

/-- What a handler returns to the server for an INVITE. -/
def returned (id : Nat) (handler : Handler) (msg : Incoming) : Pc → List Outgoing
  | .done (some (statusCode, text)) =>
    if handler = .invite then [.answer id statusCode msg.sink text none] else []
  | _ => []

/-- An execution has come to a new place. -/
def settle (id : Nat) (handler : Handler) (msg : Incoming) (pc : Pc) (s : Router) : Router :=
  { s with
    tasks := s.tasks.insert id ⟨handler, msg, pc⟩
    sent := s.sent ++ returned id handler msg pc }

/-- One event. -/
def step (s : Router) : RouterEvent → Router
  | .world writers registrar => { s with writers, registrar }
  | .receive id handler msg d =>
    match s.tasks.lookup id with
    | some _ => s
    | none =>
      let (pc, s) := s.handle cfg B id handler msg d
      s.settle id handler msg pc
  | .resume id taken d =>
    match s.tasks.lookup id with
    | none => s
    | some task =>
      match task.pc.sending with
      | none => s
      | some out =>
        let s := if taken then { s with sent := s.sent ++ [out] } else s
        let (pc, s) := s.proceed task taken d
        s.settle id task.handler task.msg pc

/-- The router at the start, with a manager for the ports. -/
def start (media : MediaRelayManager) : Router := { media }

/-- A run. -/
def run (media : MediaRelayManager) (events : List RouterEvent) : Router :=
  events.foldl (step cfg B) (start media)

end

end Router

end Minghe.Sip
