import Minghe.Config
import Minghe.Sip.Confined
import Minghe.Sip.Jobs
import Minghe.Sip.Ports

/-!
# The server that `main` starts

Model of what `main` makes of the configuration (`main.rs`): the registrar, the port manager, the address for
the SDP, and the UDP socket, which is there iff `insecure_enabled` is set. If the socket cannot be bound,
`main` returns an error and there is no server.

* `Deployed`: what the configuration says about the server, for a state of it.
* `deployed`: a configuration that `load` accepts is kept to in every state of every run of the server that
  `main` starts from it: who is registered, who takes part in calls, what goes over UDP, and which ports
  are used.
-/

namespace Minghe.Config

open Minghe.Lib
open Minghe.Media.Relay
open Minghe.Media.Srtp (Base64)
open Minghe.Sip

/-- `IpBlockPolicy::from`. -/
def IpBlockConfig.policy (config : IpBlockConfig) : IpBlockPolicy where
  enabled := config.enabled
  maxFailures := config.maxFailures
  windowSecs := config.windowSecs.toNat
  maxFailedIps := config.maxFailedIps.toNat
  maxBlockedIps := config.maxBlockedIps.toNat

namespace AppConfig

variable (config : AppConfig)

/-- The arguments of `RegistrarService::new`. -/
def registrar : RegistrarConfig where
  domain := config.server.host
  defaultPassword := config.extensions.defaultPassword
  passwords := config.passwords
  rangeStart := config.extensions.rangeStart.toNat
  rangeEnd := config.extensions.rangeEnd.toNat
  ipBlock := config.ipBlock.policy
  insecureExtensions := config.server.insecureExtensions

/-- What the server is started with. -/
def system (detected : Option Str) : SystemConfig where
  registrar := config.registrar
  mediaAddr := config.getMediaAddr detected
  udp := config.server.insecureEnabled

/-- The port manager. -/
def mediaManager (detected : Option Str) : MediaRelayManager :=
  .new config.media.rtpPortStart config.media.rtpPortEnd (config.getMediaAddr detected)

/-- The run of the server. -/
def run (detected : Option Str) (md5 : List UInt8 → Vector UInt8 16) (B : Base64)
    (events : List SystemEvent) : System :=
  System.run (config.system detected) md5 B (config.mediaManager detected) events

end AppConfig

/-- The extension is a number of the range. -/
def Configured (config : AppConfig) (extension : Str) : Prop :=
  ∃ n : UInt32, parseUnsigned 32 extension = some n.toNat ∧ config.isValidExtension n = true

/-- The sink that something goes to. -/
def sinkOf : Outgoing → ConnectionSink
  | .request sink _ | .answer _ _ sink _ _ => sink

/-- **What the configuration says** about the server. Extensions that are registered or take part in a call
are of the range, and over UDP only those of the list are registered. Without `insecure_enabled` no message is
read from UDP, and nothing is sent over it. The ports of the calls and of the relays are even ones of the range
(if it ends at 65532 or below). -/
structure Deployed (config : AppConfig) (s : System) : Prop where
  registered : ∀ extension reg, s.server.registrar.registrations.lookup extension = some reg →
    Configured config extension ∧ (reg.transport = .udp →
      config.server.insecureEnabled = true ∧ extension ∈ config.server.insecureExtensions)
  parties : ∀ callId c, s.router.activeCalls.lookup callId = some c →
    Configured config c.callerExt ∧ Configured config c.calleeExt
  secure : config.server.insecureEnabled = false →
    (∀ id job, s.jobs.lookup id = some job → ∃ channel, job.reader = .connection channel) ∧
    (∀ out, Router.Sending s.router out → (sinkOf out).transport = .tls) ∧
    ∀ t ∈ s.service.sends, t.sink.transport = .tls
  ports : config.media.rtpPortEnd.toNat ≤ 65532 →
    Router.PortsKept config.media.rtpPortStart config.media.rtpPortEnd s.router

/-! ## UDP -/

variable {config : AppConfig} {detected : Option Str} {md5 : List UInt8 → Vector UInt8 16} {B : Base64}

/-- Without the socket, what is read comes from a connection. -/
theorem connection_of_reads (hsecure : config.server.insecureEnabled = false) {s : System} {reader : Reader}
    {peer : SocketAddr} (h : s.reads (config.system detected) reader peer = true) :
    ∃ channel, reader = .connection channel := by
  cases reader with
  | connection channel => exact ⟨channel, rfl⟩
  | listener =>
    have hudp := (Bool.and_eq_true_iff.mp h).1
    cases hsecure.symm.trans hudp

/-- So does every job. -/
theorem run_connections (hsecure : config.server.insecureEnabled = false) (events : List SystemEvent) :
    ∀ id job, (config.run detected md5 B events).jobs.lookup id = some job →
      ∃ channel, job.reader = .connection channel := by
  unfold AppConfig.run
  induction events using List.reverseRecOn with
  | nil =>
    intro id job hjob
    cases (AList.lookup_empty id).symm.trans hjob
  | append_singleton events event ih =>
    have hstep := System.job_step (config.system detected) md5 B
      (System.run_accounted (config.system detected) md5 B (config.mediaManager detected) events) event
    rw [System.run_append]
    revert hstep
    generalize System.step (config.system detected) md5 B _ event = s'
    intro hstep id job hjob
    cases hstep with
    | still still =>
      rw [still.jobs] at hjob
      exact ih id job hjob
    | began _ reads _ turned =>
      rw [turned.jobs] at hjob
      rcases Table.lookup_insert_eq_some hjob with ⟨-, rfl⟩ | ⟨-, hold⟩
      · exact connection_of_reads hsecure reads
      · exact ih id job hold
    | @went id' _ _ job' _ _ _ found _ turned =>
      rw [turned.jobs] at hjob
      rcases Table.lookup_insert_eq_some hjob with ⟨-, rfl⟩ | ⟨-, hold⟩
      · exact ih id' job' found
      · exact ih id job hold

/-- A sink on which an extension authenticated is a connection. -/
theorem tls_of_authenticated (hsecure : config.server.insecureEnabled = false) {media : MediaRelayManager}
    {events : List SystemEvent} {extension : Str} {peer : SocketAddr} {sink : ConnectionSink}
    (h : System.Authenticated (config.system detected) md5 B media events extension peer sink) :
    sink.transport = .tls := by
  obtain ⟨done, event, -, reader, st, params, entry, reg, hread, rfl, -⟩ := h
  obtain ⟨channel, rfl⟩ := connection_of_reads hsecure hread.reads
  rfl

/-- An extension that authenticated is of the range. -/
theorem configured_of_authenticated {media : MediaRelayManager} {events : List SystemEvent} {extension : Str}
    {peer : SocketAddr} {sink : ConnectionSink}
    (h : System.Authenticated (config.system detected) md5 B media events extension peer sink) :
    Configured config extension := by
  obtain ⟨done, event, -, reader, st, params, entry, reg, -, -, haccepted⟩ := h
  obtain ⟨n, hn, hlow, hhigh⟩ := haccepted.in_range
  have hlow : config.extensions.rangeStart.toNat ≤ n := hlow
  have hhigh : n ≤ config.extensions.rangeEnd.toNat := hhigh
  have hlt : n < 2 ^ 32 := hhigh.trans_lt config.extensions.rangeEnd.toNat_lt
  have hself : (UInt32.ofNat n).toNat = n := by
    rw [UInt32.toNat_ofNat']
    exact Nat.mod_eq_of_lt hlt
  refine ⟨UInt32.ofNat n, by rw [hself]; exact hn, ?_⟩
  unfold AppConfig.isValidExtension
  rw [Bool.and_eq_true_iff, decide_eq_true_iff, decide_eq_true_iff, UInt32.le_iff_toNat_le,
    UInt32.le_iff_toNat_le, hself]
  exact ⟨hlow, hhigh⟩

/-- **A configuration that is loaded is kept to.** In every run of the server that is started from it. -/
theorem deployed {path : Str} {readToString : Except Str Str} {fromStr : Str → Except Str AppConfig}
    {config : AppConfig} (hload : AppConfig.load path readToString fromStr = .ok config)
    (detected : Option Str) (md5 : List UInt8 → Vector UInt8 16) (B : Base64) (events : List SystemEvent) :
    Deployed config (config.run detected md5 B events) := by
  have hvalid := (AppConfig.load_ok_iff.mp hload).2
  have hvouched := System.run_vouched (config.system detected) md5 B (config.mediaManager detected) events
  constructor
  · intro extension reg hreg
    obtain ⟨sink, hsink, hauth⟩ := hvouched.registration extension reg hreg
    refine ⟨configured_of_authenticated hauth, fun hudp => ?_⟩
    obtain ⟨done, event, -, reader, st, params, entry, reg', hread, hreader, haccepted⟩ := hauth
    rw [hsink hudp] at hreader
    cases reader with
    | connection channel => cases hreader
    | listener =>
      exact ⟨(Bool.and_eq_true_iff.mp hread.reads).1, haccepted.whitelisted rfl⟩
  · intro callId c hc
    obtain ⟨done, reader, peer, st, hopened⟩ :=
      System.Entered.legitimate ⟨events, callId, List.prefix_refl events, hc⟩
    obtain ⟨_, _, -, hcallee⟩ := hopened.callee
    refine ⟨?_, configured_of_authenticated hcallee⟩
    rcases hopened.caller with ⟨_, hcaller⟩ | ⟨-, _, _, -, hcaller⟩
    · exact configured_of_authenticated hcaller
    · exact configured_of_authenticated hcaller
  · intro hsecure
    refine ⟨run_connections hsecure events, fun out hsending => ?_, fun t ht => ?_⟩
    · rcases System.run_goesTo (config.system detected) md5 B (config.mediaManager detected) events out
        hsending with ⟨c, hentered, hgoes⟩ | ⟨done, id, reader, peer, st, statusCode, text, hstarted, rfl⟩
      · obtain ⟨done, reader, peer, st, hopened⟩ := hentered.legitimate
        have hcaller : c.callerSink.transport = .tls := by
          obtain ⟨channel, rfl⟩ := connection_of_reads hsecure hopened.started.read.reads
          rw [hopened.callerSink]
          rfl
        have hcallee : ∀ sink, c.calleeSink = some sink → sink.transport = .tls := by
          obtain ⟨sink', _, hsink', hauth⟩ := hopened.callee
          intro sink hsink
          cases hsink'.symm.trans hsink
          exact tls_of_authenticated hsecure hauth
        cases out with
        | request sink text =>
          rcases hgoes with he | he
          · rw [sinkOf, he]
            exact hcaller
          · exact hcallee sink he
        | answer invite statusCode sink text response =>
          rw [sinkOf, show sink = c.callerSink from hgoes]
          exact hcaller
      · obtain ⟨channel, rfl⟩ := connection_of_reads hsecure hstarted.read.reads
        rfl
    · obtain ⟨addr, hauth⟩ := System.callee_of_send ht
      exact tls_of_authenticated hsecure hauth
  · intro hroom
    unfold AppConfig.run
    rw [System.run_router]
    exact Router.run_portsKept _ B (.new hvalid.even hvalid.rtpPorts hroom _) _

/-- The relay of their call listens on ports of the configuration. -/
theorem deployed_concrete :
    ∃ r ∈ (phoneApp.run none System.phoneMd5 .standard System.phonesTalk).router.relays,
      InPorts 20000 20100 r.callerPort ∧ InPorts 20000 20100 r.calleePort := by
  have hsystem : phoneApp.system none = System.phoneSystem := rfl
  have hmedia : phoneApp.mediaManager none = Router.phoneManager := rfl
  have hvalid : Valid phoneApp := (AppConfig.check_ok_iff phoneApp).mp (by decide +kernel)
  have hload : AppConfig.load "config.toml".toList (.ok phoneToml) phoneFromStr = .ok phoneApp :=
    AppConfig.load_ok_iff.mpr ⟨⟨phoneToml, rfl, if_pos rfl⟩, hvalid⟩
  have hdeployed := deployed hload none System.phoneMd5 .standard System.phonesTalk
  have hrelay : (phoneApp.run none System.phoneMd5 .standard System.phonesTalk).router.relays ≠ [] := by
    unfold AppConfig.run
    rw [hsystem, hmedia]
    exact System.phones_relay
  obtain ⟨r, hr⟩ := List.exists_mem_of_ne_nil _ hrelay
  exact ⟨r, hr, (hdeployed.ports (by decide)).relay r hr⟩

end Minghe.Config
