import Minghe.Lib.Net
import Minghe.Lib.Table
import Minghe.Sip.Registrar

/-!
# The configuration

Model of `config.rs`: what `config.toml` is parsed to, and the checks of `load`.

* The TOML parser is a parameter: it makes a configuration of the content of the file, or an error. Fields
  with `#[serde(default)]` have their defaults here.
* `check` is `load` behind the parser. The first check that fails names its field in the error. Warnings and
  other lines for the log are left out.
* `Valid` says what is checked without the order and the texts.
* `check_ok_iff`: the checks of `load` pass exactly the configurations that meet their rules, those of
  `Valid`.
* `load_ok_iff`: `load` returns what the parser makes of the file if that is valid, and nothing else.
-/

namespace Minghe.Config

open Minghe.Lib

/-- `ServerConfig`. -/
structure ServerConfig where
  listenAddr : Str
  sipPort : UInt16
  host : Str
  insecureEnabled : Bool := false
  insecurePort : UInt16 := 5060
  insecureExtensions : List Str := []
  deriving DecidableEq, Repr

/-- `ExtensionConfig`. -/
structure ExtensionConfig where
  rangeStart : UInt32
  rangeEnd : UInt32
  defaultPassword : Str
  deriving DecidableEq, Repr

/-- `TlsConfig`. -/
structure TlsConfig where
  certPath : Str
  keyPath : Str
  tlsMinVersion : Str := "1.2".toList
  deriving DecidableEq, Repr

/-- `MediaConfig`. -/
structure MediaConfig where
  rtpPortStart : UInt16
  rtpPortEnd : UInt16
  mediaAddr : Str
  deriving DecidableEq, Repr

/-- `IpBlockConfig`, with its default. -/
structure IpBlockConfig where
  enabled : Bool := true
  maxFailures : UInt32 := 3
  windowSecs : UInt64 := 600
  maxFailedIps : UInt64 := 100000
  maxBlockedIps : UInt64 := 50000
  deriving DecidableEq, Repr

/-- `AppConfig`. -/
structure AppConfig where
  server : ServerConfig
  extensions : ExtensionConfig
  tls : TlsConfig
  media : MediaConfig
  ipBlock : IpBlockConfig := {}
  passwords : Table Str Str := ∅

/-- An early `return Err(..)`. -/
def reject (bad : Bool) (message : Str) : Except Str Unit := if bad then .error message else .ok ()

namespace AppConfig

variable (config : AppConfig)

/-! ## The checks -/

def checkExtensions : Except Str Unit :=
  reject (config.extensions.rangeEnd < config.extensions.rangeStart)
    ("分机范围无效: range_start (".toList ++ showNat config.extensions.rangeStart.toNat ++
      ") > range_end (".toList ++ showNat config.extensions.rangeEnd.toNat ++ [')'])

def checkPorts : Except Str Unit :=
  reject (config.server.insecureEnabled && config.server.insecurePort == config.server.sipPort)
    ("端口冲突: insecure_port (".toList ++ showNat config.server.insecurePort.toNat ++
      ") 与 sip_port (".toList ++ showNat config.server.sipPort.toNat ++
      ") 相同，明文 UDP 与 TLS 不能共用一个端口".toList)

/-- The address of the relays is an IP address as it stands. -/
def checkMedia : Except Str Unit := do
  reject (config.media.rtpPortEnd < config.media.rtpPortStart)
    ("RTP 端口范围无效: rtp_port_start (".toList ++ showNat config.media.rtpPortStart.toNat ++
      ") > rtp_port_end (".toList ++ showNat config.media.rtpPortEnd.toNat ++ [')'])
  reject (config.media.rtpPortStart.toNat % 2 != 0)
    "RTP 端口起始必须为偶数（RTP 使用偶数端口，RTCP 使用奇数端口）".toList
  reject (trim config.media.mediaAddr).isEmpty
    "media_addr 不能为空。请填写客户端可访问的服务器公网或内网 IP，否则接听后可能无声。".toList
  reject (IpAddr.parse config.media.mediaAddr).isNone
    ("media_addr '".toList ++ config.media.mediaAddr ++
      "' 不是有效 IP。请填写 Bria、Linkvil 等客户端可访问的公网或内网 IP。".toList)

/-- The versions of `tls_min_version`. -/
def tlsVersions : List Str := ["1.0".toList, "1.1".toList, "1.2".toList, "1.3".toList]

def checkTls : Except Str Unit :=
  reject (decide (trim config.tls.tlsMinVersion ∉ tlsVersions))
    ("tls_min_version '".toList ++ trim config.tls.tlsMinVersion ++
      "' 无效，支持的值: \"1.0\" / \"1.1\" / \"1.2\" / \"1.3\"".toList)

/-- A limit of `ip_block` that is 0. -/
def rejectZero (field : String) (zero : Bool) : Except Str Unit :=
  reject zero ("ip_block.".toList ++ field.toList ++
    " 必须大于 0（或设置 ip_block.enabled = false 关闭封锁）".toList)

def checkIpBlock : Except Str Unit :=
  if config.ipBlock.enabled then do
    rejectZero "max_failures" (config.ipBlock.maxFailures == 0)
    rejectZero "window_secs" (config.ipBlock.windowSecs == 0)
    rejectZero "max_failed_ips" (config.ipBlock.maxFailedIps == 0)
    rejectZero "max_blocked_ips" (config.ipBlock.maxBlockedIps == 0)
  else .ok ()

/-- A loop that rejects the first text that is no number of 32 bits. -/
def checkNumbers (message : Str → Str) : List Str → Except Str Unit
  | [] => .ok ()
  | text :: texts => do
    reject (parseUnsigned 32 text).isNone (message text)
    checkNumbers message texts

/-- The keys of a hash map come in some order. -/
def checkPasswords : Except Str Unit :=
  checkNumbers (fun text => "密码配置中的分机号 '".toList ++ text ++ "' 格式无效（应为数字）".toList)
    config.passwords.keys

def checkInsecure : Except Str Unit :=
  if config.server.insecureEnabled then
    checkNumbers (fun text => "明文 UDP 白名单中的分机号 '".toList ++ text ++ "' 格式无效（应为数字）".toList)
      config.server.insecureExtensions
  else .ok ()

/-- `load` behind the parser. -/
def check : Except Str Unit := do
  config.checkExtensions
  config.checkPorts
  config.checkMedia
  config.checkTls
  config.checkIpBlock
  config.checkPasswords
  config.checkInsecure

/-- `load`, from what is read of the file, and the parser. -/
def load (path : Str) (readToString : Except Str Str) (fromStr : Str → Except Str AppConfig) :
    Except Str AppConfig := do
  let content ← readToString.mapError fun e => "无法读取配置文件 '".toList ++ path ++ "': ".toList ++ e
  let config ← (fromStr content).mapError fun e => "配置文件解析错误 '".toList ++ path ++ "': ".toList ++ e
  config.check
  return config

/-! ## Reading it -/

/-- `is_valid_extension`. -/
def isValidExtension (ext : UInt32) : Bool :=
  decide (config.extensions.rangeStart ≤ ext) && decide (ext ≤ config.extensions.rangeEnd)

/-- `get_password`. -/
def getPassword (extension : Str) : Str :=
  (config.passwords.lookup extension).getD config.extensions.defaultPassword

/-- `get_media_addr`, with the text of the local address of a UDP socket, if it has one. -/
def getMediaAddr (detected : Option Str) : Str :=
  if !config.media.mediaAddr.isEmpty then config.media.mediaAddr
  else detected.getD "127.0.0.1".toList

end AppConfig

/-! ## What is checked -/

/-- What `load` makes sure of. -/
structure Valid (config : AppConfig) : Prop where
  extensions : config.extensions.rangeStart ≤ config.extensions.rangeEnd
  ports : config.server.insecureEnabled = true → config.server.insecurePort ≠ config.server.sipPort
  rtpPorts : config.media.rtpPortStart ≤ config.media.rtpPortEnd
  even : config.media.rtpPortStart.toNat % 2 = 0
  mediaAddr : ∃ ip, IpAddr.parse config.media.mediaAddr = some ip
  tls : trim config.tls.tlsMinVersion ∈ AppConfig.tlsVersions
  ipBlock : config.ipBlock.enabled = true → config.ipBlock.maxFailures ≠ 0 ∧ config.ipBlock.windowSecs ≠ 0 ∧
    config.ipBlock.maxFailedIps ≠ 0 ∧ config.ipBlock.maxBlockedIps ≠ 0
  passwords : ∀ extension ∈ config.passwords, ∃ n, parseUnsigned 32 extension = some n
  insecure : config.server.insecureEnabled = true →
    ∀ extension ∈ config.server.insecureExtensions, ∃ n, parseUnsigned 32 extension = some n

@[simp] theorem reject_ok {bad : Bool} {message : Str} : reject bad message = .ok () ↔ bad = false := by
  cases bad <;> simp [reject]

/-- One check after the other. -/
@[simp] theorem bind_ok {x y : Except Str Unit} : (x >>= fun _ => y) = .ok () ↔ x = .ok () ∧ y = .ok () := by
  cases x <;> simp [bind, Except.bind]

namespace AppConfig

theorem checkNumbers_ok {message : Str → Str} {texts : List Str} :
    checkNumbers message texts = .ok () ↔ ∀ text ∈ texts, ∃ n, parseUnsigned 32 text = some n := by
  induction texts with
  | nil => simp [checkNumbers]
  | cons text texts ih =>
    unfold checkNumbers
    rw [bind_ok, ih, reject_ok, Option.isNone_eq_false_iff, List.forall_mem_cons, Option.isSome_iff_exists]

/-- Spaces are no address. -/
theorem trim_ne_nil_of_parse {text : Str} {ip : IpAddr} (h : IpAddr.parse text = some ip) :
    trim text ≠ [] := by
  have hchar : ∀ c ∈ text, isWhitespace c = false := fun c hc =>
    (of_isAddressChar (isAddressChar_of_parse (by rw [h]; rfl) c hc)).1
  rw [trim_of_forall_not hchar]
  rintro rfl
  cases (show IpAddr.parse [] = none by decide).symm.trans h

theorem checkMedia_ok (config : AppConfig) : config.checkMedia = .ok () ↔
    config.media.rtpPortStart ≤ config.media.rtpPortEnd ∧ config.media.rtpPortStart.toNat % 2 = 0 ∧
      ∃ ip, IpAddr.parse config.media.mediaAddr = some ip := by
  unfold checkMedia
  rw [bind_ok, bind_ok, bind_ok, reject_ok, reject_ok, reject_ok, reject_ok, Option.isNone_eq_false_iff,
    Option.isSome_iff_exists, decide_eq_false_iff_not, UInt16.not_lt, bne_eq_false_iff_eq,
    List.isEmpty_eq_false_iff]
  exact and_congr_right fun _ => and_congr_right fun _ =>
    ⟨fun h => h.2, fun h => ⟨trim_ne_nil_of_parse h.choose_spec, h⟩⟩

theorem checkIpBlock_ok (config : AppConfig) : config.checkIpBlock = .ok () ↔
    (config.ipBlock.enabled = true → config.ipBlock.maxFailures ≠ 0 ∧ config.ipBlock.windowSecs ≠ 0 ∧
      config.ipBlock.maxFailedIps ≠ 0 ∧ config.ipBlock.maxBlockedIps ≠ 0) := by
  unfold checkIpBlock
  split
  · rename_i henabled
    simp [rejectZero, henabled]
  · rename_i hdisabled
    simp [hdisabled]

/-- **The checks pass** iff what they make sure of is so. -/
theorem check_ok_iff (config : AppConfig) : config.check = .ok () ↔ Valid config := by
  have hextensions : config.checkExtensions = .ok () ↔
      config.extensions.rangeStart ≤ config.extensions.rangeEnd := by
    rw [checkExtensions, reject_ok, decide_eq_false_iff_not, UInt32.not_lt]
  have hports : config.checkPorts = .ok () ↔
      (config.server.insecureEnabled = true → config.server.insecurePort ≠ config.server.sipPort) := by
    rw [checkPorts, reject_ok, Bool.and_eq_false_imp]
    simp
  have htls : config.checkTls = .ok () ↔ trim config.tls.tlsMinVersion ∈ tlsVersions := by
    rw [checkTls, reject_ok, decide_eq_false_iff_not, not_not]
  have hpasswords : config.checkPasswords = .ok () ↔
      ∀ extension ∈ config.passwords, ∃ n, parseUnsigned 32 extension = some n := checkNumbers_ok
  have hinsecure : config.checkInsecure = .ok () ↔ (config.server.insecureEnabled = true →
      ∀ extension ∈ config.server.insecureExtensions, ∃ n, parseUnsigned 32 extension = some n) := by
    unfold checkInsecure
    split
    · rename_i henabled
      rw [checkNumbers_ok]
      exact ⟨fun h _ => h, fun h => h henabled⟩
    · rename_i hdisabled
      simp [hdisabled]
  unfold check
  rw [bind_ok, bind_ok, bind_ok, bind_ok, bind_ok, bind_ok, hextensions, hports, checkMedia_ok, htls,
    checkIpBlock_ok, hpasswords, hinsecure]
  constructor
  · rintro ⟨h1, h2, ⟨h3, h4, h5⟩, h6, h7, h8, h9⟩
    exact ⟨h1, h2, h3, h4, h5, h6, h7, h8, h9⟩
  · rintro ⟨h1, h2, h3, h4, h5, h6, h7, h8, h9⟩
    exact ⟨h1, h2, ⟨h3, h4, h5⟩, h6, h7, h8, h9⟩

/-- **`load`** returns what the parser makes of the file, if that is valid, and nothing else. -/
theorem load_ok_iff {path : Str} {readToString : Except Str Str} {fromStr : Str → Except Str AppConfig}
    {config : AppConfig} : load path readToString fromStr = .ok config ↔
      (∃ content, readToString = .ok content ∧ fromStr content = .ok config) ∧ Valid config := by
  unfold load
  cases readToString with
  | error e => simp [Except.mapError, bind, Except.bind]
  | ok content =>
    cases hparse : fromStr content with
    | error e => simp [Except.mapError, bind, Except.bind, hparse]
    | ok parsed =>
      cases hcheck : parsed.check with
      | error e =>
        have hinvalid : ¬ Valid parsed := fun h => by
          cases hcheck.symm.trans ((check_ok_iff parsed).mpr h)
        simp only [Except.mapError, bind, Except.bind, hparse, hcheck]
        constructor
        · rintro ⟨⟩
        · rintro ⟨⟨_, ⟨⟩, hparsed⟩, hvalid⟩
          cases hparse.symm.trans hparsed
          exact absurd hvalid hinvalid
      | ok _ =>
        have hvalid := (check_ok_iff parsed).mp hcheck
        simp only [Except.mapError, bind, Except.bind, hparse, hcheck]
        constructor
        · rintro ⟨⟩
          exact ⟨⟨content, rfl, hparse⟩, hvalid⟩
        · rintro ⟨⟨_, ⟨⟩, hparsed⟩, -⟩
          cases hparse.symm.trans hparsed
          rfl

/-- The address of the relays is the one that was checked. -/
theorem getMediaAddr_of_valid {config : AppConfig} (h : Valid config) (detected : Option Str) :
    config.getMediaAddr detected = config.media.mediaAddr := by
  obtain ⟨ip, hip⟩ := h.mediaAddr
  have hne : config.media.mediaAddr ≠ [] := fun he => trim_ne_nil_of_parse hip (by rw [he]; rfl)
  unfold getMediaAddr
  rw [if_pos (by simpa using hne)]

/-- The defaults of `ip_block` pass their checks. -/
theorem checkIpBlock_default (config : AppConfig) (h : config.ipBlock = {}) :
    config.checkIpBlock = .ok () := by
  rw [checkIpBlock_ok, h]
  decide

end AppConfig

/-- The `config.toml` of two phones. -/
def phoneToml : Str :=
  (["[server]", "listen_addr = \"0.0.0.0\"", "sip_port = 5061", "host = \"example.com\"",
    "[extensions]", "range_start = 1000", "range_end = 2000", "default_password = \"pw\"",
    "[tls]", "cert_path = \"\"", "key_path = \"\"",
    "[media]", "rtp_port_start = 20000", "rtp_port_end = 20100",
    "media_addr = \"192.0.2.1\""].map String.toList).flatMap (· ++ ['\n'])

/-- What it says: the other fields have their defaults. -/
def phoneApp : AppConfig where
  server := { listenAddr := "0.0.0.0".toList, sipPort := 5061, host := "example.com".toList }
  extensions := { rangeStart := 1000, rangeEnd := 2000, defaultPassword := "pw".toList }
  tls := { certPath := [], keyPath := [] }
  media := { rtpPortStart := 20000, rtpPortEnd := 20100, mediaAddr := "192.0.2.1".toList }

/-- A parser that knows this file. -/
def phoneFromStr (content : Str) : Except Str AppConfig :=
  if content = phoneToml then .ok phoneApp else .error "TOML parse error".toList

end Minghe.Config
