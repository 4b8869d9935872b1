/-
# Settings and runtime knobs

The `settings:` block of the configuration file with its defaults, the command-line flags that
override it, the two ways of treating values out of range (`validate` at startup, `clampInPlace`
on a reload) and the knobs that the data plane reads.

Durations are in seconds, as the fields are.
-/
import Rfw.Lib.Text

namespace Rfw

open Lib

/-! ## Defaults and bounds -/

/-- `default_report_interval`. -/
def defaultReportInterval : ℕ := 60
/-- `default_sample_interval`. -/
def defaultSampleInterval : ℕ := 1
/-- `default_buffer_bytes`. -/
def defaultBufferBytes : ℕ := 65536
/-- `default_use_splice`. -/
def defaultUseSplice : Bool := false
/-- `default_connect_timeout`. -/
def defaultConnectTimeout : ℕ := 10
/-- `default_dns_timeout`. -/
def defaultDnsTimeout : ℕ := 5
/-- `default_keepalive_idle`. -/
def defaultKeepaliveIdle : ℕ := 60
/-- `default_keepalive_interval`. -/
def defaultKeepaliveInterval : ℕ := 10
/-- `default_keepalive_retries`. -/
def defaultKeepaliveRetries : ℕ := 3
/-- `default_probe_interval`. -/
def defaultProbeInterval : ℕ := 30
/-- `default_unreachable_after`. -/
def defaultUnreachableAfter : ℕ := 300
/-- `default_udp_session_timeout`. -/
def defaultUdpSessionTimeout : ℕ := 60
/-- `default_udp_max_sessions`. -/
def defaultUdpMaxSessions : ℕ := 16384

/-- `MIN_BUFFER_BYTES`. -/
def minBufferBytes : ℕ := 1024
/-- `MAX_BUFFER_BYTES`. -/
def maxBufferBytes : ℕ := 16 * 1024 * 1024
/-- `MAX_UDP_SESSIONS`. -/
def maxUdpSessions : ℕ := 1048576

/-! ## Settings -/

/-- Process-global runtime settings. -/
structure Settings where
  metricsAddr : Option Str
  reportIntervalSecs : ℕ
  sampleIntervalSecs : ℕ
  bufferBytes : ℕ
  socketBufferBytes : Option ℕ
  useSplice : Bool
  maxConnections : Option ℕ
  connectTimeoutSecs : ℕ
  dnsTimeoutSecs : ℕ
  keepaliveIdleSecs : ℕ
  keepaliveIntervalSecs : ℕ
  keepaliveRetries : ℕ
  webhookUrl : Option Str
  instanceName : Option Str
  probeIntervalSecs : ℕ
  unreachableAfterSecs : ℕ
  udpSessionTimeoutSecs : ℕ
  udpMaxSessions : ℕ
  udpGroGso : Bool
deriving DecidableEq, Repr

/-- `Settings::default`. -/
def Settings.default : Settings where
  metricsAddr := none
  reportIntervalSecs := defaultReportInterval
  sampleIntervalSecs := defaultSampleInterval
  bufferBytes := defaultBufferBytes
  socketBufferBytes := none
  useSplice := defaultUseSplice
  maxConnections := none
  connectTimeoutSecs := defaultConnectTimeout
  dnsTimeoutSecs := defaultDnsTimeout
  keepaliveIdleSecs := defaultKeepaliveIdle
  keepaliveIntervalSecs := defaultKeepaliveInterval
  keepaliveRetries := defaultKeepaliveRetries
  webhookUrl := none
  instanceName := none
  probeIntervalSecs := defaultProbeInterval
  unreachableAfterSecs := defaultUnreachableAfter
  udpSessionTimeoutSecs := defaultUdpSessionTimeout
  udpMaxSessions := defaultUdpMaxSessions
  udpGroGso := false

/-- The `settings:` block as it is written: every field may be absent. -/
structure RawSettings where
  metricsAddr : Option Str := none
  reportIntervalSecs : Option ℕ := none
  sampleIntervalSecs : Option ℕ := none
  bufferBytes : Option ℕ := none
  socketBufferBytes : Option ℕ := none
  useSplice : Option Bool := none
  maxConnections : Option ℕ := none
  connectTimeoutSecs : Option ℕ := none
  dnsTimeoutSecs : Option ℕ := none
  keepaliveIdleSecs : Option ℕ := none
  keepaliveIntervalSecs : Option ℕ := none
  keepaliveRetries : Option ℕ := none
  webhookUrl : Option Str := none
  instanceName : Option Str := none
  probeIntervalSecs : Option ℕ := none
  unreachableAfterSecs : Option ℕ := none
  udpSessionTimeoutSecs : Option ℕ := none
  udpMaxSessions : Option ℕ := none
  udpGroGso : Option Bool := none
deriving DecidableEq, Repr

/-- The derived deserialization of `Settings`: an absent field takes the default named in its
`serde` attribute. -/
def Settings.ofRaw (r : RawSettings) : Settings where
  metricsAddr := r.metricsAddr
  reportIntervalSecs := r.reportIntervalSecs.getD defaultReportInterval
  sampleIntervalSecs := r.sampleIntervalSecs.getD defaultSampleInterval
  bufferBytes := r.bufferBytes.getD defaultBufferBytes
  socketBufferBytes := r.socketBufferBytes
  useSplice := r.useSplice.getD defaultUseSplice
  maxConnections := r.maxConnections
  connectTimeoutSecs := r.connectTimeoutSecs.getD defaultConnectTimeout
  dnsTimeoutSecs := r.dnsTimeoutSecs.getD defaultDnsTimeout
  keepaliveIdleSecs := r.keepaliveIdleSecs.getD defaultKeepaliveIdle
  keepaliveIntervalSecs := r.keepaliveIntervalSecs.getD defaultKeepaliveInterval
  keepaliveRetries := r.keepaliveRetries.getD defaultKeepaliveRetries
  webhookUrl := r.webhookUrl
  instanceName := r.instanceName
  probeIntervalSecs := r.probeIntervalSecs.getD defaultProbeInterval
  unreachableAfterSecs := r.unreachableAfterSecs.getD defaultUnreachableAfter
  udpSessionTimeoutSecs := r.udpSessionTimeoutSecs.getD defaultUdpSessionTimeout
  udpMaxSessions := r.udpMaxSessions.getD defaultUdpMaxSessions
  udpGroGso := r.udpGroGso.getD false

/-! ## Validation at startup -/

/-- What the program looks at in a parsed `url::Url`. -/
structure Url where
  scheme : Str
  hostStr : Option Str
deriving DecidableEq, Repr

/-- The parsers of other crates and of the standard library that decide whether a setting is
well formed. -/
structure Parsers where
  /-- `url::Url::parse`. -/
  parseUrl : Str → Except Str Url
  /-- Whether `str::parse::<SocketAddr>` succeeds. -/
  isSocketAddr : Str → Bool

/-- `validate_webhook_url`. -/
def validateWebhookUrl (p : Parsers) (raw : Str) : Except Str Url := do
  let url ← (p.parseUrl (Str.trim raw)).mapError fun e => "not a valid URL: ".toList ++ e
  if url.scheme ≠ "https".toList ∧ url.scheme ≠ "http".toList then
    .error ("unsupported scheme '".toList ++ url.scheme ++ "' (expected https)".toList)
  else if url.hostStr = none ∨ url.hostStr = some [] then .error "missing host".toList
  else .ok url

/-- Fail with a message when a condition does not hold. -/
def require (ok : Bool) (message : Str) : Except Str Unit :=
  if ok then .ok () else .error message

/-- `Settings::validate`. -/
def Settings.validate (p : Parsers) (s : Settings) : Except Str Unit := do
  require (s.reportIntervalSecs ≠ 0)
    "report_interval_secs must be >= 1 (0 would panic the stats reporter)".toList
  require (s.sampleIntervalSecs ≠ 0)
    "sample_interval_secs must be >= 1 (0 would panic the rate sampler)".toList
  require (s.connectTimeoutSecs ≠ 0) "connect_timeout_secs must be >= 1".toList
  require (s.dnsTimeoutSecs ≠ 0) "dns_timeout_secs must be >= 1".toList
  require (minBufferBytes ≤ s.bufferBytes ∧ s.bufferBytes ≤ maxBufferBytes)
    ("buffer_bytes must be between ".toList ++ Str.decimal minBufferBytes ++ " and ".toList ++
      Str.decimal maxBufferBytes ++ " (got ".toList ++ Str.decimal s.bufferBytes ++ [')'])
  require (s.socketBufferBytes ≠ some 0)
    "socket_buffer_bytes must be >= 1, or omitted for the OS default".toList
  require (s.maxConnections ≠ some 0)
    "max_connections must be >= 1, or omitted for unbounded".toList
  match s.metricsAddr with
  | none => pure ()
  | some addr =>
      require (p.isSocketAddr addr)
        ("metrics_addr '".toList ++ addr ++ "' is not a valid host:port socket address".toList)
  require (s.keepaliveIdleSecs = 0 ∨ s.keepaliveIntervalSecs ≠ 0)
    ("keepalive_interval_secs must be >= 1 when keepalive is enabled ".toList ++
      "(keepalive_idle_secs > 0)".toList)
  require (s.keepaliveIdleSecs = 0 ∨ s.keepaliveRetries ≠ 0)
    ("keepalive_retries must be >= 1 when keepalive is enabled ".toList ++
      "(keepalive_idle_secs > 0)".toList)
  require (s.probeIntervalSecs ≠ 0) "probe_interval_secs must be >= 1".toList
  require (s.unreachableAfterSecs ≠ 0) "unreachable_after_secs must be >= 1".toList
  require (s.udpSessionTimeoutSecs ≠ 0) "udp_session_timeout_secs must be >= 1".toList
  require (1 ≤ s.udpMaxSessions ∧ s.udpMaxSessions ≤ maxUdpSessions)
    ("udp_max_sessions must be between 1 and ".toList ++ Str.decimal maxUdpSessions ++
      " (got ".toList ++ Str.decimal s.udpMaxSessions ++ [')'])
  match s.webhookUrl with
  | none => pure ()
  | some url =>
      match validateWebhookUrl p url with
      | .ok _ => pure ()
      | .error e => .error ("webhook_url is invalid: ".toList ++ e)

/-! ## Clamping on a reload -/

/-- `floor_u64`. -/
def floorU64 (value min : ℕ) : ℕ := if value < min then min else value

/-- `Ord::clamp`. -/
def clamp (value min max : ℕ) : ℕ :=
  if value < min then min else if max < value then max else value

/-- `Settings::clamp_in_place`. -/
def Settings.clampInPlace (s : Settings) : Settings :=
  { s with
    reportIntervalSecs := floorU64 s.reportIntervalSecs 1
    sampleIntervalSecs := floorU64 s.sampleIntervalSecs 1
    connectTimeoutSecs := floorU64 s.connectTimeoutSecs 1
    dnsTimeoutSecs := floorU64 s.dnsTimeoutSecs 1
    probeIntervalSecs := floorU64 s.probeIntervalSecs 1
    unreachableAfterSecs := floorU64 s.unreachableAfterSecs 1
    udpSessionTimeoutSecs := floorU64 s.udpSessionTimeoutSecs 1
    bufferBytes := clamp s.bufferBytes minBufferBytes maxBufferBytes
    udpMaxSessions := clamp s.udpMaxSessions 1 maxUdpSessions
    socketBufferBytes := if s.socketBufferBytes = some 0 then none else s.socketBufferBytes
    maxConnections := if s.maxConnections = some 0 then none else s.maxConnections
    keepaliveIntervalSecs :=
      if 0 < s.keepaliveIdleSecs then floorU64 s.keepaliveIntervalSecs 1
      else s.keepaliveIntervalSecs
    keepaliveRetries :=
      if 0 < s.keepaliveIdleSecs ∧ s.keepaliveRetries = 0 then 1 else s.keepaliveRetries }

/-! ## Knobs -/

/-- TCP keepalive parameters. -/
structure KeepaliveConfig where
  idle : ℕ
  interval : ℕ
  retries : ℕ
deriving DecidableEq, Repr

/-- The live copy of the data-plane knobs, one field for each atomic. -/
structure RuntimeKnobs where
  bufferBytesRaw : ℕ
  /-- `0` means "leave the OS default". -/
  socketBufferBytesRaw : ℕ
  useSplice : Bool
  connectTimeoutSecs : ℕ
  dnsTimeoutSecs : ℕ
  /-- `0` means keepalive disabled. -/
  keepaliveIdleSecs : ℕ
  keepaliveIntervalSecs : ℕ
  keepaliveRetries : ℕ
  probeIntervalSecs : ℕ
  unreachableAfterSecs : ℕ
  udpSessionTimeoutSecs : ℕ
  udpGroGso : Bool
deriving DecidableEq, Repr

namespace RuntimeKnobs

/-- `RuntimeKnobs::update`. -/
def update (k : RuntimeKnobs) (settings : Settings) : RuntimeKnobs :=
  let s := settings.clampInPlace
  { k with
    bufferBytesRaw := s.bufferBytes
    socketBufferBytesRaw := s.socketBufferBytes.getD 0
    useSplice := s.useSplice
    connectTimeoutSecs := s.connectTimeoutSecs
    dnsTimeoutSecs := s.dnsTimeoutSecs
    keepaliveIdleSecs := s.keepaliveIdleSecs
    keepaliveIntervalSecs := s.keepaliveIntervalSecs
    keepaliveRetries := s.keepaliveRetries
    probeIntervalSecs := s.probeIntervalSecs
    unreachableAfterSecs := s.unreachableAfterSecs
    udpSessionTimeoutSecs := s.udpSessionTimeoutSecs
    udpGroGso := s.udpGroGso }

/-- `RuntimeKnobs::from_settings`. -/
def fromSettings (s : Settings) : RuntimeKnobs :=
  let knobs : RuntimeKnobs :=
    { bufferBytesRaw := defaultBufferBytes
      socketBufferBytesRaw := 0
      useSplice := false
      connectTimeoutSecs := defaultConnectTimeout
      dnsTimeoutSecs := defaultDnsTimeout
      keepaliveIdleSecs := defaultKeepaliveIdle
      keepaliveIntervalSecs := defaultKeepaliveInterval
      keepaliveRetries := defaultKeepaliveRetries
      probeIntervalSecs := defaultProbeInterval
      unreachableAfterSecs := defaultUnreachableAfter
      udpSessionTimeoutSecs := defaultUdpSessionTimeout
      udpGroGso := false }
  knobs.update s

/-- `RuntimeKnobs::udp_session_timeout`. -/
def udpSessionTimeout (k : RuntimeKnobs) : ℕ := max k.udpSessionTimeoutSecs 1

/-- `RuntimeKnobs::probe_interval`. -/
def probeInterval (k : RuntimeKnobs) : ℕ := max k.probeIntervalSecs 1

/-- `RuntimeKnobs::unreachable_after`. -/
def unreachableAfter (k : RuntimeKnobs) : ℕ := max k.unreachableAfterSecs 1

/-- `RuntimeKnobs::keepalive`. -/
def keepalive (k : RuntimeKnobs) : Option KeepaliveConfig :=
  match k.keepaliveIdleSecs with
  | 0 => none
  | idle + 1 =>
      some
        { idle := idle + 1
          interval := max k.keepaliveIntervalSecs 1
          retries := max k.keepaliveRetries 1 }

/-- `RuntimeKnobs::buffer_bytes`. -/
def bufferBytes (k : RuntimeKnobs) : ℕ := k.bufferBytesRaw

/-- `RuntimeKnobs::socket_buffer_bytes`. -/
def socketBufferBytes (k : RuntimeKnobs) : Option ℕ :=
  if k.socketBufferBytesRaw = 0 then none else some k.socketBufferBytesRaw

/-- `RuntimeKnobs::connect_timeout`. -/
def connectTimeout (k : RuntimeKnobs) : ℕ := max k.connectTimeoutSecs 1

/-- `RuntimeKnobs::dns_timeout`. -/
def dnsTimeout (k : RuntimeKnobs) : ℕ := max k.dnsTimeoutSecs 1

/-- Every atomic is stored by `update`, so the knobs before it do not matter. -/
lemma update_eq_fromSettings (k : RuntimeKnobs) (s : Settings) : k.update s = fromSettings s := rfl

end RuntimeKnobs

/-! ## The command line -/

/-- The command-line arguments that the configuration layer reads. -/
structure CliArgs where
  configFile : Option Str := none
  metricsAddr : Option Str := none
  reportIntervalSecs : Option ℕ := none
  sampleIntervalSecs : Option ℕ := none
  bufferBytes : Option ℕ := none
  socketBufferBytes : Option ℕ := none
  useSplice : Bool := false
  maxConnections : Option ℕ := none
  connectTimeoutSecs : Option ℕ := none
  dnsTimeoutSecs : Option ℕ := none
  keepaliveIdleSecs : Option ℕ := none
  keepaliveIntervalSecs : Option ℕ := none
  keepaliveRetries : Option ℕ := none
  webhookUrl : Option Str := none
  instanceName : Option Str := none
  probeIntervalSecs : Option ℕ := none
  unreachableAfterSecs : Option ℕ := none
  udpSessionTimeoutSecs : Option ℕ := none
  udpMaxSessions : Option ℕ := none
  udpGroGso : Bool := false
  forwarders : List Str := []
deriving DecidableEq, Repr

/-- `apply_cli_overrides`. -/
def applyCliOverrides (s : Settings) (cli : CliArgs) : Settings where
  metricsAddr := cli.metricsAddr.or s.metricsAddr
  reportIntervalSecs := cli.reportIntervalSecs.getD s.reportIntervalSecs
  sampleIntervalSecs := cli.sampleIntervalSecs.getD s.sampleIntervalSecs
  bufferBytes := cli.bufferBytes.getD s.bufferBytes
  socketBufferBytes := cli.socketBufferBytes.or s.socketBufferBytes
  useSplice := if cli.useSplice then true else s.useSplice
  maxConnections := cli.maxConnections.or s.maxConnections
  connectTimeoutSecs := cli.connectTimeoutSecs.getD s.connectTimeoutSecs
  dnsTimeoutSecs := cli.dnsTimeoutSecs.getD s.dnsTimeoutSecs
  keepaliveIdleSecs := cli.keepaliveIdleSecs.getD s.keepaliveIdleSecs
  keepaliveIntervalSecs := cli.keepaliveIntervalSecs.getD s.keepaliveIntervalSecs
  keepaliveRetries := cli.keepaliveRetries.getD s.keepaliveRetries
  webhookUrl :=
    -- an empty value means off, and so it also hides the file's URL
    match cli.webhookUrl with
    | some url => if (Str.trim url).isEmpty then none else some url
    | none => s.webhookUrl
  instanceName := cli.instanceName.or s.instanceName
  probeIntervalSecs := cli.probeIntervalSecs.getD s.probeIntervalSecs
  unreachableAfterSecs := cli.unreachableAfterSecs.getD s.unreachableAfterSecs
  udpSessionTimeoutSecs := cli.udpSessionTimeoutSecs.getD s.udpSessionTimeoutSecs
  udpMaxSessions := cli.udpMaxSessions.getD s.udpMaxSessions
  udpGroGso := if cli.udpGroGso then true else s.udpGroGso

end Rfw
