/-
# Forwarder entries

The three forms of a forwarder in the configuration: the YAML entry (`RawForwarder`), the entry
with its port spans (`ForwarderSpec`), which is also what the command line and the environment
are parsed to, and the single-port forwarder (`ForwarderConfig`) that everything past the
configuration layer works with.
-/
import Rfw.Lib.Text

namespace Rfw

open Lib

/-- Transport of a forwarder. -/
inductive Protocol
  | tcp
  | udp
deriving DecidableEq, Repr

/-- `Protocol::as_str`. -/
def Protocol.asStr : Protocol → Str
  | .tcp => "tcp".toList
  | .udp => "udp".toList

/-- The decimal form of a port. -/
def showPort (p : UInt16) : Str := Str.decimal p.toNat

/-- One forwarder: a single local port to a single remote port. -/
structure ForwarderConfig where
  localHost : Str
  localPort : UInt16
  remoteHost : Str
  remotePort : UInt16
  protocol : Protocol
deriving DecidableEq, Repr

namespace ForwarderConfig

/-- `ForwarderConfig::label`. -/
def label (c : ForwarderConfig) : Str :=
  let base := c.localHost ++ [':'] ++ showPort c.localPort ++ "->".toList ++ c.remoteHost ++
    [':'] ++ showPort c.remotePort
  match c.protocol with
  | .tcp => base
  | .udp => base ++ ['/'] ++ c.protocol.asStr

/-- `ForwarderConfig::local_addr`. -/
def localAddr (c : ForwarderConfig) : Str := c.localHost ++ [':'] ++ showPort c.localPort

end ForwarderConfig

/-! ## Port spans -/

/-- `MAX_RANGE_PORTS`. -/
def maxRangePorts : ℕ := 4096

/-- An inclusive span of ports.  The two constructors of the source, `single` and `range`, only
make spans whose end is not before their start. -/
structure PortSpan where
  start : UInt16
  end_ : UInt16
  start_le_end : start ≤ end_
deriving DecidableEq, Repr

namespace PortSpan

/-- `PortSpan::single`. -/
def single (port : UInt16) : PortSpan := ⟨port, port, UInt16.le_refl port⟩

/-- `PortSpan::len`. -/
def len (s : PortSpan) : ℕ := (s.end_ - s.start).toNat + 1

/-- `PortSpan::range`. -/
def range (start end_ : UInt16) : Except Str PortSpan :=
  if start = 0 then .error "port 0 is not allowed in a range".toList
  else if h : start ≤ end_ then
    let span : PortSpan := ⟨start, end_, h⟩
    if maxRangePorts < span.len then
      .error (Str.decimal span.len ++ " ports exceed the limit of ".toList ++
        Str.decimal maxRangePorts ++ " per range".toList)
    else .ok span
  else
    .error ("start ".toList ++ showPort start ++ " is greater than end ".toList ++ showPort end_)

/-- A port number, as `str::parse::<u16>` reads it. -/
def parsePort (s : Str) : Except Str UInt16 :=
  (Str.parseUnsigned 65536 s).map UInt16.ofNat

/-- One bound of a textual range: digits only. -/
def parseBound (raw what s : Str) : Except Str UInt16 :=
  if s.isEmpty || !s.all Char.isDigit then
    .error ("Invalid ".toList ++ what ++ " port range '".toList ++ raw ++ "': '".toList ++ s ++
      "' is not a port number".toList)
  else
    (parsePort s).mapError fun e =>
      "Invalid ".toList ++ what ++ " port range '".toList ++ raw ++ "': ".toList ++ e

/-- `PortSpan::parse`. -/
def parse (raw what : Str) : Except Str PortSpan :=
  match Str.splitOnce '-' raw with
  | none =>
      ((parsePort raw).map single).mapError fun e =>
        "Invalid ".toList ++ what ++ " port '".toList ++ raw ++ "': ".toList ++ e
  | some (first, last) => do
      let first ← parseBound raw what first
      let last ← parseBound raw what last
      (range first last).mapError fun e =>
        "Invalid ".toList ++ what ++ " port range '".toList ++ raw ++ "': ".toList ++ e

/-- The `Display` form of a span. -/
def display (s : PortSpan) : Str :=
  if s.start = s.end_ then showPort s.start
  else showPort s.start ++ ['-'] ++ showPort s.end_

/-- The ports of a span, in order. -/
def ports (s : PortSpan) : List UInt16 :=
  (List.range' s.start.toNat s.len).map UInt16.ofNat

end PortSpan

/-! ## Entries before expansion -/

/-- One configured entry before range expansion. -/
structure ForwarderSpec where
  localHost : Str
  local_ : PortSpan
  remoteHost : Str
  remote : PortSpan
  protocol : Protocol
deriving DecidableEq, Repr

namespace ForwarderSpec

/-- `ForwarderSpec::describe`. -/
def describe (s : ForwarderSpec) : Str :=
  let base := s.localHost ++ [':'] ++ s.local_.display ++ "->".toList ++ s.remoteHost ++ [':'] ++
    s.remote.display
  match s.protocol with
  | .tcp => base
  | .udp => base ++ ['/'] ++ s.protocol.asStr

/-- `ForwarderSpec::new`. -/
def new (localHost : Str) (local_ : PortSpan) (remoteHost : Str) (remote : PortSpan)
    (protocol : Protocol) : Except Str ForwarderSpec :=
  let spec : ForwarderSpec := ⟨localHost, local_, remoteHost, remote, protocol⟩
  if local_.len ≠ remote.len then
    .error ("Port range length mismatch in '".toList ++ spec.describe ++ "': local ".toList ++
      local_.display ++ " has ".toList ++ Str.decimal local_.len ++
      " port(s) but remote ".toList ++ remote.display ++ " has ".toList ++
      Str.decimal remote.len ++
      ". A range maps port for port, so both sides need the same number of ports.".toList)
  else .ok spec

/-- `ForwarderSpec::expand`, with the cast of the number of ports to `u16`. -/
def expand (s : ForwarderSpec) : List ForwarderConfig :=
  (List.range (UInt16.ofNat s.local_.len).toNat).map fun offset =>
    { localHost := s.localHost
      localPort := s.local_.start + UInt16.ofNat offset
      remoteHost := s.remoteHost
      remotePort := s.remote.start + UInt16.ofNat offset
      protocol := s.protocol }

end ForwarderSpec

/-- The text of a duplicate local address in the error of `expand_specs`. -/
def shownLocal (protocol : Protocol) (addr : Str) : Str :=
  match protocol with
  | .tcp => addr
  | .udp => addr ++ "/udp".toList

/-- A claim on a local endpoint. -/
abbrev Endpoint := Protocol × Str × UInt16

/-- The local endpoint of a forwarder. -/
def ForwarderConfig.endpoint (c : ForwarderConfig) : Endpoint :=
  (c.protocol, c.localHost, c.localPort)

/-- The inner loop of `expand_specs` over the ports of one entry: claim each endpoint for the
entry, or fail on one that is taken. -/
def claimPorts (spec : ForwarderSpec) :
    List (Endpoint × ForwarderSpec) → List UInt16 → Except Str (List (Endpoint × ForwarderSpec))
  | owner, [] => .ok owner
  | owner, port :: ports =>
      let key : Endpoint := (spec.protocol, spec.localHost, port)
      match owner.find? (fun e => e.1 = key) with
      | some first =>
          let addr := shownLocal spec.protocol (spec.localHost ++ [':'] ++ showPort port)
          let a := first.2.describe
          let b := spec.describe
          let who :=
            if a = b then ['\''] ++ a ++ "' is listed twice".toList
            else "defined by both '".toList ++ a ++ "' and '".toList ++ b ++ ['\'']
          .error ("Duplicate local address '".toList ++ addr ++ "': ".toList ++ who ++
            ". Each forwarder needs a unique local endpoint.".toList)
      | none => claimPorts spec ((key, spec) :: owner) ports

/-- The outer loop of `expand_specs`. -/
def expandSpecsGo :
    List (Endpoint × ForwarderSpec) → List ForwarderSpec → Except Str (List ForwarderConfig)
  | _, [] => .ok []
  | owner, spec :: specs => do
      let owner ← claimPorts spec owner spec.local_.ports
      let rest ← expandSpecsGo owner specs
      return spec.expand ++ rest

/-- `expand_specs`. -/
def expandSpecs (specs : List ForwarderSpec) : Except Str (List ForwarderConfig) :=
  expandSpecsGo [] specs

/-- A YAML forwarder entry. -/
structure RawForwarder where
  localHost : Str
  localPort : UInt16
  localPortEnd : Option UInt16
  remoteHost : Str
  remotePort : UInt16
  remotePortEnd : Option UInt16
  protocol : Protocol
deriving DecidableEq, Repr

/-- `RawForwarder::into_spec`. -/
def RawForwarder.intoSpec (r : RawForwarder) : Except Str ForwarderSpec := do
  let shown := r.localHost ++ [':'] ++ showPort r.localPort
  let local_ ← match r.localPortEnd with
    | none => pure (PortSpan.single r.localPort)
    | some end_ =>
        (PortSpan.range r.localPort end_).mapError fun e =>
          "Invalid local port range ".toList ++ showPort r.localPort ++ ['-'] ++ showPort end_ ++
            " for '".toList ++ shown ++ "': ".toList ++ e
  let remote ← match r.localPortEnd, r.remotePortEnd with
    | none, none => pure (PortSpan.single r.remotePort)
    | none, some end_ =>
        .error ("Invalid forwarder '".toList ++ shown ++ "': remote_port_end ".toList ++
          showPort end_ ++
          " needs local_port_end (a range has to span the same ports on both sides)".toList)
    | some _, explicit => do
        let end_ ← match explicit with
          | some end_ => pure end_
          | none =>
              let last := r.remotePort.toNat + local_.len - 1
              if last < 65536 then pure (UInt16.ofNat last)
              else
                .error ("Invalid forwarder '".toList ++ shown ++ "': the ".toList ++
                  Str.decimal local_.len ++ " local ports starting at remote_port ".toList ++
                  showPort r.remotePort ++ " would run past 65535".toList)
        (PortSpan.range r.remotePort end_).mapError fun e =>
          "Invalid remote port range ".toList ++ showPort r.remotePort ++ ['-'] ++
            showPort end_ ++ " for '".toList ++ shown ++ "': ".toList ++ e
  ForwarderSpec.new r.localHost local_ r.remoteHost remote r.protocol

/-! ## The textual form -/

/-- The protocol suffix of `parse_forwarder_spec`. -/
def parseProtocolSuffix (s suffix : Str) : Except Str Protocol :=
  if Str.eqIgnoreAsciiCase suffix "tcp".toList then .ok .tcp
  else if Str.eqIgnoreAsciiCase suffix "udp".toList then .ok .udp
  else
    .error ("Unknown protocol suffix '/".toList ++ suffix ++ "' in '".toList ++ s ++
      "': expected /tcp or /udp".toList)

/-- `parse_forwarder_spec`. -/
def parseForwarderSpec (s : Str) : Except Str ForwarderSpec := do
  let (body, protocol) ← match Str.rsplitOnce '/' s with
    | none => pure (s, Protocol.tcp)
    | some (body, suffix) => do
        let protocol ← parseProtocolSuffix s suffix
        pure (body, protocol)
  match Str.split ':' body with
  | [localHost, local_, remoteHost, remote] => do
      let local_ ← PortSpan.parse local_ "local".toList
      let remote ← PortSpan.parse remote "remote".toList
      ForwarderSpec.new localHost local_ remoteHost remote protocol
  | _ =>
      .error ("Invalid forwarder format '".toList ++ s ++
        "': expected local_host:local_port[-end]:remote_host:remote_port[-end][/tcp|/udp]".toList)

/-! ## Duplicates in a flat list -/

/-- The loop of `validate_no_duplicates` over the forwarders not yet seen. -/
def validateNoDuplicatesGo : List (Protocol × Str) → List ForwarderConfig → Except Str Unit
  | _, [] => .ok ()
  | seen, f :: fwd =>
      let key := (f.protocol, f.localAddr)
      if key ∈ seen then
        .error ("Duplicate local address '".toList ++ shownLocal f.protocol f.localAddr ++
          "'. Each forwarder needs a unique local endpoint.".toList)
      else validateNoDuplicatesGo (key :: seen) fwd

/-- `validate_no_duplicates`. -/
def validateNoDuplicates (fwd : List ForwarderConfig) : Except Str Unit :=
  validateNoDuplicatesGo [] fwd

end Rfw
