/-
# Per-forwarder counters and evidence

`ForwarderStats` is shared by the data path, the monitor and the exporters.  Every field is an
atomic of its own, so each operation below is one indivisible update of the fields it names.  The
counters are lifetime counters and are modelled without their wrap-around at `2 ^ 64`.

Time is milliseconds since the forwarder's epoch.
-/
import Rfw.Config.Forwarders
import Rfw.Lib.SortDedup
import Rfw.Net
import Mathlib.Algebra.Group.Nat.Defs

namespace Rfw

open Lib

/-- `NEVER_MS`: a timestamp that was never taken. -/
def neverMs : ℕ := 2 ^ 64 - 1

/-- `ForwarderStats::elapsed_ms`, from the nanoseconds since the epoch. -/
def elapsedMs (nanos : ℕ) : ℕ :=
  let ms := nanos / 1000000
  if ms < 2 ^ 64 then ms else 2 ^ 64 - 2

/-- `ForwarderStats`, without the sampled rates. -/
structure ForwarderStats where
  label : Str
  protocol : Protocol
  bytesSent : ℕ
  bytesReceived : ℕ
  datagramsSent : ℕ
  datagramsReceived : ℕ
  datagramsDropped : ℕ
  activeConnections : ℕ
  rejectedConnections : ℕ
  /-- The verdict of the monitor; `none` is `TARGET_UNKNOWN`. -/
  targetReachable : Option Bool
  lastAddrs : Option (List IpAddr)
  lastConnectOkMs : ℕ
  /-- The permit that `Notify::notify_one` leaves for the monitor. -/
  probeKick : Bool
  udpIcmpErrorMs : ℕ
  udpIcmpKind : Option IcmpKind
deriving DecidableEq, Repr

namespace ForwarderStats

/-- `ForwarderStats::with_protocol`. -/
def withProtocol (label : Str) (protocol : Protocol) : ForwarderStats where
  label := label
  protocol := protocol
  bytesSent := 0
  bytesReceived := 0
  datagramsSent := 0
  datagramsReceived := 0
  datagramsDropped := 0
  activeConnections := 0
  rejectedConnections := 0
  targetReachable := none
  lastAddrs := none
  lastConnectOkMs := neverMs
  probeKick := false
  udpIcmpErrorMs := neverMs
  udpIcmpKind := none

/-- `add_sent`. -/
def addSent (s : ForwarderStats) (n : ℕ) : ForwarderStats :=
  { s with bytesSent := s.bytesSent + n }

/-- `add_received`. -/
def addReceived (s : ForwarderStats) (n : ℕ) : ForwarderStats :=
  { s with bytesReceived := s.bytesReceived + n }

/-- `add_datagrams_sent`. -/
def addDatagramsSent (s : ForwarderStats) (n : ℕ) : ForwarderStats :=
  { s with datagramsSent := s.datagramsSent + n }

/-- `add_datagrams_received`. -/
def addDatagramsReceived (s : ForwarderStats) (n : ℕ) : ForwarderStats :=
  { s with datagramsReceived := s.datagramsReceived + n }

/-- `add_datagrams_dropped`. -/
def addDatagramsDropped (s : ForwarderStats) (n : ℕ) : ForwarderStats :=
  { s with datagramsDropped := s.datagramsDropped + n }

/-- `inc_connections`. -/
def incConnections (s : ForwarderStats) : ForwarderStats :=
  { s with activeConnections := s.activeConnections + 1 }

/-- `dec_connections`. -/
def decConnections (s : ForwarderStats) : ForwarderStats :=
  { s with activeConnections := s.activeConnections - 1 }

/-- `add_rejected`. -/
def addRejected (s : ForwarderStats) (n : ℕ) : ForwarderStats :=
  { s with rejectedConnections := s.rejectedConnections + n }

/-- `observe_addrs`: the previous address set, if there was one and it differs. -/
def observeAddrs (s : ForwarderStats) (addrs : List IpAddr) :
    Option (List IpAddr) × ForwarderStats :=
  let sorted := sortDedup addrs
  match s.lastAddrs with
  | some prev =>
      if prev = sorted then (none, s) else (some prev, { s with lastAddrs := some sorted })
  | none => (none, { s with lastAddrs := some sorted })

/-- `mark_connect_ok_at`. -/
def markConnectOkAt (s : ForwarderStats) (nowMs : ℕ) : ForwarderStats :=
  let last := s.lastConnectOkMs
  let icmp := s.udpIcmpErrorMs
  -- the addition of 100 saturates, so it never passes `NEVER_MS`
  let due := last = neverMs ∨ min (last + 100) neverMs ≤ nowMs ∨ (icmp ≠ neverMs ∧ last ≤ icmp)
  if due then { s with lastConnectOkMs := nowMs } else s

/-- `mark_udp_icmp_error`. -/
def markUdpIcmpError (s : ForwarderStats) (nowMs : ℕ) (kind : IcmpKind) : ForwarderStats :=
  { s with udpIcmpKind := some kind, udpIcmpErrorMs := nowMs, probeKick := true }

/-- `mark_connect_ok`. -/
def markConnectOk (s : ForwarderStats) (nowMs : ℕ) : ForwarderStats :=
  { s with lastConnectOkMs := nowMs }

/-- `mark_connect_failed`. -/
def markConnectFailed (s : ForwarderStats) : ForwarderStats := { s with probeKick := true }

/-- `last_connect_ok_age`, in milliseconds. -/
def lastConnectOkAge (s : ForwarderStats) (nowMs : ℕ) : Option ℕ :=
  if s.lastConnectOkMs = neverMs then none else some (nowMs - s.lastConnectOkMs)

/-- `set_target_reachable`. -/
def setTargetReachable (s : ForwarderStats) (reachable : Bool) : ForwarderStats :=
  { s with targetReachable := some reachable }

end ForwarderStats

end Rfw
