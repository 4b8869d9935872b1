/-
# Outage bookkeeping

The monitors of TCP and UDP targets share one record of the current outage.  A verdict "up"
closes it, a verdict "down" opens or extends it and raises the alert once it has lasted
`unreachable_after`.

Instants are nanoseconds since the forwarder's epoch.
-/
import Rfw.Config.Settings
import Rfw.Stats

namespace Rfw.Monitor

open Lib

/-- Nanoseconds in a number of seconds. -/
def secs (n : ℕ) : ℕ := n * 1000000000

/-- Continuous downtime bookkeeping. -/
structure Downtime where
  since : ℕ
  /-- Whether `TargetUnreachable` has been raised for this stretch. -/
  alerted : Bool
deriving DecidableEq, Repr

/-- The alerts that a monitor raises. -/
inductive Alert
  | targetUnreachable (label target : Str) (downFor : ℕ) (lastError : Str)
  | targetRecovered (label target : Str) (downFor : ℕ) (address : Option SocketAddr)
  | dnsChanged (label host : Str) (old new : List IpAddr)
deriving DecidableEq, Repr

/-- The target of a forwarder, as the alerts name it. -/
def target (cfg : ForwarderConfig) : Str := cfg.remoteHost ++ [':'] ++ showPort cfg.remotePort

/-- What `record_up` and `record_down` work on: the open outage, the forwarder's stats and the
alerts raised so far, latest first. -/
structure Record where
  down : Option Downtime
  stats : ForwarderStats
  alerts : List Alert
deriving DecidableEq, Repr

/-- `record_up`; `now` is the reading of `since.elapsed()`. -/
def recordUp (label target : Str) (r : Record) (address : Option SocketAddr) (now : ℕ) : Record :=
  let stats := r.stats.setTargetReachable true
  match r.down with
  | none => { r with stats }
  | some d =>
      { down := none
        stats
        alerts :=
          if d.alerted then .targetRecovered label target (now - d.since) address :: r.alerts
          else r.alerts }

/-- `record_down`; `opened` is the reading taken when a new outage is opened and `now` the reading
of `since.elapsed()`. -/
def recordDown (label target : Str) (r : Record) (error : Str) (knobs : RuntimeKnobs)
    (opened now : ℕ) : Record :=
  let stats := r.stats.setTargetReachable false
  let threshold := secs knobs.unreachableAfter
  let d := r.down.getD { since := opened, alerted := false }
  let downFor := now - d.since
  if d.alerted = false ∧ threshold ≤ downFor then
    { down := some { d with alerted := true }
      stats
      alerts := .targetUnreachable label target downFor error :: r.alerts }
  else { r with down := some d, stats }

/-- `report_dns_change`. -/
def reportDnsChange (label host : Str) (r : Record) (addrs : List IpAddr) : Record :=
  match r.stats.observeAddrs addrs with
  | (some old, stats) =>
      { r with stats, alerts := .dnsChanged label host old (sortDedup addrs) :: r.alerts }
  | (none, stats) => { r with stats }

end Rfw.Monitor
