/-
# Events

What the process can tell the operator about.  Repetitive kinds carry a throttle key and a window;
everything else is never throttled.

Durations are nanoseconds.
-/
import Rfw.Monitor.Outage

namespace Rfw.Notify

open Lib Monitor

/-- The reachability of one forwarder's target, as the startup message shows it. -/
structure ProbeReport where
  label : Str
  target : Str
  protocol : Protocol
  /-- The address that answered and the latency, or the error text. -/
  outcome : SocketAddr × ℕ ⊕ Str
deriving DecidableEq, Repr

/-- Everything the process can tell the operator about. -/
inductive Event
  | started (forwarders : List ProbeReport)
  | stopping (signal : Str) (activeConnections : ℕ)
  | dnsChanged (label host : Str) (old new : List IpAddr)
  | targetUnreachable (label target : Str) (downFor : ℕ) (lastError : Str)
  | targetRecovered (label target : Str) (downFor : ℕ) (address : Option SocketAddr)
  | bindFailed (label localAddr error : Str) (attempts : ℕ)
  | bindRecovered (label localAddr : Str) (failedAttempts : ℕ)
  | configReloaded (active : ℕ) (added removed : List Str)
  | configReloadFailed (path error : Str)
  | connectionLimitReached (label : Str) (rejectedTotal : ℕ)
  | udpSessionLimitReached (label : Str) (rejectedTotal : ℕ)
  | internal (component message : Str)
deriving DecidableEq, Repr

/-- `THROTTLE_DNS`. -/
def throttleDns : ℕ := secs 60

/-- `THROTTLE_BIND`. -/
def throttleBind : ℕ := secs 300

/-- `THROTTLE_LIMIT`. -/
def throttleLimit : ℕ := secs 300

/-- `THROTTLE_RELOAD_FAILED`. -/
def throttleReloadFailed : ℕ := secs 60

/-- `THROTTLE_INTERNAL`. -/
def throttleInternal : ℕ := secs 60

/-- `Event::throttle`: the key and the window, or `none` for an event that is never throttled. -/
def Event.throttle : Event → Option (Str × ℕ)
  | .dnsChanged label _ _ _ => some ("dns:".toList ++ label, throttleDns)
  | .bindFailed label _ _ _ => some ("bind:".toList ++ label, throttleBind)
  | .connectionLimitReached label _ => some ("limit:".toList ++ label, throttleLimit)
  | .udpSessionLimitReached label _ => some ("limit:".toList ++ label, throttleLimit)
  | .configReloadFailed _ _ => some ("reload-failed".toList, throttleReloadFailed)
  | .internal component _ => some ("internal:".toList ++ component, throttleInternal)
  | _ => none

/-- A number below 100 as two digits, larger ones as they are. -/
def twoDigits (n : ℕ) : Str := if n < 10 then '0' :: Str.decimal n else Str.decimal n

/-- `fmt_duration`. -/
def fmtDuration (d : ℕ) : Str :=
  let secs := d / 1000000000
  if secs < 60 then Str.decimal secs ++ ['s']
  else if secs < 3600 then
    Str.decimal (secs / 60) ++ "m ".toList ++ twoDigits (secs % 60) ++ ['s']
  else if secs < 86400 then
    Str.decimal (secs / 3600) ++ "h ".toList ++ twoDigits (secs % 3600 / 60) ++ ['m']
  else Str.decimal (secs / 86400) ++ "d ".toList ++ twoDigits (secs % 86400 / 3600) ++ ['h']

end Rfw.Notify
