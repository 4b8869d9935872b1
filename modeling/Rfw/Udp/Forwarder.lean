/-
# A UDP forwarder as a transition system

The listener, the session tasks and the name refresher of one forwarder run concurrently.  Each
action below is one handler of one of them, from one await to the next.  The values that the other
tasks can change under a drain (the published targets, a dead session, the offload flag, the
permits) are read once per buffer, so a drain that is overtaken by another task stands in a run as
several drains with that task's action between them.  The first tick of the sweep, before the
loop, is an ordinary one on an empty table.
-/
import Rfw.Udp.Session

namespace Rfw.Udp

open Lib

/-- `same_addr_set`. -/
def sameAddrSet (a b : List SocketAddr) : Bool := decide (sortDedup a = sortDedup b)

/-- `same_addr_set` compares the sets of addresses. -/
lemma sameAddrSet_iff {a b : List SocketAddr} :
    sameAddrSet a b = true ↔ ∀ addr, addr ∈ a ↔ addr ∈ b := by
  rw [sameAddrSet, decide_eq_true_eq, sortDedup_eq_iff]

/-- `resolve_targets` for a name: every answer with the target's port, and no answer is an error. -/
def resolveTargets (cfg : ForwarderConfig) (lookup : Except Str (List IpAddr)) :
    Except Str (List SocketAddr) :=
  match lookup with
  | .error err => .error err
  | .ok ips =>
      let addrs := ips.map fun ip => SocketAddr.new ip cfg.remotePort
      if addrs.isEmpty then .error ("No DNS records for ".toList ++ cfg.remoteHost) else .ok addrs

/-- `send_if_modified` with the comparison of `run_dns_refresher`. -/
def Watch.publish (w : Watch) (addrs : List SocketAddr) : Watch :=
  if sameAddrSet w.value addrs then w else { w with value := addrs, version := w.version + 1 }

/-- One round of `run_dns_refresher`. -/
def refresh (lookup : Except Str (List IpAddr)) (e : Engine) : Engine :=
  match resolveTargets e.cfg lookup with
  | .ok addrs =>
      let ips := addrs.map SocketAddr.ip
      let (old, stats) := e.stats.observeAddrs ips
      let alerts := match old with
        | some old => .dnsChanged e.cfg.label e.cfg.remoteHost old (sortDedup ips) :: e.alerts
        | none => e.alerts
      { e.log (.resolved (some addrs)) with stats, alerts, targets := e.targets.publish addrs }
  | .error _ => { e.log (.resolved none) with stats := e.stats.markConnectFailed }

/-- A forwarder whose listener has just been bound.  `literal` is the target's address if its host
is one. -/
def Engine.start (cfg : ForwarderConfig) (knobs : RuntimeKnobs) (literal : Option IpAddr)
    (udpLimit : ℕ) : Engine where
  cfg := cfg
  stats := .withProtocol cfg.label .udp
  knobs := knobs
  udpLimit := udpLimit
  alerts := []
  cancelled := false
  running := true
  targets :=
    { value := (literal.map fun ip => SocketAddr.new ip cfg.remotePort).toList
      version := 0
      seen := 0
      senderAlive := literal.isNone }
  dnsWatch := literal.isNone
  sessions := .empty
  lastLimitAlert := none
  off := {}
  heap := fun _ =>
    { client := .v4 0 0, remote := .v4 0 0, lastActivityMs := 0, dead := true, rxDatagrams := 0,
      gro := false, strong := 0, cancelled := true, task := .ended }
  fresh := 0
  trace := []

/-- A plain receive on the listener.  A source that is no internet address is an error. -/
def Recv.plain (r : Recv) : Except IoError (Bytes × SocketAddr) :=
  match r.sender with
  | some client => .ok (r.data, client)
  | none => .error (.simple .other)

/-- What the tasks of a forwarder and its surroundings can do next. -/
inductive Action
  /-- The listener is readable. -/
  | readable (k : Kernel) (nowMs : ℕ) (rs : List (Except IoError Recv))
  /-- The sweep interval ticks. -/
  | tick (k : Kernel) (nowMs : ℕ)
  /-- The listener sees a new set of targets. -/
  | targetsChanged
  /-- The listener sees that the refresher is gone. -/
  | refresherGone
  /-- The refresher gets an answer. -/
  | resolve (lookup : Except Str (List IpAddr))
  /-- The refresher stops. -/
  | refresherStop
  /-- A hot-reload stores new knobs. -/
  | reload (settings : Settings)
  /-- The forwarder's token is cancelled. -/
  | cancel
  /-- The listener returns from its loop and closes the sessions. -/
  | shutdown
  /-- A session task sees its token cancelled. -/
  | sessionCancelled (sid : ℕ)
  /-- A session task fails to wait for readiness. -/
  | sessionNotReady (sid : ℕ)
  /-- A session's upstream socket is ready. -/
  | sessionReady (k : Kernel) (nowMs : ℕ) (rs : List (Except IoError Recv)) (sid : ℕ)
  /-- A blocked reply gets through, or fails. -/
  | sessionSend (k : Kernel) (sid : ℕ)

/-- One step of a forwarder. -/
def step (e : Engine) : Action → Option Engine
  | .readable k nowMs rs =>
      if e.running then
        if e.off.groAware then some (drainListenerGro k nowMs rs e).2
        else some (drainListener k nowMs (rs.map (·.bind Recv.plain)) e).2
      else none
  | .tick k nowMs => if e.running then some ((e.sweep nowMs).applyGroKnob k) else none
  | .targetsChanged =>
      if e.running ∧ e.dnsWatch ∧ e.targets.seen ≠ e.targets.version then some e.onTargetsChanged
      else none
  | .refresherGone =>
      if e.running ∧ e.dnsWatch ∧ e.targets.seen = e.targets.version ∧ !e.targets.senderAlive then
        some { e with dnsWatch := false }
      else none
  | .resolve lookup => if e.targets.senderAlive then some (refresh lookup e) else none
  | .refresherStop =>
      if e.cancelled ∧ e.targets.senderAlive then
        some { e with targets := { e.targets with senderAlive := false } }
      else none
  | .reload settings => some { e with knobs := e.knobs.update settings }
  | .cancel => some { e with cancelled := true }
  | .shutdown =>
      if e.running ∧ e.cancelled then some { e.closeAll with running := false } else none
  | .sessionCancelled sid =>
      if (e.heap sid).task ≠ .ended ∧ e.tokenCancelled sid then some (e.endTask sid) else none
  | .sessionNotReady sid =>
      if (e.heap sid).task = .waiting then some (notReady sid e) else none
  | .sessionReady k nowMs rs sid =>
      if (e.heap sid).task = .waiting then some (wakeup k nowMs rs sid e) else none
  | .sessionSend k sid =>
      match (e.heap sid).task with
      | .sending (piece :: rest) => some (sendPending k sid piece rest e)
      | _ => none

end Rfw.Udp
