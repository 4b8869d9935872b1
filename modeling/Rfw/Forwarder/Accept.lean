/-
# Accepting and proxying TCP connections

`run_forwarder` binds its address and then accepts connections until it is cancelled.  For each
connection it takes a permit of `conn_limit`, the limit that all TCP forwarders of the process
share, and spawns a task that resolves the target, connects to it and copies.  The task outlives the
forwarder: a reload stops the accept loop and leaves its connections alone.

A fleet is the forwarders started so far with all their connection tasks.  One input is one step of
one accept loop, of one task or of what they share, so a statement about all runs is a statement
about all interleavings.  Instants are nanoseconds since the forwarder's epoch.
-/
import Rfw.Config.Snapshot
import Rfw.Forwarder.Bind
import Rfw.Forwarder.Racing
import Rfw.Lib.Gate
import Rfw.Udp.Forwarder

namespace Rfw.Forwarder

open Lib Monitor Notify

/-! ## Admission -/

/-- `LIMIT_ALERT_SPACING`. -/
def limitAlertSpacing : ℕ := secs 60

/-- The pause after an accept error that is not transient. -/
def acceptBackoff : ℕ := secs 1

/-- The kinds of `std::io::ErrorKind` that the accept loop distinguishes. -/
inductive AcceptError
  | connectionAborted
  | connectionReset
  | interrupted
  | notConnected
  | other
deriving DecidableEq, Repr

/-- `is_transient_accept_error`. -/
def isTransientAcceptError : AcceptError → Bool
  | .connectionAborted | .connectionReset | .interrupted | .notConnected => true
  | .other => false

/-- `Admission`. -/
inductive Admission
  /-- Proceed, with the permit to hold if there is a limit. -/
  | admitted (permit : Bool)
  | rejected
deriving DecidableEq, Repr

/-- `acquire_permit`, with the permits left. -/
def acquirePermit (limit : Option ℕ) (stats : ForwarderStats) :
    Admission × Option ℕ × ForwarderStats :=
  match limit with
  | none => (.admitted false, none, stats)
  | some 0 => (.rejected, some 0, stats.addRejected 1)
  | some (n + 1) => (.admitted true, some n, stats)

/-- `resolve_targets`: an address literal needs no lookup. -/
def resolveTargets (cfg : ForwarderConfig) (literal : Option IpAddr)
    (lookup : Except Str (List IpAddr)) : Except Str (List SocketAddr) :=
  match literal with
  | some ip => .ok [.new ip cfg.remotePort]
  | none => Udp.resolveTargets cfg lookup

/-! ## Connection tasks -/

/-- Where the task of a connection is. -/
inductive Stage
  /-- Spawned with its permit, and not polled yet. -/
  | spawned
  /-- In `resolve_targets`. -/
  | resolving
  /-- In `connect_racing`. -/
  | connecting (targets : List SocketAddr)
  /-- Both sides are connected. -/
  | copying (remote : SocketAddr)
  /-- `proxy_connection` returned, or panicked. -/
  | finished
  /-- The permit was dropped; it is dropped before the guard. -/
  | released
  | ended
deriving DecidableEq, Repr

/-- A connection task. -/
structure Conn where
  /-- The number of its forwarder. -/
  owner : ℕ
  permit : Bool
  /-- The knobs at the time it was accepted. -/
  knobs : KnobSnapshot
  stage : Stage
deriving DecidableEq, Repr

namespace Conn

/-- The task holds a permit. -/
def holds (c : Conn) : Bool :=
  c.permit && match c.stage with
    | .released | .ended => false
    | _ => true

/-- The `ConnGuard` of the task is alive. -/
def guarded (c : Conn) : Bool :=
  match c.stage with
  | .spawned | .ended => false
  | _ => true

/-- What can happen to a task. -/
inductive Input
  /-- The task is polled for the first time. -/
  | start
  /-- The name is resolved, or not. -/
  | resolved (lookup : Except Str (List IpAddr))
  /-- The connect attempts are over, with the order in which they finished. -/
  | raced (completions : List Completion) (now : ℕ)
  /-- Bytes are counted. -/
  | moved (sent received : ℕ)
  /-- The transfer is over. -/
  | closed
  /-- `proxy_connection` panics. -/
  | panic
  | dropPermit
  | dropGuard

/-- One step of a task: the task, its forwarder's stats and the events it raises. -/
def step (cfg : ForwarderConfig) (literal : Option IpAddr) (stats : ForwarderStats) (c : Conn) :
    Input → Option (Conn × ForwarderStats × List Event)
  | .start =>
      if c.stage = .spawned then
        some ({ c with stage := .resolving }, stats.incConnections, [])
      else none
  | .resolved lookup =>
      if c.stage = .resolving then
        match resolveTargets cfg literal lookup with
        | .error _ => some ({ c with stage := .finished }, stats.markConnectFailed, [])
        | .ok targets =>
            if literal.isSome then some ({ c with stage := .connecting targets }, stats, [])
            else
              let ips := targets.map SocketAddr.ip
              match stats.observeAddrs ips with
              | (some old, stats) =>
                  some ({ c with stage := .connecting targets }, stats,
                    [.dnsChanged cfg.label cfg.remoteHost old (sortDedup ips)])
              | (none, stats) => some ({ c with stage := .connecting targets }, stats, [])
      else none
  | .raced completions now =>
      match c.stage with
      | .connecting _ =>
          match (connectRacing completions).1 with
          | .ok remote =>
              some ({ c with stage := .copying remote }, stats.markConnectOk (elapsedMs now), [])
          | .error _ => some ({ c with stage := .finished }, stats.markConnectFailed, [])
      | _ => none
  | .moved sent received =>
      match c.stage with
      | .copying _ => some (c, (stats.addSent sent).addReceived received, [])
      | _ => none
  | .closed =>
      match c.stage with
      | .copying _ => some ({ c with stage := .finished }, stats, [])
      | _ => none
  | .panic =>
      match c.stage with
      | .resolving | .connecting _ | .copying _ => some ({ c with stage := .finished }, stats, [])
      | _ => none
  | .dropPermit =>
      if c.stage = .finished then some ({ c with stage := .released }, stats, []) else none
  | .dropGuard =>
      if c.stage = .released then some ({ c with stage := .ended }, stats.decConnections, [])
      else none

end Conn

/-! ## Accept loops -/

/-- Where `run_forwarder` is. -/
inductive AcceptPhase
  /-- In the bind loop. -/
  | binding
  /-- At the `select!` of the accept loop, whose first branch is the token. -/
  | select
  /-- The token was not cancelled, and `accept` is awaited. -/
  | accepting
  /-- Pausing after an accept error. -/
  | backoff (wake : ℕ)
  | returned
deriving DecidableEq, Repr

/-- The accept loop is alive, and with it the `ListeningGuard`. -/
def AcceptPhase.serving : AcceptPhase → Bool
  | select | accepting | backoff _ => true
  | binding | returned => false

/-- One call of `run_forwarder` with the stats of its forwarder. -/
structure Listener where
  /-- The bind loop, and the token. -/
  bind : Bind
  literal : Option IpAddr
  phase : AcceptPhase
  stats : ForwarderStats
  /-- The `listening` flag of the stats. -/
  listening : Bool
  lastLimitAlert : Option ℕ
  clock : ℕ
  /-- The events that the accept loop handed to the notifier, in order. -/
  limitAlerts : List Event
  /-- The events that connection tasks handed to the notifier, in order. -/
  changes : List Event
  /-- The refused connections, latest first, with the clock readings of the alert's gate. -/
  refusals : List Gate.Answer
  /-- The number of accepted sockets. -/
  accepted : ℕ

namespace Listener

/-- A forwarder that was just started. -/
def init (cfg : ForwarderConfig) (literal : Option IpAddr) (now : ℕ) : Listener where
  bind := .init cfg now
  literal := literal
  phase := .binding
  stats := .withProtocol cfg.label .tcp
  listening := false
  lastLimitAlert := none
  clock := now
  limitAlerts := []
  changes := []
  refusals := []
  accepted := 0

/-- What can happen to an accept loop. -/
inductive Input
  /-- A step of the bind loop. -/
  | bind (i : Bind.Input)
  /-- The loop looks at its token. -/
  | poll
  /-- A socket is accepted; the readings are those of the alert's gate. -/
  | accept (checked stamped : ℕ)
  | acceptError (e : AcceptError) (now : ℕ)
  /-- The pause is over. -/
  | wake (now : ℕ)
  /-- The token is cancelled. -/
  | cancel

/-- A step of the bind loop; with the socket begins the accept loop. -/
def bound (l : Listener) (b : Bind) : Listener :=
  match b.phase with
  | .bound => { l with bind := b, phase := .select, listening := true }
  | .returned => { l with bind := b, phase := .returned }
  | _ => { l with bind := b }

/-- The loop sees its token. -/
def poll (l : Listener) : Option Listener :=
  match l.phase with
  | .select =>
      some (if l.bind.cancelled then { l with phase := .returned, listening := false }
        else { l with phase := .accepting })
  | .accepting | .backoff _ =>
      if l.bind.cancelled then some { l with phase := .returned, listening := false } else none
  | .binding | .returned => none

/-- A connection is refused, and the operator told unless that was done shortly before. -/
def refuse (l : Listener) (stats : ForwarderStats) (checked stamped : ℕ) : Listener :=
  let opened := Gate.opens limitAlertSpacing l.lastLimitAlert checked
  { l with
    phase := .select
    stats
    lastLimitAlert := if opened then some stamped else l.lastLimitAlert
    clock := stamped
    limitAlerts :=
      if opened then
        l.limitAlerts ++ [.connectionLimitReached l.bind.cfg.label stats.rejectedConnections]
      else l.limitAlerts
    refusals := ⟨⟨checked, stamped⟩, opened⟩ :: l.refusals
    accepted := l.accepted + 1 }

/-- One step of an accept loop: the loop, the permits left and the tasks it spawns. -/
def step (owner : ℕ) (knobs : KnobSnapshot) (limit : Option ℕ) (l : Listener) :
    Input → Option (Listener × Option ℕ × List Conn)
  | .bind i =>
      if l.phase = .binding then (l.bind.step i).map fun b => (l.bound b, limit, []) else none
  | .poll => (poll l).map fun l => (l, limit, [])
  | .accept checked stamped =>
      if l.phase = .accepting ∧ l.clock ≤ checked ∧ checked ≤ stamped then
        match acquirePermit limit l.stats with
        | (.rejected, limit, stats) => some (l.refuse stats checked stamped, limit, [])
        | (.admitted permit, limit, stats) =>
            some ({ l with
                phase := .select
                stats
                clock := checked
                accepted := l.accepted + 1 },
              limit, [{ owner, permit, knobs, stage := .spawned }])
      else none
  | .acceptError e now =>
      if l.phase = .accepting ∧ l.clock ≤ now then
        some (if isTransientAcceptError e then { l with phase := .select, clock := now }
          else { l with phase := .backoff (now + acceptBackoff), clock := now }, limit, [])
      else none
  | .wake now =>
      match l.phase with
      | .backoff wake =>
          if wake ≤ now then some ({ l with phase := .select, clock := now }, limit, []) else none
      | _ => none
  | .cancel => some ({ l with bind := { l.bind with cancelled := true } }, limit, [])

/-- Everything that a step can do. -/
inductive Move (owner : ℕ) (knobs : KnobSnapshot) (limit : Option ℕ) (l : Listener) :
    Listener → Option ℕ → List Conn → Prop
  | bound (i : Bind.Input) (b : Bind) (hphase : l.phase = .binding) (hmove : l.bind.Move i b) :
      Move owner knobs limit l (l.bound b) limit []
  | awaited (hphase : l.phase = .select) (hlive : l.bind.cancelled = false) :
      Move owner knobs limit l { l with phase := .accepting } limit []
  | stopped (hserving : l.phase.serving = true) (hcancelled : l.bind.cancelled = true) :
      Move owner knobs limit l { l with phase := .returned, listening := false } limit []
  /-- There is a permit for the socket, or no limit. -/
  | admitted (checked : ℕ) (limit' : Option ℕ) (hphase : l.phase = .accepting)
      (hclock : l.clock ≤ checked) (hlimit : limit = limit'.map (· + 1)) :
      Move owner knobs limit l
        { l with phase := .select, clock := checked, accepted := l.accepted + 1 } limit'
        [⟨owner, limit.isSome, knobs, .spawned⟩]
  | refused (checked stamped : ℕ) (hphase : l.phase = .accepting) (hclock : l.clock ≤ checked)
      (hread : checked ≤ stamped) (hlimit : limit = some 0) :
      Move owner knobs limit l (l.refuse (l.stats.addRejected 1) checked stamped) limit []
  | retried (now : ℕ) (hphase : l.phase = .accepting) (hclock : l.clock ≤ now) :
      Move owner knobs limit l { l with phase := .select, clock := now } limit []
  | paused (now : ℕ) (hphase : l.phase = .accepting) (hclock : l.clock ≤ now) :
      Move owner knobs limit l
        { l with phase := .backoff (now + acceptBackoff), clock := now } limit []
  | woken (wake now : ℕ) (hphase : l.phase = .backoff wake) (hwake : wake ≤ now) :
      Move owner knobs limit l { l with phase := .select, clock := now } limit []
  | cancelled :
      Move owner knobs limit l { l with bind := { l.bind with cancelled := true } } limit []

lemma move_of_step {owner : ℕ} {knobs : KnobSnapshot} {limit limit' : Option ℕ}
    {l l' : Listener} {i : Input} {spawned : List Conn}
    (h : l.step owner knobs limit i = some (l', limit', spawned)) :
    l.Move owner knobs limit l' limit' spawned := by
  cases i with
  | bind i =>
    obtain ⟨hphase, heq⟩ := Option.ite_none_right_eq_some.mp h
    obtain ⟨b, hb, heq⟩ := Option.map_eq_some_iff.mp heq
    cases heq
    exact .bound i b hphase (Bind.move_of_step hb)
  | poll =>
    obtain ⟨l₁, hpoll, heq⟩ := Option.map_eq_some_iff.mp h
    cases heq
    simp only [poll] at hpoll
    split at hpoll
    · rename_i hphase
      obtain rfl := Option.some.inj hpoll
      by_cases hcancelled : l.bind.cancelled = true
      · rw [if_pos hcancelled]
        exact .stopped (by rw [hphase]; rfl) hcancelled
      · rw [if_neg hcancelled]
        exact .awaited hphase (Bool.eq_false_of_not_eq_true hcancelled)
    · rename_i hphase
      obtain ⟨hcancelled, heq⟩ := Option.ite_none_right_eq_some.mp hpoll
      obtain rfl := Option.some.inj heq
      exact .stopped (by rw [hphase]; rfl) hcancelled
    · rename_i hphase
      obtain ⟨hcancelled, heq⟩ := Option.ite_none_right_eq_some.mp hpoll
      obtain rfl := Option.some.inj heq
      exact .stopped (by rw [hphase]; rfl) hcancelled
    · cases hpoll
    · cases hpoll
  | accept checked stamped =>
    obtain ⟨⟨hphase, hclock, hread⟩, heq⟩ := Option.ite_none_right_eq_some.mp h
    obtain _ | _ | n := limit
    · cases heq
      exact .admitted checked none hphase hclock rfl
    · cases heq
      exact .refused checked stamped hphase hclock hread rfl
    · cases heq
      exact .admitted checked (some n) hphase hclock rfl
  | acceptError e now =>
    obtain ⟨⟨hphase, hclock⟩, heq⟩ := Option.ite_none_right_eq_some.mp h
    cases heq
    split
    · exact .retried now hphase hclock
    · exact .paused now hphase hclock
  | wake now =>
    simp only [step] at h
    split at h
    · rename_i wake hphase
      obtain ⟨hwake, heq⟩ := Option.ite_none_right_eq_some.mp h
      cases heq
      exact .woken wake now hphase hwake
    · cases h
  | cancel =>
    cases h
    exact .cancelled

end Listener

/-! ## Fleets -/

/-- The TCP forwarders of the process, their connection tasks and what they share. -/
structure Fleet where
  /-- The permits left in `conn_limit`; `none` if there is no limit. -/
  limit : Option ℕ
  knobs : RuntimeKnobs
  listeners : List Listener
  conns : List Conn

namespace Fleet

/-- `conn_limit` as `ForwarderManager::new` makes it. -/
def connLimit (settings : Settings) : Option ℕ := settings.maxConnections.filter (0 < ·)

/-- A process that has not started a forwarder. -/
def init (settings : Settings) : Fleet where
  limit := connLimit settings
  knobs := .fromSettings settings
  listeners := []
  conns := []

/-- What can happen to a fleet. -/
inductive Input
  /-- A forwarder is started. -/
  | start (cfg : ForwarderConfig) (literal : Option IpAddr) (now : ℕ)
  /-- A hot-reload stores new knobs. -/
  | reload (settings : Settings)
  /-- A step of an accept loop. -/
  | listener (i : ℕ) (input : Listener.Input)
  /-- A step of a connection task. -/
  | conn (j : ℕ) (input : Conn.Input)
  /-- The monitor of a forwarder resolves the name. -/
  | observe (i : ℕ) (addrs : List IpAddr)
  /-- The monitor of a forwarder records a verdict. -/
  | reachable (i : ℕ) (up : Bool)

/-- One step of a fleet. -/
def step (f : Fleet) : Input → Option Fleet
  | .start cfg literal now =>
      some { f with listeners := f.listeners ++ [.init cfg literal now] }
  | .reload settings => some { f with knobs := f.knobs.update settings }
  | .listener i input =>
      (f.listeners[i]?).bind fun l =>
        (l.step i f.knobs.snapshot f.limit input).map fun (l, limit, spawned) =>
          { f with limit, listeners := f.listeners.set i l, conns := f.conns ++ spawned }
  | .conn j input =>
      (f.conns[j]?).bind fun c =>
        (f.listeners[c.owner]?).bind fun l =>
          (c.step l.bind.cfg l.literal l.stats input).map fun (c', stats, events) =>
            { f with
              -- the semaphore gets back what the task lets go of
              limit := if c.holds && !c'.holds then f.limit.map (· + 1) else f.limit
              listeners := f.listeners.set c.owner { l with stats, changes := l.changes ++ events }
              conns := f.conns.set j c' }
  | .observe i addrs =>
      (f.listeners[i]?).map fun l =>
        { f with listeners := f.listeners.set i { l with stats := (l.stats.observeAddrs addrs).2 } }
  | .reachable i up =>
      (f.listeners[i]?).map fun l =>
        { f with listeners := f.listeners.set i { l with stats := l.stats.setTargetReachable up } }

end Fleet

end Rfw.Forwarder
