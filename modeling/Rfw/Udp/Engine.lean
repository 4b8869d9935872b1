/-
# The listener of a UDP forwarder

One listener per forwarder, one connected upstream socket per client address (a session).  This
file models the listener's side: receiving, opening and closing sessions, and the path from a
client to the target.

The record `Engine` holds the listener's own fields together with what it shares with the other
tasks of the forwarder.  A session's shared state lives on a heap and is referred to by its
number, together with the number of its owners and the state of its reply task.  The outcome of
every outside call comes from a `Kernel`, which sees the whole trace of earlier calls, so a
statement about all kernels is a statement about all sequences of outcomes.
-/
import Rfw.Config.Settings
import Rfw.Lib.Table
import Rfw.Stats
import Rfw.Udp.Offload

namespace Rfw.Udp

open Lib

/-- `LISTENER_BATCH`. -/
def listenerBatch : ℕ := 64

/-- `LIMIT_ALERT_SPACING`, in nanoseconds. -/
def limitAlertSpacing : ℕ := 60 * 1000000000

/-! ## State -/

/-- One send, with its outcome. -/
structure Call where
  data : Bytes
  segment : ℕ
  ok : Bool
deriving DecidableEq, Repr

/-- The outside calls of a forwarder, with their outcome. -/
inductive Event
  /-- A receive on the listener with a known source. -/
  | received (client : SocketAddr) (data : Bytes) (segment : ℕ)
  /-- `try_acquire_owned` on the session limit. -/
  | acquire (ok : Bool)
  /-- `connect_upstream`. -/
  | connect (ok : Bool)
  /-- `set_gro`, on the upstream socket of a session or on the listener. -/
  | setGro (session : Option ℕ) (ok : Bool)
  /-- A send on the upstream socket of a session. -/
  | sent (session : ℕ) (client : SocketAddr) (call : Call)
  /-- A receive on the upstream socket of a session. -/
  | answered (session : ℕ) (data : Bytes) (segment : ℕ)
  /-- A send on the listener, on behalf of a session. -/
  | replied (session : ℕ) (client : SocketAddr) (call : Call)
  /-- A resolution of the target's name, with its addresses if it succeeded. -/
  | resolved (answer : Option (List SocketAddr))
  /-- A subtraction below zero. -/
  | underflow
deriving DecidableEq, Repr

/-- The surroundings: the outcome of each outside call after a trace of earlier ones. -/
structure Kernel where
  connect : List Event → SocketAddr → Except IoError Unit
  setGro : List Event → Except IoError Unit
  /-- A send on an upstream socket. -/
  send : List Event → Bytes → ℕ → Except IoError Unit
  /-- A send on the listener. -/
  sendTo : List Event → SocketAddr → Bytes → ℕ → Except IoError Unit
  /-- The permits that other forwarders hold at the moment for an open that is still going on. -/
  busy : List Event → ℕ
  /-- The readings of the clock, in nanoseconds, before the next outside call. -/
  instant : List Event → ℕ → ℕ

/-- A kernel that refuses nothing. -/
def Kernel.willing : Kernel where
  connect := fun _ _ => .ok ()
  setGro := fun _ => .ok ()
  send := fun _ _ _ => .ok ()
  sendTo := fun _ _ _ _ => .ok ()
  busy := fun _ => 0
  instant := fun _ _ => 0

/-- `Batch`. -/
@[ext]
structure Batch where
  bytes : ℕ := 0
  datagrams : ℕ := 0
  dropped : ℕ := 0
deriving DecidableEq, Repr

/-- Where the loop of `run_session` is. -/
inductive Task
  /-- Waiting for the upstream socket. -/
  | waiting
  /-- Sending the pieces of a blocked reply one after the other. -/
  | sending (rest : List Bytes)
  /-- The task returned. -/
  | ended
deriving DecidableEq, Repr

/-- `SessionShared`, with the number of its owners, the session's token and its task. -/
structure SessionShared where
  client : SocketAddr
  remote : SocketAddr
  lastActivityMs : ℕ
  dead : Bool
  rxDatagrams : ℕ
  gro : Bool
  /-- `Arc::strong_count`. -/
  strong : ℕ
  /-- The session's token was cancelled on its own; it is a child of the forwarder's. -/
  cancelled : Bool
  task : Task
deriving DecidableEq, Repr

/-- `SessionShared::touch`. -/
def SessionShared.touch (s : SessionShared) (nowMs : ℕ) : SessionShared :=
  if s.lastActivityMs < nowMs then { s with lastActivityMs := max s.lastActivityMs nowMs } else s

/-- `SessionEntry`; `shared` is the session's number on the heap. -/
structure SessionEntry where
  shared : ℕ
  txDatagrams : ℕ
  gsoOk : Bool
deriving DecidableEq, Repr

/-- The `watch` channel of the target's addresses, with the version the listener has seen. -/
structure Watch where
  value : List SocketAddr
  version : ℕ
  seen : ℕ
  /-- The refresher still holds the sending end. -/
  senderAlive : Bool
deriving DecidableEq, Repr

/-- `ListenerOffload`. -/
structure ListenerOffload where
  groSet : Bool := false
  enabled : Bool := false
  groAware : Bool := false
  unsupported : Bool := false
  /-- Shared with the sessions, which read it as `listener_gso`. -/
  gsoOk : Bool := true
deriving DecidableEq, Repr

/-- The alerts of a UDP forwarder. -/
inductive Alert
  | udpSessionLimitReached (label : Str) (rejectedTotal : ℕ)
  | dnsChanged (label host : Str) (old new : List IpAddr)
deriving DecidableEq, Repr

/-- `Engine`, with everything it shares. -/
structure Engine where
  cfg : ForwarderConfig
  stats : ForwarderStats
  knobs : RuntimeKnobs
  /-- The permits left in the shared session limit. -/
  udpLimit : ℕ
  alerts : List Alert
  cancelled : Bool
  /-- `Engine::run` has not returned. -/
  running : Bool
  targets : Watch
  dnsWatch : Bool
  sessions : Table SocketAddr SessionEntry
  lastLimitAlert : Option ℕ
  off : ListenerOffload
  /-- The shared state of every session opened so far, by its number. -/
  heap : ℕ → SessionShared
  /-- The number of the next session. -/
  fresh : ℕ
  /-- The outside calls so far. -/
  trace : List Event

/-- The listener while it works through one wakeup. -/
structure Turn extends Engine where
  batch : Batch

namespace Engine

/-- Note an outside call. -/
def log (e : Engine) (event : Event) : Engine := { e with trace := e.trace ++ [event] }

/-- Note a sequence of outside calls. -/
def logAll (e : Engine) (events : List Event) : Engine := { e with trace := e.trace ++ events }

/-- One send, whose outcome is asked for after the trace so far. -/
def call (e : Engine) (ask : List Event → Bytes → ℕ → Except IoError Unit) (event : Call → Event)
    (data : Bytes) (segment : ℕ) : Except IoError Unit × Engine :=
  let r := ask e.trace data segment
  (r, e.log (event ⟨data, segment, r.isOk⟩))

/-- Change the shared state of a session. -/
def modify (e : Engine) (sid : ℕ) (f : SessionShared → SessionShared) : Engine :=
  { e with heap := Function.update e.heap sid (f (e.heap sid)) }

/-- The session's token is cancelled, on its own or with the forwarder's. -/
def tokenCancelled (e : Engine) (sid : ℕ) : Bool := e.cancelled || (e.heap sid).cancelled

/-- One owner of a session's shared state lets go; the last one closes the upstream socket, which
lowers the gauge (`ConnGuard`) and gives the permit back. -/
def dropShared (e : Engine) (sid : ℕ) : Engine :=
  if (e.heap sid).strong = 1 then
    { e.modify sid fun s => { s with strong := 0 } with
      stats := e.stats.decConnections
      udpLimit := e.udpLimit + 1 }
  else e.modify sid fun s => { s with strong := s.strong - 1 }

/-- `close_entry`. -/
def closeEntry (e : Engine) (entry : SessionEntry) : Engine :=
  e.modify entry.shared fun s => { s with cancelled := true }

/-- Take a client's session out of the table, close it and drop the entry. -/
def removeEntry (e : Engine) (client : SocketAddr) : Engine :=
  match e.sessions.get? client with
  | none => e
  | some entry =>
      (closeEntry { e with sessions := e.sessions.erase client } entry).dropShared entry.shared

/-- `sessions.retain`: close the sessions whose shared state fails `keep`. -/
def retain (e : Engine) (keep : SessionShared → Bool) : Engine :=
  let gone := e.sessions.entries.filter fun entry => !keep (e.heap entry.2.shared)
  (gone.map Prod.fst).foldl removeEntry e

/-- `Engine::sweep`. -/
def sweep (e : Engine) (nowMs : ℕ) : Engine :=
  let timeoutMs := min (e.knobs.udpSessionTimeout * 1000) (2 ^ 64 - 1)
  e.retain fun s => !(s.dead || decide (timeoutMs ≤ nowMs - s.lastActivityMs))

/-- `Engine::on_targets_changed`. -/
def onTargetsChanged (e : Engine) : Engine :=
  let set := e.targets.value
  { e with targets := { e.targets with seen := e.targets.version } }.retain fun s =>
    decide (s.remote ∈ set)

/-- `Engine::close_all`. -/
def closeAll (e : Engine) : Engine := e.retain fun _ => false

/-- `Engine::mark_gro_unsupported`. -/
def markGroUnsupported (e : Engine) : Engine := { e with off := { e.off with unsupported := true } }

/-- `Engine::apply_gro_knob`. -/
def applyGroKnob (k : Kernel) (e : Engine) : Engine :=
  let want := e.knobs.udpGroGso && !e.off.unsupported
  if want = e.off.enabled then e
  else if !want then { e with off := { e.off with enabled := false } }
  else if e.off.groSet then { e with off := { e.off with enabled := true } }
  else
    -- the receives change before the socket does
    let e := { e with off := { e.off with groAware := true } }
    match k.setGro e.trace with
    | .ok () =>
        { e.log (.setGro none true) with off := { e.off with groSet := true, enabled := true } }
    | .error err =>
        let e := e.log (.setGro none false)
        if err.rawOsError = some IoError.enoprotoopt then e.markGroUnsupported
        else { e with off := { e.off with unsupported := true } }

end Engine

/-! ## Opening a session -/

namespace Turn

/-- Count dropped datagrams. -/
def drop (t : Turn) (n : ℕ) : Turn :=
  { t with batch := { t.batch with dropped := t.batch.dropped + n } }

/-- Count accepted datagrams with their payload. -/
def accept (t : Turn) (n bytes : ℕ) : Turn :=
  { t with batch :=
    { t.batch with datagrams := t.batch.datagrams + n, bytes := t.batch.bytes + bytes } }

/-- Put a client's entry into the table. -/
def store (client : SocketAddr) (p : Turn × SessionEntry) : Turn :=
  { p.1 with sessions := p.1.sessions.insert client p.2 }

/-- Act on the engine. -/
def onEngine (t : Turn) (f : Engine → Engine) : Turn := { t with toEngine := f t.toEngine }

end Turn

/-- The branch of `open_session` without a target. -/
def noTarget (datagrams : ℕ) (t : Turn) : Turn :=
  { t.drop datagrams with stats := t.stats.markConnectFailed }

/-- The branch of `open_session` without a permit. -/
def noPermit (k : Kernel) (datagrams : ℕ) (t : Turn) : Turn :=
  let stats := t.stats.addRejected datagrams
  let due := match t.lastLimitAlert with
    | none => true
    | some at' => decide (limitAlertSpacing ≤ k.instant t.trace 0 - at')
  let t := { t.drop datagrams with stats }
  if due then
    { t with
      lastLimitAlert := some (k.instant t.trace 1)
      alerts := .udpSessionLimitReached t.cfg.label stats.rejectedConnections :: t.alerts }
  else t

/-- The branch of `open_session` whose connect failed: the permit goes back. -/
def connectFailed (datagrams : ℕ) (t : Turn) : Turn :=
  { t.drop datagrams with
    stats := t.stats.markConnectFailed
    udpLimit := t.udpLimit + 1 }

/-- Whether the new upstream socket gets receive offload. -/
def groUpstream (k : Kernel) (t : Turn) : Bool × Turn :=
  if t.off.enabled then
    match k.setGro t.trace with
    | .ok () => (true, t.onEngine (·.log (.setGro (some t.fresh) true)))
    | .error err =>
        let t := t.onEngine (·.log (.setGro (some t.fresh) false))
        if err.rawOsError = some IoError.enoprotoopt then (false, t.onEngine (·.markGroUnsupported))
        else (false, t)
  else (false, t)

/-- The end of `open_session`: the session with its two owners, the table entry and the task. -/
def startSession (nowMs : ℕ) (client remote : SocketAddr) (gro : Bool) (t : Turn) :
    SessionEntry × Turn :=
  let shared : SessionShared :=
    { client, remote, lastActivityMs := nowMs, dead := false, rxDatagrams := 0, gro, strong := 2,
      cancelled := false, task := .waiting }
  ({ shared := t.fresh, txDatagrams := 0, gsoOk := true },
    { t with
      stats := t.stats.incConnections
      heap := Function.update t.heap t.fresh shared
      fresh := t.fresh + 1 })

/-- `Engine::open_session`. -/
def openSession (k : Kernel) (nowMs datagrams : ℕ) (client : SocketAddr) (t : Turn) :
    Option SessionEntry × Turn :=
  match t.targets.value.head? with
  | none => (none, noTarget datagrams t)
  | some remote =>
      if t.udpLimit ≤ k.busy t.trace then
        (none, noPermit k datagrams (t.onEngine (·.log (.acquire false))))
      else
        let t := { t.onEngine (·.log (.acquire true)) with udpLimit := t.udpLimit - 1 }
        match k.connect t.trace remote with
        | .error _ => (none, connectFailed datagrams (t.onEngine (·.log (.connect false))))
        | .ok () =>
            let (gro, t) := groUpstream k (t.onEngine (·.log (.connect true)))
            let (entry, t) := startSession nowMs client remote gro t
            (some entry, t)

/-! ## From a client to the target -/

/-- One send on a session's upstream socket. -/
def send (k : Kernel) (sid : ℕ) (e : Engine) (data : Bytes) (segment : ℕ) :
    Except IoError Unit × Engine :=
  e.call k.send (.sent sid (e.heap sid).client) data segment

/-- `note_upstream_send_error`. -/
def noteUpstreamSendError (err : IoError) (nowMs : ℕ) (e : Engine) : Engine :=
  match classifyUdpErr err with
  | .icmp kind => { e with stats := e.stats.markUdpIcmpError nowMs kind }
  | .wouldBlock | .transient | .fatal => e

/-- `forward_upstream`. -/
def forwardUpstream (k : Kernel) (nowMs : ℕ) (data : Bytes) (t : Turn) (entry : SessionEntry) :
    Turn × SessionEntry :=
  match send k entry.shared t.toEngine data 0 with
  | (.ok (), e) =>
      ({ t.accept 1 data.length with toEngine := e.modify entry.shared (·.touch nowMs) },
        { entry with txDatagrams := entry.txDatagrams + 1 })
  | (.error err, e) =>
      ({ t.drop 1 with toEngine := noteUpstreamSendError err nowMs e }, entry)

/-- `forward_upstream` for each datagram of a sequence. -/
def forwardPieces (k : Kernel) (nowMs : ℕ) :
    List Bytes → Turn → SessionEntry → Turn × SessionEntry
  | [], t, entry => (t, entry)
  | piece :: rest, t, entry =>
      let (t, entry) := forwardUpstream k nowMs piece t entry
      forwardPieces k nowMs rest t entry

/-- `forward_upstream_coalesced`. -/
def forwardUpstreamCoalesced (k : Kernel) (nowMs : ℕ) (data : Bytes) (segment : ℕ) (t : Turn)
    (entry : SessionEntry) : Turn × SessionEntry :=
  let total := segments data.length segment
  if entry.gsoOk then
    match sendChunks (send k entry.shared) data segment t.toEngine with
    | (.sent, e) =>
        ({ t.accept total data.length with toEngine := e.modify entry.shared (·.touch nowMs) },
          { entry with txDatagrams := entry.txDatagrams + total })
    | (.stopped off err, e) =>
        let sent := off / segment
        let entry := { entry with txDatagrams := entry.txDatagrams + sent }
        let e := if 0 < sent then e.modify entry.shared (·.touch nowMs) else e
        let t := { t.accept sent off with toEngine := e }
        if !isFallbackError err then
          let e := if total < sent then e.log .underflow else e
          ({ t.drop (total - sent) with toEngine := noteUpstreamSendError err nowMs e }, entry)
        else
          forwardPieces k nowMs (chunks segment (data.drop off)) t { entry with gsoOk := false }
  else forwardPieces k nowMs (chunks segment data) t entry

/-- Close what is left of the client's session, open one for `datagrams` datagrams, and forward
through it. -/
def reopen (k : Kernel) (nowMs datagrams : ℕ) (client : SocketAddr)
    (forward : Turn → SessionEntry → Turn × SessionEntry) (t : Turn) : Turn :=
  match openSession k nowMs datagrams client (t.onEngine (·.removeEntry client)) with
  | (none, t) => t
  -- the source forwards through the entry in the table, which the sends do not look at
  | (some entry, t) => Turn.store client (forward t entry)

/-- What `on_client_datagram` and `on_client_buffer` have in common: forward through the client's
session if it is alive, else through a new one. -/
def serveClient (k : Kernel) (nowMs datagrams : ℕ) (client : SocketAddr)
    (forward : Turn → SessionEntry → Turn × SessionEntry) (t : Turn) : Turn :=
  match t.sessions.get? client with
  | some entry =>
      if (t.heap entry.shared).dead then reopen k nowMs datagrams client forward t
      else Turn.store client (forward t entry)
  | none => reopen k nowMs datagrams client forward t

/-- `Engine::on_client_datagram`. -/
def onClientDatagram (k : Kernel) (nowMs : ℕ) (client : SocketAddr) (data : Bytes) (t : Turn) :
    Turn :=
  serveClient k nowMs 1 client (forwardUpstream k nowMs data) t

/-- `Engine::on_client_buffer`. -/
def onClientBuffer (k : Kernel) (nowMs : ℕ) (client : SocketAddr) (data : Bytes) (segment : ℕ)
    (t : Turn) : Turn :=
  if !isCoalesced data.length segment then onClientDatagram k nowMs client data t
  else
    serveClient k nowMs (segments data.length segment) client
      (forwardUpstreamCoalesced k nowMs data segment) t

/-! ## Draining the listener -/

/-- `ListenerDrain`. -/
inductive ListenerDrain
  | idle
  | full
  | failed
deriving DecidableEq, Repr

/-- The receive loop of both drains, with `n` rounds left.  The results of the receives are given
in order; when they are used up, the socket would block. -/
def receiveLoop {ρ : Type*} (handle : ρ → Turn → Turn) :
    ℕ → List (Except IoError ρ) → Turn → ListenerDrain × Turn
  | 0, _, t => (.full, t)
  | _ + 1, [], t => (.idle, t)
  | n + 1, .ok r :: rs, t => receiveLoop handle n rs (handle r t)
  | n + 1, .error err :: rs, t =>
      match classifyUdpErr err with
      | .wouldBlock => (.idle, t)
      | .transient | .icmp _ => receiveLoop handle n rs t
      | .fatal => (.failed, t)

/-- The end of both drains: the batch is added to the counters. -/
def flushSent (t : Turn) : Engine :=
  let stats := t.stats
  let stats :=
    if 0 < t.batch.datagrams then
      (stats.addSent t.batch.bytes).addDatagramsSent t.batch.datagrams
    else stats
  let stats := if 0 < t.batch.dropped then stats.addDatagramsDropped t.batch.dropped else stats
  { t.toEngine with stats }

/-- A drain of the listener. -/
def drainWith {ρ : Type*} (handle : ρ → Turn → Turn) (rs : List (Except IoError ρ)) (e : Engine) :
    ListenerDrain × Engine :=
  let (outcome, t) := receiveLoop handle listenerBatch rs { e with batch := {} }
  (outcome, flushSent t)

/-- One plain receive of `drain_listener`. -/
def handlePlain (k : Kernel) (nowMs : ℕ) (r : Bytes × SocketAddr) (t : Turn) : Turn :=
  onClientDatagram k nowMs r.2 r.1 (t.onEngine (·.log (.received r.2 r.1 0)))

/-- One receive of `drain_listener_gro`. -/
def handleGro (k : Kernel) (nowMs : ℕ) (r : Recv) (t : Turn) : Turn :=
  match r.sender with
  | none => t
  | some client =>
      let t := t.onEngine (·.log (.received client r.data r.segment))
      if r.truncated then t.drop (segments r.data.length r.segment)
      else onClientBuffer k nowMs client r.data r.segment t

/-- `Engine::drain_listener`. -/
def drainListener (k : Kernel) (nowMs : ℕ) (rs : List (Except IoError (Bytes × SocketAddr)))
    (e : Engine) : ListenerDrain × Engine :=
  drainWith (handlePlain k nowMs) rs e

/-- `Engine::drain_listener_gro`. -/
def drainListenerGro (k : Kernel) (nowMs : ℕ) (rs : List (Except IoError Recv)) (e : Engine) :
    ListenerDrain × Engine :=
  drainWith (handleGro k nowMs) rs e

end Rfw.Udp
