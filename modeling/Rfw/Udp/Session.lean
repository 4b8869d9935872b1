/-
# The reply task of a UDP session

Target to client runs in one task per session.  A wakeup drains the upstream socket and answers
through the listener without ever waiting.  When the listener's send buffer is full the drain
stops and hands the unsent remainder to a slow path, which sends it one datagram at a time and
waits for each.
-/
import Rfw.Udp.Engine

namespace Rfw.Udp

open Lib

/-- `SESSION_BATCH`. -/
def sessionBatch : ℕ := 64

/-- `Pending`: a reply the listener could not take yet. -/
structure Pending where
  data : Bytes
  segment : ℕ
deriving DecidableEq, Repr

/-- `SessionDrain`. -/
inductive SessionDrain
  | idle
  | full
  | blocked (pending : Pending)
  | dead
deriving DecidableEq, Repr

/-! ## One reply -/

/-- One send on the listener to the client of a session. -/
def sendTo (k : Kernel) (sid : ℕ) (e : Engine) (data : Bytes) (segment : ℕ) :
    Except IoError Unit × Engine :=
  let client := (e.heap sid).client
  e.call (fun trace => k.sendTo trace client) (.replied sid client) data segment

/-- The answer to a buffer of one datagram, in both drains. -/
def replyOne (k : Kernel) (sid : ℕ) (data : Bytes) (t : Turn) : Option Pending × Turn :=
  match sendTo k sid t.toEngine data 0 with
  | (.ok (), e) => (none, { t.accept 1 data.length with toEngine := e })
  | (.error err, e) =>
      if err.kind = .wouldBlock then (some ⟨data, 0⟩, { t with toEngine := e })
      else (none, { t.drop 1 with toEngine := e })

/-- The second half of `reply_coalesced`: one datagram at a time, where `rest` is what the pieces
not yet sent concatenate to. -/
def replyPieces (k : Kernel) (sid segment : ℕ) :
    List Bytes → Bytes → Turn → Option Pending × Turn
  | [], _, t => (none, t)
  | piece :: ps, rest, t =>
      match sendTo k sid t.toEngine piece 0 with
      | (.ok (), e) =>
          replyPieces k sid segment ps (rest.drop piece.length)
            { t.accept 1 piece.length with toEngine := e }
      | (.error err, e) =>
          if err.kind = .wouldBlock then (some ⟨rest, segment⟩, { t with toEngine := e })
          else
            replyPieces k sid segment ps (rest.drop piece.length) { t.drop 1 with toEngine := e }

/-- `reply_coalesced`. -/
def replyCoalesced (k : Kernel) (sid : ℕ) (data : Bytes) (segment : ℕ) (t : Turn) :
    Option Pending × Turn :=
  if t.off.gsoOk then
    match sendChunks (sendTo k sid) data segment t.toEngine with
    | (.sent, e) =>
        (none, { t.accept (segments data.length segment) data.length with toEngine := e })
    | (.stopped off err, e) =>
        let t := { t.accept (off / segment) off with toEngine := e }
        if err.kind = .wouldBlock then (some ⟨data.drop off, segment⟩, t)
        else if !isFallbackError err then
          (none, t.drop (segments (data.length - off) segment))
        else
          replyPieces k sid segment (chunks segment (data.drop off)) (data.drop off)
            { t with off := { t.off with gsoOk := false } }
  else replyPieces k sid segment (chunks segment data) data t

/-! ## Draining the upstream socket -/

/-- A session while it works through one wakeup. -/
structure ReplyTurn extends Turn where
  replied : Bool

/-- The receive loop of both drains, with `n` rounds left.  The results of the receives are given
in order, each after the second try on the error interest; when they are used up, the socket would
block. -/
def answerLoop {ρ : Type*} (sid nowMs : ℕ) (reply : ρ → Turn → Option Pending × Turn) :
    ℕ → List (Except IoError ρ) → ReplyTurn → SessionDrain × ReplyTurn
  | 0, _, d => (.full, d)
  | _ + 1, [], d => (.idle, d)
  | n + 1, .ok r :: rs, d =>
      match reply r d.toTurn with
      | (some p, t) => (.blocked p, { toTurn := t, replied := true })
      | (none, t) => answerLoop sid nowMs reply n rs { toTurn := t, replied := true }
  | n + 1, .error err :: rs, d =>
      match classifyUdpErr err with
      | .wouldBlock => (.idle, d)
      | .transient => answerLoop sid nowMs reply n rs d
      | .icmp kind =>
          answerLoop sid nowMs reply n rs
            { d with stats := d.stats.markUdpIcmpError nowMs kind }
      | .fatal =>
          (.dead, { d with toTurn := d.onEngine (·.modify sid fun s => { s with dead := true }) })

/-- The end of both drains: the reply is evidence of life, and the batch is added to the
counters. -/
def flushReceived (sid nowMs : ℕ) (d : ReplyTurn) : Engine :=
  let e := d.toEngine
  let e :=
    if d.replied then
      { e.modify sid (·.touch nowMs) with stats := e.stats.markConnectOkAt nowMs }
    else e
  let e :=
    if 0 < d.batch.datagrams then
      { e.modify sid fun s => { s with rxDatagrams := s.rxDatagrams + d.batch.datagrams } with
        stats := (e.stats.addReceived d.batch.bytes).addDatagramsReceived d.batch.datagrams }
    else e
  if 0 < d.batch.dropped then
    { e with stats := e.stats.addDatagramsDropped d.batch.dropped }
  else e

/-- A drain of a session's upstream socket. -/
def answerWith {ρ : Type*} (sid nowMs : ℕ) (reply : ρ → Turn → Option Pending × Turn)
    (rs : List (Except IoError ρ)) (e : Engine) : SessionDrain × Engine :=
  let (outcome, d) :=
    answerLoop sid nowMs reply sessionBatch rs { e with batch := {}, replied := false }
  (outcome, flushReceived sid nowMs d)

/-- One receive of `drain_upstream`. -/
def answerPlain (k : Kernel) (sid : ℕ) (data : Bytes) (t : Turn) : Option Pending × Turn :=
  replyOne k sid data (t.onEngine (·.log (.answered sid data 0)))

/-- One receive of `drain_upstream_gro`. -/
def answerGro (k : Kernel) (sid : ℕ) (r : Recv) (t : Turn) : Option Pending × Turn :=
  let t := t.onEngine (·.log (.answered sid r.data r.segment))
  if r.truncated then (none, t.drop (segments r.data.length r.segment))
  else if !isCoalesced r.data.length r.segment then replyOne k sid r.data t
  else replyCoalesced k sid r.data r.segment t

/-- `drain_upstream`. -/
def drainUpstream (k : Kernel) (nowMs : ℕ) (rs : List (Except IoError Bytes)) (sid : ℕ)
    (e : Engine) : SessionDrain × Engine :=
  answerWith sid nowMs (answerPlain k sid) rs e

/-- `drain_upstream_gro`. -/
def drainUpstreamGro (k : Kernel) (nowMs : ℕ) (rs : List (Except IoError Recv)) (sid : ℕ)
    (e : Engine) : SessionDrain × Engine :=
  answerWith sid nowMs (answerGro k sid) rs e

/-! ## The loop of the task -/

/-- The task moves on. -/
def Engine.setTask (e : Engine) (sid : ℕ) (task : Task) : Engine :=
  e.modify sid fun s => { s with task }

/-- The task returns and lets go of the shared state. -/
def Engine.endTask (e : Engine) (sid : ℕ) : Engine := (e.setTask sid .ended).dropShared sid

/-- `run_session`: waiting for readiness failed. -/
def notReady (sid : ℕ) (e : Engine) : Engine :=
  (e.modify sid fun s => { s with dead := true }).endTask sid

/-- `run_session`: the drain that fits the socket.  A plain receive only sees the bytes. -/
def drainSession (k : Kernel) (nowMs : ℕ) (rs : List (Except IoError Recv)) (sid : ℕ)
    (e : Engine) : SessionDrain × Engine :=
  if (e.heap sid).gro then drainUpstreamGro k nowMs rs sid e
  else drainUpstream k nowMs (rs.map (·.map Recv.data)) sid e

/-- `run_session`: the upstream socket is ready. -/
def wakeup (k : Kernel) (nowMs : ℕ) (rs : List (Except IoError Recv)) (sid : ℕ) (e : Engine) :
    Engine :=
  match drainSession k nowMs rs sid e with
  | (.idle, e) | (.full, e) => e
  | (.dead, e) => e.endTask sid
  | (.blocked p, e) => e.setTask sid (.sending (pieces p.segment p.data))

/-- `run_session`: the slow path has an answer to `send_to` for `piece`, with `rest` to follow. -/
def sendPending (k : Kernel) (sid : ℕ) (piece : Bytes) (rest : List Bytes) (e : Engine) :
    Engine :=
  let e :=
    match sendTo k sid e piece 0 with
    | (.ok (), e) =>
        { e.modify sid fun s => { s with rxDatagrams := s.rxDatagrams + 1 } with
          stats := (e.stats.addReceived piece.length).addDatagramsReceived 1 }
    | (.error _, e) => { e with stats := e.stats.addDatagramsDropped 1 }
  e.setTask sid (if rest = [] then .waiting else .sending rest)

/-- The slow path for the pieces of a blocked reply, to its end. -/
def sendAllPending (k : Kernel) (sid : ℕ) : List Bytes → Engine → Engine
  | [], e => e
  | piece :: rest, e => sendAllPending k sid rest (sendPending k sid piece rest e)

/-- `run_session`: a wakeup, to the end of the slow path if the drain was blocked. -/
def handleWakeup (k : Kernel) (nowMs : ℕ) (rs : List (Except IoError Recv)) (sid : ℕ)
    (e : Engine) : Engine :=
  let e' := wakeup k nowMs rs sid e
  match (drainSession k nowMs rs sid e).1 with
  | .blocked p => sendAllPending k sid (pieces p.segment p.data) e'
  | .idle | .full | .dead => e'

end Rfw.Udp
