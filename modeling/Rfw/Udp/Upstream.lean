/-
# From a client to the target: one buffer

`Forwarded ps cs p q` is the contract of the functions that send on a session's upstream socket.
It says that they made the sends `cs`, that what these put on the wire is a subsequence of the
datagrams `ps` handed to them, that the batch counts it as sent and the others as dropped, and
that nothing else moved apart from the session's activity time and the ICMP evidence.
-/
import Rfw.Udp.Sends

namespace Rfw.Udp

open Lib

/-! ## What stays the same -/

/-- The stats without the evidence that the data path leaves for the monitor. -/
def quiet (s : ForwarderStats) : ForwarderStats :=
  { s with lastConnectOkMs := 0, probeKick := false, udpIcmpErrorMs := 0, udpIcmpKind := none }

/-- The part of a forwarder that decides who owns which session and where it points. -/
def Engine.core (e : Engine) : Engine :=
  { e with
    stats := { ForwarderStats.withProtocol [] .udp with
      activeConnections := e.stats.activeConnections }
    alerts := []
    lastLimitAlert := none
    off := {}
    heap := fun sid => { e.heap sid with lastActivityMs := 0, rxDatagrams := 0 }
    trace := [] }

section Core

variable {e e' : Engine}

lemma sessions_of_core (h : e'.core = e.core) : e'.sessions = e.sessions := by
  have := congrArg Engine.sessions h
  exact this

lemma targets_of_core (h : e'.core = e.core) : e'.targets = e.targets := by
  have := congrArg Engine.targets h
  exact this

lemma fresh_of_core (h : e'.core = e.core) : e'.fresh = e.fresh := by
  have := congrArg Engine.fresh h
  exact this

/-- What the core keeps of a session. -/
lemma heap_of_core {α : Type*} (h : e'.core = e.core) (g : SessionShared → α)
    (hg : ∀ s, g { s with lastActivityMs := 0, rxDatagrams := 0 } = g s) (sid : ℕ) :
    g (e'.heap sid) = g (e.heap sid) := by
  have := congrArg (fun e : Engine => g (e.heap sid)) h
  simpa only [Engine.core, hg] using this

end Core

/-- The activity time and the reply counter of a session are outside the core. -/
lemma core_modify {f : SessionShared → SessionShared} {sid : ℕ} {e : Engine}
    (hf : { f (e.heap sid) with lastActivityMs := 0, rxDatagrams := 0 } =
      { e.heap sid with lastActivityMs := 0, rxDatagrams := 0 }) :
    (e.modify sid f).core = e.core := by
  simp only [Engine.core, Engine.modify, Engine.mk.injEq, true_and, and_true]
  funext i
  by_cases h : i = sid
  · subst h
    simpa using hf
  · simp [h]

lemma touch_eq (s : SessionShared) (nowMs : ℕ) :
    s.touch nowMs = { s with lastActivityMs := max s.lastActivityMs nowMs } := by
  simp only [SessionShared.touch]
  split
  · rfl
  · rw [max_eq_left (by omega)]

/-- A send error leaves nothing but evidence. -/
lemma noteUpstreamSendError_eq (err : IoError) (nowMs : ℕ) (e : Engine) :
    ∃ stats, noteUpstreamSendError err nowMs e = { e with stats } ∧
      quiet stats = quiet e.stats := by
  simp only [noteUpstreamSendError]
  split
  · exact ⟨_, rfl, rfl⟩
  all_goals exact ⟨e.stats, rfl, rfl⟩

/-! ## Sending on a session's upstream socket -/

/-- The activity time of a session after `out` was accepted at `nowMs`. -/
def activityAfter (nowMs : ℕ) (out : List Bytes) (ms : ℕ) : ℕ :=
  if out = [] then ms else max ms nowMs

lemma activityAfter_append (nowMs : ℕ) (out out' : List Bytes) (ms : ℕ) :
    activityAfter nowMs out' (activityAfter nowMs out ms) =
      activityAfter nowMs (out ++ out') ms := by
  simp only [activityAfter, List.append_eq_nil_iff]
  by_cases h : out = [] <;> by_cases h' : out' = [] <;> simp [h, h']

/-- The kernel accepts every unsegmented send and rejects a segmented one at most with an error
that asks for the fallback. -/
structure Accepting (k : Kernel) : Prop where
  plain : ∀ trace data, k.send trace data 0 = .ok ()
  segmented : ∀ trace data segment err, k.send trace data segment = .error err →
    isFallbackError err = true

/-- The contract of the functions that forward the datagrams `ps` through a session, with the
sends `cs`. -/
structure Forwarded (k : Kernel) (nowMs : ℕ) (ps : List Bytes) (cs : List Call)
    (p q : Turn × SessionEntry) : Prop where
  core : q.1.core = p.1.core
  off : q.1.off = p.1.off
  stats : quiet q.1.stats = quiet p.1.stats
  heap : q.1.heap = Function.update p.1.heap p.2.shared
    { p.1.heap p.2.shared with
      lastActivityMs := activityAfter nowMs (outOf cs) (p.1.heap p.2.shared).lastActivityMs }
  shared : q.2.shared = p.2.shared
  tx : q.2.txDatagrams = p.2.txDatagrams + (outOf cs).length
  trace : q.1.trace = p.1.trace ++ cs.map (.sent p.2.shared (p.1.heap p.2.shared).client)
  real : ∀ c ∈ cs, c.Real
  sublist : (outOf cs).Sublist ps
  complete : Accepting k → outOf cs = ps
  datagrams : q.1.batch.datagrams = p.1.batch.datagrams + (outOf cs).length
  bytes : q.1.batch.bytes = p.1.batch.bytes + payload (outOf cs)
  dropped : q.1.batch.dropped + (outOf cs).length = p.1.batch.dropped + ps.length

namespace Forwarded

variable {k : Kernel} {nowMs : ℕ} {ps ps' : List Bytes} {cs cs' : List Call}
  {p q r : Turn × SessionEntry}

/-- The session's client is the same afterwards. -/
lemma client_eq (h : Forwarded k nowMs ps cs p q) (sid : ℕ) :
    (q.1.heap sid).client = (p.1.heap sid).client := by
  rw [h.heap]
  by_cases hsid : sid = p.2.shared
  · subst hsid
    simp
  · simp [hsid]

/-- Nothing is sent, and at most the entry's offload flag changes. -/
lemma idle (t : Turn) (entry : SessionEntry) (gsoOk : Bool) :
    Forwarded k nowMs [] [] (t, entry) (t, { entry with gsoOk }) where
  core := rfl
  off := rfl
  stats := rfl
  heap := by simp [activityAfter]
  shared := rfl
  tx := rfl
  trace := by simp
  real := by simp
  sublist := .slnil
  complete := fun _ => rfl
  datagrams := rfl
  bytes := rfl
  dropped := rfl

lemma trans (h : Forwarded k nowMs ps cs p q) (h' : Forwarded k nowMs ps' cs' q r) :
    Forwarded k nowMs (ps ++ ps') (cs ++ cs') p r where
  core := h'.core.trans h.core
  off := h'.off.trans h.off
  stats := h'.stats.trans h.stats
  heap := by
    rw [h'.heap, h.shared, h.heap]
    simp [activityAfter_append]
  shared := h'.shared.trans h.shared
  tx := by rw [h'.tx, h.tx, outOf_append, List.length_append]; omega
  trace := by rw [h'.trace, h.trace, h.shared, h.client_eq, List.map_append, List.append_assoc]
  real := List.forall_mem_append.mpr ⟨h.real, h'.real⟩
  sublist := by rw [outOf_append]; exact h.sublist.append h'.sublist
  complete := fun hk => by rw [outOf_append, h.complete hk, h'.complete hk]
  datagrams := by rw [h'.datagrams, h.datagrams, outOf_append, List.length_append]; omega
  bytes := by rw [h'.bytes, h.bytes, outOf_append, payload_append]; omega
  dropped := by
    have h₁ := h.dropped
    have h₂ := h'.dropped
    simp only [outOf_append, List.length_append]
    omega

end Forwarded

section Forward

variable (k : Kernel) (nowMs : ℕ) (t : Turn) (entry : SessionEntry)

/-- The sends of a session, seen from the turn that made them. -/
def Turn.sent (t : Turn) (entry : SessionEntry) (cs : List Call) : Engine :=
  t.logAll (cs.map (.sent entry.shared (t.heap entry.shared).client))

/-- Counting what was accepted, with its touch, meets the contract. -/
lemma forwarded_accept (cs : List Call) (hreal : ∀ c ∈ cs, c.Real) {n bytes : ℕ}
    (hn : n = (outOf cs).length) (hbytes : bytes = payload (outOf cs)) :
    Forwarded k nowMs (outOf cs) cs (t, entry)
      ({ t.accept n bytes with
          toEngine :=
            if 0 < n then (t.sent entry cs).modify entry.shared (·.touch nowMs)
            else t.sent entry cs },
        { entry with txDatagrams := entry.txDatagrams + n }) := by
  have hengine : (if 0 < n then (t.sent entry cs).modify entry.shared (·.touch nowMs)
      else t.sent entry cs) = (t.sent entry cs).modify entry.shared (fun s =>
        { s with lastActivityMs := activityAfter nowMs (outOf cs) s.lastActivityMs }) := by
    by_cases hout : outOf cs = []
    · simp [hn, hout, activityAfter, Engine.modify]
    · simp [hn, List.length_pos_iff.mpr hout, activityAfter, hout, touch_eq]
  subst hn hbytes
  simp only [hengine]
  exact {
    core := core_modify rfl
    off := rfl
    stats := rfl
    heap := rfl
    shared := rfl
    tx := rfl
    trace := rfl
    real := hreal
    sublist := List.Sublist.refl _
    complete := fun _ => rfl
    datagrams := rfl
    bytes := rfl
    dropped := rfl }

/-- Counting datagrams as dropped after failed sends meets the contract. -/
lemma forwarded_drop (ps : List Bytes) (cs : List Call) (hreal : ∀ c ∈ cs, c.Real) {n : ℕ}
    (hn : n = ps.length) (hout : outOf cs = []) (hk : ¬ Accepting k) (err : IoError) :
    Forwarded k nowMs ps cs (t, entry)
      ({ t.drop n with toEngine := noteUpstreamSendError err nowMs (t.sent entry cs) }, entry) := by
  obtain ⟨stats, hnote, hquiet⟩ := noteUpstreamSendError_eq err nowMs (t.sent entry cs)
  rw [hnote]
  subst hn
  exact {
    core := by
      have hactive := congrArg ForwarderStats.activeConnections hquiet
      simp only [quiet] at hactive
      simp [Engine.core, Turn.sent, Engine.logAll, hactive]
    off := rfl
    stats := hquiet
    heap := by simp [hout, activityAfter, Turn.sent, Engine.logAll]
    shared := rfl
    tx := by simp [hout]
    trace := rfl
    real := hreal
    sublist := by simp [hout]
    complete := fun hk' => absurd hk' hk
    datagrams := by simp [hout, Turn.drop]
    bytes := by simp [hout, Turn.drop]
    dropped := by simp [hout, Turn.drop] }

/-- `forward_upstream` meets the contract for its one datagram. -/
lemma forwarded_forwardUpstream (data : Bytes) :
    ∃ cs, Forwarded k nowMs [data] cs (t, entry) (forwardUpstream k nowMs data t entry) := by
  rcases hsend : k.send t.trace data 0 with err | ⟨⟩
  · simp only [forwardUpstream, send, call_of_error hsend]
    refine ⟨_, forwarded_drop k nowMs t entry [data] [⟨data, 0, false⟩]
      (by simpa using Call.real_plain data false) rfl (by simp) (fun hk => ?_) err⟩
    rw [hk.plain] at hsend
    cases hsend
  · simp only [forwardUpstream, send, call_of_ok hsend]
    exact ⟨_, forwarded_accept k nowMs t entry [⟨data, 0, true⟩]
      (by simpa using Call.real_plain data true) rfl rfl⟩

/-- `forward_upstream` over a sequence meets the contract. -/
lemma forwarded_forwardPieces (ps : List Bytes) :
    ∃ cs, Forwarded k nowMs ps cs (t, entry) (forwardPieces k nowMs ps t entry) := by
  induction ps generalizing t entry with
  | nil => exact ⟨[], .idle t entry entry.gsoOk⟩
  | cons piece ps ih =>
    obtain ⟨cs, h⟩ := forwarded_forwardUpstream k nowMs t entry piece
    obtain ⟨cs', h'⟩ := ih (forwardUpstream k nowMs piece t entry).1
      (forwardUpstream k nowMs piece t entry).2
    exact ⟨cs ++ cs', h.trans h'⟩

/-- `forward_upstream_coalesced` meets the contract for the datagrams of its burst. -/
lemma forwarded_forwardUpstreamCoalesced {data : Bytes} {segment : ℕ}
    (hburst : isCoalesced data.length segment = true) :
    ∃ cs, Forwarded k nowMs (pieces segment data) cs (t, entry)
      (forwardUpstreamCoalesced k nowMs data segment t entry) := by
  obtain ⟨hs, hlen⟩ := isCoalesced_iff.mp hburst
  have hdata : data ≠ [] := List.length_pos_iff.mp (by omega)
  have htotal : segments data.length segment = (chunks segment data).length := by
    rw [← length_pieces, pieces_of_coalesced hburst]
  rw [pieces_of_coalesced hburst, forwardUpstreamCoalesced, htotal]
  by_cases hgso : entry.gsoOk
  swap
  · rw [if_neg hgso]
    exact forwarded_forwardPieces k nowMs t entry _
  rw [if_pos hgso]
  have hcall : ∀ evs data seg, send k entry.shared (t.logAll evs) data seg =
      (t.logAll evs).call k.send (.sent entry.shared (t.heap entry.shared).client) data seg :=
    fun _ _ _ => rfl
  rcases hr : sendChunks (send k entry.shared) data segment t.toEngine with ⟨_ | ⟨off, err⟩, e⟩
  · obtain ⟨cs, rfl, hout, hreal⟩ := sent_sendChunks hs hcall hr
    have h := forwarded_accept k nowMs t entry cs hreal rfl rfl
    rw [hout] at h
    have hpos : 0 < (chunks segment data).length :=
      List.length_pos_iff.mpr (chunks_ne_nil hs hdata)
    rw [if_pos hpos, payload_chunks hs] at h
    exact ⟨cs, h⟩
  · obtain ⟨hoff, hdvd, ⟨cs, rfl, hout, hreal⟩, herr⟩ := stopped_sendChunks hs hcall hdata hr
    have hcut := chunks_split hs hdvd hoff
    have hn : off / segment = (outOf cs).length := by rw [hout, length_chunks_take hs hdvd hoff]
    have hbytes : off = payload (outOf cs) := by rw [hout, payload_chunks_take hs hoff]
    -- first the datagrams in front of the offset are counted, then the others are dealt with
    have h := forwarded_accept k nowMs t entry cs hreal hn hbytes
    rw [hcut, ← hout]
    dsimp only
    split
    · -- a hard error drops the rest of the burst; `total - sent` does not underflow
      rename_i hhard
      have hk : ¬ Accepting k := by
        intro hk
        rcases herr with herr | ⟨trace, chunk, seg, herr⟩
        · simp [herr] at hhard
        · simp [hk.segmented _ _ _ _ herr] at hhard
      have hrest : (outOf cs ++ chunks segment (data.drop off)).length - off / segment =
          (chunks segment (data.drop off)).length := by
        rw [List.length_append]
        omega
      rw [if_neg (by rw [List.length_append]; omega), hrest]
      have h' := forwarded_drop k nowMs
        { t.accept (off / segment) off with
          toEngine :=
            if 0 < off / segment then (t.sent entry cs).modify entry.shared (·.touch nowMs)
            else t.sent entry cs }
        { entry with txDatagrams := entry.txDatagrams + off / segment }
        (chunks segment (data.drop off)) [] (by simp) rfl rfl hk err
      refine ⟨cs ++ [], ?_⟩
      refine h.trans ?_
      simpa [Turn.sent, Turn.drop, Turn.accept] using h'
    · -- a fallback error sends the rest datagram by datagram
      obtain ⟨cs', h'⟩ := forwarded_forwardPieces k nowMs
        { t.accept (off / segment) off with
          toEngine :=
            if 0 < off / segment then (t.sent entry cs).modify entry.shared (·.touch nowMs)
            else t.sent entry cs }
        { entry with txDatagrams := entry.txDatagrams + off / segment, gsoOk := false }
        (chunks segment (data.drop off))
      exact ⟨cs ++ ([] ++ cs'), h.trans ((Forwarded.idle _ _ false).trans h')⟩

end Forward

/-! ## Opening a session -/

/-- Why no session could be opened. -/
inductive OpenFailure
  | noTarget
  | noPermit
  | connectFailed
deriving DecidableEq, Repr

/-- The outside calls of an attempt that fails. -/
def OpenFailure.events : OpenFailure → List Event
  | .noTarget => []
  | .noPermit => [.acquire false]
  | .connectFailed => [.acquire true, .connect false]

/-- How an attempt to open a session ends in a given state; `none` is a success. -/
def openOutcome (k : Kernel) (e : Engine) : Option OpenFailure :=
  match e.targets.value.head? with
  | none => some .noTarget
  | some remote =>
      if e.udpLimit ≤ k.busy e.trace then some .noPermit
      else
        match k.connect (e.trace ++ [.acquire true]) remote with
        | .error _ => some .connectFailed
        | .ok () => none

/-- The contract of an attempt that fails, on behalf of `n` datagrams. -/
structure OpenFailed (why : OpenFailure) (n : ℕ) (t t' : Turn) : Prop where
  core : t'.core = t.core
  off : t'.off = t.off
  heap : t'.heap = t.heap
  stats : quiet t'.stats =
    { quiet t.stats with
      rejectedConnections :=
        t.stats.rejectedConnections + if why = .noPermit then n else 0 }
  trace : t'.trace = t.trace ++ why.events
  batch : t'.batch = { t.batch with dropped := t.batch.dropped + n }

/-- The contract of an attempt that succeeds. -/
structure OpenedSession (k : Kernel) (nowMs : ℕ) (client : SocketAddr) (t : Turn)
    (entry : SessionEntry) (t' : Turn) : Prop where
  permit : 0 < t.udpLimit
  entry_eq : entry = { shared := t.fresh, txDatagrams := 0, gsoOk := true }
  batch : t'.batch = t.batch
  stats : t'.stats = t.stats.incConnections
  opened : ∃ remote gro, t.targets.value.head? = some remote ∧
    t'.heap = Function.update t.heap t.fresh
      { client, remote, lastActivityMs := nowMs, dead := false, rxDatagrams := 0, gro, strong := 2,
        cancelled := false, task := .waiting } ∧
    ∃ evs, t'.trace = t.trace ++ (.acquire true :: .connect true :: evs) ∧
      ∀ ev ∈ evs, ev = .setGro (some t.fresh) gro
  rest : ∃ unsupported, t'.off = { t.off with unsupported } ∧
    t'.toEngine =
      { t.toEngine with
        udpLimit := t.udpLimit - 1
        stats := t'.stats
        off := t'.off
        heap := t'.heap
        fresh := t.fresh + 1
        trace := t'.trace }

/-- What a new session leaves alone, and what it takes. -/
lemma OpenedSession.fields {k : Kernel} {nowMs : ℕ} {client : SocketAddr} {t t' : Turn}
    {entry : SessionEntry} (h : OpenedSession k nowMs client t entry t') :
    t'.sessions = t.sessions ∧ t'.fresh = t.fresh + 1 ∧ t'.udpLimit = t.udpLimit - 1 ∧
      t'.cancelled = t.cancelled ∧ t'.targets = t.targets := by
  obtain ⟨unsupported, -, hrest⟩ := h.rest
  rw [hrest]
  exact ⟨rfl, rfl, rfl, rfl, rfl⟩

/-- What `groUpstream` does to the turn. -/
lemma groUpstream_spec (k : Kernel) (t : Turn) :
    ∃ unsupported evs, (groUpstream k t).2 =
        { t with off := { t.off with unsupported }, trace := t.trace ++ evs } ∧
      ∀ ev ∈ evs, ev = .setGro (some t.fresh) (groUpstream k t).1 := by
  simp only [groUpstream]
  split
  · split
    · exact ⟨t.off.unsupported, [.setGro (some t.fresh) true], rfl, by simp⟩
    · split
      · exact ⟨true, [.setGro (some t.fresh) false], rfl, by simp⟩
      · exact ⟨t.off.unsupported, [.setGro (some t.fresh) false], rfl, by simp⟩
  · exact ⟨t.off.unsupported, [], by simp, by simp⟩

/-- Without a permit, at most the alert depends on the clock. -/
lemma noPermit_eq (k : Kernel) (n : ℕ) (t : Turn) :
    ∃ lastLimitAlert alerts, noPermit k n t =
      { t.drop n with stats := t.stats.addRejected n, lastLimitAlert, alerts } := by
  rcases hlast : t.lastLimitAlert with _ | last
  · simp only [noPermit, hlast]
    exact ⟨_, _, rfl⟩
  · simp only [noPermit, hlast]
    split
    · exact ⟨_, _, rfl⟩
    · exact ⟨_, _, rfl⟩

/-- The failing branches of `open_session`. -/
lemma openSession_of_failure {k : Kernel} {t : Turn} {why : OpenFailure}
    (h : openOutcome k t.toEngine = some why) (nowMs n : ℕ) (client : SocketAddr) :
    ∃ t', openSession k nowMs n client t = (none, t') ∧ OpenFailed why n t t' := by
  rcases hhead : t.targets.value.head? with _ | remote
  · simp only [openOutcome, hhead, Option.some.injEq] at h
    subst h
    simp only [openSession, hhead]
    refine ⟨_, rfl, ?_⟩
    exact {
      core := rfl
      off := rfl
      heap := rfl
      stats := rfl
      trace := by simp [noTarget, Turn.drop, OpenFailure.events]
      batch := rfl }
  by_cases hbusy : t.udpLimit ≤ k.busy t.trace
  · simp only [openOutcome, hhead, hbusy, if_true, Option.some.injEq] at h
    subst h
    simp only [openSession, hhead, hbusy, if_true]
    refine ⟨_, rfl, ?_⟩
    obtain ⟨lastLimitAlert, alerts, hrefused⟩ :=
      noPermit_eq k n (t.onEngine (·.log (.acquire false)))
    rw [hrefused]
    exact {
      core := rfl
      off := rfl
      heap := rfl
      stats := rfl
      trace := rfl
      batch := rfl }
  rcases hconnect : k.connect (t.trace ++ [.acquire true]) remote with err | ⟨⟩
  · simp only [openOutcome, hhead, hbusy, if_false, hconnect, Option.some.injEq] at h
    subst h
    have hconnect' : k.connect (t.onEngine (·.log (.acquire true))).trace remote = .error err :=
      hconnect
    simp only [openSession, hhead, hbusy, if_false, hconnect']
    refine ⟨_, rfl, ?_⟩
    -- the permit that was taken for the attempt is back
    have hlimit : t.udpLimit - 1 + 1 = t.udpLimit := by omega
    exact {
      core := by
        simp [connectFailed, Turn.drop, Turn.onEngine, Engine.log, Engine.core, hlimit,
          ForwarderStats.markConnectFailed]
      off := rfl
      heap := rfl
      stats := rfl
      trace := by simp [connectFailed, Turn.drop, Turn.onEngine, Engine.log, OpenFailure.events]
      batch := rfl }
  · simp [openOutcome, hhead, hbusy, hconnect] at h

/-- When `open_session` succeeds, and what it does then, whatever the number of datagrams. -/
lemma openSession_eq {k : Kernel} {t : Turn} (h : openOutcome k t.toEngine = none) :
    ∃ remote, t.targets.value.head? = some remote ∧ 0 < t.udpLimit ∧
      ∀ nowMs n client, openSession k nowMs n client t =
        let g := groUpstream k
          ({ t.onEngine (·.log (.acquire true)) with udpLimit := t.udpLimit - 1 }.onEngine
            (·.log (.connect true)))
        let p := startSession nowMs client remote g.1 g.2
        (some p.1, p.2) := by
  rcases hhead : t.targets.value.head? with _ | remote
  · simp [openOutcome, hhead] at h
  by_cases hbusy : t.udpLimit ≤ k.busy t.trace
  · simp [openOutcome, hhead, hbusy] at h
  rcases hconnect : k.connect (t.trace ++ [.acquire true]) remote with err | ⟨⟩
  · simp [openOutcome, hhead, hbusy, hconnect] at h
  have hconnect' : k.connect (t.onEngine (·.log (.acquire true))).trace remote = .ok () := hconnect
  refine ⟨remote, rfl, by omega, fun nowMs n client => ?_⟩
  simp only [openSession, hhead, hbusy, if_false, hconnect']

/-- The successful branch of `open_session`. -/
lemma openSession_of_success {k : Kernel} {t : Turn} (h : openOutcome k t.toEngine = none)
    (nowMs n : ℕ) (client : SocketAddr) :
    ∃ entry t', openSession k nowMs n client t = (some entry, t') ∧
      OpenedSession k nowMs client t entry t' := by
  obtain ⟨remote, hhead, hpermit, heq⟩ := openSession_eq h
  refine ⟨_, _, heq nowMs n client, ?_⟩
  obtain ⟨unsupported, evs, hgro, hevs⟩ := groUpstream_spec k
    ({ t.onEngine (·.log (.acquire true)) with udpLimit := t.udpLimit - 1 }.onEngine
      (·.log (.connect true)))
  rw [hgro]
  exact {
    permit := hpermit
    entry_eq := rfl
    batch := rfl
    stats := rfl
    opened := ⟨remote, _, hhead, rfl, evs, by simp [startSession, Turn.onEngine, Engine.log], hevs⟩
    rest := ⟨unsupported, rfl, rfl⟩ }

/-! ## One client -/

/-- Dropping an owner touches the gauge, the limit and the count of owners. -/
lemma dropShared_spec (e : Engine) (sid : ℕ) :
    ∃ activeConnections udpLimit heap, e.dropShared sid =
        { e with stats := { e.stats with activeConnections }, udpLimit, heap } ∧
      ∀ i, heap i = { e.heap i with strong := (heap i).strong } := by
  simp only [Engine.dropShared]
  split
  all_goals
    refine ⟨_, _, _, rfl, fun i => ?_⟩
    by_cases h : i = sid
    · subst h
      simp [Engine.modify]
    · simp [Engine.modify, h]

/-- Taking a session out of the table touches neither the trace nor the counters. -/
lemma removeEntry_spec (e : Engine) (client : SocketAddr) :
    ∃ activeConnections udpLimit heap, e.removeEntry client =
        { e with
          sessions := e.sessions.erase client
          stats := { e.stats with activeConnections }
          udpLimit
          heap } ∧
      ∀ i, heap i =
        { e.heap i with strong := (heap i).strong, cancelled := (heap i).cancelled } := by
  simp only [Engine.removeEntry]
  split
  · rename_i hnone
    exact ⟨_, _, _, by rw [Table.erase_of_get?_eq_none hnone], fun i => rfl⟩
  · rename_i entry _
    obtain ⟨activeConnections, udpLimit, heap, hdrop, hheap⟩ := dropShared_spec
      (Engine.closeEntry { e with sessions := e.sessions.erase client } entry) entry.shared
    refine ⟨activeConnections, udpLimit, heap, hdrop, fun i => ?_⟩
    rw [hheap i]
    by_cases h : i = entry.shared
    · subst h
      simp [Engine.closeEntry, Engine.modify]
    · simp [Engine.closeEntry, Engine.modify, h]

/-- The entry of a client is gone after `removeEntry`. -/
lemma get?_removeEntry (e : Engine) (client c : SocketAddr) :
    (e.removeEntry client).sessions.get? c = if c = client then none else e.sessions.get? c := by
  obtain ⟨_, _, _, heq, _⟩ := removeEntry_spec e client
  rw [heq]
  exact Table.get?_erase _ _ _

/-- What closing one session after the other respects if closing one does. -/
lemma retain_rule {R : Engine → Engine → Prop} (hrefl : ∀ e, R e e)
    (htrans : ∀ {e e' e''}, R e e' → R e' e'' → R e e'')
    (hremove : ∀ e client, R e (e.removeEntry client)) (keep : SessionShared → Bool) (e : Engine) :
    R e (e.retain keep) := by
  have hfold : ∀ (cs : List SocketAddr) (e : Engine), R e (cs.foldl Engine.removeEntry e) := by
    intro cs
    induction cs with
    | nil => exact hrefl
    | cons c cs ih => exact fun e => htrans (hremove e c) (ih _)
  exact hfold _ e

section Serve

variable {k : Kernel} {nowMs n : ℕ} {client : SocketAddr}
  {forward : Turn → SessionEntry → Turn × SessionEntry} {t : Turn}

/-- The client has a session that was not found dead. -/
def Engine.live (e : Engine) (client : SocketAddr) : Bool :=
  match e.sessions.get? client with
  | some entry => !(e.heap entry.shared).dead
  | none => false

/-- A live session is used as it is. -/
lemma serveClient_of_live (k : Kernel) (nowMs n : ℕ)
    (forward : Turn → SessionEntry → Turn × SessionEntry) (h : t.live client = true) :
    ∃ entry, t.sessions.get? client = some entry ∧ (t.heap entry.shared).dead = false ∧
      serveClient k nowMs n client forward t = Turn.store client (forward t entry) := by
  simp only [Engine.live] at h
  split at h
  · rename_i entry hget
    have hdead : (t.heap entry.shared).dead = false := by simpa using h
    exact ⟨entry, hget, hdead, by simp [serveClient, hget, hdead]⟩
  · cases h

/-- Otherwise what is left of the session is closed and a new one is opened. -/
lemma serveClient_of_not_live (h : t.live client = false) :
    serveClient k nowMs n client forward t = reopen k nowMs n client forward t := by
  simp only [Engine.live] at h
  split at h
  · rename_i entry hget
    have hdead : (t.heap entry.shared).dead = true := by simpa using h
    simp [serveClient, hget, hdead]
  · rename_i hget
    simp [serveClient, hget]

/-- **What serving a client comes to.**  Either its live session is used, or the attempt to open
one fails, or a new session is used. -/
lemma serveClient_cases (k : Kernel) (nowMs n : ℕ) (client : SocketAddr)
    (forward : Turn → SessionEntry → Turn × SessionEntry) (t : Turn) :
    (∃ entry, t.live client = true ∧ t.sessions.get? client = some entry ∧
      (t.heap entry.shared).dead = false ∧
      serveClient k nowMs n client forward t = Turn.store client (forward t entry)) ∨
    (∃ why, t.live client = false ∧
      openOutcome k (t.removeEntry client) = some why ∧
      OpenFailed why n (t.onEngine (·.removeEntry client))
        (serveClient k nowMs n client forward t)) ∨
    (∃ entry t', t.live client = false ∧
      OpenedSession k nowMs client (t.onEngine (·.removeEntry client)) entry t' ∧
      serveClient k nowMs n client forward t = Turn.store client (forward t' entry)) := by
  rcases hlive : t.live client with _ | _
  · right
    rw [serveClient_of_not_live hlive, reopen]
    rcases hopen : openOutcome k (t.removeEntry client) with _ | why
    · obtain ⟨entry, t', heq, hopened⟩ := openSession_of_success
        (t := t.onEngine (·.removeEntry client)) hopen nowMs n client
      exact .inr ⟨entry, t', rfl, hopened, by rw [heq]⟩
    · obtain ⟨t', heq, hfailed⟩ := openSession_of_failure
        (t := t.onEngine (·.removeEntry client)) hopen nowMs n client
      exact .inl ⟨why, rfl, rfl, by rw [heq]; exact hfailed⟩
  · left
    obtain ⟨entry, hget, hdead, heq⟩ := serveClient_of_live k nowMs n forward hlive
    exact ⟨entry, rfl, hget, hdead, heq⟩

end Serve

end Rfw.Udp
