/-
# What a wakeup of the listener counts

A drain handles the results of its receives one after the other and adds its batch to the counters
at the end.  Its trace tells what really happened: which buffers came in, which sends the kernel
accepted and where a permit was missing.  `drain_counts` compares the two.
-/
import Mathlib.Algebra.Order.Floor.Div
import Rfw.Udp.Upstream

namespace Rfw.Udp

open Lib

/-! ## What a trace says -/

/-- The datagrams that the kernel accepted for the targets. -/
def acceptedUp (evs : List Event) : List Bytes :=
  evs.flatMap fun
    | .sent _ _ call => call.out
    | _ => []

/-- The datagrams refused for lack of a permit: all those of the buffer received last, which has
`n` of them at the start. -/
def refusals : ℕ → List Event → ℕ
  | _, [] => 0
  | _, .received _ data segment :: evs => refusals (pieces segment data).length evs
  | n, .acquire false :: evs => n + refusals n evs
  | n, _ :: evs => refusals n evs

@[simp] lemma acceptedUp_nil : acceptedUp [] = [] := rfl

@[simp] lemma acceptedUp_append (evs evs' : List Event) :
    acceptedUp (evs ++ evs') = acceptedUp evs ++ acceptedUp evs' := List.flatMap_append

@[simp] lemma acceptedUp_sent (sid : ℕ) (client : SocketAddr) (cs : List Call) :
    acceptedUp (cs.map (.sent sid client)) = outOf cs := by
  simp [acceptedUp, outOf, List.flatMap_map]

/-- An outside call made while one buffer is handled. -/
def Event.inner : Event → Prop
  | .acquire _ | .connect _ | .setGro _ _ | .sent _ _ _ => True
  | _ => False

lemma refusals_of_inner (n : ℕ) {evs : List Event} (h : ∀ ev ∈ evs, ev.inner) :
    refusals n evs = evs.count (.acquire false) * n := by
  induction evs with
  | nil => simp [refusals]
  | cons ev evs ih =>
    obtain ⟨hev, hevs⟩ := List.forall_mem_cons.mp h
    rw [List.count_cons]
    cases ev with
    | acquire ok =>
      cases ok <;> simp [refusals, ih hevs]
      ring
    | connect ok => simp [refusals, ih hevs]
    | setGro session ok => simp [refusals, ih hevs]
    | sent sid client call => simp [refusals, ih hevs]
    | _ => exact absurd hev (by simp [Event.inner])

/-- A trace that starts with a receive refuses the same whatever came before. -/
lemma refusals_append (n : ℕ) (evs : List Event) {evs' : List Event}
    (h : ∀ m, refusals m evs' = refusals 0 evs') :
    refusals n (evs ++ evs') = refusals n evs + refusals 0 evs' := by
  induction evs generalizing n with
  | nil => simp [refusals, h]
  | cons ev evs ih =>
    cases ev with
    | acquire ok => cases ok <;> simp [refusals, ih]; ring
    | _ => simp [refusals, ih]

/-! ## One buffer -/

/-- The counters that a drain raises. -/
def sentCounters (s : ForwarderStats) : ℕ × ℕ × ℕ :=
  (s.bytesSent, s.datagramsSent, s.datagramsDropped)

/-- The accounts of a part of a drain: its trace grew by `evs`, and `total` datagrams were
received. -/
structure Counted (total : ℕ) (evs : List Event) (t t' : Turn) : Prop where
  trace : t'.trace = t.trace ++ evs
  datagrams : t'.batch.datagrams = t.batch.datagrams + (acceptedUp evs).length
  bytes : t'.batch.bytes = t.batch.bytes + payload (acceptedUp evs)
  dropped : t'.batch.dropped + (acceptedUp evs).length = t.batch.dropped + total
  rejected : t'.stats.rejectedConnections = t.stats.rejectedConnections + refusals 0 evs
  refused : refusals 0 evs + (acceptedUp evs).length ≤ total
  counters : sentCounters t'.stats = sentCounters t.stats
  fresh : ∀ n, refusals n evs = refusals 0 evs
  noUnderflow : .underflow ∉ evs

namespace Counted

variable {total total' : ℕ} {evs evs' : List Event} {t t' t'' : Turn}

lemma refl (t : Turn) : Counted 0 [] t t where
  trace := by simp
  datagrams := rfl
  bytes := rfl
  dropped := rfl
  rejected := rfl
  refused := le_rfl
  counters := rfl
  fresh := fun _ => rfl
  noUnderflow := by simp

lemma trans (h : Counted total evs t t') (h' : Counted total' evs' t' t'') :
    Counted (total + total') (evs ++ evs') t t'' where
  trace := by rw [h'.trace, h.trace, List.append_assoc]
  datagrams := by rw [h'.datagrams, h.datagrams, acceptedUp_append, List.length_append]; omega
  bytes := by rw [h'.bytes, h.bytes, acceptedUp_append, payload_append]; omega
  dropped := by
    have h₁ := h.dropped
    have h₂ := h'.dropped
    rw [acceptedUp_append, List.length_append]
    omega
  rejected := by rw [h'.rejected, h.rejected, refusals_append 0 evs h'.fresh]; omega
  refused := by
    have h₁ := h.refused
    have h₂ := h'.refused
    rw [refusals_append 0 evs h'.fresh, acceptedUp_append, List.length_append]
    omega
  counters := h'.counters.trans h.counters
  fresh := fun n => by
    rw [refusals_append n evs h'.fresh, refusals_append 0 evs h'.fresh, h.fresh]
  noUnderflow := by
    rw [List.mem_append]
    exact not_or.mpr ⟨h.noUnderflow, h'.noUnderflow⟩

end Counted

/-- The accounts of the handling of one buffer, after its receive was noted. -/
structure Handled (ps : List Bytes) (evs : List Event) (t t' : Turn) : Prop where
  trace : t'.trace = t.trace ++ evs
  inner : ∀ ev ∈ evs, ev.inner
  datagrams : t'.batch.datagrams = t.batch.datagrams + (acceptedUp evs).length
  bytes : t'.batch.bytes = t.batch.bytes + payload (acceptedUp evs)
  dropped : t'.batch.dropped + (acceptedUp evs).length = t.batch.dropped + ps.length
  rejected : t'.stats.rejectedConnections =
    t.stats.rejectedConnections + evs.count (.acquire false) * ps.length
  refused : evs.count (.acquire false) * ps.length + (acceptedUp evs).length ≤ ps.length
  counters : sentCounters t'.stats = sentCounters t.stats

/-- Together with its receive, the handling of a buffer is a part of a drain. -/
lemma Handled.counted {client : SocketAddr} {data : Bytes} {segment : ℕ} (evs : List Event)
    {t t' : Turn}
    (h : Handled (pieces segment data) evs
      (t.onEngine (·.log (.received client data segment))) t') :
    Counted (segments data.length segment) (.received client data segment :: evs) t t' := by
  have hrefusals : ∀ n, refusals n (.received client data segment :: evs) =
      evs.count (.acquire false) * (pieces segment data).length := by
    intro n
    rw [refusals, refusals_of_inner _ h.inner]
  have haccepted : acceptedUp (.received client data segment :: evs) = acceptedUp evs := rfl
  rw [← length_pieces]
  exact {
    trace := by simp [h.trace, Turn.onEngine, Engine.log]
    datagrams := h.datagrams
    bytes := h.bytes
    dropped := h.dropped
    rejected := by rw [hrefusals]; exact h.rejected
    refused := by rw [hrefusals]; exact h.refused
    counters := h.counters
    fresh := fun n => by rw [hrefusals, hrefusals]
    noUnderflow := by
      simp only [List.mem_cons, reduceCtorEq, false_or]
      exact fun hmem => h.inner _ hmem }

lemma inner_sent {sid : ℕ} {client : SocketAddr} {cs : List Call} :
    ∀ ev ∈ cs.map (Event.sent sid client), ev.inner := by
  intro ev hev
  obtain ⟨call, _, rfl⟩ := List.mem_map.mp hev
  trivial

lemma count_acquire_sent (sid : ℕ) (client : SocketAddr) (cs : List Call) :
    (cs.map (Event.sent sid client)).count (.acquire false) = 0 := by
  refine List.count_eq_zero.mpr fun hmem => ?_
  obtain ⟨call, _, h⟩ := List.mem_map.mp hmem
  cases h

/-- What `quiet` keeps. -/
lemma counters_of_quiet {s s' : ForwarderStats} (h : quiet s' = quiet s) :
    sentCounters s' = sentCounters s ∧ s'.rejectedConnections = s.rejectedConnections := by
  have h₁ := congrArg sentCounters h
  have h₂ := congrArg ForwarderStats.rejectedConnections h
  exact ⟨h₁, h₂⟩

/-- Forwarding, after the calls `evs` that opened the session. -/
lemma Forwarded.handled {k : Kernel} {nowMs : ℕ} {ps : List Bytes} {cs : List Call}
    {client : SocketAddr} {t t₁ : Turn} {entry : SessionEntry} {q : Turn × SessionEntry}
    (evs : List Event) (h : Forwarded k nowMs ps cs (t₁, entry) q)
    (htrace : t₁.trace = t.trace ++ evs) (hinner : ∀ ev ∈ evs, ev.inner)
    (haccepted : acceptedUp evs = []) (hcount : evs.count (.acquire false) = 0)
    (hbatch : t₁.batch = t.batch) (hcounters : sentCounters t₁.stats = sentCounters t.stats)
    (hrejected : t₁.stats.rejectedConnections = t.stats.rejectedConnections) :
    Handled ps (evs ++ cs.map (.sent entry.shared (t₁.heap entry.shared).client)) t
      (Turn.store client q) := by
  obtain ⟨hc, hr⟩ := counters_of_quiet h.stats
  have hout : acceptedUp (evs ++ cs.map (.sent entry.shared (t₁.heap entry.shared).client)) =
      outOf cs := by simp [haccepted]
  have hzero : (evs ++ cs.map (Event.sent entry.shared (t₁.heap entry.shared).client)).count
      (Event.acquire false) = 0 := by rw [List.count_append, hcount, count_acquire_sent]
  exact {
    trace := by
      have := h.trace
      simp only [htrace, List.append_assoc] at this
      exact this
    inner := List.forall_mem_append.mpr ⟨hinner, inner_sent⟩
    datagrams := by rw [hout, ← hbatch]; exact h.datagrams
    bytes := by rw [hout, ← hbatch]; exact h.bytes
    dropped := by rw [hout, ← hbatch]; exact h.dropped
    rejected := by
      rw [hzero, Nat.zero_mul, Nat.add_zero]
      exact hr.trans hrejected
    refused := by
      rw [hzero, hout, Nat.zero_mul, Nat.zero_add]
      exact h.sublist.length_le
    counters := hc.trans hcounters }

/-- `serveClient` accounts for the datagrams of its buffer. -/
lemma serveClient_handled {k : Kernel} {nowMs : ℕ} {ps : List Bytes}
    {forward : Turn → SessionEntry → Turn × SessionEntry}
    (hforward : ∀ t entry, ∃ cs, Forwarded k nowMs ps cs (t, entry) (forward t entry))
    (client : SocketAddr) (t : Turn) :
    ∃ evs, Handled ps evs t (serveClient k nowMs ps.length client forward t) := by
  obtain ⟨activeConnections, udpLimit, heap, hremove, _⟩ := removeEntry_spec t.toEngine client
  rcases serveClient_cases k nowMs ps.length client forward t with
    ⟨entry, _, _, _, heq⟩ | ⟨why, _, _, hfailed⟩ | ⟨entry, t', _, hopened, heq⟩
  · obtain ⟨cs, h⟩ := hforward t entry
    rw [heq]
    exact ⟨_, h.handled [] (by simp) (by simp) rfl rfl rfl rfl rfl⟩
  · -- the whole buffer is dropped, and refused if there was no permit
    have hc := congrArg sentCounters hfailed.stats
    have hr := congrArg ForwarderStats.rejectedConnections hfailed.stats
    simp only [Turn.onEngine, hremove] at hc hr
    have haccepted : acceptedUp why.events = [] := by cases why <;> rfl
    have hcount : why.events.count (.acquire false) * ps.length =
        if why = .noPermit then ps.length else 0 := by cases why <;> simp [OpenFailure.events]
    refine ⟨why.events, ?_⟩
    exact {
      trace := by simpa [Turn.onEngine, hremove] using hfailed.trace
      inner := by cases why <;> simp [OpenFailure.events, Event.inner]
      datagrams := by rw [hfailed.batch, haccepted]; rfl
      bytes := by rw [hfailed.batch, haccepted]; rfl
      dropped := by rw [hfailed.batch, haccepted]; rfl
      rejected := by rw [hcount]; exact hr
      refused := by
        rw [hcount, haccepted]
        split <;> simp
      counters := hc }
  · obtain ⟨cs, h⟩ := hforward t' entry
    obtain ⟨remote, gro, _, _, evs, htrace, hevs⟩ := hopened.opened
    rw [heq]
    have hgro : ∀ ev ∈ evs, ev.inner ∧ ev ≠ .acquire false := by
      intro ev hev
      rw [hevs ev hev]
      exact ⟨trivial, by simp⟩
    refine ⟨_, h.handled (.acquire true :: .connect true :: evs) ?_ ?_ ?_ ?_ ?_ ?_ ?_⟩
    · simpa [Turn.onEngine, hremove] using htrace
    · simp only [List.forall_mem_cons]
      exact ⟨trivial, trivial, fun ev hev => (hgro ev hev).1⟩
    · refine List.flatMap_eq_nil_iff.mpr ?_
      simp only [List.forall_mem_cons, true_and]
      intro ev hev
      rw [hevs ev hev]
    · refine List.count_eq_zero.mpr ?_
      simp only [List.mem_cons, not_or]
      exact ⟨by simp, by simp, fun hmem => (hgro _ hmem).2 rfl⟩
    · exact hopened.batch
    · rw [hopened.stats]
      simp only [Turn.onEngine, hremove]
      rfl
    · rw [hopened.stats]
      simp only [Turn.onEngine, hremove]
      rfl

/-- `on_client_datagram` accounts for its datagram. -/
lemma onClientDatagram_handled (k : Kernel) (nowMs : ℕ) (client : SocketAddr) (data : Bytes)
    (t : Turn) : ∃ evs, Handled [data] evs t (onClientDatagram k nowMs client data t) :=
  serveClient_handled (fun t entry => forwarded_forwardUpstream k nowMs t entry data) client t

/-- `on_client_buffer` accounts for the datagrams of its buffer. -/
lemma onClientBuffer_handled (k : Kernel) (nowMs : ℕ) (client : SocketAddr) (data : Bytes)
    (segment : ℕ) (t : Turn) :
    ∃ evs, Handled (pieces segment data) evs t
      (onClientBuffer k nowMs client data segment t) := by
  by_cases hburst : isCoalesced data.length segment = true
  · rw [onClientBuffer, if_neg (by simp [hburst]), ← length_pieces]
    exact serveClient_handled
      (fun t entry => forwarded_forwardUpstreamCoalesced k nowMs t entry hburst) client t
  · rw [onClientBuffer, if_pos (by simp [hburst]), pieces_of_not_coalesced hburst]
    exact onClientDatagram_handled k nowMs client data t

/-! ## One wakeup -/

section Loop

variable {ρ : Type*}

/-- The receives of a drain that succeed, with `n` rounds left. -/
def receipts : ℕ → List (Except IoError ρ) → List ρ
  | 0, _ => []
  | _ + 1, [] => []
  | n + 1, .ok r :: rs => r :: receipts n rs
  | n + 1, .error err :: rs =>
      match classifyUdpErr err with
      | .wouldBlock | .fatal => []
      | .transient | .icmp _ => receipts n rs

/-- The receives that succeed do so whatever becomes of their results. -/
lemma receipts_map {σ : Type*} (f : ρ → σ) (n : ℕ) (rs : List (Except IoError ρ)) :
    receipts n (rs.map (·.map f)) = (receipts n rs).map f := by
  induction n generalizing rs with
  | zero => rfl
  | succ n ih =>
    rcases rs with _ | ⟨err | r, rs⟩
    · rfl
    · simp only [List.map_cons, Except.map, receipts]
      cases classifyUdpErr err with
      | wouldBlock | fatal => rfl
      | transient | icmp kind => exact ih rs
    · exact congrArg (List.cons (f r)) (ih rs)

/-- The loop handles its successful receives in order. -/
lemma receiveLoop_eq_foldl (handle : ρ → Turn → Turn) (n : ℕ) (rs : List (Except IoError ρ))
    (t : Turn) :
    (receiveLoop handle n rs t).2 = (receipts n rs).foldl (fun t r => handle r t) t := by
  induction n generalizing rs t with
  | zero => rfl
  | succ n ih =>
    rcases rs with _ | ⟨err | r, rs⟩
    · rfl
    · cases hclass : classifyUdpErr err with
      | wouldBlock => simp [receiveLoop, receipts, hclass]
      | transient => simpa [receiveLoop, receipts, hclass] using ih rs t
      | icmp kind => simpa [receiveLoop, receipts, hclass] using ih rs t
      | fatal => simp [receiveLoop, receipts, hclass]
    · exact ih rs (handle r t)

/-- What each receive accounts for, the loop accounts for. -/
lemma foldl_counted {handle : ρ → Turn → Turn} {count : ρ → ℕ}
    (h : ∀ r t, ∃ evs, Counted (count r) evs t (handle r t)) (rs : List ρ) (t : Turn) :
    ∃ evs, Counted (rs.map count).sum evs t (rs.foldl (fun t r => handle r t) t) := by
  induction rs generalizing t with
  | nil => exact ⟨[], .refl t⟩
  | cons r rs ih =>
    obtain ⟨evs, hr⟩ := h r t
    obtain ⟨evs', hrs⟩ := ih (handle r t)
    exact ⟨evs ++ evs', by simpa using hr.trans hrs⟩

end Loop

/-- A drain that received `total` datagrams with a known source changed the counters by what it
received, what the kernel accepted and what was refused for lack of a permit. -/
def DrainCounted (total : ℕ) (e e' : Engine) : Prop :=
  ∃ evs, e'.trace = e.trace ++ evs ∧
    e'.stats.datagramsSent + e'.stats.datagramsDropped =
      e.stats.datagramsSent + e.stats.datagramsDropped + total ∧
    e'.stats.datagramsSent = e.stats.datagramsSent + (acceptedUp evs).length ∧
    e'.stats.bytesSent = e.stats.bytesSent + payload (acceptedUp evs) ∧
    e'.stats.rejectedConnections = e.stats.rejectedConnections + refusals 0 evs ∧
    e.stats.datagramsDropped + refusals 0 evs ≤ e'.stats.datagramsDropped ∧
    .underflow ∉ evs

lemma payload_eq_zero {ds : List Bytes} (h : ds.length = 0) : payload ds = 0 := by
  simp [List.eq_nil_of_length_eq_zero h]

/-- The counters after the flush. -/
lemma flushSent_counted {total : ℕ} {evs : List Event} {e : Engine} {t : Turn}
    (h : Counted total evs { e with batch := {} } t) : DrainCounted total e (flushSent t) := by
  have hcounters := h.counters
  simp only [sentCounters, Prod.mk.injEq] at hcounters
  obtain ⟨hbytes, hsent, hdropped⟩ := hcounters
  have hd := h.datagrams
  have hb := h.bytes
  have hx := h.dropped
  have hr := h.refused
  simp only [Nat.zero_add] at hd hb hx
  have hstats : (flushSent t).stats.datagramsSent = e.stats.datagramsSent + t.batch.datagrams ∧
      (flushSent t).stats.bytesSent = e.stats.bytesSent + t.batch.bytes ∧
      (flushSent t).stats.datagramsDropped = e.stats.datagramsDropped + t.batch.dropped ∧
      (flushSent t).stats.rejectedConnections = t.stats.rejectedConnections := by
    rw [← hbytes, ← hsent, ← hdropped]
    -- bytes are only added together with datagrams, which is no loss
    have hzero : t.batch.datagrams = 0 → t.batch.bytes = 0 := by
      intro h0
      rw [hb]
      exact payload_eq_zero (by omega)
    simp only [flushSent]
    split <;> split <;>
      simp_all [ForwarderStats.addSent, ForwarderStats.addDatagramsSent,
        ForwarderStats.addDatagramsDropped]
  obtain ⟨h₁, h₂, h₃, h₄⟩ := hstats
  refine ⟨evs, h.trace, ?_, ?_, ?_, ?_, ?_, h.noUnderflow⟩
  · omega
  · omega
  · rw [h₂, hb]
  · rw [h₄, h.rejected]
  · omega

/-- The number of datagrams with a known source in one receive: a burst has one for each segment
that it starts. -/
def Recv.datagrams (r : Recv) : ℕ :=
  if r.sender = none then 0
  else if 0 < r.segment ∧ r.segment < r.data.length then r.data.length ⌈/⌉ r.segment
  else 1

lemma Recv.datagrams_of_sender {r : Recv} {client : SocketAddr} (h : r.sender = some client) :
    r.datagrams = segments r.data.length r.segment := by
  unfold Recv.datagrams segments isCoalesced
  rw [if_neg (by simp [h]), Nat.ceilDiv_eq_add_pred_div]
  simp only [decide_eq_true_eq]

lemma handlePlain_counted (k : Kernel) (nowMs : ℕ) (r : Bytes × SocketAddr) (t : Turn) :
    ∃ evs, Counted 1 evs t (handlePlain k nowMs r t) := by
  obtain ⟨data, client⟩ := r
  obtain ⟨evs, h⟩ := onClientDatagram_handled k nowMs client data
    (t.onEngine (·.log (.received client data 0)))
  rw [← pieces_zero data] at h
  exact ⟨_, h.counted evs⟩

lemma handleGro_counted (k : Kernel) (nowMs : ℕ) (r : Recv) (t : Turn) :
    ∃ evs, Counted r.datagrams evs t (handleGro k nowMs r t) := by
  rw [handleGro]
  rcases hsender : r.sender with _ | client
  · have hzero : r.datagrams = 0 := if_pos hsender
    rw [hzero]
    exact ⟨[], .refl t⟩
  · rw [Recv.datagrams_of_sender hsender]
    dsimp only
    split
    · -- a truncated buffer is dropped whole
      refine ⟨[.received client r.data r.segment], Handled.counted [] ?_⟩
      rw [← length_pieces]
      exact {
        trace := by simp [Turn.drop]
        inner := by simp
        datagrams := rfl
        bytes := rfl
        dropped := rfl
        rejected := by simp [Turn.drop]
        refused := by simp
        counters := rfl }
    · obtain ⟨evs, h⟩ := onClientBuffer_handled k nowMs client r.data r.segment
        (t.onEngine (·.log (.received client r.data r.segment)))
      exact ⟨_, h.counted evs⟩

/-- **No client datagram goes uncounted or is counted twice.**  One drain of either kind raises
the counters by exactly what it received, forwarded and refused, whatever the results of its
receives and of its outside calls. -/
theorem drain_counts (k : Kernel) (nowMs : ℕ) (e : Engine) :
    (∀ rs, DrainCounted (receipts listenerBatch rs).length e (drainListener k nowMs rs e).2) ∧
    (∀ rs, DrainCounted ((receipts listenerBatch rs).map Recv.datagrams).sum e
      (drainListenerGro k nowMs rs e).2) := by
  constructor
  · intro rs
    obtain ⟨evs, h⟩ := foldl_counted (handlePlain_counted k nowMs) (receipts listenerBatch rs)
      { e with batch := {} }
    rw [← receiveLoop_eq_foldl, show ((receipts listenerBatch rs).map fun _ => 1).sum =
      (receipts listenerBatch rs).length by simp] at h
    exact flushSent_counted h
  · intro rs
    obtain ⟨evs, h⟩ := foldl_counted (handleGro_counted k nowMs) (receipts listenerBatch rs)
      { e with batch := {} }
    rw [← receiveLoop_eq_foldl] at h
    exact flushSent_counted h

end Rfw.Udp
