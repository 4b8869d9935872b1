/-
# A burst is its datagrams

A coalesced buffer is handled at once: one attempt to open a session for all of its datagrams, and
as few segmented sends as possible.  Handling its datagrams one by one opens and sends one by one.
When the kernel takes every datagram, and an attempt to open a session ends the same way each time,
the two cannot be told apart by what they emit, count and store.

Both sides send through functions with the contract `Forwarded`, and a contract that emits all of
its datagrams determines the result.  What is left is to bring the loop over the datagrams into the
shape of one call.
-/
import Rfw.Udp.Drains
import Rfw.Udp.Forwarder

namespace Rfw.Udp

open Lib

/-- `on_client_datagram` for each datagram of a sequence. -/
def onClientDatagrams (k : Kernel) (nowMs : ℕ) (client : SocketAddr) (ps : List Bytes) (t : Turn) :
    Turn :=
  ps.foldl (fun t piece => onClientDatagram k nowMs client piece t) t

/-- What a forwarder has emitted, counted and stored, apart from the offload flags of the entries
and the alerts. -/
structure SameEffect (t t' : Turn) : Prop where
  emitted : acceptedUp t'.trace = acceptedUp t.trace
  batch : t'.batch = t.batch
  rejected : t'.stats.rejectedConnections = t.stats.rejectedConnections
  keys : t'.sessions.keys = t.sessions.keys
  entries : ∀ c, (t'.sessions.get? c).map (fun entry => (entry.shared, entry.txDatagrams)) =
    (t.sessions.get? c).map (fun entry => (entry.shared, entry.txDatagrams))
  shared : t'.heap = t.heap

/-- Every attempt to open a session for the client, while the datagrams are handled one by one,
ends like the first one. -/
def SteadyOpen (k : Kernel) (nowMs : ℕ) (client : SocketAddr) (ps : List Bytes) (t : Turn) : Prop :=
  ∀ i < ps.length, (onClientDatagrams k nowMs client (ps.take i) t).live client = false →
    openOutcome k ((onClientDatagrams k nowMs client (ps.take i) t).removeEntry client) =
      openOutcome k (t.removeEntry client)

/-! ## Through one session -/

section Live

variable {k : Kernel} {nowMs : ℕ} {client : SocketAddr} {ps : List Bytes} {cs cs' : List Call}
  {t : Turn} {entry : SessionEntry}

/-- When everything is accepted, the contract leaves no choice. -/
lemma sameEffect_of_forwarded {q q' : Turn × SessionEntry} (hk : Accepting k)
    (h : Forwarded k nowMs ps cs (t, entry) q) (h' : Forwarded k nowMs ps cs' (t, entry) q') :
    SameEffect (Turn.store client q) (Turn.store client q') := by
  have hout : outOf cs' = outOf cs := by rw [h.complete hk, h'.complete hk]
  have hsessions : q'.1.sessions = q.1.sessions := sessions_of_core (h'.core.trans h.core.symm)
  have hdatagrams := h.datagrams
  have hbytes := h.bytes
  have hdropped := h.dropped
  have hdatagrams' := h'.datagrams
  have hbytes' := h'.bytes
  have hdropped' := h'.dropped
  rw [hout] at hdatagrams' hbytes' hdropped'
  exact {
    emitted := by
      simp only [Turn.store]
      rw [h.trace, h'.trace, acceptedUp_append, acceptedUp_append, acceptedUp_sent,
        acceptedUp_sent, hout]
    batch := Batch.ext (hbytes'.trans hbytes.symm) (hdatagrams'.trans hdatagrams.symm)
      (Nat.add_right_cancel (hdropped'.trans hdropped.symm))
    rejected := by
      have := congrArg ForwarderStats.rejectedConnections (h'.stats.trans h.stats.symm)
      exact this
    keys := by
      simp only [Turn.store, hsessions]
      rfl
    entries := by
      intro c
      simp only [Turn.store, hsessions, Table.get?_insert]
      split
      · simp [h.shared, h'.shared, h.tx, h'.tx, hout]
      · rfl
    shared := by
      simp only [Turn.store]
      rw [h.heap, h'.heap, hout] }

/-- Sending does not look at the table. -/
lemma forwardUpstream_sessions (k : Kernel) (nowMs : ℕ) (data : Bytes) (t : Turn)
    (entry : SessionEntry) (sessions : Table SocketAddr SessionEntry) :
    forwardUpstream k nowMs data { t with sessions } entry =
      ({ (forwardUpstream k nowMs data t entry).1 with sessions },
        (forwardUpstream k nowMs data t entry).2) := by
  simp only [forwardUpstream, send, Engine.call]
  rcases hsend : k.send t.trace data 0 with err | ⟨⟩
  · simp only [noteUpstreamSendError]
    cases classifyUdpErr err <;> rfl
  · rfl

/-- Sending does not find a session dead. -/
lemma dead_forwardUpstream (data : Bytes) (hdead : (t.heap entry.shared).dead = false) :
    ((forwardUpstream k nowMs data t entry).1.heap
      (forwardUpstream k nowMs data t entry).2.shared).dead = false := by
  obtain ⟨cs, h⟩ := forwarded_forwardUpstream k nowMs t entry data
  rw [h.shared, heap_of_core h.core SessionShared.dead fun _ => rfl]
  exact hdead

/-- The next datagram of a client whose session is in the table. -/
lemma onClientDatagram_store (data : Bytes) (hdead : (t.heap entry.shared).dead = false) :
    onClientDatagram k nowMs client data (Turn.store client (t, entry)) =
      Turn.store client (forwardUpstream k nowMs data t entry) := by
  obtain ⟨cs, h⟩ := forwarded_forwardUpstream k nowMs t entry data
  have hget : (Turn.store client (t, entry)).sessions.get? client = some entry :=
    Table.get?_insert_self _ _ _
  have hdead' : ((Turn.store client (t, entry)).heap entry.shared).dead = false := hdead
  simp only [onClientDatagram, serveClient, hget, hdead', Bool.false_eq_true, if_false]
  rw [show Turn.store client (t, entry) =
    { t with sessions := t.sessions.insert client entry } from rfl, forwardUpstream_sessions]
  simp only [Turn.store, Table.insert_insert, sessions_of_core h.core]

/-- All further datagrams of a client whose session is in the table. -/
lemma onClientDatagrams_store (ps : List Bytes) (hdead : (t.heap entry.shared).dead = false) :
    onClientDatagrams k nowMs client ps (Turn.store client (t, entry)) =
      Turn.store client (forwardPieces k nowMs ps t entry) := by
  induction ps generalizing t entry with
  | nil => rfl
  | cons piece ps ih =>
    rw [onClientDatagrams, List.foldl_cons, onClientDatagram_store piece hdead]
    exact ih (dead_forwardUpstream piece hdead)

/-- A sequence of datagrams goes through one session from its first datagram on. -/
lemma onClientDatagrams_of_first {t₀ : Turn} {piece : Bytes}
    (hdead : (t.heap entry.shared).dead = false)
    (hfirst : onClientDatagram k nowMs client piece t₀ =
      Turn.store client (forwardUpstream k nowMs piece t entry)) :
    onClientDatagrams k nowMs client (piece :: ps) t₀ =
      Turn.store client (forwardPieces k nowMs (piece :: ps) t entry) := by
  rw [onClientDatagrams, List.foldl_cons, hfirst]
  exact onClientDatagrams_store ps (dead_forwardUpstream piece hdead)

end Live

/-! ## Without a session -/

/-- The effect of refusing `n` datagrams. -/
structure Refused (why : OpenFailure) (n : ℕ) (t t' : Turn) : Prop where
  sessions : t'.sessions = t.sessions
  heap : t'.heap = t.heap
  emitted : acceptedUp t'.trace = acceptedUp t.trace
  rejected : t'.stats.rejectedConnections =
    t.stats.rejectedConnections + if why = .noPermit then n else 0
  batch : t'.batch = { t.batch with dropped := t.batch.dropped + n }

section Refused

variable {why : OpenFailure} {n m : ℕ} {t t' t'' : Turn}

lemma OpenFailed.refused (h : OpenFailed why n t t') : Refused why n t t' where
  sessions := sessions_of_core h.core
  heap := h.heap
  emitted := by
    rw [h.trace]
    cases why <;> simp [OpenFailure.events, acceptedUp]
  rejected := by
    have := congrArg ForwarderStats.rejectedConnections h.stats
    exact this
  batch := h.batch

lemma Refused.refl (why : OpenFailure) (t : Turn) : Refused why 0 t t where
  sessions := rfl
  heap := rfl
  emitted := rfl
  rejected := by simp
  batch := rfl

lemma Refused.trans (h : Refused why n t t') (h' : Refused why m t' t'') :
    Refused why (n + m) t t'' where
  sessions := h'.sessions.trans h.sessions
  heap := h'.heap.trans h.heap
  emitted := h'.emitted.trans h.emitted
  rejected := by
    rw [h'.rejected, h.rejected]
    split
    · omega
    · rfl
  batch := by rw [h'.batch, h.batch, Nat.add_assoc]

lemma Refused.sameEffect (h : Refused why n t t') (h' : Refused why n t t'') :
    SameEffect t' t'' where
  emitted := h'.emitted.trans h.emitted.symm
  batch := by rw [h'.batch, h.batch]
  rejected := by rw [h'.rejected, h.rejected]
  keys := by rw [h'.sessions, h.sessions]
  entries := by
    intro c
    rw [h'.sessions, h.sessions]
  shared := h'.heap.trans h.heap.symm

end Refused

section Absent

variable {k : Kernel} {client : SocketAddr} {t : Turn}

lemma removeEntry_of_absent {e : Engine} (h : e.sessions.get? client = none) :
    e.removeEntry client = e := by
  simp only [Engine.removeEntry, h]

lemma live_of_absent {e : Engine} (h : e.sessions.get? client = none) : e.live client = false := by
  simp only [Engine.live, h]

/-- One datagram of a client that is refused. -/
lemma refused_onClientDatagram {why : OpenFailure} (nowMs : ℕ) (piece : Bytes)
    (hlive : t.live client = false) (hwhy : openOutcome k (t.removeEntry client) = some why) :
    Refused why 1 (t.onEngine (·.removeEntry client))
      (onClientDatagram k nowMs client piece t) := by
  obtain ⟨t', heq, hfailed⟩ := openSession_of_failure
    (t := t.onEngine (·.removeEntry client)) hwhy nowMs 1 client
  rw [onClientDatagram, serveClient_of_not_live hlive, reopen, heq]
  exact hfailed.refused

/-- Datagrams of a client without an entry, each of which is refused. -/
lemma refused_of_absent {why : OpenFailure} {nowMs : ℕ} (ps : List Bytes)
    (habsent : t.sessions.get? client = none)
    (hwhy : ∀ i < ps.length, (onClientDatagrams k nowMs client (ps.take i) t).live client = false →
      openOutcome k ((onClientDatagrams k nowMs client (ps.take i) t).removeEntry client) =
        some why) :
    Refused why ps.length t (onClientDatagrams k nowMs client ps t) := by
  induction ps generalizing t with
  | nil => exact Refused.refl why t
  | cons piece ps ih =>
    -- a refused datagram leaves no entry, so the next one is refused from the same table
    have hfirst := refused_onClientDatagram nowMs piece (live_of_absent habsent)
      (hwhy 0 (by simp) (live_of_absent habsent))
    have hsame : t.onEngine (·.removeEntry client) = t := by
      simp only [Turn.onEngine, removeEntry_of_absent habsent]
    rw [hsame] at hfirst
    have hrest := ih (t := onClientDatagram k nowMs client piece t)
      (by rw [hfirst.sessions, habsent]) fun i hi => hwhy (i + 1) (by simpa using hi)
    rw [List.length_cons, Nat.add_comm]
    exact hfirst.trans hrest

end Absent

/-! ## The comparison -/

/-- A session that can be opened is opened in the same way for any number of datagrams. -/
lemma openSession_congr {k : Kernel} {t : Turn} (h : openOutcome k t.toEngine = none)
    (nowMs n m : ℕ) (client : SocketAddr) :
    openSession k nowMs n client t = openSession k nowMs m client t := by
  obtain ⟨remote, -, -, heq⟩ := openSession_eq h
  rw [heq nowMs n client, heq nowMs m client]

/-- **The coalesced path refines the one-datagram path.**  When the kernel accepts every plain send
and rejects a segmented one at most with a fallback error, and opening a session for the client
ends the same way each time, `on_client_buffer` on a burst has the effect of `on_client_datagram`
on each of its datagrams in order. -/
theorem onClientBuffer_refines (k : Kernel) (nowMs : ℕ) (client : SocketAddr) (data : Bytes)
    (segment : ℕ) (t : Turn) (hs : 0 < segment) (hlen : segment < data.length) (hk : Accepting k)
    (hopen : SteadyOpen k nowMs client (chunks segment data) t) :
    SameEffect (onClientDatagrams k nowMs client (chunks segment data) t)
      (onClientBuffer k nowMs client data segment t) := by
  have hburst := isCoalesced_iff.mpr ⟨hs, hlen⟩
  have hpieces := pieces_of_coalesced hburst
  have hcount : segments data.length segment = (chunks segment data).length := by
    rw [← length_pieces, hpieces]
  obtain ⟨piece, ps, hps⟩ : ∃ piece ps, chunks segment data = piece :: ps :=
    List.exists_cons_of_ne_nil (chunks_ne_nil hs (List.length_pos_iff.mp (by omega)))
  rw [onClientBuffer, hburst, Bool.not_true, if_neg Bool.false_ne_true, hcount]
  -- through one session, both sides emit everything
  have hsession : ∀ {t' : Turn} {entry : SessionEntry}, (t'.heap entry.shared).dead = false →
      onClientDatagram k nowMs client piece t =
        Turn.store client (forwardUpstream k nowMs piece t' entry) →
      SameEffect (onClientDatagrams k nowMs client (chunks segment data) t)
        (Turn.store client (forwardUpstreamCoalesced k nowMs data segment t' entry)) := by
    intro t' entry hdead hfirst
    obtain ⟨cs, h⟩ := forwarded_forwardPieces k nowMs t' entry (chunks segment data)
    obtain ⟨cs', h'⟩ := forwarded_forwardUpstreamCoalesced k nowMs t' entry hburst
    rw [hpieces] at h'
    rw [hps, onClientDatagrams_of_first hdead hfirst, ← hps]
    exact sameEffect_of_forwarded hk h h'
  rcases hlive : t.live client with _ | _
  · rw [serveClient_of_not_live hlive, reopen]
    have hfirst : onClientDatagram k nowMs client piece t =
        reopen k nowMs 1 client (forwardUpstream k nowMs piece) t := serveClient_of_not_live hlive
    rcases hwhy : openOutcome k (t.removeEntry client) with _ | why
    · obtain ⟨entry, t', heq, hopened⟩ := openSession_of_success
        (t := t.onEngine (·.removeEntry client)) hwhy nowMs 1 client
      rw [openSession_congr (t := t.onEngine (·.removeEntry client)) hwhy nowMs _ 1, heq]
      rw [reopen, heq] at hfirst
      -- a session is not dead when it is opened
      refine hsession ?_ hfirst
      obtain ⟨remote, gro, -, hheap, -⟩ := hopened.opened
      rw [hheap, hopened.entry_eq]
      simp
    · obtain ⟨t', heq, hfailed⟩ := openSession_of_failure
        (t := t.onEngine (·.removeEntry client)) hwhy nowMs (chunks segment data).length client
      rw [heq]
      -- one refusal of all the datagrams counts like a refusal of each
      refine Refused.sameEffect (t := t.onEngine (·.removeEntry client)) ?_ hfailed.refused
      rw [SteadyOpen, hwhy, hps] at hopen
      rw [hps, List.length_cons, Nat.add_comm]
      have hone := refused_onClientDatagram nowMs piece hlive hwhy
      refine hone.trans (refused_of_absent ps ?_ fun i hi => hopen (i + 1) (by simpa using hi))
      rw [hone.sessions]
      exact (get?_removeEntry t.toEngine client client).trans (if_pos rfl)
  · obtain ⟨entry, hget, hdead, heq⟩ := serveClient_of_live k nowMs (chunks segment data).length
      (forwardUpstreamCoalesced k nowMs data segment) hlive
    rw [heq]
    exact hsession hdead (by simp [onClientDatagram, serveClient, hget, hdead])

/-- A kernel without segmentation offload. -/
def withoutGso : Kernel :=
  { Kernel.willing with
    send := fun _ _ segment => if segment = 0 then .ok () else .error (.os IoError.einval) }

/-- A forwarder to a literal address, at the beginning of a wakeup. -/
def firstWakeup : Turn :=
  { Engine.start ⟨[], 9000, [], 53, .udp⟩ (.fromSettings .default) (some (.v4 2)) 8 with
    batch := {} }

theorem onClientBuffer_refines_withoutGso :
    SameEffect (onClientDatagrams withoutGso 10 (.v4 9 4000) [[1, 2], [3, 4], [5]] firstWakeup)
        (onClientBuffer withoutGso 10 (.v4 9 4000) [1, 2, 3, 4, 5] 2 firstWakeup) ∧
      acceptedUp (onClientBuffer withoutGso 10 (.v4 9 4000) [1, 2, 3, 4, 5] 2 firstWakeup).trace =
        [[1, 2], [3, 4], [5]] := by
  refine ⟨?_, by decide +kernel⟩
  refine onClientBuffer_refines withoutGso 10 (.v4 9 4000) [1, 2, 3, 4, 5] 2 firstWakeup (by decide)
    (by decide) ⟨fun _ _ => rfl, fun _ _ segment err herr => ?_⟩ ?_
  · by_cases hseg : segment = 0
    · simp [withoutGso, hseg] at herr
    · obtain rfl : IoError.os IoError.einval = err := by simpa [withoutGso, hseg] using herr
      decide
  · unfold SteadyOpen
    decide +kernel

end Rfw.Udp
