/-
# Reply evidence

The monitor takes a target for reachable as long as the recorded reply is not older than the
recorded ICMP error.  Replies are recorded through a throttle of 100 ms, which lets every reply
pass while the two times are equal or the error is the later one.  It then stores the time of the
reply whatever that is, so a slower session with an older batch can take the evidence back.

`evidence_kept_iff` says for every sequence of records when that happens.
-/
import Rfw.Monitor.Udp

namespace Rfw.Monitor.Evidence

open Lib Udp

/-- What the data path records. -/
inductive Mark
  /-- `mark_connect_ok_at`. -/
  | reply (stamp : Stamp)
  /-- `mark_udp_icmp_error`. -/
  | icmpError (stamp : Stamp) (kind : IcmpKind)
deriving DecidableEq, Repr

/-- The counters, and whether a reply at or after the recorded ICMP error has been recorded since
that error. -/
structure State where
  stats : ForwarderStats
  replied : Bool

/-- A forwarder at its start. -/
def init (label : Str) (protocol : Protocol) : State where
  stats := .withProtocol label protocol
  replied := false

/-- One record. -/
def step (s : State) : Mark → Option State
  | .reply stamp =>
      some
        { stats := s.stats.markConnectOkAt stamp.ms
          replied := s.replied || decide (s.stats.udpIcmpErrorMs ≠ neverMs ∧
            s.stats.udpIcmpErrorMs ≤ stamp.ms) }
  | .icmpError stamp kind =>
      some { stats := s.stats.markUdpIcmpError stamp.ms kind, replied := false }

/-- A reply since the ICMP error is still to be seen, and every sample is judged "up". -/
def Heard (s : State) : Prop :=
  s.replied = true →
    s.stats.lastConnectOkMs ≠ neverMs ∧ s.stats.udpIcmpErrorMs ≤ s.stats.lastConnectOkMs ∧
      ∀ sent nowMs prev, udpVerdict ((s.stats.addDatagramsSent sent).udpSample nowMs) prev = .up

/-- The condition on a record: a reply that is older than the ICMP error does not come while the
recorded reply is just as old as the error. -/
def NotStale (s : State) (m : Mark) : Prop :=
  ∀ stamp, m = .reply stamp → s.replied = true →
    s.stats.lastConnectOkMs = s.stats.udpIcmpErrorMs → s.stats.udpIcmpErrorMs ≤ stamp.ms

/-- The kind of an ICMP error that is on record is known, and a reply counts as evidence only
against such an error. -/
structure Grounded (s : State) : Prop where
  kind : s.stats.udpIcmpErrorMs ≠ neverMs → s.stats.udpIcmpKind.isSome
  recorded : s.replied = true → s.stats.udpIcmpErrorMs ≠ neverMs

/-- The recorded reply, as far as it is evidence. -/
def Recorded (s : State) : Prop :=
  s.replied = true →
    s.stats.lastConnectOkMs ≠ neverMs ∧ s.stats.udpIcmpErrorMs ≤ s.stats.lastConnectOkMs

/-- The verdict follows from the two times. -/
lemma heard_iff_recorded {s : State} (h : Grounded s) : Heard s ↔ Recorded s := by
  constructor
  · intro hheard hreplied
    obtain ⟨hnever, hle, -⟩ := hheard hreplied
    exact ⟨hnever, hle⟩
  · intro hrecorded hreplied
    obtain ⟨hnever, hle⟩ := hrecorded hreplied
    refine ⟨hnever, hle, fun sent nowMs prev => ?_⟩
    have herror : HasError (s.stats.addDatagramsSent sent) :=
      ⟨h.recorded hreplied, h.kind (h.recorded hreplied)⟩
    obtain ⟨kind, hicmp⟩ := udpSample_icmp herror nowMs
    rw [udpVerdict_eq_up_iff hicmp, any_replyMs_iff]
    exact .inl ⟨hnever, hle⟩

/-- What recording a reply does to the recorded time. -/
lemma lastConnectOkMs_mark (s : ForwarderStats) (nowMs : ℕ) :
    (s.markConnectOkAt nowMs).lastConnectOkMs =
      if s.lastConnectOkMs = neverMs ∨ min (s.lastConnectOkMs + 100) neverMs ≤ nowMs ∨
        (s.udpIcmpErrorMs ≠ neverMs ∧ s.lastConnectOkMs ≤ s.udpIcmpErrorMs)
      then nowMs else s.lastConnectOkMs := by
  simp only [ForwarderStats.markConnectOkAt]
  split <;> rfl

lemma grounded_step {s s' : State} {m : Mark} (h : Grounded s) (hstep : step s m = some s') :
    Grounded s' := by
  cases m with
  | icmpError stamp kind =>
    obtain rfl := Option.some.inj hstep
    exact ⟨fun _ => rfl, fun hreplied => absurd hreplied Bool.false_ne_true⟩
  | reply stamp =>
    obtain rfl := Option.some.inj hstep
    refine ⟨fun hne => ?_, fun hreplied => ?_⟩
    · rw [udpIcmpErrorMs_mark] at hne
      rw [udpIcmpKind_mark]
      exact h.kind hne
    · rw [udpIcmpErrorMs_mark]
      simp only [Bool.or_eq_true, decide_eq_true_eq] at hreplied
      obtain hreplied | ⟨hne, -⟩ := hreplied
      · exact h.recorded hreplied
      · exact hne

/-- Recording a reply keeps the evidence exactly when the reply is not stale. -/
lemma recorded_reply {s : State} {stamp : Stamp} (hrecorded : Recorded s) {s' : State}
    (hstep : step s (.reply stamp) = some s') : Recorded s' ↔ NotStale s (.reply stamp) := by
  have hstamp := stamp.ms_lt
  obtain rfl := Option.some.inj hstep
  simp only [Recorded, NotStale, Bool.or_eq_true, decide_eq_true_eq, lastConnectOkMs_mark,
    udpIcmpErrorMs_mark, Mark.reply.injEq, forall_eq']
  cases hreplied : s.replied with
  | true =>
    obtain ⟨hnever, hle⟩ := hrecorded hreplied
    by_cases htie : s.stats.lastConnectOkMs = s.stats.udpIcmpErrorMs
    · -- the throttle is open, and the time of the reply is stored as it is
      have hopen : s.stats.lastConnectOkMs = neverMs ∨
          min (s.stats.lastConnectOkMs + 100) neverMs ≤ stamp.ms ∨
          (s.stats.udpIcmpErrorMs ≠ neverMs ∧
            s.stats.lastConnectOkMs ≤ s.stats.udpIcmpErrorMs) :=
        .inr (.inr ⟨htie ▸ hnever, htie.le⟩)
      rw [if_pos hopen]
      simp only [true_or, true_implies, htie]
      exact ⟨fun h => h.2, fun h => ⟨hstamp.ne, h⟩⟩
    · -- a stored reply is 100 ms newer than one that is newer than the error
      refine ⟨fun _ _ h => absurd h htie, fun _ _ => ?_⟩
      split
      · omega
      · exact ⟨hnever, hle⟩
  | false =>
    refine ⟨fun _ h => absurd h Bool.false_ne_true, fun _ h => ?_⟩
    obtain h | ⟨hne, hle⟩ := h
    · exact absurd h Bool.false_ne_true
    · split
      · omega
      · omega

lemma recorded_step (s : State) (m : Mark) (s' : State) (h : Grounded s) (hrecorded : Recorded s)
    (hstep : step s m = some s') : Grounded s' ∧ (Recorded s' ↔ NotStale s m) := by
  refine ⟨grounded_step h hstep, ?_⟩
  cases m with
  | reply stamp => exact recorded_reply hrecorded hstep
  | icmpError stamp kind =>
    -- an ICMP error starts afresh
    obtain rfl := Option.some.inj hstep
    refine ⟨fun _ stamp' heq => ?_, fun _ hreplied => absurd hreplied Bool.false_ne_true⟩
    cases heq

/-- Every record can be made. -/
lemma run_isSome (s : State) (ms : List Mark) : ∃ t, run step s ms = some t := by
  induction ms generalizing s with
  | nil => exact ⟨s, rfl⟩
  | cons m ms ih =>
    cases m with
    | reply stamp => exact ih _
    | icmpError stamp kind => exact ih _

lemma grounded_init (label : Str) (protocol : Protocol) : Grounded (init label protocol) :=
  ⟨fun h => absurd rfl h, fun h => absurd h Bool.false_ne_true⟩

/-- **When reply evidence is kept.**  In every sequence of records, the evidence of a reply stays
until the next ICMP error, and every sample in between is judged "up", exactly when no stale reply
is recorded while the recorded reply is as old as the error. -/
theorem evidence_kept_iff (label : Str) (protocol : Protocol) (ms : List Mark) :
    (∀ pre post s, ms = pre ++ post → run step (init label protocol) pre = some s → Heard s) ↔
      RunAll step NotStale (init label protocol) ms := by
  have hgrounded := grounded_init label protocol
  have hrecorded : Recorded (init label protocol) := fun h => absurd h Bool.false_ne_true
  obtain ⟨t, ht⟩ := run_isSome (init label protocol) ms
  rw [← forall_reached_iff_runAll recorded_step hgrounded hrecorded ht]
  refine forall_congr' fun pre => forall_congr' fun post => forall_congr' fun s =>
    imp_congr_right fun _ => ?_
  refine forall_congr' fun hrun => heard_iff_recorded ?_
  exact run_invariant (fun s m s' h hstep => grounded_step h hstep) hgrounded hrun

/-- A reply in the same millisecond as the ICMP error, and then one from an older batch. -/
def staleMarks : List Mark :=
  [.icmpError ⟨500, by decide⟩ .portUnreachable, .reply ⟨500, by decide⟩,
    .reply ⟨499, by decide⟩]

/-- Reply evidence can be lost. -/
theorem evidence_lost_staleMarks :
    ¬ ∀ (label : Str) (protocol : Protocol) (ms : List Mark) (s : State),
      run step (init label protocol) ms = some s → Heard s := by
  intro hall
  have hend : ((run step (init [] .udp) staleMarks).map fun s =>
      (s.replied, s.stats.udpIcmpErrorMs, s.stats.lastConnectOkMs)) = some (true, 500, 499) := by
    decide
  obtain ⟨s, hs, htimes⟩ := Option.map_eq_some_iff.mp hend
  obtain ⟨hreplied, htimes⟩ := Prod.mk.inj htimes
  obtain ⟨hicmp, hlast⟩ := Prod.mk.inj htimes
  obtain ⟨-, hle, -⟩ := hall [] .udp staleMarks s hs hreplied
  omega

end Rfw.Monitor.Evidence
