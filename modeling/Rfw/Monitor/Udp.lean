/-
# The monitor of a UDP target

UDP has no handshake to probe, so `run_udp_monitor` is passive: on each tick it resolves the name
and decides from what the data path left behind, the latest ICMP error, the latest reply and the
number of datagrams sent.  Recovery needs positive evidence; silence freezes the state
(`recovery_needs_evidence`).

When the ticks come is decided by `wait_for_tick`, from the interval and from kicks.  Nothing below
depends on it, so a tick is an input that may come at any time.
-/
import Rfw.Monitor.Verdicts
import Rfw.Notify.Event

namespace Rfw

open Lib

/-- What the UDP monitor needs from the data path, read in one go. -/
structure UdpSample where
  nowMs : ℕ
  icmp : Option (ℕ × IcmpKind)
  replyMs : Option ℕ
  sent : ℕ
deriving DecidableEq, Repr

/-- `ForwarderStats::udp_sample`. -/
def ForwarderStats.udpSample (s : ForwarderStats) (nowMs : ℕ) : UdpSample where
  nowMs := nowMs
  icmp :=
    if s.udpIcmpErrorMs = neverMs then none else s.udpIcmpKind.map fun k => (s.udpIcmpErrorMs, k)
  replyMs := if s.lastConnectOkMs = neverMs then none else some s.lastConnectOkMs
  sent := s.datagramsSent

/-- `IcmpKind::as_str`. -/
def IcmpKind.asStr : IcmpKind → Str
  | .portUnreachable => "port unreachable".toList
  | .hostUnreachable => "host unreachable".toList
  | .networkUnreachable => "network unreachable".toList

namespace Monitor.Udp

open Notify (fmtDuration)

/-- `ICMP_QUIET_MS`. -/
def icmpQuietMs : ℕ := 3000

/-- Passive verdict on a UDP target. -/
inductive UdpVerdict
  | up
  | down (kind : IcmpKind) (ageMs : ℕ)
  /-- No new evidence either way: keep the current state. -/
  | hold
deriving DecidableEq, Repr

/-- `udp_verdict`. -/
def udpVerdict (cur : UdpSample) (prev : Option UdpSample) : UdpVerdict :=
  match cur.icmp with
  | none => .up
  | some (icmpMs, kind) =>
      if cur.replyMs.any fun r => icmpMs ≤ r then .up
      else
        let down := UdpVerdict.down kind (cur.nowMs - icmpMs)
        match prev with
        | none => down
        | some prev =>
            if prev.icmp.map Prod.fst ≠ some icmpMs then down
            else if cur.nowMs - icmpMs < icmpQuietMs then down
            else if prev.sent < cur.sent then .up
            else .hold

/-- `probe_udp_target`, from the answer of `resolve_targets`.  A literal address is not reported as
a DNS answer. -/
def probeUdpTarget (literal : Bool) (resolved : Except Str (List SocketAddr)) : Tcp.ProbeOutcome :=
  match resolved with
  | .error e => { addrs := [], result := .error e }
  | .ok targets =>
      { addrs := if literal then [] else targets.map SocketAddr.ip
        result :=
          match targets with
          | first :: _ => .ok first
          | [] => .error "no address resolved".toList }

/-- A timestamp of the data path.  `NEVER_MS` is reserved. -/
structure Stamp where
  ms : ℕ
  ms_lt : ms < neverMs
deriving DecidableEq, Repr

/-- The monitor with everything it shares. -/
structure State where
  cfg : ForwarderConfig
  /-- Whether the remote host is an address literal. -/
  literal : Bool
  record : Record
  knobs : RuntimeKnobs
  /-- The sample of the previous tick. -/
  prev : Option UdpSample
  clock : ℕ
  stopped : Bool
deriving DecidableEq, Repr

/-- One iteration of the loop: what the name resolved to, and the clock readings at which the
sample is taken and the verdict recorded. -/
structure Tick where
  resolved : Except Str (List SocketAddr)
  sampled : ℕ
  opened : ℕ
  now : ℕ
deriving Repr

/-- What can happen next. -/
inductive Input
  /-- `mark_udp_icmp_error`. -/
  | icmpError (stamp : Stamp) (kind : IcmpKind)
  /-- `mark_connect_ok_at`. -/
  | reply (stamp : Stamp)
  /-- `add_datagrams_sent`. -/
  | sent (n : ℕ)
  /-- A hot-reload stores new knobs. -/
  | reload (settings : Settings)
  | tick (t : Tick)
  /-- The forwarder is stopped. -/
  | cancel

/-- A monitor at its start, with the fresh counters of its forwarder. -/
def init (cfg : ForwarderConfig) (literal : Bool) (knobs : RuntimeKnobs) : State where
  cfg := cfg
  literal := literal
  record := freshRecord (.withProtocol cfg.label .udp)
  knobs := knobs
  prev := none
  clock := 0
  stopped := false

/-- The sample of a tick. -/
def sampleAt (s : State) (t : Tick) : UdpSample := s.record.stats.udpSample (elapsedMs t.sampled)

/-- The passive verdict of a tick; `none` if the name does not resolve. -/
def verdictAt (s : State) (t : Tick) : Option UdpVerdict :=
  match (probeUdpTarget s.literal t.resolved).result with
  | .error _ => none
  | .ok _ => some (udpVerdict (sampleAt s t) s.prev)

/-- The verdict that a tick records. -/
def tickVerdict (s : State) (t : Tick) : Verdict :=
  match (probeUdpTarget s.literal t.resolved).result with
  | .error e => .down e s.knobs t.opened t.now
  | .ok addr =>
      match udpVerdict (sampleAt s t) s.prev with
      | .up => .up (some addr) t.now
      | .down kind ageMs =>
          .down (kind.asStr ++ " from the target ".toList ++ fmtDuration (ageMs * 1000000) ++
            " ago; no reply since".toList) s.knobs t.opened t.now
      | .hold => .hold

/-- One tick of `run_udp_monitor`. -/
def tick (s : State) (t : Tick) : State :=
  let addrs := (probeUdpTarget s.literal t.resolved).addrs
  let record :=
    if addrs.isEmpty then s.record
    else reportDnsChange s.cfg.label s.cfg.remoteHost s.record addrs
  { s with
    record := observe s.cfg.label (target s.cfg) record (tickVerdict s t)
    prev := some (sampleAt s t)
    clock := t.now }

/-- One step of the data path or of the monitor. -/
def step (s : State) : Input → Option State
  | .icmpError stamp kind =>
      some { s with record.stats := s.record.stats.markUdpIcmpError stamp.ms kind }
  | .reply stamp => some { s with record.stats := s.record.stats.markConnectOkAt stamp.ms }
  | .sent n => some { s with record.stats := s.record.stats.addDatagramsSent n }
  | .reload settings => some { s with knobs := s.knobs.update settings }
  | .tick t =>
      if s.stopped = false ∧ s.clock ≤ t.sampled ∧ t.sampled ≤ t.opened ∧ t.opened ≤ t.now then
        some (tick s t)
      else none
  | .cancel => some { s with stopped := true }

/-- A tick sets the gauge to true: it shows true after the tick even if it showed nothing
before. -/
def SetsReachable (s : State) (t : Tick) : Prop :=
  (tick { s with record.stats.targetReachable := none } t).record.stats.targetReachable = some true

/-- The name resolves at a tick. -/
def Resolves (s : State) (t : Tick) : Prop :=
  ∃ addr, (probeUdpTarget s.literal t.resolved).result = .ok addr

/-- The recorded reply is not older than the recorded ICMP error. -/
def RepliedSince (s : State) : Prop :=
  s.record.stats.lastConnectOkMs ≠ neverMs ∧
    s.record.stats.udpIcmpErrorMs ≤ s.record.stats.lastConnectOkMs

/-- The recorded ICMP error was there at the previous tick, is old, and datagrams went out since. -/
def SendsQuietly (s : State) (t : Tick) : Prop :=
  ∃ prev, s.prev = some prev ∧ prev.icmp.map Prod.fst = some s.record.stats.udpIcmpErrorMs ∧
    3000 ≤ elapsedMs t.sampled - s.record.stats.udpIcmpErrorMs ∧
    prev.sent < s.record.stats.datagramsSent

/-- Inputs of a silent data path: it records nothing but ICMP errors later than `icmpMs`. -/
def Silent (icmpMs : ℕ) : Input → Prop
  | .icmpError stamp _ => icmpMs < stamp.ms
  | .reply _ => False
  | .sent _ => False
  | _ => True

/-! ## One tick -/

/-- The alerts grow, latest first, and no recovery is among the new ones. -/
def AddsNoRecovery (old alerts : List Alert) : Prop :=
  ∃ new, alerts = new ++ old ∧ ∀ a ∈ new, ∀ l t d addr, a ≠ .targetRecovered l t d addr

lemma AddsNoRecovery.refl (old : List Alert) : AddsNoRecovery old old := ⟨[], rfl, by simp⟩

lemma AddsNoRecovery.trans {old mid alerts : List Alert} (h : AddsNoRecovery old mid)
    (h' : AddsNoRecovery mid alerts) : AddsNoRecovery old alerts := by
  obtain ⟨new, rfl, hnone⟩ := h
  obtain ⟨new', rfl, hnone'⟩ := h'
  refine ⟨new' ++ new, (List.append_assoc _ _ _).symm, fun a ha => ?_⟩
  rcases List.mem_append.mp ha with ha | ha
  · exact hnone' a ha
  · exact hnone a ha

section Tick

variable {s s' : State} {t : Tick}

lemma reportDnsChange_record (label host : Str) (r : Record) (addrs : List IpAddr) :
    let r' := reportDnsChange label host r addrs
    r'.down = r.down ∧ r'.stats = { r.stats with lastAddrs := r'.stats.lastAddrs } ∧
      AddsNoRecovery r.alerts r'.alerts := by
  have hstats : (r.stats.observeAddrs addrs).2 =
      { r.stats with lastAddrs := (r.stats.observeAddrs addrs).2.lastAddrs } := by
    simp only [ForwarderStats.observeAddrs]
    split
    · split <;> rfl
    · rfl
  simp only [reportDnsChange]
  rcases hobs : r.stats.observeAddrs addrs with ⟨old, stats⟩
  rw [hobs] at hstats
  cases old with
  | none => exact ⟨rfl, hstats, .refl _⟩
  | some old => exact ⟨rfl, hstats, [_], rfl, by simp⟩

/-- The record to which a tick adds its verdict. -/
lemma tick_record (s : State) (t : Tick) :
    ∃ r, (tick s t).record = observe s.cfg.label (target s.cfg) r (tickVerdict s t) ∧
      r.down = s.record.down ∧ r.stats = { s.record.stats with lastAddrs := r.stats.lastAddrs } ∧
      AddsNoRecovery s.record.alerts r.alerts := by
  by_cases h : (probeUdpTarget s.literal t.resolved).addrs.isEmpty
  · refine ⟨s.record, ?_, rfl, rfl, .refl _⟩
    simp only [tick, h, if_true]
  · refine ⟨_, ?_, reportDnsChange_record s.cfg.label s.cfg.remoteHost s.record
      (probeUdpTarget s.literal t.resolved).addrs⟩
    simp only [tick, h]
    rfl

/-- Recording a verdict changes nothing of the counters but the gauge. -/
lemma observe_stats (label target : Str) (r : Record) (v : Verdict) :
    (observe label target r v).stats =
      { r.stats with targetReachable := v.reachable.or r.stats.targetReachable } := by
  cases v with
  | up address now =>
    simp only [observe, recordUp]
    cases r.down <;> rfl
  | down error knobs opened now =>
    simp only [observe, recordDown]
    split <;> rfl
  | hold => rfl

/-- A tick moves the gauge to its verdict and leaves the evidence alone. -/
lemma tick_stats (s : State) (t : Tick) :
    (tick s t).record.stats.targetReachable =
        (tickVerdict s t).reachable.or s.record.stats.targetReachable ∧
      (tick s t).record.stats.udpIcmpErrorMs = s.record.stats.udpIcmpErrorMs ∧
      (tick s t).record.stats.udpIcmpKind = s.record.stats.udpIcmpKind ∧
      (tick s t).record.stats.lastConnectOkMs = s.record.stats.lastConnectOkMs ∧
      (tick s t).record.stats.datagramsSent = s.record.stats.datagramsSent := by
  obtain ⟨r, hr, -, hstats, -⟩ := tick_record s t
  rw [hr, observe_stats, hstats]
  exact ⟨rfl, rfl, rfl, rfl, rfl⟩

/-- The ticks that set the gauge to true are those that record an "up". -/
lemma setsReachable_iff : SetsReachable s t ↔ (tickVerdict s t).reachable = some true := by
  rw [SetsReachable, (tick_stats _ t).1, Option.or_none]
  rfl

/-- An "up" comes from a name that resolves and the passive verdict up. -/
lemma tickVerdict_up_iff :
    (tickVerdict s t).reachable = some true ↔
      Resolves s t ∧ udpVerdict (sampleAt s t) s.prev = .up := by
  simp only [tickVerdict, Resolves]
  cases (probeUdpTarget s.literal t.resolved).result with
  | error e => simp [Verdict.reachable]
  | ok addr =>
    cases udpVerdict (sampleAt s t) s.prev with
    | up => simp [Verdict.reachable]
    | down kind ageMs => simp [Verdict.reachable]
    | hold => simp [Verdict.reachable]

/-- A tick that does not record an "up" raises no recovery. -/
lemma tick_alerts (h : ¬ SetsReachable s t) :
    AddsNoRecovery s.record.alerts (tick s t).record.alerts := by
  obtain ⟨r, hr, -, -, hdns⟩ := tick_record s t
  rw [setsReachable_iff] at h
  rw [hr, alerts_observe]
  -- the alert of the verdict comes on top of the one about the addresses
  refine hdns.trans ⟨_, rfl, ?_⟩
  intro a ha l t' d addr hrec
  rw [Option.mem_toList, hrec] at ha
  obtain ⟨now, d', hup, -⟩ := eq_up_of_emitted ha
  exact h (by rw [hup]; rfl)

end Tick

/-! ## The passive verdict -/

/-- What an ICMP error leaves behind: a proper timestamp and a kind. -/
structure HasError (s : ForwarderStats) : Prop where
  recorded : s.udpIcmpErrorMs ≠ neverMs
  kind : s.udpIcmpKind.isSome

lemma udpSample_icmp {s : ForwarderStats} (h : HasError s) (nowMs : ℕ) :
    ∃ kind, (s.udpSample nowMs).icmp = some (s.udpIcmpErrorMs, kind) := by
  obtain ⟨kind, hkind⟩ := Option.isSome_iff_exists.mp h.kind
  exact ⟨kind, by simp [ForwarderStats.udpSample, h.recorded, hkind]⟩

/-- With an ICMP error in the sample, "up" needs a reply since or traffic that draws no new one. -/
lemma udpVerdict_eq_up_iff {cur : UdpSample} {prev : Option UdpSample} {icmpMs : ℕ}
    {kind : IcmpKind} (hicmp : cur.icmp = some (icmpMs, kind)) :
    udpVerdict cur prev = .up ↔
      (cur.replyMs.any fun r => icmpMs ≤ r) = true ∨
        ∃ p, prev = some p ∧ p.icmp.map Prod.fst = some icmpMs ∧
          icmpQuietMs ≤ cur.nowMs - icmpMs ∧ p.sent < cur.sent := by
  simp only [udpVerdict, hicmp]
  by_cases hreply : (cur.replyMs.any fun r => icmpMs ≤ r) = true
  · simp only [hreply, if_true, true_or]
  · simp only [hreply, if_false, Bool.false_eq_true, false_or]
    cases prev with
    | none => simp
    | some p =>
      simp only [Option.some.injEq, exists_eq_left']
      by_cases hseen : p.icmp.map Prod.fst = some icmpMs
      · by_cases hage : cur.nowMs - icmpMs < icmpQuietMs
        · simp only [hseen, hage, ne_eq, not_true, if_false, if_true, true_and, reduceCtorEq,
            false_iff, not_and]
          omega
        · by_cases hsent : p.sent < cur.sent
          · simp only [hseen, hage, hsent, ne_eq, not_true, if_false, if_true, true_and, and_true,
              true_iff]
            omega
          · simp only [hseen, hage, hsent, ne_eq, not_true, if_false, and_false, reduceCtorEq]
      · simp only [hseen, ne_eq, not_false_iff, if_true, false_and, reduceCtorEq]

lemma any_replyMs_iff {s : ForwarderStats} {nowMs icmpMs : ℕ} :
    ((s.udpSample nowMs).replyMs.any fun r => icmpMs ≤ r) = true ↔
      s.lastConnectOkMs ≠ neverMs ∧ icmpMs ≤ s.lastConnectOkMs := by
  by_cases hnever : s.lastConnectOkMs = neverMs
  · simp [ForwarderStats.udpSample, hnever]
  · simp [ForwarderStats.udpSample, hnever]

/-- Once an ICMP error is on record, the passive verdict is "up" exactly on the evidence of a reply
or of traffic. -/
lemma up_iff_evidence {s : State} {t : Tick} (herror : HasError s.record.stats) :
    udpVerdict (sampleAt s t) s.prev = .up ↔ RepliedSince s ∨ SendsQuietly s t := by
  obtain ⟨kind, hicmp⟩ := udpSample_icmp herror (elapsedMs t.sampled)
  exact (udpVerdict_eq_up_iff hicmp).trans (or_congr any_replyMs_iff Iff.rfl)

/-- Without an ICMP error on record, it is "up". -/
lemma up_of_not_hasError {s : State} (h : ¬ HasError s.record.stats) (t : Tick) :
    udpVerdict (sampleAt s t) s.prev = .up := by
  have hicmp : (sampleAt s t).icmp = none := by
    simp only [sampleAt, ForwarderStats.udpSample]
    by_cases hnever : s.record.stats.udpIcmpErrorMs = neverMs
    · rw [if_pos hnever]
    · rw [if_neg hnever]
      cases hk : s.record.stats.udpIcmpKind with
      | none => rfl
      | some kind => exact absurd ⟨hnever, by rw [hk]; rfl⟩ h
  simp only [udpVerdict, hicmp]

/-! ## Runs -/

/-- The inputs that record an ICMP error. -/
def Input.isIcmpError : Input → Bool
  | .icmpError _ _ => true
  | _ => false

/-- Either no ICMP error was ever recorded, or one is on record. -/
def ErrorHistory (is : List Input) (s : State) : Prop :=
  (∀ i ∈ is, i.isIcmpError = false) ∨ HasError s.record.stats

lemma udpIcmpErrorMs_mark (s : ForwarderStats) (nowMs : ℕ) :
    (s.markConnectOkAt nowMs).udpIcmpErrorMs = s.udpIcmpErrorMs := by
  simp only [ForwarderStats.markConnectOkAt]
  split <;> rfl

lemma udpIcmpKind_mark (s : ForwarderStats) (nowMs : ℕ) :
    (s.markConnectOkAt nowMs).udpIcmpKind = s.udpIcmpKind := by
  simp only [ForwarderStats.markConnectOkAt]
  split <;> rfl

lemma targetReachable_mark (s : ForwarderStats) (nowMs : ℕ) :
    (s.markConnectOkAt nowMs).targetReachable = s.targetReachable := by
  simp only [ForwarderStats.markConnectOkAt]
  split <;> rfl

lemma hasError_markConnectOkAt {s : ForwarderStats} (h : HasError s) (nowMs : ℕ) :
    HasError (s.markConnectOkAt nowMs) := by
  refine ⟨?_, ?_⟩
  · rw [udpIcmpErrorMs_mark]
    exact h.recorded
  · rw [udpIcmpKind_mark]
    exact h.kind

lemma hasError_tick {s : State} (h : HasError s.record.stats) (t : Tick) :
    HasError (tick s t).record.stats := by
  obtain ⟨-, hms, hkind, -, -⟩ := tick_stats s t
  exact ⟨by rw [hms]; exact h.recorded, by rw [hkind]; exact h.kind⟩

lemma errorHistory_step {is : List Input} {s s' : State} {i : Input} (h : ErrorHistory is s)
    (hstep : step s i = some s') : ErrorHistory (is ++ [i]) s' := by
  have hmem : i.isIcmpError = false → (∀ j ∈ is, j.isIcmpError = false) →
      ∀ j ∈ is ++ [i], j.isIcmpError = false := by
    intro hi his j hj
    rcases List.mem_append.mp hj with hj | hj
    · exact his j hj
    · rw [List.mem_singleton.mp hj]
      exact hi
  cases i with
  | icmpError stamp kind =>
    obtain rfl := Option.some.inj hstep
    exact Or.inr ⟨stamp.ms_lt.ne, rfl⟩
  | reply stamp =>
    obtain rfl := Option.some.inj hstep
    exact h.imp (hmem rfl) fun herror => hasError_markConnectOkAt herror stamp.ms
  | sent n =>
    obtain rfl := Option.some.inj hstep
    exact h.imp (hmem rfl) fun herror => ⟨herror.recorded, herror.kind⟩
  | reload settings =>
    obtain rfl := Option.some.inj hstep
    exact h.imp (hmem rfl) id
  | tick t =>
    obtain ⟨-, hs'⟩ := Option.ite_none_right_eq_some.mp hstep
    obtain rfl := Option.some.inj hs'
    exact h.imp (hmem rfl) fun herror => hasError_tick herror t
  | cancel =>
    obtain rfl := Option.some.inj hstep
    exact h.imp (hmem rfl) id

/-- A monitor whose last evidence is the ICMP error `icmpMs` or a later one: no reply since, and
nothing sent since the previous tick. -/
structure Frozen (icmpMs : ℕ) (s : State) : Prop where
  error : HasError s.record.stats
  later : icmpMs ≤ s.record.stats.udpIcmpErrorMs
  reply : s.record.stats.lastConnectOkMs = neverMs ∨ s.record.stats.lastConnectOkMs < icmpMs
  sent : ∃ prev, s.prev = some prev ∧ prev.sent = s.record.stats.datagramsSent

/-- No tick of a frozen monitor sets the gauge to true. -/
lemma Frozen.not_setsReachable {icmpMs : ℕ} {s : State} (h : Frozen icmpMs s) (t : Tick) :
    ¬ SetsReachable s t := by
  rw [setsReachable_iff, tickVerdict_up_iff]
  rintro ⟨-, hup⟩
  rcases (up_iff_evidence h.error).mp hup with ⟨hnever, hsince⟩ | ⟨prev, hprev, -, -, hsent⟩
  · rcases h.reply with hreply | hreply
    · exact hnever hreply
    · exact absurd (hsince.trans_lt hreply) (Nat.not_lt.mpr h.later)
  · obtain ⟨prev', hprev', heq⟩ := h.sent
    obtain rfl : prev = prev' := Option.some.inj (hprev.symm.trans hprev')
    exact absurd hsent (by rw [heq]; exact lt_irrefl _)

/-- After a tick whose passive verdict is "down" or "hold" the monitor is frozen. -/
lemma frozen_tick {s : State} {t : Tick} {v : UdpVerdict} (hv : verdictAt s t = some v)
    (hup : v ≠ .up) : Frozen s.record.stats.udpIcmpErrorMs (tick s t) := by
  have hne : udpVerdict (sampleAt s t) s.prev ≠ .up := by
    simp only [verdictAt] at hv
    split at hv
    · cases hv
    · rwa [Option.some.inj hv]
  obtain ⟨-, hms, hkind, hreply, hsent⟩ := tick_stats s t
  have herror : HasError s.record.stats := by
    by_contra hno
    exact hne (up_of_not_hasError hno t)
  refine ⟨hasError_tick herror t, hms.ge, ?_, sampleAt s t, rfl, hsent.symm⟩
  rw [hreply]
  by_contra hcon
  rw [not_or, Nat.not_lt] at hcon
  exact hne ((up_iff_evidence herror).mpr (Or.inl hcon))

/-- A silent data path keeps the monitor frozen. -/
lemma Frozen.next {icmpMs : ℕ} {s s' : State} {i : Input} (h : Frozen icmpMs s)
    (hi : Silent icmpMs i) (hstep : step s i = some s') : Frozen icmpMs s' := by
  cases i with
  | icmpError stamp kind =>
    obtain rfl := Option.some.inj hstep
    exact ⟨⟨stamp.ms_lt.ne, rfl⟩, le_of_lt hi, h.reply, h.sent⟩
  | reply stamp => exact hi.elim
  | sent n => exact hi.elim
  | reload settings =>
    obtain rfl := Option.some.inj hstep
    exact ⟨h.error, h.later, h.reply, h.sent⟩
  | tick t =>
    obtain ⟨-, hs'⟩ := Option.ite_none_right_eq_some.mp hstep
    obtain rfl := Option.some.inj hs'
    obtain ⟨-, hms, -, hreply, hsent⟩ := tick_stats s t
    exact ⟨hasError_tick h.error t, by rw [hms]; exact h.later, by rw [hreply]; exact h.reply,
      sampleAt s t, rfl, hsent.symm⟩
  | cancel =>
    obtain rfl := Option.some.inj hstep
    exact ⟨h.error, h.later, h.reply, h.sent⟩

/-- The condition that no tick sets the gauge to true. -/
def NoRecovery (s : State) (i : Input) : Prop := ∀ t, i = .tick t → ¬ SetsReachable s t

/-- Along a silent run from a frozen monitor no tick sets the gauge to true, and no recovery is
raised. -/
lemma frozen_run {icmpMs : ℕ} {js : List Input} {s s' : State} (h : Frozen icmpMs s)
    (hsilent : ∀ i ∈ js, Silent icmpMs i) (hrun : run step s js = some s') :
    RunAll step NoRecovery s js ∧ AddsNoRecovery s.record.alerts s'.record.alerts := by
  induction js generalizing s with
  | nil =>
    obtain rfl : s = s' := by simpa using hrun
    exact ⟨trivial, .refl _⟩
  | cons i js ih =>
    obtain ⟨m, hm, hrest⟩ := run_cons_eq_some.mp hrun
    have hfrozen := h.next (hsilent i List.mem_cons_self) hm
    obtain ⟨hall, hlater⟩ := ih hfrozen (fun j hj => hsilent j (List.mem_cons_of_mem i hj)) hrest
    -- what this one input adds
    have hone : AddsNoRecovery s.record.alerts m.record.alerts := by
      cases i with
      | tick t =>
        obtain ⟨-, hm'⟩ := Option.ite_none_right_eq_some.mp hm
        obtain rfl := Option.some.inj hm'
        exact tick_alerts (h.not_setsReachable t)
      | icmpError | reply | sent | reload | cancel =>
        obtain rfl := Option.some.inj hm
        exact .refl _
    refine ⟨⟨fun t _ => h.not_setsReachable t, fun m' hm' => ?_⟩, hone.trans hlater⟩
    obtain rfl : m = m' := Option.some.inj (hm.symm.trans hm')
    exact hall

/-- **Recovery needs evidence.**  In every run, a tick sets the gauge to true only if the name
resolves and there was never an ICMP error, or a reply followed it, or traffic has gone out without
drawing a new one.  After a "down" or "hold" a silent data path never recovers, whatever the ticks
and the name resolution do. -/
theorem recovery_needs_evidence (cfg : ForwarderConfig) (literal : Bool) (knobs : RuntimeKnobs)
    (is : List Input) (s : State) (hrun : run step (init cfg literal knobs) is = some s)
    (t : Tick) (s' : State) (htick : step s (.tick t) = some s') :
    (SetsReachable s t → Resolves s t ∧
      ((∀ i ∈ is, i.isIcmpError = false) ∨ RepliedSince s ∨ SendsQuietly s t)) ∧
    (∀ v, verdictAt s t = some v → v ≠ .up → ∀ js s'',
      (∀ i ∈ js, Silent s.record.stats.udpIcmpErrorMs i) → run step s' js = some s'' →
        RunAll step NoRecovery s' js ∧
          ∃ new, s''.record.alerts = new ++ s'.record.alerts ∧
            ∀ a ∈ new, ∀ l t d addr, a ≠ .targetRecovered l t d addr) := by
  refine ⟨fun hset => ?_, fun v hv hup js s'' hsilent hrun' => ?_⟩
  · obtain ⟨hresolves, hup⟩ := tickVerdict_up_iff.mp (setsReachable_iff.mp hset)
    refine ⟨hresolves, ?_⟩
    have hhistory : ErrorHistory is s := run_invariant_history (I := ErrorHistory)
      (Or.inl (by simp)) (fun _ _ _ _ => errorHistory_step) hrun
    exact hhistory.imp id fun herror => (up_iff_evidence herror).mp hup
  · obtain ⟨-, hs'⟩ := Option.ite_none_right_eq_some.mp htick
    obtain rfl := Option.some.inj hs'
    exact frozen_run (frozen_tick hv hup) hsilent hrun'

/-- The monitor's record follows a sequence of verdicts. -/
def Follows (cfg : ForwarderConfig) (s : State) : Prop :=
  s.cfg = cfg ∧
    FollowsVerdicts cfg.label (target cfg) (.withProtocol cfg.label .udp) s.clock s.record

lemma readings_tickVerdict (s : State) (t : Tick) :
    (tickVerdict s t).readings = [] ∨ (tickVerdict s t).readings = [t.now] ∨
      (tickVerdict s t).readings = [t.opened, t.now] := by
  simp only [tickVerdict]
  split
  · exact Or.inr (Or.inr rfl)
  · split
    · exact Or.inr (Or.inl rfl)
    · exact Or.inr (Or.inr rfl)
    · exact Or.inl rfl

lemma follows_step {cfg : ForwarderConfig} (s : State) (i : Input) (s' : State)
    (h : Follows cfg s) (hstep : step s i = some s') : Follows cfg s' := by
  obtain ⟨rfl, h⟩ := h
  cases i with
  | icmpError stamp kind =>
    obtain rfl := Option.some.inj hstep
    exact ⟨rfl, h.congr rfl rfl rfl⟩
  | reply stamp =>
    obtain rfl := Option.some.inj hstep
    exact ⟨rfl, h.congr rfl (targetReachable_mark _ _) rfl⟩
  | sent n =>
    obtain rfl := Option.some.inj hstep
    exact ⟨rfl, h.congr rfl rfl rfl⟩
  | reload settings =>
    obtain rfl := Option.some.inj hstep
    exact ⟨rfl, h⟩
  | tick t =>
    obtain ⟨⟨-, hsampled, hopened, hnow⟩, hs'⟩ := Option.ite_none_right_eq_some.mp hstep
    obtain rfl := Option.some.inj hs'
    have hclock : s.clock ≤ t.opened := hsampled.trans hopened
    have hdns : FollowsVerdicts s.cfg.label (target s.cfg) (.withProtocol s.cfg.label .udp) s.clock
        (if (probeUdpTarget s.literal t.resolved).addrs.isEmpty then s.record
          else reportDnsChange s.cfg.label s.cfg.remoteHost s.record
            (probeUdpTarget s.literal t.resolved).addrs) := by
      split
      · exact h
      · exact h.reportDnsChange _ _ _
    refine ⟨rfl, hdns.observe (tickVerdict s t) ?_ ?_ ?_ (hclock.trans hnow)⟩
    all_goals
      rcases readings_tickVerdict s t with hr | hr | hr <;> rw [hr]
      all_goals simp [tick]
      all_goals omega
  | cancel =>
    obtain rfl := Option.some.inj hstep
    exact ⟨rfl, h⟩

/-- Every run of the UDP monitor records a sequence of verdicts, taken at a clock that never goes
back. -/
theorem run_follows_verdicts {cfg : ForwarderConfig} {literal : Bool} {knobs : RuntimeKnobs}
    {is : List Input} {s : State} (h : run step (init cfg literal knobs) is = some s) :
    FollowsVerdicts cfg.label (target cfg) (.withProtocol cfg.label .udp) s.clock s.record :=
  (run_invariant (I := Follows cfg) follows_step ⟨rfl, followsVerdicts_fresh⟩ h).2

/-- A forwarder to a UDP target. -/
def demoCfg : ForwarderConfig :=
  { localHost := "localhost".toList, localPort := 53, remoteHost := "dns".toList, remotePort := 53,
    protocol := .udp }

/-- A tick at which the name resolves. -/
def demoTick (now : ℕ) : Tick :=
  { resolved := .ok [.new (.v4 0x0a000001) 53], sampled := now, opened := now, now := now }

/-- The monitor after a datagram was sent and drew an ICMP error one second in. -/
def demoState : State :=
  let s := init demoCfg false (demoKnobs 60)
  { s with record.stats :=
      (s.record.stats.addDatagramsSent 1).markUdpIcmpError 1000 .portUnreachable }

/-- Ticks without any traffic, and one more ICMP error. -/
def demoSilence : List Input :=
  [.tick (demoTick (secs 60)), .icmpError ⟨70000, by decide⟩ .portUnreachable,
    .tick (demoTick (secs 900)), .tick (demoTick (secs 9000))]

/-- A target that answered with an ICMP error and then fell silent stays down. -/
theorem recovery_needs_evidence_demo :
    run step (init demoCfg false (demoKnobs 60))
        [.sent 1, .icmpError ⟨1000, by decide⟩ .portUnreachable] = some demoState ∧
      verdictAt demoState (demoTick (secs 2)) = some (.down .portUnreachable 1000) ∧
      RunAll step NoRecovery (tick demoState (demoTick (secs 2))) demoSilence := by
  have hrun : run step (init demoCfg false (demoKnobs 60))
      [.sent 1, .icmpError ⟨1000, by decide⟩ .portUnreachable] = some demoState := rfl
  have hverdict : verdictAt demoState (demoTick (secs 2)) = some (.down .portUnreachable 1000) := by
    decide
  have htick : step demoState (.tick (demoTick (secs 2))) =
      some (tick demoState (demoTick (secs 2))) := by
    simp only [step]
    exact if_pos (by decide)
  have hlive : (run step (tick demoState (demoTick (secs 2))) demoSilence).isSome = true := by
    decide
  obtain ⟨s'', hs''⟩ := Option.isSome_iff_exists.mp hlive
  refine ⟨hrun, hverdict, ((recovery_needs_evidence _ _ _ _ _ hrun _ _ htick).2 _ hverdict
    (by decide) demoSilence s'' ?_ hs'').1⟩
  intro i hi
  simp only [demoSilence, List.mem_cons, List.not_mem_nil, or_false] at hi
  rcases hi with rfl | rfl | rfl | rfl
  · trivial
  · show demoState.record.stats.udpIcmpErrorMs < 70000
    decide
  · trivial
  · trivial

end Monitor.Udp

end Rfw
