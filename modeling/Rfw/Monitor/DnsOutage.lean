/-
# Outages of the name resolution

A UDP target also counts as down while its name does not resolve.  Such an outage is recorded like
one that an ICMP error causes, and ends like one: when the name resolves again, the passive verdict
decides.  With an old ICMP error on record and no traffic since the previous tick that verdict is
"hold", and so the outage stays open although its cause is gone.

`dns_outage_ends_iff` says at which ticks it ends.
-/
import Rfw.Monitor.Udp

namespace Rfw.Monitor.Udp

open Lib

/-- The name does not resolve at a tick. -/
def Unresolved (s : State) (i : Input) : Prop := ∀ t, i = .tick t → ¬ Resolves s t

/-- The outage ends: the gauge shows true, and if the outage had alerted, the recovery is raised. -/
def Ends (s s' : State) : Prop :=
  s'.record.stats.targetReachable = some true ∧
    ∀ d, s.record.down = some d → d.alerted = true → ∃ downFor address new,
      s'.record.alerts = .targetRecovered s.cfg.label (target s.cfg) downFor address ::
        (new ++ s.record.alerts)

/-- Before a tick, the old ICMP error does not stand against the target: there is none, or a reply
is not older, or it is three seconds old and datagrams were sent since the previous tick. -/
def Cleared (s : State) (t : Tick) : Prop :=
  s.record.stats.udpIcmpErrorMs = neverMs ∨ RepliedSince s ∨
    (3000 ≤ elapsedMs t.sampled - s.record.stats.udpIcmpErrorMs ∧
      ∃ prev, s.prev = some prev ∧ prev.sent < s.record.stats.datagramsSent)

/-- What holds after every run: the kind of a recorded ICMP error is known. -/
def KindKnown (s : State) : Prop :=
  s.record.stats.udpIcmpErrorMs ≠ neverMs → s.record.stats.udpIcmpKind.isSome

/-- The sample of the previous tick saw the ICMP error that is on record. -/
def SeenError (s : State) : Prop :=
  ∃ prev nowMs, s.prev = some prev ∧ prev.icmp = (s.record.stats.udpSample nowMs).icmp

/-! ## Inputs without ICMP errors -/

section Step

variable {s s' : State} {i : Input}

/-- What an input that is neither a tick nor an ICMP error leaves alone. -/
lemma step_of_data (hstep : step s i = some s') (hicmp : i.isIcmpError = false)
    (htick : ∀ t, i ≠ .tick t) :
    s'.prev = s.prev ∧ s'.record.stats.udpIcmpErrorMs = s.record.stats.udpIcmpErrorMs ∧
      s'.record.stats.udpIcmpKind = s.record.stats.udpIcmpKind ∧
      s'.record.stats.targetReachable = s.record.stats.targetReachable := by
  cases i with
  | icmpError stamp kind => cases hicmp
  | tick t => exact absurd rfl (htick t)
  | reply stamp =>
    obtain rfl := Option.some.inj hstep
    exact ⟨rfl, udpIcmpErrorMs_mark _ _, udpIcmpKind_mark _ _, targetReachable_mark _ _⟩
  | sent n =>
    obtain rfl := Option.some.inj hstep
    exact ⟨rfl, rfl, rfl, rfl⟩
  | reload settings =>
    obtain rfl := Option.some.inj hstep
    exact ⟨rfl, rfl, rfl, rfl⟩
  | cancel =>
    obtain rfl := Option.some.inj hstep
    exact ⟨rfl, rfl, rfl, rfl⟩

lemma eq_tick_of_step {t : Tick} (hstep : step s (.tick t) = some s') : s' = tick s t := by
  obtain ⟨-, hs'⟩ := Option.ite_none_right_eq_some.mp hstep
  exact (Option.some.inj hs').symm

lemma kindKnown_step (s : State) (i : Input) (s' : State) (h : KindKnown s)
    (hstep : step s i = some s') : KindKnown s' := by
  cases i with
  | icmpError stamp kind =>
    obtain rfl := Option.some.inj hstep
    exact fun _ => rfl
  | tick t =>
    obtain rfl := eq_tick_of_step hstep
    obtain ⟨-, hms, hkind, -, -⟩ := tick_stats s t
    rw [KindKnown, hms, hkind]
    exact h
  | reply | sent | reload | cancel =>
    obtain ⟨-, hms, hkind, -⟩ := step_of_data hstep rfl (fun t ht => by cases ht)
    rw [KindKnown, hms, hkind]
    exact h

/-- The ICMP error of a sample is the one on record. -/
lemma udpSample_icmp_congr {a b : ForwarderStats} (hms : a.udpIcmpErrorMs = b.udpIcmpErrorMs)
    (hkind : a.udpIcmpKind = b.udpIcmpKind) (m n : ℕ) :
    (a.udpSample m).icmp = (b.udpSample n).icmp := by
  simp only [ForwarderStats.udpSample, hms, hkind]

/-- A tick leaves a sample of the error that is on record. -/
lemma seenError_tick (s : State) (t : Tick) : SeenError (tick s t) := by
  obtain ⟨-, hms, hkind, -, -⟩ := tick_stats s t
  exact ⟨sampleAt s t, 0, rfl, udpSample_icmp_congr hms.symm hkind.symm _ _⟩

lemma seenError_step (h : SeenError s) (hstep : step s i = some s')
    (hicmp : i.isIcmpError = false) : SeenError s' := by
  cases i with
  | icmpError stamp kind => cases hicmp
  | tick t =>
    obtain rfl := eq_tick_of_step hstep
    exact seenError_tick s t
  | reply | sent | reload | cancel =>
    obtain ⟨hprev, hms, hkind, -⟩ := step_of_data hstep rfl (fun t ht => by cases ht)
    obtain ⟨prev, nowMs, hp, hsample⟩ := h
    refine ⟨prev, nowMs, hprev.trans hp, hsample.trans ?_⟩
    exact udpSample_icmp_congr hms.symm hkind.symm _ _

/-- A tick at which the name does not resolve turns the gauge to false. -/
lemma gauge_tick_of_unresolved {t : Tick} (h : ¬ Resolves s t) :
    (tick s t).record.stats.targetReachable = some false := by
  rw [(tick_stats s t).1]
  cases hresult : (probeUdpTarget s.literal t.resolved).result with
  | error e =>
    simp only [tickVerdict, hresult]
    rfl
  | ok addr => exact absurd ⟨addr, hresult⟩ h

lemma gauge_step (h : s.record.stats.targetReachable = some false) (hstep : step s i = some s')
    (hicmp : i.isIcmpError = false) (hun : Unresolved s i) :
    s'.record.stats.targetReachable = some false := by
  cases i with
  | icmpError stamp kind => cases hicmp
  | tick t =>
    obtain rfl := eq_tick_of_step hstep
    exact gauge_tick_of_unresolved (hun t rfl)
  | reply | sent | reload | cancel =>
    obtain ⟨-, -, -, hgauge⟩ := step_of_data hstep rfl (fun t ht => by cases ht)
    exact hgauge.trans h

end Step

/-! ## A stretch of ticks that do not resolve -/

/-- While the name does not resolve and no ICMP error comes, the previous sample keeps showing the
error on record, and after the first tick the gauge shows false. -/
lemma unresolved_run {mid : List Input} {s s' : State} (hseen : SeenError s)
    (hicmp : ∀ i ∈ mid, i.isIcmpError = false) (hun : RunAll step Unresolved s mid)
    (hrun : run step s mid = some s') :
    SeenError s' ∧
      ((s.record.stats.targetReachable = some false ∨ ∃ t, Input.tick t ∈ mid) →
        s'.record.stats.targetReachable = some false) := by
  induction mid generalizing s with
  | nil =>
    obtain rfl : s = s' := by simpa using hrun
    refine ⟨hseen, ?_⟩
    rintro (h | ⟨t, ht⟩)
    · exact h
    · cases ht
  | cons i mid ih =>
    obtain ⟨m, hm, hrest⟩ := run_cons_eq_some.mp hrun
    obtain ⟨hi, hmid⟩ := List.forall_mem_cons.mp hicmp
    obtain ⟨hseen', hgauge⟩ := ih (seenError_step hseen hm hi) hmid (hun.2 m hm) hrest
    refine ⟨hseen', ?_⟩
    rintro (h | ⟨t, ht⟩)
    · exact hgauge (.inl (gauge_step h hm hi hun.1))
    · obtain rfl | ht := List.mem_cons.mp ht
      · obtain rfl := eq_tick_of_step hm
        exact hgauge (.inl (gauge_tick_of_unresolved (hun.1 t rfl)))
      · exact hgauge (.inr ⟨t, ht⟩)

/-- The passive verdict at a tick that finds the error of the previous sample still on record. -/
lemma up_iff_cleared {s : State} {t : Tick} (hknown : KindKnown s) (hseen : SeenError s) :
    udpVerdict (sampleAt s t) s.prev = .up ↔ Cleared s t := by
  by_cases herror : HasError s.record.stats
  · rw [up_iff_evidence herror, Cleared]
    have hnever := herror.recorded
    have hquiet : SendsQuietly s t ↔
        3000 ≤ elapsedMs t.sampled - s.record.stats.udpIcmpErrorMs ∧
          ∃ prev, s.prev = some prev ∧ prev.sent < s.record.stats.datagramsSent := by
      constructor
      · rintro ⟨prev, hprev, -, hage, hsent⟩
        exact ⟨hage, prev, hprev, hsent⟩
      · rintro ⟨hage, prev, hprev, hsent⟩
        obtain ⟨prev', nowMs, hprev', hsample⟩ := hseen
        obtain rfl : prev = prev' := Option.some.inj (hprev.symm.trans hprev')
        obtain ⟨kind, hicmp⟩ := udpSample_icmp herror nowMs
        exact ⟨prev, hprev, by rw [hsample, hicmp]; rfl, hage, hsent⟩
    rw [hquiet, or_iff_right hnever]
  · have hnever : s.record.stats.udpIcmpErrorMs = neverMs := by
      by_contra hne
      exact herror ⟨hne, hknown hne⟩
    exact iff_of_true (up_of_not_hasError herror t) (.inl hnever)

/-- A tick that records an "up" ends the outage. -/
lemma ends_of_up {s : State} {t : Tick} (h : (tickVerdict s t).reachable = some true) :
    Ends s (tick s t) := by
  obtain ⟨r, hr, hdown, -, new, hnew, -⟩ := tick_record s t
  cases hv : tickVerdict s t with
  | down error knobs opened now =>
    rw [hv] at h
    cases h
  | hold =>
    rw [hv] at h
    cases h
  | up address now =>
    rw [hv] at hr
    obtain ⟨-, hgauge, halerts⟩ := observe_up s.cfg.label (target s.cfg) r address now
    rw [Ends, hr]
    refine ⟨hgauge, fun d hd halerted => ?_⟩
    rw [← hdown] at hd
    obtain ⟨d', hd', -, hrecovered⟩ | ⟨hquiet, -⟩ := halerts
    · exact ⟨now - d'.since, address, new, by rw [hrecovered, hnew]⟩
    · have hfalse := hquiet d hd
      rw [halerted] at hfalse
      cases hfalse

/-- **When an outage of the name resolution ends.**  In every run, let a tick record the target up,
let no ICMP error come after it, let one or more ticks follow at which the name does not resolve,
and then one at which it does.  This last tick ends the outage exactly when the ICMP error that may
be on record does not stand against the target. -/
theorem dns_outage_ends_iff (cfg : ForwarderConfig) (literal : Bool) (knobs : RuntimeKnobs)
    (before mid : List Input) (sj sj' sk s' : State) (tj tk : Tick)
    (hbefore : run step (init cfg literal knobs) before = some sj)
    (hj : step sj (.tick tj) = some sj') (_hup : SetsReachable sj tj)
    (hmid : run step sj' mid = some sk) (hicmp : ∀ i ∈ mid, i.isIcmpError = false)
    (hunresolved : RunAll step Unresolved sj' mid) (hticks : ∃ t, Input.tick t ∈ mid)
    (hk : step sk (.tick tk) = some s') (hresolves : Resolves sk tk) :
    Ends sk s' ↔ Cleared sk tk := by
  obtain rfl := eq_tick_of_step hj
  obtain rfl := eq_tick_of_step hk
  have hknown : KindKnown sk := by
    have hinit : KindKnown (init cfg literal knobs) := fun h => absurd rfl h
    have hbefore' := run_invariant kindKnown_step hinit hbefore
    exact run_invariant kindKnown_step (kindKnown_step _ _ _ hbefore' hj) hmid
  obtain ⟨hseen, hgauge⟩ := unresolved_run (seenError_tick sj tj) hicmp hunresolved hmid
  have hfalse := hgauge (.inr hticks)
  rw [← up_iff_cleared hknown hseen]
  constructor
  · -- the gauge showed false, so it is this tick that turned it
    rintro ⟨htrue, -⟩
    rw [(tick_stats sk tk).1, hfalse] at htrue
    have hup : (tickVerdict sk tk).reachable = some true := by
      cases hv : (tickVerdict sk tk).reachable with
      | none =>
        rw [hv] at htrue
        cases htrue
      | some b =>
        rw [hv] at htrue
        exact htrue
    exact (tickVerdict_up_iff.mp hup).2
  · intro hup
    exact ends_of_up (tickVerdict_up_iff.mpr ⟨hresolves, hup⟩)

/-- A tick at which the name does not resolve. -/
def failedTick (now : ℕ) : Tick :=
  { resolved := .error "no such host".toList, sampled := now, opened := now, now := now }

/-- An ICMP error one second in, that traffic has shown to be over by the tick at ten seconds. -/
def oldError : List Input :=
  [.sent 1, .icmpError ⟨1000, by decide⟩ .portUnreachable, .tick (demoTick (secs 2)), .sent 1]

/-- The monitor after some inputs. -/
def after (is : List Input) : State :=
  (run step (init demoCfg false (demoKnobs 60)) is).getD (init demoCfg false (demoKnobs 60))

lemma resolves_demoTick (s : State) (now : ℕ) : Resolves s (demoTick now) := ⟨_, rfl⟩

lemma unresolved_failedTick (s : State) (now : ℕ) : Unresolved s (.tick (failedTick now)) := by
  intro t ht
  obtain rfl := Input.tick.inj ht
  rintro ⟨addr, haddr⟩
  cases haddr

lemma unresolved_sent (s : State) (n : ℕ) : Unresolved s (.sent n) := by
  intro t ht
  cases ht

/-- The monitor before and after the tick at which the name resolves again, with one datagram sent
since the tick before it. -/
def openOutage : State :=
  after (oldError ++ [.tick (demoTick (secs 10)), .tick (failedTick (secs 15)), .sent 1])

def endedOutage : State :=
  after (oldError ++ [.tick (demoTick (secs 10)), .tick (failedTick (secs 15)), .sent 1,
    .tick (demoTick (secs 20))])

lemma cleared_openOutage : Cleared openOutage (demoTick (secs 20)) := by
  have hage : 3000 ≤ elapsedMs (demoTick (secs 20)).sampled -
      openOutage.record.stats.udpIcmpErrorMs := by decide
  have hsent : (openOutage.prev.any fun p =>
      decide (p.sent < openOutage.record.stats.datagramsSent)) = true := by decide
  obtain ⟨prev, hprev, hlt⟩ := (Option.any_eq_true _ _).mp hsent
  exact Or.inr (Or.inr ⟨hage, prev, hprev, of_decide_eq_true hlt⟩)

theorem dns_outage_ends_iff_demo : Ends openOutage endedOutage := by
  have hup : SetsReachable (after oldError) (demoTick (secs 10)) := by
    unfold SetsReachable
    decide
  have hiff := dns_outage_ends_iff demoCfg false (demoKnobs 60) oldError
    [.tick (failedTick (secs 15)), .sent 1] (after oldError)
    (after (oldError ++ [.tick (demoTick (secs 10))])) openOutage endedOutage
    (demoTick (secs 10)) (demoTick (secs 20)) (by decide) (by decide) hup (by decide) (by decide)
    ⟨unresolved_failedTick _ _, fun s _ => ⟨unresolved_sent s 1, fun _ _ => trivial⟩⟩
    ⟨_, List.mem_cons_self⟩ (by decide) (resolves_demoTick _ _)
  exact hiff.mpr cleared_openOutage

/-- The same without the datagram. -/
def silentOutage : State :=
  after (oldError ++ [.tick (demoTick (secs 10)), .tick (failedTick (secs 15))])

def stillOpenOutage : State :=
  after (oldError ++ [.tick (demoTick (secs 10)), .tick (failedTick (secs 15)),
    .tick (demoTick (secs 20))])

/-- Without traffic the outage stays open, although the name resolves again and no ICMP error
came. -/
theorem dns_outage_stays_open :
    ¬ ∀ (cfg : ForwarderConfig) (literal : Bool) (knobs : RuntimeKnobs) (before mid : List Input)
      (sj sj' sk s' : State) (tj tk : Tick),
      run step (init cfg literal knobs) before = some sj → step sj (.tick tj) = some sj' →
        SetsReachable sj tj → run step sj' mid = some sk → (∀ i ∈ mid, i.isIcmpError = false) →
        RunAll step Unresolved sj' mid → (∃ t, Input.tick t ∈ mid) →
        step sk (.tick tk) = some s' → Resolves sk tk → Ends sk s' := by
  intro hall
  have hup : SetsReachable (after oldError) (demoTick (secs 10)) := by
    unfold SetsReachable
    decide
  have hends := hall demoCfg false (demoKnobs 60) oldError [.tick (failedTick (secs 15))]
    (after oldError) (after (oldError ++ [.tick (demoTick (secs 10))])) silentOutage
    stillOpenOutage (demoTick (secs 10)) (demoTick (secs 20)) (by decide) (by decide) hup
    (by decide) (by decide) ⟨unresolved_failedTick _ _, fun _ _ => trivial⟩
    ⟨_, List.mem_cons_self⟩ (by decide) (resolves_demoTick _ _)
  have hgauge : stillOpenOutage.record.stats.targetReachable = some false := by decide
  rw [hends.1] at hgauge
  cases hgauge

end Rfw.Monitor.Udp
