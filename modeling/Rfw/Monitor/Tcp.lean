/-
# The monitor of a TCP target

`run_monitor` waits for its next tick (the interval, or a kick from a failed connection), decides
whether to probe the target, and records the verdict.  The probe is skipped while the target is
not known to be down and a real connection succeeded within the last interval: the iteration then
records the target as up without looking at it.

A failed connection wakes the monitor, but it does not take back the last success.  So the wake-up
can end in a skipped probe, and `heeded_iff_unsuppressed` says exactly when it does not.
-/
import Rfw.Lib.Transition
import Rfw.Monitor.Outage

namespace Rfw.Monitor.Tcp

open Lib

/-- `DOWN_PROBE_INTERVAL`. -/
def downProbeInterval : ℕ := secs 5

/-- `KICK_MIN_SPACING`. -/
def kickMinSpacing : ℕ := secs 1

/-- One resolve-and-connect attempt. -/
structure ProbeOutcome where
  addrs : List IpAddr
  result : Except Str SocketAddr
deriving Repr

/-- The outcome of a real connection. -/
inductive Outcome
  | ok
  | failed
deriving DecidableEq, Repr

/-- Where the loop of `run_monitor` is.  The interval is read at the top of the loop. -/
inductive Phase
  /-- In `wait_for_tick` since `start`. -/
  | waiting (interval start : ℕ)
  /-- Kicked, and keeping the minimum spacing until `wake`. -/
  | spacing (interval wake : ℕ)
  /-- In `probe_target`. -/
  | probing
  /-- The monitor returned. -/
  | stopped
deriving DecidableEq, Repr

/-- One iteration of the loop, as far as it has decided: the latest outcome of the data path
before it, and whether it probes the target.  An iteration that does not probe records the target
as up. -/
structure Iteration where
  latest : Option Outcome
  probed : Bool
deriving DecidableEq, Repr

/-- The monitor with everything it shares. -/
structure State where
  cfg : ForwarderConfig
  record : Record
  knobs : RuntimeKnobs
  lastProbe : Option ℕ
  phase : Phase
  clock : ℕ
  /-- The latest outcome of the data path. -/
  latest : Option Outcome
  /-- The iterations, latest first. -/
  iterations : List Iteration
deriving DecidableEq, Repr

/-- What can happen next. -/
inductive Input
  /-- A real connection succeeds. -/
  | connectOk (now : ℕ)
  /-- A real connection fails. -/
  | connectFailed
  /-- A hot-reload stores new knobs. -/
  | reload (settings : Settings)
  /-- The first iteration, which does not wait. -/
  | first (now : ℕ)
  /-- The interval has passed. -/
  | timer (now : ℕ)
  /-- The kick arrives. -/
  | kick (now : ℕ)
  /-- The spacing after a kick has passed. -/
  | spaced (now : ℕ)
  /-- The probe ends; `opened` and `now` are the clock readings of the verdict. -/
  | probed (outcome : ProbeOutcome) (opened now : ℕ)
  /-- The forwarder is stopped. -/
  | cancel

/-- A monitor at its start. -/
def init (cfg : ForwarderConfig) (stats : ForwarderStats) (knobs : RuntimeKnobs) : State where
  cfg := cfg
  record := { down := none, stats, alerts := [] }
  knobs := knobs
  lastProbe := none
  phase := .waiting (secs knobs.probeInterval) 0
  clock := 0
  latest := none
  iterations := []

/-- A connection that succeeded within the last interval, as the loop sees it. -/
def recentOk (s : State) (interval now : ℕ) : Bool :=
  match s.record.stats.lastConnectOkAge (elapsedMs now) with
  | none => false
  | some age => decide (age * 1000000 < interval)

/-- The part of an iteration up to the probe: skip it and record the target as up, or start it. -/
def decideProbe (s : State) (interval now : ℕ) : State :=
  if recentOk s interval now ∧ s.record.down = none then
    { s with
      lastProbe := some now
      clock := now
      record := recordUp s.cfg.label (target s.cfg) s.record none now
      phase := .waiting (secs s.knobs.probeInterval) now
      iterations := ⟨s.latest, false⟩ :: s.iterations }
  else
    { s with
      lastProbe := some now
      clock := now
      phase := .probing
      iterations := ⟨s.latest, true⟩ :: s.iterations }

/-- The verdict of a probe. -/
def recordProbe (s : State) (o : ProbeOutcome) (opened now : ℕ) : State :=
  let label := s.cfg.label
  let record :=
    if o.addrs.isEmpty then s.record else reportDnsChange label s.cfg.remoteHost s.record o.addrs
  let record := match o.result with
    | .ok address => recordUp label (target s.cfg) record (some address) now
    | .error e => recordDown label (target s.cfg) record e s.knobs opened now
  { s with record, clock := now, phase := .waiting (secs s.knobs.probeInterval) now }

/-- One step of the monitor or of what it shares. -/
def step (s : State) : Input → Option State
  | .connectOk now =>
      if s.clock ≤ now then
        let stats := s.record.stats.markConnectOk (elapsedMs now)
        some { s with record := { s.record with stats }, clock := now, latest := some .ok }
      else none
  | .connectFailed =>
      let stats := s.record.stats.markConnectFailed
      some { s with record := { s.record with stats }, latest := some .failed }
  | .reload settings => some { s with knobs := s.knobs.update settings }
  | .first now =>
      match s.phase, s.lastProbe with
      | .waiting interval _, none =>
          if s.clock ≤ now then some (decideProbe s interval now) else none
      | _, _ => none
  | .timer now =>
      match s.phase, s.lastProbe with
      | .waiting interval start, some _ =>
          let wait := if s.record.down.isSome then min interval downProbeInterval else interval
          if s.clock ≤ now ∧ start + wait ≤ now then some (decideProbe s interval now) else none
      | _, _ => none
  | .kick now =>
      match s.phase, s.lastProbe with
      | .waiting interval _, some previous =>
          if s.clock ≤ now ∧ s.record.stats.probeKick then
            let s' := { s with
              record := { s.record with stats := { s.record.stats with probeKick := false } } }
            let spacing := kickMinSpacing - (now - previous)
            if spacing = 0 then some (decideProbe s' interval now)
            else some { s' with clock := now, phase := .spacing interval (now + spacing) }
          else none
      | _, _ => none
  | .spaced now =>
      match s.phase with
      | .spacing interval wake =>
          if s.clock ≤ now ∧ wake ≤ now then some (decideProbe s interval now) else none
      | _ => none
  | .probed outcome opened now =>
      if s.phase = .probing ∧ s.clock ≤ opened ∧ opened ≤ now then
        some (recordProbe s outcome opened now)
      else none
  | .cancel => if s.phase = .stopped then none else some { s with phase := .stopped }

/-! ## What one step can do -/

/-- Everything that a step can do, one constructor for each branch of `step`. -/
inductive Move (s : State) : Input → State → Prop
  | connectOk (now : ℕ) (hclock : s.clock ≤ now) :
      Move s (.connectOk now)
        { s with
          record := { s.record with stats := s.record.stats.markConnectOk (elapsedMs now) }
          clock := now
          latest := some .ok }
  | connectFailed :
      Move s .connectFailed
        { s with
          record := { s.record with stats := s.record.stats.markConnectFailed }
          latest := some .failed }
  | reload (settings : Settings) :
      Move s (.reload settings) { s with knobs := s.knobs.update settings }
  | first (now interval start : ℕ) (hphase : s.phase = .waiting interval start)
      (hlast : s.lastProbe = none) (hclock : s.clock ≤ now) :
      Move s (.first now) (decideProbe s interval now)
  | timer (now interval start previous : ℕ) (hphase : s.phase = .waiting interval start)
      (hlast : s.lastProbe = some previous) (hclock : s.clock ≤ now)
      (hwait : start + (if s.record.down.isSome then min interval downProbeInterval else interval) ≤
        now) :
      Move s (.timer now) (decideProbe s interval now)
  | kicked (now interval start previous : ℕ) (hphase : s.phase = .waiting interval start)
      (hlast : s.lastProbe = some previous) (hclock : s.clock ≤ now)
      (hkick : s.record.stats.probeKick = true)
      (hspacing : kickMinSpacing - (now - previous) = 0) :
      Move s (.kick now)
        (decideProbe
          { s with record := { s.record with stats := { s.record.stats with probeKick := false } } }
          interval now)
  | kickedEarly (now interval start previous : ℕ) (hphase : s.phase = .waiting interval start)
      (hlast : s.lastProbe = some previous) (hclock : s.clock ≤ now)
      (hkick : s.record.stats.probeKick = true)
      (hspacing : ¬ kickMinSpacing - (now - previous) = 0) :
      Move s (.kick now)
        { s with
          record := { s.record with stats := { s.record.stats with probeKick := false } }
          clock := now
          phase := .spacing interval (now + (kickMinSpacing - (now - previous))) }
  | spaced (now interval wake : ℕ) (hphase : s.phase = .spacing interval wake)
      (hclock : s.clock ≤ now) (hwake : wake ≤ now) :
      Move s (.spaced now) (decideProbe s interval now)
  | probed (outcome : ProbeOutcome) (opened now : ℕ) (hphase : s.phase = .probing)
      (hopened : s.clock ≤ opened) (hnow : opened ≤ now) :
      Move s (.probed outcome opened now) (recordProbe s outcome opened now)
  | cancel (hphase : ¬ s.phase = .stopped) : Move s .cancel { s with phase := .stopped }

lemma move_of_step {s s' : State} {i : Input} (h : step s i = some s') : Move s i s' := by
  cases i with
  | connectOk now =>
    obtain ⟨hclock, hs'⟩ := Option.ite_none_right_eq_some.mp h
    obtain rfl := Option.some.inj hs'
    exact .connectOk now hclock
  | connectFailed =>
    obtain rfl := Option.some.inj h
    exact .connectFailed
  | reload settings =>
    obtain rfl := Option.some.inj h
    exact .reload settings
  | first now =>
    simp only [step] at h
    split at h
    · rename_i interval start hphase hlast
      obtain ⟨hclock, hs'⟩ := Option.ite_none_right_eq_some.mp h
      obtain rfl := Option.some.inj hs'
      exact .first now interval start hphase hlast hclock
    · cases h
  | timer now =>
    simp only [step] at h
    split at h
    · rename_i interval start previous hphase hlast
      obtain ⟨⟨hclock, hwait⟩, hs'⟩ := Option.ite_none_right_eq_some.mp h
      obtain rfl := Option.some.inj hs'
      exact .timer now interval start previous hphase hlast hclock hwait
    · cases h
  | kick now =>
    simp only [step] at h
    split at h
    · rename_i interval start previous hphase hlast
      obtain ⟨⟨hclock, hkick⟩, hs'⟩ := Option.ite_none_right_eq_some.mp h
      split at hs'
      · rename_i hspacing
        obtain rfl := Option.some.inj hs'
        exact .kicked now interval start previous hphase hlast hclock hkick hspacing
      · rename_i hspacing
        obtain rfl := Option.some.inj hs'
        exact .kickedEarly now interval start previous hphase hlast hclock hkick hspacing
    · cases h
  | spaced now =>
    simp only [step] at h
    split at h
    · rename_i interval wake hphase
      obtain ⟨⟨hclock, hwake⟩, hs'⟩ := Option.ite_none_right_eq_some.mp h
      obtain rfl := Option.some.inj hs'
      exact .spaced now interval wake hphase hclock hwake
    · cases h
  | probed outcome opened now =>
    obtain ⟨⟨hphase, hopened, hnow⟩, hs'⟩ := Option.ite_none_right_eq_some.mp h
    obtain rfl := Option.some.inj hs'
    exact .probed outcome opened now hphase hopened hnow
  | cancel =>
    obtain ⟨hphase, hs'⟩ := Option.ite_none_left_eq_some.mp h
    obtain rfl := Option.some.inj hs'
    exact .cancel hphase

/-! ## Failures are heeded -/

/-- Every iteration whose latest data-path outcome is a failure probes the target. -/
def Heeded (s : State) : Prop :=
  ∀ it ∈ s.iterations, it.latest = some .failed → it.probed = true

/-- The interval with which an input makes the loop decide, and the time of the decision. -/
def deciding (s : State) : Input → Option (ℕ × ℕ)
  | .first now | .timer now =>
      match s.phase with
      | .waiting interval _ => some (interval, now)
      | _ => none
  | .kick now =>
      match s.phase, s.lastProbe with
      | .waiting interval _, some previous =>
          if kickMinSpacing - (now - previous) = 0 then some (interval, now) else none
      | _, _ => none
  | .spaced now =>
      match s.phase with
      | .spacing interval _ => some (interval, now)
      | _ => none
  | _ => none

/-- When an iteration decides after a failure, an outage is open already, or no success is on
record, or the last success is at least one interval old. -/
def Unsuppressed (s : State) (i : Input) : Prop :=
  ∀ interval now, deciding s i = some (interval, now) → s.latest = some .failed →
    s.record.down.isSome ∨ recentOk s interval now = false

/-- A decision keeps the failures heeded exactly when no recent success suppresses the probe. -/
lemma heeded_decideProbe (s : State) (interval now : ℕ) :
    Heeded (decideProbe s interval now) ↔
      Heeded s ∧ (s.latest = some .failed →
        s.record.down.isSome ∨ recentOk s interval now = false) := by
  simp only [decideProbe]
  split
  · rename_i hskip
    obtain ⟨hrecent, hdown⟩ := hskip
    simp only [Heeded, List.forall_mem_cons, hrecent, hdown]
    constructor
    · rintro ⟨hlatest, hrest⟩
      exact ⟨hrest, fun h => absurd (hlatest h) (by simp)⟩
    · rintro ⟨hrest, hlatest⟩
      exact ⟨fun h => by simpa using hlatest h, hrest⟩
  · rename_i hprobe
    simp only [Heeded, List.forall_mem_cons, implies_true, true_and]
    refine ⟨fun hrest => ⟨hrest, fun _ => ?_⟩, And.left⟩
    rcases hd : s.record.down with _ | d
    · right
      simpa [hd] using hprobe
    · left
      rfl

/-- A step that does not decide leaves the iterations alone. -/
lemma heeded_of_not_deciding {s s' : State} {i : Input} (hi : s'.iterations = s.iterations)
    (hd : deciding s i = none) : Heeded s' ↔ Heeded s ∧ Unsuppressed s i := by
  simp [Heeded, Unsuppressed, hi, hd]

/-- A step that decides. -/
lemma heeded_of_deciding {s : State} {i : Input} {interval now : ℕ}
    (hd : deciding s i = some (interval, now)) :
    Heeded (decideProbe s interval now) ↔ Heeded s ∧ Unsuppressed s i := by
  rw [heeded_decideProbe]
  simp [Unsuppressed, hd]

lemma heeded_step (s : State) (i : Input) (s' : State) (_ : True) (h : step s i = some s') :
    True ∧ (Heeded s' ↔ Heeded s ∧ Unsuppressed s i) := by
  refine ⟨trivial, ?_⟩
  cases move_of_step h with
  | connectOk | connectFailed | reload | probed | cancel => exact heeded_of_not_deciding rfl rfl
  | first now interval start hphase => exact heeded_of_deciding (by simp [deciding, hphase])
  | timer now interval start previous hphase =>
    exact heeded_of_deciding (by simp [deciding, hphase])
  | kicked now interval start previous hphase hlast _ _ hspacing =>
    -- taking the permit changes nothing that the decision reads
    rw [heeded_decideProbe]
    simp [Unsuppressed, deciding, hphase, hlast, hspacing, Heeded, recentOk,
      ForwarderStats.lastConnectOkAge]
  | kickedEarly now interval start previous hphase hlast _ _ hspacing =>
    exact heeded_of_not_deciding rfl (by simp [deciding, hphase, hlast, hspacing])
  | spaced now interval wake hphase => exact heeded_of_deciding (by simp [deciding, hphase])

/-- **When a client-visible failure is heeded.**  In every run of the monitor, all iterations
whose latest data-path outcome is a failure probe the target if and only if, at each of them, an
outage is open already or the last recorded success is at least one interval old. -/
theorem heeded_iff_unsuppressed (cfg : ForwarderConfig) (stats : ForwarderStats)
    (knobs : RuntimeKnobs) (is : List Input) (s : State)
    (h : Lib.run step (init cfg stats knobs) is = some s) :
    Heeded s ↔ Lib.RunAll step Unsuppressed (init cfg stats knobs) is := by
  rw [Lib.run_iff_runAll (I := fun _ => True) heeded_step trivial h]
  exact and_iff_right (by simp [Heeded, init])

/-- A monitor that has just been started, with the default settings. -/
def started : State :=
  let cfg : ForwarderConfig := ⟨"localhost".toList, 8080, "db".toList, 80, .tcp⟩
  init cfg (.withProtocol cfg.label .tcp) (.fromSettings .default)

/-- A target that dies under a busy forwarder: the first probe succeeds, so does a connection one
second later, and the next connection fails and kicks the monitor after another half a second. -/
def dyingTarget : List Input :=
  [.first 0, .probed ⟨[], .ok (.v4 0 80)⟩ 0 0, .connectOk (secs 1), .connectFailed,
    .kick 1500000000]

/-- The failure that kicked the monitor ends in a skipped probe. -/
theorem ignored_dyingTarget :
    ∃ s, Lib.run step started dyingTarget = some s ∧ ¬ Heeded s ∧
      s.record.stats.targetReachable = some true := by
  have hrun : (Lib.run step started dyingTarget).map
      (fun s => (s.iterations, s.record.stats.targetReachable)) =
        some ([⟨some .failed, false⟩, ⟨none, true⟩], some true) := by decide +kernel
  obtain ⟨s, hs, hend⟩ := Option.map_eq_some_iff.mp hrun
  obtain ⟨hiterations, hreachable⟩ := Prod.mk.inj hend
  exact ⟨s, hs, by simp [Heeded, hiterations], hreachable⟩

/-- The same failure one interval after the last success is heeded. -/
theorem heeded_failureAfterInterval :
    ∃ s, Lib.run step started [.connectOk 0, .first 0, .connectFailed, .kick (secs 30)] =
        some s ∧ Heeded s ∧
      Lib.RunAll step Unsuppressed started
        [.connectOk 0, .first 0, .connectFailed, .kick (secs 30)] := by
  have hrun : (Lib.run step started
      [.connectOk 0, .first 0, .connectFailed, .kick (secs 30)]).map State.iterations =
        some [⟨some .failed, true⟩, ⟨some .ok, false⟩] := by decide +kernel
  obtain ⟨s, hs, hiterations⟩ := Option.map_eq_some_iff.mp hrun
  have hheeded : Heeded s := by simp [Heeded, hiterations]
  exact ⟨s, hs, hheeded, (heeded_iff_unsuppressed _ _ _ _ s hs).mp hheeded⟩

end Rfw.Monitor.Tcp
