/-
# Shutdown against a concurrent reload

`main` cancels the config watcher and calls `shutdown_all`, but the watcher looks at its token only
between reloads, and nothing waits for it.  So `shutdown_all` can run while a `sync` is under way.
It takes the handles that are in the map when it drains it; `start_one` checks the map only, and a
forwarder that it starts after the drain stays.

`shutdown_wins_iff` says exactly which interleavings end with an empty map and an empty registry:
those in which `sync` has nothing left to start when the map is drained.
-/
import Rfw.Manager.Sections

namespace Rfw

open Lib

namespace Sections

/-- The forwarders that a call of `sync` has not inserted yet. -/
def SyncPhase.pending : SyncPhase → List ForwarderConfig
  | snapshot configs => configs
  | stopping _ configs => configs
  | reaping _ _ configs => configs
  | starting configs => configs
  | registering cfg configs => cfg :: configs
  | registeringMonitor cfg configs => cfg :: configs
  | inserting cfg configs => cfg :: configs
  | done => []

/-- The labels whose stats entry a call of `sync` is about to remove or to give a forwarder. -/
def SyncPhase.owed : SyncPhase → List Str
  | reaping label _ _ => [label]
  | registering cfg _ => [cfg.label]
  | registeringMonitor cfg _ => [cfg.label]
  | inserting cfg _ => [cfg.label]
  | _ => []

/-- The labels whose stats entry `shutdown_all` is about to remove. -/
def ShutdownPhase.owed : ShutdownPhase → List Str
  | reaping labels => labels
  | _ => []

/-- `shutdown_all` has drained the map. -/
def ShutdownPhase.drained : ShutdownPhase → Bool
  | reaping _ | done => true
  | notCalled | drain => false

/-- A call of `sync` has not entered its start loop. -/
def SyncPhase.beforeStarts : SyncPhase → Bool
  | snapshot _ | stopping _ _ | reaping _ _ _ => true
  | _ => false

/-- The condition on an interleaving: when `shutdown_all` drains the map, `sync` has nothing left
to start. -/
def DrainsLast (s : State) (i : Input) : Prop :=
  ∀ order, i = .shutdown order → s.shutdown = .drain → s.sync.pending = []

/-! ## No stats without a forwarder -/

/-- Every entry of the registry has its forwarder, or one of the calls takes care of it. -/
def NoOrphans (s : State) : Prop :=
  ∀ l ∈ registryLabels s.manager.statsRegistry,
    l ∈ s.manager.runningLabels ∨ l ∈ s.sync.owed ∨ l ∈ s.shutdown.owed

lemma noOrphans_syncMove {m m' : Manager} {phase phase' : SyncPhase} {owed : List Str}
    (h : ∀ l ∈ registryLabels m.statsRegistry, l ∈ m.runningLabels ∨ l ∈ phase.owed ∨ l ∈ owed)
    (hmove : SyncMove m phase m' phase') :
    ∀ l ∈ registryLabels m'.statsRegistry, l ∈ m'.runningLabels ∨ l ∈ phase'.owed ∨ l ∈ owed := by
  cases hmove with
  | snapshot | stopped | missing | started | skipped => exact h
  | taken label labels configs hd _ =>
    intro l hl
    by_cases heq : l = label
    · exact Or.inr (Or.inl (List.mem_singleton.mpr heq))
    · rcases h l hl with hrun | howed | howed
      · exact Or.inl (Table.mem_keys_erase.mpr ⟨heq, hrun⟩)
      · cases howed
      · exact Or.inr (Or.inr howed)
  | reaped label labels configs =>
    intro l hl
    obtain ⟨hreg, hne⟩ := mem_registryLabels_remove.mp hl
    rcases h l hreg with hrun | howed | howed
    · exact Or.inl hrun
    · exact absurd (List.mem_singleton.mp howed) hne
    · exact Or.inr (Or.inr howed)
  | checked cfg configs _ =>
    intro l hl
    rcases h l hl with hrun | howed | howed
    · exact Or.inl hrun
    · cases howed
    · exact Or.inr (Or.inr howed)
  | registered cfg configs | registeredMonitor cfg configs =>
    intro l hl
    rcases mem_registryLabels_register.mp hl with hl | rfl
    · exact h l hl
    · exact Or.inr (Or.inl (List.mem_singleton_self _))
  | inserted cfg configs =>
    intro l hl
    rcases h l hl with hrun | howed | howed
    · exact Or.inl (Table.mem_keys_insert.mpr (Or.inr hrun))
    · exact Or.inl (Table.mem_keys_insert.mpr (Or.inl (List.mem_singleton.mp howed)))
    · exact Or.inr (Or.inr howed)

lemma noOrphans_shutdownMove {m m' : Manager} {phase phase' : ShutdownPhase} {owed : List Str}
    (h : ∀ l ∈ registryLabels m.statsRegistry, l ∈ m.runningLabels ∨ l ∈ owed ∨ l ∈ phase.owed)
    (hmove : ShutdownMove m phase m' phase') :
    ∀ l ∈ registryLabels m'.statsRegistry, l ∈ m'.runningLabels ∨ l ∈ owed ∨ l ∈ phase'.owed := by
  cases hmove with
  | drained order horder =>
    -- what ran is now to be reaped
    intro l hl
    rcases h l hl with hrun | howed | howed
    · exact Or.inr (Or.inr (horder.mem_iff.mpr hrun))
    · exact Or.inr (Or.inl howed)
    · cases howed
  | reaped label labels =>
    intro l hl
    obtain ⟨hreg, hne⟩ := mem_registryLabels_remove.mp hl
    rcases h l hreg with hrun | howed | howed
    · exact Or.inl hrun
    · exact Or.inr (Or.inl howed)
    · rcases List.mem_cons.mp howed with heq | howed
      · exact absurd heq hne
      · exact Or.inr (Or.inr howed)
  | returned => exact h

lemma noOrphans_step (s : State) (i : Input) (s' : State) (h : NoOrphans s)
    (hstep : step s i = some s') : NoOrphans s' := by
  cases i with
  | sync order =>
    obtain ⟨⟨m', phase'⟩, hsync, rfl⟩ := Option.map_eq_some_iff.mp hstep
    exact noOrphans_syncMove h (move_of_syncStep hsync)
  | shutdown order =>
    obtain ⟨⟨m', phase'⟩, hshutdown, rfl⟩ := Option.map_eq_some_iff.mp hstep
    exact noOrphans_shutdownMove h (move_of_shutdownStep hshutdown)

lemma noOrphans_startOne {m : Manager} (h : ∀ l ∈ registryLabels m.statsRegistry,
    l ∈ m.runningLabels) (cfg : ForwarderConfig) :
    ∀ l ∈ registryLabels (m.startOne cfg).statsRegistry, l ∈ (m.startOne cfg).runningLabels := by
  intro l hl
  rw [Manager.mem_runningLabels_startOne]
  simp only [Manager.startOne] at hl
  split at hl
  · exact Or.inr (h l hl)
  · rcases mem_registryLabels_register.mp hl with hl | rfl
    · exact Or.inr (h l hl)
    · exact Or.inl rfl

lemma noOrphans_startAll {m : Manager} (h : ∀ l ∈ registryLabels m.statsRegistry,
    l ∈ m.runningLabels) (configs : List ForwarderConfig) :
    ∀ l ∈ registryLabels (m.startAll configs).statsRegistry,
      l ∈ (m.startAll configs).runningLabels := by
  induction configs generalizing m with
  | nil => exact h
  | cons cfg configs ih => exact ih (noOrphans_startOne h cfg)

/-- No manager that is reached has stats without a forwarder. -/
lemma Reached.noOrphans {ok : List ForwarderConfig → Prop} {m : Manager}
    {configs : List ForwarderConfig} (h : Reached ok m configs) :
    ∀ l ∈ registryLabels m.statsRegistry, l ∈ m.runningLabels := by
  induction h with
  | start settings configs _ => exact noOrphans_startAll (m := Manager.new settings) nofun configs
  | updateKnobs settings _ ih => exact ih
  | sync _ _ hrun hdone ih =>
    have hend := run_invariant (I := fun s => s.shutdown = .notCalled ∧ NoOrphans s)
      (fun s i s' hs hstep =>
        ⟨(move_of_step_notCalled hs.1 hstep).1, noOrphans_step s i s' hs.2 hstep⟩)
      ⟨rfl, fun l hl => Or.inl (ih l hl)⟩ hrun
    intro l hl
    rcases hend.2 l hl with hrunning | howed | howed
    · exact hrunning
    · rw [hdone] at howed
      cases howed
    · rw [hend.1] at howed
      cases howed

/-! ## Nothing comes back after the drain -/

/-- After the drain the map is empty until `sync` enters its start loop. -/
def EmptyBeforeStarts (s : State) : Prop :=
  s.shutdown.drained = true → s.sync.beforeStarts = true → s.manager.runningLabels = []

/-- After the drain nothing runs and nothing is left to start. -/
def StaysDown (s : State) : Prop :=
  s.shutdown.drained = true → s.sync.pending = [] ∧ s.manager.runningLabels = []

/-- A section of `sync` after the drain leaves what is down down, and what is not, not. -/
lemma staysDown_syncMove {m m' : Manager} {phase phase' : SyncPhase}
    (hempty : phase.beforeStarts = true → m.runningLabels = [])
    (hmove : SyncMove m phase m' phase') :
    (phase'.beforeStarts = true → m'.runningLabels = []) ∧
      (phase'.pending = [] ∧ m'.runningLabels = [] ↔
        phase.pending = [] ∧ m.runningLabels = []) := by
  cases hmove with
  | snapshot configs order _ =>
    -- the snapshot sees an empty map, so the whole list is to be started
    have hall : (configs.filter fun cfg => cfg.label ∉ m.runningLabels) = configs := by
      simp [hempty rfl]
    exact ⟨fun _ => hempty rfl, by rw [SyncPhase.pending, hall]; rfl⟩
  | stopped | started | checked | registered | registeredMonitor =>
    exact ⟨fun h => (Bool.false_ne_true h).elim, Iff.rfl⟩
  | missing | reaped => exact ⟨fun _ => hempty rfl, Iff.rfl⟩
  | taken label labels configs hd hsome =>
    -- nothing runs that could be taken out
    have hmem : label ∈ m.runningLabels := Table.mem_keys_iff.mpr ⟨hd, hsome⟩
    rw [hempty rfl] at hmem
    cases hmem
  | skipped cfg configs hrunning =>
    refine ⟨fun h => (Bool.false_ne_true h).elim, ⟨fun h => ?_, fun h => ?_⟩⟩
    · rw [h.2] at hrunning
      cases hrunning
    · cases h.1
  | inserted cfg configs =>
    refine ⟨fun h => (Bool.false_ne_true h).elim, ⟨fun h => ?_, fun h => ?_⟩⟩
    · have hmem : cfg.label ∈ (m.forwarders.insert cfg.label ⟨m.nextId, cfg⟩).keys :=
        Table.mem_keys_insert.mpr (Or.inl rfl)
      rw [show (m.forwarders.insert cfg.label ⟨m.nextId, cfg⟩).keys = [] from h.2] at hmem
      cases hmem
    · cases h.1

/-- A section of `shutdown_all` empties the map, or comes after the drain and leaves it alone. -/
lemma shutdownMove_drained {m m' : Manager} {phase phase' : ShutdownPhase}
    (hmove : ShutdownMove m phase m' phase') :
    phase'.drained = true ∧
      (phase = .drain ∧ m'.runningLabels = [] ∨
        phase.drained = true ∧ m'.runningLabels = m.runningLabels) := by
  cases hmove with
  | drained order _ => exact ⟨rfl, Or.inl ⟨rfl, rfl⟩⟩
  | reaped label labels => exact ⟨rfl, Or.inr ⟨rfl, rfl⟩⟩
  | returned => exact ⟨rfl, Or.inr ⟨rfl, rfl⟩⟩

lemma staysDown_step (s : State) (i : Input) (s' : State) (h : EmptyBeforeStarts s)
    (hstep : step s i = some s') :
    EmptyBeforeStarts s' ∧ (StaysDown s' ↔ StaysDown s ∧ DrainsLast s i) := by
  cases i with
  | sync order =>
    obtain ⟨⟨m', phase'⟩, hsync, rfl⟩ := Option.map_eq_some_iff.mp hstep
    have hlast : DrainsLast s (.sync order) := by
      intro order' heq
      cases heq
    by_cases hdrained : s.shutdown.drained = true
    · obtain ⟨hempty, hdown⟩ := staysDown_syncMove (h hdrained) (move_of_syncStep hsync)
      refine ⟨fun _ => hempty, ?_⟩
      simp only [StaysDown, hdrained, forall_const, hlast, and_true]
      exact hdown
    · refine ⟨fun hcon => absurd hcon hdrained, ?_⟩
      simp only [StaysDown, hdrained, Bool.false_eq_true, false_implies, hlast, and_true]
  | shutdown order =>
    obtain ⟨⟨m', phase'⟩, hshutdown, rfl⟩ := Option.map_eq_some_iff.mp hstep
    obtain ⟨hafter, ⟨hphase, hempty⟩ | ⟨hdrained, hsame⟩⟩ :=
      shutdownMove_drained (move_of_shutdownStep hshutdown)
    · -- the drain: what is left to start now will run
      have hdown : StaysDown s := by
        intro hcon
        rw [hphase] at hcon
        cases hcon
      refine ⟨fun _ _ => hempty, ?_⟩
      constructor
      · intro hstays
        exact ⟨hdown, fun _ _ _ => (hstays hafter).1⟩
      · rintro ⟨-, hlast⟩ -
        exact ⟨hlast order rfl hphase, hempty⟩
    · have hlast : DrainsLast s (.shutdown order) := by
        intro order' _ hcon
        rw [hcon] at hdrained
        cases hdrained
      refine ⟨fun _ hbefore => hsame.trans (h hdrained hbefore), ?_⟩
      simp only [StaysDown, hdrained, hsame, hafter, forall_const, hlast, and_true]

/-- **When shutdown wins.**  After a `sync` and a `shutdown_all` that ran together, nothing runs
and no stats are left exactly when `sync` had nothing left to start at the moment of the drain. -/
theorem shutdown_wins_iff (m : Manager) (running : List ForwarderConfig)
    (hm : Reached (fun _ => True) m running) (configs : List ForwarderConfig) (is : List Input)
    (t : State) (hrun : run step (callBoth m configs) is = some t) (hsync : t.sync = .done)
    (hshutdown : t.shutdown = .done) :
    t.manager.runningLabels = [] ∧ t.manager.statsRegistry = [] ↔
      RunAll step DrainsLast (callBoth m configs) is := by
  have hdown : StaysDown t ↔ StaysDown (callBoth m configs) ∧
      RunAll step DrainsLast (callBoth m configs) is :=
    run_iff_runAll staysDown_step nofun hrun
  have hstart : StaysDown (callBoth m configs) := nofun
  have horphans : NoOrphans t :=
    run_invariant noOrphans_step (fun l hl => Or.inl (hm.noOrphans l hl)) hrun
  rw [← and_iff_right hstart (b := RunAll step DrainsLast (callBoth m configs) is), ← hdown]
  constructor
  · rintro ⟨hrunning, -⟩ -
    rw [hsync]
    exact ⟨rfl, hrunning⟩
  · intro h
    obtain ⟨-, hrunning⟩ := h (by rw [hshutdown]; rfl)
    refine ⟨hrunning, List.eq_nil_iff_forall_not_mem.mpr fun e he => ?_⟩
    rcases horphans e.label (List.mem_map_of_mem he) with hmem | howed | howed
    · rw [hrunning] at hmem
      cases hmem
    · rw [hsync] at howed
      cases howed
    · rw [hshutdown] at howed
      cases howed

/-- The forwarder that runs before the reload, and the one that replaces it. -/
def runningForwarder : ForwarderConfig :=
  { localHost := "localhost".toList, localPort := 8080, remoteHost := "old".toList,
    remotePort := 80, protocol := .tcp }

/-- The same local address with a new target. -/
def wantedForwarder : ForwarderConfig := { runningForwarder with remoteHost := "new".toList }

/-- A manager that runs one forwarder. -/
def demoManager : Manager := (Manager.new Settings.default).startAll [runningForwarder]

/-- `shutdown_all` runs after `sync` has inserted the new forwarder. -/
def drainAfterStart : List Input :=
  .sync [runningForwarder.label] :: List.replicate 8 (.sync []) ++
    [.shutdown [wantedForwarder.label], .shutdown [], .shutdown []]

/-- `shutdown_all` drains the map while `sync` waits for the old listener to stop. -/
def drainWhileStopping : List Input :=
  [.sync [runningForwarder.label], .sync [], .shutdown [], .shutdown []] ++
    List.replicate 7 (.sync [])

/-- The phases in which a run of the two calls ends. -/
def endPhases (is : List Input) : Option (SyncPhase × ShutdownPhase) :=
  (run step (callBoth demoManager [wantedForwarder]) is).map fun s => (s.sync, s.shutdown)

theorem shutdown_wins_after_start :
    ∃ t, run step (callBoth demoManager [wantedForwarder]) drainAfterStart = some t ∧
      t.sync = .done ∧ t.shutdown = .done ∧
      (t.manager.runningLabels = [] ∧ t.manager.statsRegistry = [] ↔
        RunAll step DrainsLast (callBoth demoManager [wantedForwarder]) drainAfterStart) := by
  have hend : endPhases drainAfterStart = some (.done, .done) := by decide
  obtain ⟨t, ht, hphases⟩ := Option.map_eq_some_iff.mp hend
  obtain ⟨hsync, hshutdown⟩ := Prod.mk.inj hphases
  exact ⟨t, ht, hsync, hshutdown, shutdown_wins_iff demoManager [runningForwarder]
    (.start _ _ trivial) [wantedForwarder] drainAfterStart t ht hsync hshutdown⟩

/-- Shutdown does not always win: a forwarder that `sync` starts after the drain keeps running. -/
theorem shutdown_loses_while_stopping :
    ¬ ∀ (m : Manager) (running : List ForwarderConfig), Reached (fun _ => True) m running →
      ∀ (configs : List ForwarderConfig) (is : List Input) (t : State),
        run step (callBoth m configs) is = some t → t.sync = .done → t.shutdown = .done →
          t.manager.runningLabels = [] ∧ t.manager.statsRegistry = [] := by
  intro hall
  have hend : ((run step (callBoth demoManager [wantedForwarder]) drainWhileStopping).map
      fun s => (s.sync, s.shutdown, s.manager.runningLabels)) =
        some (.done, .done, [wantedForwarder.label]) := by decide
  obtain ⟨t, ht, hphases⟩ := Option.map_eq_some_iff.mp hend
  obtain ⟨hsync, hrest⟩ := Prod.mk.inj hphases
  obtain ⟨hshutdown, hrunning⟩ := Prod.mk.inj hrest
  have hempty := (hall demoManager [runningForwarder] (.start _ _ trivial) [wantedForwarder]
    drainWhileStopping t ht hsync hshutdown).1
  rw [hempty] at hrunning
  cases hrunning

end Sections

end Rfw
