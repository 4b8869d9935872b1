/-
# The lock-protected sections of the manager

`sync` and `shutdown_all` are not atomic.  The running labels are read, each handle is taken out,
each forwarder is started and each stats entry is removed under its own lock, with awaits in
between.  Here a call is a phase that moves from one such section to the next, so that the states
in between, and two calls that interleave, can be talked about.

The order in which a hash set or a hash map is walked is not determined by the source.  It is an
input of the section that fixes it.
-/
import Rfw.Lib.Transition
import Rfw.Manager.Forwarders
import Mathlib.Data.List.Perm.Basic

namespace Rfw

open Lib

namespace Sections

/-- Where a call of `sync` is. -/
inductive SyncPhase
  /-- About to read the running labels. -/
  | snapshot (configs : List ForwarderConfig)
  /-- In the stop loop, with the labels still to stop and the forwarders to start afterwards. -/
  | stopping (labels : List Str) (configs : List ForwarderConfig)
  /-- In `stop_one`: the handle of `label` is taken out, its stats are removed next. -/
  | reaping (label : Str) (labels : List Str) (configs : List ForwarderConfig)
  /-- In the start loop, with the forwarders still to start. -/
  | starting (configs : List ForwarderConfig)
  /-- In `start_one`, holding the lock of the map: about to register the stats. -/
  | registering (cfg : ForwarderConfig) (configs : List ForwarderConfig)
  /-- Still holding it: about to register the stats for the monitor. -/
  | registeringMonitor (cfg : ForwarderConfig) (configs : List ForwarderConfig)
  /-- Still holding it: about to insert the handle. -/
  | inserting (cfg : ForwarderConfig) (configs : List ForwarderConfig)
  | done
deriving DecidableEq, Repr

/-- The phases in which `start_one` holds the lock of the map. -/
def SyncPhase.holdsLock : SyncPhase → Bool
  | registering _ _ | registeringMonitor _ _ | inserting _ _ => true
  | _ => false

/-- Where a call of `shutdown_all` is. -/
inductive ShutdownPhase
  | notCalled
  /-- About to drain the map. -/
  | drain
  /-- Reaping the drained forwarders, with the labels whose stats are still to be removed. -/
  | reaping (labels : List Str)
  | done
deriving DecidableEq, Repr

/-- A manager with the calls in progress on it. -/
structure State where
  manager : Manager
  sync : SyncPhase
  shutdown : ShutdownPhase

/-- Which call takes its next section, and the order in which that section walks a hash table. -/
inductive Input
  | sync (order : List Str)
  | shutdown (order : List Str)
deriving DecidableEq, Repr

/-- The next section of `sync`. -/
def syncStep (m : Manager) (order : List Str) : SyncPhase → Option (Manager × SyncPhase)
  | .snapshot configs =>
      let currentLabels := m.runningLabels
      let desiredLabels := configs.map ForwarderConfig.label
      if order.Perm (currentLabels.filter (· ∉ desiredLabels)) then
        some (m, .stopping order (configs.filter fun cfg => cfg.label ∉ currentLabels))
      else none
  | .stopping [] configs => some (m, .starting configs)
  | .stopping (label :: labels) configs =>
      -- `stop_one` of a label that is gone by now does nothing
      match m.forwarders.get? label with
      | none => some (m, .stopping labels configs)
      | some _ =>
          some ({ m with forwarders := m.forwarders.erase label }, .reaping label labels configs)
  | .reaping label labels configs =>
      some ({ m with statsRegistry := removeStats m.statsRegistry label },
        .stopping labels configs)
  | .starting [] => some (m, .done)
  | .starting (cfg :: configs) =>
      -- from this check to the insertion `start_one` holds the lock of the map
      if cfg.label ∈ m.runningLabels then some (m, .starting configs)
      else some (m, .registering cfg configs)
  | .registering cfg configs =>
      some ({ m with
          statsRegistry := registerWithProtocol m.statsRegistry cfg.label cfg.protocol m.nextId
          nextId := m.nextId + 1 },
        .registeringMonitor cfg configs)
  | .registeringMonitor cfg configs =>
      some ({ m with
          statsRegistry := registerWithProtocol m.statsRegistry cfg.label cfg.protocol m.nextId },
        .inserting cfg configs)
  | .inserting cfg configs =>
      some ({ m with
          forwarders := m.forwarders.insert cfg.label ⟨m.nextId, cfg⟩
          nextId := m.nextId + 1 },
        .starting configs)
  | .done => none

/-- The next section of `shutdown_all`.  The drain waits for the lock of the map. -/
def shutdownStep (m : Manager) (locked : Bool) (order : List Str) :
    ShutdownPhase → Option (Manager × ShutdownPhase)
  | .notCalled => none
  | .drain =>
      if locked = false ∧ order.Perm m.runningLabels then
        some ({ m with forwarders := .empty }, .reaping order)
      else none
  | .reaping [] => some (m, .done)
  | .reaping (label :: labels) =>
      some ({ m with statsRegistry := removeStats m.statsRegistry label }, .reaping labels)
  | .done => none

/-- One section of one of the two calls. -/
def step (s : State) : Input → Option State
  | .sync order =>
      (syncStep s.manager order s.sync).map fun r => { s with manager := r.1, sync := r.2 }
  | .shutdown order =>
      (shutdownStep s.manager s.sync.holdsLock order s.shutdown).map fun r =>
        { s with manager := r.1, shutdown := r.2 }

/-- `sync` is called. -/
def callSync (m : Manager) (configs : List ForwarderConfig) : State :=
  { manager := m, sync := .snapshot configs, shutdown := .notCalled }

/-- `sync` and `shutdown_all` are called at the same time. -/
def callBoth (m : Manager) (configs : List ForwarderConfig) : State :=
  { manager := m, sync := .snapshot configs, shutdown := .drain }

/-- The managers that `start_all` and later calls of `sync` lead to, with the list that the last of
them was given.  Every list meets `ok`. -/
inductive Reached (ok : List ForwarderConfig → Prop) : Manager → List ForwarderConfig → Prop
  | start (settings : Settings) (configs : List ForwarderConfig) (h : ok configs) :
      Reached ok ((Manager.new settings).startAll configs) configs
  | updateKnobs {m : Manager} {configs : List ForwarderConfig} (settings : Settings) :
      Reached ok m configs → Reached ok (m.updateKnobs settings) configs
  | sync {m : Manager} {old new : List ForwarderConfig} {is : List Input} {s : State} :
      Reached ok m old → ok new → run step (callSync m new) is = some s → s.sync = .done →
        Reached ok s.manager new

/-! ## What one section can do -/

/-- Everything that a section of `sync` can do, one constructor for each branch of `syncStep`. -/
inductive SyncMove (m : Manager) : SyncPhase → Manager → SyncPhase → Prop
  | snapshot (configs : List ForwarderConfig) (order : List Str)
      (h : order.Perm (m.runningLabels.filter (· ∉ configs.map ForwarderConfig.label))) :
      SyncMove m (.snapshot configs) m
        (.stopping order (configs.filter fun cfg => cfg.label ∉ m.runningLabels))
  | stopped (configs : List ForwarderConfig) :
      SyncMove m (.stopping [] configs) m (.starting configs)
  | missing (label : Str) (labels : List Str) (configs : List ForwarderConfig)
      (h : m.forwarders.get? label = none) :
      SyncMove m (.stopping (label :: labels) configs) m (.stopping labels configs)
  | taken (label : Str) (labels : List Str) (configs : List ForwarderConfig)
      (hd : ForwarderHandle) (h : m.forwarders.get? label = some hd) :
      SyncMove m (.stopping (label :: labels) configs)
        { m with forwarders := m.forwarders.erase label } (.reaping label labels configs)
  | reaped (label : Str) (labels : List Str) (configs : List ForwarderConfig) :
      SyncMove m (.reaping label labels configs)
        { m with statsRegistry := removeStats m.statsRegistry label } (.stopping labels configs)
  | started : SyncMove m (.starting []) m .done
  | skipped (cfg : ForwarderConfig) (configs : List ForwarderConfig)
      (h : cfg.label ∈ m.runningLabels) :
      SyncMove m (.starting (cfg :: configs)) m (.starting configs)
  | checked (cfg : ForwarderConfig) (configs : List ForwarderConfig)
      (h : cfg.label ∉ m.runningLabels) :
      SyncMove m (.starting (cfg :: configs)) m (.registering cfg configs)
  | registered (cfg : ForwarderConfig) (configs : List ForwarderConfig) :
      SyncMove m (.registering cfg configs)
        { m with
          statsRegistry := registerWithProtocol m.statsRegistry cfg.label cfg.protocol m.nextId
          nextId := m.nextId + 1 }
        (.registeringMonitor cfg configs)
  | registeredMonitor (cfg : ForwarderConfig) (configs : List ForwarderConfig) :
      SyncMove m (.registeringMonitor cfg configs)
        { m with
          statsRegistry := registerWithProtocol m.statsRegistry cfg.label cfg.protocol m.nextId }
        (.inserting cfg configs)
  | inserted (cfg : ForwarderConfig) (configs : List ForwarderConfig) :
      SyncMove m (.inserting cfg configs)
        { m with
          forwarders := m.forwarders.insert cfg.label ⟨m.nextId, cfg⟩
          nextId := m.nextId + 1 }
        (.starting configs)

/-- Everything that a section of `shutdown_all` can do. -/
inductive ShutdownMove (m : Manager) : ShutdownPhase → Manager → ShutdownPhase → Prop
  | drained (order : List Str) (h : order.Perm m.runningLabels) :
      ShutdownMove m .drain { m with forwarders := .empty } (.reaping order)
  | reaped (label : Str) (labels : List Str) :
      ShutdownMove m (.reaping (label :: labels))
        { m with statsRegistry := removeStats m.statsRegistry label } (.reaping labels)
  | returned : ShutdownMove m (.reaping []) m .done

lemma move_of_syncStep {m m' : Manager} {order : List Str} {phase phase' : SyncPhase}
    (h : syncStep m order phase = some (m', phase')) : SyncMove m phase m' phase' := by
  unfold syncStep at h
  split at h
  · obtain ⟨horder, heq⟩ := Option.ite_none_right_eq_some.mp h
    obtain ⟨rfl, rfl⟩ := Prod.mk.inj (Option.some.inj heq)
    exact .snapshot _ order horder
  · obtain ⟨rfl, rfl⟩ := Prod.mk.inj (Option.some.inj h)
    exact .stopped _
  · split at h
    · rename_i hnone
      obtain ⟨rfl, rfl⟩ := Prod.mk.inj (Option.some.inj h)
      exact .missing _ _ _ hnone
    · rename_i hd hsome
      obtain ⟨rfl, rfl⟩ := Prod.mk.inj (Option.some.inj h)
      exact .taken _ _ _ hd hsome
  · obtain ⟨rfl, rfl⟩ := Prod.mk.inj (Option.some.inj h)
    exact .reaped _ _ _
  · obtain ⟨rfl, rfl⟩ := Prod.mk.inj (Option.some.inj h)
    exact .started
  · split at h
    · rename_i hrunning
      obtain ⟨rfl, rfl⟩ := Prod.mk.inj (Option.some.inj h)
      exact .skipped _ _ hrunning
    · rename_i hnot
      obtain ⟨rfl, rfl⟩ := Prod.mk.inj (Option.some.inj h)
      exact .checked _ _ hnot
  · obtain ⟨rfl, rfl⟩ := Prod.mk.inj (Option.some.inj h)
    exact .registered _ _
  · obtain ⟨rfl, rfl⟩ := Prod.mk.inj (Option.some.inj h)
    exact .registeredMonitor _ _
  · obtain ⟨rfl, rfl⟩ := Prod.mk.inj (Option.some.inj h)
    exact .inserted _ _
  · cases h

lemma move_of_shutdownStep {m m' : Manager} {locked : Bool} {order : List Str}
    {phase phase' : ShutdownPhase}
    (h : shutdownStep m locked order phase = some (m', phase')) :
    ShutdownMove m phase m' phase' := by
  unfold shutdownStep at h
  split at h
  · cases h
  · obtain ⟨⟨-, horder⟩, heq⟩ := Option.ite_none_right_eq_some.mp h
    obtain ⟨rfl, rfl⟩ := Prod.mk.inj (Option.some.inj heq)
    exact .drained order horder
  · obtain ⟨rfl, rfl⟩ := Prod.mk.inj (Option.some.inj h)
    exact .returned
  · obtain ⟨rfl, rfl⟩ := Prod.mk.inj (Option.some.inj h)
    exact .reaped _ _
  · cases h

/-- As long as `shutdown_all` is not called, every section is one of `sync`. -/
lemma move_of_step_notCalled {s s' : State} {i : Input} (h : s.shutdown = .notCalled)
    (hstep : step s i = some s') :
    s'.shutdown = .notCalled ∧ SyncMove s.manager s.sync s'.manager s'.sync := by
  cases i with
  | sync order =>
    obtain ⟨⟨m', phase'⟩, hsync, rfl⟩ := Option.map_eq_some_iff.mp hstep
    exact ⟨h, move_of_syncStep hsync⟩
  | shutdown order =>
    obtain ⟨r, hr, -⟩ := Option.map_eq_some_iff.mp hstep
    rw [h] at hr
    cases hr

/-! ## The stats registry -/

section Registry

variable {registry : List StatsEntry} {label l : Str} {protocol : Protocol} {id : ℕ}

/-- The labels of the registry. -/
def registryLabels (registry : List StatsEntry) : List Str := registry.map StatsEntry.label

lemma registerWithProtocol_eq :
    registerWithProtocol registry label protocol id =
      if label ∈ registryLabels registry then registry
      else registry ++ [⟨label, protocol, id⟩] := by
  have hany : (registry.any fun s => s.label = label) = true ↔ label ∈ registryLabels registry := by
    simp [registryLabels, List.any_eq_true]
  simp only [registerWithProtocol, hany]

/-- Registering a label a second time changes nothing. -/
lemma register_of_mem (h : label ∈ registryLabels registry) :
    registerWithProtocol registry label protocol id = registry := by
  rw [registerWithProtocol_eq, if_pos h]

lemma mem_registerWithProtocol {e : StatsEntry} (he : e.label ≠ label) :
    e ∈ registerWithProtocol registry label protocol id ↔ e ∈ registry := by
  rw [registerWithProtocol_eq]
  split
  · rfl
  · rw [List.mem_append, List.mem_singleton]
    refine ⟨?_, Or.inl⟩
    rintro (h | rfl)
    · exact h
    · exact absurd rfl he

lemma registryLabels_register :
    registryLabels (registerWithProtocol registry label protocol id) =
      if label ∈ registryLabels registry then registryLabels registry
      else registryLabels registry ++ [label] := by
  rw [registerWithProtocol_eq]
  split
  · rfl
  · simp [registryLabels]

lemma mem_registryLabels_register :
    l ∈ registryLabels (registerWithProtocol registry label protocol id) ↔
      l ∈ registryLabels registry ∨ l = label := by
  rw [registryLabels_register]
  split
  · rename_i h
    refine ⟨Or.inl, ?_⟩
    rintro (hl | rfl)
    · exact hl
    · exact h
  · simp

lemma nodup_register (h : (registryLabels registry).Nodup) :
    (registryLabels (registerWithProtocol registry label protocol id)).Nodup := by
  rw [registryLabels_register]
  split
  · exact h
  · rename_i hnot
    exact List.Nodup.append h (List.nodup_singleton label) (by simpa using hnot)

lemma mem_removeStats {e : StatsEntry} :
    e ∈ removeStats registry label ↔ e ∈ registry ∧ e.label ≠ label := by
  simp [removeStats]

lemma mem_registryLabels_remove :
    l ∈ registryLabels (removeStats registry label) ↔ l ∈ registryLabels registry ∧ l ≠ label := by
  simp only [registryLabels, List.mem_map, mem_removeStats]
  constructor
  · rintro ⟨e, ⟨he, hne⟩, rfl⟩
    exact ⟨⟨e, he, rfl⟩, hne⟩
  · rintro ⟨⟨e, he, rfl⟩, hne⟩
    exact ⟨e, ⟨he, hne⟩, rfl⟩

lemma nodup_remove (h : (registryLabels registry).Nodup) :
    (registryLabels (removeStats registry label)).Nodup :=
  h.sublist (List.filter_sublist.map StatsEntry.label)

end Registry

end Sections

end Rfw
