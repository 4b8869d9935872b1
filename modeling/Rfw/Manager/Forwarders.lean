/-
# The forwarder manager

`ForwarderManager` keeps one handle for each running forwarder, under the forwarder's label, and
one entry of the stats registry for each label.  `sync` turns the running set into the set of a
new configuration list: it stops what is not wanted any more, then starts what is new.
-/
import Rfw.Config.Load
import Rfw.Lib.Table

namespace Rfw

open Lib

/-- A `ForwarderHandle`: its cancellation token and its two tasks, as one identity, and the
forwarder that they run. -/
structure ForwarderHandle where
  id : ℕ
  cfg : ForwarderConfig
deriving DecidableEq, Repr

/-- One `Arc<ForwarderStats>` of the registry: its label, its protocol and its identity. -/
structure StatsEntry where
  label : Str
  protocol : Protocol
  id : ℕ
deriving DecidableEq, Repr

/-- `StatsRegistry::register_with_protocol`; `id` is the identity a new entry would get. -/
def registerWithProtocol (registry : List StatsEntry) (label : Str) (protocol : Protocol)
    (id : ℕ) : List StatsEntry :=
  if registry.any fun s => s.label = label then registry else registry ++ [⟨label, protocol, id⟩]

/-- `StatsRegistry::remove`. -/
def removeStats (registry : List StatsEntry) (label : Str) : List StatsEntry :=
  registry.filter fun s => s.label ≠ label

/-- `ForwarderManager`. -/
structure Manager where
  forwarders : Table Str ForwarderHandle
  statsRegistry : List StatsEntry
  knobs : RuntimeKnobs
  /-- The capacity of the connection limit, fixed at startup; `none` is unbounded. -/
  connLimit : Option ℕ
  /-- The capacity of the session limit of all UDP forwarders, fixed at startup. -/
  udpLimit : ℕ
  /-- The identity that the next task or stats object gets. -/
  nextId : ℕ

namespace Manager

/-- `ForwarderManager::new`. -/
def new (settings : Settings) : Manager where
  forwarders := .empty
  statsRegistry := []
  knobs := .fromSettings settings
  connLimit := settings.maxConnections.filter (0 < ·)
  udpLimit := clamp settings.udpMaxSessions 1 maxUdpSessions
  nextId := 0

/-- `ForwarderManager::update_knobs`. -/
def updateKnobs (m : Manager) (settings : Settings) : Manager :=
  { m with knobs := m.knobs.update settings }

/-- `ForwarderManager::running_labels`. -/
def runningLabels (m : Manager) : List Str := m.forwarders.keys

/-- `ForwarderManager::start_one`. -/
def startOne (m : Manager) (cfg : ForwarderConfig) : Manager :=
  let label := cfg.label
  if label ∈ m.runningLabels then m
  else
    { m with
      statsRegistry := registerWithProtocol m.statsRegistry label cfg.protocol m.nextId
      forwarders := m.forwarders.insert label ⟨m.nextId + 1, cfg⟩
      nextId := m.nextId + 2 }

/-- `ForwarderManager::start_all`. -/
def startAll (m : Manager) (configs : List ForwarderConfig) : Manager := configs.foldl startOne m

/-- `ForwarderManager::stop_one`. -/
def stopOne (m : Manager) (label : Str) : Manager :=
  match m.forwarders.get? label with
  | none => m
  | some _ =>
      { m with
        forwarders := m.forwarders.erase label
        statsRegistry := removeStats m.statsRegistry label }

/-- `ForwarderManager::sync`.  The labels are read once, before anything is stopped. -/
def sync (m : Manager) (configs : List ForwarderConfig) : Manager :=
  let currentLabels := m.runningLabels
  let desiredLabels := configs.map ForwarderConfig.label
  let stopped := (currentLabels.filter (· ∉ desiredLabels)).foldl stopOne m
  (configs.filter fun cfg => cfg.label ∉ currentLabels).foldl startOne stopped

/-- `ForwarderManager::shutdown_all`, when nothing else runs.  The map is drained first. -/
def shutdownAll (m : Manager) : Manager :=
  { m with
    forwarders := .empty
    statsRegistry := m.runningLabels.foldl removeStats m.statsRegistry }

/-! ## Knobs -/

@[simp] lemma startOne_knobs (m : Manager) (cfg : ForwarderConfig) :
    (m.startOne cfg).knobs = m.knobs := by
  simp only [startOne]
  split <;> rfl

@[simp] lemma stopOne_knobs (m : Manager) (label : Str) : (m.stopOne label).knobs = m.knobs := by
  simp only [stopOne]
  split <;> rfl

@[simp] lemma startAll_knobs (m : Manager) (configs : List ForwarderConfig) :
    (m.startAll configs).knobs = m.knobs := by
  induction configs generalizing m with
  | nil => rfl
  | cons cfg configs ih => exact (ih _).trans (startOne_knobs m cfg)

lemma foldl_stopOne_knobs (m : Manager) (labels : List Str) :
    (labels.foldl stopOne m).knobs = m.knobs := by
  induction labels generalizing m with
  | nil => rfl
  | cons l labels ih => exact (ih _).trans (stopOne_knobs m l)

@[simp] lemma sync_knobs (m : Manager) (configs : List ForwarderConfig) :
    (m.sync configs).knobs = m.knobs :=
  (startAll_knobs _ _).trans (foldl_stopOne_knobs _ _)

/-! ## Labels -/

lemma mem_runningLabels_startOne {m : Manager} {cfg : ForwarderConfig} {l : Str} :
    l ∈ (m.startOne cfg).runningLabels ↔ l = cfg.label ∨ l ∈ m.runningLabels := by
  simp only [startOne]
  split
  · rename_i hrunning
    refine ⟨Or.inr, ?_⟩
    rintro (rfl | h)
    · exact hrunning
    · exact h
  · exact Table.mem_keys_insert

lemma mem_runningLabels_startAll (m : Manager) (configs : List ForwarderConfig) (l : Str) :
    l ∈ (m.startAll configs).runningLabels ↔
      l ∈ configs.map ForwarderConfig.label ∨ l ∈ m.runningLabels := by
  induction configs generalizing m with
  | nil => simp [startAll]
  | cons cfg configs ih =>
    have h : m.startAll (cfg :: configs) = (m.startOne cfg).startAll configs := rfl
    rw [h, ih, mem_runningLabels_startOne, List.map_cons, List.mem_cons]
    tauto

lemma mem_runningLabels_stopOne {m : Manager} {label l : Str} :
    l ∈ (m.stopOne label).runningLabels ↔ l ≠ label ∧ l ∈ m.runningLabels := by
  simp only [stopOne]
  split
  · rename_i hnone
    refine ⟨fun h => ⟨?_, h⟩, And.right⟩
    rintro rfl
    exact Table.get?_eq_none_iff.mp hnone h
  · exact Table.mem_keys_erase

lemma mem_runningLabels_foldl_stopOne {m : Manager} {labels : List Str} {l : Str} :
    l ∈ (labels.foldl stopOne m).runningLabels ↔ l ∉ labels ∧ l ∈ m.runningLabels := by
  induction labels generalizing m with
  | nil => simp
  | cons label labels ih =>
    rw [List.foldl_cons, ih, mem_runningLabels_stopOne, List.mem_cons]
    tauto

/-- `sync` makes the running labels those of the list, whatever ran before. -/
theorem mem_runningLabels_sync {m : Manager} {configs : List ForwarderConfig} {l : Str} :
    l ∈ (m.sync configs).runningLabels ↔ l ∈ configs.map ForwarderConfig.label := by
  have hstart := mem_runningLabels_startAll
    ((m.runningLabels.filter (· ∉ configs.map ForwarderConfig.label)).foldl stopOne m)
    (configs.filter fun cfg => cfg.label ∉ m.runningLabels) l
  simp only [sync]
  refine hstart.trans ?_
  rw [mem_runningLabels_foldl_stopOne]
  simp only [List.mem_map, List.mem_filter, decide_eq_true_eq]
  constructor
  · rintro (⟨cfg, ⟨hcfg, -⟩, rfl⟩ | ⟨hkept, hrunning⟩)
    · exact ⟨cfg, hcfg, rfl⟩
    · by_contra hnot
      exact hkept ⟨hrunning, hnot⟩
  · rintro ⟨cfg, hcfg, rfl⟩
    by_cases hrunning : cfg.label ∈ m.runningLabels
    · exact Or.inr ⟨fun h => h.2 ⟨cfg, hcfg, rfl⟩, hrunning⟩
    · exact Or.inl ⟨cfg, ⟨hcfg, hrunning⟩, rfl⟩

end Manager

end Rfw
