/-
# Forwarders and their labels

The manager's map, the stats registry and the difference that a reload reports are keyed by labels.
A `Roster` keeps the same data keyed by the forwarders themselves, so it cannot take one forwarder
for another.  As long as no local host contains the arrow, the manager is at every moment a roster
with each forwarder replaced by its label (`labels_identify`).
-/
import Rfw.Config.Labels
import Rfw.Manager.Reload

namespace Rfw

open Lib

/-- A local host that leaves the labels readable. -/
def ForwarderConfig.Clear (c : ForwarderConfig) : Prop := ¬ arrow <:+: c.localHost

/-- What a manager keeps, keyed by forwarders: the identity of each handle and of each entry of the
registry. -/
structure Roster where
  forwarders : Table ForwarderConfig ℕ
  registry : List (ForwarderConfig × ℕ)
  nextId : ℕ

namespace Roster

/-- Nothing runs. -/
def new : Roster where
  forwarders := .empty
  registry := []
  nextId := 0

/-- Start a forwarder that does not run. -/
def startOne (r : Roster) (cfg : ForwarderConfig) : Roster :=
  if cfg ∈ r.forwarders.keys then r
  else
    { forwarders := r.forwarders.insert cfg (r.nextId + 1)
      registry :=
        if r.registry.any fun p => p.1 = cfg then r.registry else r.registry ++ [(cfg, r.nextId)]
      nextId := r.nextId + 2 }

/-- The registry without a forwarder. -/
def remove (registry : List (ForwarderConfig × ℕ)) (cfg : ForwarderConfig) :
    List (ForwarderConfig × ℕ) :=
  registry.filter fun p => p.1 ≠ cfg

/-- Stop a forwarder that runs. -/
def stopOne (r : Roster) (cfg : ForwarderConfig) : Roster :=
  if cfg ∈ r.forwarders.keys then
    { r with
      forwarders := r.forwarders.erase cfg
      registry := remove r.registry cfg }
  else r

/-- Start the forwarders of a list. -/
def startAll (r : Roster) (configs : List ForwarderConfig) : Roster := configs.foldl startOne r

/-- Stop what is not in a list, then start what is new in it. -/
def sync (r : Roster) (configs : List ForwarderConfig) : Roster :=
  let current := r.forwarders.keys
  let stopped := (current.filter (· ∉ configs)).foldl stopOne r
  (configs.filter (· ∉ current)).foldl startOne stopped

/-- Stop what runs. -/
def shutdownAll (r : Roster) : Roster :=
  { r with
    forwarders := .empty
    registry := r.forwarders.keys.foldl remove r.registry }

end Roster

/-! ## Clear forwarders and their labels -/

section Clear

variable {c : ForwarderConfig} {cs ds : List ForwarderConfig}

lemma label_eq_iff {c' : ForwarderConfig} (hc : c.Clear) (hc' : c'.Clear) :
    c.label = c'.label ↔ c = c' :=
  ⟨ForwarderConfig.eq_of_label_eq hc hc', congrArg ForwarderConfig.label⟩

lemma label_mem_map (hc : c.Clear) (hcs : ∀ d ∈ cs, d.Clear) :
    c.label ∈ cs.map ForwarderConfig.label ↔ c ∈ cs := by
  constructor
  · intro h
    obtain ⟨d, hd, heq⟩ := List.mem_map.mp h
    exact (label_eq_iff (hcs d hd) hc).mp heq ▸ hd
  · exact List.mem_map_of_mem

/-- Dropping a label drops its forwarder. -/
lemma filter_label_ne {β : Type*} (key : β → ForwarderConfig) {l : List β} (hc : c.Clear)
    (hl : ∀ x ∈ l, (key x).Clear) :
    (l.filter fun x => (key x).label ≠ c.label) = l.filter fun x => key x ≠ c := by
  refine List.filter_congr fun x hx => ?_
  rw [decide_eq_decide]
  exact not_congr (label_eq_iff (hl x hx) hc)

/-- Dropping the labels of a list drops its forwarders. -/
lemma filter_label_not_mem (hcs : ∀ d ∈ cs, d.Clear) (hds : ∀ d ∈ ds, d.Clear) :
    (cs.filter fun c => c.label ∉ ds.map ForwarderConfig.label) = cs.filter (· ∉ ds) := by
  refine List.filter_congr fun c hc => ?_
  rw [decide_eq_decide]
  exact not_congr (label_mem_map (hcs c hc) hds)

/-- The difference of two sets of labels is that of the forwarders. -/
lemma labelsMinus_map (hcs : ∀ d ∈ cs, d.Clear) (hds : ∀ d ∈ ds, d.Clear) :
    labelsMinus (cs.map ForwarderConfig.label) (ds.map ForwarderConfig.label) =
      ((cs.filter (· ∉ ds)).map ForwarderConfig.label).insertionSort (· ≤ ·) := by
  have hfilter : ((cs.map ForwarderConfig.label).filter
      fun l => !(ds.map ForwarderConfig.label).contains l) =
        (cs.filter fun c => c.label ∉ ds.map ForwarderConfig.label).map ForwarderConfig.label := by
    rw [List.filter_map]
    refine congrArg (List.map ForwarderConfig.label) (List.filter_congr fun c _ => ?_)
    rw [Function.comp_apply, List.contains_eq_mem, decide_not]
  rw [labelsMinus, hfilter, filter_label_not_mem hcs hds]

end Clear

/-! ## The manager is a roster with labels -/

/-- An entry of the registry under its label. -/
def statsEntry (p : ForwarderConfig × ℕ) : StatsEntry := ⟨p.1.label, p.1.protocol, p.2⟩

/-- Removing a label removes its forwarder. -/
lemma removeStats_map {cfg : ForwarderConfig} {registry : List (ForwarderConfig × ℕ)}
    (hcfg : cfg.Clear) (hregistry : ∀ p ∈ registry, p.1.Clear) :
    removeStats (registry.map statsEntry) cfg.label =
      (Roster.remove registry cfg).map statsEntry := by
  have hfilter := filter_label_ne Prod.fst hcfg hregistry
  rw [removeStats, List.filter_map, Roster.remove, ← hfilter]
  rfl

/-- The manager keeps what the roster keeps, under the labels of its forwarders. -/
structure Represents (r : Roster) (m : Manager) : Prop where
  forwarders : m.forwarders.entries = r.forwarders.entries.map fun e => (e.1.label, ⟨e.2, e.1⟩)
  registry : m.statsRegistry = r.registry.map statsEntry
  nextId : m.nextId = r.nextId
  clear : ∀ c ∈ r.forwarders.keys, c.Clear
  clear_registry : ∀ p ∈ r.registry, p.1.Clear

namespace Represents

variable {r : Roster} {m : Manager}

lemma runningLabels (h : Represents r m) :
    m.runningLabels = r.forwarders.keys.map ForwarderConfig.label := by
  unfold Manager.runningLabels Table.keys
  rw [h.forwarders, List.map_map, List.map_map]
  rfl

lemma mem_runningLabels (h : Represents r m) {c : ForwarderConfig} (hc : c.Clear) :
    c.label ∈ m.runningLabels ↔ c ∈ r.forwarders.keys := by
  rw [h.runningLabels]
  exact label_mem_map hc h.clear

/-- Under the label of a forwarder stands its own handle. -/
lemma get?_iff (h : Represents r m) {c : ForwarderConfig} (hc : c.Clear) {hd : ForwarderHandle} :
    m.forwarders.get? c.label = some hd ↔ r.forwarders.get? c = some hd.id ∧ hd.cfg = c := by
  rw [Table.get?_eq_some_iff, Table.get?_eq_some_iff, h.forwarders, List.mem_map]
  constructor
  · rintro ⟨⟨d, id⟩, hmem, heq⟩
    obtain ⟨hlabel, rfl⟩ := Prod.mk.inj heq
    have hd : d ∈ r.forwarders.keys := List.mem_map_of_mem hmem
    obtain rfl := (label_eq_iff (h.clear d hd) hc).mp hlabel
    exact ⟨hmem, rfl⟩
  · rintro ⟨hmem, rfl⟩
    exact ⟨_, hmem, rfl⟩

lemma erase_entries (h : Represents r m) {c : ForwarderConfig} (hc : c.Clear) :
    (m.forwarders.erase c.label).entries =
      (r.forwarders.erase c).entries.map fun e => (e.1.label, ⟨e.2, e.1⟩) := by
  have hfilter := filter_label_ne Prod.fst (l := r.forwarders.entries) hc
    fun e he => h.clear e.1 (List.mem_map_of_mem he)
  unfold Table.erase Table.filter
  simp only [h.forwarders, List.filter_map, Function.comp_def]
  rw [hfilter]

lemma startOne (h : Represents r m) {cfg : ForwarderConfig} (hcfg : cfg.Clear) :
    Represents (r.startOne cfg) (m.startOne cfg) := by
  unfold Roster.startOne Manager.startOne
  dsimp only
  by_cases hrunning : cfg ∈ r.forwarders.keys
  · rw [if_pos hrunning, if_pos ((h.mem_runningLabels hcfg).mpr hrunning)]
    exact h
  rw [if_neg hrunning, if_neg (mt (h.mem_runningLabels hcfg).mp hrunning)]
  have hany : (m.statsRegistry.any fun s => s.label = cfg.label) =
      r.registry.any fun p => p.1 = cfg := by
    rw [h.registry, List.any_map, Bool.eq_iff_iff, List.any_eq_true, List.any_eq_true]
    refine exists_congr fun p => and_congr_right fun hp => ?_
    rw [Function.comp_apply, decide_eq_true_eq, decide_eq_true_eq]
    exact label_eq_iff (h.clear_registry p hp) hcfg
  constructor
  · dsimp only
    simp only [Table.insert, h.erase_entries hcfg, h.nextId, List.map_cons]
  · dsimp only
    rw [registerWithProtocol, hany]
    split_ifs
    · exact h.registry
    · simp [h.registry, h.nextId, statsEntry]
  · simp [h.nextId]
  · intro c hc
    rcases Table.mem_keys_insert.mp hc with rfl | hc
    · exact hcfg
    · exact h.clear c hc
  · dsimp only
    split_ifs
    · exact h.clear_registry
    · exact List.forall_mem_append.mpr ⟨h.clear_registry, by simpa using hcfg⟩

/-- The registry loses the entries of some forwarders. -/
lemma foldl_removeStats {configs : List ForwarderConfig} (hconfigs : ∀ c ∈ configs, c.Clear)
    {registry : List (ForwarderConfig × ℕ)} (hregistry : ∀ p ∈ registry, p.1.Clear) :
    (configs.map ForwarderConfig.label).foldl removeStats (registry.map statsEntry) =
      (configs.foldl Roster.remove registry).map statsEntry ∧
    ∀ p ∈ configs.foldl Roster.remove registry, p.1.Clear := by
  induction configs generalizing registry with
  | nil => exact ⟨rfl, hregistry⟩
  | cons cfg configs ih =>
    obtain ⟨hcfg, hconfigs⟩ := List.forall_mem_cons.mp hconfigs
    rw [List.map_cons, List.foldl_cons, List.foldl_cons, removeStats_map hcfg hregistry]
    exact ih hconfigs fun p hp => hregistry p (List.mem_filter.mp hp).1

lemma stopOne (h : Represents r m) {cfg : ForwarderConfig} (hcfg : cfg.Clear) :
    Represents (r.stopOne cfg) (m.stopOne cfg.label) := by
  unfold Roster.stopOne Manager.stopOne
  cases hget : m.forwarders.get? cfg.label with
  | none =>
    have hnot : cfg ∉ r.forwarders.keys := fun hmem =>
      Table.get?_eq_none_iff.mp hget ((h.mem_runningLabels hcfg).mpr hmem)
    rw [if_neg hnot]
    exact h
  | some hd =>
    have hmem : cfg ∈ r.forwarders.keys :=
      (h.mem_runningLabels hcfg).mp (Table.mem_keys_iff.mpr ⟨hd, hget⟩)
    rw [if_pos hmem]
    constructor
    · exact h.erase_entries hcfg
    · dsimp only
      rw [h.registry, removeStats_map hcfg h.clear_registry]
    · exact h.nextId
    · intro c hc
      exact h.clear c (Table.mem_keys_erase.mp hc).2
    · intro p hp
      exact h.clear_registry p (List.mem_filter.mp hp).1

lemma foldl_startOne (h : Represents r m) {configs : List ForwarderConfig}
    (hconfigs : ∀ c ∈ configs, c.Clear) :
    Represents (configs.foldl Roster.startOne r) (configs.foldl Manager.startOne m) := by
  induction configs generalizing r m with
  | nil => exact h
  | cons cfg configs ih =>
    exact ih (h.startOne (hconfigs cfg List.mem_cons_self)) fun c hc =>
      hconfigs c (List.mem_cons_of_mem cfg hc)

lemma foldl_stopOne (h : Represents r m) {configs : List ForwarderConfig}
    (hconfigs : ∀ c ∈ configs, c.Clear) :
    Represents (configs.foldl Roster.stopOne r)
      ((configs.map ForwarderConfig.label).foldl Manager.stopOne m) := by
  induction configs generalizing r m with
  | nil => exact h
  | cons cfg configs ih =>
    exact ih (h.stopOne (hconfigs cfg List.mem_cons_self)) fun c hc =>
      hconfigs c (List.mem_cons_of_mem cfg hc)

lemma sync (h : Represents r m) {configs : List ForwarderConfig}
    (hconfigs : ∀ c ∈ configs, c.Clear) : Represents (r.sync configs) (m.sync configs) := by
  have hgone : m.runningLabels.filter (· ∉ configs.map ForwarderConfig.label) =
      (r.forwarders.keys.filter (· ∉ configs)).map ForwarderConfig.label := by
    rw [h.runningLabels, List.filter_map, ← filter_label_not_mem h.clear hconfigs]
    rfl
  have hnew : (configs.filter fun cfg => cfg.label ∉ m.runningLabels) =
      configs.filter (· ∉ r.forwarders.keys) := by
    rw [h.runningLabels, filter_label_not_mem hconfigs h.clear]
  unfold Roster.sync Manager.sync
  dsimp only
  rw [hgone, hnew]
  refine (h.foldl_stopOne fun c hc => ?_).foldl_startOne fun c hc => ?_
  · exact h.clear c (List.mem_filter.mp hc).1
  · exact hconfigs c (List.mem_filter.mp hc).1

lemma shutdownAll (h : Represents r m) : Represents r.shutdownAll m.shutdownAll := by
  obtain ⟨hregistry, hclear⟩ := foldl_removeStats h.clear h.clear_registry
  refine ⟨rfl, ?_, h.nextId, by simp [Roster.shutdownAll, Table.keys, Table.empty], hclear⟩
  unfold Manager.shutdownAll Roster.shutdownAll
  dsimp only
  rw [h.registry, h.runningLabels, hregistry]

end Represents

/-! ## Runs of a manager -/

/-- A call on the manager. -/
inductive ManagerCall
  | startAll (configs : List ForwarderConfig)
  | sync (configs : List ForwarderConfig)
  | updateKnobs (settings : Settings)
  | shutdownAll

namespace ManagerCall

/-- The forwarders that a call names. -/
def configs : ManagerCall → List ForwarderConfig
  | startAll configs | sync configs => configs
  | updateKnobs _ | shutdownAll => []

/-- The manager after a call. -/
def act (m : Manager) : ManagerCall → Manager
  | startAll configs => m.startAll configs
  | sync configs => m.sync configs
  | updateKnobs settings => m.updateKnobs settings
  | shutdownAll => m.shutdownAll

/-- The roster after a call. -/
def actRoster (r : Roster) : ManagerCall → Roster
  | startAll configs => r.startAll configs
  | sync configs => r.sync configs
  | updateKnobs _ => r
  | shutdownAll => r.shutdownAll

end ManagerCall

lemma represents_new (settings : Settings) : Represents Roster.new (Manager.new settings) where
  forwarders := rfl
  registry := rfl
  nextId := rfl
  clear := by simp [Roster.new, Table.keys, Table.empty]
  clear_registry := by simp [Roster.new]

lemma Represents.act {r : Roster} {m : Manager} (h : Represents r m) (call : ManagerCall)
    (hcall : ∀ c ∈ call.configs, c.Clear) : Represents (call.actRoster r) (call.act m) := by
  cases call with
  | startAll configs => exact h.foldl_startOne hcall
  | sync configs => exact h.sync hcall
  | updateKnobs settings =>
    exact ⟨h.forwarders, h.registry, h.nextId, h.clear, h.clear_registry⟩
  | shutdownAll => exact h.shutdownAll

lemma Represents.acts {r : Roster} {m : Manager} (h : Represents r m) {calls : List ManagerCall}
    (hcalls : ∀ call ∈ calls, ∀ c ∈ call.configs, c.Clear) :
    Represents (calls.foldl ManagerCall.actRoster r) (calls.foldl ManagerCall.act m) := by
  induction calls generalizing r m with
  | nil => exact h
  | cons call calls ih =>
    exact ih (h.act call (hcalls call List.mem_cons_self)) fun call' hcall' =>
      hcalls call' (List.mem_cons_of_mem call hcall')

/-- The sorted labels of the forwarders of one roster that another does not have. -/
def Roster.labelsWithout (r r' : Roster) : List Str :=
  ((r.forwarders.keys.filter (· ∉ r'.forwarders.keys)).map ForwarderConfig.label).insertionSort
    (· ≤ ·)

lemma Represents.labelsMinus {r r' : Roster} {m m' : Manager} (h : Represents r m)
    (h' : Represents r' m') :
    Rfw.labelsMinus m.runningLabels m'.runningLabels = r.labelsWithout r' := by
  rw [h.runningLabels, h'.runningLabels, labelsMinus_map h.clear h'.clear]
  rfl

/-- A reload reports the forwarders that came and those that went. -/
lemma Represents.reload {ext : Externals} {p : Process} {file : File} {c : LoadedConfig}
    {r : Roster} (h : Represents r p.manager) (hsource : p.source = .file)
    (hload : loadYamlConfig ext file = .ok c) (hconfigs : ∀ d ∈ c.forwarders, d.Clear) :
    (Rfw.reload ext p file).2 = .configReloaded (r.sync c.forwarders).forwarders.keys.length
      ((r.sync c.forwarders).labelsWithout r) (r.labelsWithout (r.sync c.forwarders)) := by
  have hknobs := h.act (.updateKnobs (applyCliOverrides c.settings p.cli)) (by
    simp [ManagerCall.configs])
  have hafter := hknobs.sync hconfigs
  have hadded := hafter.labelsMinus h
  have hremoved := h.labelsMinus hafter
  have hlength := congrArg List.length hafter.runningLabels
  rw [List.length_map] at hlength
  simp only [ManagerCall.act, ManagerCall.actRoster] at hadded hremoved hlength
  simp only [Rfw.reload, hload, hsource, if_true, hadded, hremoved, hlength]

/-- **Labels identify forwarders** whose local hosts do not contain the arrow.  So a manager that
is given such forwarders keeps its handles and its registry as if they were keyed by the forwarders
themselves, and a reload reports the forwarders that came and those that went. -/
theorem labels_identify :
    (∀ c c' : ForwarderConfig, ¬ arrow <:+: c.localHost → ¬ arrow <:+: c'.localHost →
      c.label = c'.label →
      c.localHost = c'.localHost ∧ c.localPort = c'.localPort ∧ c.remoteHost = c'.remoteHost ∧
        c.remotePort = c'.remotePort ∧ c.protocol = c'.protocol) ∧
    (∀ (settings : Settings) (calls : List ManagerCall),
      (∀ call ∈ calls, ∀ c ∈ call.configs, ¬ arrow <:+: c.localHost) →
      let m := calls.foldl ManagerCall.act (Manager.new settings)
      let r := calls.foldl ManagerCall.actRoster Roster.new
      Represents r m ∧
      (∀ c h, ¬ arrow <:+: c.localHost → m.forwarders.get? c.label = some h → h.cfg = c) ∧
      ∀ ext p file c, p.manager = m → p.source = .file → loadYamlConfig ext file = .ok c →
        (∀ d ∈ c.forwarders, ¬ arrow <:+: d.localHost) →
        let r' := r.sync c.forwarders
        (reload ext p file).2 = .configReloaded r'.forwarders.keys.length (r'.labelsWithout r)
          (r.labelsWithout r')) := by
  refine ⟨fun c c' hc hc' h => ?_, fun settings calls hcalls => ?_⟩
  · obtain rfl := ForwarderConfig.eq_of_label_eq hc hc' h
    exact ⟨rfl, rfl, rfl, rfl, rfl⟩
  · have hrep := (represents_new settings).acts hcalls
    refine ⟨hrep, fun c h hc hget => ((hrep.get?_iff hc).mp hget).2, ?_⟩
    intro ext p file c hmanager hsource hload hconfigs
    exact Represents.reload (hmanager ▸ hrep) hsource hload hconfigs

end Rfw
