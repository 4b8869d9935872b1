/-
# A reload, section by section

`sync` stops what is not wanted any more and then starts what is new, one lock-protected section
after the other.  The results of this file hold at every point in between: no two forwarders of the
map claim one local address, and a forwarder that both lists have is not touched
(`sync_consistent`).

The lists are those that the loader accepts: no two forwarders of a list share their protocol,
local host and local port.  A forwarder is looked up by its label, so the local hosts must not
contain the arrow of a label.
-/
import Rfw.Config.Labels
import Rfw.Manager.Reload
import Rfw.Manager.Sections

namespace Rfw

open Lib

namespace Sections

/-- A list that the loader accepts, with local hosts that leave the labels readable. -/
structure Accepted (configs : List ForwarderConfig) : Prop where
  distinct : (configs.map ForwarderConfig.endpoint).Nodup
  no_arrow : ∀ c ∈ configs, ¬ arrow <:+: c.localHost

/-- The manager runs the forwarders of a list, each under its label and with one entry of the
stats registry; `extra` are labels that have an entry and no forwarder. -/
structure Runs (m : Manager) (configs : List ForwarderConfig) (extra : List Str) : Prop where
  handles : ∀ l h, m.forwarders.get? l = some h → h.cfg ∈ configs ∧ h.cfg.label = l
  labels : ∀ c ∈ configs, c.label ∈ m.runningLabels
  nodup : (registryLabels m.statsRegistry).Nodup
  registry : ∀ l, l ∈ registryLabels m.statsRegistry ↔ l ∈ m.runningLabels ∨ l ∈ extra

/-- What `sync` leaves alone: the handles and the stats of the labels that ran before and are in
the new list. -/
structure Keeps (m₀ : Manager) (new : List ForwarderConfig) (m : Manager) : Prop where
  handle : ∀ l ∈ m₀.runningLabels, l ∈ new.map ForwarderConfig.label →
    m.forwarders.get? l = m₀.forwarders.get? l
  stats : ∀ e : StatsEntry, e.label ∈ m₀.runningLabels → e.label ∈ new.map ForwarderConfig.label →
    (e ∈ m.statsRegistry ↔ e ∈ m₀.statsRegistry)

/-- The stop loop with `labels` still to stop: what runs is of the old list. -/
structure Stopping (m₀ : Manager) (old new : List ForwarderConfig) (labels : List Str)
    (toStart : List ForwarderConfig) (extra : List Str) (m : Manager) : Prop where
  toStart_eq : toStart = new.filter fun c => c.label ∉ m₀.runningLabels
  gone : ∀ l, l ∈ labels ∨ l ∈ extra → l ∉ new.map ForwarderConfig.label
  runs : ∃ cs, Runs m cs extra ∧
    (∀ c ∈ cs, c ∈ old ∧ (c.label ∈ new.map ForwarderConfig.label ∨ c.label ∈ labels)) ∧
    ∀ c ∈ old, c.label ∈ new.map ForwarderConfig.label → c ∈ cs
  keeps : Keeps m₀ new m

/-- The start loop with `toStart` still to start: what runs is of the new list. -/
structure Starting (m₀ : Manager) (new toStart : List ForwarderConfig) (extra : List Str)
    (m : Manager) : Prop where
  fresh : ∀ c ∈ toStart, c.label ∉ m₀.runningLabels
  runs : ∃ cs, Runs m cs extra ∧ ∀ c, c ∈ new ↔ c ∈ cs ∨ c ∈ toStart
  keeps : Keeps m₀ new m

/-- The invariant of a call of `sync`. -/
def SyncInv (m₀ : Manager) (old new : List ForwarderConfig) (m : Manager) : SyncPhase → Prop
  | .snapshot configs => configs = new ∧ m = m₀
  | .stopping labels toStart => Stopping m₀ old new labels toStart [] m
  | .reaping label labels toStart =>
      Stopping m₀ old new labels toStart [label] m ∧ label ∉ m.runningLabels
  | .starting toStart => Starting m₀ new toStart [] m
  | .registering cfg toStart =>
      Starting m₀ new (cfg :: toStart) [] m ∧ cfg.label ∉ m.runningLabels
  | .registeringMonitor cfg toStart =>
      Starting m₀ new (cfg :: toStart) [cfg.label] m ∧ cfg.label ∉ m.runningLabels
  | .inserting cfg toStart =>
      Starting m₀ new (cfg :: toStart) [cfg.label] m ∧ cfg.label ∉ m.runningLabels
  | .done => Starting m₀ new [] [] m

/-! ## What one section does to the running forwarders -/

section Runs

variable {m : Manager} {cs : List ForwarderConfig} {extra : List Str}

/-- A handle is taken out; its stats stay for the moment. -/
lemma Runs.erase (h : Runs m cs []) (label : Str) (hrunning : label ∈ m.runningLabels) :
    Runs { m with forwarders := m.forwarders.erase label }
      (cs.filter fun c => c.label ≠ label) [label] where
  handles := by
    intro l hd hget
    have hne : l ≠ label := by
      rintro rfl
      rw [show m.forwarders.erase l = _ from rfl, Table.get?_erase_self] at hget
      cases hget
    rw [Table.get?_erase_of_ne _ hne] at hget
    obtain ⟨hmem, hlabel⟩ := h.handles l hd hget
    refine ⟨List.mem_filter.mpr ⟨hmem, ?_⟩, hlabel⟩
    simpa [hlabel] using hne
  labels := by
    intro c hc
    obtain ⟨hmem, hne⟩ := List.mem_filter.mp hc
    exact Table.mem_keys_erase.mpr ⟨by simpa using hne, h.labels c hmem⟩
  nodup := h.nodup
  registry := by
    intro l
    rw [h.registry, List.mem_singleton]
    show _ ↔ l ∈ (m.forwarders.erase label).keys ∨ l = label
    rw [Table.mem_keys_erase]
    constructor
    · rintro (hl | hl)
      · by_cases heq : l = label
        · exact Or.inr heq
        · exact Or.inl ⟨heq, hl⟩
      · cases hl
    · rintro (⟨-, hl⟩ | rfl)
      · exact Or.inl hl
      · exact Or.inl hrunning

/-- The stats of a label without a forwarder are removed. -/
lemma Runs.removeStats {label : Str} (h : Runs m cs [label]) (hnot : label ∉ m.runningLabels) :
    Runs { m with statsRegistry := removeStats m.statsRegistry label } cs [] where
  handles := h.handles
  labels := h.labels
  nodup := nodup_remove h.nodup
  registry := by
    intro l
    show l ∈ registryLabels (Rfw.removeStats m.statsRegistry label) ↔ l ∈ m.runningLabels ∨ l ∈ []
    rw [mem_registryLabels_remove, h.registry, List.mem_singleton]
    constructor
    · rintro ⟨hl | hl, hne⟩
      · exact Or.inl hl
      · exact absurd hl hne
    · rintro (hl | hl)
      · exact ⟨Or.inl hl, fun heq => hnot (heq ▸ hl)⟩
      · cases hl

/-- The stats of a forwarder that is being started are registered. -/
lemma Runs.register {label : Str} (h : Runs m cs extra) (hextra : ∀ l ∈ extra, l = label)
    (protocol : Protocol) (id nextId : ℕ) :
    Runs { m with
      statsRegistry := registerWithProtocol m.statsRegistry label protocol id
      nextId := nextId } cs [label] where
  handles := h.handles
  labels := h.labels
  nodup := nodup_register h.nodup
  registry := by
    intro l
    show l ∈ registryLabels (registerWithProtocol m.statsRegistry label protocol id) ↔
      l ∈ m.runningLabels ∨ l ∈ [label]
    rw [mem_registryLabels_register, h.registry, List.mem_singleton]
    constructor
    · rintro ((hl | hl) | hl)
      · exact Or.inl hl
      · exact Or.inr (hextra l hl)
      · exact Or.inr hl
    · rintro (hl | hl)
      · exact Or.inl (Or.inl hl)
      · exact Or.inr hl

/-- The handle of a forwarder whose stats are registered is inserted. -/
lemma Runs.insert {cfg : ForwarderConfig} (h : Runs m cs [cfg.label]) (id nextId : ℕ) :
    Runs { m with forwarders := m.forwarders.insert cfg.label ⟨id, cfg⟩, nextId := nextId }
      (cfg :: cs) [] where
  handles := by
    intro l hd hget
    rw [show ({ m with forwarders := m.forwarders.insert cfg.label ⟨id, cfg⟩, nextId := nextId } :
      Manager).forwarders = m.forwarders.insert cfg.label ⟨id, cfg⟩ from rfl,
      Table.get?_insert] at hget
    split at hget
    · rename_i heq
      obtain rfl := Option.some.inj hget
      exact ⟨List.mem_cons_self, heq.symm⟩
    · obtain ⟨hmem, hlabel⟩ := h.handles l hd hget
      exact ⟨List.mem_cons_of_mem cfg hmem, hlabel⟩
  labels := by
    intro c hc
    refine Table.mem_keys_insert.mpr ?_
    rcases List.mem_cons.mp hc with rfl | hc
    · exact Or.inl rfl
    · exact Or.inr (h.labels c hc)
  nodup := h.nodup
  registry := by
    intro l
    rw [h.registry, List.mem_singleton]
    show _ ↔ l ∈ (m.forwarders.insert cfg.label ⟨id, cfg⟩).keys ∨ l ∈ []
    rw [Table.mem_keys_insert]
    constructor
    · rintro (hl | hl)
      · exact Or.inl (Or.inr hl)
      · exact Or.inl (Or.inl hl)
    · rintro ((hl | hl) | hl)
      · exact Or.inr hl
      · exact Or.inl hl
      · cases hl

/-- A forwarder whose label runs already is skipped. -/
lemma Runs.skip (h : Runs m cs extra) {cfg : ForwarderConfig}
    (hrunning : cfg.label ∈ m.runningLabels) : Runs m (cfg :: cs) extra where
  handles := fun l hd hget => (h.handles l hd hget).imp_left (List.mem_cons_of_mem cfg)
  labels := by
    intro c hc
    rcases List.mem_cons.mp hc with rfl | hc
    · exact hrunning
    · exact h.labels c hc
  nodup := h.nodup
  registry := h.registry

/-- A whole `start_one`. -/
lemma Runs.startOne (h : Runs m cs []) (cfg : ForwarderConfig) :
    Runs (m.startOne cfg) (cfg :: cs) [] := by
  simp only [Manager.startOne]
  split
  · rename_i hrunning
    exact h.skip hrunning
  · have hextra : ∀ l ∈ ([] : List Str), l = cfg.label := List.forall_mem_nil _
    exact (h.register hextra cfg.protocol m.nextId (m.nextId + 1)).insert (m.nextId + 1)
      (m.nextId + 2)

lemma Runs.congr (h : Runs m cs extra) {cs' : List ForwarderConfig} (hcs : ∀ c, c ∈ cs ↔ c ∈ cs') :
    Runs m cs' extra where
  handles := fun l hd hget => (h.handles l hd hget).imp_left (hcs _).mp
  labels := fun c hc => h.labels c ((hcs c).mpr hc)
  nodup := h.nodup
  registry := h.registry

/-- `start_all` on a manager that runs a list. -/
lemma Runs.startAll (h : Runs m cs []) (configs : List ForwarderConfig) :
    Runs (m.startAll configs) (configs ++ cs) [] := by
  induction configs generalizing m cs with
  | nil => exact h
  | cons cfg configs ih =>
    refine (ih (h.startOne cfg)).congr fun c => ?_
    simp only [List.mem_append, List.mem_cons]
    tauto

lemma runs_new (settings : Settings) : Runs (Manager.new settings) [] [] where
  handles := by
    intro l hd hget
    cases hget
  labels := by simp
  nodup := List.nodup_nil
  registry := by
    intro l
    simp [Manager.new, registryLabels, Manager.runningLabels, Table.keys, Table.empty]

/-- Two forwarders of a list that the loader accepts have different local addresses. -/
lemma Runs.eq_of_localAddr_eq (h : Runs m cs extra) {configs : List ForwarderConfig}
    (hconfigs : Accepted configs) (hcs : ∀ c ∈ cs, c ∈ configs) {l l' : Str}
    {hd hd' : ForwarderHandle} (hl : m.forwarders.get? l = some hd)
    (hl' : m.forwarders.get? l' = some hd') (hprotocol : hd.cfg.protocol = hd'.cfg.protocol)
    (haddr : hd.cfg.localAddr = hd'.cfg.localAddr) : l = l' := by
  obtain ⟨hmem, rfl⟩ := h.handles l hd hl
  obtain ⟨hmem', rfl⟩ := h.handles l' hd' hl'
  obtain ⟨hhost, hport⟩ := ForwarderConfig.localAddr_inj haddr
  have hendpoint : hd.cfg.endpoint = hd'.cfg.endpoint := by
    simp only [ForwarderConfig.endpoint, hprotocol, hhost, hport]
  have hcfg : hd.cfg = hd'.cfg :=
    List.inj_on_of_nodup_map hconfigs.distinct (hcs _ hmem) (hcs _ hmem') hendpoint
  rw [hcfg]

end Runs

/-! ## What `sync` leaves alone -/

section Keeps

variable {m₀ m : Manager} {new : List ForwarderConfig}

lemma Keeps.refl (m₀ : Manager) (new : List ForwarderConfig) : Keeps m₀ new m₀ :=
  ⟨fun _ _ _ => rfl, fun _ _ _ => Iff.rfl⟩

lemma Keeps.erase (h : Keeps m₀ new m) {label : Str}
    (hgone : label ∉ new.map ForwarderConfig.label) :
    Keeps m₀ new { m with forwarders := m.forwarders.erase label } where
  handle := by
    intro l hrunning hnew
    have hne : l ≠ label := fun heq => hgone (heq ▸ hnew)
    exact (Table.get?_erase_of_ne _ hne).trans (h.handle l hrunning hnew)
  stats := h.stats

lemma Keeps.removeStats (h : Keeps m₀ new m) {label : Str}
    (hgone : label ∉ new.map ForwarderConfig.label) :
    Keeps m₀ new { m with statsRegistry := Rfw.removeStats m.statsRegistry label } where
  handle := h.handle
  stats := by
    intro e hrunning hnew
    have hne : e.label ≠ label := fun heq => hgone (heq ▸ hnew)
    refine Iff.trans mem_removeStats (Iff.trans ?_ (h.stats e hrunning hnew))
    exact and_iff_left hne

lemma Keeps.register (h : Keeps m₀ new m) {label : Str} (hfresh : label ∉ m₀.runningLabels)
    (protocol : Protocol) (id nextId : ℕ) :
    Keeps m₀ new { m with
      statsRegistry := registerWithProtocol m.statsRegistry label protocol id
      nextId := nextId } where
  handle := h.handle
  stats := by
    intro e hrunning hnew
    have hne : e.label ≠ label := fun heq => hfresh (heq ▸ hrunning)
    exact (mem_registerWithProtocol hne).trans (h.stats e hrunning hnew)

lemma Keeps.insert (h : Keeps m₀ new m) {label : Str} (hfresh : label ∉ m₀.runningLabels)
    (hd : ForwarderHandle) (nextId : ℕ) :
    Keeps m₀ new { m with forwarders := m.forwarders.insert label hd, nextId := nextId } where
  handle := by
    intro l hrunning hnew
    have hne : l ≠ label := fun heq => hfresh (heq ▸ hrunning)
    exact (Table.get?_insert_of_ne _ hd hne).trans (h.handle l hrunning hnew)
  stats := h.stats

end Keeps

/-! ## The invariant of a call -/

section Invariant

variable {m₀ m : Manager} {old new toStart : List ForwarderConfig} {labels : List Str}

/-- The labels are read: what is not in the new list is stopped first. -/
lemma stopping_snapshot (hold : Runs m₀ old []) {order : List Str}
    (horder : order.Perm (m₀.runningLabels.filter (· ∉ new.map ForwarderConfig.label))) :
    Stopping m₀ old new order (new.filter fun c => c.label ∉ m₀.runningLabels) [] m₀ where
  toStart_eq := rfl
  gone := by
    rintro l (hl | hl)
    · have hmem := horder.mem_iff.mp hl
      simpa using (List.mem_filter.mp hmem).2
    · cases hl
  runs := by
    refine ⟨old, hold, fun c hc => ⟨hc, ?_⟩, fun c hc _ => hc⟩
    by_cases hnew : c.label ∈ new.map ForwarderConfig.label
    · exact Or.inl hnew
    · refine Or.inr (horder.mem_iff.mpr (List.mem_filter.mpr ⟨hold.labels c hc, ?_⟩))
      simpa using hnew
  keeps := Keeps.refl m₀ new

/-- A label that does not run any more is passed over. -/
lemma Stopping.skip {label : Str} (h : Stopping m₀ old new (label :: labels) toStart [] m)
    (hnone : m.forwarders.get? label = none) : Stopping m₀ old new labels toStart [] m where
  toStart_eq := h.toStart_eq
  gone := fun l hl => h.gone l (hl.imp_left (List.mem_cons_of_mem label))
  runs := by
    obtain ⟨cs, hruns, hcs, hkept⟩ := h.runs
    refine ⟨cs, hruns, fun c hc => ⟨(hcs c hc).1, ?_⟩, hkept⟩
    rcases (hcs c hc).2 with hnew | hlabels
    · exact Or.inl hnew
    · rcases List.mem_cons.mp hlabels with heq | hlabels
      · exact absurd (heq ▸ hruns.labels c hc) (Table.get?_eq_none_iff.mp hnone)
      · exact Or.inr hlabels
  keeps := h.keeps

/-- The handle of a label is taken out. -/
lemma Stopping.take {label : Str} {hd : ForwarderHandle}
    (h : Stopping m₀ old new (label :: labels) toStart [] m)
    (hsome : m.forwarders.get? label = some hd) :
    Stopping m₀ old new labels toStart [label]
      { m with forwarders := m.forwarders.erase label } where
  toStart_eq := h.toStart_eq
  gone := by
    rintro l (hl | hl)
    · exact h.gone l (Or.inl (List.mem_cons_of_mem label hl))
    · exact h.gone l (Or.inl (by simpa using Or.inl (List.mem_singleton.mp hl)))
  runs := by
    obtain ⟨cs, hruns, hcs, hkept⟩ := h.runs
    have hrunning : label ∈ m.runningLabels := Table.mem_keys_iff.mpr ⟨hd, hsome⟩
    refine ⟨_, hruns.erase label hrunning, fun c hc => ?_, fun c hc hnew => ?_⟩
    · obtain ⟨hmem, hne⟩ := List.mem_filter.mp hc
      refine ⟨(hcs c hmem).1, (hcs c hmem).2.imp_right fun hlabels => ?_⟩
      rcases List.mem_cons.mp hlabels with heq | hlabels
      · exact absurd heq (by simpa using hne)
      · exact hlabels
    · refine List.mem_filter.mpr ⟨hkept c hc hnew, ?_⟩
      have hgone := h.gone label (Or.inl List.mem_cons_self)
      simpa using fun heq : c.label = label => hgone (heq ▸ hnew)
  keeps := h.keeps.erase (h.gone label (Or.inl List.mem_cons_self))

/-- The stats of a stopped forwarder are removed. -/
lemma Stopping.reap {label : Str} (h : Stopping m₀ old new labels toStart [label] m)
    (hnot : label ∉ m.runningLabels) :
    Stopping m₀ old new labels toStart []
      { m with statsRegistry := removeStats m.statsRegistry label } where
  toStart_eq := h.toStart_eq
  gone := by
    rintro l (hl | hl)
    · exact h.gone l (Or.inl hl)
    · cases hl
  runs := by
    obtain ⟨cs, hruns, hcs, hkept⟩ := h.runs
    exact ⟨cs, hruns.removeStats hnot, hcs, hkept⟩
  keeps := h.keeps.removeStats (h.gone label (Or.inr (List.mem_singleton_self label)))

/-- Once the stop loop is over, everything that runs is of the new list. -/
lemma Stopping.start (h : Stopping m₀ old new [] toStart [] m) (hm₀ : Runs m₀ old [])
    (hold : Accepted old) (hnew : Accepted new) : Starting m₀ new toStart [] m where
  fresh := by
    intro c hc
    rw [h.toStart_eq] at hc
    simpa using (List.mem_filter.mp hc).2
  runs := by
    obtain ⟨cs, hruns, hcs, hkept⟩ := h.runs
    -- a label of both lists stands for one and the same forwarder
    have hsame : ∀ c ∈ old, ∀ c' ∈ new, c.label = c'.label → c = c' := fun c hc c' hc' =>
      ForwarderConfig.eq_of_label_eq (hold.no_arrow c hc) (hnew.no_arrow c' hc')
    refine ⟨cs, hruns, fun c => ⟨fun hc => ?_, ?_⟩⟩
    · by_cases hrunning : c.label ∈ m₀.runningLabels
      · obtain ⟨hd, hget⟩ := Table.mem_keys_iff.mp hrunning
        obtain ⟨hmem, hlabel⟩ := hm₀.handles _ hd hget
        have heq := hsame hd.cfg hmem c hc hlabel
        rw [heq] at hmem
        exact Or.inl (hkept c hmem (List.mem_map_of_mem hc))
      · refine Or.inr ?_
        rw [h.toStart_eq]
        exact List.mem_filter.mpr ⟨hc, by simpa using hrunning⟩
    · rintro (hc | hc)
      · obtain ⟨hmem, hlabel | hlabel⟩ := hcs c hc
        · obtain ⟨c', hc', hlabel⟩ := List.mem_map.mp hlabel
          rw [hsame c hmem c' hc' hlabel.symm]
          exact hc'
        · cases hlabel
      · rw [h.toStart_eq] at hc
        exact (List.mem_filter.mp hc).1
  keeps := h.keeps

variable {cfg : ForwarderConfig}

/-- A forwarder whose label runs already is passed over. -/
lemma Starting.skip (h : Starting m₀ new (cfg :: toStart) [] m)
    (hrunning : cfg.label ∈ m.runningLabels) : Starting m₀ new toStart [] m where
  fresh := fun c hc => h.fresh c (List.mem_cons_of_mem cfg hc)
  runs := by
    obtain ⟨cs, hruns, hcs⟩ := h.runs
    refine ⟨cfg :: cs, hruns.skip hrunning, fun c => ?_⟩
    rw [hcs, List.mem_cons, List.mem_cons]
    tauto
  keeps := h.keeps

/-- The stats of a new forwarder are registered. -/
lemma Starting.register {extra : List Str} (h : Starting m₀ new (cfg :: toStart) extra m)
    (hextra : ∀ l ∈ extra, l = cfg.label) (protocol : Protocol) (id nextId : ℕ) :
    Starting m₀ new (cfg :: toStart) [cfg.label] { m with
      statsRegistry := registerWithProtocol m.statsRegistry cfg.label protocol id
      nextId := nextId } where
  fresh := h.fresh
  runs := by
    obtain ⟨cs, hruns, hcs⟩ := h.runs
    exact ⟨cs, hruns.register hextra protocol id nextId, hcs⟩
  keeps := h.keeps.register (h.fresh cfg List.mem_cons_self) protocol id nextId

/-- The handle of a new forwarder is inserted. -/
lemma Starting.insert (h : Starting m₀ new (cfg :: toStart) [cfg.label] m) (id nextId : ℕ) :
    Starting m₀ new toStart []
      { m with forwarders := m.forwarders.insert cfg.label ⟨id, cfg⟩, nextId := nextId } where
  fresh := fun c hc => h.fresh c (List.mem_cons_of_mem cfg hc)
  runs := by
    obtain ⟨cs, hruns, hcs⟩ := h.runs
    refine ⟨cfg :: cs, hruns.insert id nextId, fun c => ?_⟩
    rw [hcs, List.mem_cons, List.mem_cons]
    tauto
  keeps := h.keeps.insert (h.fresh cfg List.mem_cons_self) _ nextId

/-- Each section of `sync` keeps the invariant. -/
lemma SyncInv.move {phase phase' : SyncPhase} {m' : Manager} (hm₀ : Runs m₀ old [])
    (hold : Accepted old) (hnew : Accepted new) (h : SyncInv m₀ old new m phase)
    (hmove : SyncMove m phase m' phase') : SyncInv m₀ old new m' phase' := by
  cases hmove with
  | snapshot configs order horder =>
    obtain ⟨rfl, rfl⟩ := h
    exact stopping_snapshot hm₀ horder
  | stopped toStart => exact Stopping.start h hm₀ hold hnew
  | missing label labels toStart hnone => exact Stopping.skip h hnone
  | taken label labels toStart hd hsome =>
    exact ⟨Stopping.take h hsome, fun hmem => (Table.mem_keys_erase.mp hmem).1 rfl⟩
  | reaped label labels toStart => exact h.1.reap h.2
  | started => exact h
  | skipped cfg toStart hrunning => exact Starting.skip h hrunning
  | checked cfg toStart hnot => exact ⟨h, hnot⟩
  | registered cfg toStart =>
    exact ⟨h.1.register (by simp) cfg.protocol m.nextId (m.nextId + 1), h.2⟩
  | registeredMonitor cfg toStart =>
    exact ⟨h.1.register (by simp) cfg.protocol m.nextId m.nextId, h.2⟩
  | inserted cfg toStart => exact h.1.insert m.nextId (m.nextId + 1)

/-- Every section of a call of `sync` that runs alone keeps the invariant. -/
lemma syncInv_step (hm₀ : Runs m₀ old []) (hold : Accepted old) (hnew : Accepted new) (s : State)
    (i : Input) (s' : State)
    (hs : s.shutdown = .notCalled ∧ SyncInv m₀ old new s.manager s.sync)
    (hstep : step s i = some s') :
    s'.shutdown = .notCalled ∧ SyncInv m₀ old new s'.manager s'.sync := by
  obtain ⟨hshutdown, hmove⟩ := move_of_step_notCalled hs.1 hstep
  exact ⟨hshutdown, hs.2.move hm₀ hold hnew hmove⟩

/-- The invariant at every point of a call of `sync`. -/
lemma syncInv_run (hm₀ : Runs m₀ old []) (hold : Accepted old) (hnew : Accepted new)
    {is : List Input} {s : State} (hrun : run step (callSync m₀ new) is = some s) :
    SyncInv m₀ old new s.manager s.sync := by
  have hinit : SyncInv m₀ old new (callSync m₀ new).manager (callSync m₀ new).sync := ⟨rfl, rfl⟩
  have hinv : s.shutdown = .notCalled ∧ SyncInv m₀ old new s.manager s.sync :=
    run_invariant (syncInv_step hm₀ hold hnew) ⟨rfl, hinit⟩ hrun
  exact hinv.2

/-- What the invariant says of the manager: it runs part of one of the two lists. -/
lemma SyncInv.runs {phase : SyncPhase} (h : SyncInv m₀ old new m phase) (hm₀ : Runs m₀ old []) :
    ∃ cs extra, Runs m cs extra ∧ ((∀ c ∈ cs, c ∈ old) ∨ ∀ c ∈ cs, c ∈ new) := by
  have hstop : ∀ {labels toStart extra}, Stopping m₀ old new labels toStart extra m →
      ∃ cs extra, Runs m cs extra ∧ ((∀ c ∈ cs, c ∈ old) ∨ ∀ c ∈ cs, c ∈ new) := by
    intro labels toStart extra h
    obtain ⟨cs, hruns, hcs, -⟩ := h.runs
    exact ⟨cs, extra, hruns, Or.inl fun c hc => (hcs c hc).1⟩
  have hstart : ∀ {toStart extra}, Starting m₀ new toStart extra m →
      ∃ cs extra, Runs m cs extra ∧ ((∀ c ∈ cs, c ∈ old) ∨ ∀ c ∈ cs, c ∈ new) := by
    intro toStart extra h
    obtain ⟨cs, hruns, hcs⟩ := h.runs
    exact ⟨cs, extra, hruns, Or.inr fun c hc => (hcs c).mpr (Or.inl hc)⟩
  cases phase with
  | snapshot configs =>
    obtain ⟨-, rfl⟩ := h
    exact ⟨old, [], hm₀, Or.inl fun _ hc => hc⟩
  | stopping labels toStart => exact hstop h
  | reaping label labels toStart => exact hstop h.1
  | starting toStart => exact hstart h
  | registering cfg toStart => exact hstart h.1
  | registeringMonitor cfg toStart => exact hstart h.1
  | inserting cfg toStart => exact hstart h.1
  | done => exact hstart h

lemma SyncInv.keeps {phase : SyncPhase} (h : SyncInv m₀ old new m phase) : Keeps m₀ new m := by
  cases phase with
  | snapshot configs =>
    obtain ⟨-, rfl⟩ := h
    exact Keeps.refl m new
  | stopping labels toStart => exact Stopping.keeps h
  | reaping label labels toStart => exact h.1.keeps
  | starting toStart => exact Starting.keeps h
  | registering cfg toStart => exact h.1.keeps
  | registeringMonitor cfg toStart => exact h.1.keeps
  | inserting cfg toStart => exact h.1.keeps
  | done => exact Starting.keeps h

/-- At the end of `sync` the manager runs the new list. -/
lemma SyncInv.runs_of_done (h : SyncInv m₀ old new m .done) : Runs m new [] := by
  obtain ⟨cs, hruns, hcs⟩ := Starting.runs h
  refine hruns.congr fun c => ?_
  rw [hcs]
  simp

end Invariant

/-- Every manager that is reached runs the list that it was given last. -/
lemma Reached.runs {m : Manager} {configs : List ForwarderConfig}
    (h : Reached Accepted m configs) : Runs m configs [] ∧ Accepted configs := by
  induction h with
  | start settings configs h =>
    refine ⟨?_, h⟩
    have hruns := (runs_new settings).startAll configs
    rwa [List.append_nil] at hruns
  | updateKnobs settings _ ih =>
    obtain ⟨⟨hhandles, hlabels, hnodup, hregistry⟩, haccepted⟩ := ih
    exact ⟨⟨hhandles, hlabels, hnodup, hregistry⟩, haccepted⟩
  | sync _ hnew hrun hdone ih =>
    have hinv := syncInv_run ih.1 ih.2 hnew hrun
    rw [hdone] at hinv
    exact ⟨hinv.runs_of_done, hnew⟩

/-! ## The sections of `sync` make up `sync` -/

/-- Some sections lead from one state to another. -/
def Reaches (s t : State) : Prop := ∃ is, run step s is = some t

lemma Reaches.trans {s t u : State} (h : Reaches s t) (h' : Reaches t u) : Reaches s u := by
  obtain ⟨is, his⟩ := h
  obtain ⟨js, hjs⟩ := h'
  exact ⟨is ++ js, run_append.mpr ⟨t, his, hjs⟩⟩

lemma reaches_of_syncStep {s : State} {m : Manager} {phase : SyncPhase} (order : List Str)
    (h : syncStep s.manager order s.sync = some (m, phase)) :
    Reaches s { s with manager := m, sync := phase } :=
  ⟨[.sync order], by simp [run_cons, step, h]⟩

lemma reaches_stops (m : Manager) (labels : List Str) (toStart : List ForwarderConfig)
    (shutdown : ShutdownPhase) :
    Reaches ⟨m, .stopping labels toStart, shutdown⟩
      ⟨labels.foldl Manager.stopOne m, .starting toStart, shutdown⟩ := by
  induction labels generalizing m with
  | nil => exact reaches_of_syncStep [] rfl
  | cons label labels ih =>
    refine Reaches.trans ?_ (ih (m.stopOne label))
    cases hget : m.forwarders.get? label with
    | none =>
      have hstop : m.stopOne label = m := by simp only [Manager.stopOne, hget]
      rw [hstop]
      exact reaches_of_syncStep [] (by simp only [syncStep, hget])
    | some hd =>
      have hstop : m.stopOne label =
          { m with
            forwarders := m.forwarders.erase label
            statsRegistry := removeStats m.statsRegistry label } := by
        simp only [Manager.stopOne, hget]
      rw [hstop]
      exact (reaches_of_syncStep (s := ⟨m, .stopping (label :: labels) toStart, shutdown⟩)
        [] (by simp only [syncStep, hget]; rfl)).trans
          (reaches_of_syncStep [] rfl)

lemma reaches_starts (m : Manager) (toStart : List ForwarderConfig) (shutdown : ShutdownPhase) :
    Reaches ⟨m, .starting toStart, shutdown⟩
      ⟨toStart.foldl Manager.startOne m, .done, shutdown⟩ := by
  induction toStart generalizing m with
  | nil => exact reaches_of_syncStep [] rfl
  | cons cfg toStart ih =>
    refine Reaches.trans ?_ (ih (m.startOne cfg))
    by_cases hrunning : cfg.label ∈ m.runningLabels
    · have hstart : m.startOne cfg = m := by simp only [Manager.startOne, hrunning, if_true]
      rw [hstart]
      exact reaches_of_syncStep [] (by simp only [syncStep, hrunning, if_true])
    · -- the second registration finds the entry that the first one made
      have hregistered : cfg.label ∈ registryLabels
          (registerWithProtocol m.statsRegistry cfg.label cfg.protocol m.nextId) :=
        mem_registryLabels_register.mpr (Or.inr rfl)
      have hstart : m.startOne cfg =
          { m with
            statsRegistry := registerWithProtocol
              (registerWithProtocol m.statsRegistry cfg.label cfg.protocol m.nextId)
              cfg.label cfg.protocol (m.nextId + 1)
            forwarders := m.forwarders.insert cfg.label ⟨m.nextId + 1, cfg⟩
            nextId := m.nextId + 2 } := by
        rw [register_of_mem hregistered]
        simp only [Manager.startOne, hrunning, if_false]
      rw [hstart]
      have hcheck : Reaches ⟨m, .starting (cfg :: toStart), shutdown⟩
          ⟨m, .registering cfg toStart, shutdown⟩ :=
        reaches_of_syncStep [] (by simp only [syncStep, hrunning, if_false])
      exact hcheck.trans ((reaches_of_syncStep [] rfl).trans
        ((reaches_of_syncStep [] rfl).trans (reaches_of_syncStep [] rfl)))

/-- `Manager.sync` is what the sections of one call add up to. -/
theorem sync_reaches (m : Manager) (configs : List ForwarderConfig) :
    Reaches (callSync m configs) ⟨m.sync configs, .done, .notCalled⟩ := by
  have hsnapshot : Reaches (callSync m configs)
      ⟨m, .stopping (m.runningLabels.filter (· ∉ configs.map ForwarderConfig.label))
        (configs.filter fun cfg => cfg.label ∉ m.runningLabels), .notCalled⟩ :=
    reaches_of_syncStep (s := callSync m configs)
      (m.runningLabels.filter (· ∉ configs.map ForwarderConfig.label))
      (if_pos (List.Perm.refl _))
  exact hsnapshot.trans ((reaches_stops _ _ _ _).trans (reaches_starts _ _ _))

/-! ## The reload -/

lemma labelsMinus_congr {a a' b b' : List Str} (ha : a.Perm a') (hb : b.Perm b') :
    labelsMinus a b = labelsMinus a' b' := by
  have hfilter : (a.filter fun label => !b.contains label).Perm
      (a'.filter fun label => !b'.contains label) := by
    have hcontains : (fun label => !b.contains label) = fun label => !b'.contains label := by
      funext label
      simp only [List.contains_eq_mem, hb.mem_iff]
    rw [hcontains]
    exact ha.filter _
  have hsort := (List.perm_insertionSort (· ≤ ·) (a.filter fun label => !b.contains label)).trans
    (hfilter.trans (List.perm_insertionSort (· ≤ ·) _).symm)
  exact hsort.eq_of_sortedLE List.sortedLE_insertionSort List.sortedLE_insertionSort

lemma mem_labelsMinus {a b : List Str} {l : Str} : l ∈ labelsMinus a b ↔ l ∈ a ∧ l ∉ b := by
  rw [labelsMinus, List.mem_insertionSort, List.mem_filter, List.contains_eq_mem, Bool.not_eq_true',
    decide_eq_false_iff_not]

lemma pairwise_labelsMinus {a : List Str} (ha : a.Nodup) (b : List Str) :
    (labelsMinus a b).Pairwise (· < ·) := by
  have hsorted : (labelsMinus a b).SortedLE := List.sortedLE_insertionSort
  have hnodup : (labelsMinus a b).Nodup :=
    (List.perm_insertionSort (· ≤ ·) _).nodup_iff.mpr (ha.filter _)
  exact (List.SortedLE.sortedLT_of_nodup hsorted hnodup).pairwise

lemma Accepted.nodup_labels {configs : List ForwarderConfig} (h : Accepted configs) :
    (configs.map ForwarderConfig.label).Nodup := by
  refine (List.nodup_map_iff_inj_on h.distinct.of_map).mpr fun c hc c' hc' heq => ?_
  exact ForwarderConfig.eq_of_label_eq (h.no_arrow c hc) (h.no_arrow c' hc') heq

/-- The running labels of a manager that runs a list are those of the list. -/
lemma Runs.perm_labels {m : Manager} {configs : List ForwarderConfig} {extra : List Str}
    (h : Runs m configs extra) (hconfigs : Accepted configs) :
    m.runningLabels.Perm (configs.map ForwarderConfig.label) := by
  refine (List.perm_ext_iff_of_nodup m.forwarders.nodup hconfigs.nodup_labels).mpr fun l => ?_
  constructor
  · intro hl
    obtain ⟨hd, hget⟩ := Table.mem_keys_iff.mp hl
    obtain ⟨hmem, rfl⟩ := h.handles l hd hget
    exact List.mem_map_of_mem hmem
  · intro hl
    obtain ⟨c, hc, rfl⟩ := List.mem_map.mp hl
    exact h.labels c hc

lemma Runs.perm_registry {m : Manager} {configs : List ForwarderConfig} (h : Runs m configs []) :
    (registryLabels m.statsRegistry).Perm m.runningLabels := by
  refine (List.perm_ext_iff_of_nodup h.nodup m.forwarders.nodup).mpr fun l => ?_
  rw [h.registry]
  simp [Manager.runningLabels, Table.keys]

/-- The one entry of the registry that a running label has. -/
lemma Runs.exists_entry {m : Manager} {configs : List ForwarderConfig} {extra : List Str}
    (h : Runs m configs extra) {l : Str} (hl : l ∈ m.runningLabels) :
    ∃ e : StatsEntry, e.label = l ∧ ∀ e', e'.label = l → (e' ∈ m.statsRegistry ↔ e' = e) := by
  obtain ⟨e, he, rfl⟩ := List.mem_map.mp ((h.registry l).mpr (Or.inl hl))
  refine ⟨e, rfl, fun e' heq => ⟨fun he' => ?_, fun heq' => heq' ▸ he⟩⟩
  exact List.inj_on_of_nodup_map h.nodup he' he heq

/-- **A reload keeps the manager consistent.**  At every point of a call of `sync` no two
forwarders have one protocol and local address, and what both lists have keeps its handle and its
stats.  At the end the labels and the registry are those of the new list, and the reload reports
as added the labels of the new list that the old one lacks and as removed those of the old list that
the new one lacks, both in order. -/
theorem sync_consistent (m : Manager) (old new : List ForwarderConfig)
    (hm : Reached Accepted m old) (hnew : Accepted new) (is : List Input) (s : State)
    (hrun : run step (callSync m new) is = some s) :
    (∀ l l' h h', s.manager.forwarders.get? l = some h → s.manager.forwarders.get? l' = some h' →
      h.cfg.protocol = h'.cfg.protocol → h.cfg.localAddr = h'.cfg.localAddr → l = l') ∧
    (∀ l, l ∈ old.map ForwarderConfig.label → l ∈ new.map ForwarderConfig.label →
      (∃ h, m.forwarders.get? l = some h ∧ s.manager.forwarders.get? l = some h) ∧
      ∃ e : StatsEntry, e.label = l ∧ ∀ e', e'.label = l →
        (e' ∈ m.statsRegistry ↔ e' = e) ∧ (e' ∈ s.manager.statsRegistry ↔ e' = e)) ∧
    (s.sync = .done →
      s.manager.runningLabels.Perm (new.map ForwarderConfig.label) ∧
      (registryLabels s.manager.statsRegistry).Perm (new.map ForwarderConfig.label)) ∧
    (∀ ext p file c, p.manager = m → p.source = .file → loadYamlConfig ext file = .ok c →
      c.forwarders = new → ∃ added removed,
        (reload ext p file).2 = .configReloaded new.length added removed ∧
        added.Pairwise (· < ·) ∧ removed.Pairwise (· < ·) ∧
        (∀ l, l ∈ added ↔
          l ∈ new.map ForwarderConfig.label ∧ l ∉ old.map ForwarderConfig.label) ∧
        ∀ l, l ∈ removed ↔
          l ∈ old.map ForwarderConfig.label ∧ l ∉ new.map ForwarderConfig.label) := by
  obtain ⟨hruns, hold⟩ := hm.runs
  have hinv := syncInv_run hruns hold hnew hrun
  refine ⟨fun l l' h h' hl hl' hprotocol haddr => ?_, fun l hlold hlnew => ?_, fun hdone => ?_,
    fun ext p file c hmanager hsource hload hforwarders => ?_⟩
  · obtain ⟨cs, extra, hcs, hsub | hsub⟩ := hinv.runs hruns
    · exact hcs.eq_of_localAddr_eq hold hsub hl hl' hprotocol haddr
    · exact hcs.eq_of_localAddr_eq hnew hsub hl hl' hprotocol haddr
  · have hrunning : l ∈ m.runningLabels := (hruns.perm_labels hold).mem_iff.mpr hlold
    obtain ⟨h, hget⟩ := Table.mem_keys_iff.mp hrunning
    obtain ⟨e, rfl, he⟩ := hruns.exists_entry hrunning
    refine ⟨⟨h, hget, (hinv.keeps.handle _ hrunning hlnew).trans hget⟩, e, rfl, fun e' heq => ?_⟩
    refine ⟨he e' heq, ?_⟩
    rw [hinv.keeps.stats e' (heq ▸ hrunning) (heq ▸ hlnew)]
    exact he e' heq
  · rw [hdone] at hinv
    have hend := hinv.runs_of_done
    exact ⟨hend.perm_labels hnew, hend.perm_registry.trans (hend.perm_labels hnew)⟩
  · -- the reload runs one call of `sync` between its two readings of the labels
    obtain ⟨js, hjs⟩ := sync_reaches (m.updateKnobs (applyCliOverrides c.settings p.cli)) new
    have hknobs := (Reached.updateKnobs (applyCliOverrides c.settings p.cli) hm).runs.1
    have hafter := ((syncInv_run hknobs hold hnew hjs).runs_of_done).perm_labels hnew
    have hbefore := hruns.perm_labels hold
    refine ⟨_, _, ?_, pairwise_labelsMinus hnew.nodup_labels _,
      pairwise_labelsMinus hold.nodup_labels _, fun l => mem_labelsMinus, fun l => mem_labelsMinus⟩
    simp only [reload, hload, hsource, if_true, hmanager, hforwarders]
    rw [labelsMinus_congr hafter hbefore, labelsMinus_congr hbefore hafter, hafter.length_eq,
      List.length_map]

lemma not_arrow_infix {s : Str} (h : '>' ∉ s) : ¬ arrow <:+: s := by
  intro harrow
  exact h (harrow.subset (by simp [arrow]))

/-- A forwarder from a local port to a host. -/
def demoForwarder (localPort : UInt16) (remoteHost : Str) : ForwarderConfig :=
  { localHost := "localhost".toList, localPort, remoteHost, remotePort := 80, protocol := .tcp }

/-- The forwarders before a reload. -/
def demoOld : List ForwarderConfig := [demoForwarder 1 ['a'], demoForwarder 2 ['a']]

/-- After it the first one has a new target. -/
def demoNew : List ForwarderConfig := [demoForwarder 1 ['b'], demoForwarder 2 ['a']]

/-- All the sections of a reload that re-targets the first forwarder. -/
def demoSections : List Input :=
  .sync [(demoForwarder 1 ['a']).label] :: List.replicate 8 (.sync [])

theorem sync_consistent_demo :
    ∃ s, run step (callSync ((Manager.new Settings.default).startAll demoOld) demoNew)
        demoSections = some s ∧
      s.sync = .done ∧
      s.manager.runningLabels.Perm (demoNew.map ForwarderConfig.label) := by
  have hrun : ((run step (callSync ((Manager.new Settings.default).startAll demoOld) demoNew)
      demoSections).map State.sync) = some .done := by decide
  obtain ⟨s, hs, hdone⟩ := Option.map_eq_some_iff.mp hrun
  have hold : Reached Accepted ((Manager.new Settings.default).startAll demoOld) demoOld :=
    .start _ _ ⟨by decide, fun c hc => not_arrow_infix (by revert c; decide)⟩
  have hnew : Accepted demoNew := ⟨by decide, fun c hc => not_arrow_infix (by revert c; decide)⟩
  exact ⟨s, hs, hdone, ((sync_consistent _ _ _ hold hnew _ s hs).2.2.1 hdone).1⟩

end Sections

end Rfw
