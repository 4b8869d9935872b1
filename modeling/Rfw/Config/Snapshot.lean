/-
# Snapshots of the knobs

`snapshot` collects the data-plane knobs for one new connection, and `update` installs the settings
of a reload.  Each knob is an atomic of its own: `update` is a list of twelve stores, and `snapshot`
a program of six to eight loads.  The two run at the same time.

`snapshot_unmixed_iff` says for every order of the loads and stores whether the snapshot belongs to
one of the two configurations.
-/
import Rfw.Config.Settings
import Rfw.Lib.Atomics

namespace Rfw

open Lib Atomics

/-- Immutable set of data-plane knobs captured at accept time. -/
structure KnobSnapshot where
  bufferBytes : ℕ
  socketBufferBytes : Option ℕ
  useSplice : Bool
  connectTimeout : ℕ
  dnsTimeout : ℕ
  /-- `none` means keepalive disabled. -/
  keepalive : Option KeepaliveConfig
deriving DecidableEq, Repr

/-- `RuntimeKnobs::snapshot` on knobs that do not change. -/
def RuntimeKnobs.snapshot (k : RuntimeKnobs) : KnobSnapshot where
  bufferBytes := k.bufferBytes
  socketBufferBytes := k.socketBufferBytes
  useSplice := k.useSplice
  connectTimeout := k.connectTimeout
  dnsTimeout := k.dnsTimeout
  keepalive := k.keepalive

/-- The atomics of `RuntimeKnobs`. -/
inductive Knob
  | bufferBytes
  | socketBufferBytes
  | useSplice
  | connectTimeoutSecs
  | dnsTimeoutSecs
  | keepaliveIdleSecs
  | keepaliveIntervalSecs
  | keepaliveRetries
  | probeIntervalSecs
  | unreachableAfterSecs
  | udpSessionTimeoutSecs
  | udpGroGso
deriving DecidableEq, Repr

/-- What an atomic holds. -/
abbrev Knob.Val : Knob → Type
  | useSplice | udpGroGso => Bool
  | _ => ℕ

namespace RuntimeKnobs

/-- The knobs as a memory with one cell for each atomic. -/
def cell (k : RuntimeKnobs) : ∀ knob : Knob, knob.Val
  | .bufferBytes => k.bufferBytesRaw
  | .socketBufferBytes => k.socketBufferBytesRaw
  | .useSplice => k.useSplice
  | .connectTimeoutSecs => k.connectTimeoutSecs
  | .dnsTimeoutSecs => k.dnsTimeoutSecs
  | .keepaliveIdleSecs => k.keepaliveIdleSecs
  | .keepaliveIntervalSecs => k.keepaliveIntervalSecs
  | .keepaliveRetries => k.keepaliveRetries
  | .probeIntervalSecs => k.probeIntervalSecs
  | .unreachableAfterSecs => k.unreachableAfterSecs
  | .udpSessionTimeoutSecs => k.udpSessionTimeoutSecs
  | .udpGroGso => k.udpGroGso

/-- The knobs in a memory. -/
def ofCell (m : ∀ knob : Knob, knob.Val) : RuntimeKnobs where
  bufferBytesRaw := m .bufferBytes
  socketBufferBytesRaw := m .socketBufferBytes
  useSplice := m .useSplice
  connectTimeoutSecs := m .connectTimeoutSecs
  dnsTimeoutSecs := m .dnsTimeoutSecs
  keepaliveIdleSecs := m .keepaliveIdleSecs
  keepaliveIntervalSecs := m .keepaliveIntervalSecs
  keepaliveRetries := m .keepaliveRetries
  probeIntervalSecs := m .probeIntervalSecs
  unreachableAfterSecs := m .unreachableAfterSecs
  udpSessionTimeoutSecs := m .udpSessionTimeoutSecs
  udpGroGso := m .udpGroGso

lemma cell_ofCell (m : ∀ knob : Knob, knob.Val) : (ofCell m).cell = m := by
  funext knob
  cases knob <;> rfl

/-- The stores of `RuntimeKnobs::update`, in order. -/
def updateStores (settings : Settings) : List (Σ knob : Knob, knob.Val) :=
  let s := settings.clampInPlace
  [⟨.bufferBytes, s.bufferBytes⟩,
    ⟨.socketBufferBytes, s.socketBufferBytes.getD 0⟩,
    ⟨.useSplice, s.useSplice⟩,
    ⟨.connectTimeoutSecs, s.connectTimeoutSecs⟩,
    ⟨.dnsTimeoutSecs, s.dnsTimeoutSecs⟩,
    ⟨.keepaliveIdleSecs, s.keepaliveIdleSecs⟩,
    ⟨.keepaliveIntervalSecs, s.keepaliveIntervalSecs⟩,
    ⟨.keepaliveRetries, s.keepaliveRetries⟩,
    ⟨.probeIntervalSecs, s.probeIntervalSecs⟩,
    ⟨.unreachableAfterSecs, s.unreachableAfterSecs⟩,
    ⟨.udpSessionTimeoutSecs, s.udpSessionTimeoutSecs⟩,
    ⟨.udpGroGso, s.udpGroGso⟩]

/-- The loads of `RuntimeKnobs::keepalive`. -/
def keepaliveLoads : Loads Knob.Val (Option KeepaliveConfig) := do
  match ← Loads.read Knob.keepaliveIdleSecs with
  -- keepalive is off, and the other two atomics are not loaded
  | 0 => return none
  | idle + 1 =>
      let interval ← Loads.read Knob.keepaliveIntervalSecs
      let retries ← Loads.read Knob.keepaliveRetries
      return some { idle := idle + 1, interval := max interval 1, retries := max retries 1 }

/-- The loads of `RuntimeKnobs::snapshot`. -/
def snapshotLoads : Loads Knob.Val KnobSnapshot := do
  let bufferBytes ← Loads.read Knob.bufferBytes
  let socketBufferBytes ← Loads.read Knob.socketBufferBytes
  let useSplice ← Loads.read Knob.useSplice
  let connectTimeoutSecs ← Loads.read Knob.connectTimeoutSecs
  let dnsTimeoutSecs ← Loads.read Knob.dnsTimeoutSecs
  let keepalive ← keepaliveLoads
  return {
    bufferBytes
    socketBufferBytes := if socketBufferBytes = 0 then none else some socketBufferBytes
    useSplice
    connectTimeout := max connectTimeoutSecs 1
    dnsTimeout := max dnsTimeoutSecs 1
    keepalive }

/-- The order of the stores. -/
def storeOrder : List Knob :=
  [.bufferBytes, .socketBufferBytes, .useSplice, .connectTimeoutSecs, .dnsTimeoutSecs,
    .keepaliveIdleSecs, .keepaliveIntervalSecs, .keepaliveRetries, .probeIntervalSecs,
    .unreachableAfterSecs, .udpSessionTimeoutSecs, .udpGroGso]

/-- The order of the loads; the last two are left out when keepalive is off. -/
def loadOrder : List Knob :=
  [.bufferBytes, .socketBufferBytes, .useSplice, .connectTimeoutSecs, .dnsTimeoutSecs,
    .keepaliveIdleSecs, .keepaliveIntervalSecs, .keepaliveRetries]

/-! ## The two sides alone -/

/-- All stores together are `update`. -/
lemma storeAll_updateStores (k : RuntimeKnobs) (s : Settings) :
    storeAll (updateStores s) k.cell = (k.update s).cell := by
  funext knob
  cases knob <;> rfl

/-- The loads on knobs that do not change are `snapshot`. -/
lemma eval_snapshotLoads (k : RuntimeKnobs) : snapshotLoads.eval k.cell = k.snapshot := by
  obtain ⟨_, _, _, _, _, idle, _, _, _, _, _, _⟩ := k
  cases idle <;> rfl

lemma follows_snapshotLoads : snapshotLoads.Follows loadOrder := by
  refine ⟨rfl, fun _ => ⟨rfl, fun _ => ⟨rfl, fun _ => ⟨rfl, fun _ => ⟨rfl, fun _ => ⟨rfl, ?_⟩⟩⟩⟩⟩⟩
  rintro (_ | idle)
  · trivial
  · exact ⟨rfl, fun _ => ⟨rfl, fun _ => trivial⟩⟩

/-! ## What a snapshot sees -/

/-- The atomics that a snapshot of these knobs loads. -/
def reads (k : RuntimeKnobs) : List Knob :=
  [.bufferBytes, .socketBufferBytes, .useSplice, .connectTimeoutSecs, .dnsTimeoutSecs,
    .keepaliveIdleSecs] ++
    if k.keepaliveIdleSecs = 0 then [] else [.keepaliveIntervalSecs, .keepaliveRetries]

/-- A snapshot does not see a difference in this atomic. -/
def SameSeen (a b : RuntimeKnobs) : Knob → Prop
  | .bufferBytes => a.bufferBytes = b.bufferBytes
  | .socketBufferBytes => a.socketBufferBytes = b.socketBufferBytes
  | .useSplice => a.useSplice = b.useSplice
  | .connectTimeoutSecs => a.connectTimeout = b.connectTimeout
  | .dnsTimeoutSecs => a.dnsTimeout = b.dnsTimeout
  | .keepaliveIdleSecs => a.keepaliveIdleSecs = b.keepaliveIdleSecs
  | .keepaliveIntervalSecs => max a.keepaliveIntervalSecs 1 = max b.keepaliveIntervalSecs 1
  | .keepaliveRetries => max a.keepaliveRetries 1 = max b.keepaliveRetries 1
  | _ => True

instance (a b : RuntimeKnobs) : DecidablePred (SameSeen a b)
  | .bufferBytes => inferInstanceAs (Decidable (a.bufferBytes = b.bufferBytes))
  | .socketBufferBytes => inferInstanceAs (Decidable (a.socketBufferBytes = b.socketBufferBytes))
  | .useSplice => inferInstanceAs (Decidable (a.useSplice = b.useSplice))
  | .connectTimeoutSecs => inferInstanceAs (Decidable (a.connectTimeout = b.connectTimeout))
  | .dnsTimeoutSecs => inferInstanceAs (Decidable (a.dnsTimeout = b.dnsTimeout))
  | .keepaliveIdleSecs => inferInstanceAs (Decidable (a.keepaliveIdleSecs = b.keepaliveIdleSecs))
  | .keepaliveIntervalSecs =>
      inferInstanceAs (Decidable (max a.keepaliveIntervalSecs 1 = max b.keepaliveIntervalSecs 1))
  | .keepaliveRetries =>
      inferInstanceAs (Decidable (max a.keepaliveRetries 1 = max b.keepaliveRetries 1))
  | .probeIntervalSecs | .unreachableAfterSecs | .udpSessionTimeoutSecs | .udpGroGso =>
      inferInstanceAs (Decidable True)

variable {a b : RuntimeKnobs}

lemma keepalive_eq_iff :
    a.keepalive = b.keepalive ↔ SameSeen a b .keepaliveIdleSecs ∧
      (b.keepaliveIdleSecs ≠ 0 →
        SameSeen a b .keepaliveIntervalSecs ∧ SameSeen a b .keepaliveRetries) := by
  obtain ⟨_, _, _, _, _, i, _, _, _, _, _, _⟩ := a
  obtain ⟨_, _, _, _, _, j, _, _, _, _, _, _⟩ := b
  cases i <;> cases j <;> simp [keepalive, SameSeen]

/-- Two snapshots are equal when they agree on all that one of them reads. -/
lemma snapshot_eq_iff : a.snapshot = b.snapshot ↔ ∀ knob ∈ b.reads, SameSeen a b knob := by
  have hkeepalive := keepalive_eq_iff (a := a) (b := b)
  by_cases hidle : b.keepaliveIdleSecs = 0
  · simp only [hidle, ne_eq, not_true_eq_false, false_implies, and_true] at hkeepalive
    simp [snapshot, reads, hidle, hkeepalive, SameSeen]
  · simp only [hidle, ne_eq, not_false_eq_true, true_implies] at hkeepalive
    simp [snapshot, reads, hidle, hkeepalive, SameSeen]

lemma sameSeen_refl (a : RuntimeKnobs) (knob : Knob) : SameSeen a a knob := by
  cases knob <;> first | exact trivial | exact rfl

lemma SameSeen.symm {knob : Knob} (h : SameSeen a b knob) : SameSeen b a knob := by
  cases knob <;> first | exact trivial | exact Eq.symm h

/-- Only the atomic itself matters. -/
lemma sameSeen_congr {c : RuntimeKnobs} {knob : Knob} (h : a.cell knob = c.cell knob) :
    SameSeen a b knob ↔ SameSeen c b knob := by
  cases knob <;> simp only [cell] at h <;>
    simp only [SameSeen, bufferBytes, socketBufferBytes, connectTimeout, dnsTimeout, h]

/-- Knobs of which some have been stored. -/
def mix (fresh : Knob → Prop) [DecidablePred fresh] (a b : RuntimeKnobs) : RuntimeKnobs :=
  ofCell fun knob => if fresh knob then b.cell knob else a.cell knob

variable {fresh : Knob → Prop} [DecidablePred fresh] {knob : Knob}

lemma cell_mix_of_fresh (h : fresh knob) : (mix fresh a b).cell knob = b.cell knob := by
  rw [mix, cell_ofCell, if_pos h]

lemma cell_mix_of_not_fresh (h : ¬ fresh knob) : (mix fresh a b).cell knob = a.cell knob := by
  rw [mix, cell_ofCell, if_neg h]

/-- A mix looks like the old knobs where nothing else was stored. -/
lemma sameSeen_mix_left : SameSeen (mix fresh a b) a knob ↔ (fresh knob → SameSeen a b knob) := by
  by_cases h : fresh knob
  · rw [sameSeen_congr (cell_mix_of_fresh h), forall_prop_of_true h]
    exact ⟨SameSeen.symm, SameSeen.symm⟩
  · rw [sameSeen_congr (cell_mix_of_not_fresh h)]
    exact ⟨fun _ hfresh => absurd hfresh h, fun _ => sameSeen_refl a knob⟩

/-- A mix looks like the new knobs where nothing is missing. -/
lemma sameSeen_mix_right :
    SameSeen (mix fresh a b) b knob ↔ (¬ fresh knob → SameSeen a b knob) := by
  by_cases h : fresh knob
  · rw [sameSeen_congr (cell_mix_of_fresh h)]
    exact ⟨fun _ hstale => absurd h hstale, fun _ => sameSeen_refl b knob⟩
  · rw [sameSeen_congr (cell_mix_of_not_fresh h), forall_prop_of_true h]

/-! ## A reload during a snapshot -/

/-- A snapshot and an update of the knobs, both about to begin. -/
def reloading (k : RuntimeKnobs) (new : Settings) : State Knob.Val KnobSnapshot where
  mem := k.cell
  stores := updateStores new
  loads := snapshotLoads

/-- The snapshot taken under a schedule of the two calls; `none` when the schedule is not one of
theirs or stops too early. -/
def snapshotDuring (k : RuntimeKnobs) (new : Settings) (ts : List Turn) : Option KnobSnapshot :=
  (run step (reloading k new) ts).bind fun s => s.loads.result?

/-- The store of the knob comes before its load. -/
abbrev Stored (ts : List Turn) (knob : Knob) : Prop := Fresh ts storeOrder loadOrder knob

/-- The snapshot is the one of a mix of the knobs. -/
lemma snapshotDuring_eq_some {k : RuntimeKnobs} {new : Settings} {ts : List Turn}
    {snap : KnobSnapshot} (h : snapshotDuring k new ts = some snap) :
    snap = (mix (Stored ts) k (k.update new)).snapshot := by
  obtain ⟨s, hrun, hsnap⟩ := Option.bind_eq_some_iff.mp h
  have hstores : (reloading k new).stores.map Sigma.fst = storeOrder := rfl
  -- each knob is read as it was before its store or as it is after it
  rw [← eval_snapshotLoads, mix, cell_ofCell, ← storeAll_updateStores]
  rw [eval_of_run (hstores ▸ by decide) follows_snapshotLoads (by decide) hrun
    (Loads.result?_eq_some hsnap)]
  rfl

/-- **When a snapshot belongs to one configuration.**  For every order of the loads of a snapshot
and the stores of an update, the snapshot is the one of the old knobs or the one of the new knobs
exactly when every knob that the old snapshot reads, and that changes, was loaded before its store,
or every knob that the new snapshot reads, and that changes, was loaded after it. -/
theorem snapshot_unmixed_iff (k : RuntimeKnobs) (old new : Settings) (ts : List Turn)
    (snap : KnobSnapshot) (h : snapshotDuring (k.update old) new ts = some snap) :
    (snap = (k.update old).snapshot ∨ snap = (k.update new).snapshot) ↔
      (∀ knob ∈ (k.update old).reads,
        Stored ts knob → SameSeen (k.update old) (k.update new) knob) ∨
      (∀ knob ∈ (k.update new).reads,
        ¬ Stored ts knob → SameSeen (k.update old) (k.update new) knob) := by
  have hsnap := snapshotDuring_eq_some h
  have hnew : (k.update old).update new = k.update new := rfl
  rw [hnew] at hsnap
  rw [hsnap, snapshot_eq_iff, snapshot_eq_iff]
  simp only [sameSeen_mix_left, sameSeen_mix_right]

/-- A reload that changes the copy buffer and turns splicing on. -/
def demoReload : Settings := { Settings.default with bufferBytes := 131072, useSplice := true }

/-- The update starts after the load of the last knob that it changes. -/
theorem snapshot_unmixed_lateReload :
    ∃ snap, snapshotDuring ((fromSettings .default).update .default) demoReload
        (List.replicate 3 .load ++ List.replicate 12 .store ++ List.replicate 5 .load) =
          some snap ∧
      (snap = ((fromSettings .default).update .default).snapshot ∨
        snap = ((fromSettings .default).update demoReload).snapshot) := by
  have hsnap : (snapshotDuring ((fromSettings .default).update .default) demoReload
      (List.replicate 3 .load ++ List.replicate 12 .store ++ List.replicate 5 .load)).isSome =
        true := by decide
  obtain ⟨snap, hsnap⟩ := Option.isSome_iff_exists.mp hsnap
  exact ⟨snap, hsnap, (snapshot_unmixed_iff _ _ _ _ snap hsnap).mpr (Or.inl (by decide))⟩

/-- The first three stores fall between the first two loads: the connection is built with the old
buffer size and the new splice flag. -/
theorem snapshot_mixed :
    ¬ ∀ (k : RuntimeKnobs) (old new : Settings) (ts : List Turn) (snap : KnobSnapshot),
      snapshotDuring (k.update old) new ts = some snap →
        snap = (k.update old).snapshot ∨ snap = (k.update new).snapshot := by
  intro hall
  have hsnap := hall (fromSettings .default) .default demoReload
    ([.load] ++ List.replicate 3 .store ++ List.replicate 7 .load ++ List.replicate 9 .store)
    { (fromSettings .default).snapshot with useSplice := true } (by decide)
  revert hsnap
  decide

end RuntimeKnobs

end Rfw
