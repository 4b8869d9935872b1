/-
# A gate behind one atomic cell

Tasks share a cell with the time at which a gate last opened.  A task reads its clock and loads the
cell; if a window has passed since then, it tries to replace what it loaded by its own reading, with
a compare-and-swap, and the gate opens for the task whose swap succeeds.  Any other task may run
between the load and the swap, and the clocks of the tasks need not agree.

`sound_of_run` says that the gate still opens at most once in a window, and why it stays closed.
-/
import Rfw.Lib.Transition

namespace Lib.CasGate

variable {μ : Type*}

/-- A call that has loaded the cell: its clock, what it loaded and what it has to say, and how often
the gate had opened by then. -/
structure Ask (μ : Type*) where
  now : ℕ
  last : ℕ
  message : μ
  since : ℕ
deriving DecidableEq, Repr

/-- A call for which the gate stayed closed, and how often it had opened when the call gave up. -/
structure Refused (μ : Type*) extends Ask μ where
  ended : ℕ
deriving DecidableEq, Repr

/-- The cell and the calls so far. -/
structure State (μ : Type*) where
  cell : ℕ
  /-- The calls between their load and their swap. -/
  asking : List (Ask μ)
  /-- The calls for which the gate opened, latest first. -/
  opened : List (Ask μ)
  /-- The calls for which it stayed closed, latest first. -/
  silent : List (Refused μ)
deriving Repr

/-- The step of a task. -/
inductive Input (μ : Type*)
  /-- A call reads its clock and loads the cell. -/
  | load (now : ℕ) (message : μ)
  /-- The compare-and-swap of a call. -/
  | swap (i : ℕ)
deriving Repr

/-- A cell that no call has looked at. -/
def init (start : ℕ) : State μ := ⟨start, [], [], []⟩

/-- The call gives up. -/
def State.refuse (s : State μ) (ask : Ask μ) : State μ :=
  { s with silent := ⟨ask, s.opened.length⟩ :: s.silent }

/-- One step of one task. -/
def step (spacing : ℕ) (s : State μ) : Input μ → Option (State μ)
  | .load now message =>
      let ask := ⟨now, s.cell, message, s.opened.length⟩
      some (if now - s.cell < spacing then s.refuse ask
        else { s with asking := s.asking ++ [ask] })
  | .swap i =>
      (s.asking[i]?).map fun ask =>
        let s := { s with asking := s.asking.eraseIdx i }
        if s.cell = ask.last then { s with cell := ask.now, opened := ask :: s.opened }
        else s.refuse ask

/-- What the cell holds behind some openings. -/
def held (start : ℕ) (opened : List (Ask μ)) : ℕ := (opened.head?.map Ask.now).getD start

/-- What the cell has held, latest first. -/
def State.stamps (start : ℕ) (s : State μ) : List ℕ := s.opened.map Ask.now ++ [start]

/-- The call was made. -/
def Input.isLoad : Input μ → Bool
  | load _ _ => true
  | swap _ => false

/-- The openings split at the load of a call: it loaded what the `older` ones had left. -/
structure Loaded (start : ℕ) (a : Ask μ) (older : List (Ask μ)) : Prop where
  since : older.length = a.since
  last : a.last = held start older

/-- Why a call stayed silent: it came in the window of what it loaded, or the gate opened between
its load and its swap, a window behind what it loaded. -/
def Explained (spacing start : ℕ) (opened : List (Ask μ)) (a : Refused μ) : Prop :=
  ∃ later between older, opened = later ++ between ++ older ∧ Loaded start a.toAsk older ∧
    (between ++ older).length = a.ended ∧
    (between = [] ∧ a.now < a.last + spacing ∨
      between ≠ [] ∧ ∀ b ∈ between, a.last + spacing ≤ b.now)

/-- What holds of the calls so far. -/
structure Sound (spacing start : ℕ) (is : List (Input μ)) (s : State μ) : Prop where
  cell : s.cell = held start s.opened
  /-- Two values of the cell are a window apart. -/
  spaced : (s.stamps start).Pairwise fun later earlier => earlier + spacing ≤ later
  asking : ∀ a ∈ s.asking, a.last + spacing ≤ a.now ∧
    ∃ newer older, s.opened = newer ++ older ∧ Loaded start a older
  silent : ∀ a ∈ s.silent, Explained spacing start s.opened a
  /-- A call says what it was made with. -/
  loaded : ∀ a, a ∈ s.asking ∨ a ∈ s.opened ∨ a ∈ s.silent.map Refused.toAsk →
    .load a.now a.message ∈ is
  /-- No call is lost. -/
  calls : is.countP Input.isLoad = s.asking.length + s.opened.length + s.silent.length

variable {spacing start : ℕ} {is : List (Input μ)} {s s' : State μ}

lemma sound_init (spacing start : ℕ) : Sound spacing start [] (init start : State μ) :=
  ⟨rfl, List.pairwise_singleton _ _, nofun, nofun, by simp [init], rfl⟩

/-- What the cell holds is the first of its values. -/
lemma exists_stamps_eq (start : ℕ) (opened : List (Ask μ)) :
    ∃ older, opened.map Ask.now ++ [start] = held start opened :: older := by
  cases opened with
  | nil => exact ⟨[], rfl⟩
  | cons b opened => exact ⟨_, rfl⟩

/-- Every opening behind a load is a window behind what was loaded. -/
lemma Sound.le_of_newer (h : Sound spacing start is s) {newer older : List (Ask μ)}
    (hopened : s.opened = newer ++ older) : ∀ b ∈ newer, held start older + spacing ≤ b.now := by
  intro b hb
  have hspaced := h.spaced
  obtain ⟨rest, hrest⟩ := exists_stamps_eq start older
  rw [State.stamps, hopened, List.map_append, List.append_assoc, hrest] at hspaced
  exact (List.pairwise_append.mp hspaced).2.2 _ (List.mem_map_of_mem hb) _ List.mem_cons_self

/-- Later openings change nothing for a call that has given up. -/
lemma Explained.cons {opened : List (Ask μ)} {a : Refused μ}
    (h : Explained spacing start opened a) (b : Ask μ) :
    Explained spacing start (b :: opened) a := by
  obtain ⟨later, between, older, rfl, hrest⟩ := h
  exact ⟨b :: later, between, older, rfl, hrest⟩

/-- The call was made, whatever has become of it. -/
def State.Knows (s : State μ) (a : Ask μ) : Prop :=
  a ∈ s.asking ∨ a ∈ s.opened ∨ a ∈ s.silent.map Refused.toAsk

lemma knows_refuse {ask a : Ask μ} : (s.refuse ask).Knows a ↔ a = ask ∨ s.Knows a := by
  unfold State.Knows State.refuse
  rw [List.map_cons, List.mem_cons]
  tauto

/-- After a step, a call was there before it or is the one that the step makes. -/
lemma knows_step {i : Input μ} (hstep : step spacing s i = some s') {a : Ask μ}
    (ha : s'.Knows a) : s.Knows a ∨ i = .load a.now a.message := by
  cases i with
  | load now message =>
    obtain rfl := Option.some.inj hstep
    split at ha
    · obtain rfl | ha := knows_refuse.mp ha
      · exact .inr rfl
      · exact .inl ha
    · rcases ha with ha | ha
      · rcases List.mem_append.mp ha with ha | ha
        · exact .inl (.inl ha)
        · obtain rfl := List.mem_singleton.mp ha
          exact .inr rfl
      · exact .inl (.inr ha)
  | swap i =>
    obtain ⟨ask, hask, rfl⟩ := Option.map_eq_some_iff.mp hstep
    have hmem : ask ∈ s.asking := List.mem_of_getElem? hask
    dsimp only at ha
    split at ha
    · rcases ha with ha | ha | ha
      · exact .inl (.inl (List.mem_of_mem_eraseIdx ha))
      · rcases List.mem_cons.mp ha with rfl | ha
        · exact .inl (.inl hmem)
        · exact .inl (.inr (.inl ha))
      · exact .inl (.inr (.inr ha))
    · obtain rfl | ha := knows_refuse.mp ha
      · exact .inl (.inl hmem)
      · exact .inl (ha.imp_left List.mem_of_mem_eraseIdx)

lemma Sound.loaded_step (h : Sound spacing start is s) {i : Input μ}
    (hstep : step spacing s i = some s') :
    ∀ a, s'.Knows a → .load a.now a.message ∈ is ++ [i] := by
  intro a ha
  rcases knows_step hstep ha with hold | rfl
  · exact List.mem_append_left _ (h.loaded a hold)
  · exact List.mem_append_right _ (List.mem_singleton_self _)

lemma countP_snoc (i : Input μ) :
    (is ++ [i]).countP Input.isLoad = is.countP Input.isLoad + i.isLoad.toNat := by
  rw [List.countP_append, List.countP_singleton]
  cases i.isLoad <;> rfl

lemma sound_load (hpos : 0 < spacing) (h : Sound spacing start is s) (now : ℕ) (message : μ)
    (hstep : step spacing s (.load now message) = some s') :
    Sound spacing start (is ++ [.load now message]) s' := by
  have hcalls := h.calls
  have hloaded := h.loaded_step hstep
  simp only [step, Option.some.injEq] at hstep
  split at hstep
  · rename_i hwindow
    subst hstep
    refine ⟨h.cell, h.spaced, h.asking, ?_, hloaded, ?_⟩
    · refine List.forall_mem_cons.mpr
        ⟨⟨[], [], s.opened, rfl, ⟨rfl, h.cell⟩, rfl, .inl ⟨rfl, ?_⟩⟩, h.silent⟩
      show now < s.cell + spacing
      omega
    · rw [countP_snoc, hcalls]
      rfl
  · rename_i hwindow
    subst hstep
    refine ⟨h.cell, h.spaced, fun a ha => ?_, h.silent, hloaded, ?_⟩
    · rcases List.mem_append.mp ha with ha | ha
      · exact h.asking a ha
      · obtain rfl := List.mem_singleton.mp ha
        refine ⟨?_, [], s.opened, rfl, rfl, h.cell⟩
        show s.cell + spacing ≤ now
        omega
    · rw [countP_snoc, hcalls, List.length_append]
      simp only [Input.isLoad, Bool.toNat_true, List.length_singleton]
      omega

lemma sound_swap (h : Sound spacing start is s) (i : ℕ)
    (hstep : step spacing s (.swap i) = some s') :
    Sound spacing start (is ++ [.swap i]) s' := by
  have hloaded := h.loaded_step hstep
  obtain ⟨ask, hask, hs'⟩ := Option.map_eq_some_iff.mp hstep
  obtain ⟨hi, rfl⟩ := List.getElem?_eq_some_iff.mp hask
  obtain ⟨hready, newer, older, hopened, hload⟩ := h.asking _ (List.getElem_mem hi)
  have hcalls := h.calls
  have hlength := List.length_eraseIdx_of_lt hi
  have hrest : ∀ a ∈ s.asking.eraseIdx i, a ∈ s.asking := fun a => List.mem_of_mem_eraseIdx
  dsimp only at hs'
  split at hs'
  · rename_i hcell
    subst hs'
    refine ⟨rfl, ?_, fun a ha => ?_, fun a ha => (h.silent a ha).cons _, hloaded, ?_⟩
    · -- the values so far are at most the one that the call has loaded
      refine List.pairwise_cons.mpr ⟨fun t (ht : t ∈ s.stamps start) => ?_, h.spaced⟩
      obtain ⟨rest, hstamps⟩ := exists_stamps_eq start s.opened
      rw [← h.cell, hcell] at hstamps
      have hspaced := h.spaced
      rw [State.stamps, hstamps] at ht hspaced
      rcases List.mem_cons.mp ht with rfl | ht
      · exact hready
      · have hle := (List.pairwise_cons.mp hspaced).1 t ht
        omega
    · obtain ⟨hle, newer, older, hsplit, hload⟩ := h.asking a (hrest a ha)
      exact ⟨hle, _ :: newer, older, congrArg (List.cons _) hsplit, hload⟩
    · rw [countP_snoc, hcalls]
      simp only [Input.isLoad, Bool.toNat_false, List.length_cons]
      omega
  · rename_i hcell
    subst hs'
    refine ⟨h.cell, h.spaced, fun a ha => h.asking a (hrest a ha), ?_, hloaded, ?_⟩
    · refine List.forall_mem_cons.mpr
        ⟨⟨[], newer, older, hopened, hload, by rw [← hopened], .inr ⟨?_, ?_⟩⟩, h.silent⟩
      · -- without an opening since the load the cell would still hold what was loaded
        rintro rfl
        rw [List.nil_append] at hopened
        exact hcell (by rw [h.cell, hopened, hload.last])
      · intro b hb
        show s.asking[i].last + spacing ≤ b.now
        rw [hload.last]
        exact h.le_of_newer hopened b hb
    · rw [countP_snoc, hcalls]
      simp only [State.refuse, Input.isLoad, Bool.toNat_false, List.length_cons]
      omega

lemma sound_step (hpos : 0 < spacing) (is : List (Input μ)) (s : State μ) (i : Input μ)
    (s' : State μ) (h : Sound spacing start is s) (hstep : step spacing s i = some s') :
    Sound spacing start (is ++ [i]) s' := by
  cases i with
  | load now message => exact sound_load hpos h now message hstep
  | swap i => exact sound_swap h i hstep

/-- **Every run of the gate.**  Its openings are a window apart, and a call for which it stayed
closed came in the window of what it loaded, or lost to a call for which the gate opened between its
load and its swap. -/
theorem sound_of_run (hpos : 0 < spacing) (h : run (step spacing) (init start) is = some s) :
    Sound spacing start is s :=
  run_invariant_history (sound_init spacing start) (sound_step hpos) h

end Lib.CasGate
