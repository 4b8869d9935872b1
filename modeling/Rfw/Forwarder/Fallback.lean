/-
# Reporting that splice is not used

With `use_splice`, a connection makes its pipes first; when the kernel refuses or shrinks them, the
connection takes the copy path and calls `note_fallback`, which warns at most once a minute.  The
calls come from the tasks of all connections at once, and share one atomic, `LAST`.

`fallbacks_reported` is about every interleaving of their loads and compare-and-swaps.  The clock is
the wall clock, in seconds, and may go back.
-/
import Rfw.Forwarder.Splice
import Rfw.Lib.CasGate

namespace Rfw.Splice

open Lib

/-- The window of `note_fallback`, in seconds. -/
def fallbackSpacing : ℕ := 60

/-- What `note_fallback` is called with. -/
structure Fallback where
  label : Str
  why : Unavailable
deriving DecidableEq, Repr

/-- The connections that could use splice, and the calls of `note_fallback`. -/
structure Fallbacks where
  gate : CasGate.State Fallback
  /-- The connections that use splice. -/
  spliced : ℕ
  /-- The connections that take the copy path instead. -/
  copied : ℕ

namespace Fallbacks

/-- What a connection task can do. -/
inductive Input
  /-- A connection makes its pipes, from what the kernel answers; if it cannot use them it reads its
  clock, which shows nothing before the epoch, and loads `LAST`. -/
  | pipes (label : Str) (size : ℕ) (c2r r2c : Except IoError ℕ) (clock : Option ℕ)
  /-- A call of `note_fallback` gets to its `compare_exchange`. -/
  | swap (i : ℕ)

/-- A process without connections. -/
def init : Fallbacks := ⟨CasGate.init 0, 0, 0⟩

/-- One step of one task. -/
def step (s : Fallbacks) : Input → Option Fallbacks
  | .pipes label size c2r r2c clock =>
      match Pipes.new size c2r r2c with
      | .ok _ => some { s with spliced := s.spliced + 1 }
      | .error why =>
          (CasGate.step fallbackSpacing s.gate (.load (clock.getD 0) ⟨label, why⟩)).map fun gate =>
            { s with gate, copied := s.copied + 1 }
  | .swap i =>
      (CasGate.step fallbackSpacing s.gate (.swap i)).map fun gate => { s with gate }

/-- A connection met what a warning says, when its clock showed `now`. -/
def Met (is : List Input) (now : ℕ) (f : Fallback) : Prop :=
  ∃ size c2r r2c clock, .pipes f.label size c2r r2c clock ∈ is ∧
    Pipes.new size c2r r2c = .error f.why ∧ now = clock.getD 0

/-- The calls of `note_fallback` are a run of their gate. -/
def Gated (is : List Input) (s : Fallbacks) : Prop :=
  ∃ js, run (CasGate.step fallbackSpacing) (CasGate.init 0) js = some s.gate ∧
    js.countP CasGate.Input.isLoad = s.copied ∧
    ∀ now f, .load now f ∈ js → Met is now f

variable {is : List Input} {s s' : Fallbacks}

lemma Met.snoc {now : ℕ} {f : Fallback} (h : Met is now f) (i : Input) :
    Met (is ++ [i]) now f := by
  obtain ⟨size, c2r, r2c, clock, hmem, hnew⟩ := h
  exact ⟨size, c2r, r2c, clock, List.mem_append_left _ hmem, hnew⟩

/-- A step of the gate extends its run. -/
lemma Gated.gate (h : Gated is s) {i : Input} {j : CasGate.Input Fallback}
    {gate : CasGate.State Fallback} (hstep : CasGate.step fallbackSpacing s.gate j = some gate)
    (hmet : ∀ now f, j = .load now f → Met (is ++ [i]) now f) :
    Gated (is ++ [i]) { s with gate, copied := s.copied + j.isLoad.toNat } := by
  obtain ⟨js, hrun, hcount, hold⟩ := h
  have hextended : run (CasGate.step fallbackSpacing) (CasGate.init 0) (js ++ [j]) = some gate :=
    run_append.mpr ⟨s.gate, hrun, (run_singleton _ _).trans hstep⟩
  refine ⟨js ++ [j], hextended, ?_, fun now f hf => ?_⟩
  · rw [CasGate.countP_snoc, hcount]
  · rcases List.mem_append.mp hf with hf | hf
    · exact (hold now f hf).snoc _
    · exact hmet now f (List.mem_singleton.mp hf).symm

lemma gated_step (is : List Input) (s : Fallbacks) (i : Input) (s' : Fallbacks) (h : Gated is s)
    (hstep : step s i = some s') : Gated (is ++ [i]) s' := by
  cases i with
  | pipes label size c2r r2c clock =>
    simp only [step] at hstep
    split at hstep
    · obtain rfl := Option.some.inj hstep
      obtain ⟨js, hrun, hcount, hmet⟩ := h
      exact ⟨js, hrun, hcount, fun now f hf => (hmet now f hf).snoc _⟩
    · rename_i why hnew
      obtain ⟨gate, hgate, rfl⟩ := Option.map_eq_some_iff.mp hstep
      refine h.gate hgate fun now f heq => ?_
      cases heq
      exact ⟨size, c2r, r2c, clock, List.mem_append_right _ (List.mem_singleton_self _), hnew, rfl⟩
  | swap i =>
    obtain ⟨gate, hgate, rfl⟩ := Option.map_eq_some_iff.mp hstep
    refine h.gate hgate fun now f heq => ?_
    cases heq

/-- **Fallbacks are reported, but not in a flood.**  In every interleaving of the connection tasks,
two warnings carry times at least a minute apart; a warning tells what a connection met; every
connection that took the copy path has called `note_fallback`; and a call stays silent for one of
two reasons.  Of the warnings, `older` were given before its load, which left in `LAST` what it
loaded, and `between` were given between its load and its end: either there are none of these, and
its clock was not yet a minute past what it loaded, or its `compare_exchange` failed because of
them. -/
theorem fallbacks_reported (h : run step init is = some s) :
    (s.gate.opened.Pairwise fun later earlier => earlier.now + fallbackSpacing ≤ later.now) ∧
    (∀ a ∈ s.gate.opened, Met is a.now a.message) ∧
    s.copied = s.gate.asking.length + s.gate.opened.length + s.gate.silent.length ∧
    ∀ a ∈ s.gate.silent, ∃ later between older, s.gate.opened = later ++ between ++ older ∧
      older.length = a.since ∧ (between ++ older).length = a.ended ∧
      a.last = (older.head?.map CasGate.Ask.now).getD 0 ∧
      (between = [] ∧ a.now < a.last + fallbackSpacing ∨
        between ≠ [] ∧ ∀ b ∈ between, a.last + fallbackSpacing ≤ b.now) := by
  obtain ⟨js, hrun, hcount, hmet⟩ : Gated is s :=
    run_invariant_history ⟨[], rfl, rfl, nofun⟩ gated_step h
  have hsound := CasGate.sound_of_run (by decide) hrun
  refine ⟨?_, fun a ha => hmet _ _ (hsound.loaded a (.inr (.inl ha))),
    hcount.symm.trans hsound.calls, fun a ha => ?_⟩
  · have hspaced := (List.pairwise_append.mp hsound.spaced).1
    exact List.pairwise_map.mp hspaced
  · obtain ⟨later, between, older, hopened, hload, hended, hwhy⟩ := hsound.silent a ha
    exact ⟨later, between, older, hopened, hload.since, hended, hload.last, hwhy⟩

/-- Two tasks call `note_fallback` at once, and a third one half a minute later. -/
def threeCalls : List Input :=
  [.pipes "a".toList 65536 (.ok 4096) (.ok 65536) (some 1000),
    .pipes "b".toList 65536 (.error (.os IoError.eio)) (.ok 65536) (some 1000), .swap 1, .swap 0,
    .pipes "c".toList 65536 (.ok 65536) (.ok 65536) none,
    .pipes "d".toList 65536 (.ok 4096) (.ok 4096) (some 1030)]

theorem fallbacks_reported_threeCalls : ∃ s, run step init threeCalls = some s ∧
    s.spliced = 1 ∧ s.gate.opened.map (·.message.label) = ["b".toList] ∧ s.gate.silent.length = 2 ∧
    s.copied = s.gate.asking.length + s.gate.opened.length + s.gate.silent.length := by
  have hend : ((run step init threeCalls).map fun s =>
      (s.spliced, s.gate.opened.map (·.message.label), s.gate.silent.length)) =
        some (1, ["b".toList], 2) := by decide
  obtain ⟨s, hs, heq⟩ := Option.map_eq_some_iff.mp hend
  obtain ⟨hspliced, hrest⟩ := Prod.mk.inj heq
  obtain ⟨hopened, hsilent⟩ := Prod.mk.inj hrest
  exact ⟨s, hs, hspliced, hopened, hsilent, (fallbacks_reported hs).2.2.1⟩

end Fallbacks

end Rfw.Splice
