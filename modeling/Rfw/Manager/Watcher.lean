/-
# The config watcher

`watch_config_file` reloads the configuration when the file changes.  The notification callback
puts a token into a channel of capacity one (a full channel discards it); the loop takes a token,
waits out the rest of the debounce window if the previous reload is too recent, lets the file
settle, empties the channel, stamps the reload and reads the file.

The machine below has one input for each thing that can happen: a write of the file, the delivery
of a notification, each step of the loop, and the clock reading that a step takes.  Two questions
about it are settled here.

* `version_read_of_quiet`: when the loop is waiting, the channel is empty and no notification is
  outstanding, the loop has read the last version that was written.
* `safe_iff_sinceInWindow`: the debounce arithmetic is safe exactly in the runs whose second
  clock reading stays inside the window that the first one was found in.
-/
import Rfw.Lib.Transition
import Mathlib.Data.List.Chain

namespace Rfw.Watcher

/-! ## Time -/

/-- `RELOAD_DEBOUNCE`, in nanoseconds. -/
def reloadDebounce : ℕ := 1000000000

/-- `RELOAD_SETTLE_DELAY`, in nanoseconds. -/
def reloadSettleDelay : ℕ := 200000000

/-- `Instant::duration_since`, which saturates at zero. -/
def durationSince (now earlier : ℕ) : ℕ := now - earlier

/-- The subtraction of two durations; `none` is the panic on underflow. -/
def durationSub (a b : ℕ) : Option ℕ := if b ≤ a then some (a - b) else none

/-- `should_debounce_reload`. -/
def shouldDebounceReload (lastReload : Option ℕ) (now debounceWindow : ℕ) : Bool :=
  match lastReload with
  | none => false
  | some previous => decide (durationSince now previous < debounceWindow)

/-! ## The machine -/

/-- Where the loop of `watch_config_file` is. -/
inductive Phase
  /-- In the `select!`, waiting for a signal. -/
  | recv
  /-- A signal was taken; `should_debounce_reload` comes next. -/
  | check
  /-- The reload is debounced; the second clock reading comes next. -/
  | since
  /-- Sleeping out the debounce window, at least until `wake`. -/
  | debounce (wake : ℕ)
  /-- Letting the file settle, at least until `wake`. -/
  | settle (wake : ℕ)
  /-- Emptying the channel with `try_recv`. -/
  | drain
  /-- About to stamp `last_reload`. -/
  | stamp
  /-- About to read the file. -/
  | load
  /-- Applying what was read (the `await`s of the reload body). -/
  | apply
  /-- The subtraction underflowed: the task is gone. -/
  | panicked
  /-- The watcher returned. -/
  | stopped
deriving DecidableEq, Repr

/-- The file, the notifications on their way, the channel and the loop. -/
structure State where
  /-- The file, as a version counter. -/
  version : ℕ
  /-- Relevant notifications that the callback has not seen yet. -/
  undelivered : ℕ
  /-- The channel of capacity one holds a token. -/
  token : Bool
  phase : Phase
  /-- The latest clock reading. -/
  clock : ℕ
  lastReload : Option ℕ
  /-- The version read by the latest load. -/
  lastRead : Option ℕ
  /-- The delays the debounce branch has waited, latest first. -/
  delays : List ℕ
  /-- The values `last_reload` has taken, latest first. -/
  stamps : List ℕ
deriving DecidableEq, Repr

/-- What can happen next. -/
inductive Input
  /-- The file is written; at least one notification follows, possibly `extra` more. -/
  | write (extra : ℕ)
  /-- A relevant notification without a new version. -/
  | touch
  /-- The callback runs for one outstanding notification. -/
  | deliver
  /-- `recv` returns a token. -/
  | signal
  /-- `recv` returns `None`. -/
  | closed
  /-- The clock reading passed to `should_debounce_reload`. -/
  | readCheck (now : ℕ)
  /-- The clock reading from which the remaining window is computed. -/
  | readSince (now : ℕ)
  /-- A sleep has ended. -/
  | wake (now : ℕ)
  /-- One `try_recv` of the drain. -/
  | tryRecv
  /-- The clock reading stored in `last_reload`. -/
  | readStamp (now : ℕ)
  /-- `load_yaml_config` reads the file. -/
  | load
  /-- The reload body is done. -/
  | applied
  /-- The cancellation token fires at a point where the loop watches it. -/
  | cancel
deriving DecidableEq, Repr

/-- The watcher when it has just been armed on version `v`, at the time `t`. -/
def init (v t : ℕ) : State :=
  { version := v, undelivered := 0, token := false, phase := .recv, clock := t,
    lastReload := none, lastRead := none, delays := [], stamps := [] }

/-- One step of the watcher or of its surroundings. -/
def step (s : State) : Input → Option State
  | .write extra =>
      some { s with version := s.version + 1, undelivered := s.undelivered + 1 + extra }
  | .touch => some { s with undelivered := s.undelivered + 1 }
  | .deliver =>
      -- `try_send`: on a full channel the token that is already there stays
      if 0 < s.undelivered then
        some { s with undelivered := s.undelivered - 1, token := true }
      else none
  | .signal =>
      if s.phase = .recv ∧ s.token = true then
        some { s with token := false, phase := .check }
      else none
  | .closed =>
      if s.phase = .recv ∧ s.token = false then some { s with phase := .stopped } else none
  | .readCheck now =>
      if s.phase = .check ∧ s.clock ≤ now then
        if shouldDebounceReload s.lastReload now reloadDebounce then
          some { s with clock := now, phase := .since }
        else
          some { s with clock := now, phase := .settle (now + reloadSettleDelay) }
      else none
  | .readSince now =>
      if s.phase = .since ∧ s.clock ≤ now then
        match s.lastReload with
        | none => none
        | some last =>
          match durationSub reloadDebounce (durationSince now last) with
          | none => some { s with clock := now, phase := .panicked }
          | some d =>
            some { s with clock := now, phase := .debounce (now + d), delays := d :: s.delays }
      else none
  | .wake now =>
      match s.phase with
      | .debounce w =>
          if s.clock ≤ now ∧ w ≤ now then
            some { s with clock := now, phase := .settle (now + reloadSettleDelay) }
          else none
      | .settle w =>
          if s.clock ≤ now ∧ w ≤ now then some { s with clock := now, phase := .drain } else none
      | _ => none
  | .tryRecv =>
      if s.phase = .drain then
        if s.token then some { s with token := false } else some { s with phase := .stamp }
      else none
  | .readStamp now =>
      if s.phase = .stamp ∧ s.clock ≤ now then
        some { s with
          clock := now, phase := .load, lastReload := some now, stamps := now :: s.stamps }
      else none
  | .load =>
      if s.phase = .load then
        some { s with phase := .apply, lastRead := some s.version }
      else none
  | .applied => if s.phase = .apply then some { s with phase := .recv } else none
  | .cancel =>
      match s.phase with
      | .recv => some { s with phase := .stopped }
      | .debounce _ => some { s with phase := .stopped }
      | .settle _ => some { s with phase := .stopped }
      | _ => none

/-! ## What one step can do -/

/-- Everything that a step can do, one constructor for each branch of `step`. -/
inductive Move (s : State) : Input → State → Prop
  | write (extra : ℕ) :
      Move s (.write extra)
        { s with version := s.version + 1, undelivered := s.undelivered + 1 + extra }
  | touch : Move s .touch { s with undelivered := s.undelivered + 1 }
  | deliver (h : 0 < s.undelivered) :
      Move s .deliver { s with undelivered := s.undelivered - 1, token := true }
  | signal (hphase : s.phase = .recv) (htoken : s.token = true) :
      Move s .signal { s with token := false, phase := .check }
  | closed (hphase : s.phase = .recv) (htoken : s.token = false) :
      Move s .closed { s with phase := .stopped }
  | debounced (now : ℕ) (hphase : s.phase = .check) (hclock : s.clock ≤ now)
      (h : shouldDebounceReload s.lastReload now reloadDebounce = true) :
      Move s (.readCheck now) { s with clock := now, phase := .since }
  | due (now : ℕ) (hphase : s.phase = .check) (hclock : s.clock ≤ now)
      (h : ¬ shouldDebounceReload s.lastReload now reloadDebounce = true) :
      Move s (.readCheck now) { s with clock := now, phase := .settle (now + reloadSettleDelay) }
  | underflow (now last : ℕ) (hphase : s.phase = .since) (hclock : s.clock ≤ now)
      (hlast : s.lastReload = some last)
      (h : durationSub reloadDebounce (durationSince now last) = none) :
      Move s (.readSince now) { s with clock := now, phase := .panicked }
  | waiting (now last d : ℕ) (hphase : s.phase = .since) (hclock : s.clock ≤ now)
      (hlast : s.lastReload = some last)
      (h : durationSub reloadDebounce (durationSince now last) = some d) :
      Move s (.readSince now)
        { s with clock := now, phase := .debounce (now + d), delays := d :: s.delays }
  | waited (now w : ℕ) (hphase : s.phase = .debounce w) (hclock : s.clock ≤ now) (h : w ≤ now) :
      Move s (.wake now) { s with clock := now, phase := .settle (now + reloadSettleDelay) }
  | settled (now w : ℕ) (hphase : s.phase = .settle w) (hclock : s.clock ≤ now) (h : w ≤ now) :
      Move s (.wake now) { s with clock := now, phase := .drain }
  | drained (hphase : s.phase = .drain) (htoken : s.token = true) :
      Move s .tryRecv { s with token := false }
  | empty (hphase : s.phase = .drain) (htoken : ¬ s.token = true) :
      Move s .tryRecv { s with phase := .stamp }
  | stamped (now : ℕ) (hphase : s.phase = .stamp) (hclock : s.clock ≤ now) :
      Move s (.readStamp now)
        { s with
          clock := now, phase := .load, lastReload := some now, stamps := now :: s.stamps }
  | loaded (hphase : s.phase = .load) :
      Move s .load { s with phase := .apply, lastRead := some s.version }
  | applied (hphase : s.phase = .apply) : Move s .applied { s with phase := .recv }
  | cancelled
      (hphase : s.phase = .recv ∨ (∃ w, s.phase = .debounce w) ∨ ∃ w, s.phase = .settle w) :
      Move s .cancel { s with phase := .stopped }

lemma move_of_step {s s' : State} {i : Input} (h : step s i = some s') : Move s i s' := by
  cases i with
  | write extra =>
    obtain rfl := Option.some.inj h
    exact .write extra
  | touch =>
    obtain rfl := Option.some.inj h
    exact .touch
  | deliver =>
    obtain ⟨hundelivered, hs'⟩ := Option.ite_none_right_eq_some.mp h
    obtain rfl := Option.some.inj hs'
    exact .deliver hundelivered
  | signal =>
    obtain ⟨⟨hphase, htoken⟩, hs'⟩ := Option.ite_none_right_eq_some.mp h
    obtain rfl := Option.some.inj hs'
    exact .signal hphase htoken
  | closed =>
    obtain ⟨⟨hphase, htoken⟩, hs'⟩ := Option.ite_none_right_eq_some.mp h
    obtain rfl := Option.some.inj hs'
    exact .closed hphase htoken
  | readCheck now =>
    obtain ⟨⟨hphase, hclock⟩, hs'⟩ := Option.ite_none_right_eq_some.mp h
    split at hs'
    · rename_i hdebounce
      obtain rfl := Option.some.inj hs'
      exact .debounced now hphase hclock hdebounce
    · rename_i hdue
      obtain rfl := Option.some.inj hs'
      exact .due now hphase hclock hdue
  | readSince now =>
    obtain ⟨⟨hphase, hclock⟩, hs'⟩ := Option.ite_none_right_eq_some.mp h
    split at hs'
    · cases hs'
    · rename_i last hlast
      split at hs'
      · rename_i hsub
        obtain rfl := Option.some.inj hs'
        exact .underflow now last hphase hclock hlast hsub
      · rename_i d hd
        obtain rfl := Option.some.inj hs'
        exact .waiting now last d hphase hclock hlast hd
  | wake now =>
    simp only [step] at h
    split at h
    · rename_i w hphase
      obtain ⟨⟨hclock, hwake⟩, hs'⟩ := Option.ite_none_right_eq_some.mp h
      obtain rfl := Option.some.inj hs'
      exact .waited now w hphase hclock hwake
    · rename_i w hphase
      obtain ⟨⟨hclock, hwake⟩, hs'⟩ := Option.ite_none_right_eq_some.mp h
      obtain rfl := Option.some.inj hs'
      exact .settled now w hphase hclock hwake
    · cases h
  | tryRecv =>
    obtain ⟨hphase, hs'⟩ := Option.ite_none_right_eq_some.mp h
    split at hs'
    · rename_i htoken
      obtain rfl := Option.some.inj hs'
      exact .drained hphase htoken
    · rename_i htoken
      obtain rfl := Option.some.inj hs'
      exact .empty hphase htoken
  | readStamp now =>
    obtain ⟨⟨hphase, hclock⟩, hs'⟩ := Option.ite_none_right_eq_some.mp h
    obtain rfl := Option.some.inj hs'
    exact .stamped now hphase hclock
  | load =>
    obtain ⟨hphase, hs'⟩ := Option.ite_none_right_eq_some.mp h
    obtain rfl := Option.some.inj hs'
    exact .loaded hphase
  | applied =>
    obtain ⟨hphase, hs'⟩ := Option.ite_none_right_eq_some.mp h
    obtain rfl := Option.some.inj hs'
    exact .applied hphase
  | cancel =>
    simp only [step] at h
    -- the three places at which the loop watches its token
    split at h
    · rename_i hphase
      obtain rfl := Option.some.inj h
      exact .cancelled (Or.inl hphase)
    · rename_i w hphase
      obtain rfl := Option.some.inj h
      exact .cancelled (Or.inr (Or.inl ⟨w, hphase⟩))
    · rename_i w hphase
      obtain rfl := Option.some.inj h
      exact .cancelled (Or.inr (Or.inr ⟨w, hphase⟩))
    · cases h

/-! ## No edit is lost -/

/-- A version that was written after the watcher was armed on `v` has been read, or something is
still on its way to make the loop read it: a notification, a token, or the loop itself, which
is past `recv` and not yet past the load. -/
def Covered (v : ℕ) (s : State) : Prop :=
  v < s.version → s.lastRead = some s.version ∨ 0 < s.undelivered ∨ s.token = true ∨
    (s.phase ≠ .recv ∧ s.phase ≠ .apply)

/-- The loop is on its way to the load. -/
lemma Covered.of_busy {v : ℕ} {s : State} (hrecv : s.phase ≠ .recv) (happly : s.phase ≠ .apply) :
    Covered v s :=
  fun _ => Or.inr (Or.inr (Or.inr ⟨hrecv, happly⟩))

/-- Every step keeps an unread version covered.  A write brings its own notification, a delivered
notification leaves a token, a token that is taken sends the loop towards the load, and so does
one that the drain throws away. -/
lemma covered_step {v : ℕ} (s : State) (i : Input) (s' : State) (hs : Covered v s)
    (h : step s i = some s') : Covered v s' := by
  cases move_of_step h with
  | write | touch => exact fun _ => Or.inr (Or.inl (by simp))
  | deliver => exact fun _ => Or.inr (Or.inr (Or.inl rfl))
  | signal | closed | debounced | due | underflow | waiting | waited | settled | empty | stamped
  | cancelled => exact .of_busy (by simp) (by simp)
  | drained hphase => exact .of_busy (by simp [hphase]) (by simp [hphase])
  | loaded => exact fun _ => Or.inl rfl
  | applied hphase =>
    intro hv
    -- the loop stands past the load, so it is not the one that covers the version
    rcases hs hv with h | h | h | ⟨-, h⟩
    · exact Or.inl h
    · exact Or.inr (Or.inl h)
    · exact Or.inr (Or.inr (Or.inl h))
    · exact absurd hphase h

/-- **No saved edit is lost.**  In every state that a run reaches in which the loop waits in
`recv`, the channel is empty and no notification is outstanding, the version last read is the
version last written since the watcher was armed. -/
theorem version_read_of_quiet (v t : ℕ) (is : List Input) (s : State)
    (h : Lib.run step (init v t) is = some s) (hrecv : s.phase = .recv) (htoken : s.token = false)
    (hdelivered : s.undelivered = 0) (hwritten : v < s.version) :
    s.lastRead = some s.version := by
  have hinit : Covered v (init v t) := fun hv => absurd hv (by simp [init])
  rcases Lib.run_invariant covered_step hinit h hwritten with h | h | h | ⟨h, -⟩
  · exact h
  · omega
  · simp [htoken] at h
  · exact absurd hrecv h

/-- A run with two writes in which the second one lands between the drain and the load. -/
def twoWrites : List Input :=
  [.write 0, .deliver, .signal, .readCheck 0, .wake 200000000, .tryRecv, .write 0, .deliver,
    .readStamp 200000000, .load, .applied, .signal, .readCheck 300000000, .readSince 300000000,
    .wake 1200000000, .wake 1400000000, .tryRecv, .readStamp 1400000000, .load, .applied]

/-- The state in which `twoWrites` ends. -/
def twoWritesEnd : State :=
  { version := 2, undelivered := 0, token := false, phase := .recv, clock := 1400000000,
    lastReload := some 1400000000, lastRead := some 2, delays := [900000000],
    stamps := [1400000000, 200000000] }

/-- The token left by a write between the drain and the load is not lost. -/
theorem version_read_of_quiet_two_writes :
    Lib.run step (init 0 0) twoWrites = some twoWritesEnd ∧
      twoWritesEnd.lastRead = some twoWritesEnd.version := by
  have hrun : Lib.run step (init 0 0) twoWrites = some twoWritesEnd := by decide
  exact ⟨hrun, version_read_of_quiet 0 0 _ _ hrun rfl rfl rfl (by decide)⟩

/-! ## The debounce arithmetic -/

/-- What the debounce is meant to guarantee: the subtraction has not underflowed, no delay is
longer than the window, and two successive reloads are stamped at least the window apart. -/
def Safe (s : State) : Prop :=
  s.phase ≠ .panicked ∧ (∀ d ∈ s.delays, d ≤ reloadDebounce) ∧
    s.stamps.IsChain fun newer older => older + reloadDebounce ≤ newer

/-- The second clock reading of a debounced reload is still within the debounce window of the
previous reload. -/
def SinceInWindow (s : State) : Input → Prop
  | .readSince now => ∀ last, s.lastReload = some last → durationSince now last ≤ reloadDebounce
  | _ => True

/-- The wait that the current reload still owes to the previous one is over, or about to be. -/
def PhaseTimed (s : State) (last : ℕ) : Prop :=
  match s.phase with
  | .debounce wake => last + reloadDebounce ≤ wake
  | .settle _ | .drain | .stamp => last + reloadDebounce ≤ s.clock
  | _ => True

/-- The bookkeeping that every step keeps: `last_reload` is the latest stamp, it is not in the
future, and the phase knows how much of the window is left. -/
structure Timed (s : State) : Prop where
  last_eq : s.lastReload = s.stamps.head?
  last_le : ∀ last, s.lastReload = some last → last ≤ s.clock
  phase : ∀ last, s.lastReload = some last → PhaseTimed s last

lemma timed_init (v t : ℕ) : Timed (init v t) :=
  ⟨rfl, fun _ h => absurd h (by simp [init]), fun _ h => absurd h (by simp [init])⟩

lemma safe_init (v t : ℕ) : Safe (init v t) := ⟨by simp [init], by simp [init], by simp [init]⟩

/-- A step that keeps the stamps and moves the clock forward, to a phase that owes no more than
is left of the window. -/
lemma Timed.of_clock {s s' : State} (hs : Timed s) (hlast : s'.lastReload = s.lastReload)
    (hstamps : s'.stamps = s.stamps) (hclock : s.clock ≤ s'.clock)
    (hphase : ∀ last, s.lastReload = some last → PhaseTimed s' last) : Timed s' := by
  refine ⟨by rw [hlast, hstamps, hs.last_eq], fun last h => ?_, fun last h => ?_⟩
  · exact (hs.last_le last (hlast ▸ h)).trans hclock
  · exact hphase last (hlast ▸ h)

lemma le_of_not_shouldDebounceReload {lastReload : Option ℕ} {now w : ℕ} (hw : 0 < w)
    (h : ¬ shouldDebounceReload lastReload now w = true) :
    ∀ last, lastReload = some last → last + w ≤ now := by
  rintro last rfl
  have h' : ¬ now - last < w := fun hlt => h (decide_eq_true hlt)
  omega

lemma durationSub_eq_some {a b d : ℕ} (h : durationSub a b = some d) : b ≤ a ∧ d = a - b := by
  simp only [durationSub, Option.ite_none_right_eq_some, Option.some.injEq] at h
  exact ⟨h.1, h.2.symm⟩

lemma durationSub_eq_none {a b : ℕ} : durationSub a b = none ↔ a < b := by
  simp [durationSub]

/-- Stamping a reload keeps the stamps a window apart, because the wait is over by then. -/
lemma isChain_stamp {s : State} (hs : Timed s) (hphase : s.phase = .stamp) {now : ℕ}
    (hnow : s.clock ≤ now) :
    ((now :: s.stamps).IsChain fun newer older => older + reloadDebounce ≤ newer) ↔
      s.stamps.IsChain fun newer older => older + reloadDebounce ≤ newer := by
  rw [List.isChain_cons]
  refine and_iff_right fun last hlast => ?_
  have hlast' : s.lastReload = some last := by rw [hs.last_eq]; exact hlast
  have := hs.phase last hlast'
  simp only [PhaseTimed, hphase] at this
  omega

/-- A step that waits for nothing, stamps nothing and does not panic leaves the debounce as safe as
it was. -/
lemma safe_iff_of_kept {s s' : State} {i : Input} (hdelays : s'.delays = s.delays)
    (hstamps : s'.stamps = s.stamps) (hphase : s.phase ≠ .panicked)
    (hphase' : s'.phase ≠ .panicked) (hi : SinceInWindow s i) :
    Safe s' ↔ Safe s ∧ SinceInWindow s i := by
  simp [Safe, hdelays, hstamps, hphase, hphase', hi]

/-- One step keeps the bookkeeping, and keeps the debounce safe unless it is a second clock
reading beyond the window. -/
lemma timed_safe_step (s : State) (i : Input) (s' : State) (hs : Timed s)
    (h : step s i = some s') : Timed s' ∧ (Safe s' ↔ Safe s ∧ SinceInWindow s i) := by
  cases move_of_step h with
  | write | touch | deliver | drained =>
    exact ⟨⟨hs.last_eq, hs.last_le, hs.phase⟩, by simp [Safe, SinceInWindow]⟩
  | signal hphase | closed hphase | loaded hphase | applied hphase =>
    exact ⟨hs.of_clock rfl rfl le_rfl fun _ _ => trivial,
      safe_iff_of_kept rfl rfl (by simp [hphase]) (by simp) trivial⟩
  | cancelled hphase =>
    have hlive : s.phase ≠ .panicked := by
      rcases hphase with hphase | ⟨w, hphase⟩ | ⟨w, hphase⟩ <;> simp [hphase]
    exact ⟨hs.of_clock rfl rfl le_rfl fun _ _ => trivial,
      safe_iff_of_kept rfl rfl hlive (by simp) trivial⟩
  | debounced now hphase hclock =>
    exact ⟨hs.of_clock rfl rfl hclock fun _ _ => trivial,
      safe_iff_of_kept rfl rfl (by simp [hphase]) (by simp) trivial⟩
  | due now hphase hclock hdue =>
    exact ⟨hs.of_clock rfl rfl hclock (le_of_not_shouldDebounceReload (by decide) hdue),
      safe_iff_of_kept rfl rfl (by simp [hphase]) (by simp) trivial⟩
  | underflow now last hphase hclock hlast hsub =>
    -- the second reading is past the window: the subtraction panics
    have hlt := durationSub_eq_none.mp hsub
    have hpast : ¬ SinceInWindow s (.readSince now) := fun hin =>
      absurd (hin last hlast) (Nat.not_le.mpr hlt)
    exact ⟨hs.of_clock rfl rfl hclock fun _ _ => trivial, by simp [Safe, hpast]⟩
  | waiting now last d hphase hclock hlast hd =>
    obtain ⟨hle, rfl⟩ := durationSub_eq_some hd
    have hin : SinceInWindow s (.readSince now) := by
      intro last' hlast'
      obtain rfl : last = last' := Option.some.inj (hlast.symm.trans hlast')
      exact hle
    refine ⟨hs.of_clock rfl rfl hclock ?_, by simp [Safe, hphase, hin]⟩
    -- the rest of the window, counted from the second reading, ends with the window
    intro last' hlast'
    obtain rfl : last = last' := Option.some.inj (hlast.symm.trans hlast')
    have hpast := hs.last_le last hlast
    simp only [PhaseTimed, durationSince] at hle ⊢
    omega
  | waited now w hphase hclock hwake =>
    refine ⟨hs.of_clock rfl rfl hclock fun last hlast => ?_,
      safe_iff_of_kept rfl rfl (by simp [hphase]) (by simp) trivial⟩
    have hwindow := hs.phase last hlast
    simp only [PhaseTimed, hphase] at hwindow ⊢
    omega
  | settled now w hphase hclock =>
    refine ⟨hs.of_clock rfl rfl hclock fun last hlast => ?_,
      safe_iff_of_kept rfl rfl (by simp [hphase]) (by simp) trivial⟩
    have hwindow := hs.phase last hlast
    simp only [PhaseTimed, hphase] at hwindow ⊢
    omega
  | empty hphase =>
    refine ⟨hs.of_clock rfl rfl le_rfl fun last hlast => ?_,
      safe_iff_of_kept rfl rfl (by simp [hphase]) (by simp) trivial⟩
    have hwindow := hs.phase last hlast
    simpa only [PhaseTimed, hphase] using hwindow
  | stamped now hphase hclock =>
    refine ⟨⟨rfl, fun last hl => ?_, fun _ _ => trivial⟩, ?_⟩
    · obtain rfl : now = last := by simpa using hl
      exact le_rfl
    · simp only [Safe, SinceInWindow, and_true, isChain_stamp hs hphase hclock]
      simp [hphase]

/-- **The debounce is safe exactly while the second reading stays in the window.**  Along every
run the subtraction has not underflowed, every delay is at most the window and successive reloads
are stamped at least the window apart if and only if every debounced reload of the run took its
second clock reading no later than a window after the previous reload. -/
theorem safe_iff_sinceInWindow (v t : ℕ) (is : List Input) (s : State)
    (h : Lib.run step (init v t) is = some s) :
    Safe s ↔ Lib.RunAll step SinceInWindow (init v t) is := by
  rw [Lib.run_iff_runAll timed_safe_step (timed_init v t) h, and_iff_right (safe_init v t)]

/-- A save that is debounced one nanosecond before the end of the window, with the second reading
one nanosecond after it. -/
def lateSecondReading : List Input :=
  [.write 0, .deliver, .signal, .readCheck 0, .wake 200000000, .tryRecv, .readStamp 200000000,
    .load, .applied, .write 0, .deliver, .signal, .readCheck 1199999999, .readSince 1200000001]

/-- The watcher task panics at the end of `lateSecondReading`. -/
theorem panics_lateSecondReading :
    ∃ s, Lib.run step (init 0 0) lateSecondReading = some s ∧ s.phase = .panicked ∧ ¬ Safe s := by
  refine ⟨{ init 2 1200000001 with
    phase := .panicked, lastReload := some 200000000, lastRead := some 1,
    stamps := [200000000] }, by decide, rfl, fun hsafe => hsafe.1 rfl⟩

/-- The run of two writes is safe: its second reading is taken at the same instant. -/
theorem safe_twoWritesEnd : Safe twoWritesEnd := by
  have hrun : Lib.run step (init 0 0) twoWrites = some twoWritesEnd := by decide
  refine (safe_iff_sinceInWindow 0 0 twoWrites twoWritesEnd hrun).mpr ?_
  simp [Lib.RunAll, twoWrites, step, init, SinceInWindow, shouldDebounceReload, durationSince,
    durationSub, reloadDebounce, reloadSettleDelay]

end Rfw.Watcher
