/-
# Binding the local address

A TCP and a UDP forwarder start with the same loop: bind the local address, and while that fails
report the failure and try again after `BIND_RETRY_DELAY`.  The loop ends with a bound socket, or
with the cancellation of the forwarder.

`told_and_paced_of_run` says what the operator is told by any run of the loop.  Instants are
nanoseconds.
-/
import Rfw.Lib.Transition
import Rfw.Notify.Event

namespace Rfw.Forwarder

open Lib Monitor Notify

/-- `BIND_RETRY_DELAY`. -/
def bindRetryDelay : ℕ := secs 5

/-- `u32::saturating_add`. -/
def saturatingAdd (n m : ℕ) : ℕ := min (n + m) (2 ^ 32 - 1)

/-- Where the bind loop is. -/
inductive BindPhase
  /-- At the `select!`, whose first branch is the token. -/
  | select
  /-- The token was not cancelled, and `bind` is under way. -/
  | binding
  /-- In `cancelled(&cancel, BIND_RETRY_DELAY)`. -/
  | retrying (wake : ℕ)
  /-- The loop ended with a socket. -/
  | bound
  /-- The forwarder returned without a socket. -/
  | returned
deriving DecidableEq, Repr

/-- The bind loop of one forwarder. -/
structure Bind where
  cfg : ForwarderConfig
  phase : BindPhase
  /-- `bind_failures`. -/
  failures : ℕ
  cancelled : Bool
  clock : ℕ
  /-- The events handed to the notifier, in order. -/
  raised : List Event
  /-- The failures so far, in order: when, and the error. -/
  failed : List (ℕ × Str)

namespace Bind

/-- What can happen to the loop. -/
inductive Input
  /-- The loop looks at its token. -/
  | poll
  /-- `bind` succeeds. -/
  | succeed
  /-- `bind` fails. -/
  | fail (error : Str) (now : ℕ)
  /-- The delay after a failure is over. -/
  | wake (now : ℕ)
  /-- The forwarder's token is cancelled. -/
  | cancel
deriving DecidableEq, Repr

/-- The loop of a new forwarder. -/
def init (cfg : ForwarderConfig) (now : ℕ) : Bind where
  cfg := cfg
  phase := .select
  failures := 0
  cancelled := false
  clock := now
  raised := []
  failed := []

/-- The loop sees its token. -/
def poll (b : Bind) : Option Bind :=
  match b.phase with
  | .select => some { b with phase := if b.cancelled then .returned else .binding }
  | .binding | .retrying _ => if b.cancelled then some { b with phase := .returned } else none
  | .bound | .returned => none

/-- The loop has its socket. -/
def succeed (b : Bind) : Bind :=
  { b with
    phase := .bound
    raised :=
      if 0 < b.failures then
        b.raised ++ [.bindRecovered b.cfg.label b.cfg.localAddr b.failures]
      else b.raised }

/-- A failed attempt is reported, and the next one comes after the delay. -/
def fail (b : Bind) (error : Str) (now : ℕ) : Bind :=
  let failures := saturatingAdd b.failures 1
  { b with
    phase := .retrying (now + bindRetryDelay)
    failures
    clock := now
    raised := b.raised ++ [.bindFailed b.cfg.label b.cfg.localAddr error failures]
    failed := b.failed ++ [(now, error)] }

/-- One step of the loop. -/
def step (b : Bind) : Input → Option Bind
  | .poll => poll b
  | .succeed => if b.phase = .binding then some (succeed b) else none
  | .fail error now =>
      if b.phase = .binding ∧ b.clock ≤ now then some (fail b error now) else none
  | .wake now =>
      match b.phase with
      | .retrying wake =>
          if wake ≤ now then some { b with phase := .select, clock := now } else none
      | _ => none
  | .cancel => some { b with cancelled := true }

/-- Everything that a step can do. -/
inductive Move (b : Bind) : Input → Bind → Prop
  | tried (hphase : b.phase = .select) (hlive : b.cancelled = false) :
      Move b .poll { b with phase := .binding }
  | stopped (hphase : b.phase ≠ .bound) (hcancelled : b.cancelled = true) :
      Move b .poll { b with phase := .returned }
  | succeeded (hphase : b.phase = .binding) : Move b .succeed (succeed b)
  | failed (error : Str) (now : ℕ) (hphase : b.phase = .binding) (hclock : b.clock ≤ now) :
      Move b (.fail error now) (fail b error now)
  | woken (wake now : ℕ) (hphase : b.phase = .retrying wake) (hwake : wake ≤ now) :
      Move b (.wake now) { b with phase := .select, clock := now }
  | cancelled : Move b .cancel { b with cancelled := true }

lemma move_of_step {b b' : Bind} {i : Input} (h : step b i = some b') : Move b i b' := by
  cases i with
  | poll =>
    have hstopped {wanted : Bind} (hphase : b.phase ≠ .bound)
        (hif : (if b.cancelled then some { b with phase := .returned } else none) = some wanted) :
        Move b .poll wanted := by
      obtain ⟨hcancelled, hb'⟩ := Option.ite_none_right_eq_some.mp hif
      obtain rfl := Option.some.inj hb'
      exact .stopped hphase hcancelled
    simp only [step, poll] at h
    split at h
    · rename_i hphase
      obtain rfl := Option.some.inj h
      by_cases hcancelled : b.cancelled = true
      · rw [if_pos hcancelled]
        exact .stopped (by rw [hphase]; decide) hcancelled
      · rw [if_neg hcancelled]
        exact .tried hphase (Bool.eq_false_of_not_eq_true hcancelled)
    · rename_i hphase
      exact hstopped (by rw [hphase]; decide) h
    · rename_i wake hphase
      exact hstopped (by rw [hphase]; simp) h
    · cases h
    · cases h
  | succeed =>
    obtain ⟨hphase, hb'⟩ := Option.ite_none_right_eq_some.mp h
    obtain rfl := Option.some.inj hb'
    exact .succeeded hphase
  | fail error now =>
    obtain ⟨⟨hphase, hclock⟩, hb'⟩ := Option.ite_none_right_eq_some.mp h
    obtain rfl := Option.some.inj hb'
    exact .failed error now hphase hclock
  | wake now =>
    simp only [step] at h
    split at h
    · rename_i wake hphase
      obtain ⟨hwake, hb'⟩ := Option.ite_none_right_eq_some.mp h
      obtain rfl := Option.some.inj hb'
      exact .woken wake now hphase hwake
    · cases h
  | cancel =>
    obtain rfl := Option.some.inj h
    exact .cancelled

/-! ## What the operator is told -/

/-- The events of some failures in a row. -/
def failureEvents (cfg : ForwarderConfig) (errors : List Str) : List Event :=
  errors.zipIdx.map fun e =>
    .bindFailed cfg.label cfg.localAddr e.1 (min (e.2 + 1) (2 ^ 32 - 1))

/-- The event of a bind that failed some times before. -/
def recoveryEvent (cfg : ForwarderConfig) (failures : ℕ) : List Event :=
  if failures = 0 then []
  else [.bindRecovered cfg.label cfg.localAddr (min failures (2 ^ 32 - 1))]

/-- What holds of the loop at any time. -/
structure Told (b : Bind) : Prop where
  /-- Every failure was reported with its number, and nothing else was, except that a bind after
  failures reports how many there were. -/
  raised : b.raised = failureEvents b.cfg (b.failed.map Prod.snd) ++
    if b.phase = .bound then recoveryEvent b.cfg b.failed.length else []
  count : b.failures = min b.failed.length (2 ^ 32 - 1)
  /-- Two attempts that fail are a delay apart. -/
  spaced : b.failed.Pairwise fun earlier later => earlier.1 + bindRetryDelay ≤ later.1

/-- The failures lie a delay back, unless the loop still waits out that delay. -/
structure Paced (b : Bind) : Prop where
  waited : b.phase = .select ∨ b.phase = .binding →
    ∀ f ∈ b.failed, f.1 + bindRetryDelay ≤ b.clock
  waiting : ∀ wake, b.phase = .retrying wake → ∀ f ∈ b.failed, f.1 + bindRetryDelay ≤ wake

variable {b b' : Bind} {cfg : ForwarderConfig}

lemma failureEvents_append (errors : List Str) (error : Str) :
    failureEvents cfg (errors ++ [error]) = failureEvents cfg errors ++
      [.bindFailed cfg.label cfg.localAddr error (min (errors.length + 1) (2 ^ 32 - 1))] := by
  simp [failureEvents, List.zipIdx_append]

lemma told_init (cfg : ForwarderConfig) (now : ℕ) : Told (init cfg now) :=
  ⟨rfl, rfl, List.Pairwise.nil⟩

lemma paced_init (cfg : ForwarderConfig) (now : ℕ) : Paced (init cfg now) :=
  ⟨fun _ => nofun, fun _ _ => nofun⟩

/-- Without a socket, only the failures were reported. -/
lemma Told.raised_of_ne (h : Told b) (hphase : b.phase ≠ .bound) :
    b.raised = failureEvents b.cfg (b.failed.map Prod.snd) := by
  rw [h.raised, if_neg hphase, List.append_nil]

lemma Told.of_raised (hraised : b.raised = failureEvents b.cfg (b.failed.map Prod.snd))
    (hphase : b.phase ≠ .bound) (hcount : b.failures = min b.failed.length (2 ^ 32 - 1))
    (hspaced : b.failed.Pairwise fun earlier later => earlier.1 + bindRetryDelay ≤ later.1) :
    Told b :=
  ⟨by rw [if_neg hphase, List.append_nil, hraised], hcount, hspaced⟩

lemma told_succeed (h : Told b) (hphase : b.phase = .binding) : Told (succeed b) := by
  refine ⟨?_, h.count, h.spaced⟩
  have hraised := h.raised_of_ne (by rw [hphase]; decide)
  show (if 0 < b.failures then _ else _) = failureEvents b.cfg (b.failed.map Prod.snd) ++
    recoveryEvent b.cfg b.failed.length
  have hpos : 0 < b.failures ↔ b.failed.length ≠ 0 := by
    rw [h.count]
    omega
  unfold recoveryEvent
  by_cases hzero : b.failed.length = 0
  · rw [if_neg (by rw [hpos]; exact not_not.mpr hzero), if_pos hzero, List.append_nil, hraised]
  · rw [if_pos (hpos.mpr hzero), if_neg hzero, hraised, h.count]

lemma told_fail (h : Told b) (hpaced : Paced b) (hphase : b.phase = .binding) (error : Str)
    {now : ℕ} (hclock : b.clock ≤ now) : Told (fail b error now) := by
  have hraised := h.raised_of_ne (by rw [hphase]; decide)
  have hcount : saturatingAdd b.failures 1 = min (b.failed.length + 1) (2 ^ 32 - 1) := by
    rw [saturatingAdd, h.count]
    omega
  refine Told.of_raised ?_ nofun ?_ ?_
  · simp only [fail, List.map_append, List.map_cons, List.map_nil]
    rw [failureEvents_append, hraised, hcount, List.length_map]
  · simp only [fail, List.length_append, List.length_singleton]
    exact hcount
  · refine List.pairwise_append.mpr ⟨h.spaced, List.pairwise_singleton _ _, fun f hf g hg => ?_⟩
    obtain rfl := List.mem_singleton.mp hg
    exact (hpaced.waited (.inr hphase) f hf).trans hclock

lemma told_move (h : Told b) (hpaced : Paced b) {i : Input} (hmove : Move b i b') : Told b' := by
  cases hmove with
  | tried hphase _ =>
    exact .of_raised (h.raised_of_ne (by rw [hphase]; decide)) nofun h.count h.spaced
  | stopped hphase _ => exact .of_raised (h.raised_of_ne hphase) nofun h.count h.spaced
  | succeeded hphase => exact told_succeed h hphase
  | failed error now hphase hclock => exact told_fail h hpaced hphase error hclock
  | woken wake now hphase _ =>
    exact .of_raised (h.raised_of_ne (by rw [hphase]; simp)) nofun h.count h.spaced
  | cancelled => exact ⟨h.raised, h.count, h.spaced⟩

lemma paced_move (h : Paced b) {i : Input} (hmove : Move b i b') : Paced b' := by
  cases hmove with
  | tried hphase _ => exact ⟨fun _ => h.waited (.inl hphase), nofun⟩
  | stopped _ _ | succeeded _ => exact ⟨(by rintro (h | h) <;> cases h), nofun⟩
  | failed error now hphase hclock =>
    refine ⟨(by rintro (h | h) <;> cases h), fun wake hwake f hf => ?_⟩
    obtain rfl : now + bindRetryDelay = wake := by simpa [fail] using hwake
    rcases List.mem_append.mp hf with hf | hf
    · have := h.waited (.inr hphase) f hf
      omega
    · obtain rfl := List.mem_singleton.mp hf
      exact le_refl _
  | woken wake now hphase hwake =>
    exact ⟨fun _ f hf => (h.waiting wake hphase f hf).trans hwake, nofun⟩
  | cancelled => exact ⟨h.waited, h.waiting⟩

/-- **Every run of the loop tells the operator what happened.** -/
theorem told_and_paced_of_run {now : ℕ} {is : List Input}
    (h : run step (init cfg now) is = some b) :
    Told b ∧ Paced b :=
  run_invariant (I := fun b => Told b ∧ Paced b)
    (fun _ _ _ hb hstep =>
      ⟨told_move hb.1 hb.2 (move_of_step hstep), paced_move hb.2 (move_of_step hstep)⟩)
    ⟨told_init cfg now, paced_init cfg now⟩ h

lemma cfg_move {i : Input} (hmove : Move b i b') : b'.cfg = b.cfg := by
  cases hmove <;> rfl

end Bind

end Rfw.Forwarder
