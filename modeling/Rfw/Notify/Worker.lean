/-
# The delivery worker

Producers hand events to a bounded channel with `try_send`; one worker takes them out in order,
asks the throttle, and delivers what is admitted.  When the shutdown token is cancelled the worker
closes the channel and flushes what is still in it.

The machine below has one input for each atomic step: a call of `notify`, the cancellation, the
drop of the last producer handle, and the steps of the worker.  The outcome of a delivery and the
clock reading of the throttle are part of the inputs.  The pacing of deliveries only delays the
worker, and is left out.

`events_accounted` follows every event to one of the four counters.
-/
import Rfw.Notify.Throttle

namespace Rfw.Notify.Worker

open Lib

/-- `QUEUE_CAPACITY`. -/
def queueCapacity : ℕ := 256

/-- `NotifierCounters`. -/
structure Counters where
  sent : ℕ
  failed : ℕ
  dropped : ℕ
  suppressed : ℕ
deriving DecidableEq, Repr

/-- Which loop an event was taken in. -/
inductive Loop
  | main
  | flush
deriving DecidableEq, Repr

/-- Where `Worker::run` is. -/
inductive Phase
  /-- In the `select!`, which looks at the cancellation first. -/
  | select
  /-- The token was not cancelled; `recv` comes next. -/
  | recv
  /-- In `process`: the throttle is asked next. -/
  | throttling (event : Event) (loop : Loop)
  /-- In `deliver`. -/
  | delivering (event : Event) (suppressed : ℕ) (loop : Loop)
  /-- The cancellation was seen; `rx.close()` comes next. -/
  | closing
  /-- In the flush loop, before `try_recv`. -/
  | flushing
  /-- The flush loop has ended. -/
  | flushed
  /-- Every producer is gone, and the worker returned without a flush. -/
  | returned
deriving DecidableEq, Repr

/-- The channel, the worker and the counters. -/
structure State where
  queue : List Event
  closed : Bool
  cancelled : Bool
  /-- A producer handle is left. -/
  producers : Bool
  phase : Phase
  throttle : Throttle
  counters : Counters
  /-- The number of calls of `notify` so far. -/
  calls : ℕ
  /-- The events that entered the queue, in order. -/
  entered : List Event
  /-- The events whose messages were handed to `deliver`, in order. -/
  handed : List Event

/-- What can happen next. -/
inductive Input
  /-- A producer calls `notify`. -/
  | notify (event : Event)
  /-- The shutdown token is cancelled. -/
  | cancel
  /-- The last producer handle is dropped. -/
  | dropProducers
  /-- The worker polls its token, the channel, or closes it. -/
  | poll
  /-- The worker asks the throttle at a clock reading. -/
  | throttle (now : ℕ)
  /-- A delivery ends. -/
  | delivered (ok : Bool)
deriving DecidableEq, Repr

/-- The worker and its channel right after `start`. -/
def init : State where
  queue := []
  closed := false
  cancelled := false
  producers := true
  phase := .select
  throttle := .empty
  counters := { sent := 0, failed := 0, dropped := 0, suppressed := 0 }
  calls := 0
  entered := []
  handed := []

/-- `Notifier::notify` on an enabled notifier. -/
def notify (s : State) (event : Event) : State :=
  let s := { s with calls := s.calls + 1 }
  -- `try_send` fails on a closed channel and on a full one, and both are counted alike
  if s.closed ∨ queueCapacity ≤ s.queue.length then
    { s with counters.dropped := s.counters.dropped + 1 }
  else { s with queue := s.queue ++ [event], entered := s.entered ++ [event] }

/-- The phase after an event was processed. -/
def Loop.next : Loop → Phase
  | main => .select
  | flush => .flushing

/-- A step of the worker that looks at its token or at the channel. -/
def poll (s : State) : Option State :=
  match s.phase with
  | .select => some { s with phase := if s.cancelled then .closing else .recv }
  | .recv =>
      match s.queue with
      | event :: queue => some { s with queue, phase := .throttling event .main }
      | [] =>
          -- `recv` gives `None` when the channel is empty and every producer is gone
          if s.producers then some { s with phase := .select }
          else some { s with closed := true, phase := .returned }
  | .closing => some { s with closed := true, phase := .flushing }
  | .flushing =>
      match s.queue with
      | event :: queue => some { s with queue, phase := .throttling event .flush }
      | [] => some { s with phase := .flushed }
  | _ => none

/-- The throttle's decision in `process`. -/
def throttle (s : State) (now : ℕ) : Option State :=
  match s.phase with
  | .throttling event loop =>
      match s.throttle.handle event now with
      | (.suppress, throttle) =>
          some { s with
            throttle
            counters.suppressed := s.counters.suppressed + 1
            phase := loop.next }
      | (.send suppressed, throttle) =>
          some { s with
            throttle
            handed := s.handed ++ [event]
            phase := .delivering event suppressed loop }
  | _ => none

/-- The end of a delivery in `process`. -/
def delivered (s : State) (ok : Bool) : Option State :=
  match s.phase with
  | .delivering _ _ loop =>
      if ok then some { s with counters.sent := s.counters.sent + 1, phase := loop.next }
      else some { s with counters.failed := s.counters.failed + 1, phase := loop.next }
  | _ => none

/-- One step. -/
def step (s : State) : Input → Option State
  | .notify event => if s.producers then some (notify s event) else none
  | .cancel => some { s with cancelled := true }
  | .dropProducers => some { s with producers := false }
  | .poll => poll s
  | .throttle now => throttle s now
  | .delivered ok => delivered s ok

/-- The event that the throttle has not decided yet. -/
def Phase.undecided : Phase → List Event
  | throttling event _ => [event]
  | _ => []

/-- The number of events being processed. -/
def Phase.processing : Phase → ℕ
  | throttling _ _ => 1
  | delivering _ _ _ => 1
  | _ => 0

/-- The worker was in the flush loop, or came out of it. -/
def Phase.afterClose : Phase → Bool
  | throttling _ .flush | delivering _ _ .flush | flushing | flushed | returned => true
  | _ => false

/-- What holds in every reachable state. -/
structure Accounting (s : State) : Prop where
  /-- Every call of `notify` is counted, queued or being processed. -/
  calls : s.calls = s.counters.dropped + s.counters.suppressed + s.counters.sent +
    s.counters.failed + s.queue.length + s.phase.processing
  /-- The events leave the queue in the order in which they entered it, and those that the throttle
  lets through are handed to `deliver` in that order. -/
  order : ∃ taken : List (Event × Bool),
    s.entered = taken.map Prod.fst ++ s.phase.undecided ++ s.queue ∧
      s.handed = (taken.filter Prod.snd).map Prod.fst
  /-- Every event that entered the queue is counted, still there or being processed. -/
  entered : s.entered.length = s.counters.suppressed + s.counters.sent + s.counters.failed +
    s.queue.length + s.phase.processing
  /-- The queue never holds more than its capacity. -/
  capacity : s.queue.length ≤ queueCapacity
  closed : s.phase.afterClose = true → s.closed = true
  /-- Nothing is left behind. -/
  empty : s.phase = .flushed ∨ s.phase = .returned → s.queue = []

/-! ## One step -/

section Step

variable {s s' : State}

lemma accounting_notify (h : Accounting s) (event : Event) : Accounting (notify s event) := by
  obtain ⟨hcalls, ⟨taken, hentered, hhanded⟩, hcount, hcapacity, hclosed, hempty⟩ := h
  by_cases hfull : s.closed ∨ queueCapacity ≤ s.queue.length
  · have heq : notify s event =
        { s with calls := s.calls + 1, counters.dropped := s.counters.dropped + 1 } := if_pos hfull
    rw [heq]
    refine ⟨?_, ⟨taken, hentered, hhanded⟩, hcount, hcapacity, hclosed, hempty⟩
    dsimp only
    omega
  · have heq : notify s event =
        { s with
          calls := s.calls + 1
          queue := s.queue ++ [event]
          entered := s.entered ++ [event] } := if_neg hfull
    rw [not_or, Bool.not_eq_true, Nat.not_le] at hfull
    rw [heq]
    refine ⟨?_, ⟨taken, ?_, hhanded⟩, ?_, ?_, hclosed, fun hend => ?_⟩
    · simp only [List.length_append, List.length_singleton]
      omega
    · show s.entered ++ [event] = _
      rw [hentered, List.append_assoc]
    · simp only [List.length_append, List.length_singleton]
      omega
    · show (s.queue ++ [event]).length ≤ queueCapacity
      rw [List.length_append, List.length_singleton]
      omega
    · -- the worker is gone, so the channel is closed
      exfalso
      have hafter : s.phase.afterClose = true := by
        rcases hend with hend | hend
        · rw [show s.phase = .flushed from hend]
          rfl
        · rw [show s.phase = .returned from hend]
          rfl
      rw [hclosed hafter] at hfull
      cases hfull.1

/-- An event is taken out of the queue. -/
lemma accounting_take (h : Accounting s) {event : Event} {queue : List Event} {loop : Loop}
    (hqueue : s.queue = event :: queue) (hphase : s.phase.processing = 0)
    (hundecided : s.phase.undecided = [])
    (hloop : loop = .flush → s.phase.afterClose = true) :
    Accounting { s with queue, phase := .throttling event loop } := by
  obtain ⟨hcalls, ⟨taken, hentered, hhanded⟩, hcount, hcapacity, hclosed, -⟩ := h
  rw [hqueue, List.length_cons] at hcalls hcount hcapacity
  refine ⟨?_, ⟨taken, ?_, hhanded⟩, ?_, ?_, fun hafter => ?_, fun hend => ?_⟩
  · simp only [Phase.processing]
    omega
  · show s.entered = taken.map Prod.fst ++ [event] ++ queue
    rw [hentered, hundecided, hqueue]
    simp
  · simp only [Phase.processing]
    omega
  · show queue.length ≤ queueCapacity
    omega
  · cases loop with
    | main => cases hafter
    | flush => exact hclosed (hloop rfl)
  · rcases hend with hend | hend <;> cases hend

lemma accounting_poll (h : Accounting s) (hstep : poll s = some s') : Accounting s' := by
  obtain ⟨hcalls, ⟨taken, hentered, hhanded⟩, hcount, hcapacity, hclosed, -⟩ := id h
  simp only [poll] at hstep
  -- the phases of the worker, in the order of `poll`
  split at hstep
  · rename_i hphase
    obtain rfl := Option.some.inj hstep
    rw [hphase] at hcalls hentered hcount
    cases s.cancelled <;>
      exact ⟨hcalls, ⟨taken, hentered, hhanded⟩, hcount, hcapacity, nofun, by simp⟩
  · rename_i hphase
    split at hstep
    · rename_i event queue hqueue
      obtain rfl := Option.some.inj hstep
      exact accounting_take h hqueue (by rw [hphase]; rfl) (by rw [hphase]; rfl) nofun
    · rename_i hqueue
      rw [hphase] at hcalls hentered hcount
      split at hstep
      · obtain rfl := Option.some.inj hstep
        exact ⟨hcalls, ⟨taken, hentered, hhanded⟩, hcount, hcapacity, nofun, by simp⟩
      · obtain rfl := Option.some.inj hstep
        exact ⟨hcalls, ⟨taken, hentered, hhanded⟩, hcount, hcapacity, fun _ => rfl,
          fun _ => hqueue⟩
  · rename_i hphase
    obtain rfl := Option.some.inj hstep
    rw [hphase] at hcalls hentered hcount
    exact ⟨hcalls, ⟨taken, hentered, hhanded⟩, hcount, hcapacity, fun _ => rfl, by simp⟩
  · rename_i hphase
    have hafter : s.phase.afterClose = true := by rw [hphase]; rfl
    split at hstep
    · rename_i event queue hqueue
      obtain rfl := Option.some.inj hstep
      exact accounting_take h hqueue (by rw [hphase]; rfl) (by rw [hphase]; rfl) fun _ => hafter
    · rename_i hqueue
      obtain rfl := Option.some.inj hstep
      rw [hphase] at hcalls hentered hcount
      exact ⟨hcalls, ⟨taken, hentered, hhanded⟩, hcount, hcapacity, fun _ => hclosed hafter,
        fun _ => hqueue⟩
  · cases hstep

/-- After an event was processed the worker is back in its loop. -/
lemma loop_next (loop : Loop) :
    loop.next.processing = 0 ∧ loop.next.undecided = [] ∧ loop.next ≠ .flushed ∧
      loop.next ≠ .returned ∧ (loop.next.afterClose = true → loop = .flush) := by
  cases loop <;> simp [Loop.next, Phase.processing, Phase.undecided, Phase.afterClose]

/-- An event leaves `process` through one of the three counters. -/
lemma accounting_next (h : Accounting s) {loop : Loop} {counters : Counters} {t : Throttle}
    (hphase : s.phase.processing = 1) (hloop : loop = .flush → s.phase.afterClose = true)
    (hdropped : counters.dropped = s.counters.dropped)
    (hone : counters.suppressed + counters.sent + counters.failed =
      s.counters.suppressed + s.counters.sent + s.counters.failed + 1)
    (horder : ∃ taken : List (Event × Bool), s.entered = taken.map Prod.fst ++ s.queue ∧
      s.handed = (taken.filter Prod.snd).map Prod.fst) :
    Accounting { s with throttle := t, counters, phase := loop.next } := by
  obtain ⟨hzero, hnone, hflushed, hreturned, hflush⟩ := loop_next loop
  obtain ⟨taken, hentered, hhanded⟩ := horder
  have hcalls := h.calls
  have hcount := h.entered
  refine ⟨?_, ⟨taken, ?_, hhanded⟩, ?_, h.capacity, fun hafter => ?_, fun hend => ?_⟩
  · dsimp only
    rw [hzero]
    omega
  · show s.entered = taken.map Prod.fst ++ loop.next.undecided ++ s.queue
    rw [hnone, List.append_nil]
    exact hentered
  · dsimp only
    rw [hzero]
    omega
  · exact h.closed (hloop (hflush hafter))
  · rcases hend with hend | hend
    · exact absurd hend hflushed
    · exact absurd hend hreturned

lemma accounting_throttle (h : Accounting s) {now : ℕ} (hstep : throttle s now = some s') :
    Accounting s' := by
  obtain ⟨taken, hentered, hhanded⟩ := h.order
  simp only [throttle] at hstep
  split at hstep
  · rename_i event loop hphase
    have hloop : loop = .flush → s.phase.afterClose = true := by
      rintro rfl
      rw [hphase]
      rfl
    rw [hphase] at hentered
    split at hstep
    · -- suppressed: the event is decided and counted in one step
      rename_i t _
      obtain rfl := Option.some.inj hstep
      refine accounting_next h (by rw [hphase]; rfl) hloop rfl ?_
        ⟨taken ++ [(event, false)], ?_, ?_⟩
      · dsimp only
        omega
      · rw [hentered, Phase.undecided]
        simp
      · rw [hhanded]
        simp
    · -- admitted: the message is on its way, and the event is still being processed
      rename_i suppressed t _
      obtain rfl := Option.some.inj hstep
      have hcalls := h.calls
      have hcount := h.entered
      rw [hphase] at hcalls hcount
      refine ⟨hcalls, ⟨taken ++ [(event, true)], ?_, ?_⟩, hcount, h.capacity, fun hafter => ?_,
        fun hend => ?_⟩
      · show s.entered = _ ++ [] ++ s.queue
        rw [hentered, Phase.undecided]
        simp
      · show s.handed ++ [event] = _
        rw [hhanded]
        simp
      · cases loop with
        | main => cases hafter
        | flush => exact h.closed (hloop rfl)
      · rcases hend with hend | hend <;> cases hend
  · cases hstep

lemma accounting_delivered (h : Accounting s) {ok : Bool} (hstep : delivered s ok = some s') :
    Accounting s' := by
  obtain ⟨taken, hentered, hhanded⟩ := h.order
  simp only [delivered] at hstep
  split at hstep
  · rename_i event suppressed loop hphase
    have hloop : loop = .flush → s.phase.afterClose = true := by
      rintro rfl
      rw [hphase]
      rfl
    have hone : s.phase.processing = 1 := by rw [hphase]; rfl
    have hdecided : s.phase.undecided = [] := by rw [hphase]; rfl
    rw [hdecided, List.append_nil] at hentered
    split at hstep
    · obtain rfl := Option.some.inj hstep
      refine accounting_next h hone hloop rfl ?_ ⟨taken, hentered, hhanded⟩
      dsimp only
      omega
    · obtain rfl := Option.some.inj hstep
      refine accounting_next h hone hloop rfl ?_ ⟨taken, hentered, hhanded⟩
      dsimp only
      omega
  · cases hstep

lemma accounting_step (s : State) (i : Input) (s' : State) (h : Accounting s)
    (hstep : step s i = some s') : Accounting s' := by
  cases i with
  | notify event =>
    obtain ⟨-, hs'⟩ := Option.ite_none_right_eq_some.mp hstep
    obtain rfl := Option.some.inj hs'
    exact accounting_notify h event
  | cancel =>
    obtain rfl := Option.some.inj hstep
    exact ⟨h.calls, h.order, h.entered, h.capacity, h.closed, h.empty⟩
  | dropProducers =>
    obtain rfl := Option.some.inj hstep
    exact ⟨h.calls, h.order, h.entered, h.capacity, h.closed, h.empty⟩
  | poll => exact accounting_poll h hstep
  | throttle now => exact accounting_throttle h hstep
  | delivered ok => exact accounting_delivered h hstep

end Step

/-! ## What the worker leaves alone -/

/-- The input is a call of `notify`. -/
def Input.isNotify : Input → Bool
  | notify _ => true
  | _ => false

/-- A step that takes nothing in: the channel does not reopen, and the calls of `notify`, the
events that entered the queue and the dropped ones stay as they are. -/
structure Frame (s s' : State) : Prop where
  closed : s.closed = true → s'.closed = true
  calls : s'.calls = s.calls
  entered : s'.entered = s.entered
  dropped : s'.counters.dropped = s.counters.dropped

lemma poll_frame {s s' : State} (hstep : poll s = some s') : Frame s s' := by
  simp only [poll] at hstep
  split at hstep
  · obtain rfl := Option.some.inj hstep
    exact ⟨id, rfl, rfl, rfl⟩
  · split at hstep
    · obtain rfl := Option.some.inj hstep
      exact ⟨id, rfl, rfl, rfl⟩
    · split at hstep
      · obtain rfl := Option.some.inj hstep
        exact ⟨id, rfl, rfl, rfl⟩
      · obtain rfl := Option.some.inj hstep
        exact ⟨fun _ => rfl, rfl, rfl, rfl⟩
  · obtain rfl := Option.some.inj hstep
    exact ⟨fun _ => rfl, rfl, rfl, rfl⟩
  · split at hstep
    · obtain rfl := Option.some.inj hstep
      exact ⟨id, rfl, rfl, rfl⟩
    · obtain rfl := Option.some.inj hstep
      exact ⟨id, rfl, rfl, rfl⟩
  · cases hstep

lemma throttle_frame {s s' : State} {now : ℕ} (hstep : throttle s now = some s') : Frame s s' := by
  simp only [throttle] at hstep
  split at hstep
  · split at hstep
    · obtain rfl := Option.some.inj hstep
      exact ⟨id, rfl, rfl, rfl⟩
    · obtain rfl := Option.some.inj hstep
      exact ⟨id, rfl, rfl, rfl⟩
  · cases hstep

lemma delivered_frame {s s' : State} {ok : Bool} (hstep : delivered s ok = some s') :
    Frame s s' := by
  simp only [delivered] at hstep
  split at hstep
  · split at hstep
    · obtain rfl := Option.some.inj hstep
      exact ⟨id, rfl, rfl, rfl⟩
    · obtain rfl := Option.some.inj hstep
      exact ⟨id, rfl, rfl, rfl⟩
  · cases hstep

lemma step_frame {s s' : State} {i : Input} (hi : i.isNotify = false) (hstep : step s i = some s') :
    Frame s s' := by
  cases i with
  | notify event => cases hi
  | cancel =>
    obtain rfl := Option.some.inj hstep
    exact ⟨id, rfl, rfl, rfl⟩
  | dropProducers =>
    obtain rfl := Option.some.inj hstep
    exact ⟨id, rfl, rfl, rfl⟩
  | poll => exact poll_frame hstep
  | throttle now => exact throttle_frame hstep
  | delivered ok => exact delivered_frame hstep

lemma calls_notify (s : State) (event : Event) : (notify s event).calls = s.calls + 1 := by
  simp only [notify]
  split <;> rfl

/-- `calls` counts the calls of `notify`. -/
lemma calls_eq_countP {is : List Input} {s : State} (hrun : run step init is = some s) :
    s.calls = is.countP Input.isNotify := by
  refine run_invariant_history (I := fun is s => s.calls = is.countP Input.isNotify) rfl
    (fun js m i m' hm hstep => ?_) hrun
  rw [List.countP_append, ← hm]
  cases hi : i.isNotify with
  | false =>
    rw [List.countP_singleton, hi]
    exact (step_frame hi hstep).calls
  | true =>
    rw [List.countP_singleton, hi]
    cases i with
    | notify event =>
      obtain ⟨-, hm'⟩ := Option.ite_none_right_eq_some.mp hstep
      obtain rfl := Option.some.inj hm'
      exact calls_notify m event
    | _ => cases hi

/-- What a closed channel keeps, from a state `s` on: it stays closed, takes nothing in, and every
call of `notify` since then is counted as dropped. -/
structure StaysClosed (s : State) (is : List Input) (s' : State) : Prop where
  closed : s'.closed = true
  entered : s'.entered = s.entered
  dropped : s'.counters.dropped = s.counters.dropped + is.countP Input.isNotify

lemma staysClosed_step {s : State} (is : List Input) (m : State) (i : Input) (m' : State)
    (h : StaysClosed s is m) (hstep : step m i = some m') : StaysClosed s (is ++ [i]) m' := by
  obtain ⟨hclosed, hentered, hdropped⟩ := h
  cases hi : i.isNotify with
  | false =>
    have hframe := step_frame hi hstep
    refine ⟨hframe.closed hclosed, hframe.entered.trans hentered, ?_⟩
    rw [hframe.dropped, hdropped, List.countP_append, List.countP_singleton, hi]
    rfl
  | true =>
    cases i with
    | notify event =>
      obtain ⟨-, hm'⟩ := Option.ite_none_right_eq_some.mp hstep
      have heq : notify m event =
          { m with calls := m.calls + 1, counters.dropped := m.counters.dropped + 1 } :=
        if_pos (Or.inl hclosed)
      rw [heq] at hm'
      obtain rfl := Option.some.inj hm'
      refine ⟨hclosed, hentered, ?_⟩
      show m.counters.dropped + 1 = _
      rw [hdropped, List.countP_append, List.countP_singleton, hi]
      rfl
    | _ => cases hi

lemma staysClosed_run {s s' : State} {is : List Input} (hclosed : s.closed = true)
    (hrun : run step s is = some s') : StaysClosed s is s' :=
  run_invariant_history ⟨hclosed, rfl, rfl⟩ staysClosed_step hrun

/-! ## Runs -/

lemma accounting_init : Accounting init :=
  ⟨rfl, ⟨[], rfl, rfl⟩, rfl, by decide, nofun, by simp [init]⟩

/-- **No event disappears unaccounted.**  In every reachable state each call of `notify` is
counted, queued or being processed, and the messages are handed over in the order in which their
events entered the queue.  A closed channel counts every later call as dropped, and once the flush
loop has ended every event that had entered the queue is counted. -/
theorem events_accounted (is : List Input) (s : State) (hrun : run step init is = some s) :
    (is.countP Input.isNotify = s.counters.dropped + s.counters.suppressed + s.counters.sent +
      s.counters.failed + s.queue.length + s.phase.processing ∧ s.phase.processing ≤ 1) ∧
    (∃ taken : List (Event × Bool),
      s.entered = taken.map Prod.fst ++ s.phase.undecided ++ s.queue ∧
        s.handed = (taken.filter Prod.snd).map Prod.fst) ∧
    (s.closed = true → ∀ later s', run step s later = some s' → s'.entered = s.entered ∧
      s'.counters.dropped = s.counters.dropped + later.countP Input.isNotify) ∧
    (s.phase = .flushed → s.closed = true ∧ s.queue = [] ∧
      s.entered.length = s.counters.sent + s.counters.failed + s.counters.suppressed) := by
  have h : Accounting s := run_invariant accounting_step accounting_init hrun
  refine ⟨⟨?_, ?_⟩, h.order, fun hclosed later s' hlater => ?_, fun hflushed => ?_⟩
  · rw [← calls_eq_countP hrun]
    exact h.calls
  · cases s.phase <;> simp [Phase.processing]
  · have hstays := staysClosed_run hclosed hlater
    exact ⟨hstays.entered, hstays.dropped⟩
  · have hempty := h.empty (Or.inl hflushed)
    have hcount := h.entered
    rw [hempty, hflushed, List.length_nil] at hcount
    refine ⟨h.closed (by rw [hflushed]; rfl), hempty, ?_⟩
    have hnone : Phase.flushed.processing = 0 := rfl
    omega

/-- Two events of one key within the window, a third queued when the token is cancelled, and a
call after the channel was closed. -/
def flushedRun : List Input :=
  [.notify (.dnsChanged ['a'] ['h'] [] []), .notify (.dnsChanged ['a'] ['h'] [] []),
    .poll, .poll, .throttle 0, .delivered true, .poll, .poll, .throttle 1000,
    .notify (.stopping [] 0), .cancel, .poll, .poll, .notify (.started []), .poll, .throttle 2000,
    .delivered false, .poll]

theorem events_accounted_flushedRun :
    ∃ s, run step init flushedRun = some s ∧ s.phase = .flushed ∧
      s.counters = { sent := 1, failed := 1, dropped := 1, suppressed := 1 } ∧
      flushedRun.countP Input.isNotify = 1 + 1 + 1 + 1 + 0 + 0 ∧
      s.closed = true ∧ s.queue = [] ∧ s.entered.length = 1 + 1 + 1 := by
  have hend : ((run step init flushedRun).map fun s => (s.phase, s.counters)) =
      some (.flushed, { sent := 1, failed := 1, dropped := 1, suppressed := 1 }) := by decide
  obtain ⟨s, hs, heq⟩ := Option.map_eq_some_iff.mp hend
  obtain ⟨hphase, hcounters⟩ := Prod.mk.inj heq
  obtain ⟨⟨hcalls, -⟩, -, -, hflushed⟩ := events_accounted flushedRun s hs
  obtain ⟨hclosed, hqueue, hentered⟩ := hflushed hphase
  rw [hcounters, hqueue, hphase] at hcalls
  rw [hcounters] at hentered
  exact ⟨s, hs, hphase, hcounters, hcalls, hclosed, hqueue, hentered⟩

end Rfw.Notify.Worker
