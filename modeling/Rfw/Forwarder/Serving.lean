/-
# A forwarder keeps serving

Nothing but its token ends a forwarder: a failed bind, an error of `accept` or a refused connection
only delays it.  `keeps_serving` says this of every forwarder in every reachable fleet, in two
parts.  A forwarder that has returned was cancelled.  One that was not cancelled takes the next
client that comes when its longest pause is over, if its port binds by then.
-/
import Rfw.Forwarder.Alerts

namespace Rfw.Forwarder

open Lib Monitor Notify

namespace Listener

/-- The inputs that take a forwarder to its next `accept`, if its port binds: a pause ends at `now`,
and the loop finds its token not cancelled. -/
def resume (l : Listener) (now : ℕ) : List Input :=
  match l.phase, l.bind.phase with
  | .binding, .select => [.bind .poll, .bind .succeed, .poll]
  | .binding, .binding => [.bind .succeed, .poll]
  | .binding, .retrying _ => [.bind (.wake now), .bind .poll, .bind .succeed, .poll]
  | .select, _ => [.poll]
  | .backoff _, _ => [.wake now, .poll]
  | _, _ => []

/-- A step of an accept loop that takes no socket. -/
def quietStep (owner : ℕ) (knobs : KnobSnapshot) (limit : Option ℕ) (l : Listener) (i : Input) :
    Option Listener :=
  match l.step owner knobs limit i with
  | some (l', limit', []) => if limit' = limit then some l' else none
  | _ => none

/-- The pauses of the loops, and how the loops end. -/
structure Paused (l : Listener) : Prop where
  returned : l.phase = .returned → l.bind.cancelled = true
  /-- The forwarder returns with its bind loop. -/
  binding : l.phase = .binding → l.bind.phase ≠ .returned
  retrying : ∀ wake, l.bind.phase = .retrying wake → wake = l.bind.clock + bindRetryDelay
  backoff : ∀ wake, l.phase = .backoff wake → wake = l.clock + acceptBackoff

variable {l l' : Listener}

lemma paused_init (cfg : ForwarderConfig) (literal : Option IpAddr) (now : ℕ) :
    Paused (init cfg literal now) :=
  ⟨nofun, fun _ => nofun, nofun, nofun⟩

/-- Only a cancelled bind loop returns, and its pause is the retry delay. -/
lemma paused_bind {b b' : Bind} {i : Bind.Input} (hmove : b.Move i b')
    (hretrying : ∀ wake, b.phase = .retrying wake → wake = b.clock + bindRetryDelay) :
    (b'.phase = .returned → b'.cancelled = true) ∧
      ∀ wake, b'.phase = .retrying wake → wake = b'.clock + bindRetryDelay := by
  cases hmove with
  | tried _ _ | succeeded _ | woken _ _ _ _ => exact ⟨nofun, nofun⟩
  | stopped _ hcancelled => exact ⟨fun _ => hcancelled, nofun⟩
  | failed error now _ _ =>
    refine ⟨nofun, fun wake hwake => ?_⟩
    exact (BindPhase.retrying.inj hwake).symm
  | cancelled => exact ⟨fun _ => rfl, hretrying⟩

lemma paused_bound (h : Paused l) (hphase : l.phase = .binding) {i : Bind.Input} {b : Bind}
    (hmove : l.bind.Move i b) : Paused (l.bound b) := by
  obtain ⟨hreturned, hretrying⟩ := paused_bind hmove h.retrying
  unfold bound
  split
  · exact ⟨nofun, nofun, hretrying, nofun⟩
  · rename_i hb
    exact ⟨fun _ => hreturned hb, nofun, hretrying, nofun⟩
  · rename_i _ hb
    refine ⟨fun hl => ?_, fun _ => hb, hretrying, fun wake hl => ?_⟩
    · rw [hphase] at hl
      cases hl
    · rw [hphase] at hl
      cases hl

/-- The loop goes on, without a pause. -/
lemma Paused.goOn (h : Paused l) (hphase : l'.phase = .select ∨ l'.phase = .accepting)
    (hbind : l'.bind = l.bind) : Paused l' where
  returned hl := by
    rcases hphase with hgo | hgo
    · cases hgo.symm.trans hl
    · cases hgo.symm.trans hl
  binding hl := by
    rcases hphase with hgo | hgo
    · cases hgo.symm.trans hl
    · cases hgo.symm.trans hl
  retrying := hbind ▸ h.retrying
  backoff wake hl := by
    rcases hphase with hgo | hgo
    · cases hgo.symm.trans hl
    · cases hgo.symm.trans hl

lemma paused_move {owner : ℕ} {knobs : KnobSnapshot} {limit limit' : Option ℕ}
    {spawned : List Conn} (h : Paused l) (hmove : l.Move owner knobs limit l' limit' spawned) :
    Paused l' := by
  cases hmove with
  | bound i b hphase hmove => exact paused_bound h hphase hmove
  | stopped _ hcancelled =>
    exact ⟨fun _ => hcancelled, (fun hl => by cases hl), h.retrying, fun _ hl => by cases hl⟩
  | awaited _ _ => exact h.goOn (.inr rfl) rfl
  | admitted _ _ _ _ _ | refused _ _ _ _ _ _ | retried _ _ _ | woken _ _ _ _ =>
    exact h.goOn (.inl rfl) rfl
  | paused now _ _ =>
    refine ⟨fun hl => ?_, fun hl => ?_, h.retrying, fun wake hwake => ?_⟩
    · cases hl
    · cases hl
    · exact (AcceptPhase.backoff.inj hwake).symm
  | cancelled => exact ⟨fun _ => rfl, h.binding, h.retrying, h.backoff⟩

/-- A live forwarder gets to its next `accept`. -/
lemma exists_accepting (h : Paused l) (hopened : Opened l) (hlive : l.bind.cancelled = false)
    (owner : ℕ) (knobs : KnobSnapshot) (limit : Option ℕ) {now : ℕ}
    (hnow : l.clock + acceptBackoff ≤ now) (hbind : l.bind.clock + bindRetryDelay ≤ now) :
    ∃ l', run (quietStep owner knobs limit) l (l.resume now) = some l' ∧ l'.phase = .accepting ∧
      l'.clock ≤ now ∧ l'.accepted = l.accepted ∧ l'.stats = l.stats := by
  have hclock : l.clock ≤ now := (Nat.le_add_right _ _).trans hnow
  cases hphase : l.phase with
  | binding =>
    cases hb : l.bind.phase with
    | select =>
      simp [resume, hphase, hb, run_cons, quietStep, step, Bind.step, Bind.poll, Bind.succeed,
        bound, poll, hlive, hclock]
    | binding =>
      simp [resume, hphase, hb, run_cons, quietStep, step, Bind.step, Bind.succeed, bound, poll,
        hlive, hclock]
    | retrying wake =>
      have hwake : wake ≤ now := by rwa [h.retrying wake hb]
      simp [resume, hphase, hb, run_cons, quietStep, step, Bind.step, Bind.poll, Bind.succeed,
        bound, poll, hlive, hclock, hwake]
    | bound => exact absurd hb (hopened.binding hphase)
    | returned => exact absurd hb (h.binding hphase)
  | select => simp [resume, hphase, run_cons, quietStep, step, poll, hlive, hclock]
  | accepting => exact ⟨l, by simp [resume, hphase], hphase, hclock, rfl, rfl⟩
  | backoff wake =>
    have hwake : wake ≤ now := by rwa [h.backoff wake hphase]
    simp [resume, hphase, run_cons, quietStep, step, poll, hlive, hwake]
  | returned =>
    rw [h.returned hphase] at hlive
    cases hlive

end Listener

namespace Fleet

/-- Steps of one accept loop that take no socket change nothing else. -/
lemma run_of_quiet {f : Fleet} {j : ℕ} {l l' : Listener} {is : List Listener.Input}
    (hl : f.listeners[j]? = some l)
    (h : run (Listener.quietStep j f.knobs.snapshot f.limit) l is = some l') :
    run step f (is.map (.listener j)) = some { f with listeners := f.listeners.set j l' } := by
  induction is generalizing f l with
  | nil =>
    obtain rfl := Option.some.inj h
    obtain ⟨hj, rfl⟩ := List.getElem?_eq_some_iff.mp hl
    rw [List.set_getElem_self]
    rfl
  | cons i is ih =>
    obtain ⟨l₁, hl₁, hrest⟩ := run_cons_eq_some.mp h
    simp only [Listener.quietStep] at hl₁
    split at hl₁
    case h_2 => cases hl₁
    rename_i l₂ limit hstep
    obtain ⟨rfl, heq⟩ := Option.ite_none_right_eq_some.mp hl₁
    obtain rfl := Option.some.inj heq
    have hj : j < f.listeners.length := (List.getElem?_eq_some_iff.mp hl).1
    refine run_cons_eq_some.mpr ⟨{ f with listeners := f.listeners.set j l₂ }, ?_, ?_⟩
    · simp [step, hl, hstep]
    · have hrun := ih (f := { f with listeners := f.listeners.set j l₂ })
        (List.getElem?_set_self hj) hrest
      rw [hrun, List.set_set]

/-- A client is admitted if a permit is left, and refused otherwise. -/
lemma step_accept {f : Fleet} {j : ℕ} {l : Listener} (hl : f.listeners[j]? = some l)
    (hphase : l.phase = .accepting) {now : ℕ} (hclock : l.clock ≤ now) :
    ∃ f' l', step f (.listener j (.accept now now)) = some f' ∧
      f'.listeners = f.listeners.set j l' ∧ l'.phase = .select ∧ l'.accepted = l.accepted + 1 ∧
      if f.limit = some 0 then
        f'.conns = f.conns ∧ l'.stats.rejectedConnections = l.stats.rejectedConnections + 1
      else
        f'.conns = f.conns ++ [⟨j, f.limit.isSome, f.knobs.snapshot, .spawned⟩] ∧
          l'.stats = l.stats := by
  have hstep : step f (.listener j (.accept now now)) =
      (l.step j f.knobs.snapshot f.limit (.accept now now)).map fun r =>
        { f with
          limit := r.2.1, listeners := f.listeners.set j r.1, conns := f.conns ++ r.2.2 } := by
    rw [step, hl, Option.bind_some]
  cases hlimit : f.limit with
  | none =>
    rw [hstep, Listener.step, if_pos ⟨hphase, hclock, le_refl now⟩, hlimit]
    exact ⟨_, _, rfl, rfl, rfl, rfl, rfl, rfl⟩
  | some n =>
    rw [hstep, Listener.step, if_pos ⟨hphase, hclock, le_refl now⟩, hlimit]
    cases n with
    | zero => exact ⟨_, _, rfl, rfl, rfl, rfl, List.append_nil _, rfl⟩
    | succ n => exact ⟨_, _, rfl, rfl, rfl, rfl, rfl, rfl⟩

lemma paused_of_run {settings : Settings} {is : List Input} {f : Fleet}
    (h : run step (init settings) is = some f) : ∀ l ∈ f.listeners, l.Paused :=
  forall_listeners_of_run Listener.paused_init Listener.paused_move
    (fun h _ => ⟨h.returned, h.binding, h.retrying, h.backoff⟩) h

/-- **Only its token ends a forwarder.**  In every reachable fleet, a forwarder that has returned
was cancelled; and one that was not cancelled, whatever failed before, takes the first client that
comes when `BIND_RETRY_DELAY` has passed since its last attempt to bind and the pause after an
accept error has passed since its last `accept`, if its port binds then.  The client gets a task if
a permit is left, and is refused otherwise. -/
theorem keeps_serving {settings : Settings} {is : List Input} {f : Fleet}
    (h : run step (init settings) is = some f) {j : ℕ} {l : Listener}
    (hl : f.listeners[j]? = some l) :
    (l.phase = .returned → l.bind.cancelled = true) ∧
    (l.bind.cancelled = false → ∀ now, l.clock + acceptBackoff ≤ now →
      l.bind.clock + bindRetryDelay ≤ now →
      ∃ f' l',
        run step f ((l.resume now).map (.listener j) ++ [.listener j (.accept now now)]) = some f' ∧
        f'.listeners = f.listeners.set j l' ∧ l'.phase = .select ∧
        l'.accepted = l.accepted + 1 ∧
        if f.limit = some 0 then
          f'.conns = f.conns ∧ l'.stats.rejectedConnections = l.stats.rejectedConnections + 1
        else
          f'.conns = f.conns ++ [⟨j, f.limit.isSome, f.knobs.snapshot, .spawned⟩] ∧
            l'.stats = l.stats) := by
  have hmem : l ∈ f.listeners := List.mem_of_getElem? hl
  have hpaused : l.Paused := paused_of_run h l hmem
  refine ⟨hpaused.returned, fun hlive now hnow hbind => ?_⟩
  obtain ⟨l₁, hrun, hphase, hclock, haccepted, hstats⟩ :=
    Listener.exists_accepting hpaused (opened_of_run h l hmem) hlive j f.knobs.snapshot f.limit hnow
      hbind
  have hj : j < f.listeners.length := (List.getElem?_eq_some_iff.mp hl).1
  obtain ⟨f', l', hstep, hlisteners, hselect, hcount, htaken⟩ :=
    step_accept (f := { f with listeners := f.listeners.set j l₁ }) (List.getElem?_set_self hj)
      hphase hclock
  refine ⟨f', l', ?_, ?_, hselect, by rw [hcount, haccepted], ?_⟩
  · rw [run_append]
    exact ⟨_, run_of_quiet hl hrun, (run_singleton _ _).trans hstep⟩
  · rw [hlisteners, List.set_set]
  · rwa [hstats] at htaken

/-- A forwarder that bound at its second attempt, ran out of descriptors and still serves. -/
def outOfDescriptors : List Input :=
  portTaken ++ [.listener 0 .poll, .listener 0 (.acceptError .other 6000000000)]

theorem keeps_serving_outOfDescriptors : ∃ f l f' l',
    run step (init Settings.default) outOfDescriptors = some f ∧ f.listeners[0]? = some l ∧
      l.phase = .backoff 7000000000 ∧
      run step f ((l.resume 10000000003).map (.listener 0) ++
        [.listener 0 (.accept 10000000003 10000000003)]) = some f' ∧
      f'.listeners = f.listeners.set 0 l' ∧ f'.conns.length = 1 := by
  obtain ⟨f', l', hrun, hlisteners, -, -, htaken⟩ :=
    (@keeps_serving Settings.default outOfDescriptors _ rfl 0 _ rfl).2 rfl 10000000003 (by decide)
      (by decide)
  refine ⟨_, _, f', l', rfl, rfl, rfl, hrun, hlisteners, ?_⟩
  rw [if_neg (by decide)] at htaken
  rw [htaken.1]
  rfl

end Fleet

end Rfw.Forwarder
