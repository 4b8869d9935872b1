/-
# Graceful shutdown

`shutdown_all` takes every forwarder out of the manager's map, cancels them all, waits for each
accept loop, and then waits for the connection tasks.  Both waits have a grace period.

`shutdown_drains` says what is left of the TCP forwarders when `shutdown_all` returns and no grace
period ran out: nothing, for good.
-/
import Rfw.Forwarder.Accounts

namespace Rfw.Forwarder

open Lib Permits Monitor Notify

/-- Where `shutdown_all` is. -/
inductive DrainPhase
  /-- Not called yet. -/
  | up
  /-- The map is drained and the tokens are cancelled; the accept loops are awaited. -/
  | reaping
  /-- `conn_tracker` is closed, and its tasks are awaited. -/
  | draining
  /-- `shutdown_all` returned. -/
  | down
deriving DecidableEq, Repr

/-- The manager's map of TCP forwarders over their fleet. -/
structure ManagedFleet where
  fleet : Fleet
  /-- The forwarders in the map. -/
  handles : List ℕ
  /-- The forwarders whose task `stop_one` or `shutdown_all` awaits. -/
  awaiting : List ℕ
  phase : DrainPhase
  /-- A grace period ran out. -/
  abandoned : Bool

namespace ManagedFleet

/-- No forwarder was started yet. -/
def init (settings : Settings) : ManagedFleet where
  fleet := .init settings
  handles := []
  awaiting := []
  phase := .up
  abandoned := false

/-- What can happen to the managed fleet. -/
inductive Input
  /-- `start_one`. -/
  | start (cfg : ForwarderConfig) (literal : Option IpAddr) (now : ℕ)
  /-- `stop_one` takes a handle out of the map and cancels its token. -/
  | stop (i : ℕ)
  /-- An awaited accept loop has returned. -/
  | reaped (i : ℕ)
  /-- `STOP_LISTENER_GRACE` ran out. -/
  | reapGraceOver (i : ℕ)
  /-- Something happens in the fleet. -/
  | fleet (i : Fleet.Input)
  /-- `shutdown_all` drains the map and cancels every token. -/
  | shutdown
  /-- `shutdown_all` has its accept loops, and closes the tracker. -/
  | close
  /-- The tracker is closed and has no task left. -/
  | drained
  /-- `SHUTDOWN_DRAIN_GRACE` ran out. -/
  | drainGraceOver

/-- Cancel the tokens of some forwarders. -/
def cancelAll (f : Fleet) (handles : List ℕ) : Fleet :=
  { f with
    listeners := f.listeners.mapIdx fun i l =>
      if i ∈ handles then { l with bind := { l.bind with cancelled := true } } else l }

/-- The accept loop of a forwarder has returned. -/
def hasReturned (f : Fleet) (i : ℕ) : Bool :=
  match f.listeners[i]? with
  | some l => l.phase = .returned
  | none => false

/-- One step of the managed fleet. -/
def step (s : ManagedFleet) : Input → Option ManagedFleet
  | .start cfg literal now =>
      (s.fleet.step (.start cfg literal now)).map fun fleet =>
        { s with fleet, handles := s.handles ++ [s.fleet.listeners.length] }
  | .stop i =>
      if i ∈ s.handles then
        some { s with
          fleet := cancelAll s.fleet [i]
          handles := s.handles.erase i
          awaiting := i :: s.awaiting }
      else none
  | .reaped i =>
      if i ∈ s.awaiting ∧ hasReturned s.fleet i then
        some { s with awaiting := s.awaiting.filter (· ≠ i) }
      else none
  | .reapGraceOver i =>
      if i ∈ s.awaiting then
        some { s with awaiting := s.awaiting.filter (· ≠ i), abandoned := true }
      else none
  | .fleet i =>
      match i with
      | .start _ _ _ => none
      | i => (s.fleet.step i).map fun fleet => { s with fleet }
  | .shutdown =>
      if s.phase = .up then
        some { s with
          fleet := cancelAll s.fleet s.handles
          handles := []
          awaiting := s.handles ++ s.awaiting
          phase := .reaping }
      else none
  | .close =>
      if s.phase = .reaping ∧ s.awaiting = [] then some { s with phase := .draining } else none
  | .drained =>
      if s.phase = .draining ∧ ∀ c ∈ s.fleet.conns, c.stage = .ended then
        some { s with phase := .down }
      else none
  | .drainGraceOver =>
      if s.phase = .draining then some { s with phase := .down, abandoned := true } else none

/-- The config watcher is idle during the shutdown: no reload starts or stops a forwarder, and none
is still being stopped when `shutdown_all` is called. -/
def Idle (s : ManagedFleet) : Input → Prop
  | .start _ _ _ | .stop _ => s.phase = .up
  | .shutdown => s.awaiting = []
  | _ => True

instance : ∀ s i, Decidable (Idle s i)
  | s, .start _ _ _ | s, .stop _ => inferInstanceAs (Decidable (s.phase = .up))
  | s, .shutdown =>
    match h : s.awaiting with
    | [] => isTrue h
    | _ :: _ => isFalse fun hnil => by simp [Idle, h] at hnil
  | _, .reaped _ | _, .reapGraceOver _ | _, .fleet _ | _, .close | _, .drained
  | _, .drainGraceOver => inferInstanceAs (Decidable True)

/-- What holds as long as no grace period ran out. -/
structure Covered (s : ManagedFleet) : Prop where
  /-- Every forwarder is in the map, or awaited, or has returned. -/
  covered : ∀ (i : ℕ) (l : Listener), s.fleet.listeners[i]? = some l →
    i ∈ s.handles ∨ i ∈ s.awaiting ∨ l.phase = .returned
  emptied : s.phase ≠ .up → s.handles = []
  reaped : s.phase = .draining ∨ s.phase = .down → s.awaiting = []
  drained : s.phase = .down → ∀ c ∈ s.fleet.conns, c.stage = .ended

variable {s s' : ManagedFleet}

lemma covered_init (settings : Settings) : Covered (init settings) :=
  ⟨fun i l hl => by simp [init, Fleet.init] at hl, fun h => absurd rfl h,
    (by rintro (h | h) <;> cases h), nofun⟩

/-! ## What has ended stays ended -/

/-- Nothing happens to a task that has ended. -/
lemma conn_step_of_ended {cfg : ForwarderConfig} {literal : Option IpAddr}
    {stats : ForwarderStats} {c : Conn} (h : c.stage = .ended) (i : Conn.Input) :
    c.step cfg literal stats i = none := by
  cases i <;> simp [Conn.step, h]

/-- An accept loop that has returned accepts nothing any more. -/
lemma listener_move_of_returned {owner : ℕ} {knobs : KnobSnapshot} {limit limit' : Option ℕ}
    {l l' : Listener} {spawned : List Conn} (hreturned : l.phase = .returned)
    (h : l.Move owner knobs limit l' limit' spawned) : l'.phase = .returned ∧ spawned = [] := by
  cases h with
  | stopped _ _ => exact ⟨rfl, rfl⟩
  | cancelled => exact ⟨hreturned, rfl⟩
  | bound _ _ hphase _ | awaited hphase _ | admitted _ _ hphase _ _ | refused _ _ hphase _ _ _
  | retried _ hphase _ | paused _ hphase _ | woken _ _ hphase _ =>
    cases hphase.symm.trans hreturned

/-- A step of the fleet brings no accept loop back; if all have returned, and all tasks have ended,
it leaves the tasks alone. -/
lemma fleet_step_keeps {f f' : Fleet} {i : Fleet.Input} (hstep : f.step i = some f')
    (hstart : ∀ cfg literal now, i ≠ .start cfg literal now) :
    (∀ (j : ℕ) (l' : Listener), f'.listeners[j]? = some l' →
      ∃ l, f.listeners[j]? = some l ∧ (l.phase = .returned → l'.phase = .returned)) ∧
    ((∀ l ∈ f.listeners, l.phase = .returned) → (∀ c ∈ f.conns, c.stage = .ended) →
      f'.conns = f.conns) := by
  have hset {k : ℕ} {l m : Listener} (hl : f.listeners[k]? = some l)
      (hm : l.phase = .returned → m.phase = .returned) (j : ℕ) (l' : Listener)
      (hl' : (f.listeners.set k m)[j]? = some l') :
      ∃ l, f.listeners[j]? = some l ∧ (l.phase = .returned → l'.phase = .returned) := by
    rcases getElem?_set_cases hl' with ⟨-, hl'⟩ | ⟨rfl, rfl⟩
    · exact ⟨l', hl', id⟩
    · exact ⟨l, hl, hm⟩
  cases i with
  | start cfg literal now => exact absurd rfl (hstart cfg literal now)
  | reload settings =>
    obtain rfl := Option.some.inj hstep
    exact ⟨fun j l' hl' => ⟨l', hl', id⟩, fun _ _ => rfl⟩
  | listener k input =>
    obtain ⟨l, hl, hstep⟩ := Option.bind_eq_some_iff.mp hstep
    obtain ⟨⟨l₁, limit, spawned⟩, hlistener, rfl⟩ := Option.map_eq_some_iff.mp hstep
    have hmove := Listener.move_of_step hlistener
    refine ⟨hset hl fun hphase => (listener_move_of_returned hphase hmove).1, fun hall _ => ?_⟩
    have hnone := (listener_move_of_returned (hall l (List.mem_of_getElem? hl)) hmove).2
    simp [hnone]
  | conn j input =>
    obtain ⟨c, hc, hstep⟩ := Option.bind_eq_some_iff.mp hstep
    obtain ⟨l, hl, hstep⟩ := Option.bind_eq_some_iff.mp hstep
    obtain ⟨⟨c', stats, events⟩, hconn, rfl⟩ := Option.map_eq_some_iff.mp hstep
    refine ⟨hset hl id, fun _ hended => ?_⟩
    rw [conn_step_of_ended (hended c (List.mem_of_getElem? hc))] at hconn
    cases hconn
  | observe k addrs =>
    obtain ⟨l, hl, rfl⟩ := Option.map_eq_some_iff.mp hstep
    exact ⟨hset hl id, fun _ _ => rfl⟩
  | reachable k up =>
    obtain ⟨l, hl, rfl⟩ := Option.map_eq_some_iff.mp hstep
    exact ⟨hset hl id, fun _ _ => rfl⟩

lemma phase_cancelAll {f : Fleet} {handles : List ℕ} {j : ℕ} {l' : Listener}
    (h : (cancelAll f handles).listeners[j]? = some l') :
    ∃ l, f.listeners[j]? = some l ∧ l'.phase = l.phase := by
  simp only [cancelAll, List.getElem?_mapIdx, Option.map_eq_some_iff] at h
  obtain ⟨l, hl, rfl⟩ := h
  refine ⟨l, hl, ?_⟩
  split <;> rfl

/-- When `shutdown_all` has reaped its accept loops, all of them have returned. -/
lemma Covered.returned (h : Covered s) (hphase : s.phase = .draining ∨ s.phase = .down) :
    ∀ l ∈ s.fleet.listeners, l.phase = .returned := by
  intro l hl
  obtain ⟨i, hi⟩ := List.getElem?_of_mem hl
  have hemptied : s.handles = [] := h.emptied (by rcases hphase with h | h <;> rw [h] <;> decide)
  rcases h.covered i l hi with hmem | hmem | hreturned
  · rw [hemptied] at hmem
    cases hmem
  · rw [h.reaped hphase] at hmem
    cases hmem
  · exact hreturned

/-! ## One step -/

lemma covered_start (h : Covered s) (hup : s.phase = .up) (cfg : ForwarderConfig)
    (literal : Option IpAddr) (now : ℕ) :
    Covered { s with
      fleet := { s.fleet with listeners := s.fleet.listeners ++ [.init cfg literal now] }
      handles := s.handles ++ [s.fleet.listeners.length] } := by
  refine ⟨fun i l hl => ?_, fun hphase => absurd hup hphase, ?_, fun hphase => ?_⟩
  · dsimp only at hl
    rw [List.getElem?_append] at hl
    split at hl
    · rcases h.covered i l hl with hmem | hrest
      · exact .inl (List.mem_append_left _ hmem)
      · exact .inr hrest
    · rename_i hlt
      have hlast := (List.getElem?_eq_some_iff.mp hl).1
      rw [List.length_singleton] at hlast
      have hi : i = s.fleet.listeners.length := by omega
      exact .inl (List.mem_append_right _ (List.mem_singleton.mpr hi))
  · rintro (hphase | hphase) <;>
    · rw [hup] at hphase
      cases hphase
  · rw [hup] at hphase
    cases hphase

lemma covered_stop (h : Covered s) (hup : s.phase = .up) (i : ℕ) :
    Covered { s with
      fleet := cancelAll s.fleet [i]
      handles := s.handles.erase i
      awaiting := i :: s.awaiting } := by
  refine ⟨fun j l' hl' => ?_, fun hphase => absurd hup hphase, ?_, fun hphase => ?_⟩
  · obtain ⟨l, hl, hphase⟩ := phase_cancelAll hl'
    rcases h.covered j l hl with hmem | hmem | hreturned
    · by_cases hj : j = i
      · exact .inr (.inl (hj ▸ List.mem_cons_self))
      · exact .inl ((List.mem_erase_of_ne hj).mpr hmem)
    · exact .inr (.inl (List.mem_cons_of_mem i hmem))
    · exact .inr (.inr (hphase.trans hreturned))
  · rintro (hphase | hphase) <;>
    · rw [hup] at hphase
      cases hphase
  · rw [hup] at hphase
    cases hphase

lemma covered_reaped (h : Covered s) {i : ℕ} (hreturned : hasReturned s.fleet i = true) :
    Covered { s with awaiting := s.awaiting.filter (· ≠ i) } := by
  refine ⟨fun j l hl => ?_, h.emptied, fun hphase => ?_, h.drained⟩
  · rcases h.covered j l hl with hmem | hmem | hl'
    · exact .inl hmem
    · by_cases hj : j = i
      · subst hj
        rw [hasReturned, hl] at hreturned
        exact .inr (.inr (of_decide_eq_true hreturned))
      · exact .inr (.inl (List.mem_filter.mpr ⟨hmem, by simpa using hj⟩))
    · exact .inr (.inr hl')
  · rw [h.reaped hphase]
    rfl

lemma covered_fleet (h : Covered s) {i : Fleet.Input} {f : Fleet}
    (hstart : ∀ cfg literal now, i ≠ .start cfg literal now) (hstep : s.fleet.step i = some f) :
    Covered { s with fleet := f } := by
  obtain ⟨hback, hconns⟩ := fleet_step_keeps hstep hstart
  refine ⟨fun j l' hl' => ?_, h.emptied, h.reaped, fun hphase => ?_⟩
  · obtain ⟨l, hl, hreturned⟩ := hback j l' hl'
    rcases h.covered j l hl with hmem | hmem | hphase
    · exact .inl hmem
    · exact .inr (.inl hmem)
    · exact .inr (.inr (hreturned hphase))
  · have hended := h.drained hphase
    show ∀ c ∈ f.conns, c.stage = .ended
    rw [hconns (h.returned (.inr hphase)) hended]
    exact hended

lemma covered_shutdown (h : Covered s) (hidle : s.awaiting = []) :
    Covered { s with
      fleet := cancelAll s.fleet s.handles
      handles := []
      awaiting := s.handles ++ s.awaiting
      phase := .reaping } := by
  refine ⟨fun j l' hl' => ?_, fun _ => rfl, (by rintro (h | h) <;> cases h), nofun⟩
  obtain ⟨l, hl, hphase⟩ := phase_cancelAll hl'
  rcases h.covered j l hl with hmem | hmem | hreturned
  · exact .inr (.inl (List.mem_append_left _ hmem))
  · rw [hidle] at hmem
    cases hmem
  · exact .inr (.inr (hphase.trans hreturned))

/-- Every step keeps the invariant, unless a grace period runs out. -/
lemma covered_step (s : ManagedFleet) (i : Input) (s' : ManagedFleet)
    (h : s.abandoned = false → Covered s) (hidle : Idle s i) (hstep : step s i = some s') :
    s'.abandoned = false → Covered s' := by
  cases i with
  | start cfg literal now =>
    obtain rfl := Option.some.inj hstep
    exact fun hgrace => covered_start (h hgrace) hidle cfg literal now
  | stop i =>
    obtain ⟨-, heq⟩ := Option.ite_none_right_eq_some.mp hstep
    obtain rfl := Option.some.inj heq
    exact fun hgrace => covered_stop (h hgrace) hidle i
  | reaped i =>
    obtain ⟨⟨-, hreturned⟩, heq⟩ := Option.ite_none_right_eq_some.mp hstep
    obtain rfl := Option.some.inj heq
    exact fun hgrace => covered_reaped (h hgrace) hreturned
  | reapGraceOver i =>
    obtain ⟨-, heq⟩ := Option.ite_none_right_eq_some.mp hstep
    obtain rfl := Option.some.inj heq
    exact nofun
  | fleet i =>
    have hfleet {f : Fleet} (hstart : ∀ cfg literal now, i ≠ .start cfg literal now)
        (hf : s.fleet.step i = some f) (heq : { s with fleet := f } = s') :
        s'.abandoned = false → Covered s' := by
      subst heq
      exact fun hgrace => covered_fleet (h hgrace) hstart hf
    simp only [step] at hstep
    split at hstep
    · cases hstep
    · rename_i hstart
      obtain ⟨f, hf, heq⟩ := Option.map_eq_some_iff.mp hstep
      exact hfleet hstart hf heq
  | shutdown =>
    obtain ⟨-, heq⟩ := Option.ite_none_right_eq_some.mp hstep
    obtain rfl := Option.some.inj heq
    exact fun hgrace => covered_shutdown (h hgrace) hidle
  | close =>
    obtain ⟨⟨hphase, hempty⟩, heq⟩ := Option.ite_none_right_eq_some.mp hstep
    obtain rfl := Option.some.inj heq
    intro hgrace
    have hold := h hgrace
    exact ⟨hold.covered, fun _ => hold.emptied (by rw [hphase]; decide), fun _ => hempty, nofun⟩
  | drained =>
    obtain ⟨⟨hphase, hended⟩, heq⟩ := Option.ite_none_right_eq_some.mp hstep
    obtain rfl := Option.some.inj heq
    intro hgrace
    have hold := h hgrace
    exact ⟨hold.covered, fun _ => hold.emptied (by rw [hphase]; decide),
      fun _ => hold.reaped (.inl hphase), fun _ => hended⟩
  | drainGraceOver =>
    obtain ⟨-, heq⟩ := Option.ite_none_right_eq_some.mp hstep
    obtain rfl := Option.some.inj heq
    exact nofun

/-! ## Whole runs -/

lemma getElem?_cancelAll (f : Fleet) (handles : List ℕ) (j : ℕ) :
    (cancelAll f handles).listeners[j]? = (f.listeners[j]?).map fun l =>
      if j ∈ handles then { l with bind := { l.bind with cancelled := true } } else l := by
  simp only [cancelAll, List.getElem?_mapIdx]

lemma cancelAll_eq {f : Fleet} {handles : List ℕ} {listeners : List Listener}
    (h : (cancelAll f handles).listeners = listeners) :
    cancelAll f handles = { f with listeners } := by
  rw [← h]
  rfl

/-- A fleet cancels forwarders one after the other. -/
lemma exists_run_cancelAll (f : Fleet) (handles : List ℕ) :
    ∃ js, run Fleet.step f js = some (cancelAll f handles) := by
  induction handles with
  | nil =>
    have hsame : (cancelAll f []).listeners = f.listeners := by
      refine List.ext_getElem? fun j => ?_
      rw [getElem?_cancelAll]
      simp
    exact ⟨[], by rw [run_nil, cancelAll_eq hsame]⟩
  | cons i handles ih =>
    obtain ⟨js, hjs⟩ := ih
    cases hi : (cancelAll f handles).listeners[i]? with
    | none =>
      -- there is no such forwarder
      have hsame : (cancelAll f (i :: handles)).listeners = (cancelAll f handles).listeners := by
        refine List.ext_getElem? fun j => ?_
        rw [getElem?_cancelAll, Option.map_eq_none_iff] at hi
        rw [getElem?_cancelAll, getElem?_cancelAll]
        by_cases hj : j = i
        · rw [hj, hi]
          rfl
        · simp [hj]
      exact ⟨js, by rw [hjs, cancelAll_eq hsame, cancelAll_eq rfl]⟩
    | some l =>
      have hstep : (cancelAll f handles).step (.listener i .cancel) =
          some { f with
            listeners := (cancelAll f handles).listeners.set i
              { l with bind := { l.bind with cancelled := true } } } := by
        rw [Fleet.step, hi]
        simp [Listener.step, cancelAll]
      have hset : (cancelAll f (i :: handles)).listeners =
          (cancelAll f handles).listeners.set i
            { l with bind := { l.bind with cancelled := true } } := by
        refine List.ext_getElem? fun j => ?_
        have hlt : i < (cancelAll f handles).listeners.length :=
          (List.getElem?_eq_some_iff.mp hi).1
        rw [List.getElem?_set, getElem?_cancelAll]
        rw [getElem?_cancelAll] at hi
        obtain ⟨m, hm, rfl⟩ := Option.map_eq_some_iff.mp hi
        by_cases hj : i = j
        · subst hj
          rw [if_pos rfl, if_pos hlt, hm]
          by_cases hmem : i ∈ handles <;> simp [hmem]
        · rw [if_neg hj, getElem?_cancelAll]
          simp [Ne.symm hj]
      refine ⟨js ++ [.listener i .cancel], run_append.mpr ⟨_, hjs, ?_⟩⟩
      rw [run_singleton, hstep, ← cancelAll_eq hset]

/-- A managed fleet is one that a fleet reaches by itself. -/
lemma exists_fleet_run (h : run step (init settings) is = some s) :
    ∃ js, run Fleet.step (Fleet.init settings) js = some s.fleet := by
  refine exists_run_of_simulation (f := fleet) (fun s i s' hstep => ?_) h
  cases i with
  | start cfg literal now =>
    obtain rfl := Option.some.inj hstep
    exact ⟨[.start cfg literal now], rfl⟩
  | stop i =>
    obtain ⟨-, heq⟩ := Option.ite_none_right_eq_some.mp hstep
    obtain rfl := Option.some.inj heq
    exact exists_run_cancelAll s.fleet [i]
  | fleet i =>
    simp only [step] at hstep
    split at hstep
    · cases hstep
    · obtain ⟨f, hf, rfl⟩ := Option.map_eq_some_iff.mp hstep
      exact ⟨[_], by rw [run_singleton, hf]⟩
  | shutdown =>
    obtain ⟨-, heq⟩ := Option.ite_none_right_eq_some.mp hstep
    obtain rfl := Option.some.inj heq
    exact exists_run_cancelAll s.fleet s.handles
  | reaped _ | reapGraceOver _ | close | drained | drainGraceOver =>
    obtain ⟨-, heq⟩ := Option.ite_none_right_eq_some.mp hstep
    obtain rfl := Option.some.inj heq
    exact ⟨[], rfl⟩

/-- After `shutdown_all` has returned with everything reaped, no step changes a task. -/
lemma conns_step_of_down (h : Covered s) (hdown : s.phase = .down) {i : Input}
    (hidle : Idle s i) (hstep : step s i = some s') :
    s'.phase = .down ∧ s'.abandoned = s.abandoned ∧ s'.fleet.conns = s.fleet.conns := by
  cases i with
  | start cfg literal now | stop i =>
    rw [Idle, hdown] at hidle
    cases hidle
  | reaped i | reapGraceOver i =>
    obtain ⟨hguard, -⟩ := Option.ite_none_right_eq_some.mp hstep
    simp [h.reaped (.inr hdown)] at hguard
  | fleet i =>
    simp only [step] at hstep
    split at hstep
    · cases hstep
    · rename_i hstart
      obtain ⟨f, hf, rfl⟩ := Option.map_eq_some_iff.mp hstep
      exact ⟨hdown, rfl, (fleet_step_keeps hf hstart).2 (h.returned (.inr hdown))
        (h.drained hdown)⟩
  | shutdown | drainGraceOver =>
    obtain ⟨hphase, -⟩ := Option.ite_none_right_eq_some.mp hstep
    rw [hdown] at hphase
    cases hphase
  | close | drained =>
    obtain ⟨⟨hphase, -⟩, -⟩ := Option.ite_none_right_eq_some.mp hstep
    rw [hdown] at hphase
    cases hphase

/-- **A graceful shutdown leaves nothing behind.**  If no reload is under way, and `shutdown_all`
returns without a grace period having run out, then every accept loop has returned, every
connection task has ended, all permits are back and all gauges are zero; and as long as no reload
comes afterwards either, no connection is accepted any more. -/
theorem shutdown_drains {settings : Settings} {is : List Input}
    (h : run step (init settings) is = some s) (hidle : RunAll step Idle (init settings) is)
    (hdown : s.phase = .down) (hgrace : s.abandoned = false) :
    (∀ l ∈ s.fleet.listeners, l.phase = .returned ∧ l.stats.activeConnections = 0) ∧
    (∀ c ∈ s.fleet.conns, c.stage = .ended) ∧
    s.fleet.limit = Fleet.connLimit settings ∧
    ∀ js t, run step s js = some t → RunAll step Idle s js → t.fleet.conns = s.fleet.conns := by
  have hcovered : Covered s := run_invariant_of_runAll
    (I := fun s => s.abandoned = false → Covered s) covered_step (fun _ => covered_init settings)
    hidle h hgrace
  obtain ⟨js, hjs⟩ := exists_fleet_run h
  have haccounted : s.fleet.Accounted (Fleet.connLimit settings) := Fleet.accounted_of_run hjs
  have hended := hcovered.drained hdown
  obtain ⟨hlimit, hgauges⟩ := haccounted.idle hended
  refine ⟨fun l hl => ⟨hcovered.returned (.inr hdown) l hl, hgauges l hl⟩, hended, hlimit,
    fun js t hrun hjs => ?_⟩
  have hlast := run_invariant_of_runAll
    (I := fun t => (t.abandoned = false → Covered t) ∧ t.phase = .down ∧ t.abandoned = false ∧
      t.fleet.conns = s.fleet.conns)
    (fun t i t' ht hi hstep => by
      obtain ⟨hcov, hphase, hkept, hconns⟩ := ht
      obtain ⟨hphase', hkept', hconns'⟩ := conns_step_of_down (hcov hkept) hphase hi hstep
      exact ⟨covered_step t i t' hcov hi hstep, hphase', hkept'.trans hkept,
        hconns'.trans hconns⟩)
    ⟨fun _ => hcovered, hdown, hgrace, rfl⟩ hjs hrun
  exact hlast.2.2.2

/-- A shutdown with one open connection. -/
def oneShutdown : List Input :=
  [.start ⟨"127.0.0.1".toList, 8080, "10.0.0.1".toList, 80, .tcp⟩ (some (.v4 0x0A000001)) 0,
    .fleet (.listener 0 (.bind .poll)), .fleet (.listener 0 (.bind .succeed)),
    .fleet (.listener 0 .poll), .fleet (.listener 0 (.accept 5 5)), .shutdown,
    .fleet (.listener 0 .poll), .reaped 0, .close, .fleet (.conn 0 .start),
    .fleet (.conn 0 .panic), .fleet (.conn 0 .dropPermit), .fleet (.conn 0 .dropGuard), .drained]

theorem shutdown_drains_oneShutdown : ∃ s,
    run step (init { Settings.default with maxConnections := some 1 }) oneShutdown = some s ∧
    s.phase = .down ∧ s.fleet.conns.length = 1 ∧ s.fleet.limit = some 1 :=
  ⟨_, rfl, rfl, rfl, (@shutdown_drains _
    { Settings.default with maxConnections := some 1 } oneShutdown rfl (by decide) rfl
    rfl).2.2.1⟩

end ManagedFleet

end Rfw.Forwarder
