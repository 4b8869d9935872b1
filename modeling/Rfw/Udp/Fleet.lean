/-
# The forwarders that share a session limit

All UDP forwarders of the process draw their sessions from one semaphore.  A fleet is the list of
the forwarders started so far with the permits that are left, and a step of the fleet is the start
of a forwarder or a step of one of them.  `sessions_accounted` collects what holds of every
reachable fleet: the tables, the gauges, the reply tasks and the permits agree.
-/
import Rfw.Lib.Transition
import Rfw.Udp.Ownership

namespace Rfw.Udp

open Lib

/-- The forwarders that were started, and the permits left. -/
structure Fleet where
  forwarders : List Engine
  available : ℕ

namespace Fleet

/-- What can happen to a fleet. -/
inductive Action
  /-- A forwarder is bound. -/
  | start (cfg : ForwarderConfig) (knobs : RuntimeKnobs) (literal : Option IpAddr)
  /-- A forwarder takes a step. -/
  | act (i : ℕ) (a : Udp.Action)

/-- A process that has not started a forwarder. -/
def init (capacity : ℕ) : Fleet := ⟨[], capacity⟩

/-- One step of a fleet.  The permits left are shared. -/
def step (f : Fleet) : Action → Option Fleet
  | .start cfg knobs literal =>
      some { f with forwarders := f.forwarders ++ [Engine.start cfg knobs literal f.available] }
  | .act i a =>
      match f.forwarders[i]? with
      | none => none
      | some e =>
          match Udp.step { e with udpLimit := f.available } a with
          | none => none
          | some e' => some ⟨f.forwarders.set i e', e'.udpLimit⟩

/-- The sum of the gauges. -/
def active (f : Fleet) : ℕ := (f.forwarders.map fun e => e.stats.activeConnections).sum

/-- The invariant of a fleet of some capacity. -/
structure Sound (capacity : ℕ) (f : Fleet) : Prop where
  owned : ∀ e ∈ f.forwarders, Owned none e
  permits : f.active + f.available = capacity

end Fleet

/-- The permits left are not the forwarder's own. -/
lemma Owned.withLimit {x : Option ℕ} {e : Engine} (h : Owned x e) (udpLimit : ℕ) :
    Owned x { e with udpLimit } :=
  ⟨h.keyed, h.strong, h.unused, h.extra_lt, h.active, h.alive⟩

lemma sum_map_set {α : Type*} (g : α → ℕ) {l : List α} {i : ℕ} {a : α} (b : α)
    (h : l[i]? = some a) : ((l.set i b).map g).sum + g a = (l.map g).sum + g b := by
  induction l generalizing i with
  | nil => simp at h
  | cons c l ih =>
    cases i with
    | zero =>
      obtain rfl : c = a := by simpa using h
      simp only [List.set_cons_zero, List.map_cons, List.sum_cons]
      omega
    | succ i =>
      have hrest := ih (i := i) (by simpa using h)
      simp only [List.set_cons_succ, List.map_cons, List.sum_cons]
      omega

/-- Every step of a fleet keeps its invariant. -/
lemma sound_step (capacity : ℕ) (f : Fleet) (a : Fleet.Action) (f' : Fleet)
    (h : f.Sound capacity) (hstep : f.step a = some f') : f'.Sound capacity := by
  cases a with
  | start cfg knobs literal =>
    obtain rfl := Option.some.inj hstep
    refine ⟨?_, ?_⟩
    · simp only [List.forall_mem_append, List.forall_mem_singleton]
      exact ⟨h.owned, owned_start cfg knobs literal f.available⟩
    · simpa [Fleet.active, Engine.start, ForwarderStats.withProtocol] using h.permits
  | act i a =>
    simp only [Fleet.step] at hstep
    split at hstep
    · cases hstep
    rename_i e hget
    split at hstep
    · cases hstep
    rename_i e' he'
    obtain rfl := Option.some.inj hstep
    have howned := (h.owned e (List.mem_of_getElem? hget)).withLimit f.available
    obtain ⟨howned', hsum⟩ := keeps_step he' howned
    refine ⟨?_, ?_⟩
    · intro e₁ he₁
      rcases List.mem_or_eq_of_mem_set he₁ with he₁ | rfl
      · exact h.owned e₁ he₁
      · exact howned'
    · -- what the forwarder gives back or takes is what its gauge moves by
      have hpermits := h.permits
      have hset := sum_map_set (fun e => e.stats.activeConnections) e' hget
      simp only [Fleet.active] at hpermits ⊢
      simp only at hsum
      omega

/-- What holds of a forwarder whose sessions are owned. -/
structure Accounted (e : Engine) : Prop where
  /-- One session per client, stored under its own client. -/
  table : e.sessions.keys.Nodup ∧
    ∀ c entry, e.sessions.get? c = some entry → (e.heap entry.shared).client = c
  /-- The gauge counts the sessions held by the table or by their task. -/
  gauge : e.stats.activeConnections = e.held.card
  /-- A session that is neither dead nor cancelled has its reply task. -/
  served : ∀ c entry, e.sessions.get? c = some entry → (e.heap entry.shared).dead = false →
    e.tokenCancelled entry.shared = false → e.taskRuns entry.shared = true
  /-- When the table is drained and the tasks have ended, nothing holds a permit. -/
  drained : e.sessions.keys = [] → (∀ sid, e.taskRuns sid = false) →
    e.stats.activeConnections = 0 ∧ ∀ sid, (e.heap sid).strong = 0

lemma Owned.accounted {e : Engine} (h : Owned none e) : Accounted e where
  table := ⟨e.sessions.nodup, fun c entry hget => (h.keyed c entry hget).1⟩
  gauge := by rw [h.active, h.owned_eq_held]
  served := by
    intro c entry hget hdead htoken
    simpa [Engine.taskRuns] using h.alive c entry hget hdead htoken
  drained := by
    intro hempty hended
    have hstrong : ∀ sid, (e.heap sid).strong = 0 := by
      intro sid
      -- neither of its two owners is left
      have htabled : e.tabled sid = false := by
        have hnone : ∀ c, e.sessions.get? c = none := fun c => by
          rw [Table.get?_eq_none_iff, hempty]
          simp
        simp [Engine.tabled, hnone]
      simp [h.strong sid, htabled, hended sid]
    refine ⟨?_, hstrong⟩
    rw [h.active, Engine.owned, Finset.card_eq_zero, Finset.filter_eq_empty_iff]
    intro sid _
    simp [hstrong sid]

/-- **Session and slot accounting.**  In every reachable fleet the sessions of each forwarder are
accounted for, and the gauges together with the permits left make up the capacity. -/
theorem sessions_accounted (capacity : ℕ) (acts : List Fleet.Action) (f : Fleet)
    (h : Lib.run Fleet.step (Fleet.init capacity) acts = some f) :
    (∀ e ∈ f.forwarders, Accounted e) ∧ f.active + f.available = capacity := by
  have hsound : f.Sound capacity := Lib.run_invariant (sound_step capacity)
    ⟨by simp [Fleet.init], by simp [Fleet.init, Fleet.active]⟩ h
  exact ⟨fun e he => (hsound.owned e he).accounted, hsound.permits⟩

/-- A forwarder to a literal address whose only client falls idle, is swept, and comes back before
the old reply task has seen its token. -/
def comeback : List Fleet.Action :=
  let cfg : ForwarderConfig := ⟨[], 9000, [], 53, .udp⟩
  let datagram : Except IoError Recv := .ok ⟨[7], 0, some (.v4 1 4000), false⟩
  [.start cfg (.fromSettings .default) (some (.v4 2)),
    .act 0 (.readable .willing 10 [datagram]),
    .act 0 (.tick .willing 1000000),
    .act 0 (.readable .willing 1000010 [datagram])]

theorem sessions_accounted_comeback :
    ∃ f, Lib.run Fleet.step (Fleet.init 2) comeback = some f ∧ (f.active, f.available) = (2, 0) ∧
      (∀ e ∈ f.forwarders, Accounted e) ∧ f.active + f.available = 2 := by
  have hrun : (Lib.run Fleet.step (Fleet.init 2) comeback).map
      (fun f => (f.active, f.available)) = some (2, 0) := by decide +kernel
  obtain ⟨f, hf, hcounts⟩ := Option.map_eq_some_iff.mp hrun
  exact ⟨f, hf, hcounts, sessions_accounted 2 comeback f hf⟩

end Rfw.Udp
