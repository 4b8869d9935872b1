/-
# Connections and permits are accounted for

Every socket that an accept loop takes is refused or becomes a task; a task holds its permit until
`proxy_connection` is over and counts in the gauge of its forwarder until its guard is dropped.
`connections_accounted` states this for every run of a fleet: any number of forwarders, connections,
reloads and cancellations, in any order.
-/
import Rfw.Forwarder.Accept
import Rfw.Lib.Permits

namespace Rfw.Forwarder

open Lib Permits Monitor Notify

/-! ## One connection task -/

/-- What a step of a task changes. -/
structure Conn.Kept (c : Conn) (stats : ForwarderStats) (c' : Conn) (stats' : ForwarderStats) :
    Prop where
  owner : c'.owner = c.owner
  permit : c'.permit = c.permit
  knobs : c'.knobs = c.knobs
  rejected : stats'.rejectedConnections = stats.rejectedConnections
  /-- The gauge moves with the guard. -/
  gauge : (c.guarded = true → 0 < stats.activeConnections) →
    stats'.activeConnections + c.guarded.toNat = stats.activeConnections + c'.guarded.toNat
  /-- A task does not get a permit back. -/
  holds : c.holds = false → c'.holds = false

/-- The guard was made, and the permit is still held. -/
def Stage.working : Stage → Bool
  | .resolving | .connecting _ | .copying _ | .finished => true
  | .spawned | .released | .ended => false

lemma Conn.guarded_of_working {c : Conn} (h : c.stage.working = true) : c.guarded = true := by
  unfold Conn.guarded
  cases hstage : c.stage <;> rw [hstage] at h <;> first | rfl | cases h

lemma Conn.holds_of_working {c : Conn} (h : c.stage.working = true) : c.holds = c.permit := by
  unfold Conn.holds
  cases hstage : c.stage <;> rw [hstage] at h <;> first | exact Bool.and_true _ | cases h

/-- A step inside `proxy_connection`. -/
lemma Conn.kept_of_working {c : Conn} {stats stats' : ForwarderStats} (h : c.stage.working = true)
    {stage : Stage} (hstage : stage.working = true)
    (hactive : stats'.activeConnections = stats.activeConnections)
    (hrejected : stats'.rejectedConnections = stats.rejectedConnections) :
    c.Kept stats { c with stage } stats' where
  owner := rfl
  permit := rfl
  knobs := rfl
  rejected := hrejected
  gauge _ := by
    rw [hactive, guarded_of_working h, guarded_of_working (c := { c with stage }) hstage]
  holds hc := by
    rw [holds_of_working h] at hc
    exact (holds_of_working (c := { c with stage }) hstage).trans hc

lemma observeAddrs_gauges (s : ForwarderStats) (addrs : List IpAddr) :
    (s.observeAddrs addrs).2.activeConnections = s.activeConnections ∧
      (s.observeAddrs addrs).2.rejectedConnections = s.rejectedConnections := by
  unfold ForwarderStats.observeAddrs
  dsimp only
  split
  · split <;> exact ⟨rfl, rfl⟩
  · exact ⟨rfl, rfl⟩

/-- The one spec lemma of a task. -/
lemma Conn.kept_of_step {cfg : ForwarderConfig} {literal : Option IpAddr}
    {stats stats' : ForwarderStats} {c c' : Conn} {i : Conn.Input} {events : List Event}
    (h : c.step cfg literal stats i = some (c', stats', events)) : c.Kept stats c' stats' := by
  cases i with
  | start =>
    obtain ⟨hstage, heq⟩ := Option.ite_none_right_eq_some.mp h
    cases heq
    refine ⟨rfl, rfl, rfl, rfl, fun _ => ?_, fun hholds => ?_⟩
    · simp [Conn.guarded, hstage, ForwarderStats.incConnections]
    · simpa [Conn.holds, hstage] using hholds
  | resolved lookup =>
    obtain ⟨hstage, heq⟩ := Option.ite_none_right_eq_some.mp h
    have hworking : c.stage.working = true := by rw [hstage]; rfl
    split at heq
    · cases heq
      exact kept_of_working hworking rfl rfl rfl
    · rename_i targets _
      split at heq
      · cases heq
        exact kept_of_working hworking rfl rfl rfl
      · obtain ⟨hactive, hrejected⟩ := observeAddrs_gauges stats (targets.map SocketAddr.ip)
        dsimp only at heq
        split at heq <;>
        · rename_i hobserved
          rw [hobserved] at hactive hrejected
          cases heq
          exact kept_of_working hworking rfl hactive hrejected
  | raced completions now =>
    simp only [Conn.step] at h
    split at h
    · rename_i targets hstage
      have hworking : c.stage.working = true := by rw [hstage]; rfl
      split at h <;>
      · cases h
        exact kept_of_working hworking rfl rfl rfl
    · cases h
  | moved sent received =>
    simp only [Conn.step] at h
    split at h
    · cases h
      exact ⟨rfl, rfl, rfl, rfl, fun _ => rfl, id⟩
    · cases h
  | closed =>
    simp only [Conn.step] at h
    split at h
    · rename_i remote hstage
      cases h
      exact kept_of_working (by rw [hstage]; rfl) rfl rfl rfl
    · cases h
  | panic =>
    simp only [Conn.step] at h
    split at h
    case h_4 => cases h
    all_goals
      rename_i hstage
      cases h
      exact kept_of_working (by rw [hstage]; rfl) rfl rfl rfl
  | dropPermit =>
    obtain ⟨hstage, heq⟩ := Option.ite_none_right_eq_some.mp h
    cases heq
    refine ⟨rfl, rfl, rfl, rfl, fun _ => ?_, fun _ => ?_⟩
    · simp [Conn.guarded, hstage]
    · simp [Conn.holds]
  | dropGuard =>
    obtain ⟨hstage, heq⟩ := Option.ite_none_right_eq_some.mp h
    cases heq
    refine ⟨rfl, rfl, rfl, rfl, fun hpos => ?_, fun _ => ?_⟩
    · have hguarded : c.guarded = true := by simp [Conn.guarded, hstage]
      have hactive := hpos hguarded
      show stats.activeConnections - 1 + c.guarded.toNat = stats.activeConnections + 0
      rw [hguarded, Bool.toNat_true]
      omega
    · simp [Conn.holds]

/-! ## One accept loop -/

/-- What a step of an accept loop does with sockets and permits. -/
inductive Listener.Took (owner : ℕ) (limit : Option ℕ) (l : Listener) :
    Listener → Option ℕ → List Conn → Prop
  /-- No socket is accepted. -/
  | nothing (l' : Listener) (hstats : l'.stats = l.stats) (hrefusals : l'.refusals = l.refusals)
      (haccepted : l'.accepted = l.accepted) : Took owner limit l l' limit []
  /-- A socket is accepted, and there is a permit for it or no limit. -/
  | admitted (l' : Listener) (limit' : Option ℕ) (c : Conn) (hlimit : limit = limit'.map (· + 1))
      (howner : c.owner = owner) (hpermit : c.permit = limit.isSome) (hstage : c.stage = .spawned)
      (hstats : l'.stats = l.stats) (hrefusals : l'.refusals = l.refusals)
      (haccepted : l'.accepted = l.accepted + 1) : Took owner limit l l' limit' [c]
  /-- A socket is accepted and refused. -/
  | refused (checked stamped : ℕ) (hlimit : limit = some 0) :
      Took owner limit l (l.refuse (l.stats.addRejected 1) checked stamped) limit []

lemma Listener.Move.took {owner : ℕ} {knobs : KnobSnapshot} {limit limit' : Option ℕ}
    {l l' : Listener} {spawned : List Conn} (h : l.Move owner knobs limit l' limit' spawned) :
    Took owner limit l l' limit' spawned := by
  cases h with
  | bound i b _ _ =>
    have hbound : (l.bound b).stats = l.stats ∧ (l.bound b).refusals = l.refusals ∧
        (l.bound b).accepted = l.accepted := by
      unfold Listener.bound
      split <;> exact ⟨rfl, rfl, rfl⟩
    exact .nothing _ hbound.1 hbound.2.1 hbound.2.2
  | admitted _ _ _ _ hlimit => exact .admitted _ _ _ hlimit rfl rfl rfl rfl rfl rfl
  | refused checked stamped _ _ _ hlimit => exact .refused checked stamped hlimit
  | awaited _ _ | stopped _ _ | retried _ _ _ | paused _ _ _ | woken _ _ _ _ | cancelled =>
    exact .nothing _ rfl rfl rfl

/-! ## The invariant -/

namespace Fleet

/-- The number of tasks of a forwarder with some property. -/
def tasks (f : Fleet) (i : ℕ) (p : Conn → Bool) : ℕ :=
  f.conns.countP fun c => c.owner = i && p c

/-- What holds of every reachable fleet. -/
structure Accounted (capacity : Option ℕ) (f : Fleet) : Prop where
  /-- Every permit is left or held by one task; without a limit there are no permits. -/
  permits : match capacity with
    | none => f.limit = none ∧ ∀ c ∈ f.conns, c.permit = false
    | some n => ∃ available, f.limit = some available ∧
        Conserved n Conn.holds available f.conns ∧ ∀ c ∈ f.conns, c.permit = true
  /-- Every task belongs to a forwarder that was started. -/
  owned : ∀ c ∈ f.conns, c.owner < f.listeners.length
  /-- The gauge of a forwarder counts its tasks whose guard is alive. -/
  gauge : ∀ (i : ℕ) (l : Listener), f.listeners[i]? = some l →
    l.stats.activeConnections = f.tasks i Conn.guarded
  /-- The counter of refused connections counts them. -/
  rejected : ∀ (i : ℕ) (l : Listener), f.listeners[i]? = some l →
    l.stats.rejectedConnections = l.refusals.length
  /-- Every accepted socket was refused or became a task. -/
  accepted : ∀ (i : ℕ) (l : Listener), f.listeners[i]? = some l →
    l.accepted = l.refusals.length + f.tasks i fun _ => true

variable {f f' : Fleet} {capacity : Option ℕ}

lemma accounted_init (settings : Settings) : Accounted (connLimit settings) (init settings) := by
  refine ⟨?_, List.forall_mem_nil _, fun i l hl => ?_, fun i l hl => ?_, fun i l hl => ?_⟩
  · cases hlimit : connLimit settings with
    | none => exact ⟨hlimit, List.forall_mem_nil _⟩
    | some n => exact ⟨n, hlimit, conserved_nil n _, List.forall_mem_nil _⟩
  all_goals simp [init] at hl

/-- A task of a forwarder that is not started yet does not exist. -/
lemma Accounted.tasks_eq_zero (h : Accounted capacity f) {i : ℕ} (hi : f.listeners.length ≤ i)
    (p : Conn → Bool) : f.tasks i p = 0 := by
  refine List.countP_eq_zero.mpr fun c hc => ?_
  have := h.owned c hc
  simp only [Bool.and_eq_true, decide_eq_true_eq, not_and]
  omega

/-- A forwarder is started. -/
lemma Accounted.start (h : Accounted capacity f) (cfg : ForwarderConfig) (literal : Option IpAddr)
    (now : ℕ) :
    Accounted capacity { f with listeners := f.listeners ++ [.init cfg literal now] } := by
  have hget {j : ℕ} {m : Listener}
      (hm : (f.listeners ++ [Listener.init cfg literal now])[j]? = some m) :
      f.listeners[j]? = some m ∨ f.listeners.length ≤ j ∧ m = .init cfg literal now := by
    rw [List.getElem?_append] at hm
    split at hm
    · exact .inl hm
    · exact .inr ⟨by omega, (List.mem_singleton.mp (List.mem_of_getElem? hm))⟩
  refine ⟨h.permits, fun c hc => ?_, fun j m hm => ?_, fun j m hm => ?_, fun j m hm => ?_⟩
  · rw [List.length_append]
    exact Nat.lt_add_right _ (h.owned c hc)
  · rcases hget hm with hm | ⟨hj, rfl⟩
    · exact h.gauge j m hm
    · exact (h.tasks_eq_zero hj _).symm
  · rcases hget hm with hm | ⟨hj, rfl⟩
    · exact h.rejected j m hm
    · rfl
  · rcases hget hm with hm | ⟨hj, rfl⟩
    · exact h.accepted j m hm
    · show 0 = 0 + f.tasks j fun _ => true
      rw [h.tasks_eq_zero hj]

/-- A change of one forwarder that leaves its gauge and the tasks alone. -/
lemma Accounted.update (h : Accounted capacity f) {i : ℕ} {l l' : Listener}
    (hl : f.listeners[i]? = some l)
    (hactive : l'.stats.activeConnections = l.stats.activeConnections)
    (hrejected : l'.stats.rejectedConnections + l.refusals.length =
      l.stats.rejectedConnections + l'.refusals.length)
    (haccepted : l'.accepted + l.refusals.length = l.accepted + l'.refusals.length) :
    Accounted capacity { f with listeners := f.listeners.set i l' } := by
  refine ⟨h.permits, fun c hc => ?_, fun j m hm => ?_, fun j m hm => ?_, fun j m hm => ?_⟩
  · rw [List.length_set]
    exact h.owned c hc
  · rcases getElem?_set_cases hm with ⟨-, hm⟩ | ⟨rfl, rfl⟩
    · exact h.gauge j m hm
    · rw [hactive]
      exact h.gauge j l hl
  · rcases getElem?_set_cases hm with ⟨-, hm⟩ | ⟨rfl, rfl⟩
    · exact h.rejected j m hm
    · have := h.rejected j l hl
      omega
  · rcases getElem?_set_cases hm with ⟨-, hm⟩ | ⟨rfl, rfl⟩
    · exact h.accepted j m hm
    · have hold := h.accepted j l hl
      have hsame : tasks { f with listeners := f.listeners.set j m } j (fun _ => true) =
          f.tasks j fun _ => true := rfl
      omega

/-- A task is spawned for an accepted socket. -/
lemma Accounted.spawn (h : Accounted capacity f) {i : ℕ} {l l' : Listener} {limit : Option ℕ}
    {c : Conn} (hl : f.listeners[i]? = some l) (hlimit : f.limit = limit.map (· + 1))
    (howner : c.owner = i) (hpermit : c.permit = f.limit.isSome) (hstage : c.stage = .spawned)
    (hstats : l'.stats = l.stats) (hrefusals : l'.refusals = l.refusals)
    (haccepted : l'.accepted = l.accepted + 1) :
    Accounted capacity
      { f with limit, listeners := f.listeners.set i l', conns := f.conns ++ [c] } := by
  have hguarded : c.guarded = false := by simp [Conn.guarded, hstage]
  have hholds : c.holds = c.permit := by simp [Conn.holds, hstage]
  have htasks (j : ℕ) (p : Conn → Bool) :
      tasks { f with limit, listeners := f.listeners.set i l', conns := f.conns ++ [c] } j p =
        f.tasks j p + (c.owner = j && p c).toNat := countP_push f.conns c
  refine ⟨?_, ?_, fun j m hm => ?_, fun j m hm => ?_, fun j m hm => ?_⟩
  · have hpermits := h.permits
    cases capacity with
    | none =>
      obtain ⟨hnone, hall⟩ := hpermits
      rw [hnone] at hlimit hpermit
      refine ⟨by simpa using hlimit.symm, ?_⟩
      rw [List.forall_mem_append, List.forall_mem_singleton]
      exact ⟨hall, hpermit⟩
    | some n =>
      obtain ⟨available, havailable, hconserved, hall⟩ := hpermits
      rw [havailable] at hlimit hpermit
      obtain ⟨left, hleft, rfl⟩ := Option.map_eq_some_iff.mp hlimit.symm
      refine ⟨left, hleft, hconserved.take (hholds.trans hpermit), ?_⟩
      rw [List.forall_mem_append, List.forall_mem_singleton]
      exact ⟨hall, hpermit⟩
  · rw [List.forall_mem_append, List.forall_mem_singleton, List.length_set]
    refine ⟨h.owned, ?_⟩
    rw [howner]
    exact (List.getElem?_eq_some_iff.mp hl).1
  · rw [htasks, hguarded, Bool.and_false, Bool.toNat_false, Nat.add_zero]
    rcases getElem?_set_cases hm with ⟨-, hm⟩ | ⟨rfl, rfl⟩
    · exact h.gauge j m hm
    · rw [hstats]
      exact h.gauge j l hl
  · rcases getElem?_set_cases hm with ⟨-, hm⟩ | ⟨rfl, rfl⟩
    · exact h.rejected j m hm
    · rw [hstats, hrefusals]
      exact h.rejected j l hl
  · rw [htasks, howner, Bool.and_true]
    rcases getElem?_set_cases hm with ⟨hne, hm⟩ | ⟨rfl, rfl⟩
    · rw [decide_eq_false (Ne.symm hne), Bool.toNat_false, Nat.add_zero]
      exact h.accepted j m hm
    · rw [decide_eq_true rfl, Bool.toNat_true, haccepted, hrefusals, h.accepted j l hl,
        Nat.add_assoc]

/-- A task takes a step. -/
lemma Accounted.work (h : Accounted capacity f) {j : ℕ} {c c' : Conn} {l : Listener}
    {stats : ForwarderStats} {changes : List Event} (hc : f.conns[j]? = some c)
    (hl : f.listeners[c.owner]? = some l) (hkept : c.Kept l.stats c' stats) :
    Accounted capacity
      { f with
        limit := if c.holds && !c'.holds then f.limit.map (· + 1) else f.limit
        listeners := f.listeners.set c.owner { l with stats, changes }
        conns := f.conns.set j c' } := by
  have hmem : c ∈ f.conns := List.mem_of_getElem? hc
  have hset (i : ℕ) (p : Conn → Bool) :
      (f.conns.set j c').countP (fun c => c.owner = i && p c) + (c.owner = i && p c).toNat =
        f.tasks i p + (c.owner = i && p c').toNat := by
    have hcount := countP_set_add (p := fun c => decide (c.owner = i) && p c) c' hc
    rw [hkept.owner] at hcount
    exact hcount
  -- a guarded task is counted in the gauge
  have hpos (hguarded : c.guarded = true) : 0 < l.stats.activeConnections := by
    rw [h.gauge c.owner l hl]
    exact List.countP_pos_iff.mpr ⟨c, hmem, by simp [hguarded]⟩
  have hgauge := hkept.gauge hpos
  refine ⟨?_, fun d hd => ?_, fun i m hm => ?_, fun i m hm => ?_, fun i m hm => ?_⟩
  · have hpermits := h.permits
    cases capacity with
    | none =>
      obtain ⟨hnone, hall⟩ := hpermits
      refine ⟨by simp [hnone], fun d hd => ?_⟩
      rcases List.mem_or_eq_of_mem_set hd with hd | rfl
      · exact hall d hd
      · exact hkept.permit.trans (hall c hmem)
    | some n =>
      obtain ⟨available, havailable, hconserved, hall⟩ := hpermits
      have hall' : ∀ d ∈ f.conns.set j c', d.permit = true := by
        intro d hd
        rcases List.mem_or_eq_of_mem_set hd with hd | rfl
        · exact hall d hd
        · exact hkept.permit.trans (hall c hmem)
      by_cases hgive : c.holds = true ∧ c'.holds = false
      · refine ⟨available + 1, by simp [hgive, havailable], ?_, hall'⟩
        exact hconserved.give hc hgive.1 hgive.2
      · refine ⟨available, ?_, hconserved.keep hc ?_, hall'⟩
        · dsimp only
          rw [if_neg (by simpa using hgive), havailable]
        · cases hholds : c.holds with
          | false => exact hkept.holds hholds
          | true => exact Bool.eq_true_of_not_eq_false fun hc' => hgive ⟨hholds, hc'⟩
  · rw [List.length_set]
    rcases List.mem_or_eq_of_mem_set hd with hd | rfl
    · exact h.owned d hd
    · rw [hkept.owner]
      exact h.owned c hmem
  · have hcount := hset i Conn.guarded
    rcases getElem?_set_cases hm with ⟨hne, hm⟩ | ⟨rfl, rfl⟩
    · rw [decide_eq_false (Ne.symm hne), Bool.false_and, Bool.false_and] at hcount
      rw [h.gauge i m hm]
      exact (Nat.add_right_cancel hcount).symm
    · rw [decide_eq_true rfl, Bool.true_and, Bool.true_and] at hcount
      have hold := h.gauge c.owner l hl
      show stats.activeConnections = (f.conns.set j c').countP _
      omega
  · rcases getElem?_set_cases hm with ⟨-, hm⟩ | ⟨rfl, rfl⟩
    · exact h.rejected i m hm
    · exact hkept.rejected.trans (h.rejected c.owner l hl)
  · have hcount : (f.conns.set j c').countP (fun c => c.owner = i && true) =
        f.tasks i fun _ => true := Nat.add_right_cancel (hset i fun _ => true)
    rcases getElem?_set_cases hm with ⟨-, hm⟩ | ⟨rfl, rfl⟩
    · exact (h.accepted i m hm).trans (congrArg _ hcount.symm)
    · exact (h.accepted c.owner l hl).trans (congrArg _ hcount.symm)

/-- Every step of a fleet keeps its accounts. -/
lemma accounted_step (f : Fleet) (i : Input) (f' : Fleet) (h : Accounted capacity f)
    (hstep : step f i = some f') : Accounted capacity f' := by
  cases i with
  | start cfg literal now =>
    obtain rfl := Option.some.inj hstep
    exact h.start cfg literal now
  | reload settings =>
    obtain rfl := Option.some.inj hstep
    exact ⟨h.permits, h.owned, h.gauge, h.rejected, h.accepted⟩
  | listener i input =>
    obtain ⟨l, hl, hstep⟩ := Option.bind_eq_some_iff.mp hstep
    obtain ⟨⟨l', limit', spawned⟩, hlistener, rfl⟩ := Option.map_eq_some_iff.mp hstep
    cases (Listener.move_of_step hlistener).took with
    | nothing _ hstats hrefusals haccepted =>
      have hkeep := h.update hl (congrArg _ hstats) (by rw [hstats, hrefusals])
        (by rw [haccepted, hrefusals])
      simpa using hkeep
    | admitted _ _ c hlimit howner hpermit hstage hstats hrefusals haccepted =>
      exact h.spawn hl hlimit howner hpermit hstage hstats hrefusals haccepted
    | refused checked stamped hlimit =>
      have hkeep : Accounted capacity { f with
          listeners := f.listeners.set i
            (l.refuse (l.stats.addRejected 1) checked stamped) } :=
        h.update hl rfl (by simp [Listener.refuse, ForwarderStats.addRejected]; omega)
          (by simp [Listener.refuse]; omega)
      simpa using hkeep
  | conn j input =>
    obtain ⟨c, hc, hstep⟩ := Option.bind_eq_some_iff.mp hstep
    obtain ⟨l, hl, hstep⟩ := Option.bind_eq_some_iff.mp hstep
    obtain ⟨⟨c', stats, events⟩, hconn, rfl⟩ := Option.map_eq_some_iff.mp hstep
    exact h.work hc hl (Conn.kept_of_step hconn)
  | observe i addrs =>
    obtain ⟨l, hl, rfl⟩ := Option.map_eq_some_iff.mp hstep
    obtain ⟨hactive, hrejected⟩ := observeAddrs_gauges l.stats addrs
    exact h.update hl hactive (by rw [hrejected]) rfl
  | reachable i up =>
    obtain ⟨l, hl, rfl⟩ := Option.map_eq_some_iff.mp hstep
    exact h.update hl rfl rfl rfl

lemma accounted_of_run {settings : Settings} {is : List Input}
    (h : run step (init settings) is = some f) : Accounted (connLimit settings) f :=
  run_invariant accounted_step (accounted_init settings) h

/-! ## What follows -/

/-- What an accept loop does with the next socket. -/
structure Admits (capacity : Option ℕ) (f f' : Fleet) : Prop where
  /-- It becomes a task exactly when fewer tasks hold a permit than there are permits. -/
  admitted : f'.conns.length = f.conns.length + 1 ↔
    ∀ n, capacity = some n → f.conns.countP Conn.holds < n
  /-- It is refused exactly when all permits are held. -/
  refused : f'.conns = f.conns ↔ capacity = some (f.conns.countP Conn.holds)

lemma Accounted.admits (h : Accounted capacity f) {i checked stamped : ℕ}
    (hstep : step f (.listener i (.accept checked stamped)) = some f') : Admits capacity f f' := by
  obtain ⟨l, hl, hstep⟩ := Option.bind_eq_some_iff.mp hstep
  obtain ⟨⟨l', limit', spawned⟩, hlistener, rfl⟩ := Option.map_eq_some_iff.mp hstep
  obtain ⟨-, haccept⟩ := Option.ite_none_right_eq_some.mp hlistener
  have hpermits := h.permits
  cases capacity with
  | none =>
    rw [hpermits.1] at haccept
    cases haccept
    exact ⟨by simp, by simp⟩
  | some n =>
    obtain ⟨available, havailable, hconserved, -⟩ := hpermits
    have hle := hconserved.countP_le
    have hzero := hconserved.available_eq_zero_iff
    rw [havailable] at haccept
    cases available with
    | zero =>
      have hfull : f.conns.countP Conn.holds = n := hzero.mp rfl
      cases haccept
      exact ⟨by simp [hfull], by simp [hfull]⟩
    | succ left =>
      have hroom : f.conns.countP Conn.holds < n :=
        lt_of_le_of_ne hle fun heq => Nat.succ_ne_zero left (hzero.mpr heq)
      cases haccept
      refine ⟨by simp [hroom], fun heq => ?_, fun heq => ?_⟩
      · have hlength := congrArg List.length heq
        simp at hlength
      · have hfull := Option.some.inj heq
        omega

/-- When every task has ended, nothing is left behind. -/
lemma Accounted.idle (h : Accounted capacity f) (hended : ∀ c ∈ f.conns, c.stage = .ended) :
    f.limit = capacity ∧ ∀ l ∈ f.listeners, l.stats.activeConnections = 0 := by
  constructor
  · have hpermits := h.permits
    cases capacity with
    | none => exact hpermits.1
    | some n =>
      obtain ⟨available, havailable, hconserved, -⟩ := hpermits
      rw [havailable, hconserved.available_eq fun c hc => by simp [Conn.holds, hended c hc]]
  · intro l hl
    obtain ⟨i, hi⟩ := List.getElem?_of_mem hl
    rw [h.gauge i l hi]
    exact List.countP_eq_zero.mpr fun c hc => by simp [Conn.guarded, hended c hc]

/-- **Connections and permits are accounted for.**  In every state that the TCP forwarders of a
process reach, by any interleaving of accept loops, connection tasks, monitors and reloads, the
permits, the gauges and the counters agree with the tasks; no more connections are in progress than
the limit allows; the next socket is refused exactly when the limit is reached; and when the tasks
have ended all permits are back and all gauges are zero. -/
theorem connections_accounted {settings : Settings} {is : List Input}
    (h : run step (init settings) is = some f) :
    Accounted (connLimit settings) f ∧
    (∀ n, connLimit settings = some n → f.conns.countP Conn.holds ≤ n) ∧
    (∀ i checked stamped f', step f (.listener i (.accept checked stamped)) = some f' →
      Admits (connLimit settings) f f') ∧
    ((∀ c ∈ f.conns, c.stage = .ended) →
      f.limit = connLimit settings ∧ ∀ l ∈ f.listeners, l.stats.activeConnections = 0) := by
  have haccounted := accounted_of_run h
  refine ⟨haccounted, fun n hn => ?_, fun _ _ _ _ => haccounted.admits, haccounted.idle⟩
  have hpermits := haccounted.permits
  rw [hn] at hpermits
  obtain ⟨_, _, hconserved, _⟩ := hpermits
  exact hconserved.countP_le

/-- One forwarder under a limit of one connection: a connection is accepted and the next one
refused. -/
def oneConnection : List Input :=
  [.start ⟨"127.0.0.1".toList, 8080, "10.0.0.1".toList, 80, .tcp⟩ (some (.v4 0x0A000001)) 0,
    .listener 0 (.bind .poll), .listener 0 (.bind .succeed), .listener 0 .poll,
    .listener 0 (.accept 5 5), .conn 0 .start, .listener 0 .poll, .listener 0 (.accept 9 9)]

theorem connections_accounted_oneConnection : ∃ f,
    run step (init { Settings.default with maxConnections := some 1 }) oneConnection = some f ∧
    f.conns.length = 1 ∧ Accounted (some 1) f :=
  ⟨_, rfl, rfl, (@connections_accounted _ { Settings.default with maxConnections := some 1 }
    oneConnection rfl).1⟩

end Fleet

end Rfw.Forwarder
