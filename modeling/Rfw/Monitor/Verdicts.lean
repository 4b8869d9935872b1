/-
# Sequences of verdicts

Both monitors turn what they see into verdicts on the target: up, down, or hold when there is no
new evidence.  Each verdict is recorded at readings of a clock that never goes back, and each
"down" under the knobs in force at that moment.  This file follows whole sequences of verdicts and
says which alerts they raise, and where (`outage_law`).

A *stretch* is a run of verdicts that starts with a "down" and has no "up" in it; holds may stand
anywhere.  The outage that `record_down` keeps open is the current stretch.
-/
import Rfw.Monitor.Tcp

namespace Rfw.Monitor

open Lib

/-- A verdict on the target, with the clock readings that recording it takes. -/
inductive Verdict
  | up (address : Option SocketAddr) (now : ℕ)
  | down (error : Str) (knobs : RuntimeKnobs) (opened now : ℕ)
  /-- No new evidence either way. -/
  | hold
deriving DecidableEq, Repr

namespace Verdict

/-- What the gauge shows after a verdict; a hold says nothing. -/
def reachable : Verdict → Option Bool
  | up _ _ => some true
  | down _ _ _ _ => some false
  | hold => none

/-- The clock readings of a verdict, in the order in which they are taken. -/
def readings : Verdict → List ℕ
  | up _ now => [now]
  | down _ _ opened now => [opened, now]
  | hold => []

end Verdict

/-- Record one verdict. -/
def observe (label target : Str) (r : Record) : Verdict → Record
  | .up address now => recordUp label target r address now
  | .down error knobs opened now => recordDown label target r error knobs opened now
  | .hold => r

/-- Record a sequence of verdicts. -/
def observeAll (label target : Str) (r : Record) (vs : List Verdict) : Record :=
  vs.foldl (observe label target) r

/-- The alert that recording a verdict raises, if it raises one. -/
def emitted (label target : Str) (r : Record) (v : Verdict) : Option Alert :=
  let alerts := (observe label target r v).alerts
  if alerts.length = r.alerts.length then none else alerts.head?

/-- Verdicts, each with the alert that it raised. -/
abbrev Trace := List (Verdict × Option Alert)

/-- The sequence of verdicts with what each of them raised. -/
def trace (label target : Str) : Record → List Verdict → Trace
  | _, [] => []
  | r, v :: vs => (v, emitted label target r v) :: trace label target (observe label target r v) vs

/-- The last verdict of a sequence that is not a hold. -/
def lastVerdict : List Verdict → Option Bool
  | [] => none
  | v :: vs => (lastVerdict vs).or v.reachable

/-- The automaton of alternating outage alerts; its state says whether an alert is open. -/
def alternation : Bool → Alert → Option Bool
  | false, .targetUnreachable _ _ _ _ => some true
  | true, .targetRecovered _ _ _ _ => some false
  | _, _ => none

/-- A stretch of verdicts that begins with a "down" recorded at `since` and has no "up". -/
structure Stretch (since : ℕ) (s : Trace) : Prop where
  opens : ∃ error knobs now e rest, s = (.down error knobs since now, e) :: rest
  no_up : ∀ x ∈ s, x.1.reachable ≠ some true

/-- The verdicts of a trace do not end inside a stretch. -/
def Closed (tr : Trace) : Prop := lastVerdict (tr.map Prod.fst) ≠ some false

/-- A stretch in which exactly one verdict raised an alert, and that one the outage alert. -/
def AlertedOnce (label target : Str) (s : Trace) : Prop :=
  ∃ p u downFor error q,
    s = p ++ (u, some (.targetUnreachable label target downFor error)) :: q ∧
      (∀ x ∈ p, x.2 = none) ∧ ∀ x ∈ q, x.2 = none

/-- What the open outage remembers of the verdicts so far. -/
structure Tracks (label target : Str) (tr : Trace) (r : Record) : Prop where
  alternates : run alternation false (tr.filterMap Prod.snd) = some (r.down.any Downtime.alerted)
  closed : r.down = none → Closed tr
  stretch : ∀ d, r.down = some d → ∃ before s, tr = before ++ s ∧ Closed before ∧
    Stretch d.since s ∧ if d.alerted then AlertedOnce label target s else ∀ x ∈ s, x.2 = none

/-- The law of outage alerts over a sequence of verdicts. -/
structure OutageLaw (label target : Str) (tr : Trace) : Prop where
  /-- The alerts alternate, and the first one is `TargetUnreachable`. -/
  alternate : ∃ isOpen, run alternation false (tr.filterMap Prod.snd) = some isOpen
  /-- `TargetUnreachable` is raised at a "down", inside a stretch that has not alerted yet and has
  lasted at least the threshold in force. -/
  unreachable : ∀ pre v l t downFor lastError post,
    tr = pre ++ (v, some (.targetUnreachable l t downFor lastError)) :: post →
      ∃ before s since knobs opened now, pre = before ++ s ∧ Closed before ∧
        Stretch since (s ++ [(v, some (.targetUnreachable l t downFor lastError))]) ∧
        (∀ x ∈ s, x.2 = none) ∧ v = .down lastError knobs opened now ∧ since ≤ now ∧
        downFor = now - since ∧ secs knobs.unreachableAfter ≤ downFor ∧ l = label ∧ t = target
  /-- `TargetRecovered` is raised at the first "up" after a `TargetUnreachable`. -/
  recovered : ∀ pre v l t downFor address post,
    tr = pre ++ (v, some (.targetRecovered l t downFor address)) :: post →
      ∃ now, v = .up address now ∧ l = label ∧ t = target ∧
        ∃ p u downFor' error q,
          pre = p ++ (u, some (.targetUnreachable label target downFor' error)) :: q ∧
            ∀ x ∈ q, x.1.reachable ≠ some true
  /-- The "up" that ends a stretch that never alerted raises nothing. -/
  quiet : ∀ before s since address now e post,
    tr = before ++ s ++ (.up address now, e) :: post → Closed before → Stretch since s →
      (∀ x ∈ s, x.2 = none) → e = none

/-! ## One verdict -/

section Step

variable {label target : Str} {r : Record}

/-- Everything that recording an "up" can do. -/
lemma observe_up (label target : Str) (r : Record) (address : Option SocketAddr) (now : ℕ) :
    let r' := observe label target r (.up address now)
    r'.down = none ∧ r'.stats.targetReachable = some true ∧
      ((∃ d, r.down = some d ∧ d.alerted = true ∧
        r'.alerts = .targetRecovered label target (now - d.since) address :: r.alerts) ∨
      (∀ d, r.down = some d → d.alerted = false) ∧ r'.alerts = r.alerts) := by
  cases hd : r.down with
  | none => simp [observe, recordUp, hd, ForwarderStats.setTargetReachable]
  | some d =>
    cases ha : d.alerted with
    | true => simp [observe, recordUp, hd, ha, ForwarderStats.setTargetReachable]
    | false => simp [observe, recordUp, hd, ha, ForwarderStats.setTargetReachable]

/-- Everything that recording a "down" can do. -/
lemma observe_down (label target : Str) (r : Record) (error : Str) (knobs : RuntimeKnobs)
    (opened now : ℕ) :
    let r' := observe label target r (.down error knobs opened now)
    let d := r.down.getD { since := opened, alerted := false }
    r'.stats.targetReachable = some false ∧
      ((d.alerted = false ∧ secs knobs.unreachableAfter ≤ now - d.since ∧
        r'.down = some { d with alerted := true } ∧
        r'.alerts = .targetUnreachable label target (now - d.since) error :: r.alerts) ∨
      r'.down = some d ∧ r'.alerts = r.alerts) := by
  intro r' d
  by_cases h : d.alerted = false ∧ secs knobs.unreachableAfter ≤ now - d.since
  · have hr' : r' = { down := some { d with alerted := true }
                      stats := r.stats.setTargetReachable false
                      alerts := .targetUnreachable label target (now - d.since) error ::
                        r.alerts } := if_pos h
    exact ⟨by rw [hr']; rfl, Or.inl ⟨h.1, h.2, by rw [hr'], by rw [hr']⟩⟩
  · have hr' : r' = { r with down := some d, stats := r.stats.setTargetReachable false } :=
      if_neg h
    exact ⟨by rw [hr']; rfl, Or.inr ⟨by rw [hr'], by rw [hr']⟩⟩

lemma emitted_of_cons {v : Verdict} {a : Alert}
    (h : (observe label target r v).alerts = a :: r.alerts) :
    emitted label target r v = some a := by
  simp [emitted, h]

lemma emitted_of_eq {v : Verdict} (h : (observe label target r v).alerts = r.alerts) :
    emitted label target r v = none := by
  simp [emitted, h]

/-- Recording a verdict raises at most one alert. -/
lemma alerts_observe (v : Verdict) :
    (observe label target r v).alerts = (emitted label target r v).toList ++ r.alerts := by
  cases v with
  | up address now =>
    obtain ⟨-, -, ⟨d, -, -, h⟩ | ⟨-, h⟩⟩ := observe_up label target r address now
    · rw [emitted_of_cons h, h]; rfl
    · rw [emitted_of_eq h, h]; rfl
  | down error knobs opened now =>
    obtain ⟨-, ⟨-, -, -, h⟩ | ⟨-, h⟩⟩ := observe_down label target r error knobs opened now
    · rw [emitted_of_cons h, h]; rfl
    · rw [emitted_of_eq h, h]; rfl
  | hold => rw [emitted_of_eq rfl]; rfl

end Step

/-! ## Traces -/

section Trace

variable {label target : Str} {r : Record}

lemma observeAll_append (vs ws : List Verdict) :
    observeAll label target r (vs ++ ws) =
      observeAll label target (observeAll label target r vs) ws :=
  List.foldl_append

lemma observeAll_snoc (vs : List Verdict) (v : Verdict) :
    observeAll label target r (vs ++ [v]) =
      observe label target (observeAll label target r vs) v :=
  observeAll_append vs [v]

lemma trace_append (label target : Str) (r : Record) (vs ws : List Verdict) :
    trace label target r (vs ++ ws) =
      trace label target r vs ++ trace label target (observeAll label target r vs) ws := by
  induction vs generalizing r with
  | nil => rfl
  | cons v vs ih =>
    rw [List.cons_append, trace, trace, ih, List.cons_append]
    rfl

lemma trace_snoc (vs : List Verdict) (v : Verdict) :
    trace label target r (vs ++ [v]) =
      trace label target r vs ++ [(v, emitted label target (observeAll label target r vs) v)] :=
  trace_append label target r vs [v]

@[simp] lemma map_fst_trace (label target : Str) (r : Record) (vs : List Verdict) :
    (trace label target r vs).map Prod.fst = vs := by
  induction vs generalizing r with
  | nil => rfl
  | cons v vs ih => rw [trace, List.map_cons, ih]

/-- What stands before one entry of a trace is the trace of the verdicts before it. -/
lemma trace_eq_append_cons {vs : List Verdict} {pre post : Trace} {v : Verdict}
    {e : Option Alert} (h : trace label target r vs = pre ++ (v, e) :: post) :
    ∃ ws ws', vs = ws ++ v :: ws' ∧ pre = trace label target r ws ∧
      e = emitted label target (observeAll label target r ws) v := by
  have hvs : vs = pre.map Prod.fst ++ v :: post.map Prod.fst := by
    have hmap := congrArg (List.map Prod.fst) h
    simpa using hmap
  have hsplit := trace_append label target r (pre.map Prod.fst) (v :: post.map Prod.fst)
  rw [← hvs, h] at hsplit
  have hlen : pre.length = (trace label target r (pre.map Prod.fst)).length := by
    have hmap := congrArg List.length
      (map_fst_trace label target r (pre.map Prod.fst))
    rw [List.length_map, List.length_map] at hmap
    exact hmap.symm
  obtain ⟨hpre, hrest⟩ := List.append_inj hsplit hlen
  refine ⟨pre.map Prod.fst, post.map Prod.fst, hvs, hpre, ?_⟩
  rw [trace, List.cons.injEq, Prod.mk.injEq] at hrest
  exact hrest.1.2

lemma lastVerdict_append (vs ws : List Verdict) :
    lastVerdict (vs ++ ws) = (lastVerdict ws).or (lastVerdict vs) := by
  induction vs with
  | nil => simp [lastVerdict]
  | cons v vs ih => rw [List.cons_append, lastVerdict, ih, lastVerdict, Option.or_assoc]

/-- Inside a stretch the last verdict that is not a hold is a "down". -/
lemma Stretch.lastVerdict_eq {since : ℕ} {s : Trace} (h : Stretch since s) :
    lastVerdict (s.map Prod.fst) = some false := by
  obtain ⟨error, knobs, now, e, rest, rfl⟩ := h.opens
  have hrest : ∀ t : Trace, (∀ x ∈ t, x.1.reachable ≠ some true) →
      lastVerdict (t.map Prod.fst) ≠ some true := by
    intro t ht
    induction t with
    | nil => simp [lastVerdict]
    | cons x t ih =>
      have htail := ih fun y hy => ht y (List.mem_cons_of_mem x hy)
      have hhead := ht x List.mem_cons_self
      rw [List.map_cons, lastVerdict]
      cases hlast : lastVerdict (t.map Prod.fst) with
      | none => simpa using hhead
      | some b => rwa [Option.some_or, ← hlast]
  have hne := hrest rest fun y hy => h.no_up y (List.mem_cons_of_mem _ hy)
  rw [List.map_cons, lastVerdict]
  cases hlast : lastVerdict (rest.map Prod.fst) with
  | none => rfl
  | some b =>
    cases b with
    | false => rfl
    | true => exact absurd hlast hne

/-- A trace that is closed does not end with a stretch. -/
lemma Stretch.not_closed_append {since : ℕ} {s : Trace} (h : Stretch since s) (tr : Trace) :
    ¬ Closed (tr ++ s) := by
  intro hclosed
  apply hclosed
  rw [List.map_append, lastVerdict_append, h.lastVerdict_eq]
  rfl

/-- The gauge shows the last verdict that is not a hold. -/
lemma targetReachable_observeAll (vs : List Verdict) :
    (observeAll label target r vs).stats.targetReachable =
      (lastVerdict vs).or r.stats.targetReachable := by
  induction vs using List.reverseRecOn with
  | nil => rfl
  | append_singleton vs v ih =>
    rw [observeAll_snoc, lastVerdict_append]
    cases v with
    | up address now =>
      rw [(observe_up label target _ address now).2.1]
      rfl
    | down error knobs opened now =>
      rw [(observe_down label target _ error knobs opened now).1]
      rfl
    | hold => exact ih

/-- The alerts of a record are those that the verdicts raised, in order. -/
lemma alerts_observeAll (vs : List Verdict) :
    (observeAll label target r vs).alerts.reverse =
      r.alerts.reverse ++ (trace label target r vs).filterMap Prod.snd := by
  induction vs using List.reverseRecOn with
  | nil => simp [observeAll, trace]
  | append_singleton vs v ih =>
    rw [observeAll_snoc, alerts_observe, List.reverse_append, ih, trace_snoc, List.filterMap_append,
      List.append_assoc]
    congr 2
    cases emitted label target (observeAll label target r vs) v <;> rfl

end Trace

/-! ## The open outage and its stretch -/

section Tracks

variable {label target : Str} {r : Record} {tr : Trace}

lemma run_alternation_append {l : List Alert} {b : Bool} (h : run alternation false l = some b)
    (e : Option Alert) :
    run alternation false (l ++ e.toList) =
      match e with
      | none => some b
      | some a => alternation b a := by
  cases e with
  | none => simpa using h
  | some a =>
    refine Option.ext fun b' => ?_
    rw [run_append]
    constructor
    · rintro ⟨m, hm, hrun⟩
      obtain rfl : b = m := Option.some.inj (h.symm.trans hm)
      simpa [run_cons] using hrun
    · intro hb'
      exact ⟨b, h, by simpa [run_cons] using hb'⟩

lemma filterMap_snoc (v : Verdict) (e : Option Alert) :
    (tr ++ [(v, e)]).filterMap Prod.snd = tr.filterMap Prod.snd ++ e.toList := by
  rw [List.filterMap_append]
  cases e <;> rfl

lemma closed_snoc_up (address : Option SocketAddr) (now : ℕ) (e : Option Alert) :
    Closed (tr ++ [(.up address now, e)]) := by
  rw [Closed, List.map_append, lastVerdict_append]
  simp [lastVerdict, Verdict.reachable]

lemma closed_snoc_hold (h : Closed tr) (e : Option Alert) : Closed (tr ++ [(.hold, e)]) := by
  rw [Closed, List.map_append, lastVerdict_append]
  exact h

lemma Stretch.single (error : Str) (knobs : RuntimeKnobs) (since now : ℕ) (e : Option Alert) :
    Stretch since [(.down error knobs since now, e)] where
  opens := ⟨error, knobs, now, e, [], rfl⟩
  no_up := by
    intro x hx
    obtain rfl := List.mem_singleton.mp hx
    simp [Verdict.reachable]

lemma Stretch.snoc {since : ℕ} {s : Trace} (h : Stretch since s) {x : Verdict × Option Alert}
    (hx : x.1.reachable ≠ some true) : Stretch since (s ++ [x]) where
  opens := by
    obtain ⟨error, knobs, now, e, rest, rfl⟩ := h.opens
    exact ⟨error, knobs, now, e, rest ++ [x], rfl⟩
  no_up := by
    intro y hy
    rcases List.mem_append.mp hy with hy | hy
    · exact h.no_up y hy
    · obtain rfl := List.mem_singleton.mp hy
      exact hx

/-- The stretch that a "down" belongs to: the open one, or the one it opens. -/
lemma Tracks.stretch_down (h : Tracks label target tr r) (error : Str) (knobs : RuntimeKnobs)
    (opened now : ℕ) (e : Option Alert) :
    let d := r.down.getD { since := opened, alerted := false }
    ∃ before s, tr = before ++ s ∧ Closed before ∧
      Stretch d.since (s ++ [(.down error knobs opened now, e)]) ∧
      if d.alerted then AlertedOnce label target s else ∀ x ∈ s, x.2 = none := by
  cases hd : r.down with
  | none =>
    refine ⟨tr, [], (List.append_nil tr).symm, h.closed hd, ?_, ?_⟩
    · exact Stretch.single error knobs opened now e
    · intro x hx
      cases hx
  | some d =>
    obtain ⟨before, s, htr, hclosed, hs, hquiet⟩ := h.stretch d hd
    exact ⟨before, s, htr, hclosed, hs.snoc (by simp [Verdict.reachable]), hquiet⟩

lemma forall_none_snoc {s : Trace} (h : ∀ x ∈ s, x.2 = none) (v : Verdict) :
    ∀ x ∈ s ++ [(v, none)], x.2 = none := by
  intro x hx
  rcases List.mem_append.mp hx with hx | hx
  · exact h x hx
  · obtain rfl := List.mem_singleton.mp hx
    rfl

lemma AlertedOnce.snoc {s : Trace} (h : AlertedOnce label target s) (v : Verdict) :
    AlertedOnce label target (s ++ [(v, none)]) := by
  obtain ⟨p, u, downFor, error, q, rfl, hp, hq⟩ := h
  exact ⟨p, u, downFor, error, q ++ [(v, none)], by simp, hp, forall_none_snoc hq v⟩

/-- What a stretch raised so far does not change with a verdict that raises nothing. -/
lemma quiet_snoc {s : Trace} {alerted : Bool}
    (h : if alerted then AlertedOnce label target s else ∀ x ∈ s, x.2 = none) (v : Verdict) :
    if alerted then AlertedOnce label target (s ++ [(v, none)])
    else ∀ x ∈ s ++ [(v, none)], x.2 = none := by
  cases alerted with
  | true => exact AlertedOnce.snoc h v
  | false => exact forall_none_snoc h v

/-- One verdict keeps the outage and its stretch in step. -/
lemma Tracks.snoc (h : Tracks label target tr r) (v : Verdict) :
    Tracks label target (tr ++ [(v, emitted label target r v)]) (observe label target r v) := by
  have halt := run_alternation_append h.alternates (emitted label target r v)
  cases v with
  | up address now =>
    obtain ⟨hdown, -, halerts⟩ := observe_up label target r address now
    refine ⟨?_, fun _ => closed_snoc_up address now _, fun d hd => ?_⟩
    · rw [filterMap_snoc, halt, hdown]
      rcases halerts with ⟨d, hd, ha, halerts⟩ | ⟨hnot, halerts⟩
      · rw [emitted_of_cons halerts]
        simp [hd, ha, alternation]
      · rw [emitted_of_eq halerts]
        cases hd : r.down with
        | none => rfl
        | some d => simp [hnot d hd]
    · rw [hdown] at hd
      cases hd
  | down error knobs opened now =>
    obtain ⟨-, hcases⟩ :=
      observe_down label target r error knobs opened now
    obtain ⟨before, s, htr, hclosed, hs, hquiet⟩ := h.stretch_down error knobs opened now
      (emitted label target r (.down error knobs opened now))
    rcases hcases with ⟨ha, -, hdown, halerts⟩ | ⟨hdown, halerts⟩
    · -- the threshold is reached: the stretch alerts here, for the first time
      have hanone : r.down.any Downtime.alerted = false := by
        cases hd : r.down with
        | none => rfl
        | some d => simpa [hd] using ha
      rw [emitted_of_cons halerts] at halt hs ⊢
      refine ⟨?_, fun hnone => ?_, fun d hd => ?_⟩
      · rw [filterMap_snoc, halt, hanone, hdown]
        rfl
      · rw [hdown] at hnone
        cases hnone
      · rw [hdown] at hd
        obtain rfl := Option.some.inj hd
        refine ⟨before, _, by rw [htr, List.append_assoc], hclosed, hs, ?_⟩
        rw [ha] at hquiet
        exact ⟨s, _, _, _, [], rfl, hquiet, by simp⟩
    · -- the stretch grows by a verdict that raises nothing
      rw [emitted_of_eq halerts] at halt hs ⊢
      refine ⟨?_, fun hnone => ?_, fun d hd => ?_⟩
      · rw [filterMap_snoc, halt, hdown]
        cases r.down <;> rfl
      · rw [hdown] at hnone
        cases hnone
      · rw [hdown] at hd
        obtain rfl := Option.some.inj hd
        exact ⟨before, _, by rw [htr, List.append_assoc], hclosed, hs, quiet_snoc hquiet _⟩
  | hold =>
    have hnone : emitted label target r .hold = none := emitted_of_eq rfl
    rw [hnone] at halt ⊢
    refine ⟨?_, fun hdown => closed_snoc_hold (h.closed hdown) none, fun d hd => ?_⟩
    · rw [filterMap_snoc, halt]
      rfl
    · obtain ⟨before, s, htr, hclosed, hs, hquiet⟩ := h.stretch d hd
      refine ⟨before, s ++ [(.hold, none)], by rw [htr, List.append_assoc], hclosed,
        hs.snoc (by simp [Verdict.reachable]), quiet_snoc hquiet _⟩

/-- The record of a monitor before its first verdict. -/
def freshRecord (stats : ForwarderStats) : Record := { down := none, stats, alerts := [] }

lemma tracks_trace (label target : Str) (stats : ForwarderStats) (vs : List Verdict) :
    Tracks label target (trace label target (freshRecord stats) vs)
      (observeAll label target (freshRecord stats) vs) := by
  induction vs using List.reverseRecOn with
  | nil =>
    refine ⟨rfl, fun _ => ?_, fun d hd => ?_⟩
    · simp [Closed, trace, lastVerdict]
    · cases hd
  | append_singleton vs v ih =>
    rw [trace_snoc, observeAll_snoc]
    exact ih.snoc v

end Tracks

/-! ## The law -/

/-- The clock reading that opened a stretch is not later than the one of a "down" in it. -/
lemma since_le_now {vs ws ws' : List Verdict} {before s : Trace} {since opened now : ℕ}
    {error : Str} {knobs : RuntimeKnobs} {e : Option Alert}
    (hclock : (vs.flatMap Verdict.readings).Pairwise (· ≤ ·))
    (hvs : vs = ws ++ .down error knobs opened now :: ws')
    (hws : ws = (before ++ s).map Prod.fst)
    (hs : Stretch since (s ++ [(.down error knobs opened now, e)])) : since ≤ now := by
  rw [hvs, List.flatMap_append, List.flatMap_cons] at hclock
  obtain ⟨-, hv, hcross⟩ := List.pairwise_append.mp hclock
  obtain ⟨error', knobs', now', e', rest, hopen⟩ := hs.opens
  cases s with
  | nil =>
    -- the verdict opens the stretch itself
    rw [List.nil_append, List.cons.injEq, Prod.mk.injEq] at hopen
    obtain ⟨⟨hdown, -⟩, -⟩ := hopen
    injection hdown with _ _ hopened _
    rw [← hopened]
    have hpair := (List.pairwise_append.mp hv).1
    simpa [Verdict.readings] using hpair
  | cons x s =>
    rw [List.cons_append, List.cons.injEq] at hopen
    obtain ⟨rfl, -⟩ := hopen
    refine hcross since ?_ now ?_
    · rw [hws, List.mem_flatMap]
      refine ⟨.down error' knobs' since now', ?_, ?_⟩
      · simp
      · simp [Verdict.readings]
    · simp [Verdict.readings]

/-- A verdict that raises `TargetUnreachable` is a "down". -/
lemma eq_down_of_emitted {label target l t : Str} {r : Record} {v : Verdict} {downFor : ℕ}
    {lastError : Str}
    (h : emitted label target r v = some (.targetUnreachable l t downFor lastError)) :
    ∃ knobs opened now, v = .down lastError knobs opened now ∧ l = label ∧ t = target ∧
      (r.down.getD { since := opened, alerted := false }).alerted = false ∧
      downFor = now - (r.down.getD { since := opened, alerted := false }).since ∧
      secs knobs.unreachableAfter ≤ downFor := by
  cases v with
  | up address now =>
    obtain ⟨-, -, ⟨d, -, -, halerts⟩ | ⟨-, halerts⟩⟩ := observe_up label target r address now
    · rw [emitted_of_cons halerts] at h
      simp at h
    · rw [emitted_of_eq halerts] at h
      cases h
  | down error knobs opened now =>
    obtain ⟨-, ⟨ha, hthreshold, -, halerts⟩ | ⟨-, halerts⟩⟩ :=
      observe_down label target r error knobs opened now
    · rw [emitted_of_cons halerts] at h
      simp only [Option.some.injEq, Alert.targetUnreachable.injEq] at h
      obtain ⟨rfl, rfl, rfl, rfl⟩ := h
      exact ⟨knobs, opened, now, rfl, rfl, rfl, ha, rfl, hthreshold⟩
    · rw [emitted_of_eq halerts] at h
      cases h
  | hold =>
    rw [emitted_of_eq rfl] at h
    cases h

/-- A verdict that raises `TargetRecovered` is an "up" that closes an outage that had alerted. -/
lemma eq_up_of_emitted {label target l t : Str} {r : Record} {v : Verdict} {downFor : ℕ}
    {address : Option SocketAddr}
    (h : emitted label target r v = some (.targetRecovered l t downFor address)) :
    ∃ now d, v = .up address now ∧ l = label ∧ t = target ∧ r.down = some d ∧
      d.alerted = true := by
  cases v with
  | up address' now =>
    obtain ⟨-, -, ⟨d, hd, ha, halerts⟩ | ⟨-, halerts⟩⟩ := observe_up label target r address' now
    · rw [emitted_of_cons halerts] at h
      simp only [Option.some.injEq, Alert.targetRecovered.injEq] at h
      obtain ⟨rfl, rfl, -, rfl⟩ := h
      exact ⟨now, d, rfl, rfl, rfl, hd, ha⟩
    · rw [emitted_of_eq halerts] at h
      cases h
  | down error knobs opened now =>
    obtain ⟨-, ⟨-, -, -, halerts⟩ | ⟨-, halerts⟩⟩ :=
      observe_down label target r error knobs opened now
    · rw [emitted_of_cons halerts] at h
      simp at h
    · rw [emitted_of_eq halerts] at h
      cases h
  | hold =>
    rw [emitted_of_eq rfl] at h
    cases h

/-- An "up" after a stretch that never alerted raises nothing. -/
lemma emitted_up_of_quiet {label target : Str} {r : Record} {before s : Trace}
    (h : Tracks label target (before ++ s) r) (hclosed : Closed before)
    (hquiet : ∀ x ∈ s, x.2 = none) (address : Option SocketAddr) (now : ℕ) :
    emitted label target r (.up address now) = none := by
  obtain ⟨-, -, ⟨d, hd, ha, -⟩ | ⟨-, halerts⟩⟩ := observe_up label target r address now
  · -- the open outage has alerted, so its stretch holds an alert that `s` does not have
    exfalso
    obtain ⟨before', s', htr, hclosed', hs', hif⟩ := h.stretch d hd
    rw [ha, if_pos rfl] at hif
    obtain ⟨p, u, downFor, error, q, rfl, -, -⟩ := hif
    have halert : ∀ m : Trace,
        s = m ++ (p ++ (u, some (.targetUnreachable label target downFor error)) :: q) →
          False := by
      intro m hm
      have hnone := hquiet (u, some (.targetUnreachable label target downFor error)) (by simp [hm])
      cases hnone
    rcases List.append_eq_append_iff.mp htr with ⟨m, hbefore', hsm⟩ | ⟨m, hbefore, hsm⟩
    · exact halert m hsm
    · -- `before` would end inside the open stretch
      cases m with
      | nil => exact halert [] (by simpa using hsm.symm)
      | cons x m =>
        have hm : Stretch d.since (x :: m) := by
          rw [hsm] at hs'
          obtain ⟨error', knobs', now', e', rest, hopen⟩ := hs'.opens
          rw [List.cons_append, List.cons.injEq] at hopen
          refine ⟨⟨error', knobs', now', e', m, by rw [hopen.1]⟩, fun y hy => ?_⟩
          exact hs'.no_up y (List.mem_append_left s hy)
        rw [hbefore] at hclosed
        exact hm.not_closed_append before' hclosed
  · exact emitted_of_eq halerts

/-- **The outage alerts of a monitor.**  Over every sequence of verdicts the alerts obey the law,
they are what the record holds, and the gauge shows the last verdict that is not a hold. -/
theorem outage_law (label target : Str) (stats : ForwarderStats) (vs : List Verdict)
    (hclock : (vs.flatMap Verdict.readings).Pairwise (· ≤ ·)) :
    OutageLaw label target (trace label target (freshRecord stats) vs) ∧
      (observeAll label target (freshRecord stats) vs).alerts.reverse =
        (trace label target (freshRecord stats) vs).filterMap Prod.snd ∧
      (observeAll label target (freshRecord stats) vs).stats.targetReachable =
        (lastVerdict vs).or stats.targetReachable := by
  refine ⟨⟨?_, ?_, ?_, ?_⟩, alerts_observeAll vs, targetReachable_observeAll vs⟩
  · exact ⟨_, (tracks_trace label target stats vs).alternates⟩
  · intro pre v l t downFor lastError post h
    obtain ⟨ws, ws', hvs, hpre, he⟩ := trace_eq_append_cons h
    obtain ⟨knobs, opened, now, rfl, hl, ht, ha, hdownFor, hthreshold⟩ := eq_down_of_emitted he.symm
    obtain ⟨before, s, htr, hclosed, hs, hquiet⟩ :=
      (tracks_trace label target stats ws).stretch_down lastError knobs opened now
        (some (.targetUnreachable l t downFor lastError))
    rw [ha] at hquiet
    have hws : ws = (before ++ s).map Prod.fst := by rw [← htr, map_fst_trace]
    exact ⟨before, s, _, knobs, opened, now, hpre.trans htr, hclosed, hs, hquiet, rfl,
      since_le_now hclock hvs hws hs, hdownFor, hthreshold, hl, ht⟩
  · intro pre v l t downFor address post h
    obtain ⟨ws, ws', hvs, hpre, he⟩ := trace_eq_append_cons h
    obtain ⟨now, d, rfl, hl, ht, hd, ha⟩ := eq_up_of_emitted he.symm
    obtain ⟨before, s, htr, -, hs, hif⟩ := (tracks_trace label target stats ws).stretch d hd
    rw [ha, if_pos rfl] at hif
    obtain ⟨p, u, downFor', error, q, rfl, -, -⟩ := hif
    refine ⟨now, rfl, hl, ht, before ++ p, u, downFor', error, q, ?_, fun x hx => ?_⟩
    · rw [hpre, htr, List.append_assoc]
    · exact hs.no_up x (List.mem_append_right p (List.mem_cons_of_mem _ hx))
  · intro before s since address now e post h hclosed _ hquiet
    obtain ⟨ws, ws', hvs, hpre, he⟩ := trace_eq_append_cons h
    have htracks := tracks_trace label target stats ws
    rw [← hpre] at htracks
    rw [he]
    exact emitted_up_of_quiet htracks hclosed hquiet address now

/-- Knobs that alert after so many seconds. -/
def demoKnobs (unreachableAfter : ℕ) : RuntimeKnobs :=
  .fromSettings { Settings.default with unreachableAfterSecs := unreachableAfter }

/-- A blip below the threshold, then an outage that alerts once the threshold is lowered. -/
def demoVerdicts : List Verdict :=
  [.down "refused".toList (demoKnobs 60) 0 0, .up none (secs 5),
    .down "refused".toList (demoKnobs 60) (secs 10) (secs 10), .hold,
    .down "timed out".toList (demoKnobs 20) (secs 40) (secs 40),
    .down "timed out".toList (demoKnobs 20) (secs 70) (secs 70), .up none (secs 80)]

theorem outage_law_demo :
    OutageLaw "l".toList "t".toList
        (trace "l".toList "t".toList (freshRecord (.withProtocol "l".toList .tcp)) demoVerdicts) ∧
      (observeAll "l".toList "t".toList (freshRecord (.withProtocol "l".toList .tcp))
          demoVerdicts).alerts.reverse =
        [.targetUnreachable "l".toList "t".toList (secs 30) "timed out".toList,
          .targetRecovered "l".toList "t".toList (secs 70) none] := by
  obtain ⟨hlaw, -, -⟩ := outage_law "l".toList "t".toList (.withProtocol "l".toList .tcp)
    demoVerdicts (by decide)
  exact ⟨hlaw, by decide⟩

/-! ## The verdicts of the TCP monitor -/

/-- The alerts that `record_up` and `record_down` raised. -/
def outageAlerts (alerts : List Alert) : List Alert :=
  alerts.filter fun
    | .dnsChanged _ _ _ _ => false
    | _ => true

/-- Two records that agree on the outage. -/
structure SameOutage (r r' : Record) : Prop where
  down : r.down = r'.down
  gauge : r.stats.targetReachable = r'.stats.targetReachable
  alerts : outageAlerts r.alerts = outageAlerts r'.alerts

section Simulation

variable {label target : Str} {r r' : Record}

/-- A verdict does the same to records that agree on the outage. -/
lemma SameOutage.observe (h : SameOutage r r') (v : Verdict) :
    SameOutage (observe label target r v) (observe label target r' v) := by
  obtain ⟨hdown, hgauge, halerts⟩ := h
  cases v with
  | up address now =>
    cases hd : r.down with
    | none =>
      have hd' : r'.down = none := hdown.symm.trans hd
      simp only [Monitor.observe, recordUp, hd, hd']
      exact ⟨rfl, rfl, halerts⟩
    | some d =>
      have hd' : r'.down = some d := hdown.symm.trans hd
      simp only [Monitor.observe, recordUp, hd, hd']
      refine ⟨rfl, rfl, ?_⟩
      cases d.alerted with
      | true => simpa [outageAlerts] using halerts
      | false => exact halerts
  | down error knobs opened now =>
    simp only [Monitor.observe, recordDown, ← hdown]
    split
    · refine ⟨rfl, rfl, ?_⟩
      simpa [outageAlerts] using halerts
    · exact ⟨rfl, rfl, halerts⟩
  | hold => exact ⟨hdown, hgauge, halerts⟩

/-- A changed DNS answer has no part in the outage. -/
lemma SameOutage.reportDnsChange (h : SameOutage r r') (host : Str) (addrs : List IpAddr) :
    SameOutage (reportDnsChange label host r addrs) r' := by
  have hgauge : (r.stats.observeAddrs addrs).2.targetReachable = r.stats.targetReachable := by
    simp only [ForwarderStats.observeAddrs]
    split
    · split <;> rfl
    · rfl
  simp only [Monitor.reportDnsChange]
  split
  · rename_i old stats heq
    rw [heq] at hgauge
    refine ⟨h.down, hgauge.trans h.gauge, ?_⟩
    simpa [outageAlerts] using h.alerts
  · rename_i stats heq
    rw [heq] at hgauge
    exact ⟨h.down, hgauge.trans h.gauge, h.alerts⟩

end Simulation

/-- The record of a monitor is that of a sequence of verdicts taken until now. -/
def FollowsVerdicts (label target : Str) (stats : ForwarderStats) (clock : ℕ) (r : Record) : Prop :=
  ∃ vs : List Verdict, (vs.flatMap Verdict.readings).Pairwise (· ≤ ·) ∧
    (∀ t ∈ vs.flatMap Verdict.readings, t ≤ clock) ∧
    SameOutage r (observeAll label target (freshRecord stats) vs)

section Follows

variable {label target : Str} {stats : ForwarderStats} {clock clock' : ℕ} {r : Record}

lemma FollowsVerdicts.mono (h : FollowsVerdicts label target stats clock r)
    (hclock : clock ≤ clock') : FollowsVerdicts label target stats clock' r := by
  obtain ⟨vs, hsorted, hle, hsame⟩ := h
  exact ⟨vs, hsorted, fun t ht => (hle t ht).trans hclock, hsame⟩

lemma FollowsVerdicts.congr (h : FollowsVerdicts label target stats clock r) {r' : Record}
    (hdown : r'.down = r.down) (hgauge : r'.stats.targetReachable = r.stats.targetReachable)
    (halerts : r'.alerts = r.alerts) : FollowsVerdicts label target stats clock r' := by
  obtain ⟨vs, hsorted, hle, hsame⟩ := h
  refine ⟨vs, hsorted, hle, hdown.trans hsame.down, hgauge.trans hsame.gauge, ?_⟩
  rw [halerts, hsame.alerts]

lemma FollowsVerdicts.reportDnsChange (h : FollowsVerdicts label target stats clock r)
    (l host : Str) (addrs : List IpAddr) :
    FollowsVerdicts label target stats clock (reportDnsChange l host r addrs) := by
  obtain ⟨vs, hsorted, hle, hsame⟩ := h
  exact ⟨vs, hsorted, hle, hsame.reportDnsChange host addrs⟩

/-- One more verdict, at readings not before the clock. -/
lemma FollowsVerdicts.observe (h : FollowsVerdicts label target stats clock r) (v : Verdict)
    (hv : v.readings.Pairwise (· ≤ ·)) (hlower : ∀ t ∈ v.readings, clock ≤ t)
    (hupper : ∀ t ∈ v.readings, t ≤ clock') (hclock : clock ≤ clock') :
    FollowsVerdicts label target stats clock' (observe label target r v) := by
  obtain ⟨vs, hsorted, hle, hsame⟩ := h
  refine ⟨vs ++ [v], ?_, ?_, ?_⟩
  · rw [List.flatMap_append, List.flatMap_singleton]
    exact List.pairwise_append.mpr
      ⟨hsorted, hv, fun t ht t' ht' => (hle t ht).trans (hlower t' ht')⟩
  · intro t ht
    rw [List.flatMap_append, List.flatMap_singleton] at ht
    rcases List.mem_append.mp ht with ht | ht
    · exact (hle t ht).trans hclock
    · exact hupper t ht
  · rw [observeAll_snoc]
    exact hsame.observe v

lemma followsVerdicts_fresh : FollowsVerdicts label target stats clock (freshRecord stats) :=
  ⟨[], List.Pairwise.nil, by simp, rfl, rfl, rfl⟩

end Follows

namespace Tcp

/-- The monitor's record follows a sequence of verdicts. -/
def Follows (cfg : ForwarderConfig) (stats : ForwarderStats) (s : State) : Prop :=
  s.cfg = cfg ∧ FollowsVerdicts cfg.label (target cfg) stats s.clock s.record

variable {cfg : ForwarderConfig} {stats : ForwarderStats}

/-- A skipped probe is an "up" without an address. -/
lemma follows_decideProbe {s : State} (h : Follows cfg stats s) (interval now : ℕ)
    (hnow : s.clock ≤ now) : Follows cfg stats (decideProbe s interval now) := by
  obtain ⟨rfl, h⟩ := h
  simp only [decideProbe]
  split
  · exact ⟨rfl, h.observe (.up none now) (by simp [Verdict.readings])
      (by simpa [Verdict.readings] using hnow) (by simp [Verdict.readings]) hnow⟩
  · exact ⟨rfl, h.mono hnow⟩

/-- A probe that ended is an "up" with its address, or a "down". -/
lemma follows_recordProbe {s : State} (h : Follows cfg stats s) (o : ProbeOutcome)
    {opened now : ℕ} (hopened : s.clock ≤ opened) (hnow : opened ≤ now) :
    Follows cfg stats (recordProbe s o opened now) := by
  obtain ⟨rfl, h⟩ := h
  have hdns : FollowsVerdicts s.cfg.label (target s.cfg) stats s.clock
      (if o.addrs.isEmpty then s.record
        else reportDnsChange s.cfg.label s.cfg.remoteHost s.record o.addrs) := by
    split
    · exact h
    · exact h.reportDnsChange s.cfg.label s.cfg.remoteHost o.addrs
  refine ⟨rfl, ?_⟩
  simp only [recordProbe]
  cases o.result with
  | ok address =>
    exact hdns.observe (.up (some address) now) (by simp [Verdict.readings])
      (by simpa [Verdict.readings] using hopened.trans hnow) (by simp [Verdict.readings])
      (hopened.trans hnow)
  | error e =>
    refine hdns.observe (.down e s.knobs opened now) ?_ ?_ ?_ (hopened.trans hnow)
    · simpa [Verdict.readings] using hnow
    · simpa [Verdict.readings] using ⟨hopened, hopened.trans hnow⟩
    · simpa [Verdict.readings] using hnow

lemma follows_step (s : State) (i : Input) (s' : State) (h : Follows cfg stats s)
    (hstep : step s i = some s') : Follows cfg stats s' := by
  cases move_of_step hstep with
  | connectOk now hclock => exact ⟨h.1, (h.2.mono hclock).congr rfl rfl rfl⟩
  | connectFailed => exact ⟨h.1, h.2.congr rfl rfl rfl⟩
  | reload | cancel => exact h
  | first now interval start _ _ hclock => exact follows_decideProbe h interval now hclock
  | timer now interval start previous _ _ hclock => exact follows_decideProbe h interval now hclock
  | kicked now interval start previous _ _ hclock =>
    have hkicked : Follows cfg stats { s with
        record := { s.record with stats := { s.record.stats with probeKick := false } } } :=
      ⟨h.1, h.2.congr rfl rfl rfl⟩
    exact follows_decideProbe hkicked interval now hclock
  | kickedEarly now interval start previous _ _ hclock =>
    exact ⟨h.1, (h.2.mono hclock).congr rfl rfl rfl⟩
  | spaced now interval wake _ hclock => exact follows_decideProbe h interval now hclock
  | probed outcome opened now _ hopened hnow => exact follows_recordProbe h outcome hopened hnow

/-- Every run of the TCP monitor records a sequence of verdicts, taken at a clock that never goes
back, and so its alerts obey the law above. -/
theorem run_follows_verdicts {knobs : RuntimeKnobs} {is : List Input} {s : State}
    (h : run step (init cfg stats knobs) is = some s) :
    FollowsVerdicts cfg.label (target cfg) stats s.clock s.record :=
  (run_invariant (I := Follows cfg stats) follows_step ⟨rfl, followsVerdicts_fresh⟩ h).2

end Tcp

end Rfw.Monitor
