/-
# The startup report

`probe_all` probes every configured target once, in tasks of their own, and reports them in the
order of the configuration whatever the order in which they finish.  `probe_target` goes the way of
a client's connection: the same lookup and the same race of connects.

`startup_report` states both.
-/
import Rfw.Forwarder.Accept
import Rfw.Monitor.Udp
import Rfw.Notify.Render
import Mathlib.Data.List.Sort

namespace Rfw.Monitor

open Lib Forwarder Notify

/-- What a probe meets: the answer of the resolver, the connects in the order in which they finish,
and the time that the lookup takes. -/
structure Trial where
  literal : Option IpAddr
  lookup : Except Str (List IpAddr)
  completions : List Completion
  elapsed : ℕ

/-- `probe_target`, with the latency in nanoseconds. -/
def probeTarget (cfg : ForwarderConfig) (t : Trial) :
    List IpAddr × Except Str (SocketAddr × ℕ) :=
  match resolveTargets cfg t.literal t.lookup with
  | .error e => ([], .error e)
  | .ok targets =>
      let addrs := if t.literal.isSome then [] else targets.map SocketAddr.ip
      match connectRacing t.completions with
      | (.ok addr, latency) => (addrs, .ok (addr, latency * 1000000))
      | (.error e, _) => (addrs, .error e)

/-- The outcome of a probe, as the report shows it. -/
def probed (cfg : ForwarderConfig) (t : Trial) : SocketAddr × ℕ ⊕ Str :=
  match cfg.protocol with
  | .tcp =>
      match (probeTarget cfg t).2 with
      | .ok answer => .inl answer
      | .error e => .inr e
  | .udp =>
      let lookup := resolveTargets cfg t.literal t.lookup
      match (Udp.probeUdpTarget t.literal.isSome lookup).result with
      | .ok addr => .inl (addr, t.elapsed)
      | .error e => .inr e

/-- The report of one task. -/
def report (cfg : ForwarderConfig) (t : Trial) : ProbeReport where
  label := cfg.label
  target := cfg.remoteHost ++ [':'] ++ Str.decimal cfg.remotePort.toNat
  protocol := cfg.protocol
  outcome := probed cfg t

/-- A task of `probe_all`; `none` is one that panics. -/
abbrev Task := ForwarderConfig × Option Trial

/-- What `join_next` yields for a task, with its place in the configuration. -/
def joined (task : Task × ℕ) : Option (ℕ × ProbeReport) :=
  task.1.2.map fun t => (task.2, report task.1.1 t)

/-- `probe_all`, given what `join_next` yields. -/
def probeAll (finished : List (Option (ℕ × ProbeReport))) : List ProbeReport :=
  ((finished.filterMap id).insertionSort fun a b => a.1 ≤ b.1).map Prod.snd

/-- The tasks finish in any order. -/
def Finished (tasks : List Task) (finished : List (Option (ℕ × ProbeReport))) : Prop :=
  finished.Perm (tasks.zipIdx.map joined)

/-- The reports in the order of the configuration. -/
def reports (tasks : List Task) : List ProbeReport :=
  tasks.filterMap fun task => task.2.map (report task.1)

/-! ## The order of the reports -/

/-- Sorting by distinct keys undoes any permutation of a sorted list. -/
lemma insertionSort_eq_of_perm {α : Type} {l l' : List (ℕ × α)}
    (hsorted : l.Pairwise fun a b => a.1 < b.1) (hperm : l'.Perm l) :
    l'.insertionSort (fun a b => a.1 ≤ b.1) = l := by
  have hkeys : (l.map Prod.fst).Nodup :=
    List.pairwise_map.mpr (hsorted.imp fun hlt => hlt.ne)
  have hall := (List.perm_insertionSort (fun a b : ℕ × α => a.1 ≤ b.1) l').trans hperm
  refine hall.eq_of_pairwise (fun a b ha hb hab hba => ?_) ?_ (hsorted.imp fun hlt => hlt.le)
  · exact List.inj_on_of_nodup_map hkeys (hall.subset ha) hb (Nat.le_antisymm hab hba)
  · exact List.pairwise_insertionSort (fun a b : ℕ × α => a.1 ≤ b.1) l'

lemma filterMap_joined_snd (tasks : List Task) (k : ℕ) :
    ((tasks.zipIdx k).filterMap joined).map Prod.snd = reports tasks := by
  induction tasks generalizing k with
  | nil => rfl
  | cons task tasks ih =>
    obtain ⟨cfg, trial⟩ := task
    rw [List.zipIdx_cons]
    cases trial with
    | none => exact ih (k + 1)
    | some t => exact congrArg (report cfg t :: ·) (ih (k + 1))

lemma filterMap_joined_sorted (tasks : List Task) (k : ℕ) :
    ((tasks.zipIdx k).filterMap joined).Pairwise (fun a b => a.1 < b.1) ∧
      ∀ r ∈ (tasks.zipIdx k).filterMap joined, k ≤ r.1 := by
  induction tasks generalizing k with
  | nil => exact ⟨.nil, nofun⟩
  | cons task tasks ih =>
    obtain ⟨cfg, trial⟩ := task
    obtain ⟨hsorted, hle⟩ := ih (k + 1)
    have hlt : ∀ r ∈ (tasks.zipIdx (k + 1)).filterMap joined, k < r.1 := hle
    rw [List.zipIdx_cons]
    cases trial with
    | none => exact ⟨hsorted, fun r hr => (hlt r hr).le⟩
    | some t =>
      refine ⟨List.pairwise_cons.mpr ⟨hlt, hsorted⟩, ?_⟩
      rintro r hr
      obtain rfl | hr := List.mem_cons.mp hr
      · exact le_refl _
      · exact (hlt r hr).le

lemma probeAll_eq {tasks : List Task} {finished : List (Option (ℕ × ProbeReport))}
    (h : Finished tasks finished) : probeAll finished = reports tasks := by
  have hperm : (finished.filterMap id).Perm (tasks.zipIdx.filterMap joined) := by
    have hmap := h.filterMap id
    rwa [List.filterMap_map, Function.id_comp] at hmap
  rw [probeAll, insertionSort_eq_of_perm (filterMap_joined_sorted tasks 0).1 hperm,
    filterMap_joined_snd]

lemma mem_reports {tasks : List Task} {r : ProbeReport} :
    r ∈ reports tasks ↔ ∃ cfg t, (cfg, some t) ∈ tasks ∧ report cfg t = r := by
  simp only [reports, List.mem_filterMap, Option.map_eq_some_iff]
  constructor
  · rintro ⟨⟨cfg, trial⟩, hmem, t, rfl, hr⟩
    exact ⟨cfg, t, hmem, hr⟩
  · rintro ⟨cfg, t, hmem, hr⟩
    exact ⟨(cfg, some t), hmem, t, rfl, hr⟩

/-- The message is an information when every target answered. -/
lemma severity_started (rs : List ProbeReport) :
    Event.severity (.started rs) = .info ↔ ∀ r ∈ rs, ∃ answer, r.outcome = .inl answer := by
  have hone (r : ProbeReport) : r.isErr = false ↔ ∃ answer, r.outcome = .inl answer := by
    rw [ProbeReport.isErr]
    cases r.outcome <;> simp
  have hany : rs.any ProbeReport.isErr = false ↔ ∀ r ∈ rs, ∃ answer, r.outcome = .inl answer := by
    rw [List.any_eq_false]
    exact forall₂_congr fun r _ => by rw [← hone r, Bool.not_eq_true]
  rw [← hany, Event.severity]
  cases rs.any ProbeReport.isErr <;> simp

/-! ## The way of a connection -/

/-- How a connection fares that meets what a probe met: it reaches the remote address, or fails. -/
def fares (cfg : ForwarderConfig) (stats : ForwarderStats) (c : Conn) (t : Trial) (now : ℕ) :
    Option Stage := do
  let (c, stats, _) ← c.step cfg t.literal stats (.resolved t.lookup)
  if c.stage = .finished then return c.stage
  let (c, _, _) ← c.step cfg t.literal stats (.raced t.completions now)
  return c.stage

/-- After its lookup a connection races for the address, if there is one. -/
lemma fares_of_resolved {cfg : ForwarderConfig} {stats : ForwarderStats} {c : Conn} {t : Trial}
    {targets : List SocketAddr} (hc : c.stage = .resolving)
    (hresolved : resolveTargets cfg t.literal t.lookup = .ok targets) (now : ℕ) :
    fares cfg stats c t now = some
      (match (connectRacing t.completions).1 with
      | .ok addr => .copying addr
      | .error _ => .finished) := by
  have hraced (s : ForwarderStats) : ((Conn.step cfg t.literal s
      { c with stage := .connecting targets } (.raced t.completions now)).bind fun r =>
        some r.1.stage) = some
      (match (connectRacing t.completions).1 with
      | .ok addr => .copying addr
      | .error _ => .finished) := by
    simp only [Conn.step]
    cases (connectRacing t.completions).1 <;> rfl
  have hlookup : ∃ s events, c.step cfg t.literal stats (.resolved t.lookup) =
      some ({ c with stage := .connecting targets }, s, events) := by
    simp only [Conn.step, hc, if_true, hresolved]
    split
    · exact ⟨_, _, rfl⟩
    · split <;> exact ⟨_, _, rfl⟩
  obtain ⟨s, events, hlookup⟩ := hlookup
  rw [fares, hlookup]
  exact hraced s

/-- A probe reaches an address exactly when a connection would. -/
lemma probeTarget_agrees (cfg : ForwarderConfig) (stats : ForwarderStats) {c : Conn}
    (hc : c.stage = .resolving) (t : Trial) (now : ℕ) :
    fares cfg stats c t now = some
      (match (probeTarget cfg t).2 with
      | .ok (addr, _) => .copying addr
      | .error _ => .finished) := by
  cases hresolved : resolveTargets cfg t.literal t.lookup with
  | error e =>
    have hlookup : c.step cfg t.literal stats (.resolved t.lookup) =
        some ({ c with stage := .finished }, stats.markConnectFailed, []) := by
      simp only [Conn.step, hc, if_true, hresolved]
    rw [fares, hlookup, probeTarget, hresolved]
    rfl
  | ok targets =>
    rw [fares_of_resolved hc hresolved, probeTarget, hresolved]
    obtain ⟨result, latency⟩ := connectRacing t.completions
    cases result <;> rfl

/-- **The startup report is in order, and honest.**  In whatever order the tasks finish, and
whichever of them panic, the report lists the other ones in the order of the configuration; its
message is a plain information exactly when none of the listed targets is reported as failed; and a
TCP target is reported as reachable exactly when a client's connection that meets the same answers
would reach it, at the same address. -/
theorem startup_report {tasks : List Task} {finished : List (Option (ℕ × ProbeReport))}
    (h : Finished tasks finished) :
    probeAll finished = reports tasks ∧
    (Event.severity (.started (probeAll finished)) = .info ↔
      ∀ cfg t, (cfg, some t) ∈ tasks → ∃ answer, (report cfg t).outcome = .inl answer) ∧
    ∀ cfg t, (cfg, some t) ∈ tasks → cfg.protocol = .tcp →
      ∀ stats c now addr, c.stage = .resolving →
        ((∃ latency, (report cfg t).outcome = .inl (addr, latency)) ↔
          fares cfg stats c t now = some (.copying addr)) := by
  have hreports := probeAll_eq h
  refine ⟨hreports, ?_, fun cfg t _ htcp stats c now addr hc => ?_⟩
  · rw [hreports, severity_started]
    exact ⟨fun hall cfg t ht => hall _ (mem_reports.mpr ⟨cfg, t, ht, rfl⟩), fun hall r hr => by
      obtain ⟨cfg, t, ht, rfl⟩ := mem_reports.mp hr
      exact hall cfg t ht⟩
  · rw [probeTarget_agrees cfg stats hc t now, report, probed, htcp]
    cases (probeTarget cfg t).2 with
    | error e => simp
    | ok answer =>
      obtain ⟨addr', latency⟩ := answer
      simp

/-- A target that answers, a task that panics and a target without a name. -/
def threeTasks : List Task :=
  [(⟨"127.0.0.1".toList, 8080, "10.0.0.1".toList, 80, .tcp⟩,
      some ⟨some (.v4 0x0A000001), .ok [], [⟨3, .ok (.v4 0x0A000001 80, .ok ())⟩], 0⟩),
    (⟨"127.0.0.1".toList, 8081, "a".toList, 80, .tcp⟩, none),
    (⟨"127.0.0.1".toList, 53, "b".toList, 53, .udp⟩,
      some ⟨none, .error "no record".toList, [], 0⟩)]

theorem startup_report_threeTasks :
    probeAll (threeTasks.zipIdx.map joined).reverse = reports threeTasks ∧
      (reports threeTasks).map ProbeReport.isErr = [false, true] :=
  ⟨(startup_report (List.reverse_perm (threeTasks.zipIdx.map joined))).1, by decide⟩

end Rfw.Monitor
