/-
# Observed addresses

Connections, the monitor and the refresher of a forwarder all record the addresses that the
target's name resolves to, and whoever sees them change raises the alert.  `observe_addrs` takes a
mutex, so their calls come one after the other, in any order.  The refresher also publishes its
answers to the listener.

Both places compare the answers as sets: the addresses of an answer may come in another order, or
twice.
-/
import Rfw.Udp.Forwarder

namespace Rfw.Udp

open Lib

/-- The stats after some calls of `observe_addrs`. -/
def observed (s : ForwarderStats) (calls : List (List IpAddr)) : ForwarderStats :=
  calls.foldl (fun s addrs => (s.observeAddrs addrs).2) s

/-- The changes that the callers report, each as the old and the new addresses of the alert. -/
def changes : ForwarderStats → List (List IpAddr) → List (List IpAddr × List IpAddr)
  | _, [] => []
  | s, addrs :: calls =>
      let (old, s') := s.observeAddrs addrs
      (old.map fun old => (old, sortDedup addrs)).toList ++ changes s' calls

/-- The changes lead from one set to another: each of them starts where the one before it ended. -/
def Leads : List IpAddr → List (List IpAddr × List IpAddr) → List IpAddr → Prop
  | a, [], b => a = b
  | a, (old, new) :: rest, b => old = a ∧ new ≠ a ∧ Leads new rest b

/-! ## One call -/

section Call

variable {s : ForwarderStats} {addrs : List IpAddr}

lemma observeAddrs_of_none (h : s.lastAddrs = none) :
    s.observeAddrs addrs = (none, { s with lastAddrs := some (sortDedup addrs) }) := by
  simp only [ForwarderStats.observeAddrs, h]

lemma observeAddrs_of_eq (h : s.lastAddrs = some (sortDedup addrs)) :
    s.observeAddrs addrs = (none, s) := by
  simp only [ForwarderStats.observeAddrs, h, if_true]

lemma observeAddrs_of_ne {prev : List IpAddr} (h : s.lastAddrs = some prev)
    (hne : prev ≠ sortDedup addrs) :
    s.observeAddrs addrs = (some prev, { s with lastAddrs := some (sortDedup addrs) }) := by
  simp only [ForwarderStats.observeAddrs, h, if_neg hne]

/-- A call leaves its addresses behind, in sorted form. -/
lemma lastAddrs_observeAddrs (s : ForwarderStats) (addrs : List IpAddr) :
    (s.observeAddrs addrs).2.lastAddrs = some (sortDedup addrs) := by
  cases hlast : s.lastAddrs with
  | none => rw [observeAddrs_of_none hlast]
  | some prev =>
    by_cases heq : prev = sortDedup addrs
    · subst heq
      rw [observeAddrs_of_eq hlast, hlast]
    · rw [observeAddrs_of_ne hlast heq]

/-- What a call returns when there was one before it. -/
lemma observeAddrs_eq_some_iff {prev : List IpAddr} (h : s.lastAddrs = some (sortDedup prev))
    (addrs old : List IpAddr) :
    (s.observeAddrs addrs).1 = some old ↔
      (¬ ∀ x, x ∈ addrs ↔ x ∈ prev) ∧ old = sortDedup prev := by
  by_cases heq : sortDedup prev = sortDedup addrs
  · have hset := sortDedup_eq_iff.mp heq.symm
    rw [observeAddrs_of_eq (h.trans (congrArg some heq))]
    exact iff_of_false (by simp) fun hold => hold.1 hset
  · have hset : ¬ ∀ x, x ∈ addrs ↔ x ∈ prev := fun hset => heq (sortDedup_eq_iff.mpr hset).symm
    rw [observeAddrs_of_ne h heq]
    constructor
    · intro hold
      exact ⟨hset, (Option.some.inj hold).symm⟩
    · rintro ⟨-, rfl⟩
      rfl

end Call

/-! ## All calls -/

lemma observed_concat (s : ForwarderStats) (calls : List (List IpAddr)) (addrs : List IpAddr) :
    observed s (calls ++ [addrs]) = ((observed s calls).observeAddrs addrs).2 := by
  rw [observed, List.foldl_append]
  rfl

/-- After any calls the last one is remembered. -/
lemma lastAddrs_observed (s : ForwarderStats) (calls : List (List IpAddr)) (prev : List IpAddr) :
    (observed s (calls ++ [prev])).lastAddrs = some (sortDedup prev) := by
  rw [observed_concat]
  exact lastAddrs_observeAddrs _ prev

/-- From one call to the last, the reported changes lead from its set to the last one. -/
lemma leads_changes {s : ForwarderStats} {first : List IpAddr}
    (h : s.lastAddrs = some (sortDedup first)) (calls : List (List IpAddr)) :
    Leads (sortDedup first) (changes s calls) (sortDedup ((first :: calls).getLast (by simp))) := by
  induction calls generalizing s first with
  | nil => rfl
  | cons addrs calls ih =>
    have hrest := ih (lastAddrs_observeAddrs s addrs)
    rw [List.getLast_cons (by simp), changes]
    by_cases heq : sortDedup first = sortDedup addrs
    · rw [observeAddrs_of_eq (h.trans (congrArg some heq))] at hrest ⊢
      rw [heq]
      exact hrest
    · rw [observeAddrs_of_ne h heq] at hrest ⊢
      exact ⟨rfl, Ne.symm heq, hrest⟩

/-! ## The published addresses -/

/-- An answer with the same set of addresses is not published. -/
lemma publish_of_same {w : Watch} {addrs : List SocketAddr} (h : ∀ x, x ∈ addrs ↔ x ∈ w.value) :
    w.publish addrs = w := by
  rw [Watch.publish, if_pos (sameAddrSet_iff.mpr fun x => (h x).symm)]

/-- An answer with another set is. -/
lemma publish_of_not_same {w : Watch} {addrs : List SocketAddr}
    (h : ¬ ∀ x, x ∈ addrs ↔ x ∈ w.value) :
    w.publish addrs = { w with value := addrs, version := w.version + 1 } := by
  rw [Watch.publish, if_neg fun hsame => h fun x => (sameAddrSet_iff.mp hsame x).symm]

/-- A round of the refresher with an answer publishes it. -/
lemma refresh_targets {e : Engine} {lookup : Except Str (List IpAddr)} {addrs : List SocketAddr}
    (h : resolveTargets e.cfg lookup = .ok addrs) :
    (refresh lookup e).targets = e.targets.publish addrs := by
  simp only [refresh, h]

/-- **Changes of the addresses are reported once each.**  The first call reports nothing; a later
one reports the sorted set of the call before it exactly when the sets differ; the reported changes
form a chain from the first set to the last.  The refresher publishes an answer exactly when it
differs as a set from the published one. -/
theorem observeAddrs_reports (label : Str) (protocol : Protocol) :
    (∀ addrs, ((ForwarderStats.withProtocol label protocol).observeAddrs addrs).1 = none) ∧
    (∀ calls prev addrs old,
      let s := observed (.withProtocol label protocol) (calls ++ [prev])
      ((s.observeAddrs addrs).1 = some old ↔
        (¬ ∀ x, x ∈ addrs ↔ x ∈ prev) ∧ old.Pairwise (· < ·) ∧ ∀ x, x ∈ old ↔ x ∈ prev) ∧
      ((s.observeAddrs addrs).1 = some old → s.lastAddrs = some old)) ∧
    (∀ first calls, Leads (sortDedup first)
      (changes (.withProtocol label protocol) (first :: calls))
      (sortDedup ((first :: calls).getLast (by simp)))) ∧
    (∀ a b, sameAddrSet a b = true ↔ ∀ x, x ∈ a ↔ x ∈ b) ∧
    (∀ e lookup addrs, resolveTargets e.cfg lookup = .ok addrs →
      ((∀ x, x ∈ addrs ↔ x ∈ e.targets.value) → (refresh lookup e).targets = e.targets) ∧
      ((¬ ∀ x, x ∈ addrs ↔ x ∈ e.targets.value) →
        (refresh lookup e).targets =
          { e.targets with value := addrs, version := e.targets.version + 1 })) := by
  have hfirst : ∀ addrs, (ForwarderStats.withProtocol label protocol).observeAddrs addrs =
      (none, { ForwarderStats.withProtocol label protocol with
        lastAddrs := some (sortDedup addrs) }) := fun _ => observeAddrs_of_none rfl
  refine ⟨fun addrs => by rw [hfirst], fun calls prev addrs old => ?_, fun first calls => ?_,
    fun _ _ => sameAddrSet_iff, fun e lookup addrs h => ?_⟩
  · have hlast := lastAddrs_observed (.withProtocol label protocol) calls prev
    have hcall := observeAddrs_eq_some_iff hlast addrs old
    have hcanonical : old = sortDedup prev ↔ old.Pairwise (· < ·) ∧ ∀ x, x ∈ old ↔ x ∈ prev := by
      constructor
      · rintro rfl
        exact ⟨pairwise_sortDedup prev, fun _ => mem_sortDedup⟩
      · rintro ⟨hsorted, hmem⟩
        refine hsorted.eq_of_mem_iff (pairwise_sortDedup prev) fun x => ?_
        rw [hmem, mem_sortDedup]
    refine ⟨hcall.trans (and_congr_right fun _ => hcanonical), fun hold => ?_⟩
    rw [(hcall.mp hold).2]
    exact hlast
  · rw [changes, hfirst]
    exact leads_changes rfl calls
  · rw [refresh_targets h]
    exact ⟨publish_of_same, publish_of_not_same⟩

end Rfw.Udp
