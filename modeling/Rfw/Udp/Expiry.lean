/-
# Idle expiry

A session lives as long as there is activity on it, and the sweep closes what has been silent for
the timeout.  The timeout can change from one sweep to the next.

`idle_expiry_exact` says for every run that the recorded time of a session is the latest of its
activity, and that a sweep closes exactly what is dead or silent.
-/
import Rfw.Lib.Transition
import Rfw.Udp.Stamps
import Rfw.Udp.Targets

namespace Rfw.Udp

open Lib

/-! ## Every run -/

/-- A session showed activity stamped `t` in a run. -/
def Occurred (e₀ : Engine) (acts : List Action) (sid t : ℕ) : Prop :=
  ∃ pre a post m m', acts = pre ++ a :: post ∧ run step e₀ pre = some m ∧ step m a = some m' ∧
    Active m m' sid a t

/-- One more action. -/
lemma occurred_append {e₀ e e' : Engine} {acts : List Action} {a : Action} {sid t : ℕ}
    (hrun : run step e₀ acts = some e) (hstep : step e a = some e') :
    Occurred e₀ (acts ++ [a]) sid t ↔ Occurred e₀ acts sid t ∨ Active e e' sid a t := by
  constructor
  · rintro ⟨pre, b, post, m, m', hacts, hpre, hb, hactive⟩
    rcases post.eq_nil_or_concat with rfl | ⟨post, c, rfl⟩
    · obtain ⟨rfl, hlast⟩ := List.append_inj' hacts rfl
      obtain rfl : a = b := by simpa using hlast
      obtain rfl : e = m := Option.some.inj (hrun.symm.trans hpre)
      obtain rfl : e' = m' := Option.some.inj (hstep.symm.trans hb)
      exact .inr hactive
    · have hsplit : acts ++ [a] = (pre ++ b :: post) ++ [c] := by
        rw [hacts]
        simp
      obtain ⟨rfl, -⟩ := List.append_inj' hsplit rfl
      exact .inl ⟨pre, b, post, m, m', rfl, hpre, hb, hactive⟩
  · rintro (⟨pre, b, post, m, m', rfl, hpre, hb, hactive⟩ | hactive)
    · exact ⟨pre, b, post ++ [a], m, m', by simp, hpre, hb, hactive⟩
    · exact ⟨acts, a, [], e, e', rfl, hrun, hstep, hactive⟩

/-- The recorded times after a run. -/
structure Recorded (e₀ : Engine) (acts : List Action) (e : Engine) : Prop where
  run_eq : run step e₀ acts = some e
  lt_fresh : ∀ sid t, Occurred e₀ acts sid t → sid < e.fresh
  greatest : ∀ sid, sid < e.fresh →
    IsGreatest {t | Occurred e₀ acts sid t} (e.heap sid).lastActivityMs

lemma Recorded.step {e₀ e e' : Engine} {acts : List Action} {a : Action}
    (h : Recorded e₀ acts e) (hstep : step e a = some e') : Recorded e₀ (acts ++ [a]) e' := by
  have htimed := timed_step hstep
  have hoccurred : ∀ {sid t}, Occurred e₀ (acts ++ [a]) sid t ↔
      Occurred e₀ acts sid t ∨ Active e e' sid a t := occurred_append h.run_eq hstep
  constructor
  · refine run_append.mpr ⟨e, h.run_eq, ?_⟩
    rw [run_cons, hstep]
    rfl
  · intro sid t hocc
    rcases hoccurred.mp hocc with hold | hactive
    · exact (h.lt_fresh sid t hold).trans_le htimed.fresh
    · exact hactive.lt_fresh
  · intro sid hsid
    constructor
    · -- the recorded time is the old one or that of the new activity
      rcases htimed.source sid hsid with ⟨hold, hsame⟩ | hactive
      · rw [hsame]
        exact hoccurred.mpr (.inl (h.greatest sid hold).1)
      · exact hoccurred.mpr (.inr hactive)
    · intro t hocc
      rcases hoccurred.mp hocc with hold | hactive
      · have hlt := h.lt_fresh sid t hold
        exact ((h.greatest sid hlt).2 hold).trans (htimed.mono sid hlt)
      · exact htimed.latest sid t hactive

lemma recorded_run {cfg : ForwarderConfig} {knobs : RuntimeKnobs} {literal : Option IpAddr}
    {udpLimit : ℕ} {acts : List Action} {e : Engine}
    (h : run step (Engine.start cfg knobs literal udpLimit) acts = some e) :
    Recorded (Engine.start cfg knobs literal udpLimit) acts e := by
  refine run_invariant_history (I := Recorded _) ?_ (fun _ _ _ _ => Recorded.step) h
  constructor
  · rfl
  · rintro sid t ⟨pre, a, post, m, m', hacts, -⟩
    cases pre <;> cases hacts
  · intro sid hsid
    cases hsid

/-- The recorded times never decrease. -/
lemma lastActivityMs_mono {e e' : Engine} {acts : List Action} (h : run step e acts = some e')
    {sid : ℕ} (hsid : sid < e.fresh) :
    (e.heap sid).lastActivityMs ≤ (e'.heap sid).lastActivityMs := by
  have hinv : sid < e'.fresh ∧ (e.heap sid).lastActivityMs ≤ (e'.heap sid).lastActivityMs := by
    refine run_invariant (I := fun m => sid < m.fresh ∧
      (e.heap sid).lastActivityMs ≤ (m.heap sid).lastActivityMs) ?_ ⟨hsid, le_rfl⟩ h
    rintro m a m' ⟨hlt, hle⟩ hstep
    have htimed := timed_step hstep
    exact ⟨hlt.trans_le htimed.fresh, hle.trans (htimed.mono sid hlt)⟩
  exact hinv.2

/-! ## The sweep -/

/-- The timeout in force, in milliseconds, as a sweep reads it. -/
def Engine.timeoutMs (e : Engine) : ℕ := min (e.knobs.udpSessionTimeout * 1000) (2 ^ 64 - 1)

lemma timeoutMs_pos (e : Engine) : 0 < e.timeoutMs := by
  have hmin : 0 < e.knobs.udpSessionTimeout := by
    unfold RuntimeKnobs.udpSessionTimeout
    omega
  unfold Engine.timeoutMs
  omega

/-- A session that a sweep at `nowMs` closes: it is dead, or silent for the timeout. -/
def Expired (e : Engine) (nowMs sid : ℕ) : Prop :=
  (e.heap sid).dead = true ∨ e.timeoutMs ≤ nowMs - (e.heap sid).lastActivityMs

/-- What a sweep at `nowMs` does. -/
structure Swept (nowMs : ℕ) (e e' : Engine) : Prop where
  table : ∀ c entry, e'.sessions.get? c = some entry ↔
    e.sessions.get? c = some entry ∧ ¬ Expired e nowMs entry.shared
  cancels : ∀ c entry, e.sessions.get? c = some entry → Expired e nowMs entry.shared →
    (e'.heap entry.shared).cancelled = true
  others : ∀ sid, (∀ c entry, e.sessions.get? c = some entry → Expired e nowMs entry.shared →
    entry.shared ≠ sid) → e'.heap sid = e.heap sid

/-- Closing the session of a client, seen from a session. -/
lemma heap_removeEntry {e : Engine} {client : SocketAddr} {sid : ℕ}
    (h : ∀ entry, e.sessions.get? client = some entry → entry.shared ≠ sid) :
    (e.removeEntry client).heap sid = e.heap sid := by
  rw [Engine.removeEntry]
  split
  · rfl
  · rename_i entry hget
    have hne : sid ≠ entry.shared := (h entry hget).symm
    simp only [Engine.dropShared]
    split <;> simp [Engine.closeEntry, Engine.modify, hne]

lemma cancelled_removeEntry (e : Engine) (client : SocketAddr) {sid : ℕ}
    (h : (e.heap sid).cancelled = true) : ((e.removeEntry client).heap sid).cancelled = true := by
  rw [Engine.removeEntry]
  split
  · exact h
  · rename_i entry hget
    by_cases hsid : sid = entry.shared
    · subst hsid
      simp only [Engine.dropShared]
      split <;> simp [Engine.closeEntry, Engine.modify]
    · simp only [Engine.dropShared]
      split <;> simp [Engine.closeEntry, Engine.modify, hsid, h]

lemma cancelled_removeEntry_self {e : Engine} {client : SocketAddr} {entry : SessionEntry}
    (h : e.sessions.get? client = some entry) :
    ((e.removeEntry client).heap entry.shared).cancelled = true := by
  rw [Engine.removeEntry, h]
  simp only [Engine.dropShared]
  split <;> simp [Engine.closeEntry, Engine.modify]

/-- Closing the sessions of some clients leaves the other sessions alone. -/
lemma heap_foldl_removeEntry {cs : List SocketAddr} {e : Engine} {sid : ℕ}
    (h : ∀ c ∈ cs, ∀ entry, e.sessions.get? c = some entry → entry.shared ≠ sid) :
    (cs.foldl Engine.removeEntry e).heap sid = e.heap sid := by
  induction cs generalizing e with
  | nil => rfl
  | cons client cs ih =>
    rw [List.foldl_cons, ih, heap_removeEntry (h client List.mem_cons_self)]
    intro c hc entry hget
    rw [get?_removeEntry] at hget
    split at hget
    · cases hget
    · exact h c (List.mem_cons_of_mem _ hc) entry hget

/-- Closing the sessions of some clients cancels them. -/
lemma cancelled_foldl_removeEntry {cs : List SocketAddr} {e : Engine} {client : SocketAddr}
    {entry : SessionEntry} (hmem : client ∈ cs) (hget : e.sessions.get? client = some entry) :
    ((cs.foldl Engine.removeEntry e).heap entry.shared).cancelled = true := by
  have hkept : ∀ (cs : List SocketAddr) (e : Engine), (e.heap entry.shared).cancelled = true →
      ((cs.foldl Engine.removeEntry e).heap entry.shared).cancelled = true := by
    intro cs
    induction cs with
    | nil => exact fun _ h => h
    | cons c cs ih => exact fun e h => ih _ (cancelled_removeEntry e c h)
  induction cs generalizing e with
  | nil => cases hmem
  | cons c cs ih =>
    rw [List.foldl_cons]
    by_cases hc : client = c
    · subst hc
      exact hkept cs _ (cancelled_removeEntry_self hget)
    · have hmem : client ∈ cs := (List.mem_cons.mp hmem).resolve_left hc
      refine ih hmem ?_
      rw [get?_removeEntry, if_neg hc]
      exact hget

/-- **The sweep closes exactly what has expired.** -/
lemma swept_sweep (nowMs : ℕ) (e : Engine) : Swept nowMs e (e.sweep nowMs) := by
  -- the clients whose sessions are closed
  have hgone : ∀ c, c ∈ (e.sessions.entries.filter fun entry =>
      !!((e.heap entry.2.shared).dead ||
        decide (e.timeoutMs ≤ nowMs - (e.heap entry.2.shared).lastActivityMs))).map Prod.fst ↔
      ∃ entry, e.sessions.get? c = some entry ∧ Expired e nowMs entry.shared := by
    intro c
    simp only [List.mem_map, List.mem_filter, Bool.not_not, Bool.or_eq_true, decide_eq_true_eq]
    constructor
    · rintro ⟨⟨c', entry⟩, ⟨hmem, hexpired⟩, rfl⟩
      exact ⟨entry, Table.get?_eq_some_iff.mpr hmem, hexpired⟩
    · rintro ⟨entry, hget, hexpired⟩
      exact ⟨(c, entry), ⟨Table.get?_eq_some_iff.mp hget, hexpired⟩, rfl⟩
  have hsweep : e.sweep nowMs = ((e.sessions.entries.filter fun entry =>
      !!((e.heap entry.2.shared).dead ||
        decide (e.timeoutMs ≤ nowMs - (e.heap entry.2.shared).lastActivityMs))).map
          Prod.fst).foldl Engine.removeEntry e := rfl
  rw [hsweep]
  constructor
  · intro c entry
    rw [get?_foldl_removeEntry]
    split_ifs with hmem
    · obtain ⟨entry', hget, hexpired⟩ := (hgone c).mp hmem
      simp only [false_iff, not_and, not_not]
      intro hget'
      obtain rfl : entry' = entry := Option.some.inj (hget.symm.trans hget')
      exact hexpired
    · refine ⟨fun hget => ⟨hget, fun hexpired => hmem ((hgone c).mpr ⟨entry, hget, hexpired⟩)⟩, ?_⟩
      exact And.left
  · intro c entry hget hexpired
    exact cancelled_foldl_removeEntry ((hgone c).mpr ⟨entry, hget, hexpired⟩) hget
  · intro sid hother
    refine heap_foldl_removeEntry ?_
    intro c hmem entry hget
    obtain ⟨entry', hget', hexpired⟩ := (hgone c).mp hmem
    obtain rfl : entry' = entry := Option.some.inj (hget'.symm.trans hget)
    exact hother c entry' hget hexpired

/-- A tick of the sweep interval. -/
lemma swept_tick {k : Kernel} {nowMs : ℕ} {e e' : Engine}
    (h : step e (.tick k nowMs) = some e') : Swept nowMs e e' := by
  obtain ⟨-, rfl⟩ : _ ∧ _ = e' := by simpa [step] using h
  obtain ⟨-, hheap, hsessions⟩ := applyGroKnob_still k (e.sweep nowMs)
  have hswept := swept_sweep nowMs e
  exact ⟨by rw [hsessions]; exact hswept.table, by rw [hheap]; exact hswept.cancels,
    by rw [hheap]; exact hswept.others⟩

/-- Activity protects a session until the timeout has passed. -/
lemma not_expired_of_recent {e : Engine} {nowMs sid t : ℕ} (hdead : (e.heap sid).dead = false)
    (ht : t ≤ (e.heap sid).lastActivityMs) (hnow : nowMs < t + e.timeoutMs) :
    ¬ Expired e nowMs sid := by
  have hpos := timeoutMs_pos e
  rintro (hd | hidle)
  · rw [hdead] at hd
    cases hd
  · omega

/-- **Idle expiry is exact.**  In every reachable state the recorded time of a session is the
latest of its activity: its opening, the datagrams of its client that got through and the drains
that received something.  It never decreases.  A sweep takes out of the table and cancels exactly
the sessions that are dead or silent for the timeout in force, and leaves all others as they are;
so a session with activity stamped `t` is not closed for silence before `t` plus the timeout. -/
theorem idle_expiry_exact (cfg : ForwarderConfig) (knobs : RuntimeKnobs)
    (literal : Option IpAddr) (udpLimit : ℕ) (acts : List Action) (e : Engine)
    (h : run step (Engine.start cfg knobs literal udpLimit) acts = some e) :
    (∀ sid, sid < e.fresh → IsGreatest
      {t | Occurred (Engine.start cfg knobs literal udpLimit) acts sid t}
      (e.heap sid).lastActivityMs) ∧
    (∀ more e', run step e more = some e' → ∀ sid, sid < e.fresh →
      (e.heap sid).lastActivityMs ≤ (e'.heap sid).lastActivityMs) ∧
    (∀ k nowMs e', step e (.tick k nowMs) = some e' → Swept nowMs e e') ∧
    ∀ k nowMs e' c entry t, step e (.tick k nowMs) = some e' →
      e.sessions.get? c = some entry → (e.heap entry.shared).dead = false →
      Occurred (Engine.start cfg knobs literal udpLimit) acts entry.shared t →
      nowMs < t + e.timeoutMs →
      e'.sessions.get? c = some entry := by
  have hrecorded := recorded_run h
  refine ⟨hrecorded.greatest, fun more e' hmore sid hsid => lastActivityMs_mono hmore hsid,
    fun k nowMs e' hstep => swept_tick hstep, ?_⟩
  intro k nowMs e' c entry t hstep hget hdead hocc hnow
  have ht := (hrecorded.greatest _ (hrecorded.lt_fresh _ _ hocc)).2 hocc
  exact ((swept_tick hstep).table c entry).mpr ⟨hget, not_expired_of_recent hdead ht hnow⟩

/-- One client, whose session is answered twice.  The second drain is recorded with an older
stamp than the first one. -/
def overtakenDrain : List Action :=
  [.readable .willing 10 [.ok ⟨[7], 0, some (.v4 9 4000), false⟩],
    .sessionReady .willing 25 [.ok ⟨[8], 0, none, false⟩] 0,
    .sessionReady .willing 20 [.ok ⟨[9], 0, none, false⟩] 0]

theorem idle_expiry_exact_overtakenDrain :
    ∃ e, run step (Engine.start ⟨[], 9000, [], 53, .udp⟩ (.fromSettings .default)
        (some (.v4 1)) 8) overtakenDrain = some e ∧
      IsGreatest {t | Occurred (Engine.start ⟨[], 9000, [], 53, .udp⟩ (.fromSettings .default)
        (some (.v4 1)) 8) overtakenDrain 0 t} 25 := by
  have hrun : (run step (Engine.start ⟨[], 9000, [], 53, .udp⟩ (.fromSettings .default)
      (some (.v4 1)) 8) overtakenDrain).map (fun e => (e.fresh, (e.heap 0).lastActivityMs)) =
        some (1, 25) := by decide +kernel
  obtain ⟨e, he, hend⟩ := Option.map_eq_some_iff.mp hrun
  obtain ⟨hfresh, htime⟩ := Prod.mk.inj hend
  have hgreatest := (idle_expiry_exact _ _ _ _ overtakenDrain e he).1 0 (by omega)
  rw [htime] at hgreatest
  exact ⟨e, he, hgreatest⟩

end Rfw.Udp
