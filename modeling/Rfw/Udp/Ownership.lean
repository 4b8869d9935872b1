/-
# Who owns a session

A session's shared state has two owners, the table entry of the listener and the reply task, and
the last one to let go gives the gauge and the permit back.  `Owned` is the invariant that makes
this work: the count of owners is what the table and the task say, and the gauge counts the
sessions that still have an owner.  While a handler holds an entry outside the table, that session
has an owner in addition.

Every operation of the forwarder keeps `Owned`, and the sum of the gauge and of the permits left.
-/
import Rfw.Udp.Drains
import Rfw.Udp.Forwarder
import Rfw.Udp.Replies
import Mathlib.Data.Finset.Card

namespace Rfw.Udp

open Lib

namespace Engine

/-- The table holds the session. -/
def tabled (e : Engine) (sid : ℕ) : Bool :=
  decide ((e.sessions.get? (e.heap sid).client).map SessionEntry.shared = some sid)

/-- The reply task of the session is still running. -/
def taskRuns (e : Engine) (sid : ℕ) : Bool := decide ((e.heap sid).task ≠ .ended)

/-- The sessions held by the table or by their task. -/
def held (e : Engine) : Finset ℕ :=
  (Finset.range e.fresh).filter fun sid => e.tabled sid || e.taskRuns sid

/-- The sessions with at least one owner. -/
def owned (e : Engine) : Finset ℕ :=
  (Finset.range e.fresh).filter fun sid => 0 < (e.heap sid).strong

end Engine

/-- The invariant of the ownership of sessions; `extra` is a session held by the handler that is
running. -/
structure Owned (extra : Option ℕ) (e : Engine) : Prop where
  keyed : ∀ c entry, e.sessions.get? c = some entry →
    (e.heap entry.shared).client = c ∧ entry.shared < e.fresh
  strong : ∀ sid, (e.heap sid).strong =
    (e.tabled sid).toNat + (e.taskRuns sid).toNat + if extra = some sid then 1 else 0
  unused : ∀ sid, e.fresh ≤ sid → (e.heap sid).task = .ended
  extra_lt : ∀ sid, extra = some sid → sid < e.fresh
  active : e.stats.activeConnections = e.owned.card
  alive : ∀ c entry, e.sessions.get? c = some entry → (e.heap entry.shared).dead = false →
    e.tokenCancelled entry.shared = false → (e.heap entry.shared).task ≠ .ended

/-- A part of a handler keeps the invariant and the sum of the gauge and of the permits left. -/
def Keeps (x : Option ℕ) (e : Engine) (x' : Option ℕ) (e' : Engine) : Prop :=
  Owned x e → Owned x' e' ∧
    e'.udpLimit + e'.stats.activeConnections = e.udpLimit + e.stats.activeConnections

lemma Keeps.trans {x x' x'' : Option ℕ} {e e' e'' : Engine} (h : Keeps x e x' e')
    (h' : Keeps x' e' x'' e'') : Keeps x e x'' e'' := by
  intro howned
  obtain ⟨h₁, hsum₁⟩ := h howned
  obtain ⟨h₂, hsum₂⟩ := h' h₁
  exact ⟨h₂, hsum₂.trans hsum₁⟩

/-! ## What the invariant does not look at -/

/-- The invariant only looks at the core. -/
lemma keeps_of_core {x : Option ℕ} {e e' : Engine} (h : e'.core = e.core) : Keeps x e x e' := by
  intro howned
  have hcore : Owned x e.core := ⟨howned.keyed, howned.strong, howned.unused, howned.extra_lt,
    howned.active, howned.alive⟩
  rw [← h] at hcore
  refine ⟨⟨hcore.keyed, hcore.strong, hcore.unused, hcore.extra_lt, hcore.active, hcore.alive⟩, ?_⟩
  have hsum := congrArg (fun e : Engine => e.udpLimit + e.stats.activeConnections) h
  exact hsum

lemma tabled_congr {e e' : Engine} {sid : ℕ} (hs : e'.sessions = e.sessions)
    (hc : (e'.heap sid).client = (e.heap sid).client) : e'.tabled sid = e.tabled sid := by
  simp only [Engine.tabled, hs, hc]

lemma taskRuns_congr {e e' : Engine} {sid : ℕ} (h : (e'.heap sid).task = (e.heap sid).task) :
    e'.taskRuns sid = e.taskRuns sid := by
  simp only [Engine.taskRuns, h]

/-- Nothing but the progress of running tasks, and marks that only excuse more, may change. -/
lemma keeps_of_marks {x : Option ℕ} {e e' : Engine} (hsessions : e'.sessions = e.sessions)
    (hfresh : e'.fresh = e.fresh) (hlimit : e'.udpLimit = e.udpLimit)
    (hactive : e'.stats.activeConnections = e.stats.activeConnections)
    (hclient : ∀ i, (e'.heap i).client = (e.heap i).client)
    (hstrong : ∀ i, (e'.heap i).strong = (e.heap i).strong)
    (hended : ∀ i, (e'.heap i).task = .ended ↔ (e.heap i).task = .ended)
    (hdead : ∀ i, (e.heap i).dead = true → (e'.heap i).dead = true)
    (htoken : ∀ i, e.tokenCancelled i = true → e'.tokenCancelled i = true) :
    Keeps x e x e' := by
  intro h
  have htabled : ∀ i, e'.tabled i = e.tabled i := by
    intro i
    simp only [Engine.tabled, hsessions, hclient]
  have hruns : ∀ i, e'.taskRuns i = e.taskRuns i := by
    intro i
    simp only [Engine.taskRuns, ne_eq, hended]
  have howned : e'.owned = e.owned := by
    simp only [Engine.owned, hfresh, hstrong]
  refine ⟨?_, by rw [hlimit, hactive]⟩
  exact {
    keyed := by
      intro c entry hget
      rw [hclient, hfresh]
      exact h.keyed c entry (by rwa [hsessions] at hget)
    strong := by
      intro i
      rw [htabled, hruns, hstrong]
      exact h.strong i
    unused := by
      intro i hi
      rw [hended]
      exact h.unused i (by rwa [hfresh] at hi)
    extra_lt := by
      rw [hfresh]
      exact h.extra_lt
    active := by rw [hactive, howned, h.active]
    alive := by
      intro c entry hget hd ht
      rw [ne_eq, hended]
      refine h.alive c entry (by rwa [hsessions] at hget) ?_ ?_
      · by_contra hnot
        simp [hdead _ (by simpa using hnot)] at hd
      · by_contra hnot
        simp [htoken _ (by simpa using hnot)] at ht }

namespace Owned

variable {x : Option ℕ} {e : Engine}

/-- A session in the table has a number below the next one. -/
lemma tabled_lt (h : Owned x e) {sid : ℕ} (ht : e.tabled sid = true) : sid < e.fresh := by
  simp only [Engine.tabled, decide_eq_true_eq, Option.map_eq_some_iff] at ht
  obtain ⟨entry, hget, rfl⟩ := ht
  exact (h.keyed _ _ hget).2

/-- A session with a running task has a number below the next one. -/
lemma lt_of_runs (h : Owned x e) {sid : ℕ} (hruns : (e.heap sid).task ≠ .ended) :
    sid < e.fresh := by
  by_contra hge
  exact hruns (h.unused sid (not_lt.mp hge))

/-- The next number is not in the table yet. -/
lemma tabled_fresh (h : Owned x e) : e.tabled e.fresh = false := by
  by_contra hnot
  exact lt_irrefl _ (h.tabled_lt (by simpa using hnot))

/-- A session with an entry is in the table. -/
lemma tabled_of_get? (h : Owned x e) {c : SocketAddr} {entry : SessionEntry}
    (hget : e.sessions.get? c = some entry) : e.tabled entry.shared = true := by
  simp [Engine.tabled, (h.keyed c entry hget).1, hget]

/-- Different clients have different sessions. -/
lemma shared_ne (h : Owned x e) {c c' : SocketAddr} {entry entry' : SessionEntry}
    (hget : e.sessions.get? c = some entry) (hget' : e.sessions.get? c' = some entry')
    (hne : c' ≠ c) : entry'.shared ≠ entry.shared := by
  intro heq
  apply hne
  rw [← (h.keyed c' entry' hget').1, ← (h.keyed c entry hget).1, heq]

/-- Without a running handler, the sessions with an owner are those held by the table or by their
task. -/
lemma owned_eq_held (h : Owned none e) : e.owned = e.held := by
  refine Finset.filter_congr fun sid _ => ?_
  rw [h.strong sid]
  cases e.tabled sid <;> cases e.taskRuns sid <;> simp

end Owned

/-! ## Letting go -/

/-- What dropping an owner changes. -/
lemma dropShared_fields (e : Engine) (sid : ℕ) :
    (e.dropShared sid).sessions = e.sessions ∧ (e.dropShared sid).fresh = e.fresh ∧
      (e.dropShared sid).cancelled = e.cancelled ∧
      (∀ i, (e.dropShared sid).heap i =
        { e.heap i with strong := (e.heap i).strong - if i = sid then 1 else 0 }) ∧
      ((e.heap sid).strong = 1 → (e.dropShared sid).udpLimit = e.udpLimit + 1 ∧
        (e.dropShared sid).stats.activeConnections = e.stats.activeConnections - 1) ∧
      ((e.heap sid).strong ≠ 1 → (e.dropShared sid).udpLimit = e.udpLimit ∧
        (e.dropShared sid).stats.activeConnections = e.stats.activeConnections) := by
  simp only [Engine.dropShared]
  split
  · rename_i hone
    refine ⟨rfl, rfl, rfl, fun i => ?_, fun _ => ⟨rfl, rfl⟩, fun h => absurd hone h⟩
    by_cases h : i = sid
    · subst h
      simp [Engine.modify, hone]
    · simp [Engine.modify, h]
  · rename_i hmore
    refine ⟨rfl, rfl, rfl, fun i => ?_, fun h => absurd h hmore, fun _ => ⟨rfl, rfl⟩⟩
    by_cases h : i = sid
    · subst h
      simp [Engine.modify]
    · simp [Engine.modify, h]

/-- The handler lets go of the session it holds. -/
lemma keeps_dropShared (e : Engine) (sid : ℕ) : Keeps (some sid) e none (e.dropShared sid) := by
  intro h
  obtain ⟨hsessions, hfresh, hcancelled, hheap, hlast, hmore⟩ := dropShared_fields e sid
  have hsid := h.extra_lt sid rfl
  have hstrong : (e.heap sid).strong = (e.tabled sid).toNat + (e.taskRuns sid).toNat + 1 := by
    simpa using h.strong sid
  have htabled : ∀ i, (e.dropShared sid).tabled i = e.tabled i :=
    fun i => tabled_congr hsessions (by rw [hheap])
  have hruns : ∀ i, (e.dropShared sid).taskRuns i = e.taskRuns i :=
    fun i => taskRuns_congr (by rw [hheap])
  have hmem : sid ∈ e.owned := by
    simp only [Engine.owned, Finset.mem_filter, Finset.mem_range]
    exact ⟨hsid, by omega⟩
  have hpos : 0 < e.owned.card := Finset.card_pos.mpr ⟨sid, hmem⟩
  -- the gauge and the permits move together, exactly when the last owner lets go
  have hsum : (e.dropShared sid).stats.activeConnections = (e.dropShared sid).owned.card ∧
      (e.dropShared sid).udpLimit + (e.dropShared sid).stats.activeConnections =
        e.udpLimit + e.stats.activeConnections := by
    have hactive := h.active
    by_cases hone : (e.heap sid).strong = 1
    · obtain ⟨hlimit, hgauge⟩ := hlast hone
      have howned : (e.dropShared sid).owned = e.owned.erase sid := by
        ext i
        simp only [Engine.owned, hfresh, hheap, Finset.mem_filter, Finset.mem_erase]
        by_cases hi : i = sid
        · simp [hi, hone]
        · simp [hi]
      rw [howned, Finset.card_erase_of_mem hmem]
      omega
    · obtain ⟨hlimit, hgauge⟩ := hmore hone
      have howned : (e.dropShared sid).owned = e.owned := by
        ext i
        simp only [Engine.owned, hfresh, hheap, Finset.mem_filter, Finset.mem_range]
        by_cases hi : i = sid
        · subst hi
          simp only [if_true]
          constructor <;> rintro ⟨h₁, h₂⟩ <;> exact ⟨h₁, by omega⟩
        · simp [hi]
      rw [howned]
      omega
  refine ⟨?_, hsum.2⟩
  exact {
    keyed := by
      intro c entry hget
      rw [hsessions] at hget
      rw [hheap, hfresh]
      exact h.keyed c entry hget
    strong := by
      intro i
      rw [htabled, hruns, hheap]
      have := h.strong i
      by_cases hi : i = sid
      · subst hi
        simp at this ⊢
        omega
      · simp [hi, Ne.symm hi] at this ⊢
        exact this
    unused := by
      intro i hi
      rw [hfresh] at hi
      rw [hheap]
      exact h.unused i hi
    extra_lt := by simp
    active := hsum.1
    alive := by
      intro c entry hget hdead htoken
      rw [hsessions] at hget
      simp only [Engine.tokenCancelled, hheap, hcancelled] at hdead htoken ⊢
      exact h.alive c entry hget hdead htoken }

lemma closeEntry_heap (e : Engine) (entry : SessionEntry) (i : ℕ) :
    (e.closeEntry entry).heap i =
      { e.heap i with cancelled := (e.heap i).cancelled || decide (i = entry.shared) } := by
  by_cases h : i = entry.shared
  · subst h
    simp [Engine.closeEntry, Engine.modify]
  · simp [Engine.closeEntry, Engine.modify, h]

/-- A session leaves the table; the handler holds its entry. -/
lemma keeps_detach {e : Engine} {client : SocketAddr} {entry : SessionEntry}
    (hget : e.sessions.get? client = some entry) :
    Keeps none e (some entry.shared)
      (Engine.closeEntry { e with sessions := e.sessions.erase client } entry) := by
  intro h
  have hkeyed := h.keyed client entry hget
  have htabled : ∀ i, (Engine.closeEntry { e with sessions := e.sessions.erase client }
      entry).tabled i = (e.tabled i && decide (i ≠ entry.shared)) := by
    intro i
    simp only [Engine.tabled, closeEntry_heap]
    simp only [Engine.closeEntry, Engine.modify, Table.get?_erase]
    by_cases hc : (e.heap i).client = client
    · rw [if_pos hc, hc, hget]
      by_cases hi : i = entry.shared
      · simp [hi]
      · simp [Ne.symm hi]
    · have hi : i ≠ entry.shared := by
        rintro rfl
        exact hc hkeyed.1
      simp [hc, hi]
  refine ⟨?_, rfl⟩
  exact {
    keyed := by
      intro c entry' hget'
      rw [closeEntry_heap]
      simp only [Engine.closeEntry, Engine.modify, Table.get?_erase] at hget' ⊢
      split at hget'
      · cases hget'
      · exact h.keyed c entry' hget'
    strong := by
      intro i
      have hruns : Engine.taskRuns (Engine.closeEntry
          { e with sessions := e.sessions.erase client } entry) i = e.taskRuns i :=
        taskRuns_congr (by rw [closeEntry_heap])
      rw [htabled, hruns, closeEntry_heap]
      have hstrong := h.strong i
      by_cases hi : i = entry.shared
      · -- the table's share passes to the handler
        subst hi
        simp [h.tabled_of_get? hget] at hstrong ⊢
        omega
      · simp [hi, Ne.symm hi] at hstrong ⊢
        exact hstrong
    unused := by
      intro i hi
      rw [closeEntry_heap]
      exact h.unused i hi
    extra_lt := by
      rintro sid ⟨⟩
      exact hkeyed.2
    active := by
      rw [show (Engine.closeEntry { e with sessions := e.sessions.erase client } entry).owned =
        e.owned from Finset.filter_congr fun i _ => by rw [closeEntry_heap]]
      exact h.active
    alive := by
      intro c entry' hget' hdead htoken
      simp only [Engine.closeEntry, Engine.modify, Table.get?_erase] at hget'
      split at hget'
      · cases hget'
      · rename_i hne
        have hne' := h.shared_ne hget hget' hne
        simp only [Engine.tokenCancelled, Engine.closeEntry, Engine.modify,
          Function.update_of_ne hne'] at hdead htoken ⊢
        exact h.alive c entry' hget' hdead htoken }

lemma keeps_refl (x : Option ℕ) (e : Engine) : Keeps x e x e := fun h => ⟨h, rfl⟩

lemma keeps_removeEntry (e : Engine) (client : SocketAddr) :
    Keeps none e none (e.removeEntry client) := by
  rw [Engine.removeEntry]
  split
  · exact keeps_refl none e
  · rename_i entry hget
    exact (keeps_detach hget).trans (keeps_dropShared _ _)

lemma keeps_retain (keep : SessionShared → Bool) (e : Engine) :
    Keeps none e none (e.retain keep) :=
  retain_rule (keeps_refl none) Keeps.trans keeps_removeEntry keep e

/-! ## Opening and storing -/

/-- A new session: the handler holds the entry, and the task runs. -/
lemma keeps_opened {k : Kernel} {nowMs : ℕ} {client : SocketAddr} {t t' : Turn}
    {entry : SessionEntry} (hopened : OpenedSession k nowMs client t entry t') :
    Keeps none t.toEngine (some entry.shared) t'.toEngine := by
  intro h
  obtain ⟨remote, gro, -, hheap, -⟩ := hopened.opened
  obtain ⟨hsessions, hfresh, hlimit, hcancelled, -⟩ := hopened.fields
  have hgauge : t'.stats.activeConnections = t.stats.activeConnections + 1 := by
    rw [hopened.stats]
    rfl
  have hpermit := hopened.permit
  obtain rfl := hopened.entry_eq
  have hother : ∀ i, i ≠ t.fresh → t'.heap i = t.heap i := by
    intro i hi
    rw [hheap, Function.update_of_ne hi]
  have hself := congrFun hheap t.fresh
  rw [Function.update_self] at hself
  have htabled : ∀ i, t'.tabled i = t.tabled i := by
    intro i
    by_cases hi : i = t.fresh
    · subst hi
      -- the client of this number changes, but the table only knows older numbers
      rw [h.tabled_fresh]
      simp only [Engine.tabled, hsessions, decide_eq_false_iff_not]
      intro hget
      obtain ⟨entry, hget, hshared⟩ := Option.map_eq_some_iff.mp hget
      have := (h.keyed _ _ hget).2
      omega
    · exact tabled_congr hsessions (by rw [hother i hi])
  have howned : t'.owned = insert t.fresh t.owned := by
    ext i
    simp only [Engine.owned, hfresh, Finset.mem_insert, Finset.mem_filter, Finset.mem_range]
    by_cases hi : i = t.fresh
    · simp [hi, hself]
    · rw [hother i hi]
      constructor
      · rintro ⟨h₁, h₂⟩
        exact .inr ⟨by omega, h₂⟩
      · rintro (h₁ | ⟨h₁, h₂⟩)
        · exact absurd h₁ hi
        · exact ⟨by omega, h₂⟩
  have hnew : t.fresh ∉ t.owned := by simp [Engine.owned]
  refine ⟨?_, by omega⟩
  exact {
    keyed := by
      intro c entry hget
      rw [hsessions] at hget
      obtain ⟨hclient, hlt⟩ := h.keyed c entry hget
      rw [hother _ (by omega), hfresh]
      exact ⟨hclient, by omega⟩
    strong := by
      intro i
      rw [htabled]
      by_cases hi : i = t.fresh
      · -- its two owners are the task and the handler
        subst hi
        simp [h.tabled_fresh, Engine.taskRuns, hself]
      · have hruns : t'.taskRuns i = t.taskRuns i := taskRuns_congr (by rw [hother i hi])
        have hstrong := h.strong i
        rw [hruns, hother i hi]
        simpa [Ne.symm hi] using hstrong
    unused := by
      intro i hi
      rw [hother i (by omega)]
      exact h.unused i (by omega)
    extra_lt := by
      rintro sid ⟨⟩
      rw [hfresh]
      exact Nat.lt_succ_self _
    active := by rw [howned, Finset.card_insert_of_notMem hnew, hgauge, h.active]
    alive := by
      intro c entry hget hdead htoken
      rw [hsessions] at hget
      have hlt := (h.keyed c entry hget).2
      simp only [Engine.tokenCancelled, hother entry.shared (by omega), hcancelled]
        at hdead htoken ⊢
      exact h.alive c entry hget hdead htoken }

/-- The entry that the handler holds goes into the table. -/
lemma keeps_store_new (e : Engine) (client : SocketAddr) (entry : SessionEntry)
    (hget : e.sessions.get? client = none) (hclient : (e.heap entry.shared).client = client)
    (htask : (e.heap entry.shared).task ≠ .ended) :
    Keeps (some entry.shared) e none { e with sessions := e.sessions.insert client entry } := by
  intro h
  have htabled : ∀ i, Engine.tabled { e with sessions := e.sessions.insert client entry } i =
      (e.tabled i || decide (i = entry.shared)) := by
    intro i
    simp only [Engine.tabled, Table.get?_insert]
    by_cases hc : (e.heap i).client = client
    · rw [if_pos hc, hc, hget]
      by_cases hi : i = entry.shared
      · simp [hi]
      · simp [hi, Ne.symm hi]
    · have hi : i ≠ entry.shared := by
        rintro rfl
        exact hc hclient
      simp [hc, hi]
  have hold : e.tabled entry.shared = false := by simp [Engine.tabled, hclient, hget]
  refine ⟨?_, rfl⟩
  exact {
    keyed := by
      intro c entry' hget'
      simp only [Table.get?_insert] at hget'
      split at hget'
      · rename_i hc
        obtain rfl : entry = entry' := by simpa using hget'
        exact ⟨hclient.trans hc.symm, h.extra_lt _ rfl⟩
      · exact h.keyed c entry' hget'
    strong := by
      intro i
      rw [htabled, show Engine.taskRuns { e with sessions := e.sessions.insert client entry } i =
        e.taskRuns i from rfl]
      have hstrong := h.strong i
      by_cases hi : i = entry.shared
      · -- the handler's share passes to the table
        subst hi
        simp [hold] at hstrong ⊢
        omega
      · simp [hi, Ne.symm hi] at hstrong ⊢
        exact hstrong
    unused := h.unused
    extra_lt := by simp
    active := h.active
    alive := by
      intro c entry' hget' hdead htoken
      simp only [Table.get?_insert] at hget'
      split at hget'
      · obtain rfl : entry = entry' := by simpa using hget'
        exact htask
      · exact h.alive c entry' hget' hdead htoken }

/-- An entry changes its own fields in the table. -/
lemma keeps_store_same {e : Engine} {client : SocketAddr} (entry : SessionEntry)
    {entry' : SessionEntry} (hget : e.sessions.get? client = some entry)
    (hshared : entry'.shared = entry.shared) :
    Keeps none e none { e with sessions := e.sessions.insert client entry' } := by
  intro h
  have htabled : ∀ i, Engine.tabled { e with sessions := e.sessions.insert client entry' } i =
      e.tabled i := by
    intro i
    simp only [Engine.tabled, Table.get?_insert]
    by_cases hc : (e.heap i).client = client
    · rw [if_pos hc, hc, hget]
      simp [hshared]
    · rw [if_neg hc]
  refine ⟨?_, rfl⟩
  exact {
    keyed := by
      intro c entry₁ hget'
      simp only [Table.get?_insert] at hget'
      split at hget'
      · rename_i hc
        obtain rfl : entry' = entry₁ := by simpa using hget'
        subst hc
        rw [hshared]
        exact h.keyed _ entry hget
      · exact h.keyed c entry₁ hget'
    strong := by
      intro i
      rw [htabled]
      exact h.strong i
    unused := h.unused
    extra_lt := by simp
    active := h.active
    alive := by
      intro c entry₁ hget' hdead htoken
      simp only [Table.get?_insert] at hget'
      split at hget'
      · obtain rfl : entry' = entry₁ := by simpa using hget'
        rw [hshared] at hdead htoken ⊢
        exact h.alive client entry hget hdead htoken
      · exact h.alive c entry₁ hget' hdead htoken }

/-- Serving a client keeps the invariant. -/
lemma keeps_serveClient {k : Kernel} {nowMs n : ℕ} {client : SocketAddr} {ps : List Bytes}
    {forward : Turn → SessionEntry → Turn × SessionEntry}
    (hforward : ∀ t entry, ∃ cs, Forwarded k nowMs ps cs (t, entry) (forward t entry)) (t : Turn) :
    Keeps none t.toEngine none (serveClient k nowMs n client forward t).toEngine := by
  rcases serveClient_cases k nowMs n client forward t with
    ⟨entry, _, hget, _, heq⟩ | ⟨why, _, _, hfailed⟩ | ⟨entry, t', _, hopened, heq⟩
  · obtain ⟨cs, h⟩ := hforward t entry
    rw [heq]
    exact (keeps_of_core h.core).trans
      (keeps_store_same entry (by rw [sessions_of_core h.core]; exact hget) h.shared)
  · -- a failed open has given its permit back
    exact (keeps_removeEntry t.toEngine client).trans (keeps_of_core hfailed.core)
  · -- the old session goes, the new one is forwarded through before it is in the table
    obtain ⟨cs, h⟩ := hforward t' entry
    rw [heq]
    obtain ⟨remote, gro, -, hheap, -⟩ := hopened.opened
    obtain ⟨hsessions, -⟩ := hopened.fields
    have hself : (t'.heap entry.shared).client = client ∧
        (t'.heap entry.shared).task = .waiting := by
      rw [hheap, hopened.entry_eq]
      simp
    have hstore := keeps_store_new (forward t' entry).1.toEngine client (forward t' entry).2
      (by
        rw [sessions_of_core h.core, hsessions]
        exact (get?_removeEntry t.toEngine client client).trans (if_pos rfl))
      (by rw [h.shared, heap_of_core h.core SessionShared.client fun _ => rfl, hself.1])
      (by rw [h.shared, heap_of_core h.core SessionShared.task fun _ => rfl, hself.2]; simp)
    rw [h.shared] at hstore
    exact (keeps_removeEntry t.toEngine client).trans
      ((keeps_opened hopened).trans ((keeps_of_core h.core).trans hstore))

/-! ## The listener's socket -/

/-- A relation between the states before and after a part of a handler that the work on the
listener's socket respects: it only has to know what serving one client does. -/
structure Respects (R : Engine → Engine → Prop) : Prop where
  trans : ∀ {e e' e'' : Engine}, R e e' → R e' e'' → R e e''
  core : ∀ {e e' : Engine}, e'.core = e.core → R e e'
  serve : ∀ {k : Kernel} {nowMs n : ℕ} {client : SocketAddr} {ps : List Bytes}
    {forward : Turn → SessionEntry → Turn × SessionEntry},
    (∀ t entry, ∃ cs, Forwarded k nowMs ps cs (t, entry) (forward t entry)) →
    ∀ t : Turn, R t.toEngine (serveClient k nowMs n client forward t).toEngine

namespace Respects

variable {R : Engine → Engine → Prop}

lemma onClientDatagram (hR : Respects R) (k : Kernel) (nowMs : ℕ) (client : SocketAddr)
    (data : Bytes) (t : Turn) : R t.toEngine (onClientDatagram k nowMs client data t).toEngine :=
  hR.serve (fun t entry => forwarded_forwardUpstream k nowMs t entry data) t

lemma onClientBuffer (hR : Respects R) (k : Kernel) (nowMs : ℕ) (client : SocketAddr)
    (data : Bytes) (segment : ℕ) (t : Turn) :
    R t.toEngine (onClientBuffer k nowMs client data segment t).toEngine := by
  rw [Udp.onClientBuffer]
  split
  · exact hR.onClientDatagram k nowMs client data t
  · rename_i hburst
    exact hR.serve (fun t entry =>
      forwarded_forwardUpstreamCoalesced k nowMs t entry (by simpa using hburst)) t

/-- A drain respects what each of its receives respects. -/
lemma drainWith {ρ : Type*} {handle : ρ → Turn → Turn} (hR : Respects R)
    (h : ∀ r t, R t.toEngine (handle r t).toEngine) (rs : List (Except IoError ρ)) (e : Engine) :
    R e (drainWith handle rs e).2 := by
  have hfold : ∀ (rs : List ρ) (t : Turn),
      R t.toEngine (rs.foldl (fun t r => handle r t) t).toEngine := by
    intro rs
    induction rs with
    | nil => exact fun t => hR.core rfl
    | cons r rs ih => exact fun t => hR.trans (h r t) (ih _)
  have hloop := hfold (receipts listenerBatch rs) { e with batch := {} }
  rw [← receiveLoop_eq_foldl] at hloop
  refine hR.trans hloop (hR.core ?_)
  simp only [Udp.drainWith, flushSent]
  split <;> split <;> rfl

lemma drainListener (hR : Respects R) (k : Kernel) (nowMs : ℕ)
    (rs : List (Except IoError (Bytes × SocketAddr))) (e : Engine) :
    R e (drainListener k nowMs rs e).2 := by
  refine hR.drainWith (fun r t => ?_) rs e
  have hlog : R t.toEngine (t.log (.received r.2 r.1 0)) := hR.core rfl
  exact hR.trans hlog (hR.onClientDatagram k nowMs r.2 r.1
    (t.onEngine (·.log (.received r.2 r.1 0))))

lemma drainListenerGro (hR : Respects R) (k : Kernel) (nowMs : ℕ)
    (rs : List (Except IoError Recv)) (e : Engine) : R e (drainListenerGro k nowMs rs e).2 := by
  refine hR.drainWith (fun r t => ?_) rs e
  rw [handleGro]
  split
  · exact hR.core rfl
  · dsimp only
    split
    · exact hR.core rfl
    · rename_i client _ _
      have hlog : R t.toEngine (t.log (.received client r.data r.segment)) := hR.core rfl
      exact hR.trans hlog (hR.onClientBuffer k nowMs client r.data r.segment
        (t.onEngine (·.log (.received client r.data r.segment))))

/-- The listener is readable. -/
lemma readable (hR : Respects R) {k : Kernel} {nowMs : ℕ} {rs : List (Except IoError Recv)}
    {e e' : Engine} (h : step e (.readable k nowMs rs) = some e') : R e e' := by
  simp only [step] at h
  split at h
  · split at h
    · obtain rfl := Option.some.inj h
      exact hR.drainListenerGro k nowMs rs e
    · obtain rfl := Option.some.inj h
      exact hR.drainListener k nowMs _ e
  · cases h

end Respects

lemma respects_keeps : Respects fun e e' => Keeps none e none e' where
  trans := Keeps.trans
  core := keeps_of_core
  serve := keeps_serveClient

/-! ## The session tasks -/

lemma setTask_heap (e : Engine) (sid : ℕ) (task : Task) (i : ℕ) :
    (e.setTask sid task).heap i =
      { e.heap i with task := if i = sid then task else (e.heap i).task } := by
  by_cases h : i = sid
  · subst h
    simp [Engine.setTask, Engine.modify]
  · simp [Engine.setTask, Engine.modify, h]

/-- A running task moves on. -/
lemma keeps_setTask {e : Engine} {sid : ℕ} {task : Task} (hruns : (e.heap sid).task ≠ .ended)
    (htask : task ≠ .ended) : Keeps none e none (e.setTask sid task) := by
  refine keeps_of_marks rfl rfl rfl rfl ?_ ?_ ?_ ?_ ?_
  · exact fun i => by rw [setTask_heap]
  · exact fun i => by rw [setTask_heap]
  · intro i
    rw [setTask_heap]
    by_cases hi : i = sid
    · subst hi
      simp [hruns, htask]
    · simp [hi]
  · exact fun i => by rw [setTask_heap]; exact id
  · intro i
    rw [Engine.tokenCancelled, Engine.tokenCancelled, setTask_heap]
    exact id

/-- A running task ends, with the session dead or its token cancelled. -/
lemma keeps_endTask {e : Engine} {sid : ℕ} (hruns : (e.heap sid).task ≠ .ended)
    (hover : (e.heap sid).dead = true ∨ e.tokenCancelled sid = true) :
    Keeps none e none (e.endTask sid) := by
  refine Keeps.trans ?_ (keeps_dropShared (e.setTask sid .ended) sid)
  intro h
  refine ⟨?_, rfl⟩
  exact {
    keyed := by
      intro c entry hget
      rw [setTask_heap]
      exact h.keyed c entry hget
    strong := by
      intro i
      have htabled : (e.setTask sid .ended).tabled i = e.tabled i :=
        tabled_congr rfl (by rw [setTask_heap])
      have hstrong := h.strong i
      rw [htabled]
      simp only [Engine.taskRuns, setTask_heap] at hstrong ⊢
      by_cases hi : i = sid
      · -- the task's share passes to the handler, which then lets go
        subst hi
        simpa [hruns] using hstrong
      · simpa [hi, Ne.symm hi] using hstrong
    unused := by
      intro i hi
      rw [setTask_heap]
      simp [h.unused i hi]
    extra_lt := by
      rintro _ ⟨⟩
      exact h.lt_of_runs hruns
    active := by
      rw [show (e.setTask sid .ended).owned = e.owned from
        Finset.filter_congr fun i _ => by rw [setTask_heap]]
      exact h.active
    alive := by
      intro c entry hget hdead htoken
      simp only [Engine.tokenCancelled, setTask_heap] at hdead htoken ⊢
      by_cases hi : entry.shared = sid
      · -- the task of this session is the one that ends
        rw [hi] at hdead htoken
        rcases hover with hover | hover
        · simp [hover] at hdead
        · exact absurd (hover.symm.trans htoken) (by simp)
      · simp only [hi, if_false]
        exact h.alive c entry hget hdead htoken }

/-- A session is found dead. -/
lemma keeps_setDead (x : Option ℕ) (e : Engine) (sid : ℕ) :
    Keeps x e x (e.modify sid fun s => { s with dead := true }) := by
  have hheap : ∀ i, (e.modify sid fun s => { s with dead := true }).heap i =
      { e.heap i with dead := (e.heap i).dead || decide (i = sid) } := by
    intro i
    by_cases hi : i = sid
    · subst hi
      simp [Engine.modify]
    · simp [Engine.modify, hi]
  refine keeps_of_marks rfl rfl rfl rfl ?_ ?_ ?_ ?_ ?_
  · exact fun i => by rw [hheap]
  · exact fun i => by rw [hheap]
  · exact fun i => by rw [hheap]
  · intro i hi
    rw [hheap]
    simp [hi]
  · intro i
    rw [Engine.tokenCancelled, Engine.tokenCancelled, hheap]
    exact id

/-- A drain only marks its session, and only when the upstream socket failed. -/
lemma core_drainSession (k : Kernel) (nowMs : ℕ) (rs : List (Except IoError Recv)) (sid : ℕ)
    (e : Engine) :
    (drainSession k nowMs rs sid e).2.core =
      (if (drainSession k nowMs rs sid e).1 = .dead then
        e.modify sid fun s => { s with dead := true } else e).core := by
  obtain ⟨evs, d, h, hflush, -⟩ := drainSession_drained k nowMs rs sid e
  generalize (drainSession k nowMs rs sid e).1 = outcome at h ⊢
  obtain ⟨stats, heq, -, -, -, hactive⟩ := flushReceived_spec sid nowMs d h.bytes_eq_zero
  have hgauge := congrArg ForwarderStats.activeConnections h.stats
  simp only [quiet] at hgauge
  have hheap : ∀ i, d.heap i = if i = sid then
      { e.heap i with dead := (e.heap i).dead || decide (outcome = .dead) } else e.heap i := by
    intro i
    rw [h.heap]
    by_cases hi : i = sid
    · subst hi
      simp
    · simp [hi]
  rw [hflush, heq, h.rest]
  by_cases hdead : outcome = .dead
  all_goals
    simp only [hdead, if_true, if_false, Engine.core, Engine.modify, hactive, hgauge,
      Engine.mk.injEq, true_and, and_true]
    funext i
    by_cases hi : i = sid
    · subst hi
      simp [hheap, hdead]
    · simp [hheap, hi]

/-- A drained session, with its task as it was and dead if its socket failed. -/
lemma keeps_drainSession (k : Kernel) (nowMs : ℕ) (rs : List (Except IoError Recv)) (sid : ℕ)
    (e : Engine) :
    Keeps none e none (drainSession k nowMs rs sid e).2 ∧
      ((drainSession k nowMs rs sid e).2.heap sid).task = (e.heap sid).task ∧
      ((drainSession k nowMs rs sid e).1 = .dead →
        ((drainSession k nowMs rs sid e).2.heap sid).dead = true) := by
  have hcore := core_drainSession k nowMs rs sid e
  generalize drainSession k nowMs rs sid e = r at hcore ⊢
  split at hcore
  · refine ⟨(keeps_setDead none e sid).trans (keeps_of_core hcore), ?_, fun _ => ?_⟩
    · rw [heap_of_core hcore SessionShared.task fun _ => rfl]
      simp [Engine.modify]
    · rw [heap_of_core hcore SessionShared.dead fun _ => rfl]
      simp [Engine.modify]
  · rename_i hnot
    exact ⟨keeps_of_core hcore, heap_of_core hcore SessionShared.task (fun _ => rfl) sid,
      fun h => absurd h hnot⟩

lemma keeps_wakeup {k : Kernel} {nowMs : ℕ} {rs : List (Except IoError Recv)} {sid : ℕ}
    {e : Engine} (hruns : (e.heap sid).task ≠ .ended) :
    Keeps none e none (wakeup k nowMs rs sid e) := by
  obtain ⟨hkeeps, htask, hdead⟩ := keeps_drainSession k nowMs rs sid e
  rw [← htask] at hruns
  rw [wakeup]
  split
  all_goals
    rename_i heq
    rw [heq] at hkeeps hruns hdead
  · exact hkeeps
  · exact hkeeps
  · exact hkeeps.trans (keeps_endTask hruns (.inl (hdead rfl)))
  · exact hkeeps.trans (keeps_setTask hruns (by simp))

lemma keeps_sendPending {k : Kernel} {sid : ℕ} {piece : Bytes} {rest : List Bytes} {e : Engine}
    (hruns : (e.heap sid).task ≠ .ended) : Keeps none e none (sendPending k sid piece rest e) := by
  obtain ⟨c, stats, dropped, heq, -, -, hactive, -⟩ := sendPending_spec k sid piece rest e
  have htask : (if rest = [] then Task.waiting else .sending rest) ≠ .ended := by
    split <;> simp
  refine (keeps_setTask hruns htask).trans (keeps_of_core ?_)
  rw [heq]
  simp only [Engine.core, Engine.logAll, Engine.setTask, Engine.modify, hactive, Engine.mk.injEq,
    true_and, and_true]
  funext i
  by_cases hi : i = sid
  · subst hi
    simp
  · simp [hi]

/-! ## Every step -/

lemma core_applyGroKnob (k : Kernel) (e : Engine) : (e.applyGroKnob k).core = e.core := by
  simp only [Engine.applyGroKnob]
  split
  · rfl
  split
  · rfl
  split
  · rfl
  split
  · rfl
  split
  · rfl
  · rfl

lemma activeConnections_observeAddrs (s : ForwarderStats) (addrs : List IpAddr) :
    (s.observeAddrs addrs).2.activeConnections = s.activeConnections := by
  simp only [ForwarderStats.observeAddrs]
  split
  · split <;> rfl
  · rfl

lemma keeps_refresh (lookup : Except Str (List IpAddr)) (e : Engine) :
    Keeps none e none (refresh lookup e) := by
  rw [refresh]
  split
  · exact keeps_of_marks rfl rfl rfl (activeConnections_observeAddrs _ _) (fun _ => rfl)
      (fun _ => rfl) (fun _ => Iff.rfl) (fun _ => id) (fun _ => id)
  · exact keeps_of_marks rfl rfl rfl rfl (fun _ => rfl) (fun _ => rfl) (fun _ => Iff.rfl)
      (fun _ => id) (fun _ => id)

/-- **Every step keeps the ownership of sessions**, and the sum of the gauge and of the permits
left. -/
theorem keeps_step {e e' : Engine} {a : Action} (h : step e a = some e') :
    Keeps none e none e' := by
  -- the steps that touch neither a session nor a counter
  have hsame : ∀ e' : Engine, e'.sessions = e.sessions → e'.fresh = e.fresh →
      e'.udpLimit = e.udpLimit → e'.stats = e.stats → e'.heap = e.heap →
      (e.cancelled = true → e'.cancelled = true) → Keeps none e none e' := by
    intro e' h₁ h₂ h₃ h₄ h₅ h₆
    refine keeps_of_marks h₁ h₂ h₃ (by rw [h₄]) ?_ ?_ ?_ ?_ ?_
    · simp [h₅]
    · simp [h₅]
    · simp [h₅]
    · simp [h₅]
    · intro i hi
      simp only [Engine.tokenCancelled, h₅, Bool.or_eq_true] at hi ⊢
      exact hi.imp h₆ id
  cases a with
  | readable k nowMs rs => exact respects_keeps.readable h
  | tick k nowMs =>
    obtain ⟨-, rfl⟩ : _ ∧ _ = e' := by simpa [step] using h
    exact (keeps_retain _ e).trans (keeps_of_core (core_applyGroKnob k _))
  | targetsChanged =>
    obtain ⟨-, rfl⟩ : _ ∧ _ = e' := by simpa [step] using h
    have hseen := hsame { e with targets := { e.targets with seen := e.targets.version } } rfl rfl
      rfl rfl rfl id
    refine hseen.trans ?_
    exact keeps_retain (fun s => decide (s.remote ∈ e.targets.value)) _
  | refresherGone =>
    obtain ⟨-, rfl⟩ : _ ∧ _ = e' := by simpa [step] using h
    exact hsame _ rfl rfl rfl rfl rfl id
  | resolve lookup =>
    obtain ⟨-, rfl⟩ : _ ∧ _ = e' := by simpa [step] using h
    exact keeps_refresh lookup e
  | refresherStop =>
    obtain ⟨-, rfl⟩ : _ ∧ _ = e' := by simpa [step] using h
    exact hsame _ rfl rfl rfl rfl rfl id
  | reload settings =>
    obtain rfl := Option.some.inj h
    exact hsame _ rfl rfl rfl rfl rfl id
  | cancel =>
    obtain rfl := Option.some.inj h
    exact hsame _ rfl rfl rfl rfl rfl fun _ => rfl
  | shutdown =>
    obtain ⟨-, rfl⟩ : _ ∧ _ = e' := by simpa [step] using h
    exact (keeps_retain _ e).trans (keeps_of_marks rfl rfl rfl rfl (fun _ => rfl) (fun _ => rfl)
      (fun _ => Iff.rfl) (fun _ => id) (fun _ => id))
  | sessionCancelled sid =>
    obtain ⟨⟨hruns, htoken⟩, rfl⟩ : (_ ∧ _) ∧ _ = e' := by simpa [step] using h
    exact keeps_endTask hruns (.inr htoken)
  | sessionNotReady sid =>
    obtain ⟨hwaiting, rfl⟩ : _ ∧ _ = e' := by simpa [step] using h
    refine (keeps_setDead none e sid).trans (keeps_endTask ?_ (.inl ?_))
    · simp [Engine.modify, hwaiting]
    · simp [Engine.modify]
  | sessionReady k nowMs rs sid =>
    obtain ⟨hwaiting, rfl⟩ : _ ∧ _ = e' := by simpa [step] using h
    exact keeps_wakeup (by rw [hwaiting]; simp)
  | sessionSend k sid =>
    simp only [step] at h
    split at h
    · rename_i piece rest hsending
      obtain rfl := Option.some.inj h
      exact keeps_sendPending (by rw [hsending]; simp)
    · cases h

lemma owned_start (cfg : ForwarderConfig) (knobs : RuntimeKnobs) (literal : Option IpAddr)
    (udpLimit : ℕ) : Owned none (Engine.start cfg knobs literal udpLimit) where
  keyed := by simp [Engine.start]
  strong := by simp [Engine.start, Engine.tabled, Engine.taskRuns]
  unused := by simp [Engine.start]
  extra_lt := by simp
  active := by simp [Engine.start, Engine.owned, ForwarderStats.withProtocol]
  alive := by simp [Engine.start]

end Rfw.Udp
