/-
# What one step carries

`Moved given answers evs e e'` is the contract of every action of a forwarder, seen from the
network: when the datagrams `given c` were taken from the client `c` and `answers sid` from the
upstream socket of a session, the outside calls `evs` emit a subsequence of them in each direction.
Between two actions, the datagrams of a session that still wait for the listener are those of its
blocked reply.

The contract also follows the offload of the sockets: a socket gets receive offload only when its
receives report it.
-/
import Rfw.Udp.Ownership
import Mathlib.Data.List.Flatten

namespace Rfw.Udp

open Lib

/-! ## What a trace says -/

/-- The datagrams that the kernel accepted for the target on behalf of a client. -/
def sentUp (client : SocketAddr) (evs : List Event) : List Bytes :=
  evs.flatMap fun
    | .sent _ c call => if c = client then call.out else []
    | _ => []

@[simp] lemma sentUp_append (client : SocketAddr) (evs evs' : List Event) :
    sentUp client (evs ++ evs') = sentUp client evs ++ sentUp client evs' :=
  List.flatMap_append

lemma sentUp_sent (client c : SocketAddr) (sid : ℕ) (cs : List Call) :
    sentUp client (cs.map (.sent sid c)) = if c = client then outOf cs else [] := by
  by_cases h : c = client
  · simp [sentUp, outOf, List.flatMap_map, h]
  · simp [sentUp, List.flatMap_map, h]

/-- The outside calls that can put a datagram on the wire. -/
def Event.carries : Event → Bool
  | .sent _ _ _ | .replied _ _ _ => true
  | _ => false

lemma sentUp_eq_nil (client : SocketAddr) {evs : List Event} (h : ∀ ev ∈ evs, ev.carries = false) :
    sentUp client evs = [] := by
  refine List.flatMap_eq_nil_iff.mpr fun ev hev => ?_
  have := h ev hev
  cases ev <;> simp_all [Event.carries]

lemma repliedDown_eq_nil (sid : ℕ) {evs : List Event} (h : ∀ ev ∈ evs, ev.carries = false) :
    repliedDown sid evs = [] := by
  refine List.flatMap_eq_nil_iff.mpr fun ev hev => ?_
  have := h ev hev
  cases ev <;> simp_all [Event.carries]

/-- The datagrams of a blocked reply that are still to be sent. -/
def Task.pending : Task → List Bytes
  | .sending rest => rest
  | .waiting | .ended => []

/-! ## The contract -/

/-- The contract of a part of a run, with the outside calls `evs`. -/
structure Moved (given : SocketAddr → List Bytes) (answers : ℕ → List Bytes) (evs : List Event)
    (e e' : Engine) : Prop where
  trace : e'.trace = e.trace ++ evs
  fresh : e.fresh ≤ e'.fresh
  kept : ∀ sid < e.fresh, (e'.heap sid).client = (e.heap sid).client ∧
    (e'.heap sid).gro = (e.heap sid).gro
  aware : e.off.groAware = true → e'.off.groAware = true
  up : ∀ c, (sentUp c evs).Sublist (given c)
  down : ∀ sid, (repliedDown sid evs ++ (e'.heap sid).task.pending).Sublist
    ((e.heap sid).task.pending ++ answers sid)
  addressed : ∀ sid client call, .replied sid client call ∈ evs →
    client = (e'.heap sid).client ∧ sid < e'.fresh
  listener : .setGro none true ∈ evs → e'.off.groAware = true
  upstream : ∀ sid, .setGro (some sid) true ∈ evs → (e'.heap sid).gro = true ∧ sid < e'.fresh

section Moved

variable {given given' : SocketAddr → List Bytes} {answers answers' : ℕ → List Bytes}
  {evs evs' : List Event} {e e' e'' : Engine}

lemma Moved.trans (h : Moved given answers evs e e') (h' : Moved given' answers' evs' e' e'') :
    Moved (fun c => given c ++ given' c) (fun sid => answers sid ++ answers' sid) (evs ++ evs')
      e e'' where
  trace := by rw [h'.trace, h.trace, List.append_assoc]
  fresh := h.fresh.trans h'.fresh
  kept := by
    intro sid hsid
    obtain ⟨hclient, hgro⟩ := h.kept sid hsid
    obtain ⟨hclient', hgro'⟩ := h'.kept sid (hsid.trans_le h.fresh)
    exact ⟨hclient'.trans hclient, hgro'.trans hgro⟩
  aware := fun haware => h'.aware (h.aware haware)
  up := by
    intro c
    rw [sentUp_append]
    exact (h.up c).append (h'.up c)
  down := by
    intro sid
    rw [repliedDown_append, List.append_assoc]
    -- what is pending in the middle is carried on by the second part
    calc (repliedDown sid evs ++ (repliedDown sid evs' ++ (e''.heap sid).task.pending)).Sublist
          (repliedDown sid evs ++ ((e'.heap sid).task.pending ++ answers' sid)) :=
        (List.Sublist.refl _).append (h'.down sid)
      List.Sublist _ (((e.heap sid).task.pending ++ answers sid) ++ answers' sid) := by
        rw [← List.append_assoc]
        exact (h.down sid).append (List.Sublist.refl _)
      _ = (e.heap sid).task.pending ++ (answers sid ++ answers' sid) := List.append_assoc _ _ _
  addressed := by
    intro sid client call hmem
    rcases List.mem_append.mp hmem with hmem | hmem
    · obtain ⟨hclient, hlt⟩ := h.addressed sid client call hmem
      exact ⟨hclient.trans (h'.kept sid hlt).1.symm, hlt.trans_le h'.fresh⟩
    · exact h'.addressed sid client call hmem
  listener := by
    intro hmem
    rcases List.mem_append.mp hmem with hmem | hmem
    · exact h'.aware (h.listener hmem)
    · exact h'.listener hmem
  upstream := by
    intro sid hmem
    rcases List.mem_append.mp hmem with hmem | hmem
    · obtain ⟨hgro, hlt⟩ := h.upstream sid hmem
      exact ⟨(h'.kept sid hlt).2.trans hgro, hlt.trans_le h'.fresh⟩
    · exact h'.upstream sid hmem

/-- Calls that put nothing on the wire. -/
lemma moved_setup (htrace : e'.trace = e.trace ++ evs)
    (hevs : ∀ ev ∈ evs, ev.carries = false) (hfresh : e.fresh ≤ e'.fresh)
    (hkept : ∀ sid < e.fresh, (e'.heap sid).client = (e.heap sid).client ∧
      (e'.heap sid).gro = (e.heap sid).gro)
    (haware : e.off.groAware = true → e'.off.groAware = true)
    (hpending : ∀ sid, (e'.heap sid).task.pending.Sublist (e.heap sid).task.pending)
    (hlistener : .setGro none true ∈ evs → e'.off.groAware = true)
    (hupstream : ∀ sid, .setGro (some sid) true ∈ evs →
      (e'.heap sid).gro = true ∧ sid < e'.fresh) :
    Moved (fun _ => []) (fun _ => []) evs e e' where
  trace := htrace
  fresh := hfresh
  kept := hkept
  aware := haware
  up := by
    intro c
    rw [sentUp_eq_nil c hevs]
  down := by
    intro sid
    rw [repliedDown_eq_nil sid hevs, List.nil_append, List.append_nil]
    exact hpending sid
  addressed := fun sid client call hmem => absurd (hevs _ hmem) (by simp [Event.carries])
  listener := hlistener
  upstream := hupstream

/-- What the network does not notice: neither the calls nor the sessions and sockets it knows. -/
structure Unnoticed (e e' : Engine) : Prop where
  trace : e'.trace = e.trace
  fresh : e'.fresh = e.fresh
  aware : e'.off.groAware = e.off.groAware
  client : ∀ sid, (e'.heap sid).client = (e.heap sid).client
  gro : ∀ sid, (e'.heap sid).gro = (e.heap sid).gro
  pending : ∀ sid, (e'.heap sid).task.pending.Sublist (e.heap sid).task.pending

lemma Unnoticed.moved (h : Unnoticed e e') : Moved (fun _ => []) (fun _ => []) [] e e' :=
  moved_setup (by rw [h.trace, List.append_nil]) (by simp) h.fresh.ge
    (fun sid _ => ⟨h.client sid, h.gro sid⟩) (fun haware => h.aware.trans haware) h.pending
    (by simp) (by simp)

lemma Unnoticed.trans (h : Unnoticed e e') (h' : Unnoticed e' e'') : Unnoticed e e'' where
  trace := h'.trace.trans h.trace
  fresh := h'.fresh.trans h.fresh
  aware := h'.aware.trans h.aware
  client := fun sid => (h'.client sid).trans (h.client sid)
  gro := fun sid => (h'.gro sid).trans (h.gro sid)
  pending := fun sid => (h'.pending sid).trans (h.pending sid)

lemma Unnoticed.refl (e : Engine) : Unnoticed e e :=
  ⟨rfl, rfl, rfl, fun _ => rfl, fun _ => rfl, fun _ => List.Sublist.refl _⟩

/-- A call that puts nothing on the wire and is no socket option. -/
lemma moved_log (e : Engine) {ev : Event} (hev : ev.carries = false)
    (hopt : ∀ session, ev ≠ .setGro session true) :
    Moved (fun _ => []) (fun _ => []) [ev] e (e.log ev) :=
  moved_setup rfl (by simpa using hev) le_rfl (fun _ _ => ⟨rfl, rfl⟩) id
    (fun _ => List.Sublist.refl _) (fun hmem => absurd (List.mem_singleton.mp hmem).symm (hopt _))
    (fun _ hmem => absurd (List.mem_singleton.mp hmem).symm (hopt _))

end Moved

/-! ## Closing sessions -/

lemma unnoticed_removeEntry (e : Engine) (client : SocketAddr) :
    Unnoticed e (e.removeEntry client) := by
  obtain ⟨_, _, heap, heq, hheap⟩ := removeEntry_spec e client
  have hclient : ∀ sid, (heap sid).client = (e.heap sid).client := fun sid => by rw [hheap sid]
  have hgro : ∀ sid, (heap sid).gro = (e.heap sid).gro := fun sid => by rw [hheap sid]
  have htask : ∀ sid, (heap sid).task = (e.heap sid).task := fun sid => by rw [hheap sid]
  rw [heq]
  exact ⟨rfl, rfl, rfl, hclient, hgro, fun sid => by simp only [htask, List.Sublist.refl]⟩

lemma unnoticed_retain (keep : SessionShared → Bool) (e : Engine) :
    Unnoticed e (e.retain keep) :=
  retain_rule Unnoticed.refl Unnoticed.trans unnoticed_removeEntry keep e

/-- A task that ends drops what is left of a blocked reply. -/
lemma unnoticed_endTask (e : Engine) (sid : ℕ) : Unnoticed e (e.endTask sid) := by
  obtain ⟨hsessions, hfresh, -, hheap, -⟩ := dropShared_fields (e.setTask sid .ended) sid
  obtain ⟨_, _, _, heq, -⟩ := dropShared_spec (e.setTask sid .ended) sid
  refine ⟨?_, hfresh, ?_, fun i => ?_, fun i => ?_, fun i => ?_⟩
  · rw [Engine.endTask, heq]
    rfl
  · rw [Engine.endTask, heq]
    rfl
  · rw [Engine.endTask, hheap, setTask_heap]
  · rw [Engine.endTask, hheap, setTask_heap]
  · rw [Engine.endTask, hheap, setTask_heap]
    by_cases hi : i = sid
    · simp [hi, Task.pending]
    · simp [hi]

lemma unnoticed_setDead (e : Engine) (sid : ℕ) :
    Unnoticed e (e.modify sid fun s => { s with dead := true }) := by
  refine ⟨rfl, rfl, rfl, fun i => ?_, fun i => ?_, fun i => ?_⟩
  all_goals
    by_cases hi : i = sid
    · subst hi
      simp [Engine.modify]
    · simp [Engine.modify, hi]

/-! ## Serving clients -/

/-- Forwarding through a session of the client, after its entry went into the table. -/
lemma moved_forwarded {k : Kernel} {nowMs : ℕ} {ps : List Bytes} {cs : List Call} {t : Turn}
    {entry : SessionEntry} {q : Turn × SessionEntry} {client : SocketAddr}
    (h : Forwarded k nowMs ps cs (t, entry) q) (hclient : (t.heap entry.shared).client = client) :
    Moved (fun c => if client = c then ps else []) (fun _ => [])
      (cs.map (.sent entry.shared client)) t.toEngine (Turn.store client q).toEngine := by
  have hheap : ∀ {α : Type} (g : SessionShared → α),
      (∀ s, g { s with lastActivityMs := 0, rxDatagrams := 0 } = g s) →
      ∀ sid, g ((Turn.store client q).heap sid) = g (t.heap sid) :=
    fun g hg sid => heap_of_core h.core g hg sid
  have hfresh : q.1.fresh = t.fresh := fresh_of_core h.core
  have hcarried : ∀ ev ∈ cs.map (Event.sent entry.shared client), ∃ call,
      ev = .sent entry.shared client call := by
    intro ev hev
    obtain ⟨call, -, rfl⟩ := List.mem_map.mp hev
    exact ⟨call, rfl⟩
  exact {
    trace := by rw [← hclient]; exact h.trace
    fresh := hfresh.ge
    kept := fun sid _ =>
      ⟨hheap SessionShared.client (fun _ => rfl) sid, hheap SessionShared.gro (fun _ => rfl) sid⟩
    aware := fun haware => (congrArg ListenerOffload.groAware h.off).trans haware
    up := by
      intro c
      rw [sentUp_sent]
      split
      · exact h.sublist
      · exact List.Sublist.refl _
    down := by
      intro sid
      have hnone : repliedDown sid (cs.map (.sent entry.shared client)) = [] := by
        refine List.flatMap_eq_nil_iff.mpr fun ev hev => ?_
        obtain ⟨call, rfl⟩ := hcarried ev hev
        rfl
      rw [hnone, List.nil_append, List.append_nil, hheap SessionShared.task fun _ => rfl]
    addressed := by
      intro sid c call hmem
      obtain ⟨_, heq⟩ := hcarried _ hmem
      cases heq
    listener := by
      intro hmem
      obtain ⟨_, heq⟩ := hcarried _ hmem
      cases heq
    upstream := by
      intro sid hmem
      obtain ⟨_, heq⟩ := hcarried _ hmem
      cases heq }

/-- A failed attempt to open a session. -/
lemma OpenFailed.moved {why : OpenFailure} {n : ℕ} {t t' : Turn} (h : OpenFailed why n t t') :
    Moved (fun _ => []) (fun _ => []) why.events t.toEngine t'.toEngine := by
  have hfresh : t'.fresh = t.fresh := fresh_of_core h.core
  refine moved_setup h.trace ?_ hfresh.ge (fun sid _ => ?_) (fun haware => ?_) (fun sid => ?_) ?_ ?_
  · cases why <;> simp [OpenFailure.events, Event.carries]
  · rw [h.heap]
    exact ⟨rfl, rfl⟩
  · rw [h.off]
    exact haware
  · rw [h.heap]
  · cases why <;> simp [OpenFailure.events]
  · cases why <;> simp [OpenFailure.events]

/-- A new session: its socket has receive offload exactly when its receives report it. -/
lemma OpenedSession.moved {k : Kernel} {nowMs : ℕ} {client : SocketAddr} {t t' : Turn}
    {entry : SessionEntry} (h : OpenedSession k nowMs client t entry t') :
    ∃ evs, Moved (fun _ => []) (fun _ => []) evs t.toEngine t'.toEngine ∧
      (t'.heap entry.shared).client = client := by
  obtain ⟨remote, gro, -, hheap, evs, htrace, hevs⟩ := h.opened
  obtain ⟨unsupported, hoff, -⟩ := h.rest
  obtain ⟨-, hfresh, -⟩ := h.fields
  refine ⟨_, moved_setup htrace ?_ (by rw [hfresh]; exact Nat.le_succ _) (fun sid hsid => ?_)
    (fun haware => ?_) (fun sid => ?_) ?_ ?_, ?_⟩
  · intro ev hev
    rcases List.mem_cons.mp hev with rfl | hev
    · rfl
    rcases List.mem_cons.mp hev with rfl | hev
    · rfl
    rw [hevs ev hev]
    rfl
  · rw [hheap, Function.update_of_ne (Nat.ne_of_lt hsid)]
    exact ⟨rfl, rfl⟩
  · rw [hoff]
    exact haware
  · rw [hheap]
    by_cases hsid : sid = t.fresh
    · subst hsid
      simp [Task.pending]
    · rw [Function.update_of_ne hsid]
  · -- the option is only set on the new socket, never on the listener
    intro hmem
    have hmem : Event.setGro none true ∈ evs := by simpa using hmem
    have := hevs _ hmem
    simp at this
  · intro sid hmem
    have hmem : Event.setGro (some sid) true ∈ evs := by simpa using hmem
    obtain ⟨rfl, rfl⟩ : sid = t.fresh ∧ gro = true := by
      have := hevs _ hmem
      simp only [Event.setGro.injEq, Option.some.injEq] at this
      exact ⟨this.1, this.2.symm⟩
    rw [hheap, hfresh, Function.update_self]
    exact ⟨rfl, Nat.lt_succ_self _⟩
  · rw [hheap, h.entry_eq, Function.update_self]

/-- Serving a client carries its datagrams. -/
lemma moved_serveClient {k : Kernel} {nowMs : ℕ} (n : ℕ) {client : SocketAddr} {ps : List Bytes}
    {forward : Turn → SessionEntry → Turn × SessionEntry}
    (hforward : ∀ t entry, ∃ cs, Forwarded k nowMs ps cs (t, entry) (forward t entry)) {t : Turn}
    (howned : Owned none t.toEngine) :
    ∃ evs, Moved (fun c => if client = c then ps else []) (fun _ => []) evs t.toEngine
      (serveClient k nowMs n client forward t).toEngine := by
  rcases serveClient_cases k nowMs n client forward t with
    ⟨entry, _, hget, _, heq⟩ | ⟨why, _, _, hfailed⟩ | ⟨entry, t', _, hopened, heq⟩
  · obtain ⟨cs, h⟩ := hforward t entry
    rw [heq]
    exact ⟨_, moved_forwarded h (howned.keyed client entry hget).1⟩
  · -- without a session the datagrams are dropped, and nothing is a subsequence
    have h := (unnoticed_removeEntry t.toEngine client).moved.trans hfailed.moved
    refine ⟨_, { h with up := fun c => ?_ }⟩
    exact (h.up c).trans (List.nil_sublist _)
  · obtain ⟨cs, h⟩ := hforward t' entry
    obtain ⟨evs, hmoved, hclient⟩ := hopened.moved
    rw [heq]
    exact ⟨_, (unnoticed_removeEntry t.toEngine client).moved.trans
      (hmoved.trans (moved_forwarded h hclient))⟩

/-! ## The listener's socket -/

/-- Handling one receive, from a state in which the ownership of sessions is in order. -/
def Carries (ps : SocketAddr → List Bytes) (e e' : Engine) : Prop :=
  Owned none e → Owned none e' ∧ ∃ evs, Moved ps (fun _ => []) evs e e'

lemma carries_onClientDatagram (k : Kernel) (nowMs : ℕ) (client : SocketAddr) (data : Bytes)
    (t : Turn) :
    Carries (fun c => if client = c then [data] else []) t.toEngine
      (onClientDatagram k nowMs client data t).toEngine := by
  intro howned
  exact ⟨(respects_keeps.onClientDatagram k nowMs client data t howned).1,
    moved_serveClient 1 (fun t entry => forwarded_forwardUpstream k nowMs t entry data) howned⟩

lemma carries_onClientBuffer (k : Kernel) (nowMs : ℕ) (client : SocketAddr) (data : Bytes)
    (segment : ℕ) (t : Turn) :
    Carries (fun c => if client = c then pieces segment data else []) t.toEngine
      (onClientBuffer k nowMs client data segment t).toEngine := by
  by_cases hburst : isCoalesced data.length segment = true
  · intro howned
    refine ⟨(respects_keeps.onClientBuffer k nowMs client data segment t howned).1, ?_⟩
    rw [onClientBuffer, if_neg (by simp [hburst])]
    exact moved_serveClient _
      (fun t entry => forwarded_forwardUpstreamCoalesced k nowMs t entry hburst) howned
  · rw [onClientBuffer, if_pos (by simp [hburst]), pieces_of_not_coalesced hburst]
    exact carries_onClientDatagram k nowMs client data t

/-- The same with the receive noted first. -/
lemma Carries.received {ps : SocketAddr → List Bytes} {e e' : Engine} {client : SocketAddr}
    {data : Bytes} {segment : ℕ} (h : Carries ps (e.log (.received client data segment)) e') :
    Carries ps e e' := by
  intro howned
  have hlog : Keeps none e none (e.log (.received client data segment)) := keeps_of_core rfl
  obtain ⟨howned', evs, hmoved⟩ := h (hlog howned).1
  exact ⟨howned', _, (moved_log e rfl (by simp)).trans hmoved⟩

lemma carries_handlePlain (k : Kernel) (nowMs : ℕ) (r : Bytes × SocketAddr) (t : Turn) :
    Carries (fun c => if r.2 = c then [r.1] else []) t.toEngine
      (handlePlain k nowMs r t).toEngine :=
  (carries_onClientDatagram k nowMs r.2 r.1 (t.onEngine (·.log (.received r.2 r.1 0)))).received

lemma carries_handleGro (k : Kernel) (nowMs : ℕ) (r : Recv) (t : Turn) :
    Carries (fun c => if r.sender = some c then r.carried true else []) t.toEngine
      (handleGro k nowMs r t).toEngine := by
  rw [handleGro]
  split
  · rename_i hsender
    intro howned
    rw [hsender]
    exact ⟨howned, _, (Unnoticed.refl _).moved⟩
  · rename_i client hsender
    have hgiven : (fun c => if r.sender = some c then r.carried true else []) =
        fun c => if client = c then r.carried true else [] := by
      simp [hsender]
    rw [hgiven, Recv.carried, if_pos rfl]
    dsimp only
    split
    · have hdropped : Carries (fun c => if client = c then [] else [])
          (t.log (.received client r.data r.segment))
          (t.log (.received client r.data r.segment)) := by
        intro howned
        exact ⟨howned, _, by simpa using (Unnoticed.refl _).moved⟩
      exact hdropped.received
    · exact (carries_onClientBuffer k nowMs client r.data r.segment
        (t.onEngine (·.log (.received client r.data r.segment)))).received

/-- Handling receives one after the other. -/
lemma carries_foldl {ρ : Type*} {handle : ρ → Turn → Turn} {given : ρ → SocketAddr → List Bytes}
    (h : ∀ r t, Carries (given r) t.toEngine (handle r t).toEngine) (rs : List ρ) (t : Turn) :
    Carries (fun c => rs.flatMap fun r => given r c) t.toEngine
      (rs.foldl (fun t r => handle r t) t).toEngine := by
  induction rs generalizing t with
  | nil => exact fun howned => ⟨howned, _, (Unnoticed.refl _).moved⟩
  | cons r rs ih =>
    intro howned
    obtain ⟨howned₁, evs₁, hmoved₁⟩ := h r t howned
    obtain ⟨howned₂, evs₂, hmoved₂⟩ := ih (handle r t) howned₁
    exact ⟨howned₂, _, hmoved₁.trans hmoved₂⟩

/-- The successful receives of a drain come first among the successful results. -/
lemma receipts_leading {ρ : Type*} (n : ℕ) (rs : List (Except IoError ρ)) :
    receipts n rs <+: rs.filterMap Except.toOption := by
  induction n generalizing rs with
  | zero => exact List.nil_prefix
  | succ n ih =>
    rcases rs with _ | ⟨err | r, rs⟩
    · exact List.nil_prefix
    · have hskip : (Except.error err :: rs).filterMap (fun r => r.toOption) =
          rs.filterMap Except.toOption := rfl
      rw [hskip, receipts]
      split
      · exact List.nil_prefix
      · exact List.nil_prefix
      · exact ih rs
      · exact ih rs
    · exact List.prefix_cons_inj r |>.mpr (ih rs)

/-- A drain carries what its receives carry. -/
lemma carries_drainWith {ρ : Type*} {handle : ρ → Turn → Turn}
    {given : ρ → SocketAddr → List Bytes}
    (h : ∀ r t, Carries (given r) t.toEngine (handle r t).toEngine) (rs : List (Except IoError ρ))
    (e : Engine) :
    Carries (fun c => (rs.filterMap Except.toOption).flatMap fun r => given r c) e
      (drainWith handle rs e).2 := by
  intro howned
  have hloop := carries_foldl h (receipts listenerBatch rs) { e with batch := {} }
  rw [← receiveLoop_eq_foldl] at hloop
  obtain ⟨howned', evs, hmoved⟩ := hloop howned
  have hflush : ∀ t : Turn, Unnoticed t.toEngine (flushSent t) ∧ (flushSent t).core = t.core := by
    intro t
    simp only [flushSent]
    exact ⟨⟨rfl, rfl, rfl, fun _ => rfl, fun _ => rfl, fun _ => List.Sublist.refl _⟩, by
      split <;> split <;> rfl⟩
  have hall := hmoved.trans (hflush _).1.moved
  refine ⟨(keeps_of_core (hflush _).2 howned').1, _, { hall with up := fun c => ?_ }⟩
  refine (hall.up c).trans ?_
  rw [List.append_nil]
  exact (receipts_leading listenerBatch rs).sublist.flatMap _

/-- The results of plain receives, with what they carry for a client. -/
lemma flatMap_plain (rs : List (Except IoError Recv)) (c : SocketAddr) :
    ((rs.map (·.bind Recv.plain)).filterMap Except.toOption).flatMap
        (fun r => if r.2 = c then [r.1] else []) =
      (rs.filterMap Except.toOption).flatMap
        fun r => if r.sender = some c then r.carried false else [] := by
  induction rs with
  | nil => rfl
  | cons r rs ih =>
    rcases r with err | ⟨data, segment, _ | client, truncated⟩
    · simpa [List.filterMap_cons, Except.toOption, Except.bind] using ih
    · simpa [List.filterMap_cons, Except.toOption, Except.bind, Recv.plain] using ih
    · simpa [List.filterMap_cons, Except.toOption, Except.bind, Recv.plain, Recv.carried] using ih

/-- The datagrams that a client gives away to a sequence of receives on the listener. -/
def givenBy (aware : Bool) (rs : List (Except IoError Recv)) (c : SocketAddr) : List Bytes :=
  (rs.filterMap Except.toOption).flatMap fun r =>
    if r.sender = some c then r.carried aware else []

/-- The listener is readable. -/
lemma moved_readable {k : Kernel} {nowMs : ℕ} {rs : List (Except IoError Recv)} {e e' : Engine}
    (howned : Owned none e) (h : step e (.readable k nowMs rs) = some e') :
    ∃ evs, Moved (givenBy e.off.groAware rs) (fun _ => []) evs e e' := by
  simp only [step] at h
  split at h
  · split at h
    · rename_i haware
      obtain rfl := Option.some.inj h
      rw [haware]
      exact (carries_drainWith (carries_handleGro k nowMs) rs e howned).2
    · -- a plain receive takes every buffer for one datagram
      rename_i haware
      obtain rfl := Option.some.inj h
      obtain ⟨-, evs, hmoved⟩ := carries_drainWith (carries_handlePlain k nowMs)
        (rs.map (·.bind Recv.plain)) e howned
      simp only [flatMap_plain] at hmoved
      rw [Bool.eq_false_iff.mpr haware]
      exact ⟨evs, hmoved⟩
  · cases h

/-! ## The session tasks -/

/-- A drained session, as far as the network notices. -/
lemma drainSession_noticed (k : Kernel) (nowMs : ℕ) (rs : List (Except IoError Recv)) (sid : ℕ)
    (e : Engine) :
    ∃ evs, (drainSession k nowMs rs sid e).2.trace = e.trace ++ evs ∧
      (∀ ev ∈ evs, (∃ data segment, ev = .answered sid data segment) ∨
        ∃ call, ev = .replied sid (e.heap sid).client call) ∧
      (repliedDown sid evs ++ pendingPieces (drainSession k nowMs rs sid e).1.pending).Sublist
        ((rs.filterMap Except.toOption).flatMap (Recv.carried (e.heap sid).gro)) ∧
      (drainSession k nowMs rs sid e).2.off.groAware = e.off.groAware ∧
      (drainSession k nowMs rs sid e).2.fresh = e.fresh ∧
      ∀ i, ((drainSession k nowMs rs sid e).2.heap i).client = (e.heap i).client ∧
        ((drainSession k nowMs rs sid e).2.heap i).gro = (e.heap i).gro ∧
        ((drainSession k nowMs rs sid e).2.heap i).task = (e.heap i).task := by
  obtain ⟨evs, d, h, hflush, -, hsub⟩ := drainSession_drained k nowMs rs sid e
  obtain ⟨htrace, hoff⟩ := flushReceived_rest sid nowMs d
  obtain ⟨gsoOk, hoff'⟩ := h.off
  have hcore := core_drainSession k nowMs rs sid e
  refine ⟨evs, ?_, h.events, hsub, ?_, ?_, fun i => ?_⟩
  · rw [hflush, htrace, h.trace]
  · rw [hflush, hoff, hoff']
  · refine (fresh_of_core hcore).trans ?_
    split <;> rfl
  · rw [heap_of_core hcore SessionShared.client fun _ => rfl,
      heap_of_core hcore SessionShared.gro fun _ => rfl,
      heap_of_core hcore SessionShared.task fun _ => rfl]
    split
    · by_cases hi : i = sid
      · subst hi
        simp [Engine.modify]
      · simp [Engine.modify, hi]
    · exact ⟨rfl, rfl, rfl⟩

/-- What follows the drain: only the task of the session changes, and it holds what is pending. -/
lemma wakeup_noticed {k : Kernel} {nowMs : ℕ} {rs : List (Except IoError Recv)} {sid : ℕ}
    {e e₁ : Engine} {outcome : SessionDrain}
    (hdrain : drainSession k nowMs rs sid e = (outcome, e₁))
    (hwaiting : (e₁.heap sid).task = .waiting) :
    (wakeup k nowMs rs sid e).trace = e₁.trace ∧ (wakeup k nowMs rs sid e).fresh = e₁.fresh ∧
      (wakeup k nowMs rs sid e).off.groAware = e₁.off.groAware ∧
      ∀ i, ((wakeup k nowMs rs sid e).heap i).client = (e₁.heap i).client ∧
        ((wakeup k nowMs rs sid e).heap i).gro = (e₁.heap i).gro ∧
        ((wakeup k nowMs rs sid e).heap i).task.pending.Sublist
          (if i = sid then pendingPieces outcome.pending else (e₁.heap i).task.pending) := by
  -- without a blocked reply, nothing is pending before or after
  have hquiet : ∀ {e' : Engine}, Unnoticed e₁ e' → outcome.pending = none →
      e'.trace = e₁.trace ∧ e'.fresh = e₁.fresh ∧ e'.off.groAware = e₁.off.groAware ∧
        ∀ i, (e'.heap i).client = (e₁.heap i).client ∧ (e'.heap i).gro = (e₁.heap i).gro ∧
          (e'.heap i).task.pending.Sublist
            (if i = sid then pendingPieces outcome.pending else (e₁.heap i).task.pending) := by
    intro e' h hnone
    refine ⟨h.trace, h.fresh, h.aware, fun i => ⟨h.client i, h.gro i, (h.pending i).trans ?_⟩⟩
    by_cases hi : i = sid
    · rw [hi, hwaiting]
      exact List.nil_sublist _
    · rw [if_neg hi]
  rw [wakeup, hdrain]
  cases outcome with
  | idle => exact hquiet (Unnoticed.refl e₁) rfl
  | full => exact hquiet (Unnoticed.refl e₁) rfl
  | dead => exact hquiet (unnoticed_endTask e₁ sid) rfl
  | blocked p =>
    refine ⟨rfl, rfl, rfl, fun i => ?_⟩
    rw [setTask_heap]
    by_cases hi : i = sid
    · simp [hi, Task.pending, SessionDrain.pending, pendingPieces]
    · simp [hi]

/-- The datagrams that a session's socket hands over to a sequence of receives. -/
def answersBy (gro : Bool) (rs : List (Except IoError Recv)) (sid i : ℕ) : List Bytes :=
  if i = sid then (rs.filterMap Except.toOption).flatMap (Recv.carried gro) else []

/-- A session's upstream socket is ready. -/
lemma moved_wakeup (k : Kernel) (nowMs : ℕ) (rs : List (Except IoError Recv)) {sid : ℕ} {e : Engine}
    (howned : Owned none e) (hwaiting : (e.heap sid).task = .waiting) :
    ∃ evs, Moved (fun _ => []) (answersBy (e.heap sid).gro rs sid) evs e
      (wakeup k nowMs rs sid e) := by
  obtain ⟨evs, htrace, hevs, hsub, haware, hfresh, hheap⟩ := drainSession_noticed k nowMs rs sid e
  rcases hdrain : drainSession k nowMs rs sid e with ⟨outcome, e₁⟩
  rw [hdrain] at htrace hsub haware hfresh hheap
  obtain ⟨htrace', hfresh', haware', hheap'⟩ :=
    wakeup_noticed hdrain ((hheap sid).2.2.trans hwaiting)
  have hlt : sid < e.fresh := howned.lt_of_runs (by rw [hwaiting]; simp)
  have hclient : ∀ i, ((wakeup k nowMs rs sid e).heap i).client = (e.heap i).client :=
    fun i => (hheap' i).1.trans (hheap i).1
  refine ⟨evs, ?_⟩
  exact {
    trace := htrace'.trans htrace
    fresh := (hfresh'.trans hfresh).ge
    kept := fun i _ => ⟨hclient i, (hheap' i).2.1.trans (hheap i).2.1⟩
    aware := fun h => (haware'.trans haware).trans h
    up := by
      intro c
      have hnone : sentUp c evs = [] := by
        refine List.flatMap_eq_nil_iff.mpr fun ev hev => ?_
        rcases hevs ev hev with ⟨data, segment, rfl⟩ | ⟨call, rfl⟩ <;> rfl
      rw [hnone]
    down := by
      intro i
      have hpending := (hheap' i).2.2
      by_cases hi : i = sid
      · -- the task was waiting, so all that is pending now came in with this drain
        subst hi
        rw [if_pos rfl] at hpending
        rw [hwaiting, answersBy, if_pos rfl]
        exact ((List.Sublist.refl _).append hpending).trans hsub
      · have hnone : repliedDown i evs = [] := by
          refine List.flatMap_eq_nil_iff.mpr fun ev hev => ?_
          rcases hevs ev hev with ⟨data, segment, rfl⟩ | ⟨call, rfl⟩
          · rfl
          · simp [Ne.symm hi]
        rw [if_neg hi, (hheap i).2.2] at hpending
        rw [hnone, answersBy, if_neg hi, List.append_nil]
        exact hpending
    addressed := by
      intro i client call hmem
      rcases hevs _ hmem with ⟨data, segment, heq⟩ | ⟨call', heq⟩
      · cases heq
      · obtain ⟨rfl, rfl, -⟩ := Event.replied.inj heq
        exact ⟨(hclient i).symm, by rw [hfresh', hfresh]; exact hlt⟩
    listener := by
      intro hmem
      rcases hevs _ hmem with ⟨data, segment, heq⟩ | ⟨call, heq⟩ <;> cases heq
    upstream := by
      intro i hmem
      rcases hevs _ hmem with ⟨data, segment, heq⟩ | ⟨call, heq⟩ <;> cases heq }

/-- One datagram of a blocked reply. -/
lemma moved_sendPending (k : Kernel) {sid : ℕ} {piece : Bytes} {rest : List Bytes} {e : Engine}
    (howned : Owned none e) (hsending : (e.heap sid).task = .sending (piece :: rest)) :
    ∃ evs, Moved (fun _ => []) (fun _ => []) evs e (sendPending k sid piece rest e) := by
  obtain ⟨call, stats, dropped, heq, hsub, -⟩ := sendPending_spec k sid piece rest e
  have hlt : sid < e.fresh := howned.lt_of_runs (by rw [hsending]; simp)
  have hpending : (if rest = [] then Task.waiting else .sending rest).pending = rest := by
    split
    · rename_i hnil
      simp [Task.pending, hnil]
    · rfl
  rw [heq]
  refine ⟨[.replied sid (e.heap sid).client call], ?_⟩
  exact {
    trace := rfl
    fresh := le_rfl
    kept := by
      intro i _
      by_cases hi : i = sid
      · subst hi
        simp
      · simp [hi]
    aware := id
    up := fun _ => List.Sublist.refl _
    down := by
      intro i
      by_cases hi : i = sid
      · -- accepted or failed, the piece leaves the front of what is pending
        subst hi
        simp only [Function.update_self, hpending, hsending]
        simpa [repliedDown, Task.pending] using hsub.append (List.Sublist.refl rest)
      · simp [repliedDown, hi, Ne.symm hi]
    addressed := by
      intro i client call' hmem
      obtain ⟨rfl, rfl, -⟩ := Event.replied.inj (List.mem_singleton.mp hmem)
      exact ⟨by simp, hlt⟩
    listener := by simp
    upstream := by simp }

/-! ## Every step -/

/-- The knob: the listener's receives report offload before its socket gets it. -/
lemma moved_applyGroKnob (k : Kernel) (e : Engine) :
    ∃ evs, Moved (fun _ => []) (fun _ => []) evs e (e.applyGroKnob k) := by
  -- the branches differ in the calls; each that makes one has raised `groAware` before
  have hoff : ∀ {e' : Engine} (evs : List Event), e'.trace = e.trace ++ evs →
      e'.fresh = e.fresh → e'.heap = e.heap → (e.off.groAware = true → e'.off.groAware = true) →
      (∀ ev ∈ evs, e'.off.groAware = true ∧ ∃ ok, ev = .setGro none ok) →
      ∃ evs, Moved (fun _ => []) (fun _ => []) evs e e' := by
    intro e' evs htrace hfresh hheap haware hevs
    refine ⟨evs, moved_setup htrace ?_ hfresh.ge (fun sid _ => by rw [hheap]; exact ⟨rfl, rfl⟩)
      haware (fun sid => by rw [hheap]) (fun hmem => (hevs _ hmem).1) fun sid hmem => ?_⟩
    · intro ev hev
      obtain ⟨-, ok, rfl⟩ := hevs ev hev
      rfl
    · obtain ⟨-, ok, heq⟩ := hevs _ hmem
      cases heq
  simp only [Engine.applyGroKnob]
  split
  · exact hoff [] (by simp) rfl rfl id (by simp)
  split
  · exact hoff [] (by simp) rfl rfl id (by simp)
  split
  · exact hoff [] (by simp) rfl rfl id (by simp)
  split
  · exact hoff [.setGro none true] rfl rfl rfl (fun _ => rfl) (by simp)
  split
  · exact hoff [.setGro none false] rfl rfl rfl (fun _ => rfl)
      (by simp [Engine.log, Engine.markGroUnsupported])
  · exact hoff [.setGro none false] rfl rfl rfl (fun _ => rfl) (by simp [Engine.log])

/-- The datagrams that an action takes from a client. -/
def Action.given (e : Engine) : Action → SocketAddr → List Bytes
  | .readable _ _ rs => givenBy e.off.groAware rs
  | _ => fun _ => []

/-- The datagrams that an action takes from a session's upstream socket. -/
def Action.answers (e : Engine) : Action → ℕ → List Bytes
  | .sessionReady _ _ rs sid => answersBy (e.heap sid).gro rs sid
  | _ => fun _ => []

/-- **Every step carries datagrams as they are.** -/
theorem moved_step {e e' : Engine} {a : Action} (howned : Owned none e)
    (h : step e a = some e') : ∃ evs, Moved (a.given e) (a.answers e) evs e e' := by
  -- the steps that touch neither a session nor a socket
  have hsame : ∀ {e' : Engine}, e'.trace = e.trace → e'.fresh = e.fresh → e'.off = e.off →
      e'.heap = e.heap → ∃ evs, Moved (fun _ => []) (fun _ => []) evs e e' := by
    intro e' htrace hfresh hoff hheap
    refine ⟨[], Unnoticed.moved ⟨htrace, hfresh, by rw [hoff], ?_, ?_, ?_⟩⟩
    all_goals
      intro sid
      rw [hheap]
  cases a with
  | readable k nowMs rs => exact moved_readable howned h
  | tick k nowMs =>
    obtain ⟨-, rfl⟩ : _ ∧ _ = e' := by simpa [step] using h
    obtain ⟨evs, hmoved⟩ := moved_applyGroKnob k (e.sweep nowMs)
    have hswept : Unnoticed e (e.sweep nowMs) := by
      rw [Engine.sweep]
      exact unnoticed_retain _ e
    exact ⟨_, hswept.moved.trans hmoved⟩
  | targetsChanged =>
    obtain ⟨-, rfl⟩ : _ ∧ _ = e' := by simpa [step] using h
    have hclosed := unnoticed_retain (fun s => decide (s.remote ∈ e.targets.value))
      { e with targets := { e.targets with seen := e.targets.version } }
    exact ⟨_, Unnoticed.moved ⟨hclosed.trace, hclosed.fresh, hclosed.aware, hclosed.client,
      hclosed.gro, hclosed.pending⟩⟩
  | refresherGone =>
    obtain ⟨-, rfl⟩ : _ ∧ _ = e' := by simpa [step] using h
    exact hsame rfl rfl rfl rfl
  | resolve lookup =>
    obtain ⟨-, rfl⟩ : _ ∧ _ = e' := by simpa [step] using h
    rw [refresh]
    split
    all_goals
      exact ⟨_, moved_setup rfl (by simp [Event.carries]) le_rfl (fun _ _ => ⟨rfl, rfl⟩) id
        (fun _ => List.Sublist.refl _) (by simp) (by simp)⟩
  | refresherStop =>
    obtain ⟨-, rfl⟩ : _ ∧ _ = e' := by simpa [step] using h
    exact hsame rfl rfl rfl rfl
  | reload settings =>
    obtain rfl := Option.some.inj h
    exact hsame rfl rfl rfl rfl
  | cancel =>
    obtain rfl := Option.some.inj h
    exact hsame rfl rfl rfl rfl
  | shutdown =>
    obtain ⟨-, rfl⟩ : _ ∧ _ = e' := by simpa [step] using h
    have hclosed := unnoticed_retain (fun _ => false) e
    exact ⟨_, Unnoticed.moved ⟨hclosed.trace, hclosed.fresh, hclosed.aware, hclosed.client,
      hclosed.gro, hclosed.pending⟩⟩
  | sessionCancelled sid =>
    obtain ⟨-, rfl⟩ : _ ∧ _ = e' := by simpa [step] using h
    exact ⟨_, (unnoticed_endTask e sid).moved⟩
  | sessionNotReady sid =>
    obtain ⟨-, rfl⟩ : _ ∧ _ = e' := by simpa [step] using h
    exact ⟨_, ((unnoticed_setDead e sid).trans (unnoticed_endTask _ sid)).moved⟩
  | sessionReady k nowMs rs sid =>
    obtain ⟨hwaiting, rfl⟩ : _ ∧ _ = e' := by simpa [step] using h
    exact moved_wakeup k nowMs rs howned hwaiting
  | sessionSend k sid =>
    simp only [step] at h
    split at h
    · rename_i piece rest hsending
      obtain rfl := Option.some.inj h
      exact moved_sendPending k howned hsending
    · cases h

end Rfw.Udp
