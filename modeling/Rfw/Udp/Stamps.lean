/-
# Activity stamps

The listener stamps a session with the time of a batch when a datagram of the batch got through to
the target, and the session's own task with the time of a drain that received something.  The two
overtake each other, and a stamp can be older than the one already there.

`Active` reads the activity of a session off the trace, and `timed_step` says that a step records
it and nothing else.
-/
import Rfw.Udp.Moves

namespace Rfw.Udp

open Lib

/-! ## Stamps -/

/-- A datagram of the session got through to the target. -/
def Event.sends (sid : ℕ) : Event → Bool
  | .sent i _ call => decide (i = sid) && call.ok
  | _ => false

/-- The session received something from the target. -/
def Event.answers (sid : ℕ) : Event → Bool
  | .answered i _ _ => decide (i = sid)
  | _ => false

/-- What work at the time `nowMs` does to the activity times.  The trace grew by `evs`, and the
events in it that count are those that meet `shows`. -/
structure Stamped (shows : ℕ → Event → Bool) (nowMs : ℕ) (evs : List Event) (e e' : Engine) :
    Prop where
  trace : e'.trace = e.trace ++ evs
  fresh : e.fresh ≤ e'.fresh
  opened : ∀ sid, e.fresh ≤ sid → sid < e'.fresh → (e'.heap sid).lastActivityMs = nowMs
  kept : ∀ sid, sid < e.fresh → (e'.heap sid).lastActivityMs =
    if evs.any (shows sid) then max (e.heap sid).lastActivityMs nowMs
    else (e.heap sid).lastActivityMs

namespace Stamped

variable {shows : ℕ → Event → Bool} {nowMs : ℕ} {evs evs' : List Event} {e e' e'' : Engine}

lemma trans (h : Stamped shows nowMs evs e e') (h' : Stamped shows nowMs evs' e' e'') :
    Stamped shows nowMs (evs ++ evs') e e'' where
  trace := by rw [h'.trace, h.trace, List.append_assoc]
  fresh := h.fresh.trans h'.fresh
  opened := by
    intro sid hge hlt
    by_cases hnew : sid < e'.fresh
    · -- opened in the first half, and stamped at most with the same time in the second
      rw [h'.kept sid hnew, h.opened sid hge hnew, max_self, ite_self]
    · exact h'.opened sid (by omega) hlt
  kept := by
    intro sid hlt
    rw [h'.kept sid (hlt.trans_le h.fresh), h.kept sid hlt, List.any_append]
    cases evs.any (shows sid) <;> cases evs'.any (shows sid) <;> simp

/-- Work that opens no session, touches none and shows no activity. -/
lemma quiet (htrace : e'.trace = e.trace ++ evs) (hfresh : e'.fresh = e.fresh)
    (hevs : ∀ sid, ∀ ev ∈ evs, shows sid ev = false)
    (hheap : ∀ sid, (e'.heap sid).lastActivityMs = (e.heap sid).lastActivityMs) :
    Stamped shows nowMs evs e e' where
  trace := htrace
  fresh := hfresh.ge
  opened := by
    intro sid hge hlt
    omega
  kept := by
    intro sid _
    have hnone : evs.any (shows sid) = false := List.any_eq_false.mpr fun ev hev => by
      simp [hevs sid ev hev]
    rw [hnone, hheap]
    simp

end Stamped

/-- Some work at the time `nowMs`, whatever the trace grew by. -/
def Stamps (shows : ℕ → Event → Bool) (nowMs : ℕ) (e e' : Engine) : Prop :=
  ∃ evs, Stamped shows nowMs evs e e'

lemma Stamps.trans {shows : ℕ → Event → Bool} {nowMs : ℕ} {e e' e'' : Engine}
    (h : Stamps shows nowMs e e') (h' : Stamps shows nowMs e' e'') : Stamps shows nowMs e e'' := by
  obtain ⟨evs, h⟩ := h
  obtain ⟨evs', h'⟩ := h'
  exact ⟨evs ++ evs', h.trans h'⟩

/-! ## The listener -/

section Listener

variable {k : Kernel} {nowMs : ℕ}

/-- Something is on the wire exactly when a send was accepted. -/
lemma any_ok_iff {cs : List Call} (h : ∀ c ∈ cs, c.Real) :
    cs.any Call.ok = true ↔ outOf cs ≠ [] := by
  rw [List.any_eq_true, Ne, outOf, List.flatMap_eq_nil_iff, not_forall]
  constructor
  · rintro ⟨c, hc, hok⟩
    refine ⟨c, fun hnone => h c hc hok (hnone hc)⟩
  · rintro ⟨c, hc⟩
    push Not at hc
    obtain ⟨hmem, hout⟩ := hc
    refine ⟨c, hmem, ?_⟩
    by_contra hok
    exact hout (by simp [Call.out, hok])

/-- Forwarding stamps the session if something got through. -/
lemma Forwarded.stamps {ps : List Bytes} {cs : List Call} {t : Turn} {entry : SessionEntry}
    {q : Turn × SessionEntry} (h : Forwarded k nowMs ps cs (t, entry) q) (client : SocketAddr) :
    Stamps Event.sends nowMs t.toEngine (Turn.store client q).toEngine := by
  have hfresh : q.1.fresh = t.fresh := fresh_of_core h.core
  refine ⟨cs.map (.sent entry.shared (t.heap entry.shared).client), ?_⟩
  exact {
    trace := h.trace
    fresh := hfresh.ge
    opened := by
      intro sid hge hlt
      have hlt : sid < q.1.fresh := hlt
      omega
    kept := by
      intro sid _
      show (q.1.heap sid).lastActivityMs = _
      rw [h.heap, List.any_map]
      by_cases hsid : sid = entry.shared
      · have hany : cs.any (Event.sends sid ∘ Event.sent entry.shared
            (t.heap entry.shared).client) = cs.any Call.ok :=
          List.any_congr rfl fun c => by simp [Event.sends, hsid]
        rw [hany, hsid]
        by_cases hout : outOf cs = []
        · have hok : cs.any Call.ok = false := by
            rw [Bool.eq_false_iff, Ne, any_ok_iff h.real]
            exact not_not_intro hout
          simp [hok, activityAfter, hout]
        · have hok : cs.any Call.ok = true := (any_ok_iff h.real).mpr hout
          simp [hok, activityAfter, hout]
      · have hnone : cs.any (Event.sends sid ∘ Event.sent entry.shared
            (t.heap entry.shared).client) = false := by
          simp [Event.sends, Ne.symm hsid]
        rw [hnone]
        simp [hsid] }

/-- Closing the session of a client. -/
lemma stamped_removeEntry (shows : ℕ → Event → Bool) (e : Engine) (client : SocketAddr) :
    Stamped shows nowMs [] e (e.removeEntry client) := by
  obtain ⟨activeConnections, udpLimit, heap, heq, hheap⟩ := removeEntry_spec e client
  have htime : ∀ sid, (heap sid).lastActivityMs = (e.heap sid).lastActivityMs := by
    intro sid
    rw [hheap sid]
  rw [heq]
  exact .quiet (by simp) rfl (by simp) htime

/-- Nothing is opened. -/
lemma OpenFailed.stamps {why : OpenFailure} {n : ℕ} {t t' : Turn} (h : OpenFailed why n t t') :
    Stamps Event.sends nowMs t.toEngine t'.toEngine := by
  refine ⟨why.events, .quiet h.trace (fresh_of_core h.core) ?_ fun sid => by rw [h.heap]⟩
  intro sid ev hev
  cases why <;> simp only [OpenFailure.events, List.mem_cons, List.not_mem_nil, or_false] at hev
  · rw [hev]
    rfl
  · obtain rfl | rfl := hev <;> rfl

/-- A new session is stamped with the time of the batch. -/
lemma OpenedSession.stamps {client : SocketAddr} {t t' : Turn} {entry : SessionEntry}
    (h : OpenedSession k nowMs client t entry t') :
    Stamps Event.sends nowMs t.toEngine t'.toEngine := by
  obtain ⟨remote, gro, -, hheap, evs, htrace, hevs⟩ := h.opened
  obtain ⟨-, hfresh, -⟩ := h.fields
  refine ⟨.acquire true :: .connect true :: evs, ?_⟩
  have hnone : ∀ sid, (Event.acquire true :: Event.connect true :: evs).any (Event.sends sid) =
      false := by
    intro sid
    refine List.any_eq_false.mpr ?_
    rintro ev (_ | ⟨_, _ | ⟨_, hev⟩⟩)
    · simp [Event.sends]
    · simp [Event.sends]
    · rw [hevs ev hev]
      simp [Event.sends]
  exact {
    trace := htrace
    fresh := by
      rw [hfresh]
      omega
    opened := by
      intro sid hge hlt
      obtain rfl : sid = t.fresh := by omega
      rw [hheap, Function.update_self]
    kept := by
      intro sid hlt
      rw [hnone, hheap, Function.update_of_ne (by omega)]
      simp }

/-- Serving a client. -/
lemma stamps_serveClient {n : ℕ} {client : SocketAddr} {ps : List Bytes}
    {forward : Turn → SessionEntry → Turn × SessionEntry}
    (hforward : ∀ t entry, ∃ cs, Forwarded k nowMs ps cs (t, entry) (forward t entry)) (t : Turn) :
    Stamps Event.sends nowMs t.toEngine (serveClient k nowMs n client forward t).toEngine := by
  have hclose : Stamps Event.sends nowMs t.toEngine (t.removeEntry client) :=
    ⟨[], stamped_removeEntry _ t.toEngine client⟩
  rcases serveClient_cases k nowMs n client forward t with
    ⟨entry, _, _, _, heq⟩ | ⟨why, _, _, hfailed⟩ | ⟨entry, t', _, hopened, heq⟩
  · obtain ⟨cs, h⟩ := hforward t entry
    rw [heq]
    exact h.stamps client
  · exact hclose.trans hfailed.stamps
  · obtain ⟨cs, h⟩ := hforward t' entry
    rw [heq]
    exact hclose.trans (hopened.stamps.trans (h.stamps client))

lemma stamps_onClientDatagram (client : SocketAddr) (data : Bytes) (t : Turn) :
    Stamps Event.sends nowMs t.toEngine (onClientDatagram k nowMs client data t).toEngine :=
  stamps_serveClient (fun t entry => forwarded_forwardUpstream k nowMs t entry data) t

lemma stamps_onClientBuffer (client : SocketAddr) (data : Bytes) (segment : ℕ) (t : Turn) :
    Stamps Event.sends nowMs t.toEngine
      (onClientBuffer k nowMs client data segment t).toEngine := by
  rw [onClientBuffer]
  split
  · exact stamps_onClientDatagram client data t
  · rename_i hburst
    exact stamps_serveClient (fun t entry =>
      forwarded_forwardUpstreamCoalesced k nowMs t entry (by simpa using hburst)) t

/-- A receive on the listener is noted. -/
lemma stamps_received (e : Engine) (client : SocketAddr) (data : Bytes) (segment : ℕ) :
    Stamps Event.sends nowMs e (e.log (.received client data segment)) := by
  refine ⟨[.received client data segment], .quiet rfl rfl ?_ fun _ => rfl⟩
  intro sid ev hev
  rw [List.mem_singleton.mp hev]
  rfl

lemma stamps_refl (shows : ℕ → Event → Bool) (e : Engine) : Stamps shows nowMs e e :=
  ⟨[], .quiet (by simp) rfl (by simp) fun _ => rfl⟩

lemma stamps_handlePlain (r : Bytes × SocketAddr) (t : Turn) :
    Stamps Event.sends nowMs t.toEngine (handlePlain k nowMs r t).toEngine :=
  (stamps_received t.toEngine r.2 r.1 0).trans
    (stamps_onClientDatagram r.2 r.1 (t.onEngine (·.log (.received r.2 r.1 0))))

lemma stamps_handleGro (r : Recv) (t : Turn) :
    Stamps Event.sends nowMs t.toEngine (handleGro k nowMs r t).toEngine := by
  rw [handleGro]
  split
  · exact stamps_refl _ _
  · rename_i client _
    have hlog : Stamps Event.sends nowMs t.toEngine
        (t.log (.received client r.data r.segment)) := stamps_received _ _ _ _
    dsimp only
    split
    · exact hlog
    · exact hlog.trans (stamps_onClientBuffer client r.data r.segment
        (t.onEngine (·.log (.received client r.data r.segment))))

/-- A drain of the listener, receive by receive. -/
lemma stamps_drainWith {ρ : Type*} {handle : ρ → Turn → Turn}
    (h : ∀ r t, Stamps Event.sends nowMs t.toEngine (handle r t).toEngine)
    (rs : List (Except IoError ρ)) (e : Engine) :
    Stamps Event.sends nowMs e (drainWith handle rs e).2 := by
  have hfold : ∀ (rs : List ρ) (t : Turn),
      Stamps Event.sends nowMs t.toEngine (rs.foldl (fun t r => handle r t) t).toEngine := by
    intro rs
    induction rs with
    | nil => exact fun t => stamps_refl _ _
    | cons r rs ih => exact fun t => (h r t).trans (ih _)
  have hloop := hfold (receipts listenerBatch rs) { e with batch := {} }
  rw [← receiveLoop_eq_foldl] at hloop
  have hflush : ∀ t : Turn, Stamps Event.sends nowMs t.toEngine (flushSent t) := by
    intro t
    exact ⟨[], .quiet (by simp [flushSent]) rfl (by simp) fun _ => rfl⟩
  exact hloop.trans (hflush _)

/-- The listener is readable. -/
lemma stamps_readable {rs : List (Except IoError Recv)} {e e' : Engine}
    (h : step e (.readable k nowMs rs) = some e') : Stamps Event.sends nowMs e e' := by
  simp only [step] at h
  split at h
  · split at h
    · obtain rfl := Option.some.inj h
      exact stamps_drainWith stamps_handleGro rs e
    · obtain rfl := Option.some.inj h
      exact stamps_drainWith stamps_handlePlain _ e
  · cases h

end Listener

/-! ## The session tasks -/

section Session

variable {k : Kernel} {nowMs sid : ℕ}

lemma pieces_ne_nil (segment : ℕ) (data : Bytes) : pieces segment data ≠ [] := by
  by_cases hburst : isCoalesced data.length segment = true
  · obtain ⟨hs, hlen⟩ := isCoalesced_iff.mp hburst
    rw [pieces_of_coalesced hburst]
    exact chunks_ne_nil hs (List.length_pos_iff.mp (by omega))
  · rw [pieces_of_not_coalesced hburst]
    exact List.cons_ne_nil _ _

/-- A datagram that came in shows in the trace. -/
lemma any_answers {evs : List Event} (h : answeredDown sid evs ≠ []) :
    evs.any (Event.answers sid) = true := by
  by_contra hnone
  refine h (List.flatMap_eq_nil_iff.mpr fun ev hev => ?_)
  have hev : ev.answers sid = false := by
    simpa using List.any_eq_false.mp (Bool.eq_false_iff.mpr hnone) ev hev
  cases ev with
  | answered i data segment =>
    have hi : i ≠ sid := by simpa [Event.answers] using hev
    simp [hi]
  | _ => rfl

/-- The loop has seen a reply exactly when the trace shows one. -/
lemma answerLoop_replied {ρ : Type*} {reply : ρ → Turn → Option Pending × Turn}
    (hreply : ∀ r t, ∃ evs, (reply r t).2.trace = t.trace ++ evs ∧
      evs.any (Event.answers sid) = true)
    (n : ℕ) (rs : List (Except IoError ρ)) (d : ReplyTurn) :
    ∃ evs, (answerLoop sid nowMs reply n rs d).2.trace = d.trace ++ evs ∧
      (answerLoop sid nowMs reply n rs d).2.replied =
        (d.replied || evs.any (Event.answers sid)) := by
  induction n generalizing rs d with
  | zero => exact ⟨[], by simp [answerLoop], by simp [answerLoop]⟩
  | succ n ih =>
    rcases rs with _ | ⟨err | r, rs⟩
    · exact ⟨[], by simp [answerLoop], by simp [answerLoop]⟩
    · cases hclass : classifyUdpErr err with
      | wouldBlock =>
        simp only [answerLoop, hclass]
        exact ⟨[], by simp, by simp⟩
      | transient =>
        simp only [answerLoop, hclass]
        exact ih rs d
      | icmp kind =>
        simp only [answerLoop, hclass]
        exact ih rs { d with stats := d.stats.markUdpIcmpError nowMs kind }
      | fatal =>
        simp only [answerLoop, hclass]
        exact ⟨[], by simp [Turn.onEngine, Engine.modify], by simp⟩
    · obtain ⟨evs, htrace, hany⟩ := hreply r d.toTurn
      simp only [answerLoop]
      rcases hpending : reply r d.toTurn with ⟨_ | p, t⟩
      · rw [hpending] at htrace
        obtain ⟨evs', htrace', hreplied⟩ := ih rs { toTurn := t, replied := true }
        refine ⟨evs ++ evs', ?_, ?_⟩
        · rw [htrace', htrace, List.append_assoc]
        · rw [hreplied, List.any_append, hany]
          simp
      · rw [hpending] at htrace
        refine ⟨evs, htrace, ?_⟩
        rw [hany]
        simp

/-- A drain stamps its session if it received something. -/
lemma stamps_answerWith {ρ : Type*} {reply : ρ → Turn → Option Pending × Turn}
    {datagrams carried : ρ → List Bytes} (hdatagrams : ∀ r, datagrams r ≠ [])
    (hreply : ∀ r t, ∃ evs, Drained sid evs (.ofPending (reply r t).1) t (reply r t).2 ∧
      answeredDown sid evs = datagrams r ∧
      (repliedDown sid evs ++ pendingPieces (reply r t).1).Sublist (carried r))
    (rs : List (Except IoError ρ)) (e : Engine) :
    Stamps Event.answers nowMs e (answerWith sid nowMs reply rs e).2 := by
  have hseen : ∀ r t, ∃ evs, (reply r t).2.trace = t.trace ++ evs ∧
      evs.any (Event.answers sid) = true := by
    intro r t
    obtain ⟨evs, hr, hanswered, -⟩ := hreply r t
    exact ⟨evs, hr.trace, any_answers (by rw [hanswered]; exact hdatagrams r)⟩
  obtain ⟨evs, h, -⟩ := answerLoop_drained nowMs hreply sessionBatch rs
    { e with batch := {}, replied := false }
  obtain ⟨evs', htrace, hreplied⟩ := @answerLoop_replied nowMs sid ρ reply hseen sessionBatch rs
    { e with batch := {}, replied := false }
  obtain rfl : evs' = evs := List.append_cancel_left (htrace.symm.trans h.trace)
  simp only [answerWith]
  generalize (answerLoop sid nowMs reply sessionBatch rs
    { e with batch := {}, replied := false }) = r at h hreplied ⊢
  obtain ⟨outcome, d⟩ := r
  simp only [Bool.false_or] at hreplied
  obtain ⟨stats, hflush, -⟩ := flushReceived_spec sid nowMs d h.bytes_eq_zero
  have hfresh : d.fresh = e.fresh := by
    have hrest := congrArg Engine.fresh h.rest
    exact hrest
  have htime : ∀ i, (d.heap i).lastActivityMs = (e.heap i).lastActivityMs := by
    intro i
    have hheap := congrArg (fun heap => (heap i).lastActivityMs) h.heap
    by_cases hi : i = sid
    · subst hi
      simpa using hheap
    · simpa [hi] using hheap
  refine ⟨evs', ?_⟩
  exact {
    trace := by
      rw [hflush]
      exact h.trace
    fresh := by
      rw [hflush]
      exact hfresh.ge
    opened := by
      intro i hge hlt
      rw [hflush] at hlt
      have hlt : i < d.fresh := hlt
      omega
    kept := by
      intro i _
      rw [hflush]
      by_cases hi : i = sid
      · subst hi
        simp only [Function.update_self, hreplied, htime]
      · have hnone : evs'.any (Event.answers i) = false := by
          refine List.any_eq_false.mpr fun ev hev => ?_
          obtain ⟨data, segment, rfl⟩ | ⟨call, rfl⟩ := h.events ev hev
          · simp [Event.answers, Ne.symm hi]
          · simp [Event.answers]
        rw [hnone]
        simp [hi, htime] }

lemma stamps_drainSession (rs : List (Except IoError Recv)) (e : Engine) :
    Stamps Event.answers nowMs e (drainSession k nowMs rs sid e).2 := by
  rw [drainSession]
  split
  · exact stamps_answerWith (fun r => pieces_ne_nil r.segment r.data) (answerGro_drained k sid) rs e
  · exact stamps_answerWith (fun data => List.cons_ne_nil data []) (answerPlain_drained k sid) _ e

/-- What else a task does to its session. -/
lemma lastActivityMs_endTask (e : Engine) (sid i : ℕ) :
    ((e.endTask sid).heap i).lastActivityMs = (e.heap i).lastActivityMs := by
  obtain ⟨activeConnections, udpLimit, heap, heq, hheap⟩ :=
    dropShared_spec (e.setTask sid .ended) sid
  have htime := congrArg SessionShared.lastActivityMs (hheap i)
  rw [setTask_heap] at htime
  rw [Engine.endTask, heq]
  exact htime

lemma stamps_endTask (shows : ℕ → Event → Bool) (e : Engine) (sid : ℕ) :
    Stamps shows nowMs e (e.endTask sid) := by
  have h := unnoticed_endTask e sid
  exact ⟨[], .quiet (by simp [h.trace]) h.fresh (by simp) (lastActivityMs_endTask e sid)⟩

lemma stamps_setTask (shows : ℕ → Event → Bool) (e : Engine) (sid : ℕ) (task : Task) :
    Stamps shows nowMs e (e.setTask sid task) :=
  ⟨[], .quiet (by simp [Engine.setTask, Engine.modify]) rfl (by simp) fun i => by
    rw [setTask_heap]⟩

/-- A session's upstream socket is ready. -/
lemma stamps_wakeup (rs : List (Except IoError Recv)) (e : Engine) :
    Stamps Event.answers nowMs e (wakeup k nowMs rs sid e) := by
  have hdrain : Stamps Event.answers nowMs e (drainSession k nowMs rs sid e).2 :=
    stamps_drainSession rs e
  rw [wakeup]
  split
  all_goals
    rename_i heq
    rw [heq] at hdrain
  · exact hdrain
  · exact hdrain
  · exact hdrain.trans (stamps_endTask _ _ _)
  · exact hdrain.trans (stamps_setTask _ _ _ _)

end Session

/-! ## Every step -/

/-- The activity of a session in a step, with its time: it was opened, a datagram of its client
got through to the target, or a drain received something. -/
inductive Active (e e' : Engine) (sid : ℕ) : Action → ℕ → Prop
  | opened {k : Kernel} {nowMs : ℕ} {rs : List (Except IoError Recv)} : e.fresh ≤ sid →
      sid < e'.fresh → Active e e' sid (.readable k nowMs rs) nowMs
  | sent {k : Kernel} {nowMs : ℕ} {rs : List (Except IoError Recv)} {client : SocketAddr}
      {call : Call} : sid < e'.fresh → .sent sid client call ∈ e'.trace.drop e.trace.length →
      call.ok = true → Active e e' sid (.readable k nowMs rs) nowMs
  | replied {k : Kernel} {nowMs : ℕ} {rs : List (Except IoError Recv)} {data : Bytes}
      {segment : ℕ} : sid < e'.fresh →
      .answered sid data segment ∈ e'.trace.drop e.trace.length →
      Active e e' sid (.sessionReady k nowMs rs sid) nowMs

/-- What a step does to the activity times of the sessions. -/
structure Timed (e : Engine) (a : Action) (e' : Engine) : Prop where
  fresh : e.fresh ≤ e'.fresh
  mono : ∀ sid, sid < e.fresh → (e.heap sid).lastActivityMs ≤ (e'.heap sid).lastActivityMs
  latest : ∀ sid t, Active e e' sid a t → t ≤ (e'.heap sid).lastActivityMs
  source : ∀ sid, sid < e'.fresh →
    (sid < e.fresh ∧ (e'.heap sid).lastActivityMs = (e.heap sid).lastActivityMs) ∨
      Active e e' sid a (e'.heap sid).lastActivityMs

/-- Work at one time, as a step sees it. -/
lemma Stamped.timed {shows : ℕ → Event → Bool} {nowMs : ℕ} {evs : List Event} {e e' : Engine}
    {a : Action} (h : Stamped shows nowMs evs e e')
    (hactive : ∀ sid t, Active e e' sid a t → t = nowMs ∧
      (e.fresh ≤ sid ∨ evs.any (shows sid) = true))
    (hopened : ∀ sid, e.fresh ≤ sid → sid < e'.fresh → Active e e' sid a nowMs)
    (hshown : ∀ sid, sid < e'.fresh → evs.any (shows sid) = true → Active e e' sid a nowMs)
    (hlt : ∀ sid t, Active e e' sid a t → sid < e'.fresh) : Timed e a e' where
  fresh := h.fresh
  mono := by
    intro sid hsid
    rw [h.kept sid hsid]
    split_ifs
    · exact le_max_left _ _
    · exact le_rfl
  latest := by
    intro sid t ht
    obtain ⟨rfl, hwhy⟩ := hactive sid t ht
    by_cases hsid : sid < e.fresh
    · have hany : evs.any (shows sid) = true := hwhy.resolve_left (by omega)
      rw [h.kept sid hsid, if_pos hany]
      exact le_max_right _ _
    · rw [h.opened sid (by omega) (hlt sid t ht)]
  source := by
    intro sid hsid
    by_cases hold : sid < e.fresh
    · rw [h.kept sid hold]
      split_ifs with hany
      · rcases max_choice (e.heap sid).lastActivityMs nowMs with hmax | hmax
        · exact .inl ⟨hold, hmax⟩
        · rw [hmax]
          exact .inr (hshown sid hsid hany)
      · exact .inl ⟨hold, rfl⟩
    · rw [h.opened sid (by omega) hsid]
      exact .inr (hopened sid (by omega) hsid)

/-- A step that stamps nothing. -/
lemma timed_of_still {e e' : Engine} {a : Action} (hfresh : e'.fresh = e.fresh)
    (hheap : ∀ sid, (e'.heap sid).lastActivityMs = (e.heap sid).lastActivityMs)
    (hactive : ∀ sid t, ¬ Active e e' sid a t) : Timed e a e' where
  fresh := hfresh.ge
  mono := fun sid _ => (hheap sid).ge
  latest := fun sid t ht => absurd ht (hactive sid t)
  source := fun sid hsid => .inl ⟨hfresh ▸ hsid, hheap sid⟩

lemma Active.lt_fresh {e e' : Engine} {sid t : ℕ} {a : Action} (h : Active e e' sid a t) :
    sid < e'.fresh := by
  cases h with
  | opened _ hlt => exact hlt
  | sent hlt _ _ => exact hlt
  | replied hlt _ => exact hlt

/-- The new part of the trace. -/
lemma Stamped.drop_trace {shows : ℕ → Event → Bool} {nowMs : ℕ} {evs : List Event} {e e' : Engine}
    (h : Stamped shows nowMs evs e e') : e'.trace.drop e.trace.length = evs := by
  rw [h.trace, List.drop_left]

lemma timed_readable {k : Kernel} {nowMs : ℕ} {rs : List (Except IoError Recv)} {e e' : Engine}
    (h : step e (.readable k nowMs rs) = some e') : Timed e (.readable k nowMs rs) e' := by
  obtain ⟨evs, hs⟩ := stamps_readable h
  refine hs.timed ?_ (fun sid hge hlt => .opened hge hlt) ?_ fun sid t => Active.lt_fresh
  · intro sid t ht
    cases ht with
    | opened hge _ => exact ⟨rfl, .inl hge⟩
    | sent _ hmem hok =>
      rw [hs.drop_trace] at hmem
      exact ⟨rfl, .inr (List.any_eq_true.mpr ⟨_, hmem, by simp [Event.sends, hok]⟩)⟩
  · intro sid hlt hany
    obtain ⟨ev, hmem, hev⟩ := List.any_eq_true.mp hany
    cases ev with
    | sent i client call =>
      obtain ⟨rfl, hok⟩ : i = sid ∧ call.ok = true := by simpa [Event.sends] using hev
      exact .sent hlt (by rw [hs.drop_trace]; exact hmem) hok
    | _ => cases hev

/-- A wakeup opens no session, and its trace is about the session that woke up. -/
lemma wakeup_own {k : Kernel} {nowMs sid : ℕ} {rs : List (Except IoError Recv)} {e : Engine}
    (hwaiting : (e.heap sid).task = .waiting) :
    (wakeup k nowMs rs sid e).fresh = e.fresh ∧
      ∃ evs, (wakeup k nowMs rs sid e).trace = e.trace ++ evs ∧
        ∀ i, evs.any (Event.answers i) = true → i = sid := by
  obtain ⟨evs, htrace, hevs, -, -, hfresh, hheap⟩ := drainSession_noticed k nowMs rs sid e
  rcases hdrain : drainSession k nowMs rs sid e with ⟨outcome, e₁⟩
  rw [hdrain] at htrace hfresh hheap
  obtain ⟨htrace', hfresh', -⟩ := wakeup_noticed hdrain ((hheap sid).2.2.trans hwaiting)
  refine ⟨hfresh'.trans hfresh, evs, htrace'.trans htrace, ?_⟩
  intro i hany
  obtain ⟨ev, hmem, hev⟩ := List.any_eq_true.mp hany
  obtain ⟨data, segment, rfl⟩ | ⟨call, rfl⟩ := hevs ev hmem
  · exact (by simpa [Event.answers] using hev : sid = i).symm
  · cases hev

lemma timed_sessionReady {k : Kernel} {nowMs sid : ℕ} {rs : List (Except IoError Recv)}
    {e e' : Engine} (h : step e (.sessionReady k nowMs rs sid) = some e') :
    Timed e (.sessionReady k nowMs rs sid) e' := by
  obtain ⟨hwaiting, rfl⟩ : (e.heap sid).task = .waiting ∧ wakeup k nowMs rs sid e = e' := by
    simpa [step] using h
  obtain ⟨evs, hs⟩ : Stamps Event.answers nowMs e (wakeup k nowMs rs sid e) := stamps_wakeup rs e
  obtain ⟨hfresh, evs', htrace, hown⟩ := @wakeup_own k nowMs sid rs e hwaiting
  obtain rfl : evs' = evs := List.append_cancel_left (htrace.symm.trans hs.trace)
  refine hs.timed ?_ ?_ ?_ fun i t => Active.lt_fresh
  · intro i t ht
    cases ht with
    | replied _ hmem =>
      rw [hs.drop_trace] at hmem
      exact ⟨rfl, .inr (List.any_eq_true.mpr ⟨_, hmem, by simp [Event.answers]⟩)⟩
  · intro i hge hlt
    omega
  · intro i hlt hany
    obtain rfl := hown i hany
    obtain ⟨ev, hmem, hev⟩ := List.any_eq_true.mp hany
    cases ev with
    | answered j data segment =>
      obtain rfl : j = i := by simpa [Event.answers] using hev
      exact .replied hlt (by rw [hs.drop_trace]; exact hmem)
    | _ => cases hev

lemma lastActivityMs_retain (keep : SessionShared → Bool) (e : Engine) :
    ∀ sid, ((e.retain keep).heap sid).lastActivityMs = (e.heap sid).lastActivityMs := by
  refine retain_rule
    (R := fun e e' => ∀ sid, (e'.heap sid).lastActivityMs = (e.heap sid).lastActivityMs)
    (fun _ _ => rfl) (fun h h' sid => (h' sid).trans (h sid)) ?_ keep e
  intro e client sid
  obtain ⟨_, _, heap, heq, hheap⟩ := removeEntry_spec e client
  have htime : (heap sid).lastActivityMs = (e.heap sid).lastActivityMs := by rw [hheap sid]
  rw [heq]
  exact htime

lemma applyGroKnob_still (k : Kernel) (e : Engine) :
    (e.applyGroKnob k).fresh = e.fresh ∧ (e.applyGroKnob k).heap = e.heap ∧
      (e.applyGroKnob k).sessions = e.sessions := by
  simp only [Engine.applyGroKnob]
  split
  · exact ⟨rfl, rfl, rfl⟩
  split
  · exact ⟨rfl, rfl, rfl⟩
  split
  · exact ⟨rfl, rfl, rfl⟩
  split
  · exact ⟨rfl, rfl, rfl⟩
  split
  · exact ⟨rfl, rfl, rfl⟩
  · exact ⟨rfl, rfl, rfl⟩

/-- **Every step stamps the sessions that it shows activity of, and no others.** -/
theorem timed_step {e e' : Engine} {a : Action} (h : step e a = some e') : Timed e a e' := by
  cases a with
  | readable k nowMs rs => exact timed_readable h
  | sessionReady k nowMs rs sid => exact timed_sessionReady h
  | tick k nowMs =>
    obtain ⟨-, rfl⟩ : _ ∧ _ = e' := by simpa [step] using h
    obtain ⟨hfresh, hheap, -⟩ := applyGroKnob_still k (e.sweep nowMs)
    have hretain := unnoticed_retain (fun s => !(s.dead ||
      decide (min (e.knobs.udpSessionTimeout * 1000) (2 ^ 64 - 1) ≤ nowMs - s.lastActivityMs))) e
    refine timed_of_still (hfresh.trans hretain.fresh) ?_ fun sid t => by rintro ⟨⟩
    intro sid
    rw [hheap]
    exact lastActivityMs_retain _ e sid
  | targetsChanged =>
    obtain ⟨-, rfl⟩ : _ ∧ _ = e' := by simpa [step] using h
    have hretain := unnoticed_retain (fun s => decide (s.remote ∈ e.targets.value))
      { e with targets := { e.targets with seen := e.targets.version } }
    exact timed_of_still hretain.fresh (lastActivityMs_retain _ _) fun sid t => by rintro ⟨⟩
  | refresherGone =>
    obtain ⟨-, rfl⟩ : _ ∧ _ = e' := by simpa [step] using h
    exact timed_of_still rfl (fun _ => rfl) fun sid t => by rintro ⟨⟩
  | resolve lookup =>
    obtain ⟨-, rfl⟩ : _ ∧ _ = e' := by simpa [step] using h
    rw [refresh]
    split
    · exact timed_of_still rfl (fun _ => rfl) fun sid t => by rintro ⟨⟩
    · exact timed_of_still rfl (fun _ => rfl) fun sid t => by rintro ⟨⟩
  | refresherStop =>
    obtain ⟨-, rfl⟩ : _ ∧ _ = e' := by simpa [step] using h
    exact timed_of_still rfl (fun _ => rfl) fun sid t => by rintro ⟨⟩
  | reload settings =>
    obtain rfl := Option.some.inj h
    exact timed_of_still rfl (fun _ => rfl) fun sid t => by rintro ⟨⟩
  | cancel =>
    obtain rfl := Option.some.inj h
    exact timed_of_still rfl (fun _ => rfl) fun sid t => by rintro ⟨⟩
  | shutdown =>
    obtain ⟨-, rfl⟩ : _ ∧ _ = e' := by simpa [step] using h
    exact timed_of_still (unnoticed_retain (fun _ => false) e).fresh (lastActivityMs_retain _ e)
      fun sid t => by rintro ⟨⟩
  | sessionCancelled sid =>
    obtain ⟨-, rfl⟩ : _ ∧ _ = e' := by simpa [step] using h
    exact timed_of_still (unnoticed_endTask e sid).fresh (lastActivityMs_endTask e sid)
      fun sid t => by rintro ⟨⟩
  | sessionNotReady sid =>
    obtain ⟨-, rfl⟩ : _ ∧ _ = e' := by simpa [step] using h
    refine timed_of_still (unnoticed_endTask _ sid).fresh ?_ fun sid t => by rintro ⟨⟩
    intro i
    refine (lastActivityMs_endTask _ sid i).trans ?_
    by_cases hi : i = sid
    · simp [Engine.modify, hi]
    · simp [Engine.modify, hi]
  | sessionSend k sid =>
    simp only [step] at h
    split at h
    · rename_i piece rest _
      obtain rfl := Option.some.inj h
      obtain ⟨c, stats, dropped, heq, -⟩ := sendPending_spec k sid piece rest e
      rw [heq]
      refine timed_of_still rfl ?_ fun sid t => by rintro ⟨⟩
      intro i
      by_cases hi : i = sid
      · subst hi
        simp
      · simp [hi]
    · cases h

end Rfw.Udp
