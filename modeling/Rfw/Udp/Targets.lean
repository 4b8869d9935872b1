/-
# Where the sessions point

The refresher publishes the target's addresses through a `watch` channel; the listener opens
sessions towards the first published address and, when it sees a new set, closes the sessions
whose address left it.  A session may be opened between a publication and the moment the listener
looks at it, so the sessions can only be right when no publication is pending.

The invariant `Pointed` is kept by every action of the forwarder.  All work on the listener's
socket goes through `Aims`: the channel is left alone, and a session in the table points where the
client's session pointed before, or at a published address.
-/
import Rfw.Lib.Transition
import Rfw.Udp.Ownership

namespace Rfw.Udp

open Lib

/-- The last answer the refresher got, if there was one. -/
def lastResolution (cfg : ForwarderConfig) (acts : List Action) : Option (List SocketAddr) :=
  (acts.filterMap fun
    | .resolve lookup => (resolveTargets cfg lookup).toOption
    | _ => none).getLast?

/-- A publication leaves the channel with the addresses of the answer. -/
lemma mem_publish (w : Watch) (addrs : List SocketAddr) (a : SocketAddr) :
    a ∈ (w.publish addrs).value ↔ a ∈ addrs := by
  rw [Watch.publish]
  split
  · rename_i hsame
    exact sameAddrSet_iff.mp hsame a
  · rfl

/-! ## What does not touch the table -/

/-- The table, the channel and the targets of the sessions stay the same. -/
structure Aside (e e' : Engine) : Prop where
  cfg : e'.cfg = e.cfg
  targets : e'.targets = e.targets
  sessions : e'.sessions = e.sessions
  remote : ∀ sid, (e'.heap sid).remote = (e.heap sid).remote

namespace Aside

variable {e e' e'' : Engine}

lemma trans (h : Aside e e') (h' : Aside e' e'') : Aside e e'' where
  cfg := h'.cfg.trans h.cfg
  targets := h'.targets.trans h.targets
  sessions := h'.sessions.trans h.sessions
  remote := fun sid => (h'.remote sid).trans (h.remote sid)

lemma of_core (h : e'.core = e.core) : Aside e e' where
  cfg := by
    have := congrArg Engine.cfg h
    exact this
  targets := targets_of_core h
  sessions := sessions_of_core h
  remote := heap_of_core h SessionShared.remote fun _ => rfl

lemma modify (e : Engine) (sid : ℕ) {f : SessionShared → SessionShared}
    (hf : ∀ s, (f s).remote = s.remote) : Aside e (e.modify sid f) where
  cfg := rfl
  targets := rfl
  sessions := rfl
  remote := by
    intro i
    by_cases hi : i = sid
    · subst hi
      simp [Engine.modify, hf]
    · simp [Engine.modify, hi]

lemma dropShared (e : Engine) (sid : ℕ) : Aside e (e.dropShared sid) := by
  obtain ⟨_, _, heap, heq, hheap⟩ := dropShared_spec e sid
  have hremote : ∀ i, (heap i).remote = (e.heap i).remote := fun i => by rw [hheap i]
  rw [heq]
  exact ⟨rfl, rfl, rfl, hremote⟩

lemma setTask (e : Engine) (sid : ℕ) (task : Task) : Aside e (e.setTask sid task) :=
  modify e sid fun _ => rfl

lemma setDead (e : Engine) (sid : ℕ) : Aside e (e.modify sid fun s => { s with dead := true }) :=
  modify e sid fun _ => rfl

lemma endTask (e : Engine) (sid : ℕ) : Aside e (e.endTask sid) :=
  (setTask e sid .ended).trans (dropShared _ sid)

lemma wakeup (k : Kernel) (nowMs : ℕ) (rs : List (Except IoError Recv)) (sid : ℕ) (e : Engine) :
    Aside e (wakeup k nowMs rs sid e) := by
  have hdrain : Aside e (drainSession k nowMs rs sid e).2 := by
    have hcore := core_drainSession k nowMs rs sid e
    split at hcore
    · exact (setDead e sid).trans (of_core hcore)
    · exact of_core hcore
  rw [Udp.wakeup]
  split
  all_goals
    rename_i heq
    rw [heq] at hdrain
  · exact hdrain
  · exact hdrain
  · exact hdrain.trans (endTask _ sid)
  · exact hdrain.trans (setTask _ sid _)

lemma sendPending (k : Kernel) (sid : ℕ) (piece : Bytes) (rest : List Bytes) (e : Engine) :
    Aside e (sendPending k sid piece rest e) := by
  obtain ⟨c, stats, dropped, heq, -⟩ := sendPending_spec k sid piece rest e
  rw [heq]
  refine ⟨rfl, rfl, rfl, fun i => ?_⟩
  by_cases hi : i = sid
  · subst hi
    simp
  · simp [hi]

end Aside

/-! ## Closing sessions -/

lemma remote_removeEntry (e : Engine) (client : SocketAddr) (sid : ℕ) :
    ((e.removeEntry client).heap sid).remote = (e.heap sid).remote := by
  obtain ⟨_, _, heap, heq, hheap⟩ := removeEntry_spec e client
  have hremote : (heap sid).remote = (e.heap sid).remote := by rw [hheap sid]
  rw [heq]
  exact hremote

lemma remote_retain (keep : SessionShared → Bool) (e : Engine) :
    ∀ sid, ((e.retain keep).heap sid).remote = (e.heap sid).remote :=
  retain_rule (R := fun e e' => ∀ sid, (e'.heap sid).remote = (e.heap sid).remote)
    (fun _ _ => rfl) (fun h h' sid => (h' sid).trans (h sid)) remote_removeEntry keep e

/-- Closing the sessions of some clients takes them out of the table. -/
lemma get?_foldl_removeEntry (cs : List SocketAddr) (e : Engine) (c : SocketAddr) :
    (cs.foldl Engine.removeEntry e).sessions.get? c =
      if c ∈ cs then none else e.sessions.get? c := by
  induction cs generalizing e with
  | nil => simp
  | cons client cs ih =>
    rw [List.foldl_cons, ih, get?_removeEntry]
    by_cases hc : c = client
    · simp [hc]
    · simp [hc]

/-- What `sessions.retain` leaves in the table. -/
lemma get?_retain {e : Engine} {keep : SessionShared → Bool} {c : SocketAddr}
    {entry : SessionEntry} (h : (e.retain keep).sessions.get? c = some entry) :
    e.sessions.get? c = some entry ∧ keep (e.heap entry.shared) = true := by
  rw [Engine.retain, get?_foldl_removeEntry] at h
  split at h
  · cases h
  · rename_i hkept
    refine ⟨h, ?_⟩
    by_contra hgone
    refine hkept (List.mem_map.mpr ⟨(c, entry), List.mem_filter.mpr ⟨?_, ?_⟩, rfl⟩)
    · exact Table.get?_eq_some_iff.mp h
    · simpa using hgone

/-! ## Serving clients -/

/-- The channel is left alone, and every session in the table points where the session of its
client pointed before, or at a published address. -/
structure Aimed (e e' : Engine) : Prop where
  cfg : e'.cfg = e.cfg
  targets : e'.targets = e.targets
  points : ∀ c entry', e'.sessions.get? c = some entry' →
    (e'.heap entry'.shared).remote ∈ e.targets.value ∨
      ∃ entry, e.sessions.get? c = some entry ∧
        (e'.heap entry'.shared).remote = (e.heap entry.shared).remote

lemma Aimed.trans {e e' e'' : Engine} (h : Aimed e e') (h' : Aimed e' e'') : Aimed e e'' where
  cfg := h'.cfg.trans h.cfg
  targets := h'.targets.trans h.targets
  points := by
    intro c entry'' hget
    rcases h'.points c entry'' hget with hnew | ⟨entry', hget', hold⟩
    · rw [h.targets] at hnew
      exact .inl hnew
    · rw [hold]
      exact h.points c entry' hget'

lemma Aside.aimed {e e' : Engine} (h : Aside e e') : Aimed e e' where
  cfg := h.cfg
  targets := h.targets
  points := by
    intro c entry hget
    rw [h.sessions] at hget
    exact .inr ⟨entry, hget, h.remote _⟩

lemma Aimed.refl (e : Engine) : Aimed e e := ⟨rfl, rfl, fun _ entry hget => .inr ⟨entry, hget, rfl⟩⟩

lemma aimed_removeEntry (e : Engine) (client : SocketAddr) : Aimed e (e.removeEntry client) := by
  obtain ⟨_, _, _, heq, _⟩ := removeEntry_spec e client
  refine ⟨by rw [heq], by rw [heq], fun c entry hget => .inr ⟨entry, ?_, remote_removeEntry e _ _⟩⟩
  rw [get?_removeEntry] at hget
  split at hget
  · cases hget
  · exact hget

lemma aimed_retain (keep : SessionShared → Bool) (e : Engine) : Aimed e (e.retain keep) :=
  retain_rule Aimed.refl Aimed.trans aimed_removeEntry keep e

/-- An entry that goes into the table, with the others as they were. -/
lemma aimed_store {e e' : Engine} {client : SocketAddr} {entry' : SessionEntry}
    (hcfg : e'.cfg = e.cfg) (htargets : e'.targets = e.targets)
    (hsessions : e'.sessions = e.sessions.insert client entry')
    (hothers : ∀ c entry, c ≠ client → e.sessions.get? c = some entry →
      (e'.heap entry.shared).remote = (e.heap entry.shared).remote)
    (hself : (e'.heap entry'.shared).remote ∈ e.targets.value ∨
      ∃ entry, e.sessions.get? client = some entry ∧
        (e'.heap entry'.shared).remote = (e.heap entry.shared).remote) : Aimed e e' where
  cfg := hcfg
  targets := htargets
  points := by
    intro c entry hget
    rw [hsessions, Table.get?_insert] at hget
    split at hget
    · rename_i hc
      obtain rfl : entry' = entry := by simpa using hget
      rw [hc]
      exact hself
    · rename_i hc
      exact .inr ⟨entry, hget, hothers c entry hc hget⟩

/-- Serving a client. -/
lemma aimed_serveClient {k : Kernel} {nowMs n : ℕ} {client : SocketAddr} {ps : List Bytes}
    {forward : Turn → SessionEntry → Turn × SessionEntry}
    (hforward : ∀ t entry, ∃ cs, Forwarded k nowMs ps cs (t, entry) (forward t entry)) (t : Turn)
    (howned : Owned none t.toEngine) :
    Aimed t.toEngine (serveClient k nowMs n client forward t).toEngine := by
  rcases serveClient_cases k nowMs n client forward t with
    ⟨entry, _, hget, _, heq⟩ | ⟨why, _, _, hfailed⟩ | ⟨entry, t', _, hopened, heq⟩
  · obtain ⟨cs, h⟩ := hforward t entry
    have haside := Aside.of_core h.core
    rw [heq]
    refine aimed_store haside.cfg haside.targets
      (congrArg (·.insert client (forward t entry).2) haside.sessions)
      (fun _ _ _ _ => haside.remote _) (.inr ⟨entry, hget, ?_⟩)
    rw [h.shared]
    exact haside.remote _
  · exact (aimed_removeEntry t.toEngine client).trans (Aside.of_core hfailed.core).aimed
  · obtain ⟨cs, h⟩ := hforward t' entry
    obtain ⟨remote, gro, hhead, hheap, -⟩ := hopened.opened
    obtain ⟨unsupported, -, hrest⟩ := hopened.rest
    have haside := Aside.of_core h.core
    obtain ⟨hclosed, -⟩ := keeps_removeEntry t.toEngine client howned
    have hcfg : t'.cfg = (t.removeEntry client).cfg := by rw [hrest]; rfl
    have htargets : t'.targets = (t.removeEntry client).targets := by rw [hrest]; rfl
    have hsessions : t'.sessions = (t.removeEntry client).sessions := by rw [hrest]; rfl
    rw [heq]
    refine (aimed_removeEntry t.toEngine client).trans (aimed_store (haside.cfg.trans hcfg)
      (haside.targets.trans htargets)
      (congrArg (·.insert client (forward t' entry).2) (haside.sessions.trans hsessions))
      ?_ (.inl ?_))
    · -- the other sessions have older numbers
      intro c entry₁ _ hget
      have hlt := (hclosed.keyed c entry₁ hget).2
      refine (haside.remote _).trans ?_
      rw [hheap]
      exact congrArg SessionShared.remote (Function.update_of_ne (Nat.ne_of_lt hlt) _ _)
    · -- the new one points at the first published address
      rw [h.shared]
      refine (congrArg (· ∈ _) (haside.remote _)).mpr ?_
      rw [hheap, hopened.entry_eq]
      simp only [Function.update_self]
      exact List.mem_of_mem_head? (Option.mem_def.mpr hhead)

/-- Work on the listener's socket aims at what is published. -/
lemma respects_aims : Respects fun e e' => Owned none e → Owned none e' ∧ Aimed e e' where
  trans := by
    intro e e' e'' h h' howned
    obtain ⟨howned', haimed⟩ := h howned
    obtain ⟨howned'', haimed'⟩ := h' howned'
    exact ⟨howned'', haimed.trans haimed'⟩
  core := fun h howned => ⟨(keeps_of_core h howned).1, (Aside.of_core h).aimed⟩
  serve := fun hforward t howned =>
    ⟨(keeps_serveClient hforward t howned).1, aimed_serveClient hforward t howned⟩

/-! ## Every run -/

/-- The invariant of the channel and the table, after the actions `acts` on a forwarder whose
channel started with the addresses `initial`. -/
structure Pointed (cfg : ForwarderConfig) (initial : List SocketAddr) (acts : List Action)
    (e : Engine) : Prop where
  cfg_eq : e.cfg = cfg
  owned : Owned none e
  seen_le : e.targets.seen ≤ e.targets.version
  points : e.targets.seen = e.targets.version → ∀ c entry, e.sessions.get? c = some entry →
    (e.heap entry.shared).remote ∈ e.targets.value
  published : ∀ a, a ∈ e.targets.value ↔ a ∈ (lastResolution cfg acts).getD initial

section Step

variable {cfg : ForwarderConfig} {initial : List SocketAddr} {acts : List Action} {e e' : Engine}
  {a : Action}

/-- An action that is not an answer to the refresher leaves the last answer. -/
lemma lastResolution_append (h : ∀ lookup, a ≠ .resolve lookup) :
    lastResolution cfg (acts ++ [a]) = lastResolution cfg acts := by
  cases a with
  | resolve lookup => exact absurd rfl (h lookup)
  | _ => simp [lastResolution]

lemma lastResolution_resolve (cfg : ForwarderConfig) (acts : List Action)
    (lookup : Except Str (List IpAddr)) :
    lastResolution cfg (acts ++ [.resolve lookup]) =
      match resolveTargets cfg lookup with
      | .ok addrs => some addrs
      | .error _ => lastResolution cfg acts := by
  rcases hr : resolveTargets cfg lookup with err | addrs
  · simp [lastResolution, hr, Except.toOption]
  · simp [lastResolution, hr, Except.toOption]

/-- Whatever aims at the published addresses keeps the invariant. -/
lemma Pointed.of_aimed (h : Pointed cfg initial acts e) (howned : Owned none e')
    (haimed : Aimed e e') (ha : ∀ lookup, a ≠ .resolve lookup) :
    Pointed cfg initial (acts ++ [a]) e' where
  cfg_eq := haimed.cfg.trans h.cfg_eq
  owned := howned
  seen_le := by
    rw [haimed.targets]
    exact h.seen_le
  points := by
    intro hseen c entry' hget
    rw [haimed.targets] at hseen ⊢
    rcases haimed.points c entry' hget with hnew | ⟨entry, hget', hold⟩
    · exact hnew
    · rw [hold]
      exact h.points hseen c entry hget'
  published := by
    intro addr
    rw [haimed.targets, lastResolution_append ha]
    exact h.published addr

/-- The listener looks at the channel: what is left points at what it found. -/
lemma Pointed.onTargetsChanged (h : Pointed cfg initial acts e)
    (howned : Owned none e.onTargetsChanged) :
    Pointed cfg initial (acts ++ [.targetsChanged]) e.onTargetsChanged := by
  have haimed := aimed_retain (fun s => decide (s.remote ∈ e.targets.value))
    { e with targets := { e.targets with seen := e.targets.version } }
  exact {
    cfg_eq := haimed.cfg.trans h.cfg_eq
    owned := howned
    seen_le := by
      rw [Engine.onTargetsChanged, haimed.targets]
    points := by
      intro _ c entry hget
      have hkeep := (get?_retain hget).2
      rw [Engine.onTargetsChanged, haimed.targets, remote_retain]
      simpa using hkeep
    published := by
      intro addr
      rw [Engine.onTargetsChanged, haimed.targets, lastResolution_append (by simp)]
      exact h.published addr }

/-- A failed resolution, or one that only reorders or repeats the published addresses, touches
neither the channel nor the sessions. -/
lemma refresh_idle {lookup : Except Str (List IpAddr)}
    (h : ∀ addrs, resolveTargets e.cfg lookup = .ok addrs → ∀ a, a ∈ e.targets.value ↔ a ∈ addrs) :
    (refresh lookup e).targets = e.targets ∧ (refresh lookup e).sessions = e.sessions ∧
      (refresh lookup e).heap = e.heap := by
  rw [refresh]
  split
  · rename_i addrs hok
    refine ⟨?_, rfl, rfl⟩
    exact if_pos (sameAddrSet_iff.mpr (h addrs hok))
  · exact ⟨rfl, rfl, rfl⟩

/-- The refresher gets an answer. -/
lemma Pointed.refresh (h : Pointed cfg initial acts e) (lookup : Except Str (List IpAddr)) :
    Pointed cfg initial (acts ++ [.resolve lookup]) (refresh lookup e) := by
  obtain ⟨howned, -⟩ := keeps_refresh lookup e h.owned
  have hlast := lastResolution_resolve cfg acts lookup
  rw [Udp.refresh, h.cfg_eq] at howned ⊢
  rcases hr : resolveTargets cfg lookup with err | addrs
  · -- a failure keeps the last known addresses
    simp only [hr] at howned hlast ⊢
    refine ⟨h.cfg_eq, howned, h.seen_le, h.points, ?_⟩
    rw [hlast]
    exact h.published
  · simp only [hr] at howned hlast ⊢
    refine ⟨h.cfg_eq, howned, ?_, ?_, ?_⟩
    · simp only [Watch.publish]
      split
      · exact h.seen_le
      · exact h.seen_le.trans (Nat.le_succ _)
    · -- a publication that counts leaves the listener behind
      simp only [Watch.publish]
      split
      · exact h.points
      · intro hseen
        have := h.seen_le
        simp only at hseen
        omega
    · rw [hlast]
      exact mem_publish e.targets addrs

/-- Every action keeps the invariant. -/
lemma Pointed.step (h : Pointed cfg initial acts e) (hstep : step e a = some e') :
    Pointed cfg initial (acts ++ [a]) e' := by
  obtain ⟨howned, -⟩ := keeps_step hstep h.owned
  cases a with
  | readable k nowMs rs =>
    exact h.of_aimed howned (respects_aims.readable hstep h.owned).2 (by simp)
  | tick k nowMs =>
    obtain ⟨-, rfl⟩ : _ ∧ _ = e' := by simpa [Udp.step] using hstep
    exact h.of_aimed howned ((aimed_retain _ e).trans
      (Aside.of_core (core_applyGroKnob k _)).aimed) (by simp)
  | targetsChanged =>
    obtain ⟨-, rfl⟩ : _ ∧ _ = e' := by simpa [Udp.step] using hstep
    exact h.onTargetsChanged howned
  | refresherGone =>
    obtain ⟨-, rfl⟩ : _ ∧ _ = e' := by simpa [Udp.step] using hstep
    exact h.of_aimed howned (Aside.aimed ⟨rfl, rfl, rfl, fun _ => rfl⟩) (by simp)
  | resolve lookup =>
    obtain ⟨-, rfl⟩ : _ ∧ _ = e' := by simpa [Udp.step] using hstep
    exact h.refresh lookup
  | refresherStop =>
    obtain ⟨-, rfl⟩ : _ ∧ _ = e' := by simpa [Udp.step] using hstep
    refine ⟨h.cfg_eq, howned, h.seen_le, h.points, ?_⟩
    rw [lastResolution_append (by simp)]
    exact h.published
  | reload settings =>
    obtain rfl := Option.some.inj hstep
    exact h.of_aimed howned (Aside.aimed ⟨rfl, rfl, rfl, fun _ => rfl⟩) (by simp)
  | cancel =>
    obtain rfl := Option.some.inj hstep
    exact h.of_aimed howned (Aside.aimed ⟨rfl, rfl, rfl, fun _ => rfl⟩) (by simp)
  | shutdown =>
    obtain ⟨-, rfl⟩ : _ ∧ _ = e' := by simpa [Udp.step] using hstep
    have hclosed := aimed_retain (fun _ => false) e
    exact h.of_aimed howned ⟨hclosed.cfg, hclosed.targets, hclosed.points⟩ (by simp)
  | sessionCancelled sid =>
    obtain ⟨-, rfl⟩ : _ ∧ _ = e' := by simpa [Udp.step] using hstep
    exact h.of_aimed howned (Aside.endTask e sid).aimed (by simp)
  | sessionNotReady sid =>
    obtain ⟨-, rfl⟩ : _ ∧ _ = e' := by simpa [Udp.step] using hstep
    exact h.of_aimed howned ((Aside.setDead e sid).trans (Aside.endTask _ sid)).aimed (by simp)
  | sessionReady k nowMs rs sid =>
    obtain ⟨-, rfl⟩ : _ ∧ _ = e' := by simpa [Udp.step] using hstep
    exact h.of_aimed howned (Aside.wakeup k nowMs rs sid e).aimed (by simp)
  | sessionSend k sid =>
    simp only [Udp.step] at hstep
    split at hstep
    · rename_i piece rest _
      obtain rfl := Option.some.inj hstep
      exact h.of_aimed howned (Aside.sendPending k sid piece rest e).aimed (by simp)
    · cases hstep

end Step

/-- **No session points at a withdrawn address.**  In every reachable state in which the listener
has seen the last publication, every session in the table points at a published address.  In every
reachable state the published addresses are those of the last successful resolution (of the target
itself, while there was none), and a resolution that fails or has the same addresses in another
order changes neither the channel nor the sessions. -/
theorem sessions_point_at_published (cfg : ForwarderConfig) (knobs : RuntimeKnobs)
    (literal : Option IpAddr) (udpLimit : ℕ) (acts : List Action) (e : Engine)
    (h : Lib.run step (Engine.start cfg knobs literal udpLimit) acts = some e) :
    (e.targets.seen = e.targets.version → ∀ c entry, e.sessions.get? c = some entry →
      (e.heap entry.shared).remote ∈ e.targets.value) ∧
    (∀ a, a ∈ e.targets.value ↔ a ∈ (lastResolution cfg acts).getD
      (Engine.start cfg knobs literal udpLimit).targets.value) ∧
    ∀ lookup e', step e (.resolve lookup) = some e' →
      (∀ addrs, resolveTargets cfg lookup = .ok addrs → ∀ a, a ∈ e.targets.value ↔ a ∈ addrs) →
      e'.targets = e.targets ∧ e'.sessions = e.sessions ∧ e'.heap = e.heap := by
  have hpointed : Pointed cfg (Engine.start cfg knobs literal udpLimit).targets.value acts e := by
    refine Lib.run_invariant_history (I := Pointed cfg _) ?_ (fun _ _ _ _ => Pointed.step) h
    exact {
      cfg_eq := rfl
      owned := owned_start cfg knobs literal udpLimit
      seen_le := le_rfl
      points := by simp [Engine.start]
      published := by simp [lastResolution] }
  refine ⟨hpointed.points, hpointed.published, fun lookup e' hstep hsame => ?_⟩
  obtain ⟨-, rfl⟩ : _ ∧ _ = e' := by simpa [step] using hstep
  rw [← hpointed.cfg_eq] at hsame
  exact refresh_idle hsame

/-- A named target that moves: one client comes before the move, another one between the
publication and the moment the listener looks at it. -/
def movingTarget : List Action :=
  [.resolve (.ok [.v4 1]), .targetsChanged,
    .readable .willing 10 [.ok ⟨[7], 0, some (.v4 9 4000), false⟩],
    .resolve (.ok [.v4 2, .v4 3]),
    .readable .willing 20 [.ok ⟨[8], 0, some (.v4 9 4001), false⟩],
    .targetsChanged]

theorem sessions_point_at_published_movingTarget :
    ∃ e, Lib.run step (Engine.start ⟨[], 9000, [], 53, .udp⟩ (.fromSettings .default) none 8)
        movingTarget = some e ∧
      (e.sessions.keys, e.targets.value) = ([.v4 9 4001], [.v4 2 53, .v4 3 53]) ∧
      (∀ c entry, e.sessions.get? c = some entry →
        (e.heap entry.shared).remote ∈ e.targets.value) ∧
      ∀ e', step e (.resolve (.ok [.v4 3, .v4 2])) = some e' → e'.targets = e.targets := by
  have hrun : (Lib.run step (Engine.start ⟨[], 9000, [], 53, .udp⟩ (.fromSettings .default) none 8)
      movingTarget).map (fun e => (e.sessions.keys, e.targets)) =
        some ([.v4 9 4001], ⟨[.v4 2 53, .v4 3 53], 2, 2, true⟩) := by decide +kernel
  obtain ⟨e, he, hend⟩ := Option.map_eq_some_iff.mp hrun
  obtain ⟨hkeys, htargets⟩ := Prod.mk.inj hend
  obtain ⟨hpoints, -, hidle⟩ := sessions_point_at_published _ _ _ _ movingTarget e he
  refine ⟨e, he, by rw [hkeys, htargets], hpoints (by rw [htargets]), fun e' hstep => ?_⟩
  refine (hidle _ e' hstep fun addrs haddrs a => ?_).1
  obtain rfl : [.v4 3 53, .v4 2 53] = addrs := by
    simpa [resolveTargets, SocketAddr.new] using haddrs
  rw [htargets]
  simp [or_comm]

end Rfw.Udp
