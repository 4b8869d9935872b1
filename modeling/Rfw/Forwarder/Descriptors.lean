/-
# Open files

Every proxied connection costs descriptors: two sockets, and four more for the pipes of splice.  At
startup `raise_soft_limit` raises the soft limit on open files and warns when `max_connections` does
not fit under it; with UDP forwarders `ensure_fd_budget` then does the same for their sessions.

`descriptors_fit` says what the first check is worth while the process runs.
-/
import Rfw.Forwarder.Accounts
import Rfw.Udp.Fleet

namespace Rfw.Forwarder

open Lib Permits Monitor

/-! ## The limits -/

/-- `u64::MAX`, which is also `RLIM_INFINITY`. -/
def u64Max : ℕ := 2 ^ 64 - 1

/-- `SOFT_LIMIT_CAP`. -/
def softLimitCap : ℕ := 1048576

/-- `BASE_FDS`. -/
def baseFds : ℕ := 128

/-- `FD_HEADROOM`. -/
def fdHeadroom : ℕ := 256

/-- `RLIMIT_NOFILE`. -/
structure RLimit where
  soft : ℕ
  hard : ℕ
deriving DecidableEq, Repr

/-- `Plan`. -/
inductive Plan
  | keep
  | raise (target : ℕ)
deriving DecidableEq, Repr

/-- `plan`. -/
def plan (soft hard : ℕ) : Plan :=
  let target := min hard softLimitCap
  if soft < target then .raise target else .keep

/-- The descriptors of one connection. -/
def fdsPerConnection (splice : Bool) : ℕ := if splice then 6 else 2

/-- `fds_for`. -/
def fdsFor (maxConnections : ℕ) (splice : Bool) : ℕ :=
  min (min (maxConnections * fdsPerConnection splice) u64Max + baseFds) u64Max

/-- What the log says about the limit. -/
inductive Notice
  | unreadable
  | raised (soft target : ℕ)
  | notRaised (soft : ℕ)
  /-- The limit is below what is needed. -/
  | short (current needed : ℕ)
deriving DecidableEq, Repr

/-- What the system answers to `getrlimit` and to `setrlimit`. -/
structure Answers where
  read : Bool
  set : Bool
deriving DecidableEq, Repr

/-- `setrlimit` for a new soft limit. -/
def setSoft (answers : Answers) (rl : RLimit) (target : ℕ) : RLimit × List Notice :=
  if answers.set then ({ rl with soft := target }, [.raised rl.soft target])
  else (rl, [.notRaised rl.soft])

/-- A warning if the limit is too low. -/
def warnShort (rl : RLimit) (needed : ℕ) : List Notice :=
  if rl.soft < needed then [.short rl.soft needed] else []

/-- Raise the soft limit as planned. -/
def applyPlan (answers : Answers) (rl : RLimit) : RLimit × List Notice :=
  match plan rl.soft rl.hard with
  | .keep => (rl, [])
  | .raise target => setSoft answers rl target

/-- `raise_soft_limit`. -/
def raiseSoftLimit (answers : Answers) (maxConnections : Option ℕ) (splice : Bool) (rl : RLimit) :
    RLimit × List Notice :=
  if answers.read then
    let (rl', told) := applyPlan answers rl
    match maxConnections with
    | none => (rl', told)
    | some max => (rl', told ++ warnShort rl' (fdsFor max splice))
  else (rl, [.unreadable])

/-- `FdPlan`. -/
inductive FdPlan
  | enough
  | raise (target : ℕ) (sufficient : Bool)
  | short
deriving DecidableEq, Repr

/-- `fd_plan`. -/
def fdPlan (soft hard needed : ℕ) : FdPlan :=
  if needed ≤ soft then .enough
  else if soft < hard then
    let target := min hard needed
    .raise target (decide (needed ≤ target))
  else .short

/-- `ensure_fd_budget`. -/
def ensureFdBudget (answers : Answers) (udpMaxSessions : ℕ) (rl : RLimit) : RLimit × List Notice :=
  let needed := udpMaxSessions + fdHeadroom
  if answers.read then
    match fdPlan rl.soft rl.hard needed with
    | .enough => (rl, [])
    | .short => (rl, [.short rl.soft needed])
    | .raise target sufficient =>
        let (rl', told) := setSoft answers rl target
        if sufficient && answers.set then (rl', told) else (rl', told ++ [.short rl'.soft needed])
  else (rl, [.unreadable])

/-- What `main` does about the limit. -/
def setLimits (first second : Answers) (settings : Settings) (udp : Bool) (rl : RLimit) :
    RLimit × List Notice :=
  let (rl', told) := raiseSoftLimit first settings.maxConnections settings.useSplice rl
  if udp then
    let (rl'', told') := ensureFdBudget second settings.udpMaxSessions rl'
    (rl'', told ++ told')
  else (rl', told)

/-- A new limit lies between the old soft limit and the hard one, which does not change. -/
structure Extends (rl rl' : RLimit) : Prop where
  hard : rl'.hard = rl.hard
  lower : rl.soft ≤ rl'.soft
  upper : rl'.soft ≤ max rl.soft rl.hard

variable {answers : Answers} {rl rl' : RLimit} {told : List Notice}

lemma Extends.refl (rl : RLimit) : Extends rl rl := ⟨rfl, le_refl _, le_max_left _ _⟩

lemma Extends.trans {rl'' : RLimit} (h : Extends rl rl') (h' : Extends rl' rl'') :
    Extends rl rl'' where
  hard := h'.hard.trans h.hard
  lower := h.lower.trans h'.lower
  upper := by
    have := h.upper
    have hupper := h'.upper
    rw [h.hard] at hupper
    omega

lemma extends_setSoft {target : ℕ} (hsoft : rl.soft ≤ target) (hhard : target ≤ rl.hard) :
    Extends rl (setSoft answers rl target).1 := by
  unfold setSoft
  split
  · exact ⟨rfl, hsoft, hhard.trans (le_max_right _ _)⟩
  · exact .refl rl

lemma of_plan_eq_raise {soft hard target : ℕ} (h : plan soft hard = .raise target) :
    soft ≤ target ∧ target ≤ hard := by
  unfold plan at h
  dsimp only at h
  split at h
  · obtain rfl := Plan.raise.inj h
    omega
  · cases h

lemma extends_applyPlan (answers : Answers) (rl : RLimit) :
    Extends rl (applyPlan answers rl).1 := by
  unfold applyPlan
  split
  · exact .refl rl
  · rename_i target htarget
    obtain ⟨hsoft, hhard⟩ := of_plan_eq_raise htarget
    exact extends_setSoft hsoft hhard

lemma mem_warnShort {notice : Notice} {needed : ℕ} :
    notice ∈ warnShort rl needed ↔ rl.soft < needed ∧ notice = .short rl.soft needed := by
  unfold warnShort
  split
  · rename_i h
    simp [h]
  · rename_i h
    simp [h]

/-- The soft limit is never lowered, nor raised beyond the hard one. -/
lemma extends_raiseSoftLimit (answers : Answers) (maxConnections : Option ℕ) (splice : Bool)
    (rl : RLimit) : Extends rl (raiseSoftLimit answers maxConnections splice rl).1 := by
  unfold raiseSoftLimit
  split
  · cases maxConnections <;> exact extends_applyPlan answers rl
  · exact .refl rl

/-- A limit that could be read and is not warned about is enough for `max_connections`. -/
lemma fdsFor_le_of_quiet {max : ℕ} {splice : Bool}
    (hread : .unreadable ∉ (raiseSoftLimit answers (some max) splice rl).2)
    (hquiet : ∀ current needed,
      .short current needed ∉ (raiseSoftLimit answers (some max) splice rl).2) :
    fdsFor max splice ≤ (raiseSoftLimit answers (some max) splice rl).1.soft := by
  unfold raiseSoftLimit at hread hquiet ⊢
  split
  · rename_i hanswer
    rw [if_pos hanswer] at hquiet
    by_contra hlt
    exact hquiet _ _ (List.mem_append_right _ (mem_warnShort.mpr ⟨not_le.mp hlt, rfl⟩))
  · rename_i hanswer
    rw [if_neg hanswer] at hread
    exact absurd (List.mem_singleton_self _) hread

lemma of_fdPlan_eq_enough {soft hard needed : ℕ} (h : fdPlan soft hard needed = .enough) :
    needed ≤ soft := by
  unfold fdPlan at h
  split at h
  · assumption
  · dsimp only at h
    split at h <;> cases h

lemma of_fdPlan_eq_raise {soft hard needed target : ℕ} {sufficient : Bool}
    (h : fdPlan soft hard needed = .raise target sufficient) :
    soft ≤ target ∧ target ≤ hard ∧ (sufficient = true → needed ≤ target) := by
  unfold fdPlan at h
  split at h
  · cases h
  · dsimp only at h
    split at h
    · obtain ⟨rfl, rfl⟩ := FdPlan.raise.inj h
      exact ⟨by omega, by omega, of_decide_eq_true⟩
    · cases h

lemma extends_ensureFdBudget (answers : Answers) (udpMaxSessions : ℕ) (rl : RLimit) :
    Extends rl (ensureFdBudget answers udpMaxSessions rl).1 := by
  unfold ensureFdBudget
  dsimp only
  split
  · split
    · exact .refl rl
    · exact .refl rl
    · rename_i target sufficient hplan
      obtain ⟨hsoft, hhard, -⟩ := of_fdPlan_eq_raise hplan
      split <;> exact extends_setSoft hsoft hhard
  · exact .refl rl

/-- A limit that could be read and is not warned about is enough for `udp_max_sessions`. -/
lemma headroom_le_of_quiet {udpMaxSessions : ℕ}
    (hread : .unreadable ∉ (ensureFdBudget answers udpMaxSessions rl).2)
    (hquiet : ∀ current needed,
      .short current needed ∉ (ensureFdBudget answers udpMaxSessions rl).2) :
    udpMaxSessions + fdHeadroom ≤ (ensureFdBudget answers udpMaxSessions rl).1.soft := by
  unfold ensureFdBudget at hread hquiet ⊢
  dsimp only at hread hquiet ⊢
  split
  · rename_i hanswer
    rw [if_pos hanswer] at hquiet
    cases hplan : fdPlan rl.soft rl.hard (udpMaxSessions + fdHeadroom) with
    | enough => exact of_fdPlan_eq_enough hplan
    | short =>
      rw [hplan] at hquiet
      exact absurd (List.mem_singleton_self _) (hquiet _ _)
    | raise target sufficient =>
      rw [hplan] at hquiet
      dsimp only at hquiet ⊢
      split
      · rename_i henough
        obtain ⟨hsufficient, hset⟩ := Bool.and_eq_true_iff.mp henough
        rw [setSoft, if_pos hset]
        exact (of_fdPlan_eq_raise hplan).2.2 hsufficient
      · rename_i hshort
        rw [if_neg hshort] at hquiet
        exact absurd (List.mem_append_right _ (List.mem_singleton_self _)) (hquiet _ _)
  · rename_i hanswer
    rw [if_neg hanswer] at hread
    exact absurd (List.mem_singleton_self _) hread

/-- `main` leaves the first limit in place or raises it. -/
lemma extends_setLimits {first second : Answers} {settings : Settings} {udp : Bool} :
    Extends (raiseSoftLimit first settings.maxConnections settings.useSplice rl).1
      (setLimits first second settings udp rl).1 := by
  unfold setLimits
  dsimp only
  split
  · exact extends_ensureFdBudget _ _ _
  · exact .refl _

lemma mem_setLimits {first second : Answers} {settings : Settings} {udp : Bool} {notice : Notice}
    (h : notice ∈ (raiseSoftLimit first settings.maxConnections settings.useSplice rl).2) :
    notice ∈ (setLimits first second settings udp rl).2 := by
  unfold setLimits
  dsimp only
  split
  · exact List.mem_append_left _ h
  · exact h

lemma fdsFor_le_setLimits {first second : Answers} {settings : Settings} {udp : Bool} {max : ℕ}
    (hread : .unreadable ∉ (setLimits first second settings udp rl).2)
    (hquiet : ∀ current needed,
      .short current needed ∉ (setLimits first second settings udp rl).2)
    (hmax : settings.maxConnections = some max) :
    fdsFor max settings.useSplice ≤ (setLimits first second settings udp rl).1.soft := by
  refine le_trans ?_ extends_setLimits.lower
  have hread' := fun hmem => hread (mem_setLimits hmem)
  have hquiet' := fun current needed hmem => hquiet current needed (mem_setLimits hmem)
  rw [hmax] at hread' hquiet' ⊢
  exact fdsFor_le_of_quiet hread' hquiet'

/-! ## What the connections need -/

/-- The most descriptors that a task can have open.  While it connects it has a socket for each
address that it tries. -/
def Conn.descriptors (c : Conn) : ℕ :=
  match c.stage with
  | .spawned | .resolving => 1
  | .connecting targets => 1 + targets.length
  | .copying _ => fdsPerConnection c.knobs.useSplice
  | .finished | .released | .ended => 0

/-- The sockets of a race that the plan for a connection does not cover. -/
def Conn.surplus (splice : Bool) (c : Conn) : ℕ :=
  match c.stage with
  | .connecting targets => 1 + targets.length - fdsPerConnection splice
  | _ => 0

/-- A task has descriptors open only while it holds its permit. -/
lemma Conn.descriptors_le {c : Conn} {splice : Bool} (hpermit : c.permit = true)
    (hsplice : c.knobs.useSplice = true → splice = true) :
    c.descriptors ≤ c.holds.toNat * fdsPerConnection splice + c.surplus splice := by
  have hpos : 2 ≤ fdsPerConnection splice := by
    unfold fdsPerConnection
    split <;> omega
  unfold Conn.descriptors Conn.surplus Conn.holds
  rw [hpermit, Bool.true_and]
  cases hstage : c.stage <;> dsimp only
  case spawned | resolving =>
    rw [Bool.toNat_true]
    omega
  case connecting targets =>
    rw [Bool.toNat_true]
    omega
  case copying remote =>
    rw [Bool.toNat_true, one_mul]
    cases hc : c.knobs.useSplice with
    | true =>
      rw [hsplice hc]
      exact Nat.le_add_right _ _
    | false => exact hpos
  all_goals exact Nat.zero_le _

lemma Listener.Move.knobs {owner : ℕ} {knobs : KnobSnapshot} {limit limit' : Option ℕ}
    {l l' : Listener} {spawned : List Conn} (h : l.Move owner knobs limit l' limit' spawned) :
    ∀ c ∈ spawned, c.knobs = knobs := by
  cases h with
  | admitted _ _ _ _ _ => exact List.forall_mem_singleton.mpr rfl
  | _ => exact List.forall_mem_nil _

namespace Fleet

/-- No reload turns splice on that was off at startup. -/
def KeepsCopyPath (splice : Bool) (_ : Fleet) : Input → Prop
  | .reload settings => settings.useSplice = true → splice = true
  | _ => True

instance (splice : Bool) : ∀ f i, Decidable (KeepsCopyPath splice f i)
  | _, .reload settings => inferInstanceAs (Decidable (settings.useSplice = true → splice = true))
  | _, .start _ _ _ | _, .listener _ _ | _, .conn _ _ | _, .observe _ _ | _, .reachable _ _ =>
    inferInstanceAs (Decidable True)

/-- The fleet uses splice only if it was on at startup. -/
structure Modest (splice : Bool) (f : Fleet) : Prop where
  knobs : f.knobs.useSplice = true → splice = true
  conns : ∀ c ∈ f.conns, c.knobs.useSplice = true → splice = true

lemma modest_init (settings : Settings) : Modest settings.useSplice (init settings) :=
  ⟨id, nofun⟩

lemma modest_step {splice : Bool} (f : Fleet) (i : Input) (f' : Fleet) (h : Modest splice f)
    (hkeeps : KeepsCopyPath splice f i) (hstep : step f i = some f') : Modest splice f' := by
  cases i with
  | start cfg literal now =>
    obtain rfl := Option.some.inj hstep
    exact ⟨h.knobs, h.conns⟩
  | reload settings =>
    obtain rfl := Option.some.inj hstep
    exact ⟨hkeeps, h.conns⟩
  | listener i input =>
    obtain ⟨l, -, hstep⟩ := Option.bind_eq_some_iff.mp hstep
    obtain ⟨⟨l', limit', spawned⟩, hlistener, rfl⟩ := Option.map_eq_some_iff.mp hstep
    refine ⟨h.knobs, fun c hc => ?_⟩
    rcases List.mem_append.mp hc with hc | hc
    · exact h.conns c hc
    · rw [(Listener.move_of_step hlistener).knobs c hc]
      exact h.knobs
  | conn j input =>
    obtain ⟨c, hc, hstep⟩ := Option.bind_eq_some_iff.mp hstep
    obtain ⟨l, -, hstep⟩ := Option.bind_eq_some_iff.mp hstep
    obtain ⟨⟨c', stats, events⟩, hconn, rfl⟩ := Option.map_eq_some_iff.mp hstep
    refine ⟨h.knobs, fun d hd => ?_⟩
    rcases List.mem_or_eq_of_mem_set hd with hd | rfl
    · exact h.conns d hd
    · rw [(Conn.kept_of_step hconn).knobs]
      exact h.conns c (List.mem_of_getElem? hc)
  | observe i addrs | reachable i up =>
    obtain ⟨l, -, rfl⟩ := Option.map_eq_some_iff.mp hstep
    exact ⟨h.knobs, h.conns⟩

/-- **What the check at startup is worth.**  Startup never lowers the limit on open files, nor does
it raise it beyond the hard one.  If `max_connections` is set, the limit could be read and startup
did not warn about it, then in every reachable fleet the descriptors of all connections fit under it
next to `BASE_FDS`, but for the sockets of connections that race more addresses than the plan for a
connection covers; that is, as long as no reload turns splice on that was off at startup. -/
theorem descriptors_fit (settings : Settings) (first second : Answers) (udp : Bool) (rl : RLimit) :
    Extends rl (setLimits first second settings udp rl).1 ∧
    ∀ n, connLimit settings = some n →
      .unreadable ∉ (setLimits first second settings udp rl).2 →
      (∀ current needed, .short current needed ∉ (setLimits first second settings udp rl).2) →
      ∀ is f, run step (init settings) is = some f →
        RunAll step (KeepsCopyPath settings.useSplice) (init settings) is →
        (f.conns.map Conn.descriptors).sum + baseFds ≤
            (setLimits first second settings udp rl).1.soft +
              (f.conns.map (Conn.surplus settings.useSplice)).sum ∨
          u64Max ≤ (setLimits first second settings udp rl).1.soft := by
  refine ⟨(extends_raiseSoftLimit _ _ _ _).trans extends_setLimits, ?_⟩
  intro n hlimit hread hquiet is f h hkeeps
  have hmodest : Modest settings.useSplice f :=
    run_invariant_of_runAll modest_step (modest_init settings) hkeeps h
  have hpermits := (accounted_of_run h).permits
  rw [hlimit] at hpermits
  obtain ⟨available, -, hconserved, hpermit⟩ := hpermits
  have hbudget := fdsFor_le_setLimits hread hquiet (Option.filter_eq_some_iff.mp hlimit).1
  have hsum : (f.conns.map Conn.descriptors).sum ≤
      f.conns.countP Conn.holds * fdsPerConnection settings.useSplice +
        (f.conns.map (Conn.surplus settings.useSplice)).sum :=
    sum_le_countP_mul_add f.conns fun c hc =>
      Conn.descriptors_le (hpermit c hc) (hmodest.conns c hc)
  have hcount := Nat.mul_le_mul_right (fdsPerConnection settings.useSplice) hconserved.countP_le
  unfold fdsFor at hbudget
  omega

/-- As many connections as fit under a limit that cannot be raised, without splice. -/
def smallSettings : Settings :=
  { Settings.default with maxConnections := some 448, useSplice := false }

/-- A connection that races two addresses. -/
def racingPair : List Input :=
  [.start ⟨"127.0.0.1".toList, 8080, "a".toList, 80, .tcp⟩ none 0,
    .listener 0 (.bind .poll), .listener 0 (.bind .succeed), .listener 0 .poll,
    .listener 0 (.accept 5 5), .conn 0 .start,
    .conn 0 (.resolved (.ok [.v4 0x0A000001, .v4 0x0A000002]))]

theorem descriptors_fit_racingPair : ∃ f,
    run step (init smallSettings) racingPair = some f ∧ f.conns.map Conn.descriptors = [3] ∧
    (f.conns.map Conn.descriptors).sum + 128 ≤ 1024 + (f.conns.map (Conn.surplus false)).sum := by
  have hend : ((run step (init smallSettings) racingPair).map fun f =>
      f.conns.map Conn.descriptors) = some [3] := by decide
  obtain ⟨f, hf, hdescriptors⟩ := Option.map_eq_some_iff.mp hend
  refine ⟨f, hf, hdescriptors, ?_⟩
  have hquiet : (setLimits ⟨true, true⟩ ⟨true, true⟩ smallSettings false ⟨1024, 1024⟩).2 = [] := by
    decide
  obtain ⟨-, hfit⟩ := descriptors_fit smallSettings ⟨true, true⟩ ⟨true, true⟩ false ⟨1024, 1024⟩
  have hracing := hfit 448 rfl (by rw [hquiet]; exact List.not_mem_nil)
    (fun _ _ => by rw [hquiet]; exact List.not_mem_nil) racingPair f hf (by decide)
  exact hracing.resolve_right (by decide)

end Fleet

/-- Likewise for the sessions of the UDP forwarders, which hold a socket each and share the limit
that `ForwarderManager::new` makes. -/
theorem sessions_fit {settings : Settings} {first second : Answers} {rl : RLimit}
    (hread : .unreadable ∉ (setLimits first second settings true rl).2)
    (hquiet : ∀ current needed,
      .short current needed ∉ (setLimits first second settings true rl).2)
    (hvalid : 1 ≤ settings.udpMaxSessions) {is : List Udp.Fleet.Action} {f : Udp.Fleet}
    (h : run Udp.Fleet.step
      (Udp.Fleet.init (clamp settings.udpMaxSessions 1 maxUdpSessions)) is = some f) :
    f.active + fdHeadroom ≤ (setLimits first second settings true rl).1.soft := by
  have hsound : f.Sound (clamp settings.udpMaxSessions 1 maxUdpSessions) :=
    run_invariant (Udp.sound_step _)
      ⟨by simp [Udp.Fleet.init], by simp [Udp.Fleet.init, Udp.Fleet.active]⟩ h
  have hbudget : settings.udpMaxSessions + fdHeadroom ≤
      (setLimits first second settings true rl).1.soft :=
    headroom_le_of_quiet (fun hmem => hread (List.mem_append_right _ hmem))
      fun current needed hmem => hquiet current needed (List.mem_append_right _ hmem)
  have hpermits := hsound.permits
  have hclamp : clamp settings.udpMaxSessions 1 maxUdpSessions ≤ settings.udpMaxSessions := by
    unfold clamp
    split
    · exact hvalid
    · split <;> omega
  omega

end Rfw.Forwarder
