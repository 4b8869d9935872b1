/-
# Connecting to the first address that answers

`connect_racing` starts one attempt for each resolved address, `CONNECT_ATTEMPT_DELAY` apart, each
with the connect timeout for itself, and takes the first one that connects.  The TCP data path and
the monitor share it.

`connectRacing_raced` says who wins and when, whatever the addresses do.  Times are milliseconds
since the call.
-/
import Rfw.Lib.Race
import Rfw.Notify.Text

namespace Rfw.Forwarder

open Lib Lib.Race Notify

/-- `CONNECT_ATTEMPT_DELAY`. -/
def connectAttemptDelay : ℕ := 250

/-- What becomes of `TcpStream::connect` to one address, if nobody stops waiting for it. -/
inductive Dial
  | connects (after : ℕ)
  | refuses (after : ℕ) (error : Str)
  | hangs
  /-- The task of the attempt dies. -/
  | dies (after : ℕ) (error : Str)
deriving DecidableEq, Repr

/-- When the address answers, if it does so within the timeout. -/
def Dial.answer (connectTimeout : ℕ) : Dial → Option ℕ
  | .connects after => if after ≤ connectTimeout then some after else none
  | _ => none

/-- What `join_next` yields: the value of the task, or that the task died. -/
abbrev Joined := Except Str (SocketAddr × Except Str Unit)

/-- A finished task. -/
structure Completion where
  time : ℕ
  joined : Joined
deriving Repr

/-- The delay of the attempt with this number. -/
def stagger (i : ℕ) : ℕ := connectAttemptDelay * (i % 2 ^ 32)

/-- The error of an attempt that ran into the timeout. -/
def timeoutError (addr : SocketAddr) : Str := "connect timeout to ".toList ++ displayAddr addr

/-- One attempt.  `timeout` looks at the connection before it looks at the clock. -/
def attempt (connectTimeout : ℕ) (i : ℕ) (addr : SocketAddr) (dial : Dial) : Completion :=
  let timedOut := ⟨stagger i + connectTimeout, .ok (addr, .error (timeoutError addr))⟩
  match dial with
  | .connects after =>
      if after ≤ connectTimeout then ⟨stagger i + after, .ok (addr, .ok ())⟩ else timedOut
  | .refuses after error =>
      if after ≤ connectTimeout then
        ⟨stagger i + after, .ok (addr, .error
          ("connect ".toList ++ displayAddr addr ++ ": ".toList ++ error))⟩
      else timedOut
  | .hangs => timedOut
  | .dies after error =>
      if after ≤ connectTimeout then ⟨stagger i + after, .error error⟩ else timedOut

/-- The attempts of a call, in the order in which they are started. -/
def attempts (connectTimeout : ℕ) (dials : List (SocketAddr × Dial)) : List Completion :=
  dials.zipIdx.map fun d => attempt connectTimeout d.2 d.1.1 d.1.2

/-- The loop over `join_next`, with `last_err` and the time of the last completion. -/
def joinLoop (lastErr : Option Str) (now : ℕ) : List Completion → Except Str SocketAddr × ℕ
  | [] => (.error (lastErr.getD "no addresses to connect to".toList), now)
  | ⟨time, .ok (addr, .ok ())⟩ :: _ => (.ok addr, time)
  | ⟨time, .ok (_, .error e)⟩ :: rest => joinLoop (some e) time rest
  | ⟨time, .error e⟩ :: rest => joinLoop (some ("connect task failed: ".toList ++ e)) time rest

/-- `connect_racing`, from the tasks in the order in which they finish: the result and its time. -/
def connectRacing (completions : List Completion) : Except Str SocketAddr × ℕ :=
  joinLoop none 0 completions

/-- An order in which the attempts of a call can finish.  Attempts that finish at the same time come
in any order. -/
structure FinishOrder (connectTimeout : ℕ) (dials : List (SocketAddr × Dial))
    (completions : List Completion) : Prop where
  perm : completions.Perm (attempts connectTimeout dials)
  sorted : completions.Pairwise fun c d => c.time ≤ d.time

/-- What a caller can rely on. -/
structure Raced (connectTimeout : ℕ) (dials : List (SocketAddr × Dial))
    (r : Except Str SocketAddr × ℕ) : Prop where
  /-- The call connects exactly when some address answers within the timeout. -/
  connects : (∃ addr, r.1 = .ok addr) ↔ ∃ d ∈ dials, (d.2.answer connectTimeout).isSome
  /-- It connects to an address that answered, as soon as it did. -/
  answered : ∀ addr, r.1 = .ok addr → ∃ i dial after, dials[i]? = some (addr, dial) ∧
    dial.answer connectTimeout = some after ∧ r.2 = stagger i + after
  /-- No other address could have been reached earlier: the records before the one that answers
  cost no more than their stagger. -/
  earliest : ∀ addr, r.1 = .ok addr → ∀ (i : ℕ) addr' dial after,
    dials[i]? = some (addr', dial) → dial.answer connectTimeout = some after →
    r.2 ≤ connectAttemptDelay * i + after
  /-- The error is that of an attempt that failed last. -/
  lastError : ∀ error, r.1 = .error error →
    dials = [] ∧ error = "no addresses to connect to".toList ∨
    ∃ c ∈ attempts connectTimeout dials, c.time = r.2 ∧
      (∀ d ∈ attempts connectTimeout dials, d.time ≤ c.time) ∧
      ((∃ addr, c.joined = .ok (addr, .error error)) ∨
        ∃ e, c.joined = .error e ∧ error = "connect task failed: ".toList ++ e)
  /-- The whole call is over one timeout after its last attempt is started. -/
  bounded : r.2 ≤ connectAttemptDelay * (dials.length - 1) + connectTimeout

/-! ## The loop as a race -/

/-- What the loop makes of a finished task. -/
def Completion.finish (c : Completion) : Finish Str SocketAddr where
  time := c.time
  outcome := match c.joined with
    | .ok (addr, .ok ()) => .ok addr
    | .ok (_, .error e) => .error e
    | .error e => .error ("connect task failed: ".toList ++ e)

lemma joinLoop_eq (lastErr : Option Str) (now : ℕ) (completions : List Completion) :
    joinLoop lastErr now completions =
      (winner (lastErr.getD "no addresses to connect to".toList)
        (completions.map Completion.finish),
      decidedAt now (completions.map Completion.finish)) := by
  induction completions generalizing lastErr now with
  | nil => rfl
  | cons c completions ih =>
    obtain ⟨time, joined⟩ := c
    obtain e | ⟨addr, e | u⟩ := joined
    · exact ih _ _
    · exact ih _ _
    · rfl

/-! ## One attempt -/

variable {connectTimeout i : ℕ} {addr : SocketAddr} {dial : Dial}

lemma stagger_le (i : ℕ) : stagger i ≤ connectAttemptDelay * i :=
  Nat.mul_le_mul_left _ (Nat.mod_le _ _)

lemma time_attempt_le : (attempt connectTimeout i addr dial).time ≤
    stagger i + connectTimeout := by
  unfold attempt
  cases dial <;> dsimp only
  case hangs => exact le_refl _
  all_goals
    split
    · exact Nat.add_le_add_left ‹_› _
    · exact le_refl _

/-- An attempt connects exactly when its address answers, and at that time. -/
lemma attempt_of_answer {after : ℕ} (h : dial.answer connectTimeout = some after) :
    attempt connectTimeout i addr dial = ⟨stagger i + after, .ok (addr, .ok ())⟩ := by
  cases dial with
  | connects a =>
    obtain ⟨hle, ha⟩ := Option.ite_none_right_eq_some.mp h
    obtain rfl := Option.some.inj ha
    exact if_pos hle
  | refuses _ _ | hangs | dies _ _ => cases h

lemma outcome_attempt_of_no_answer (i : ℕ) (addr : SocketAddr)
    (h : dial.answer connectTimeout = none) :
    ∃ e, (attempt connectTimeout i addr dial).finish.outcome = .error e := by
  unfold attempt
  cases dial <;> dsimp only
  case connects after =>
    have hlate : ¬ after ≤ connectTimeout := by simpa [Dial.answer] using h
    rw [if_neg hlate]
    exact ⟨_, rfl⟩
  case hangs => exact ⟨_, rfl⟩
  all_goals split <;> exact ⟨_, rfl⟩

lemma mem_attempts {dials : List (SocketAddr × Dial)} {c : Completion} :
    c ∈ attempts connectTimeout dials ↔ ∃ (i : ℕ) (addr : SocketAddr) (dial : Dial),
      dials[i]? = some (addr, dial) ∧ c = attempt connectTimeout i addr dial := by
  simp only [attempts, List.mem_map, Prod.exists, List.mem_zipIdx_iff_getElem?]
  constructor
  · rintro ⟨addr, dial, i, hget, rfl⟩
    exact ⟨i, addr, dial, hget, rfl⟩
  · rintro ⟨i, addr, dial, hget, rfl⟩
    exact ⟨addr, dial, i, hget, rfl⟩

/-- An attempt that connects is one whose address answers. -/
lemma answer_of_outcome {a : SocketAddr}
    (h : (attempt connectTimeout i addr dial).finish.outcome = .ok a) :
    a = addr ∧ ∃ after, dial.answer connectTimeout = some after ∧
      (attempt connectTimeout i addr dial).time = stagger i + after := by
  cases hanswer : dial.answer connectTimeout with
  | none =>
    obtain ⟨e, he⟩ := outcome_attempt_of_no_answer i addr hanswer
    rw [he] at h
    cases h
  | some after =>
    rw [attempt_of_answer hanswer] at h ⊢
    exact ⟨(Except.ok.inj h).symm, after, rfl, rfl⟩

/-! ## The race -/

section Race

variable {dials : List (SocketAddr × Dial)} {completions : List Completion}

lemma FinishOrder.inOrder (h : FinishOrder connectTimeout dials completions) :
    InOrder (completions.map Completion.finish) :=
  List.pairwise_map.mpr h.sorted

lemma FinishOrder.mem_iff (h : FinishOrder connectTimeout dials completions) {c : Completion} :
    c ∈ completions ↔ ∃ (i : ℕ) (addr : SocketAddr) (dial : Dial),
      dials[i]? = some (addr, dial) ∧ c = attempt connectTimeout i addr dial :=
  h.perm.mem_iff.trans mem_attempts

/-- The error of a failed attempt is one of the texts of the source. -/
lemma joined_of_outcome_error {c : Completion} {error : Str}
    (h : c.finish.outcome = .error error) :
    (∃ addr, c.joined = .ok (addr, .error error)) ∨
      ∃ e, c.joined = .error e ∧ error = "connect task failed: ".toList ++ e := by
  obtain ⟨time, joined⟩ := c
  obtain e | ⟨addr, e | u⟩ := joined
  · exact .inr ⟨e, rfl, (Except.error.inj h).symm⟩
  · obtain rfl := Except.error.inj h
    exact .inl ⟨addr, rfl⟩
  · cases h

lemma lt_length_of_getElem? {α : Type*} {l : List α} {a : α} (h : l[i]? = some a) :
    i ≤ l.length - 1 := by
  have := (List.getElem?_eq_some_iff.mp h).1
  omega

/-- **The race for a connection.**  Whatever the addresses do and in whatever order the attempts
finish, the caller gets the connection that is there first, and an error only when no address
answers. -/
theorem connectRacing_raced (h : FinishOrder connectTimeout dials completions) :
    Raced connectTimeout dials (connectRacing completions) := by
  rw [connectRacing, joinLoop_eq]
  set fs := completions.map Completion.finish with hfs
  have hwon {addr : SocketAddr}
      (hok : winner "no addresses to connect to".toList fs = .ok addr) :=
    of_winner_ok 0 h.inOrder hok
  have hmem {f : Finish Str SocketAddr} (hf : f ∈ fs) : ∃ (i : ℕ) (addr : SocketAddr) (dial : Dial),
      dials[i]? = some (addr, dial) ∧ (attempt connectTimeout i addr dial).finish = f := by
    obtain ⟨c, hc, rfl⟩ := List.mem_map.mp hf
    obtain ⟨i, addr, dial, hget, rfl⟩ := h.mem_iff.mp hc
    exact ⟨i, addr, dial, hget, rfl⟩
  have hfinish {i : ℕ} {addr : SocketAddr} {dial : Dial} (hget : dials[i]? = some (addr, dial)) :
      (attempt connectTimeout i addr dial).finish ∈ fs :=
    List.mem_map_of_mem (h.mem_iff.mpr ⟨i, addr, dial, hget, rfl⟩)
  refine ⟨⟨?_, ?_⟩, ?_, ?_, ?_, ?_⟩
  · rintro ⟨addr, hok⟩
    obtain ⟨f, hf, houtcome, -⟩ := hwon hok
    obtain ⟨i, addr', dial, hget, rfl⟩ := hmem hf
    obtain ⟨-, after, hanswer, -⟩ := answer_of_outcome houtcome
    exact ⟨(addr', dial), List.mem_of_getElem? hget, by rw [hanswer]; rfl⟩
  · rintro ⟨⟨addr, dial⟩, hd, hsome⟩
    obtain ⟨after, hanswer⟩ := Option.isSome_iff_exists.mp hsome
    obtain ⟨i, hget⟩ := List.getElem?_of_mem hd
    exact exists_winner_ok (a := addr) (hfinish hget) (by rw [attempt_of_answer hanswer]; rfl)
  · intro addr hok
    obtain ⟨f, hf, houtcome, hdecided, -⟩ := hwon hok
    obtain ⟨i, addr', dial, hget, rfl⟩ := hmem hf
    obtain ⟨rfl, after, hanswer, htime⟩ := answer_of_outcome houtcome
    exact ⟨i, dial, after, hget, hanswer, hdecided.trans htime⟩
  · intro addr hok i addr' dial after hget hanswer
    obtain ⟨f, hf, houtcome, hdecided, hbest⟩ := hwon hok
    have hle := hbest _ (hfinish hget) addr' (by rw [attempt_of_answer hanswer]; rfl)
    rw [attempt_of_answer hanswer] at hle
    calc decidedAt 0 fs = f.time := hdecided
      _ ≤ stagger i + after := hle
      _ ≤ connectAttemptDelay * i + after := Nat.add_le_add_right (stagger_le i) _
  · intro error herror
    obtain ⟨-, hlast⟩ := of_winner_error 0 h.inOrder herror
    rcases hlast with ⟨hnil, rfl, -⟩ | ⟨f, hf, houtcome, hdecided, hlatest⟩
    · refine .inl ⟨?_, rfl⟩
      have hempty : completions = [] := by simpa [hfs] using hnil
      have hlength := h.perm.length_eq
      simpa [hempty, attempts, eq_comm] using hlength
    · obtain ⟨i, addr, dial, hget, rfl⟩ := hmem hf
      refine .inr ⟨_, mem_attempts.mpr ⟨i, addr, dial, hget, rfl⟩, hdecided.symm, ?_,
        joined_of_outcome_error houtcome⟩
      intro d hd
      obtain ⟨j, addr', dial', hget', rfl⟩ := mem_attempts.mp hd
      exact hlatest _ (hfinish hget')
  · refine decidedAt_le (Nat.zero_le _) fun f hf => ?_
    obtain ⟨i, addr, dial, hget, rfl⟩ := hmem hf
    have hstagger := stagger_le i
    have hlast : connectAttemptDelay * i ≤ connectAttemptDelay * (dials.length - 1) :=
      Nat.mul_le_mul_left _ (lt_length_of_getElem? hget)
    have htime : (attempt connectTimeout i addr dial).finish.time ≤ stagger i + connectTimeout :=
      time_attempt_le
    omega

/-- A dead record in front of one that answers after 30 ms. -/
def deadFirst : List (SocketAddr × Dial) :=
  [(.v4 0x0A000001 443, .hangs), (.v4 0x0A000002 443, .connects 30)]

/-- The attempts of `deadFirst` as they finish. -/
def deadFirstOrder : List Completion :=
  [attempt 10000 1 (.v4 0x0A000002 443) (.connects 30), attempt 10000 0 (.v4 0x0A000001 443) .hangs]

theorem connectRacing_raced_deadFirst :
    connectRacing deadFirstOrder = (.ok (.v4 0x0A000002 443), 280) ∧
      Raced 10000 deadFirst (connectRacing deadFirstOrder) :=
  ⟨rfl, connectRacing_raced ⟨List.Perm.swap _ _ _, by
    refine List.pairwise_pair.mpr ?_
    decide⟩⟩

end Race

end Rfw.Forwarder
