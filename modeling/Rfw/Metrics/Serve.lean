/-
# The metrics endpoint

`serve` accepts connections and spawns a task for each of them, as long as fewer than
`MAX_CONCURRENT_REQUESTS` are in flight; the others are closed at once.  A task reads the request,
answers it and gives its permit back.

One input is one step of the accept loop or of one task, so that a run is any interleaving of them
with any clients.  `serve_bounded` says what the endpoint can take from the process in any run.
-/
import Rfw.Forwarder.Accept
import Rfw.Lib.Permits
import Rfw.Metrics.Request
import Mathlib.Algebra.Group.Action.Defs
import Mathlib.Algebra.Order.BigOperators.Group.List

namespace Rfw.Metrics

open Lib Lib.Utf8 Permits Monitor Notify Forwarder

/-- `MAX_CONCURRENT_REQUESTS`. -/
def maxConcurrentRequests : ℕ := 32

/-- `REQUEST_READ_TIMEOUT`. -/
def requestReadTimeout : ℕ := secs 5

/-- `ACCEPT_BACKOFF`. -/
def serveBackoff : ℕ := secs 1

/-- The accept errors that concern one connection only. -/
def isPeerError : AcceptError → Bool
  | .connectionAborted | .connectionReset | .interrupted => true
  | .notConnected | .other => false

/-- Where a task is. -/
inductive Step
  | reading
  /-- The head is complete, and the registry is read. -/
  | collecting (buf : List UInt8)
  | writing (response : Str)
  /-- The task has ended, with what it answered. -/
  | finished (answer : Option Str)
deriving DecidableEq, Repr

/-- The task of one connection. -/
structure Request where
  /-- The end of `REQUEST_READ_TIMEOUT`. -/
  expires : ℕ
  reads : List Read
  step : Step
deriving DecidableEq, Repr

/-- The task holds its permit. -/
def Request.inFlight (q : Request) : Bool :=
  match q.step with
  | .finished _ => false
  | _ => true

/-- Where the accept loop is. -/
inductive ServePhase
  | binding
  /-- At the `select!`, whose first branch is the token. -/
  | select
  | accepting
  | backoff (wake : ℕ)
  | returned
deriving DecidableEq, Repr

/-- The endpoint. -/
structure Server where
  addr : Str
  phase : ServePhase
  cancelled : Bool
  /-- The permits left in `limiter`. -/
  available : ℕ
  requests : List Request
  clock : ℕ
  raised : List Event
  accepted : ℕ
  shed : ℕ
  /-- When the loop paused, latest first. -/
  pauses : List ℕ

namespace Server

/-- A call of `serve`. -/
def init (addr : Str) : Server where
  addr := addr
  phase := .binding
  cancelled := false
  available := maxConcurrentRequests
  requests := []
  clock := 0
  raised := []
  accepted := 0
  shed := 0
  pauses := []

/-- What can happen next. -/
inductive Input
  /-- `bind` succeeds, or fails with an error. -/
  | bind (error : Option Str)
  /-- The loop looks at its token. -/
  | poll
  | accept
  | acceptError (e : AcceptError)
  /-- The pause is over. -/
  | wake
  | cancel
  /-- Time goes on. -/
  | tick (nanos : ℕ)
  /-- A wait for bytes ends. -/
  | read (i : ℕ) (r : Read)
  /-- The registry and the counters of the notifier are read. -/
  | collect (i : ℕ) (snaps : List StatsSnapshot) (n : NotifierSnapshot)
  /-- The answer is written, or not. -/
  | written (i : ℕ) (ok : Bool)

/-- What the runtime allows: a buffer of `chunk` bytes, and no deadline before its time. -/
def CanRead (clock expires : ℕ) : Read → Prop
  | .data chunk => chunk.length ≤ chunkSize
  | .failed _ => True
  | .deadline => expires ≤ clock

instance (clock expires : ℕ) : ∀ r, Decidable (CanRead clock expires r)
  | .data chunk => inferInstanceAs (Decidable (chunk.length ≤ chunkSize))
  | .failed _ => inferInstanceAs (Decidable True)
  | .deadline => inferInstanceAs (Decidable (expires ≤ clock))

/-- Where the reads have brought a task. -/
def afterReads (reads : List Read) : Step :=
  match readHead [] 0 reads with
  | .waiting => .reading
  | .complete buf _ => .collecting buf
  | .failed _ | .expired => .finished none

/-- A task moves on; at its end the permit comes back. -/
def advance (s : Server) (i : ℕ) (q : Request) : Server :=
  { s with
    requests := s.requests.set i q
    available := if q.inFlight then s.available else s.available + 1 }

/-- One step. -/
def step (s : Server) : Input → Option Server
  | .bind error =>
      if s.phase = .binding then
        match error with
        | none => some { s with phase := .select }
        | some e =>
            some { s with
              phase := .returned
              raised := s.raised ++ [.internal "metrics".toList
                ("stats endpoint failed to bind ".toList ++ s.addr ++ ": ".toList ++ e ++
                  ". /metrics, /stats and the healthcheck are unavailable".toList)] }
      else none
  | .poll =>
      match s.phase with
      | .select => some { s with phase := if s.cancelled then .returned else .accepting }
      | .accepting | .backoff _ => if s.cancelled then some { s with phase := .returned } else none
      | .binding | .returned => none
  | .accept =>
      if s.phase = .accepting then
        match s.available with
        | 0 => some { s with phase := .select, accepted := s.accepted + 1, shed := s.shed + 1 }
        | n + 1 =>
            some { s with
              phase := .select
              accepted := s.accepted + 1
              available := n
              requests := s.requests ++ [⟨s.clock + requestReadTimeout, [], .reading⟩] }
      else none
  | .acceptError e =>
      if s.phase = .accepting then
        if isPeerError e then some { s with phase := .select }
        else
          some { s with
            phase := .backoff (s.clock + serveBackoff)
            pauses := s.clock :: s.pauses }
      else none
  | .wake =>
      match s.phase with
      | .backoff wake => if wake ≤ s.clock then some { s with phase := .select } else none
      | _ => none
  | .cancel => some { s with cancelled := true }
  | .tick nanos => some { s with clock := s.clock + nanos }
  | .read i r =>
      (s.requests[i]?).bind fun q =>
        if q.step = .reading ∧ CanRead s.clock q.expires r then
          some (s.advance i { q with reads := q.reads ++ [r], step := afterReads (q.reads ++ [r]) })
        else none
  | .collect i snaps n =>
      (s.requests[i]?).bind fun q =>
        match q.step with
        | .collecting buf =>
            some (s.advance i
              { q with step := .writing (respond snaps n (parseRequestTarget (decodeLossy buf))) })
        | _ => none
  | .written i ok =>
      (s.requests[i]?).bind fun q =>
        match q.step with
        | .writing response =>
            some (s.advance i { q with step := .finished (if ok then some response else none) })
        | _ => none

end Server

/-! ## One request -/

/-- The bytes that reads have brought. -/
def bytes : List Read → ℕ
  | [] => 0
  | .data chunk :: reads => chunk.length + bytes reads
  | _ :: reads => bytes reads

lemma bytes_append (reads reads' : List Read) :
    bytes (reads ++ reads') = bytes reads + bytes reads' := by
  induction reads with
  | nil => simp [bytes]
  | cons r reads ih => cases r <;> simp only [List.cons_append, bytes, ih, Nat.add_assoc]

/-- A loop that still waits has not reached the limit. -/
lemma bytes_lt_of_waiting {buf : List UInt8} {reads : List Read}
    (hbuf : buf.length < maxRequestBytes) (h : rescanHead buf reads = .waiting) :
    buf.length + bytes reads < maxRequestBytes := by
  induction reads generalizing buf with
  | nil => exact hbuf
  | cons r reads ih =>
    cases r with
    | data chunk =>
      simp only [rescanHead] at h
      split at h
      · cases h
      · split at h
        · cases h
        · rename_i hfull
          have hlt : (buf ++ chunk).length < maxRequestBytes := by
            simp only [Bool.or_eq_true, decide_eq_true_eq, not_or, not_le] at hfull
            exact hfull.2
          have hrest := ih hlt h
          rw [List.length_append] at hrest
          rw [bytes]
          omega
    | failed e => cases h
    | deadline => cases h

namespace Request

/-- The reads of a task have led to its step. -/
def Led (q : Request) : Prop :=
  match q.step with
  | .reading => readHead [] 0 q.reads = .waiting
  | .collecting buf => ∃ left, readHead [] 0 q.reads = .complete buf left
  | .writing response | .finished (some response) =>
      ∃ snaps n, handleConn snaps n q.reads = some response
  | .finished none => True

/-- What holds of every task. -/
structure Sound (q : Request) : Prop where
  led : q.Led
  small : q.inFlight = true → bytes q.reads < maxRequestBytes + chunkSize

variable {q : Request}

lemma Sound.read {clock expires : ℕ} (h : Sound q) (hreading : q.step = .reading) {r : Read}
    (hr : Server.CanRead clock expires r) :
    Sound { q with reads := q.reads ++ [r], step := Server.afterReads (q.reads ++ [r]) } := by
  have hwaiting : readHead [] 0 q.reads = .waiting := by
    have hled := h.led
    rwa [Led, hreading] at hled
  have hbytes : bytes (q.reads ++ [r]) < maxRequestBytes + chunkSize := by
    rw [readHead_nil] at hwaiting
    have hlt := bytes_lt_of_waiting (by decide) hwaiting
    have hone : bytes [r] ≤ chunkSize := by
      cases r with
      | data chunk => exact hr
      | failed e | deadline => exact Nat.zero_le _
    rw [bytes_append]
    rw [List.length_nil] at hlt
    omega
  refine ⟨?_, fun _ => hbytes⟩
  show Led { q with reads := q.reads ++ [r], step := Server.afterReads (q.reads ++ [r]) }
  unfold Led Server.afterReads
  cases hhead : readHead [] 0 (q.reads ++ [r]) with
  | waiting => rfl
  | complete buf left => exact ⟨left, rfl⟩
  | failed e => trivial
  | expired => trivial

lemma Sound.collect (h : Sound q) {buf : List UInt8} (hcollecting : q.step = .collecting buf)
    (snaps : List StatsSnapshot) (n : NotifierSnapshot) :
    Sound { q with
      step := .writing (respond snaps n (parseRequestTarget (decodeLossy buf))) } := by
  have hled := h.led
  rw [Led, hcollecting] at hled
  obtain ⟨left, hhead⟩ := hled
  refine ⟨⟨snaps, n, ?_⟩, fun _ => h.small (by rw [inFlight, hcollecting])⟩
  rw [handleConn, hhead]

lemma Sound.written (h : Sound q) {response : Str} (hwriting : q.step = .writing response)
    (ok : Bool) :
    Sound { q with step := .finished (if ok then some response else none) } := by
  have hled := h.led
  rw [Led, hwriting] at hled
  refine ⟨?_, nofun⟩
  cases ok with
  | true => exact hled
  | false => trivial

end Request

namespace Server

/-- When the accept loop accepts again. -/
def resumes (s : Server) : ℕ :=
  match s.phase with
  | .backoff wake => wake
  | _ => s.clock

/-- What holds in every reachable state. -/
structure Bounded (s : Server) : Prop where
  permits : Conserved maxConcurrentRequests Request.inFlight s.available s.requests
  accepted : s.accepted = s.requests.length + s.shed
  sound : ∀ q ∈ s.requests, q.Sound
  spaced : s.pauses.Pairwise fun later earlier => earlier + serveBackoff ≤ later
  paused : s.phase ≠ .returned → ∀ p ∈ s.pauses, p + serveBackoff ≤ s.resumes

/-- Everything that a step can do. -/
inductive Move (s : Server) : Input → Server → Prop
  | bound (hphase : s.phase = .binding) : Move s (.bind none) { s with phase := .select }
  | unbound (e : Str) (event : Notify.Event) (hphase : s.phase = .binding) :
      Move s (.bind (some e)) { s with phase := .returned, raised := s.raised ++ [event] }
  | awaited (hphase : s.phase = .select) : Move s .poll { s with phase := .accepting }
  | stopped (hcancelled : s.cancelled = true) : Move s .poll { s with phase := .returned }
  | shed (hphase : s.phase = .accepting) (havailable : s.available = 0) :
      Move s .accept
        { s with phase := .select, accepted := s.accepted + 1, shed := s.shed + 1 }
  | admitted (n : ℕ) (hphase : s.phase = .accepting) (havailable : s.available = n + 1) :
      Move s .accept
        { s with
          phase := .select
          accepted := s.accepted + 1
          available := n
          requests := s.requests ++ [⟨s.clock + requestReadTimeout, [], .reading⟩] }
  | retried (e : AcceptError) (hphase : s.phase = .accepting) :
      Move s (.acceptError e) { s with phase := .select }
  | paused (e : AcceptError) (hphase : s.phase = .accepting) :
      Move s (.acceptError e)
        { s with phase := .backoff (s.clock + serveBackoff), pauses := s.clock :: s.pauses }
  | woken (wake : ℕ) (hphase : s.phase = .backoff wake) (hwake : wake ≤ s.clock) :
      Move s .wake { s with phase := .select }
  | cancelled : Move s .cancel { s with cancelled := true }
  | ticked (nanos : ℕ) : Move s (.tick nanos) { s with clock := s.clock + nanos }
  | read (i : ℕ) (r : Read) (q : Request) (hq : s.requests[i]? = some q)
      (hreading : q.step = .reading) (hr : CanRead s.clock q.expires r) :
      Move s (.read i r)
        (s.advance i { q with reads := q.reads ++ [r], step := afterReads (q.reads ++ [r]) })
  | collected (i : ℕ) (snaps : List StatsSnapshot) (n : NotifierSnapshot) (q : Request)
      (buf : List UInt8) (hq : s.requests[i]? = some q) (hcollecting : q.step = .collecting buf) :
      Move s (.collect i snaps n)
        (s.advance i
          { q with step := .writing (respond snaps n (parseRequestTarget (decodeLossy buf))) })
  | written (i : ℕ) (ok : Bool) (q : Request) (response : Str) (hq : s.requests[i]? = some q)
      (hwriting : q.step = .writing response) :
      Move s (.written i ok)
        (s.advance i { q with step := .finished (if ok then some response else none) })

variable {s s' : Server}

lemma move_of_step {i : Input} (h : step s i = some s') : Move s i s' := by
  cases i with
  | bind error =>
    obtain ⟨hphase, heq⟩ := Option.ite_none_right_eq_some.mp h
    cases error with
    | none =>
      obtain rfl := Option.some.inj heq
      exact .bound hphase
    | some e =>
      obtain rfl := Option.some.inj heq
      exact .unbound e _ hphase
  | poll =>
    simp only [step] at h
    split at h
    · rename_i hphase
      obtain rfl := Option.some.inj h
      split
      · rename_i hcancelled
        exact .stopped hcancelled
      · exact .awaited hphase
    · obtain ⟨hcancelled, heq⟩ := Option.ite_none_right_eq_some.mp h
      obtain rfl := Option.some.inj heq
      exact .stopped hcancelled
    · obtain ⟨hcancelled, heq⟩ := Option.ite_none_right_eq_some.mp h
      obtain rfl := Option.some.inj heq
      exact .stopped hcancelled
    · cases h
    · cases h
  | accept =>
    obtain ⟨hphase, heq⟩ := Option.ite_none_right_eq_some.mp h
    split at heq
    · rename_i havailable
      obtain rfl := Option.some.inj heq
      exact .shed hphase havailable
    · rename_i n havailable
      obtain rfl := Option.some.inj heq
      exact .admitted n hphase havailable
  | acceptError e =>
    obtain ⟨hphase, heq⟩ := Option.ite_none_right_eq_some.mp h
    split at heq
    · obtain rfl := Option.some.inj heq
      exact .retried e hphase
    · obtain rfl := Option.some.inj heq
      exact .paused e hphase
  | wake =>
    simp only [step] at h
    split at h
    · rename_i wake hphase
      obtain ⟨hwake, heq⟩ := Option.ite_none_right_eq_some.mp h
      obtain rfl := Option.some.inj heq
      exact .woken wake hphase hwake
    · cases h
  | cancel =>
    obtain rfl := Option.some.inj h
    exact .cancelled
  | tick nanos =>
    obtain rfl := Option.some.inj h
    exact .ticked nanos
  | read i r =>
    obtain ⟨q, hq, h⟩ := Option.bind_eq_some_iff.mp h
    obtain ⟨⟨hreading, hr⟩, heq⟩ := Option.ite_none_right_eq_some.mp h
    obtain rfl := Option.some.inj heq
    exact .read i r q hq hreading hr
  | collect i snaps n =>
    obtain ⟨q, hq, h⟩ := Option.bind_eq_some_iff.mp h
    split at h
    · rename_i buf hcollecting
      obtain rfl := Option.some.inj h
      exact .collected i snaps n q buf hq hcollecting
    · cases h
  | written i ok =>
    obtain ⟨q, hq, h⟩ := Option.bind_eq_some_iff.mp h
    split at h
    · rename_i response hwriting
      obtain rfl := Option.some.inj h
      exact .written i ok q response hq hwriting
    · cases h

lemma bounded_init (addr : Str) : Bounded (init addr) :=
  ⟨conserved_nil _ _, rfl, nofun, .nil, fun _ => nofun⟩

/-- The loop goes on to another phase without having paused. -/
lemma Bounded.withPhase (h : Bounded s) {phase : ServePhase}
    (hresumes : phase ≠ .returned → s.phase ≠ .returned ∧
      s.resumes ≤ ({ s with phase } : Server).resumes) :
    Bounded { s with phase } := by
  refine ⟨h.permits, h.accepted, h.sound, h.spaced, fun hphase p hp => ?_⟩
  obtain ⟨hold, hle⟩ := hresumes hphase
  exact (h.paused hold p hp).trans hle

/-- A task moves on. -/
lemma Bounded.advance (h : Bounded s) {i : ℕ} {q q' : Request} (hq : s.requests[i]? = some q)
    (hflight : q.inFlight = true) (hsound : q'.Sound) : Bounded (s.advance i q') := by
  refine ⟨?_, ?_, fun r hr => ?_, h.spaced, h.paused⟩
  · show Conserved _ _ (if q'.inFlight then s.available else s.available + 1) (s.requests.set i q')
    split
    · rename_i hq'
      exact h.permits.keep hq (hq'.trans hflight.symm)
    · rename_i hq'
      exact h.permits.give hq hflight (Bool.eq_false_of_not_eq_true hq')
  · show s.accepted = (s.requests.set i q').length + s.shed
    rw [List.length_set]
    exact h.accepted
  · obtain hr | rfl := List.mem_or_eq_of_mem_set hr
    · exact h.sound r hr
    · exact hsound

lemma Bounded.paused_of_accepting (h : Bounded s) (hphase : s.phase = .accepting) :
    ∀ p ∈ s.pauses, p + serveBackoff ≤ s.clock := by
  have hpaused := h.paused (by rw [hphase]; nofun)
  rwa [resumes, hphase] at hpaused

/-- A connection is admitted. -/
lemma Bounded.admitted (h : Bounded s) {n : ℕ} (hphase : s.phase = .accepting)
    (havailable : s.available = n + 1) :
    Bounded { s with
      phase := .select
      accepted := s.accepted + 1
      available := n
      requests := s.requests ++ [⟨s.clock + requestReadTimeout, [], .reading⟩] } := by
  have hpermits := h.permits
  rw [havailable] at hpermits
  refine ⟨hpermits.take rfl, ?_, ?_, h.spaced, fun _ => h.paused_of_accepting hphase⟩
  · show s.accepted + 1 = (s.requests ++ [_]).length + s.shed
    rw [h.accepted, List.length_append, List.length_singleton]
    omega
  · rw [List.forall_mem_append, List.forall_mem_singleton]
    exact ⟨h.sound, rfl, fun _ => by simp [bytes, maxRequestBytes]⟩

/-- The accept loop makes a pause. -/
lemma Bounded.pause (h : Bounded s) (hphase : s.phase = .accepting) :
    Bounded { s with
      phase := .backoff (s.clock + serveBackoff), pauses := s.clock :: s.pauses } := by
  have hpaused := h.paused_of_accepting hphase
  refine ⟨h.permits, h.accepted, h.sound, List.pairwise_cons.mpr ⟨hpaused, h.spaced⟩, ?_⟩
  rintro - p hp
  obtain rfl | hp := List.mem_cons.mp hp
  · exact le_refl _
  · exact (hpaused p hp).trans (Nat.le_add_right _ _)

lemma bounded_step (s : Server) (i : Input) (s' : Server) (h : Bounded s)
    (hstep : step s i = some s') : Bounded s' := by
  have hgoes {phase : ServePhase} (hold : s.phase ≠ .returned)
      (hle : s.resumes ≤ ({ s with phase } : Server).resumes) : Bounded { s with phase } :=
    h.withPhase fun _ => ⟨hold, hle⟩
  cases move_of_step hstep with
  | bound hphase =>
    refine hgoes (by rw [hphase]; nofun) ?_
    rw [resumes, hphase]
    exact le_refl _
  | unbound e event hphase =>
    exact ⟨h.permits, h.accepted, h.sound, h.spaced, fun hne => absurd rfl hne⟩
  | awaited hphase | retried e hphase =>
    refine hgoes (by rw [hphase]; nofun) ?_
    rw [resumes, hphase]
    exact le_refl _
  | stopped hcancelled => exact h.withPhase fun hne => absurd rfl hne
  | shed hphase havailable =>
    refine ⟨h.permits, ?_, h.sound, h.spaced, fun _ => h.paused_of_accepting hphase⟩
    show s.accepted + 1 = s.requests.length + (s.shed + 1)
    rw [h.accepted]
    omega
  | admitted n hphase havailable => exact h.admitted hphase havailable
  | paused e hphase => exact h.pause hphase
  | woken wake hphase hwake =>
    refine hgoes (by rw [hphase]; nofun) ?_
    rw [resumes, hphase]
    exact hwake
  | cancelled => exact ⟨h.permits, h.accepted, h.sound, h.spaced, h.paused⟩
  | ticked nanos =>
    refine ⟨h.permits, h.accepted, h.sound, h.spaced, fun hphase p hp => ?_⟩
    refine (h.paused hphase p hp).trans ?_
    unfold resumes
    dsimp only
    split
    · exact le_refl _
    · exact Nat.le_add_right _ _
  | read i r q hq hreading hr =>
    exact h.advance hq (by rw [Request.inFlight, hreading])
      ((h.sound q (List.mem_of_getElem? hq)).read hreading hr)
  | collected i snaps n q buf hq hcollecting =>
    exact h.advance hq (by rw [Request.inFlight, hcollecting])
      ((h.sound q (List.mem_of_getElem? hq)).collect hcollecting snaps n)
  | written i ok q response hq hwriting =>
    exact h.advance hq (by rw [Request.inFlight, hwriting])
      ((h.sound q (List.mem_of_getElem? hq)).written hwriting ok)

/-- A task has this answer to what it read, and is writing it or has written it. -/
def Answers (s : Server) (i : ℕ) (reads : List Read) (response : Str) : Prop :=
  ∃ q, s.requests[i]? = some q ∧ q.reads = reads ∧
    (q.step = .writing response ∨ q.step = .finished (some response))

lemma afterReads_ne (reads : List Read) (response : Str) :
    afterReads reads ≠ .writing response ∧ afterReads reads ≠ .finished (some response) := by
  unfold afterReads
  split <;> exact ⟨nofun, nofun⟩

/-- After a task has moved on, an answer was there before or is the one of this task. -/
lemma answers_advance {i j : ℕ} {q q' : Request} (hq : s.requests[j]? = some q)
    {reads : List Read} {response : Str} (h : (s.advance j q').Answers i reads response) :
    s.Answers i reads response ∨ j = i ∧ q'.reads = reads ∧
      (q'.step = .writing response ∨ q'.step = .finished (some response)) := by
  obtain ⟨r, hr, hreads, hwhere⟩ := h
  obtain rfl | hij := eq_or_ne j i
  · obtain rfl := Option.some.inj
      ((List.getElem?_set_self (List.getElem?_eq_some_iff.mp hq).1).symm.trans hr)
    exact .inr ⟨rfl, hreads, hwhere⟩
  · exact .inl ⟨r, (List.getElem?_set_ne hij).symm.trans hr, hreads, hwhere⟩

/-- An answer comes from the registry as it is read: no other step makes one. -/
lemma answers_step (hsound : ∀ q ∈ s.requests, q.Sound) {i : ℕ} {reads : List Read}
    {response : Str} (hno : ¬ s.Answers i reads response) (hyes : s'.Answers i reads response)
    {input : Input} (hstep : step s input = some s') :
    ∃ snaps n, input = .collect i snaps n ∧ handleConn snaps n reads = some response := by
  have hkept (heq : s'.requests = s.requests) : False := by
    unfold Answers at hno hyes
    rw [heq] at hyes
    exact hno hyes
  cases move_of_step hstep with
  | admitted m hphase havailable =>
    obtain ⟨q, hq, hreads, hwhere⟩ := hyes
    rw [List.getElem?_append] at hq
    split at hq
    · exact absurd ⟨q, hq, hreads, hwhere⟩ hno
    · -- a new task is still reading
      obtain rfl := List.mem_singleton.mp (List.mem_of_getElem? hq)
      obtain hwhere | hwhere := hwhere <;> cases hwhere
  | read j r q hq hreading hr =>
    obtain hold | ⟨rfl, -, hwhere⟩ := answers_advance hq hyes
    · exact absurd hold hno
    · obtain ⟨hwriting, hfinished⟩ := afterReads_ne (q.reads ++ [r]) response
      exact (hwhere.elim hwriting hfinished).elim
  | collected j snaps n q buf hq hcollecting =>
    obtain hold | ⟨rfl, hreads, hwhere⟩ := answers_advance hq hyes
    · exact absurd hold hno
    · have hled := (hsound q (List.mem_of_getElem? hq)).led
      rw [Request.Led, hcollecting] at hled
      obtain ⟨left, hhead⟩ := hled
      refine ⟨snaps, n, rfl, ?_⟩
      rw [← hreads, handleConn, hhead]
      obtain hwhere | hwhere := hwhere
      · exact congrArg some (Step.writing.inj hwhere)
      · cases hwhere
  | written j ok q written hq hwriting =>
    obtain hold | ⟨rfl, hreads, hwhere⟩ := answers_advance hq hyes
    · exact absurd hold hno
    · obtain hwhere | hwhere := hwhere
      · cases hwhere
      · -- it was being written before
        have hsome := Step.finished.inj hwhere
        split at hsome
        · obtain rfl := Option.some.inj hsome
          exact absurd ⟨q, hq, hreads, .inl hwriting⟩ hno
        · cases hsome
  | _ => exact (hkept rfl).elim

/-- What the tasks in flight have read. -/
def buffered (s : Server) : ℕ :=
  ((s.requests.filter Request.inFlight).map fun q => bytes q.reads).sum

lemma Bounded.buffered_le (h : Bounded s) :
    s.buffered ≤ maxConcurrentRequests * (maxRequestBytes + chunkSize) := by
  have hone : ∀ n ∈ (s.requests.filter Request.inFlight).map fun q => bytes q.reads,
      n ≤ maxRequestBytes + chunkSize := by
    intro n hn
    obtain ⟨q, hq, rfl⟩ := List.mem_map.mp hn
    obtain ⟨hmem, hflight⟩ := List.mem_filter.mp hq
    exact ((h.sound q hmem).small hflight).le
  have hsum := List.sum_le_card_nsmul _ _ hone
  have hcount := h.permits.countP_le
  rw [List.length_map, ← List.countP_eq_length_filter, smul_eq_mul] at hsum
  exact hsum.trans (Nat.mul_le_mul_right _ hcount)

/-- **The endpoint cannot starve the process.**  Whatever its clients do, in every reachable state
the requests in flight and the permits left are `MAX_CONCURRENT_REQUESTS` together; every accepted
connection is a request or was shed; the requests in flight have buffered less than a request limit
and one read each; what a task answers is the answer of `handle_conn` to what it read; and two
pauses after accept errors are `ACCEPT_BACKOFF` apart. -/
theorem serve_bounded {addr : Str} {is : List Input} (h : run step (init addr) is = some s) :
    s.available + s.requests.countP Request.inFlight = maxConcurrentRequests ∧
    s.accepted = s.requests.length + s.shed ∧
    s.buffered ≤ maxConcurrentRequests * (maxRequestBytes + chunkSize) ∧
    (∀ q ∈ s.requests, ∀ answer, q.step = .finished (some answer) →
      ∃ snaps n, handleConn snaps n q.reads = some answer) ∧
    s.pauses.Pairwise fun later earlier => earlier + serveBackoff ≤ later := by
  have hbounded : Bounded s := run_invariant bounded_step (bounded_init addr) h
  refine ⟨hbounded.permits, hbounded.accepted, hbounded.buffered_le, fun q hq answer hanswer => ?_,
    hbounded.spaced⟩
  have hled := (hbounded.sound q hq).led
  rwa [Request.Led, hanswer] at hled

/-- A request that is answered, and one that expires. -/
def twoRequests : List Input :=
  [.bind none, .poll, .accept, .poll, .accept, .poll,
    .read 0 (.data (encode "GET / HTTP/1.1\r\n\r\n".toList)),
    .tick (secs 5), .read 1 .deadline, .collect 0 [] ⟨false, 0, 0, 0, 0⟩, .written 0 true]

theorem serve_bounded_twoRequests :
    ∃ s, run step (init "127.0.0.1:9100".toList) twoRequests = some s ∧ s.requests.length = 2 ∧
      s.available + s.requests.countP Request.inFlight = 32 := by
  have hend : ((run step (init "127.0.0.1:9100".toList) twoRequests).map fun s =>
      s.requests.length) = some 2 := by decide
  obtain ⟨s, hs, hlength⟩ := Option.map_eq_some_iff.mp hend
  exact ⟨s, hs, hlength, (serve_bounded hs).1⟩

end Server

end Rfw.Metrics
