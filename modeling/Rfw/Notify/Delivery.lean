/-
# Deliveries

`Worker::deliver` posts a message, and posts it again as long as the webhook may still take it, at
most `MAX_ATTEMPTS` times.  `Worker::process` keeps `MIN_SEND_SPACING` between the starts of two
deliveries.  The worker of `Rfw.Notify.Worker` sees of all this only how a delivery ended; the
machine here has the clock, the sleeps and the posts as well.

The HTTP client is the library's: a post ends with a transport error or with a response.

`worker_refined` shows that the two machines agree on what is delivered, and `posts_disciplined`
what the webhook sees.
-/
import Rfw.Notify.Render
import Rfw.Notify.Worker

namespace Rfw.Notify.Delivery

open Lib Monitor

/-- `MAX_ATTEMPTS`. -/
def maxAttempts : ℕ := 3

/-- `RETRY_BASE_DELAY`. -/
def retryBaseDelay : ℕ := secs 1

/-- `MAX_RETRY_AFTER`. -/
def maxRetryAfter : ℕ := secs 30

/-- `MIN_SEND_SPACING`. -/
def minSendSpacing : ℕ := secs 1

/-- `backoff`. -/
def backoff (attempt : ℕ) : ℕ := retryBaseDelay * min (2 ^ (attempt - 1)) (2 ^ 32 - 1)

/-- `HeaderValue::to_str`: the value as a text when it has only visible ASCII and tabs. -/
def headerToStr (value : List UInt8) : Option Str :=
  if value.all fun b => (32 ≤ b && b < 127) || b == 9 then
    some (value.map fun b => Char.ofNat b.toNat)
  else none

/-- `parse_retry_after`, of the first such header. -/
def parseRetryAfter (retryAfter : Option (List UInt8)) : Option ℕ := do
  let value ← retryAfter
  let text ← headerToStr value
  let s ← (Str.parseUnsigned (2 ^ 64) (Str.trim text)).toOption
  return min (secs s) maxRetryAfter

/-- A response: the status, the `Retry-After` header and the body, none if it could not be read. -/
structure Response where
  status : ℕ
  retryAfter : Option (List UInt8)
  body : Option Str
deriving DecidableEq, Repr

/-- How a post ends. -/
inductive Reply
  | transport (error : Str)
  | response (r : Response)
deriving DecidableEq, Repr

/-- What `deliver` makes of a reply. -/
inductive Verdict
  | accepted
  | rejected (error : Str)
  | again (error : Str) (delay : ℕ)
deriving DecidableEq, Repr

/-- The loop body of `deliver` behind the post. -/
def judge (attempt : ℕ) : Reply → Verdict
  | .response r =>
      if 200 ≤ r.status ∧ r.status < 300 then .accepted
      else
        let error := "HTTP ".toList ++ Str.decimal r.status ++ ": ".toList ++ plain (r.body.getD [])
        if r.status = 429 ∨ (500 ≤ r.status ∧ r.status < 600) then
          .again error ((parseRetryAfter r.retryAfter).getD (backoff attempt))
        else .rejected error
  | .transport e => .again ("transport error: ".toList ++ e) (backoff attempt)

/-- The error of a delivery that used up its attempts. -/
def exhausted (error : Str) : Str :=
  error ++ " (after ".toList ++ Str.decimal maxAttempts ++ " attempts)".toList

/-- `deliver` from an attempt on, given the replies to its posts; `none` when the loop asks for
another number of posts. -/
def deliver (attempt : ℕ) : List Reply → Option (Except Str Unit)
  | [] => none
  | r :: rs =>
      match judge attempt r with
      | .accepted => if rs = [] then some (.ok ()) else none
      | .rejected error => if rs = [] then some (.error error) else none
      | .again error _ =>
          if attempt < maxAttempts then deliver (attempt + 1) rs
          else if rs = [] then some (.error (exhausted error)) else none

/-- A post and its reply. -/
structure Post where
  sentAt : ℕ
  repliedAt : ℕ
  reply : Reply
deriving DecidableEq, Repr

/-- A delivery that has ended. -/
structure Record where
  text : Str
  posts : List Post
  result : Except Str Unit

/-- Where `process` and `deliver` stand behind the throttle. -/
inductive Point
  /-- No delivery is on its way. -/
  | away
  /-- In the sleep that keeps the spacing. -/
  | pacing (wake : ℕ)
  /-- At the reply to a post. -/
  | posting (text : Str) (posts : List Post) (sentAt : ℕ)
  /-- In the sleep before the next attempt. -/
  | backing (text : Str) (posts : List Post) (wake : ℕ)
deriving DecidableEq, Repr

/-- The worker with its clock and its deliveries. -/
structure State where
  worker : Worker.State
  inst : InstanceInfo
  now : ℕ
  lastSend : Option ℕ
  point : Point
  records : List Record

/-- The worker right after `start`. -/
def init (inst : InstanceInfo) : State where
  worker := Worker.init
  inst := inst
  now := 0
  lastSend := none
  point := .away
  records := []

/-- What can happen next. -/
inductive Input
  | notify (event : Event)
  | cancel
  | dropProducers
  | poll
  /-- The worker asks the throttle. -/
  | throttle
  /-- Time goes on. -/
  | tick (nanos : ℕ)
  /-- A sleep ends; `unixSecs` is the wall clock, which a message shows. -/
  | wake (unixSecs : ℕ)
  | reply (r : Reply)
deriving DecidableEq, Repr

/-- The wait of `process` before a delivery; a wait of zero is a sleep that is over. -/
def paced (now : ℕ) : Option ℕ → ℕ
  | some last => now + (minSendSpacing - (now - last))
  | none => now

/-- The end of `deliver` in `process`. -/
def finish (s : State) (text : Str) (posts : List Post) (result : Except Str Unit) :
    Option State :=
  (Worker.step s.worker (.delivered result.isOk)).map fun worker =>
    { s with worker, point := .away, records := s.records ++ [⟨text, posts, result⟩] }

/-- One step. -/
def step (s : State) : Input → Option State
  | .notify event => (Worker.step s.worker (.notify event)).map fun worker => { s with worker }
  | .cancel => (Worker.step s.worker .cancel).map fun worker => { s with worker }
  | .dropProducers => (Worker.step s.worker .dropProducers).map fun worker => { s with worker }
  | .poll => (Worker.step s.worker .poll).map fun worker => { s with worker }
  | .throttle =>
      (Worker.step s.worker (.throttle s.now)).map fun worker =>
        match worker.phase with
        | .delivering .. => { s with worker, point := .pacing (paced s.now s.lastSend) }
        | _ => { s with worker }
  | .tick nanos => some { s with now := s.now + nanos }
  | .wake unixSecs =>
      match s.point, s.worker.phase with
      | .pacing wake, .delivering event suppressed _ =>
          if wake ≤ s.now then
            some { s with
              lastSend := some s.now
              point := .posting (event.render s.inst suppressed unixSecs) [] s.now }
          else none
      | .backing text posts wake, _ =>
          if wake ≤ s.now then some { s with point := .posting text posts s.now } else none
      | _, _ => none
  | .reply r =>
      match s.point with
      | .posting text posts sentAt =>
          let attempt := posts.length + 1
          let posts := posts ++ [⟨sentAt, s.now, r⟩]
          match judge attempt r with
          | .accepted => finish s text posts (.ok ())
          | .rejected error => finish s text posts (.error error)
          | .again error delay =>
              if attempt < maxAttempts then
                some { s with point := .backing text posts (s.now + delay) }
              else finish s text posts (.error (exhausted error))
      | _ => none

/-! ## What the worker sees -/

/-- The event whose delivery the worker waits for. -/
def inHand : Worker.Phase → List Event
  | .delivering event _ _ => [event]
  | _ => []

/-- A step of the worker that neither begins nor ends a delivery. -/
structure Quiet (w w' : Worker.State) : Prop where
  handed : w'.handed = w.handed
  sent : w'.counters.sent = w.counters.sent
  failed : w'.counters.failed = w.counters.failed
  inHand : inHand w'.phase = inHand w.phase

lemma quiet_notify {w w' : Worker.State} {event : Event}
    (h : Worker.step w (.notify event) = some w') : Quiet w w' := by
  obtain ⟨-, heq⟩ := Option.ite_none_right_eq_some.mp h
  obtain rfl := Option.some.inj heq
  simp only [Worker.notify]
  split <;> exact ⟨rfl, rfl, rfl, rfl⟩

lemma quiet_poll {w w' : Worker.State} (h : Worker.step w .poll = some w') : Quiet w w' := by
  simp only [Worker.step, Worker.poll] at h
  split at h
  · rename_i hphase
    obtain rfl := Option.some.inj h
    refine ⟨rfl, rfl, rfl, ?_⟩
    rw [hphase]
    cases w.cancelled <;> rfl
  · rename_i hphase
    split at h
    · obtain rfl := Option.some.inj h
      exact ⟨rfl, rfl, rfl, by rw [hphase]; rfl⟩
    · split at h <;> obtain rfl := Option.some.inj h <;>
        exact ⟨rfl, rfl, rfl, by rw [hphase]; rfl⟩
  · rename_i hphase
    obtain rfl := Option.some.inj h
    exact ⟨rfl, rfl, rfl, by rw [hphase]; rfl⟩
  · rename_i hphase
    split at h <;> obtain rfl := Option.some.inj h <;> exact ⟨rfl, rfl, rfl, by rw [hphase]; rfl⟩
  · cases h

/-- The throttle lets an event through or keeps it back. -/
lemma throttle_cases {w w' : Worker.State} {now : ℕ}
    (h : Worker.step w (.throttle now) = some w') :
    (Quiet w w' ∧ inHand w'.phase = []) ∨
      ∃ event suppressed loop, inHand w.phase = [] ∧
        w'.phase = .delivering event suppressed loop ∧ w'.handed = w.handed ++ [event] ∧
        w'.counters = w.counters := by
  simp only [Worker.step, Worker.throttle] at h
  split at h
  · rename_i event loop hphase
    split at h
    · obtain rfl := Option.some.inj h
      have hnone : inHand loop.next = [] := by cases loop <;> rfl
      refine .inl ⟨⟨rfl, rfl, rfl, ?_⟩, hnone⟩
      rw [hphase]
      exact hnone
    · rename_i suppressed t _
      obtain rfl := Option.some.inj h
      exact .inr ⟨event, suppressed, loop, by rw [hphase]; rfl, rfl, rfl, rfl⟩
  · cases h

/-- The end of a delivery, as the worker sees it. -/
lemma delivered_cases {w w' : Worker.State} {ok : Bool}
    (h : Worker.step w (.delivered ok) = some w') :
    w'.handed = w.handed ∧ inHand w'.phase = [] ∧
      w'.counters.sent = w.counters.sent + ok.toNat ∧
      w'.counters.failed = w.counters.failed + (!ok).toNat := by
  simp only [Worker.step, Worker.delivered] at h
  split at h
  · rename_i event suppressed loop hphase
    have hnone : inHand loop.next = [] := by cases loop <;> rfl
    split at h
    · rename_i hok
      obtain rfl := Option.some.inj h
      rw [hok]
      exact ⟨rfl, hnone, rfl, rfl⟩
    · rename_i hok
      obtain rfl := Option.some.inj h
      rw [Bool.not_eq_true] at hok
      rw [hok]
      exact ⟨rfl, hnone, rfl, rfl⟩
  · cases h

/-! ## The moves -/

/-- What a single step can do. -/
inductive Move (s : State) : State → Prop
  | quiet {worker : Worker.State} : Quiet s.worker worker → Move s { s with worker }
  | letThrough {worker : Worker.State} {event : Event} {suppressed : ℕ} {loop : Worker.Loop} :
      inHand s.worker.phase = [] → worker.phase = .delivering event suppressed loop →
      worker.handed = s.worker.handed ++ [event] → worker.counters = s.worker.counters →
      Move s { s with worker, point := .pacing (paced s.now s.lastSend) }
  | tick {nanos : ℕ} : Move s { s with now := s.now + nanos }
  | start {wake unixSecs suppressed : ℕ} {event : Event} {loop : Worker.Loop} :
      s.point = .pacing wake → s.worker.phase = .delivering event suppressed loop →
      wake ≤ s.now →
      Move s { s with
        lastSend := some s.now
        point := .posting (event.render s.inst suppressed unixSecs) [] s.now }
  | retry {text : Str} {posts : List Post} {wake : ℕ} : s.point = .backing text posts wake →
      wake ≤ s.now → Move s { s with point := .posting text posts s.now }
  | again {text error : Str} {posts : List Post} {sentAt delay : ℕ} {r : Reply} :
      s.point = .posting text posts sentAt →
      judge (posts.length + 1) r = .again error delay → posts.length + 1 < maxAttempts →
      Move s { s with point := .backing text (posts ++ [⟨sentAt, s.now, r⟩]) (s.now + delay) }
  | finish {text : Str} {posts : List Post} {sentAt : ℕ} {r : Reply} {worker : Worker.State}
      {result : Except Str Unit} :
      s.point = .posting text posts sentAt → deliver (posts.length + 1) [r] = some result →
      Worker.step s.worker (.delivered result.isOk) = some worker →
      Move s { s with
        worker
        point := .away
        records := s.records ++ [⟨text, posts ++ [⟨sentAt, s.now, r⟩], result⟩] }

/-- Every step is one of the moves. -/
lemma move_of_step {s s' : State} {i : Input} (h : step s i = some s') : Move s s' := by
  cases i with
  | notify event =>
    obtain ⟨worker, hw, rfl⟩ := Option.map_eq_some_iff.mp h
    exact .quiet (quiet_notify hw)
  | cancel =>
    obtain rfl := Option.some.inj h
    exact .quiet ⟨rfl, rfl, rfl, rfl⟩
  | dropProducers =>
    obtain rfl := Option.some.inj h
    exact .quiet ⟨rfl, rfl, rfl, rfl⟩
  | poll =>
    obtain ⟨worker, hw, rfl⟩ := Option.map_eq_some_iff.mp h
    exact .quiet (quiet_poll hw)
  | throttle =>
    obtain ⟨worker, hw, rfl⟩ := Option.map_eq_some_iff.mp h
    obtain ⟨hquiet, hnone⟩ | ⟨event, suppressed, loop, hnone, hphase, hhanded, hcounters⟩ :=
      throttle_cases hw
    · split
      · rename_i hphase
        rw [hphase] at hnone
        cases hnone
      · exact .quiet hquiet
    · rw [hphase]
      exact .letThrough hnone hphase hhanded hcounters
  | tick nanos =>
    obtain rfl := Option.some.inj h
    exact .tick
  | wake unixSecs =>
    simp only [step] at h
    split at h
    · rename_i hpoint hphase
      obtain ⟨hwake, heq⟩ := Option.ite_none_right_eq_some.mp h
      obtain rfl := Option.some.inj heq
      exact .start hpoint hphase hwake
    · rename_i hpoint
      obtain ⟨hwake, heq⟩ := Option.ite_none_right_eq_some.mp h
      obtain rfl := Option.some.inj heq
      exact .retry hpoint hwake
    · cases h
  | reply r =>
    simp only [step] at h
    split at h
    · rename_i text posts sentAt hpoint
      split at h
      · rename_i hjudge
        obtain ⟨worker, hw, rfl⟩ := Option.map_eq_some_iff.mp h
        exact .finish hpoint (by simp [deliver, hjudge]) hw
      · rename_i error hjudge
        obtain ⟨worker, hw, rfl⟩ := Option.map_eq_some_iff.mp h
        exact .finish hpoint (by simp [deliver, hjudge]) hw
      · rename_i error delay hjudge
        split at h
        · rename_i hleft
          obtain rfl := Option.some.inj h
          exact .again hpoint hjudge hleft
        · rename_i hleft
          obtain ⟨worker, hw, rfl⟩ := Option.map_eq_some_iff.mp h
          exact .finish hpoint (by simp [deliver, hjudge, hleft]) hw
    · cases h

/-! ## The worker of the other machine -/

/-- What the worker sees of a step: the clock, the sleeps and the posts that ask for another one are
hidden from it, and the last post of a delivery is its end. -/
def seen (s : State) : Input → List Worker.Input
  | .notify event => [.notify event]
  | .cancel => [.cancel]
  | .dropProducers => [.dropProducers]
  | .poll => [.poll]
  | .throttle => [.throttle s.now]
  | .tick _ | .wake _ => []
  | .reply r =>
      match s.point with
      | .posting _ posts _ =>
          match deliver (posts.length + 1) [r] with
          | some result => [.delivered result.isOk]
          | none => []
      | _ => []

lemma worker_finish {s s' : State} {text : Str} {posts : List Post} {result : Except Str Unit}
    (h : finish s text posts result = some s') :
    Worker.step s.worker (.delivered result.isOk) = some s'.worker := by
  obtain ⟨worker, hw, rfl⟩ := Option.map_eq_some_iff.mp h
  exact hw

/-- A step of this machine is for the worker what it sees of it. -/
lemma worker_step {s s' : State} {i : Input} (h : step s i = some s') :
    run Worker.step s.worker (seen s i) = some s'.worker := by
  cases i with
  | notify event | poll =>
    obtain ⟨worker, hw, rfl⟩ := Option.map_eq_some_iff.mp h
    exact (run_singleton _ _).trans hw
  | cancel | dropProducers =>
    obtain rfl := Option.some.inj h
    rfl
  | throttle =>
    obtain ⟨worker, hw, rfl⟩ := Option.map_eq_some_iff.mp h
    rw [seen, run_singleton, hw]
    split <;> rfl
  | tick nanos =>
    obtain rfl := Option.some.inj h
    rfl
  | wake unixSecs =>
    simp only [step] at h
    split at h
    · obtain ⟨-, heq⟩ := Option.ite_none_right_eq_some.mp h
      obtain rfl := Option.some.inj heq
      rfl
    · obtain ⟨-, heq⟩ := Option.ite_none_right_eq_some.mp h
      obtain rfl := Option.some.inj heq
      rfl
    · cases h
  | reply r =>
    simp only [step] at h
    split at h
    · rename_i text posts sentAt hpoint
      rw [seen, hpoint]
      dsimp only
      split at h
      · rename_i hjudge
        simp only [deliver, hjudge, if_true, run_singleton]
        exact worker_finish h
      · rename_i error hjudge
        simp only [deliver, hjudge, if_true, run_singleton]
        exact worker_finish h
      · rename_i error delay hjudge
        split at h
        · rename_i hleft
          obtain rfl := Option.some.inj h
          simp only [deliver, hjudge, hleft, if_true]
          rfl
        · rename_i hleft
          simp only [deliver, hjudge, hleft, if_false, if_true, run_singleton]
          exact worker_finish h
    · cases h

/-- A text is the message of an event. -/
def Renders (inst : InstanceInfo) (event : Event) (text : Str) : Prop :=
  ∃ suppressed unixSecs, text = event.render inst suppressed unixSecs

/-- The text that is being posted. -/
def Point.text : Point → Option Str
  | posting text _ _ | backing text _ _ => some text
  | _ => none

/-- The deliveries are those of the handed events, in their order, and the counters count their
results. -/
structure Agrees (inst : InstanceInfo) (s : State) : Prop where
  sameInst : s.inst = inst
  handed : ∃ done, s.worker.handed = done ++ inHand s.worker.phase ∧
    List.Forall₂ (fun event record => Renders inst event record.text) done s.records
  text : ∀ text, s.point.text = some text →
    ∃ event, inHand s.worker.phase = [event] ∧ Renders inst event text
  sent : s.worker.counters.sent = s.records.countP fun record => record.result.isOk
  failed : s.worker.counters.failed = s.records.countP fun record => !record.result.isOk

lemma agrees_init (inst : InstanceInfo) : Agrees inst (init inst) :=
  ⟨rfl, ⟨[], rfl, .nil⟩, nofun, rfl, rfl⟩

lemma agrees_move {inst : InstanceInfo} {s s' : State} (h : Agrees inst s) (hmove : Move s s') :
    Agrees inst s' := by
  obtain ⟨done, hhanded, hrecords⟩ := h.handed
  cases hmove with
  | quiet hquiet =>
    refine ⟨h.sameInst, ⟨done, ?_, hrecords⟩, ?_, hquiet.sent.trans h.sent,
      hquiet.failed.trans h.failed⟩
    · rw [hquiet.handed, hquiet.inHand, hhanded]
    · rw [hquiet.inHand]
      exact h.text
  | letThrough hnone hphase hmore hcounters =>
    rw [hnone, List.append_nil] at hhanded
    refine ⟨h.sameInst, ⟨done, ?_, hrecords⟩, nofun, ?_, ?_⟩
    · rw [hmore, hphase, hhanded]
      rfl
    · rw [hcounters, h.sent]
    · rw [hcounters, h.failed]
  | tick => exact ⟨h.sameInst, h.handed, h.text, h.sent, h.failed⟩
  | @start wake unixSecs suppressed event loop hpoint hphase hwake =>
    refine ⟨h.sameInst, h.handed, ?_, h.sent, h.failed⟩
    rintro text ⟨⟩
    refine ⟨event, by rw [hphase]; rfl, suppressed, unixSecs, ?_⟩
    rw [h.sameInst]
  | retry hpoint _ =>
    refine ⟨h.sameInst, h.handed, ?_, h.sent, h.failed⟩
    have htext := h.text
    rw [hpoint] at htext
    exact htext
  | again hpoint _ _ =>
    refine ⟨h.sameInst, h.handed, ?_, h.sent, h.failed⟩
    have htext := h.text
    rw [hpoint] at htext
    exact htext
  | @finish text posts sentAt r worker result hpoint hresult hworker =>
    obtain ⟨event, hevent, hrender⟩ := h.text text (by rw [hpoint]; rfl)
    obtain ⟨hsame, hnone, hsent, hfailed⟩ := delivered_cases hworker
    refine ⟨h.sameInst, ⟨done ++ [event], ?_, ?_⟩, nofun, ?_, ?_⟩
    · rw [hsame, hnone, hhanded, hevent, List.append_nil]
    · exact List.rel_append hrecords (.cons hrender .nil)
    · show worker.counters.sent = _
      rw [hsent, h.sent, List.countP_append, List.countP_singleton]
      cases result.isOk <;> rfl
    · show worker.counters.failed = _
      rw [hfailed, h.failed, List.countP_append, List.countP_singleton]
      cases result.isOk <;> rfl

/-! ## What the webhook sees -/

/-- A post is followed by another one only if the reply allowed it, after the delay that it asked
for. -/
def Chained (posts : List Post) : Prop :=
  ∀ before p q after, posts = before ++ p :: q :: after →
    ∃ error delay, judge (before.length + 1) p.reply = .again error delay ∧
      p.repliedAt + delay ≤ q.sentAt

/-- Another post may be sent at `t`. -/
def Due (posts : List Post) (t : ℕ) : Prop :=
  ∀ before p, posts = before ++ [p] →
    ∃ error delay, judge (before.length + 1) p.reply = .again error delay ∧
      p.repliedAt + delay ≤ t

lemma due_nil (t : ℕ) : Due [] t := fun before p h => by
  cases before <;> cases h

lemma Due.mono {posts : List Post} {t t' : ℕ} (h : Due posts t) (ht : t ≤ t') : Due posts t' := by
  intro before p hp
  obtain ⟨error, delay, hjudge, hle⟩ := h before p hp
  exact ⟨error, delay, hjudge, hle.trans ht⟩

lemma chained_nil : Chained [] := fun before p q after h => by
  cases before <;> cases h

lemma Chained.append {posts : List Post} (h : Chained posts) {p : Post}
    (hdue : Due posts p.sentAt) : Chained (posts ++ [p]) := by
  intro before q r after heq
  induction after using List.reverseRecOn with
  | nil =>
    have hsplit : posts ++ [p] = (before ++ [q]) ++ [r] := by rw [heq]; simp
    obtain ⟨hposts, hlast⟩ := List.append_inj' hsplit rfl
    obtain ⟨rfl, -⟩ := List.cons.inj hlast
    exact hdue before q hposts
  | append_singleton after last _ =>
    have hsplit : posts ++ [p] = (before ++ q :: r :: after) ++ [last] := by rw [heq]; simp
    exact h before q r after (List.append_inj' hsplit rfl).1

lemma chained_of_append {posts : List Post} {p : Post} (h : Chained (posts ++ [p])) :
    Chained posts ∧ Due posts p.sentAt := by
  refine ⟨fun before q r after heq => h before q r (after ++ [p]) (by rw [heq]; simp), ?_⟩
  intro before q heq
  exact h before q p [] (by rw [heq]; simp)

/-- The loop of `deliver` behind posts that all allowed another one. -/
lemma deliver_append {posts : List Post} {t : ℕ} (h : Chained posts) (hdue : Due posts t)
    (hlen : posts.length < maxAttempts) (rs : List Reply) :
    deliver 1 (posts.map Post.reply ++ rs) = deliver (posts.length + 1) rs := by
  induction posts using List.reverseRecOn generalizing rs t with
  | nil => rfl
  | append_singleton posts p ih =>
    obtain ⟨hposts, hdue'⟩ := chained_of_append h
    obtain ⟨error, delay, hjudge, -⟩ := hdue posts p rfl
    rw [List.length_append, List.length_singleton] at hlen
    have hmore : deliver 1 (posts.map Post.reply ++ p.reply :: rs) =
        deliver (posts.length + 1) (p.reply :: rs) := ih hposts hdue' (by omega) _
    calc deliver 1 ((posts ++ [p]).map Post.reply ++ rs)
        = deliver 1 (posts.map Post.reply ++ p.reply :: rs) := by simp
      _ = deliver (posts.length + 1) (p.reply :: rs) := hmore
      _ = deliver ((posts ++ [p]).length + 1) rs := by
        rw [List.length_append, List.length_singleton, deliver, hjudge]
        exact if_pos hlen

/-- The posts so far of the delivery that is on its way. -/
def Point.posts : Point → List Post
  | posting _ posts _ | backing _ posts _ => posts
  | _ => []

/-- When the next post is sent, at the earliest. -/
def Point.next : Point → Option ℕ
  | away => none
  | pacing wake | backing _ _ wake => some wake
  | posting _ _ sentAt => some sentAt

/-- What the posts of an ended delivery are. -/
structure Record.Sound (record : Record) : Prop where
  deliver : deliver 1 (record.posts.map Post.reply) = some record.result
  length : record.posts.length ≤ maxAttempts
  chained : Chained record.posts

/-- The retries of every delivery keep to the rules. -/
structure Retrying (s : State) : Prop where
  records : ∀ record ∈ s.records, record.Sound
  length : s.point.posts.length < maxAttempts
  chained : Chained s.point.posts
  due : ∀ t, s.point.next = some t → Due s.point.posts t

lemma retrying_move {s s' : State} (h : Retrying s) (hmove : Move s s') : Retrying s' := by
  have hlength := h.length
  have hchained := h.chained
  have hdue := h.due
  cases hmove with
  | quiet _ => exact ⟨h.records, hlength, hchained, hdue⟩
  | letThrough _ _ _ _ =>
    exact ⟨h.records, Nat.zero_lt_succ 2, chained_nil, fun t _ => due_nil t⟩
  | tick => exact ⟨h.records, hlength, hchained, hdue⟩
  | start _ _ _ => exact ⟨h.records, Nat.zero_lt_succ 2, chained_nil, fun t _ => due_nil t⟩
  | retry hpoint hwake =>
    rw [hpoint] at hlength hchained hdue
    refine ⟨h.records, hlength, hchained, ?_⟩
    rintro t ⟨⟩
    exact (hdue _ rfl).mono hwake
  | @again text error posts sentAt delay r hpoint hjudge hleft =>
    rw [hpoint] at hlength hchained hdue
    refine ⟨h.records, ?_, hchained.append (hdue _ rfl), ?_⟩
    · show (posts ++ [_]).length < maxAttempts
      rw [List.length_append]
      exact hleft
    · rintro t ⟨⟩ before p heq
      obtain ⟨rfl, hp⟩ := List.append_inj' heq rfl
      obtain ⟨rfl, -⟩ := List.cons.inj hp
      exact ⟨error, delay, hjudge, le_refl _⟩
  | @finish text posts sentAt r worker result hpoint hresult hworker =>
    rw [hpoint] at hlength hchained hdue
    refine ⟨?_, Nat.zero_lt_succ 2, chained_nil, nofun⟩
    intro record hrecord
    obtain hold | hnew := List.mem_append.mp hrecord
    · exact h.records record hold
    · obtain rfl := List.mem_singleton.mp hnew
      refine ⟨?_, ?_, hchained.append (hdue _ rfl)⟩
      · rw [List.map_append]
        exact (deliver_append hchained (hdue _ rfl) hlength _).trans hresult
      · rw [List.length_append]
        exact hlength

/-- A post may be sent at `t` behind the posts of an earlier delivery. -/
def After (posts : List Post) (t : ℕ) : Prop :=
  (∀ p ∈ posts, p.repliedAt ≤ t) ∧ ∀ p ∈ posts.head?, p.sentAt + minSendSpacing ≤ t

lemma After.mono {posts : List Post} {t t' : ℕ} (h : After posts t) (ht : t ≤ t') :
    After posts t' :=
  ⟨fun p hp => (h.1 p hp).trans ht, fun p hp => (h.2 p hp).trans ht⟩

/-- When the first post of the delivery on its way was sent. -/
def Point.first : Point → Option ℕ
  | posting _ posts sentAt => (posts.map Post.sentAt ++ [sentAt]).head?
  | backing _ posts _ => (posts.map Post.sentAt).head?
  | _ => none

/-- The deliveries are apart. -/
structure Timed (s : State) : Prop where
  records : s.records.Pairwise fun record later =>
    ∀ p ∈ later.posts, After record.posts p.sentAt
  posts : ∀ record ∈ s.records, ∀ p ∈ s.point.posts, After record.posts p.sentAt
  next : ∀ record ∈ s.records, ∀ t, s.point.next = some t → After record.posts t
  past : ∀ record ∈ s.records, ∀ p ∈ record.posts, p.repliedAt ≤ s.now
  /-- `last_send` is the start of the latest delivery. -/
  last : ∀ record ∈ s.records, ∀ p ∈ record.posts.head?,
    ∃ last, s.lastSend = some last ∧ p.sentAt ≤ last
  lastPast : ∀ last, s.lastSend = some last → last ≤ s.now
  first : ∀ t, s.point.first = some t → s.lastSend = some t
  /-- The posts on their way lie in the past. -/
  pointPast : (∀ p ∈ s.point.posts, p.repliedAt ≤ s.now) ∧
    ∀ text posts sentAt, s.point = .posting text posts sentAt → sentAt ≤ s.now
  tried : ∀ text posts wake, s.point = .backing text posts wake → posts ≠ []

lemma timed_init (inst : InstanceInfo) : Timed (init inst) :=
  ⟨.nil, nofun, nofun, nofun, nofun, nofun, nofun, ⟨nofun, nofun⟩, nofun⟩

lemma Timed.after_paced {s : State} (h : Timed s) {record : Record} (hrecord : record ∈ s.records) :
    After record.posts (paced s.now s.lastSend) := by
  have hnow : s.now ≤ paced s.now s.lastSend := by
    cases s.lastSend with
    | none => exact le_refl _
    | some last => exact Nat.le_add_right _ _
  refine ⟨fun p hp => (h.past record hrecord p hp).trans hnow, fun p hp => ?_⟩
  obtain ⟨last, hlast, hle⟩ := h.last record hrecord p hp
  have hpast := h.lastPast last hlast
  rw [hlast]
  show p.sentAt + minSendSpacing ≤ s.now + (minSendSpacing - (s.now - last))
  omega

/-- The post that is answered now is behind the earlier deliveries, as those before it are. -/
lemma Timed.after_posts {s : State} (h : Timed s) {text : Str} {posts : List Post} {sentAt : ℕ}
    (hpoint : s.point = .posting text posts sentAt) (r : Reply) {record : Record}
    (hrecord : record ∈ s.records) :
    ∀ p ∈ posts ++ [⟨sentAt, s.now, r⟩], After record.posts p.sentAt := by
  have hposts := h.posts record hrecord
  have hnext := h.next record hrecord
  rw [hpoint] at hposts hnext
  rw [List.forall_mem_append, List.forall_mem_singleton]
  exact ⟨hposts, hnext sentAt rfl⟩

lemma Timed.posts_past {s : State} (h : Timed s) {text : Str} {posts : List Post} {sentAt : ℕ}
    (hpoint : s.point = .posting text posts sentAt) (r : Reply) :
    ∀ p ∈ posts ++ [⟨sentAt, s.now, r⟩], p.repliedAt ≤ s.now := by
  have hpast := h.pointPast.1
  rw [hpoint] at hpast
  rw [List.forall_mem_append, List.forall_mem_singleton]
  exact ⟨hpast, le_refl _⟩

lemma timed_move {s s' : State} (h : Timed s) (hmove : Move s s') : Timed s' := by
  have hposts := h.posts
  have hnext := h.next
  have hfirst := h.first
  have hpast := h.pointPast
  cases hmove with
  | quiet _ =>
    exact ⟨h.records, hposts, hnext, h.past, h.last, h.lastPast, hfirst, hpast, h.tried⟩
  | letThrough _ _ _ _ =>
    refine ⟨h.records, nofun, ?_, h.past, h.last, h.lastPast, nofun, ⟨nofun, nofun⟩, nofun⟩
    rintro record hrecord t ⟨⟩
    exact h.after_paced hrecord
  | @tick nanos =>
    have hle : s.now ≤ s.now + nanos := Nat.le_add_right _ _
    exact ⟨h.records, hposts, hnext, fun r hr p hp => (h.past r hr p hp).trans hle, h.last,
      fun l hl => (h.lastPast l hl).trans hle, hfirst,
      ⟨fun p hp => (hpast.1 p hp).trans hle,
        fun text posts t ht => (hpast.2 text posts t ht).trans hle⟩, h.tried⟩
  | @start wake unixSecs suppressed event loop hpoint hphase hwake =>
    rw [hpoint] at hnext
    refine ⟨h.records, nofun, ?_, h.past, fun record hrecord p hp => ?_, ?_, ?_, ⟨nofun, ?_⟩, nofun⟩
    · rintro record hrecord t ⟨⟩
      exact (hnext record hrecord wake rfl).mono hwake
    · obtain ⟨last, hlast, hle⟩ := h.last record hrecord p hp
      exact ⟨s.now, rfl, hle.trans (h.lastPast last hlast)⟩
    · rintro last ⟨⟩
      exact le_refl _
    · rintro t ⟨⟩
      rfl
    · rintro text posts t ⟨⟩
      exact le_refl _
  | @retry text posts wake hpoint hwake =>
    rw [hpoint] at hposts hnext hfirst hpast
    refine ⟨h.records, hposts, ?_, h.past, h.last, h.lastPast, ?_, ⟨hpast.1, ?_⟩, nofun⟩
    · rintro record hrecord t ⟨⟩
      exact (hnext record hrecord wake rfl).mono hwake
    · intro t ht
      refine hfirst t ?_
      obtain ⟨p, rest, rfl⟩ := List.exists_cons_of_ne_nil (h.tried _ _ _ hpoint)
      exact ht
    · rintro text posts t ⟨⟩
      exact le_refl _
  | @again text error posts sentAt delay r hpoint hjudge hleft =>
    have hsent : sentAt ≤ s.now := hpast.2 _ _ _ hpoint
    have hafter : ∀ record ∈ s.records, ∀ p ∈ posts ++ [⟨sentAt, s.now, r⟩],
        After record.posts p.sentAt := fun record => h.after_posts hpoint r
    rw [hpoint] at hnext hfirst
    refine ⟨h.records, hafter, ?_, h.past, h.last, h.lastPast, ?_,
      ⟨h.posts_past hpoint r, nofun⟩, ?_⟩
    · rintro record hrecord t ⟨⟩
      exact (hnext record hrecord sentAt rfl).mono (by omega)
    · intro t ht
      refine hfirst t ?_
      rw [← ht]
      simp [Point.first]
    · rintro text posts wake ⟨⟩
      exact List.append_ne_nil_of_right_ne_nil _ (List.cons_ne_nil _ _)
  | @finish text posts sentAt r worker result hpoint hresult hworker =>
    rw [hpoint] at hfirst
    refine ⟨?_, nofun, nofun, ?_, ?_, h.lastPast, nofun, ⟨nofun, nofun⟩, nofun⟩
    · refine List.pairwise_append.mpr ⟨h.records, List.pairwise_singleton _ _, ?_⟩
      intro record hrecord later hlater
      obtain rfl := List.mem_singleton.mp hlater
      exact h.after_posts hpoint r hrecord
    · rw [List.forall_mem_append, List.forall_mem_singleton]
      exact ⟨h.past, h.posts_past hpoint r⟩
    · intro record hrecord p hp
      obtain hold | hnew := List.mem_append.mp hrecord
      · exact h.last record hold p hp
      · obtain rfl := List.mem_singleton.mp hnew
        refine ⟨p.sentAt, hfirst p.sentAt ?_, le_refl _⟩
        have hhead := congrArg (Option.map Post.sentAt) (Option.mem_def.mp hp)
        rw [← List.head?_map, List.map_append] at hhead
        exact hhead

/-! ## Runs -/

/-- **The worker with its retries refines the worker without them.**  Every run is, as the worker
sees it, one of `Rfw.Notify.Worker`.  The deliveries that have ended are those of the first events
that were handed over, in their order, each with a message of its event; at most one more is on its
way; and the counters count their results. -/
theorem worker_refined (inst : InstanceInfo) (is : List Input) (s : State)
    (h : run step (init inst) is = some s) :
    run Worker.step Worker.init (projectRun step seen (init inst) is) = some s.worker ∧
    (∃ done, s.worker.handed = done ++ inHand s.worker.phase ∧
      List.Forall₂ (fun event record => Renders inst event record.text) done s.records) ∧
    s.worker.counters.sent = s.records.countP (fun record => record.result.isOk) ∧
    s.worker.counters.failed = s.records.countP (fun record => !record.result.isOk) := by
  have hagrees : Agrees inst s :=
    run_invariant (fun _ _ _ hm hstep => agrees_move hm (move_of_step hstep)) (agrees_init inst) h
  have hworker : run Worker.step Worker.init (projectRun step seen (init inst) is) =
      some s.worker := run_projectRun (f := State.worker) (fun _ _ _ hstep => worker_step hstep) h
  exact ⟨hworker, hagrees.handed, hagrees.sent, hagrees.failed⟩

/-- The webhook accepted the message with this reply. -/
def Reply.Accepts (r : Reply) : Prop := judge 1 r = .accepted

instance (r : Reply) : Decidable r.Accepts := inferInstanceAs (Decidable (_ = _))

/-- Whether a reply is an acceptance does not depend on the attempt. -/
lemma judge_eq_accepted {attempt : ℕ} {r : Reply} : judge attempt r = .accepted ↔ r.Accepts := by
  unfold Reply.Accepts
  cases r with
  | transport error => simp [judge]
  | response r =>
    simp only [judge]
    split
    · rfl
    · split <;> simp

lemma not_accepts_of_again {attempt delay : ℕ} {r : Reply} {error : Str}
    (h : judge attempt r = .again error delay) : ¬r.Accepts := fun hr => by
  rw [judge_eq_accepted.mpr hr] at h
  cases h

/-- No post was accepted behind which another one is due. -/
lemma not_accepts_of_due {posts : List Post} {t : ℕ} (h : Chained posts) (hdue : Due posts t) :
    ∀ p ∈ posts, ¬p.reply.Accepts := by
  intro p hp
  obtain ⟨before, after, rfl⟩ := List.append_of_mem hp
  cases after with
  | nil =>
    obtain ⟨error, delay, hjudge, -⟩ := hdue before p rfl
    exact not_accepts_of_again hjudge
  | cons q after =>
    obtain ⟨error, delay, hjudge, -⟩ := h before p q after rfl
    exact not_accepts_of_again hjudge

/-- `deliver` reports a success exactly when a post was accepted, which then was the last one. -/
lemma deliver_accepts {rs : List Reply} {attempt : ℕ} {result : Except Str Unit}
    (h : deliver attempt rs = some result) :
    (result.isOk = true ↔ ∃ r ∈ rs, r.Accepts) ∧ rs.Pairwise fun r _ => ¬r.Accepts := by
  induction rs generalizing attempt with
  | nil => cases h
  | cons r rs ih =>
    rw [deliver] at h
    cases hjudge : judge attempt r with
    | accepted =>
      rw [hjudge] at h
      obtain ⟨rfl, heq⟩ := Option.ite_none_right_eq_some.mp h
      obtain rfl := Option.some.inj heq
      refine ⟨⟨fun _ => ⟨r, List.mem_singleton_self r, judge_eq_accepted.mp hjudge⟩, fun _ => rfl⟩,
        List.pairwise_singleton _ _⟩
    | rejected error =>
      have hno : ¬r.Accepts := fun hr => by
        rw [judge_eq_accepted.mpr hr] at hjudge
        cases hjudge
      rw [hjudge] at h
      obtain ⟨rfl, heq⟩ := Option.ite_none_right_eq_some.mp h
      obtain rfl := Option.some.inj heq
      exact ⟨by simp [hno, Except.isOk, Except.toBool], List.pairwise_singleton _ _⟩
    | again error delay =>
      have hno : ¬r.Accepts := not_accepts_of_again hjudge
      rw [hjudge] at h
      dsimp only at h
      split at h
      · obtain ⟨hok, hrest⟩ := ih h
        exact ⟨by simpa [hno] using hok, List.pairwise_cons.mpr ⟨fun _ _ => hno, hrest⟩⟩
      · obtain ⟨rfl, heq⟩ := Option.ite_none_right_eq_some.mp h
        obtain rfl := Option.some.inj heq
        exact ⟨by simp [hno, Except.isOk, Except.toBool], List.pairwise_singleton _ _⟩

/-- **What the webhook sees.**  In every run a message is posted at most `MAX_ATTEMPTS` times, again
only after the delay that the last reply asked for, and never behind an acceptance; it counts as
sent exactly when a post of it was accepted.  The posts of two messages never overlap, and no post
of the later one is sent before `MIN_SEND_SPACING` has passed since the start of the earlier one. -/
theorem posts_disciplined (inst : InstanceInfo) (is : List Input) (s : State)
    (h : run step (init inst) is = some s) :
    (∀ record ∈ s.records, record.posts.length ≤ maxAttempts ∧ Chained record.posts ∧
      deliver 1 (record.posts.map Post.reply) = some record.result ∧
      (record.result.isOk = true ↔ ∃ p ∈ record.posts, p.reply.Accepts) ∧
      record.posts.Pairwise fun p _ => ¬p.reply.Accepts) ∧
    (s.point.posts.length < maxAttempts ∧ Chained s.point.posts ∧
      ∀ p ∈ s.point.posts, ¬p.reply.Accepts) ∧
    (s.records.map Record.posts ++ [s.point.posts]).Pairwise fun posts later =>
      ∀ p ∈ later, After posts p.sentAt := by
  have hretrying : Retrying s := by
    refine run_invariant (fun _ _ _ hm hstep => retrying_move hm (move_of_step hstep)) ?_ h
    exact ⟨nofun, Nat.zero_lt_succ 2, chained_nil, nofun⟩
  have htimed : Timed s :=
    run_invariant (fun _ _ _ hm hstep => timed_move hm (move_of_step hstep)) (timed_init inst) h
  refine ⟨fun record hrecord => ?_, ⟨hretrying.length, hretrying.chained, fun p hp => ?_⟩, ?_⟩
  · obtain ⟨hdeliver, hlength, hchained⟩ := hretrying.records record hrecord
    obtain ⟨hok, hlast⟩ := deliver_accepts hdeliver
    exact ⟨hlength, hchained, hdeliver, by simpa using hok, List.pairwise_map.mp hlast⟩
  · cases hpoint : s.point with
    | away | pacing _ =>
      rw [hpoint] at hp
      cases hp
    | posting text posts sentAt | backing text posts sentAt =>
      have hdue : Due s.point.posts sentAt := hretrying.due sentAt (by rw [hpoint]; rfl)
      exact not_accepts_of_due hretrying.chained hdue p hp
  · refine List.pairwise_append.mpr ⟨List.pairwise_map.mpr htimed.records,
      List.pairwise_singleton _ _, ?_⟩
    intro posts hposts later hlater p hp
    obtain ⟨record, hrecord, rfl⟩ := List.mem_map.mp hposts
    obtain rfl := List.mem_singleton.mp hlater
    exact htimed.posts record hrecord p hp

/-- The instance that sends the messages. -/
def host : InstanceInfo where
  name := "host".toList
  version := "1.0".toList
  pid := 1

/-- Two events: the first message is accepted at its second post, the second one is rejected. -/
def retriedRun : List Input :=
  [.notify (.stopping [] 0), .notify (.stopping [] 1), .poll, .poll, .throttle, .wake 0,
    .reply (.response ⟨503, none, none⟩), .tick (secs 1), .wake 0,
    .reply (.response ⟨200, none, none⟩), .poll, .poll, .throttle, .wake 0,
    .reply (.response ⟨404, none, none⟩)]

theorem worker_refined_retriedRun :
    ∃ s, run step (init host) retriedRun = some s ∧
      s.worker.counters.sent = s.records.countP (fun record => record.result.isOk) ∧
      s.records.length = 2 := by
  have hend : ((run step (init host) retriedRun).map fun s => s.records.length) = some 2 := by
    decide
  obtain ⟨s, hs, hlength⟩ := Option.map_eq_some_iff.mp hend
  exact ⟨s, hs, (worker_refined host retriedRun s hs).2.2.1, hlength⟩

theorem posts_disciplined_retriedRun :
    ∃ s, run step (init host) retriedRun = some s ∧
      s.records.map (fun record => record.posts.length) = [2, 1] ∧
      ∀ record ∈ s.records, record.posts.length ≤ maxAttempts := by
  have hend : ((run step (init host) retriedRun).map fun s =>
      s.records.map fun record => record.posts.length) = some [2, 1] := by decide
  obtain ⟨s, hs, hlengths⟩ := Option.map_eq_some_iff.mp hend
  exact ⟨s, hs, hlengths, fun record hrecord =>
    ((posts_disciplined host retriedRun s hs).1 record hrecord).1⟩

end Rfw.Notify.Delivery
