/-
# The splice path of a connection

`splice_dir` moves the bytes of one socket to another through a kernel pipe: a read loop fills the
pipe with at most `chunk` bytes, and a write loop empties it before the next read.  Each loop waits
for its socket, tries one `splice` and retries when the call would have blocked.

The future is modelled by the point it has reached; the results of the awaits and of the calls are
the events of a run, next to what the peer of the source socket sends.  A call may return whatever
the kernel's contract allows.  The future can be dropped at its awaits and nowhere else.
-/
import Rfw.Lib.Transition
import Rfw.Stats
import Rfw.Udp.Offload

namespace Rfw.Splice

open Lib Udp

/-! ## The pipes -/

/-- `MIN_USEFUL_CAPACITY`. -/
def minUsefulCapacity : ℕ := 32 * 1024

/-- `capacity_ok`. -/
def capacityOk (got want : ℕ) : Bool := decide (min want minUsefulCapacity ≤ got)

/-- Why the splice path was not used. -/
inductive Unavailable
  | pipe (error : IoError)
  | limited (got wanted : ℕ)
deriving DecidableEq, Repr

/-- The two pipes of a connection, by their capacities. -/
structure Pipes where
  c2r : ℕ
  r2c : ℕ
  chunk : ℕ
deriving DecidableEq, Repr

/-- `Pipes::new`, from what the kernel answers to the two `Pipe::new`: an error, or a pipe of some
capacity. -/
def Pipes.new (size : ℕ) (c2r r2c : Except IoError ℕ) : Except Unavailable Pipes := do
  let want := max size 4096
  let c2r ← c2r.mapError .pipe
  let r2c ← r2c.mapError .pipe
  let got := min c2r r2c
  if !capacityOk got want then
    throw (.limited got want)
  return { c2r := c2r, r2c := r2c, chunk := min got want }

/-- A pipe that is used can hold a chunk, and a chunk is never small. -/
lemma Pipes.new_eq_ok {size : ℕ} {c2r r2c : Except IoError ℕ} {pipes : Pipes}
    (h : Pipes.new size c2r r2c = .ok pipes) :
    4096 ≤ pipes.chunk ∧ pipes.chunk ≤ pipes.c2r ∧ pipes.chunk ≤ pipes.r2c := by
  cases c2r with
  | error e => cases h
  | ok c2r =>
    cases r2c with
    | error e => cases h
    | ok r2c =>
      by_cases hok : capacityOk (min c2r r2c) (max size 4096)
      · have hcap : min (max size 4096) minUsefulCapacity ≤ min c2r r2c := by
          simpa [capacityOk] using hok
        obtain rfl : Pipes.mk c2r r2c (min (min c2r r2c) (max size 4096)) = pipes := by
          simpa [Pipes.new, hok, Except.mapError, bind, Except.bind, pure, Except.pure] using h
        simp only [minUsefulCapacity] at hcap ⊢
        omega
      · simp [Pipes.new, hok, Except.mapError, bind, Except.bind, throw, throwThe,
          MonadExceptOf.throw] at h

/-! ## One direction -/

/-- The error a direction returns: one of the system, or the one it makes itself. -/
inductive Failure
  | io (error : IoError)
  | writeZero (text : String)
deriving DecidableEq, Repr

/-- The text of the `WriteZero` error. -/
def wroteNothing : String := "splice wrote 0 bytes to the destination socket"

/-- Where the future stands. -/
inductive Point
  /-- At `src.readable().await`. -/
  | awaitReadable
  /-- Before the `splice` from the source into the pipe. -/
  | fill
  /-- At `dst.writable().await`. -/
  | awaitWritable (left : ℕ)
  /-- Before the `splice` from the pipe to the destination. -/
  | drain (left : ℕ)
  | returned (result : Except Failure Unit)
  | dropped
deriving DecidableEq, Repr

/-- The future waits, or has ended. -/
def Point.parked : Point → Bool
  | .fill | .drain _ => false
  | _ => true

/-- A direction of a connection: the two sockets, the pipe and the future. -/
structure Direction where
  chunk : ℕ
  /-- What has arrived from the peer of `src` and was not read yet. -/
  unread : Bytes
  /-- The peer of `src` has closed its side. -/
  fin : Bool
  /-- What was read from `src`. -/
  taken : Bytes
  pipe : Bytes
  /-- What `dst` has accepted. -/
  delivered : Bytes
  /-- The write side of `dst` is shut down. -/
  halfClosed : Bool
  /-- The sum passed to `on_bytes`. -/
  counted : ℕ
  point : Point
deriving DecidableEq, Repr

namespace Direction

/-- `splice_dir` at its first await. -/
def init (chunk : ℕ) : Direction where
  chunk := max chunk 1
  unread := []
  fin := false
  taken := []
  pipe := []
  delivered := []
  halfClosed := false
  counted := 0
  point := .awaitReadable

/-- The head of `while left > 0`: behind the loop the next read is due. -/
def drainLoop (left : ℕ) : Point := if 0 < left then .awaitWritable left else .awaitReadable

/-- After a `splice` from the source that moved `n` bytes. -/
def filled (s : Direction) (n : ℕ) : Direction :=
  let s := { s with
    unread := s.unread.drop n
    taken := s.taken ++ s.unread.take n
    pipe := s.pipe ++ s.unread.take n }
  if n = 0 then { s with halfClosed := true, point := .returned (.ok ()) }
  else { s with point := drainLoop n }

/-- After a `splice` of at most `left` bytes to the destination that moved `m` bytes. -/
def drained (s : Direction) (left m : ℕ) : Direction :=
  let s := { s with pipe := s.pipe.drop m, delivered := s.delivered ++ s.pipe.take m }
  if m = 0 then { s with point := .returned (.error (.writeZero wroteNothing)) }
  else { s with counted := s.counted + m, point := drainLoop (left - m) }

/-- The kernel's contract for a `splice` of at most `len` bytes out of the source: the next `n`
bytes, and none only at the end of the stream or when none were asked for. -/
def CanFill (s : Direction) (len n : ℕ) : Prop :=
  n ≤ len ∧ n ≤ s.unread.length ∧ (n = 0 → len = 0 ∨ (s.fin = true ∧ s.unread = []))

instance (s : Direction) (len n : ℕ) : Decidable (s.CanFill len n) :=
  inferInstanceAs (Decidable (_ ∧ _ ∧ (_ → _)))

/-- The kernel's contract for a `splice` of at most `len` bytes out of the pipe. -/
def CanDrain (s : Direction) (len m : ℕ) : Prop := m ≤ len ∧ m ≤ s.pipe.length

instance (s : Direction) (len m : ℕ) : Decidable (s.CanDrain len m) :=
  inferInstanceAs (Decidable (_ ∧ _))

/-- What can happen to a direction. -/
inductive Event
  /-- The peer of `src` sends. -/
  | arrive (bytes : Bytes)
  /-- The peer of `src` closes its side. -/
  | finish
  | readable (r : Except IoError Unit)
  | fill (r : Except IoError ℕ)
  | writable (r : Except IoError Unit)
  | drain (r : Except IoError ℕ)
  | drop
deriving DecidableEq, Repr

/-- What an event makes the future pass to `on_bytes`. -/
def Event.credited : Event → ℕ
  | .drain (.ok m) => m
  | _ => 0

/-- A failed call: retried from the await when it would have blocked, else returned. -/
def failed (s : Direction) (retry : Point) (e : IoError) : Direction :=
  if e.kind = .wouldBlock then { s with point := retry }
  else { s with point := .returned (.error (.io e)) }

/-- `splice_dir`, one event at a time. -/
def step (s : Direction) : Event → Option Direction
  | .arrive bytes => if s.fin then none else some { s with unread := s.unread ++ bytes }
  | .finish => if s.fin then none else some { s with fin := true }
  | .readable r =>
      match s.point, r with
      | .awaitReadable, .ok () => some { s with point := .fill }
      | .awaitReadable, .error e => some { s with point := .returned (.error (.io e)) }
      | _, _ => none
  | .fill r =>
      match s.point, r with
      | .fill, .ok n => if s.CanFill s.chunk n then some (s.filled n) else none
      | .fill, .error e => some (s.failed .awaitReadable e)
      | _, _ => none
  | .writable r =>
      match s.point, r with
      | .awaitWritable left, .ok () => some { s with point := .drain left }
      | .awaitWritable _, .error e => some { s with point := .returned (.error (.io e)) }
      | _, _ => none
  | .drain r =>
      match s.point, r with
      | .drain left, .ok m => if s.CanDrain left m then some (s.drained left m) else none
      | .drain left, .error e => some (s.failed (.awaitWritable left) e)
      | _, _ => none
  | .drop =>
      match s.point with
      | .awaitReadable | .awaitWritable _ => some { s with point := .dropped }
      | _ => none

/-- The moves of a direction. -/
inductive Move (s : Direction) : Event → Direction → Prop
  | arrive {bytes : Bytes} : s.fin = false →
      Move s (.arrive bytes) { s with unread := s.unread ++ bytes }
  | finish : s.fin = false → Move s .finish { s with fin := true }
  | readable : s.point = .awaitReadable → Move s (.readable (.ok ())) { s with point := .fill }
  | unreadable {e : IoError} : s.point = .awaitReadable →
      Move s (.readable (.error e)) { s with point := .returned (.error (.io e)) }
  | fill {n : ℕ} : s.point = .fill → s.CanFill s.chunk n → Move s (.fill (.ok n)) (s.filled n)
  | fillFailed {e : IoError} : s.point = .fill →
      Move s (.fill (.error e)) (s.failed .awaitReadable e)
  | writable {left : ℕ} : s.point = .awaitWritable left →
      Move s (.writable (.ok ())) { s with point := .drain left }
  | unwritable {left : ℕ} {e : IoError} : s.point = .awaitWritable left →
      Move s (.writable (.error e)) { s with point := .returned (.error (.io e)) }
  | drain {left m : ℕ} : s.point = .drain left → s.CanDrain left m →
      Move s (.drain (.ok m)) (s.drained left m)
  | drainFailed {left : ℕ} {e : IoError} : s.point = .drain left →
      Move s (.drain (.error e)) (s.failed (.awaitWritable left) e)
  | drop : (s.point = .awaitReadable ∨ ∃ left, s.point = .awaitWritable left) →
      Move s .drop { s with point := .dropped }

/-- Every step is one of the moves. -/
lemma move_of_step {s s' : Direction} {e : Event} (h : s.step e = some s') : Move s e s' := by
  cases e with
  | arrive bytes =>
    simp only [step, Option.ite_none_left_eq_some, Option.some.injEq, Bool.not_eq_true] at h
    obtain ⟨hfin, rfl⟩ := h
    exact .arrive hfin
  | finish =>
    simp only [step, Option.ite_none_left_eq_some, Option.some.injEq, Bool.not_eq_true] at h
    obtain ⟨hfin, rfl⟩ := h
    exact .finish hfin
  | readable r =>
    simp only [step] at h
    split at h
    · rename_i hp
      obtain rfl := Option.some.inj h
      exact .readable hp
    · rename_i e hp
      obtain rfl := Option.some.inj h
      exact .unreadable hp
    · cases h
  | fill r =>
    simp only [step] at h
    split at h
    · rename_i n hp
      simp only [Option.ite_none_right_eq_some, Option.some.injEq] at h
      obtain ⟨hcan, rfl⟩ := h
      exact .fill hp hcan
    · rename_i e hp
      obtain rfl := Option.some.inj h
      exact .fillFailed hp
    · cases h
  | writable r =>
    simp only [step] at h
    split at h
    · rename_i left hp
      obtain rfl := Option.some.inj h
      exact .writable hp
    · rename_i left e hp
      obtain rfl := Option.some.inj h
      exact .unwritable hp
    · cases h
  | drain r =>
    simp only [step] at h
    split at h
    · rename_i left m hp
      simp only [Option.ite_none_right_eq_some, Option.some.injEq] at h
      obtain ⟨hcan, rfl⟩ := h
      exact .drain hp hcan
    · rename_i left e hp
      obtain rfl := Option.some.inj h
      exact .drainFailed hp
    · cases h
  | drop =>
    simp only [step] at h
    split at h
    · rename_i hp
      obtain rfl := Option.some.inj h
      exact .drop (.inl hp)
    · rename_i left hp
      obtain rfl := Option.some.inj h
      exact .drop (.inr ⟨left, hp⟩)
    · cases h

/-! ### What a direction keeps -/

/-- What the pipe holds at each point of the future, and what an end of the future says. -/
def Level (s : Direction) : Point → Prop
  | .awaitReadable | .fill => s.pipe = []
  | .awaitWritable left | .drain left => 0 < left ∧ s.pipe.length = left
  | .returned (.ok ()) => s.fin = true ∧ s.unread = [] ∧ s.pipe = []
  | .returned (.error _) | .dropped => True

/-- The source may change as long as its end stays the end. -/
lemma Level.source {s s' : Direction} {p : Point} (h : s.Level p) (hpipe : s'.pipe = s.pipe)
    (hend : s.fin = true ∧ s.unread = [] → s'.fin = true ∧ s'.unread = []) : s'.Level p := by
  cases p with
  | returned r =>
    cases r with
    | ok _ =>
      obtain ⟨hfin, hunread, hp⟩ := h
      exact ⟨(hend ⟨hfin, hunread⟩).1, (hend ⟨hfin, hunread⟩).2, hpipe.trans hp⟩
    | error _ => trivial
  | dropped => trivial
  | awaitReadable => exact hpipe.trans h
  | fill => exact hpipe.trans h
  | awaitWritable left => exact ⟨h.1, by rw [hpipe, h.2]⟩
  | drain left => exact ⟨h.1, by rw [hpipe, h.2]⟩

/-- The invariant of a direction. -/
structure Exact (s : Direction) : Prop where
  chunk : 0 < s.chunk
  room : s.pipe.length ≤ s.chunk
  taken : s.taken = s.delivered ++ s.pipe
  counted : s.counted = s.delivered.length
  level : s.Level s.point
  closed : s.halfClosed = true ↔ s.point = .returned (.ok ())

lemma exact_init (chunk : ℕ) : (init chunk).Exact where
  chunk := by
    show 0 < max chunk 1
    omega
  room := Nat.zero_le _
  taken := rfl
  counted := rfl
  level := rfl
  closed := by simp [init]

/-- The source has ended, and all of it was delivered. -/
def Complete (s : Direction) : Prop := s.fin = true ∧ s.unread = [] ∧ s.delivered = s.taken

lemma Exact.complete {s : Direction} (h : s.Exact) (hp : s.point = .returned (.ok ())) :
    s.Complete := by
  have hlevel := h.level
  rw [hp] at hlevel
  obtain ⟨hfin, hunread, hpipe⟩ := hlevel
  refine ⟨hfin, hunread, ?_⟩
  rw [h.taken, hpipe, List.append_nil]

/-- A point that is not the end of a complete transfer, with what it asks of the pipe. -/
lemma Exact.setPoint {s : Direction} (h : s.Exact) {p : Point} (hlevel : s.Level p)
    (hs : s.point ≠ .returned (.ok ())) (hp : p ≠ .returned (.ok ())) :
    { s with point := p }.Exact where
  chunk := h.chunk
  room := h.room
  taken := h.taken
  counted := h.counted
  level := by
    cases p with
    | returned r => cases r <;> exact hlevel
    | _ => exact hlevel
  closed := by
    have hclosed := h.closed
    simp only [hs, iff_false] at hclosed
    simp [hclosed, hp]

lemma Exact.failed {s : Direction} (h : s.Exact) {retry : Point} (hretry : s.Level retry)
    (hs : s.point ≠ .returned (.ok ())) (hr : retry ≠ .returned (.ok ())) (e : IoError) :
    (s.failed retry e).Exact := by
  unfold Direction.failed
  split_ifs
  · exact h.setPoint hretry hs hr
  · exact h.setPoint trivial hs (by simp)

/-- The read loop: a call that moved nothing is the end of the stream, for `chunk` is not zero. -/
lemma Exact.filled {s : Direction} (h : s.Exact) (hp : s.point = .fill) {n : ℕ}
    (hn : s.CanFill s.chunk n) : (s.filled n).Exact := by
  obtain ⟨hchunk, hlen, hzero⟩ := hn
  have hpipe : s.pipe = [] := by
    have hlevel := h.level
    rwa [hp] at hlevel
  have htaken : s.taken ++ s.unread.take n = s.delivered ++ (s.pipe ++ s.unread.take n) := by
    rw [h.taken, List.append_assoc]
  have hroom : (s.pipe ++ s.unread.take n).length ≤ s.chunk := by
    simp only [hpipe, List.nil_append, List.length_take]
    omega
  unfold Direction.filled
  split_ifs with h0
  · obtain hchunk | ⟨hfin, hunread⟩ := hzero h0
    · have := h.chunk
      omega
    · exact
        { chunk := h.chunk
          room := hroom
          taken := htaken
          counted := h.counted
          level := ⟨hfin, by simp [hunread], by simp [hpipe, hunread]⟩
          closed := by simp }
  · have hpos : 0 < n := by omega
    have hopen : s.halfClosed = false := by
      have hclosed := h.closed
      simpa [hp] using hclosed
    exact
      { chunk := h.chunk
        room := hroom
        taken := htaken
        counted := h.counted
        level := by
          simp only [drainLoop, hpos, if_true, Level]
          refine ⟨trivial, ?_⟩
          simp [hpipe, hlen]
        closed := by simp [drainLoop, hpos, hopen] }

/-- The write loop: the bytes that leave the pipe are the ones that are counted. -/
lemma Exact.drained {s : Direction} (h : s.Exact) {left m : ℕ} (hp : s.point = .drain left)
    (hm : s.CanDrain left m) : (s.drained left m).Exact := by
  obtain ⟨-, hlen⟩ := hm
  have hleft : 0 < left ∧ s.pipe.length = left := by
    have hlevel := h.level
    rwa [hp] at hlevel
  have hopen : s.halfClosed = false := by
    have hclosed := h.closed
    simpa [hp] using hclosed
  have htaken : s.taken = s.delivered ++ s.pipe.take m ++ s.pipe.drop m := by
    rw [h.taken, List.append_assoc, List.take_append_drop]
  have hroom : (s.pipe.drop m).length ≤ s.chunk := by
    have := h.room
    simp only [List.length_drop]
    omega
  unfold Direction.drained
  split_ifs with h0
  · exact
      { chunk := h.chunk
        room := hroom
        taken := htaken
        counted := by simp [h.counted, h0]
        level := trivial
        closed := by simp [hopen] }
  · exact
      { chunk := h.chunk
        room := hroom
        taken := htaken
        counted := by
          simp only [h.counted, List.length_append, List.length_take]
          omega
        level := by
          unfold drainLoop
          split_ifs with hmore
          · refine ⟨hmore, ?_⟩
            simp only [List.length_drop]
            omega
          · refine List.drop_eq_nil_of_le ?_
            omega
        closed := by
          unfold drainLoop
          split_ifs <;> simp [hopen] }

/-- Every step keeps the invariant. -/
theorem step_exact {s s' : Direction} {e : Event} (h : s.Exact) (hstep : s.step e = some s') :
    s'.Exact := by
  have hlevel := h.level
  cases move_of_step hstep with
  | arrive hfin =>
    -- no byte arrives behind the end of the stream, so a complete transfer stays complete
    refine ⟨h.chunk, h.room, h.taken, h.counted, hlevel.source rfl ?_, h.closed⟩
    rintro ⟨hfin', -⟩
    exact absurd hfin' (by simp [hfin])
  | finish hfin =>
    refine ⟨h.chunk, h.room, h.taken, h.counted, hlevel.source rfl ?_, h.closed⟩
    rintro ⟨-, hunread⟩
    exact ⟨rfl, hunread⟩
  | readable hp =>
    rw [hp] at hlevel
    exact h.setPoint hlevel (by simp [hp]) (by simp)
  | unreadable hp => exact h.setPoint trivial (by simp [hp]) (by simp)
  | fill hp hcan => exact h.filled hp hcan
  | fillFailed hp =>
    rw [hp] at hlevel
    have hretry : s.Level .awaitReadable := hlevel
    exact h.failed hretry (by simp [hp]) (by simp) _
  | writable hp =>
    rw [hp] at hlevel
    exact h.setPoint hlevel (by simp [hp]) (by simp)
  | unwritable hp => exact h.setPoint trivial (by simp [hp]) (by simp)
  | drain hp hcan => exact h.drained hp hcan
  | @drainFailed left _ hp =>
    rw [hp] at hlevel
    have hretry : s.Level (.awaitWritable left) := hlevel
    exact h.failed hretry (by simp [hp]) (by simp) _
  | drop hp =>
    refine h.setPoint trivial ?_ (by simp)
    obtain hp | ⟨left, hp⟩ := hp
    · simp [hp]
    · simp [hp]

/-- What the peer of the source sends with an event. -/
def Event.arrived : Event → Bytes
  | .arrive bytes => bytes
  | _ => []

/-- What the peer of the source sends in a run. -/
def arrivals (es : List Event) : Bytes := es.flatMap Event.arrived

/-- A step takes the bytes of the source in order. -/
lemma step_stream {s s' : Direction} {e : Event} (hstep : s.step e = some s') :
    s'.taken ++ s'.unread = s.taken ++ s.unread ++ e.arrived := by
  cases move_of_step hstep with
  | arrive _ => simp [Event.arrived]
  | fill _ _ =>
    unfold Direction.filled
    split_ifs <;> simp [Event.arrived]
  | fillFailed _ =>
    unfold Direction.failed
    split_ifs <;> simp [Event.arrived]
  | drain _ _ =>
    unfold Direction.drained
    split_ifs <;> simp [Event.arrived]
  | drainFailed _ =>
    unfold Direction.failed
    split_ifs <;> simp [Event.arrived]
  | _ => simp [Event.arrived]

/-- The bytes of a run: all that arrived is read or unread. -/
lemma run_stream {chunk : ℕ} {es : List Event} {s : Direction}
    (h : run step (init chunk) es = some s) : s.taken ++ s.unread = arrivals es := by
  refine run_invariant_history (I := fun es s => s.taken ++ s.unread = arrivals es) rfl ?_ h
  intro es s e s' hs hstep
  rw [step_stream hstep, hs]
  simp [arrivals]

lemma run_exact {chunk : ℕ} {es : List Event} {s : Direction}
    (h : run step (init chunk) es = some s) : s.Exact :=
  run_invariant (fun _ _ _ hs hstep => step_exact hs hstep) (exact_init chunk) h

/-- **One splice direction delivers exactly what it counts.**  At every point of every run: a write
never takes more than `left`; the pipe is empty at a read, and holds `left` bytes in the write
loop; what was delivered is the beginning of what was read, and that of what the peer sent; the
sum of the counts is the number of the delivered bytes; and the destination is half-closed, and
`Ok` returned, only when the source has ended and everything it sent was delivered. -/
theorem spliceDir_exact (chunk : ℕ) (es : List Event) (s : Direction)
    (h : run step (init chunk) es = some s) :
    (∀ m s', s.step (.drain (.ok m)) = some s' → ∃ left, s.point = .drain left ∧ m ≤ left) ∧
    (∀ left, s.point = .awaitWritable left ∨ s.point = .drain left → s.pipe.length = left) ∧
    (s.point = .fill → s.pipe = []) ∧
    s.delivered <+: s.taken ∧ s.taken <+: arrivals es ∧
    s.counted = s.delivered.length ∧
    (s.halfClosed = true ↔ s.point = .returned (.ok ())) ∧
    (s.halfClosed = true → s.fin = true ∧ s.unread = [] ∧ s.delivered = arrivals es) := by
  have hs := run_exact h
  have hstream := run_stream h
  have hlevel := hs.level
  refine ⟨?_, ?_, ?_, ?_, ?_, hs.counted, hs.closed, ?_⟩
  · intro m s' hstep
    cases move_of_step hstep with
    | @drain left _ hp hcan => exact ⟨left, hp, hcan.1⟩
  · rintro left (hp | hp)
    · rw [hp] at hlevel
      exact hlevel.2
    · rw [hp] at hlevel
      exact hlevel.2
  · intro hp
    rw [hp] at hlevel
    exact hlevel
  · exact ⟨s.pipe, hs.taken.symm⟩
  · exact ⟨s.unread, hstream⟩
  · intro hclosed
    obtain ⟨hfin, hunread, hall⟩ := hs.complete (hs.closed.mp hclosed)
    refine ⟨hfin, hunread, ?_⟩
    rw [← hstream, hunread, List.append_nil, hall]

/-- A run with a retried read, a partial write and a retried write. -/
def demoEvents : List Event :=
  [.arrive [1, 2], .readable (.ok ()), .fill (.error (.os IoError.eagain)), .arrive [3],
    .readable (.ok ()), .fill (.ok 3), .writable (.ok ()), .drain (.ok 2), .finish,
    .writable (.ok ()), .drain (.error (.os IoError.eagain)), .writable (.ok ()), .drain (.ok 1),
    .readable (.ok ()), .fill (.ok 0)]

/-- The state at its end. -/
def demoEnd : Direction where
  chunk := 4
  unread := []
  fin := true
  taken := [1, 2, 3]
  pipe := []
  delivered := [1, 2, 3]
  halfClosed := true
  counted := 3
  point := .returned (.ok ())

theorem spliceDir_exact_demo :
    run step (init 4) demoEvents = some demoEnd ∧ demoEnd.delivered = arrivals demoEvents :=
  have h : run step (init 4) demoEvents = some demoEnd := by decide
  ⟨h, ((spliceDir_exact 4 demoEvents demoEnd h).2.2.2.2.2.2.2 rfl).2.2⟩

lemma step_counted {s s' : Direction} {e : Event} (hstep : s.step e = some s') :
    s'.counted = s.counted + e.credited := by
  cases move_of_step hstep with
  | fill _ _ =>
    unfold Direction.filled
    split_ifs <;> rfl
  | fillFailed _ =>
    unfold Direction.failed
    split_ifs <;> rfl
  | drain _ _ =>
    unfold Direction.drained
    split_ifs with h0
    · simp [Event.credited, h0]
    · rfl
  | drainFailed _ =>
    unfold Direction.failed
    split_ifs <;> rfl
  | _ => rfl

lemma step_chunk {s s' : Direction} {e : Event} (hstep : s.step e = some s') :
    s'.chunk = s.chunk := by
  cases move_of_step hstep with
  | fill _ _ =>
    unfold Direction.filled
    split_ifs <;> rfl
  | fillFailed _ =>
    unfold Direction.failed
    split_ifs <;> rfl
  | drain _ _ =>
    unfold Direction.drained
    split_ifs <;> rfl
  | drainFailed _ =>
    unfold Direction.failed
    split_ifs <;> rfl
  | _ => rfl

lemma run_chunk {chunk : ℕ} {es : List Event} {s : Direction}
    (h : run step (init chunk) es = some s) : s.chunk = max chunk 1 :=
  run_invariant (I := fun s => s.chunk = max chunk 1)
    (fun _ _ _ hs hstep => (step_chunk hstep).trans hs) rfl h

/-- What `try_join!` does to a direction when the other one has failed, and a drop of the whole
future to each of them. -/
def abandoned (s : Direction) : Direction := (s.step .drop).getD s

/-- A state that some run leads to. -/
def Reached (chunk : ℕ) (s : Direction) : Prop := ∃ es, run step (init chunk) es = some s

lemma reached_init (chunk : ℕ) : Reached chunk (init chunk) := ⟨[], rfl⟩

lemma Reached.step {chunk : ℕ} {s s' : Direction} {e : Event} (h : Reached chunk s)
    (hstep : s.step e = some s') : Reached chunk s' := by
  obtain ⟨es, hes⟩ := h
  refine ⟨es ++ [e], run_append.mpr ⟨s, hes, ?_⟩⟩
  rw [run_cons, hstep]
  rfl

lemma Reached.exact {chunk : ℕ} {s : Direction} (h : s.Reached chunk) : s.Exact := by
  obtain ⟨es, hes⟩ := h
  exact run_exact hes

lemma Reached.chunk {chunk : ℕ} {s : Direction} (h : s.Reached chunk) :
    s.chunk = max chunk 1 := by
  obtain ⟨es, hes⟩ := h
  exact run_chunk hes

lemma Reached.abandoned {chunk : ℕ} {s : Direction} (h : Reached chunk s) :
    Reached chunk s.abandoned := by
  unfold Direction.abandoned
  cases hstep : s.step .drop with
  | none => exact h
  | some s' => exact h.step hstep

lemma counted_abandoned (s : Direction) : s.abandoned.counted = s.counted := by
  unfold abandoned
  cases hstep : s.step .drop with
  | none => rfl
  | some s' => exact step_counted hstep

end Direction

/-! ## Both directions -/

/-- `copy_bidirectional_splice`: the two directions and the counters of the forwarder. -/
structure Connection where
  c2r : Direction
  r2c : Direction
  stats : ForwarderStats

namespace Connection

/-- A connection over two fresh pipes. -/
def init (pipes : Pipes) (stats : ForwarderStats) : Connection where
  c2r := .init pipes.chunk
  r2c := .init pipes.chunk
  stats := stats

/-- What can happen to a connection: something to one of its directions, or the whole future is
dropped. -/
inductive Event
  | c2r (e : Direction.Event)
  | r2c (e : Direction.Event)
  | drop
deriving DecidableEq, Repr

/-- An error of one direction ends the other one. -/
def tryJoin (mine other : Direction) : Direction :=
  match mine.point with
  | .returned (.error _) => other.abandoned
  | _ => other

/-- The two directions are polled by one task, so a direction moves only while the other one
waits; the peers are free to send and to close.  No direction is dropped alone. -/
def enabled (other : Direction) : Direction.Event → Bool
  | .arrive _ | .finish => true
  | .drop => false
  | _ => other.point.parked

/-- One event of a connection. -/
def step (c : Connection) : Event → Option Connection
  | .c2r e =>
      if enabled c.r2c e then
        (c.c2r.step e).map fun d =>
          { c2r := d, r2c := tryJoin d c.r2c, stats := c.stats.addSent e.credited }
      else none
  | .r2c e =>
      if enabled c.c2r e then
        (c.r2c.step e).map fun d =>
          { c2r := tryJoin d c.c2r, r2c := d, stats := c.stats.addReceived e.credited }
      else none
  | .drop =>
      if c.c2r.point.parked && c.r2c.point.parked then
        some { c with c2r := c.c2r.abandoned, r2c := c.r2c.abandoned }
      else none

/-- What `try_join!` returns, once it does. -/
def result (c : Connection) : Option (Except Failure Unit) :=
  match c.c2r.point, c.r2c.point with
  | .returned (.error e), _ => some (.error e)
  | _, .returned (.error e) => some (.error e)
  | .returned (.ok ()), .returned (.ok ()) => some (.ok ())
  | _, _ => none

/-- Each direction is one run of `splice_dir`, and the counters have grown by what each of them
counted. -/
structure Accounted (pipes : Pipes) (stats : ForwarderStats) (c : Connection) : Prop where
  c2r : c.c2r.Reached pipes.chunk
  r2c : c.r2c.Reached pipes.chunk
  sent : c.stats.bytesSent = stats.bytesSent + c.c2r.counted
  received : c.stats.bytesReceived = stats.bytesReceived + c.r2c.counted

variable {pipes : Pipes} {stats : ForwarderStats}

lemma reached_tryJoin {chunk : ℕ} {mine other : Direction} (h : other.Reached chunk) :
    (tryJoin mine other).Reached chunk := by
  unfold tryJoin
  split
  · exact h.abandoned
  · exact h

lemma counted_tryJoin (mine other : Direction) : (tryJoin mine other).counted = other.counted := by
  unfold tryJoin
  split
  · exact other.counted_abandoned
  · rfl

lemma step_accounted {c c' : Connection} {e : Event} (h : c.Accounted pipes stats)
    (hstep : c.step e = some c') : c'.Accounted pipes stats := by
  cases e with
  | c2r e =>
    simp only [step, Option.ite_none_right_eq_some, Option.map_eq_some_iff] at hstep
    obtain ⟨-, d, hd, rfl⟩ := hstep
    refine ⟨h.c2r.step hd, reached_tryJoin h.r2c, ?_, ?_⟩
    · show c.stats.bytesSent + e.credited = _
      rw [h.sent, Direction.step_counted hd, Nat.add_assoc]
    · show c.stats.bytesReceived = _
      rw [h.received, counted_tryJoin]
  | r2c e =>
    simp only [step, Option.ite_none_right_eq_some, Option.map_eq_some_iff] at hstep
    obtain ⟨-, d, hd, rfl⟩ := hstep
    refine ⟨reached_tryJoin h.c2r, h.r2c.step hd, ?_, ?_⟩
    · show c.stats.bytesSent = _
      rw [h.sent, counted_tryJoin]
    · show c.stats.bytesReceived + e.credited = _
      rw [h.received, Direction.step_counted hd, Nat.add_assoc]
  | drop =>
    simp only [step, Option.ite_none_right_eq_some, Option.some.injEq] at hstep
    obtain ⟨-, rfl⟩ := hstep
    refine ⟨h.c2r.abandoned, h.r2c.abandoned, ?_, ?_⟩
    · rw [h.sent, Direction.counted_abandoned]
    · rw [h.received, Direction.counted_abandoned]

lemma run_accounted {es : List Event} {c : Connection}
    (h : run step (init pipes stats) es = some c) : c.Accounted pipes stats :=
  run_invariant (fun _ _ _ hc hstep => step_accounted hc hstep)
    ⟨Direction.reached_init _, Direction.reached_init _, rfl, rfl⟩ h

/-- What the client sends in a run. -/
def fromClient (es : List Event) : Bytes :=
  es.flatMap fun
    | .c2r e => e.arrived
    | _ => []

/-- What the target sends in a run. -/
def fromTarget (es : List Event) : Bytes :=
  es.flatMap fun
    | .r2c e => e.arrived
    | _ => []

/-- Each direction has taken or still holds what its peer sent. -/
def Streams (client target : Bytes) (c : Connection) : Prop :=
  c.c2r.taken ++ c.c2r.unread = client ∧ c.r2c.taken ++ c.r2c.unread = target

lemma stream_abandoned (s : Direction) :
    s.abandoned.taken ++ s.abandoned.unread = s.taken ++ s.unread := by
  unfold Direction.abandoned
  cases hstep : s.step .drop with
  | none => rfl
  | some s' => simpa [Direction.Event.arrived] using Direction.step_stream hstep

lemma stream_tryJoin (mine other : Direction) :
    (tryJoin mine other).taken ++ (tryJoin mine other).unread = other.taken ++ other.unread := by
  unfold tryJoin
  split
  · exact stream_abandoned other
  · rfl

lemma step_streams {c c' : Connection} {e : Event} {es : List Event}
    (h : c.Streams (fromClient es) (fromTarget es)) (hstep : c.step e = some c') :
    c'.Streams (fromClient (es ++ [e])) (fromTarget (es ++ [e])) := by
  obtain ⟨hclient, htarget⟩ := h
  cases e with
  | c2r e =>
    simp only [step, Option.ite_none_right_eq_some, Option.map_eq_some_iff] at hstep
    obtain ⟨-, d, hd, rfl⟩ := hstep
    refine ⟨?_, ?_⟩
    · rw [Direction.step_stream hd, hclient]
      simp [fromClient]
    · rw [stream_tryJoin, htarget]
      simp [fromTarget]
  | r2c e =>
    simp only [step, Option.ite_none_right_eq_some, Option.map_eq_some_iff] at hstep
    obtain ⟨-, d, hd, rfl⟩ := hstep
    refine ⟨?_, ?_⟩
    · rw [stream_tryJoin, hclient]
      simp [fromClient]
    · rw [Direction.step_stream hd, htarget]
      simp [fromTarget]
  | drop =>
    simp only [step, Option.ite_none_right_eq_some, Option.some.injEq] at hstep
    obtain ⟨-, rfl⟩ := hstep
    refine ⟨?_, ?_⟩
    · rw [stream_abandoned, hclient]
      simp [fromClient]
    · rw [stream_abandoned, htarget]
      simp [fromTarget]

lemma run_streams {es : List Event} {c : Connection}
    (h : run step (init pipes stats) es = some c) :
    c.Streams (fromClient es) (fromTarget es) :=
  run_invariant_history (I := fun es c => c.Streams (fromClient es) (fromTarget es)) ⟨rfl, rfl⟩
    (fun _ _ _ _ hc hstep => step_streams hc hstep) h

/-- Both directions are complete when the copy ends well. -/
lemma complete_of_result {c : Connection} (hc : c.Accounted pipes stats)
    (h : c.result = some (.ok ())) : c.c2r.Complete ∧ c.r2c.Complete := by
  unfold result at h
  split at h
  · cases h
  · cases h
  · rename_i hp hp'
    exact ⟨hc.c2r.exact.complete hp, hc.r2c.exact.complete hp'⟩
  · cases h

/-- A connection credits each side with exactly the bytes it delivered, whatever ends it; its
pipes never hold more than they can; and it ends well only when both peers have closed and all
that they sent has been delivered to the other side. -/
theorem run_delivers {size : ℕ} {in2out out2in : Except IoError ℕ}
    (hnew : Pipes.new size in2out out2in = .ok pipes) {es : List Event} {c : Connection}
    (h : run step (init pipes stats) es = some c) :
    c.stats.bytesSent = stats.bytesSent + c.c2r.delivered.length ∧
    c.stats.bytesReceived = stats.bytesReceived + c.r2c.delivered.length ∧
    c.c2r.pipe.length ≤ pipes.c2r ∧ c.r2c.pipe.length ≤ pipes.r2c ∧
    (c.result = some (.ok ()) → c.c2r.Complete ∧ c.r2c.Complete ∧
      c.c2r.delivered = fromClient es ∧ c.r2c.delivered = fromTarget es) := by
  have hc := run_accounted h
  obtain ⟨hmin, hc2r, hr2c⟩ := Pipes.new_eq_ok hnew
  have hroom : ∀ {d : Direction}, d.Reached pipes.chunk → d.pipe.length ≤ pipes.chunk := by
    intro d hd
    have := hd.exact.room
    have := hd.chunk
    omega
  refine ⟨?_, ?_, (hroom hc.c2r).trans hc2r, (hroom hc.r2c).trans hr2c, fun hok => ?_⟩
  · rw [hc.sent, hc.c2r.exact.counted]
  · rw [hc.received, hc.r2c.exact.counted]
  · obtain ⟨hclient, htarget⟩ := run_streams h
    obtain ⟨hend, hend'⟩ := complete_of_result hc hok
    refine ⟨hend, hend', ?_, ?_⟩
    · rw [hend.2.2, ← hclient, hend.2.1, List.append_nil]
    · rw [hend'.2.2, ← htarget, hend'.2.1, List.append_nil]

/-- A client that sends two bytes, and a target that only closes. -/
def twoBytes : List Event :=
  [.c2r (.arrive [1, 2]), .r2c .finish, .c2r (.readable (.ok ())), .c2r (.fill (.ok 2)),
    .c2r (.writable (.ok ())), .c2r (.drain (.ok 2)), .c2r .finish, .r2c (.readable (.ok ())),
    .r2c (.fill (.ok 0)), .c2r (.readable (.ok ())), .c2r (.fill (.ok 0))]

theorem run_delivers_twoBytes :
    ∃ c, run step (init ⟨65536, 65536, 65536⟩ (.withProtocol [] .tcp)) twoBytes = some c ∧
      c.stats.bytesSent = 2 ∧ c.c2r.Complete := by
  have hnew : Pipes.new 65536 (.ok 65536) (.ok 65536) = .ok ⟨65536, 65536, 65536⟩ := by decide
  obtain ⟨c, hrun, hok, hcount⟩ :
      ∃ c, run step (init ⟨65536, 65536, 65536⟩ (.withProtocol [] .tcp)) twoBytes = some c ∧
        c.result = some (.ok ()) ∧ c.c2r.delivered.length = 2 := ⟨_, rfl, rfl, rfl⟩
  obtain ⟨hsent, -, -, -, hend⟩ := run_delivers hnew hrun
  exact ⟨c, hrun, by rw [hsent, hcount]; rfl, (hend hok).1⟩

end Connection

end Rfw.Splice
