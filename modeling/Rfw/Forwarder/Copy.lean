/-
# The portable copy path

Without splice, `proxy_connection` hands the client's socket, wrapped in a `CountingStream`, and the
target's socket to `tokio::io::copy_bidirectional_with_sizes`.  The wrapper counts what is read from
the client when it is read, and what is written to the client when it is written.

The copier is the library's, so it is a parameter here: a machine that makes calls on the two
streams.  `Copier.Contract` has what its documentation says of the bytes: it writes to each stream
what it has read from the other one, in order and with at most a buffer held back, and it ends well
only behind the ends of both readers, with nothing held back.

`copy_counts` says what the counters show at every point of a copy, and `transferred_exact` compares
the two paths: a connection that ends well delivers and counts the same on both.
-/
import Rfw.Forwarder.Splice

namespace Rfw.Forwarder.Copy

open Lib Udp

/-- `Poll<io::Result<_>>`. -/
inductive Poll (α : Type)
  | pending
  | ready (r : Except IoError α)
deriving DecidableEq, Repr

/-! ## The counting stream -/

/-- `CountingStream::poll_read`: the buffer holds `filled` bytes, and the inner stream appends to
it. -/
def pollRead (stats : ForwarderStats) (filled : ℕ) (inner : Poll Bytes) : ForwarderStats :=
  match inner with
  | .ready (.ok bytes) =>
      let n := (filled + bytes.length) - filled
      if 0 < n then stats.addSent n else stats
  | _ => stats

/-- `CountingStream::poll_write`. -/
def pollWrite (stats : ForwarderStats) (inner : Poll ℕ) : ForwarderStats :=
  match inner with
  | .ready (.ok n) => if 0 < n then stats.addReceived n else stats
  | _ => stats

lemma pollRead_ok (stats : ForwarderStats) (filled : ℕ) (bytes : Bytes) :
    pollRead stats filled (.ready (.ok bytes)) = stats.addSent bytes.length := by
  show (if 0 < filled + bytes.length - filled then _ else _) = _
  rw [Nat.add_sub_cancel_left]
  split
  · rfl
  · rename_i hzero
    rw [Nat.eq_zero_of_not_pos hzero]
    rfl

lemma pollWrite_ok (stats : ForwarderStats) (n : ℕ) :
    pollWrite stats (.ready (.ok n)) = stats.addReceived n := by
  show (if 0 < n then _ else _) = _
  split
  · rfl
  · rename_i hzero
    rw [Nat.eq_zero_of_not_pos hzero]
    rfl

/-! ## Calls on the streams -/

/-- The two streams of a copy. -/
inductive Side
  | client
  | target
deriving DecidableEq, Repr

/-- The stream at the other end. -/
def Side.other : Side → Side
  | client => target
  | target => client

/-- A call on a stream with its answer.  A read has room for `room` bytes behind the `filled` ones
that the buffer holds; a write offers `bytes`. -/
inductive Call
  | read (filled room : ℕ) (poll : Poll Bytes)
  | write (bytes : Bytes) (poll : Poll ℕ)
  | flush (poll : Poll Unit)
  | shutdown (poll : Poll Unit)
deriving DecidableEq, Repr

/-- What a call has read. -/
def Call.got : Call → Bytes
  | .read _ _ (.ready (.ok bytes)) => bytes
  | _ => []

/-- What the stream has accepted from a call. -/
def Call.put : Call → Bytes
  | .write bytes (.ready (.ok n)) => bytes.take n
  | _ => []

/-- No stream reads more than there is room for, or accepts more than it was offered. -/
def Call.Sane : Call → Prop
  | .read _ room (.ready (.ok bytes)) => bytes.length ≤ room
  | .write bytes (.ready (.ok n)) => n ≤ bytes.length
  | _ => True

/-- The call tells that its stream has ended: there was room, and nothing came. -/
def Call.eof : Call → Bool
  | .read _ room (.ready (.ok bytes)) => decide (0 < room) && bytes.isEmpty
  | _ => false

/-- What some calls have read from a stream. -/
def taken (side : Side) (calls : List (Side × Call)) : Bytes :=
  calls.flatMap fun c => if c.1 = side then c.2.got else []

/-- What a stream has accepted from some calls. -/
def given (side : Side) (calls : List (Side × Call)) : Bytes :=
  calls.flatMap fun c => if c.1 = side then c.2.put else []

/-- A call has told the end of a stream. -/
def ended (side : Side) (calls : List (Side × Call)) : Bool :=
  calls.any fun c => decide (c.1 = side) && c.2.eof

section Snoc

variable (side : Side) (calls : List (Side × Call)) (c : Side × Call)

lemma taken_snoc :
    taken side (calls ++ [c]) = taken side calls ++ if c.1 = side then c.2.got else [] := by
  rw [taken, List.flatMap_append, List.flatMap_singleton, taken]

lemma given_snoc :
    given side (calls ++ [c]) = given side calls ++ if c.1 = side then c.2.put else [] := by
  rw [given, List.flatMap_append, List.flatMap_singleton, given]

lemma ended_snoc :
    ended side (calls ++ [c]) = (ended side calls || decide (c.1 = side) && c.2.eof) := by
  rw [ended, List.any_append, ended]
  simp

end Snoc

/-! ## The copier -/

/-- A copier: the calls that it makes in a state, with the state that their answers lead to, and
what it returns, once it does. -/
structure Copier where
  State : Type
  /-- The start, with a buffer for what comes from each stream. -/
  start : (Side → ℕ) → State
  step : State → Side × Call → Option State
  result : State → Option (Except IoError Unit)

/-- What the documentation of `copy_bidirectional_with_sizes` says of the bytes. -/
structure Copier.Contract (copier : Copier) : Prop where
  /-- What was read from one stream was written to the other one, but for at most a buffer. -/
  relays : ∀ sizes calls k, (∀ side, 0 < sizes side) →
    run copier.step (copier.start sizes) calls = some k → (∀ c ∈ calls, c.2.Sane) →
    ∀ side, ∃ held : Bytes, held.length ≤ sizes side ∧
      taken side calls = given side.other calls ++ held
  /-- It ends well when both readers have ended and everything was written. -/
  ends : ∀ sizes calls k, (∀ side, 0 < sizes side) →
    run copier.step (copier.start sizes) calls = some k → (∀ c ∈ calls, c.2.Sane) →
    copier.result k = some (.ok ()) →
    ∀ side, ended side calls = true ∧ given side.other calls = taken side calls

/-! ### A copier that meets it -/

/-- One direction of a copier with a buffer. -/
structure Relay where
  buffer : Bytes
  /-- The reader has ended. -/
  readDone : Bool
  /-- The writer is shut down. -/
  done : Bool
deriving DecidableEq, Repr

/-- A direction reads while it has room and its reader has not ended, writes what it holds, and
shuts its writer down behind the end. -/
def Relay.step (size : ℕ) (r : Relay) : Call → Option Relay
  | .read _ room poll =>
      if r.readDone = false ∧ 0 < room ∧ r.buffer.length + room ≤ size then
        match poll with
        | .ready (.ok bytes) =>
            some { r with buffer := r.buffer ++ bytes, readDone := bytes.isEmpty }
        | _ => some r
      else none
  | .write bytes poll =>
      if bytes = r.buffer ∧ bytes ≠ [] then
        match poll with
        | .ready (.ok n) => some { r with buffer := r.buffer.drop n }
        | _ => some r
      else none
  | .flush _ => some r
  | .shutdown poll =>
      if r.readDone = true ∧ r.buffer = [] then
        match poll with
        | .ready (.ok ()) => some { r with done := true }
        | _ => some r
      else none

/-- The error of a call. -/
def Call.error : Call → Option IoError
  | .read _ _ (.ready (.error e)) | .write _ (.ready (.error e)) | .flush (.ready (.error e))
  | .shutdown (.ready (.error e)) => some e
  | _ => none

/-- The source of the direction that a call on a stream belongs to. -/
def Call.source (side : Side) : Call → Side
  | .read _ _ _ => side
  | .write _ _ | .flush _ | .shutdown _ => side.other

/-- Both directions, by their sources. -/
structure Relays where
  sizes : Side → ℕ
  relay : Side → Relay
  /-- The error that ended the copy. -/
  failed : Option IoError

/-- The copier that keeps what it has read in one buffer for each direction. -/
def buffered : Copier where
  State := Relays
  start sizes := ⟨sizes, fun _ => ⟨[], false, false⟩, none⟩
  step k c :=
    let source := c.2.source c.1
    ((k.relay source).step (k.sizes source) c.2).map fun r =>
      { k with relay := Function.update k.relay source r, failed := k.failed.or c.2.error }
  result k :=
    match k.failed with
    | some e => some (.error e)
    | none =>
        if (k.relay .client).done = true ∧ (k.relay .target).done = true then some (.ok ())
        else none

namespace Relay

/-- What a direction holds is what it has read and not written. -/
structure Exact (size : ℕ) (got put : Bytes) (eof : Bool) (r : Relay) : Prop where
  held : got = put ++ r.buffer
  room : r.buffer.length ≤ size
  readDone : r.readDone = true → eof = true
  done : r.done = true → r.readDone = true ∧ r.buffer = []

variable {size : ℕ} {got put : Bytes} {eof : Bool} {r r' : Relay}

lemma exact_step (h : Exact size got put eof r) {call : Call} (hsane : call.Sane)
    (hstep : r.step size call = some r') :
    Exact size (got ++ call.got) (put ++ call.put) (eof || call.eof) r' := by
  have hidle (hgot : call.got = []) (hput : call.put = []) :
      Exact size (got ++ call.got) (put ++ call.put) (eof || call.eof) r := by
    rw [hgot, hput, List.append_nil, List.append_nil]
    exact ⟨h.held, h.room, fun hread => by rw [h.readDone hread, Bool.true_or], h.done⟩
  cases call with
  | read filled room poll =>
    obtain ⟨⟨hread, hpos, hroom⟩, heq⟩ := Option.ite_none_right_eq_some.mp hstep
    obtain _ | err | bytes := poll
    · obtain rfl := Option.some.inj heq
      exact hidle rfl rfl
    · obtain rfl := Option.some.inj heq
      exact hidle rfl rfl
    · obtain rfl := Option.some.inj heq
      have hlen : bytes.length ≤ room := hsane
      refine ⟨?_, ?_, fun hempty => ?_, fun hdone => ?_⟩
      · show got ++ bytes = put ++ [] ++ (r.buffer ++ bytes)
        rw [List.append_nil, h.held, List.append_assoc]
      · show (r.buffer ++ bytes).length ≤ size
        rw [List.length_append]
        omega
      · -- nothing came although there was room
        have heof : (Call.read filled room (.ready (.ok bytes))).eof = true :=
          Bool.and_eq_true_iff.mpr ⟨decide_eq_true hpos, hempty⟩
        rw [heof, Bool.or_true]
      · rw [(h.done hdone).1] at hread
        cases hread
  | write bytes poll =>
    obtain ⟨⟨rfl, hne⟩, heq⟩ := Option.ite_none_right_eq_some.mp hstep
    obtain _ | err | n := poll
    · obtain rfl := Option.some.inj heq
      exact hidle rfl rfl
    · obtain rfl := Option.some.inj heq
      exact hidle rfl rfl
    · obtain rfl := Option.some.inj heq
      refine ⟨?_, ?_, fun hread => ?_, fun hdone => absurd (h.done hdone).2 hne⟩
      · show got ++ [] = put ++ r.buffer.take n ++ r.buffer.drop n
        rw [List.append_nil, h.held, List.append_assoc, List.take_append_drop]
      · have hroom := h.room
        show (r.buffer.drop n).length ≤ size
        rw [List.length_drop]
        omega
      · rw [h.readDone hread, Bool.true_or]
  | flush poll =>
    obtain rfl := Option.some.inj hstep
    exact hidle rfl rfl
  | shutdown poll =>
    obtain ⟨hended, heq⟩ := Option.ite_none_right_eq_some.mp hstep
    obtain _ | err | ⟨⟩ := poll
    · obtain rfl := Option.some.inj heq
      exact hidle rfl rfl
    · obtain rfl := Option.some.inj heq
      exact hidle rfl rfl
    · obtain rfl := Option.some.inj heq
      have hkept := hidle rfl rfl
      exact ⟨hkept.held, hkept.room, hkept.readDone, fun _ => hended⟩

end Relay

/-- A call moves bytes in its own direction only. -/
lemma Call.moves (side source : Side) (call : Call) :
    (if side = source then call.got else []) =
        (if source = call.source side then call.got else []) ∧
      (if side = source.other then call.put else []) =
        (if source = call.source side then call.put else []) ∧
      (decide (side = source) && call.eof) = (decide (source = call.source side) && call.eof) := by
  cases call <;> cases side <;> cases source <;> exact ⟨rfl, rfl, rfl⟩

namespace Relays

/-- Both directions are exact. -/
def Exact (sizes : Side → ℕ) (calls : List (Side × Call)) (k : Relays) : Prop :=
  k.sizes = sizes ∧ ∀ side, (k.relay side).Exact (sizes side) (taken side calls)
    (given side.other calls) (ended side calls)

lemma exact_step {sizes : Side → ℕ} {calls : List (Side × Call)} {k k' : Relays}
    (h : k.Exact sizes calls) {c : Side × Call} (hsane : c.2.Sane)
    (hstep : buffered.step k c = some k') : k'.Exact sizes (calls ++ [c]) := by
  obtain ⟨hsizes, hrelays⟩ := h
  obtain ⟨r, hr, rfl⟩ := Option.map_eq_some_iff.mp hstep
  rw [hsizes] at hr
  refine ⟨hsizes, fun side => ?_⟩
  obtain ⟨hgot, hput, heof⟩ := Call.moves c.1 side c.2
  rw [taken_snoc, given_snoc, ended_snoc, hgot, hput, heof]
  dsimp only
  obtain rfl | hside := eq_or_ne side (c.2.source c.1)
  · rw [Function.update_self, if_pos rfl, if_pos rfl, decide_eq_true rfl, Bool.true_and]
    exact Relay.exact_step (hrelays _) hsane hr
  · rw [Function.update_of_ne hside, if_neg hside, if_neg hside, decide_eq_false hside,
      Bool.false_and, Bool.or_false, List.append_nil, List.append_nil]
    exact hrelays side

lemma exact_of_run {sizes : Side → ℕ} {calls : List (Side × Call)} {k : Relays}
    (h : run buffered.step (buffered.start sizes) calls = some k)
    (hsane : ∀ c ∈ calls, c.2.Sane) : k.Exact sizes calls := by
  refine run_invariant_history
    (I := fun calls k => (∀ c ∈ calls, c.2.Sane) → Relays.Exact sizes calls k) (fun _ => ?_)
    (fun calls k c k' hk hstep hsane => ?_) h hsane
  · exact ⟨rfl, fun _ => ⟨rfl, Nat.zero_le _, nofun, nofun⟩⟩
  · rw [List.forall_mem_append, List.forall_mem_singleton] at hsane
    exact exact_step (hk hsane.1) hsane.2 hstep

end Relays

/-- Such a copier meets the contract. -/
theorem contract_buffered : buffered.Contract where
  relays sizes calls k _ hrun hsane side := by
    have h := (Relays.exact_of_run hrun hsane).2 side
    exact ⟨_, h.room, h.held⟩
  ends sizes calls k _ hrun hsane hresult side := by
    have h := (Relays.exact_of_run hrun hsane).2 side
    have hdone : (k.relay side).done = true := by
      simp only [buffered] at hresult
      split at hresult
      · cases hresult
      · have hboth := (Option.ite_none_right_eq_some.mp hresult).1
        cases side with
        | client => exact hboth.1
        | target => exact hboth.2
    obtain ⟨hread, hbuffer⟩ := h.done hdone
    refine ⟨h.readDone hread, ?_⟩
    rw [h.held, hbuffer, List.append_nil]

/-! ## A connection -/

/-- The source side of a stream. -/
structure Source where
  /-- What has arrived from the peer and was not read yet. -/
  unread : Bytes
  /-- The peer has closed its side. -/
  fin : Bool
deriving DecidableEq, Repr

/-- The answers that a socket can give: the next bytes of the stream, and none only at its end or
without room; a part of the bytes that it is offered. -/
def Source.Allows (s : Source) : Call → Prop
  | .read _ room (.ready (.ok bytes)) =>
      bytes.length ≤ room ∧ bytes <+: s.unread ∧
        (bytes = [] → room = 0 ∨ s.fin = true ∧ s.unread = [])
  | .write bytes (.ready (.ok n)) => n ≤ bytes.length
  | _ => True

instance (s : Source) : ∀ call, Decidable (s.Allows call)
  | .read _ room (.ready (.ok bytes)) =>
      inferInstanceAs (Decidable (bytes.length ≤ room ∧ bytes <+: s.unread ∧
        (bytes = [] → room = 0 ∨ s.fin = true ∧ s.unread = [])))
  | .write bytes (.ready (.ok n)) => inferInstanceAs (Decidable (n ≤ bytes.length))
  | .read _ _ .pending | .read _ _ (.ready (.error _)) | .write _ .pending
  | .write _ (.ready (.error _)) | .flush _ | .shutdown _ => inferInstanceAs (Decidable True)

lemma Source.Allows.sane {s : Source} {call : Call} (h : s.Allows call) : call.Sane := by
  cases call with
  | read filled room poll =>
    obtain _ | err | bytes := poll
    · trivial
    · trivial
    · exact h.1
  | write bytes poll =>
    obtain _ | err | n := poll
    · trivial
    · trivial
    · exact h
  | flush poll | shutdown poll => trivial

/-- What the counting stream does with a call. -/
def count (stats : ForwarderStats) : Call → ForwarderStats
  | .read filled _ poll => pollRead stats filled poll
  | .write _ poll => pollWrite stats poll
  | .flush _ | .shutdown _ => stats

/-- A copy in both directions with the counters of the forwarder. -/
structure Connection (copier : Copier) where
  sources : Side → Source
  state : copier.State
  stats : ForwarderStats

/-- What can happen to a connection. -/
inductive Event
  /-- A peer sends. -/
  | arrive (side : Side) (bytes : Bytes)
  /-- A peer closes its side. -/
  | finish (side : Side)
  /-- The copier makes a call. -/
  | call (side : Side) (c : Call)
deriving DecidableEq, Repr

/-- What a peer sends in a run. -/
def sent (side : Side) (es : List Event) : Bytes :=
  es.flatMap fun
    | .arrive from_ bytes => if from_ = side then bytes else []
    | _ => []

/-- The calls of a run. -/
def calls (es : List Event) : List (Side × Call) :=
  es.filterMap fun
    | .call side c => some (side, c)
    | _ => none

namespace Connection

variable {copier : Copier}

/-- The start of a copy with two buffers of this size. -/
def init (copier : Copier) (size : ℕ) (stats : ForwarderStats) : Connection copier where
  sources := fun _ => ⟨[], false⟩
  state := copier.start fun _ => size
  stats := stats

/-- One step of a connection.  The copier makes no call after it has returned. -/
def step (c : Connection copier) : Event → Option (Connection copier)
  | .arrive side bytes =>
      let s := c.sources side
      if s.fin then none
      else some { c with
        sources := Function.update c.sources side { s with unread := s.unread ++ bytes } }
  | .finish side =>
      let s := c.sources side
      if s.fin then none
      else some { c with sources := Function.update c.sources side { s with fin := true } }
  | .call side call =>
      let s := c.sources side
      if (copier.result c.state).isNone ∧ s.Allows call then
        (copier.step c.state (side, call)).map fun state =>
          { sources := Function.update c.sources side
              { s with unread := s.unread.drop call.got.length }
            state
            stats := if side = .client then count c.stats call else c.stats }
      else none

/-- What holds of a connection at every point: the calls are a run of the copier, the streams are
whole, and the counters have grown by what was read from the client and what it was given. -/
structure Counted (size : ℕ) (stats : ForwarderStats) (es : List Event) (c : Connection copier) :
    Prop where
  copied : run copier.step (copier.start fun _ => size) (calls es) = some c.state
  sane : ∀ call ∈ calls es, call.2.Sane
  stream : ∀ side, taken side (calls es) ++ (c.sources side).unread = Copy.sent side es
  ended : ∀ side, ended side (calls es) = true →
    (c.sources side).fin = true ∧ (c.sources side).unread = []
  sent : c.stats.bytesSent = stats.bytesSent + (taken .client (calls es)).length
  received : c.stats.bytesReceived = stats.bytesReceived + (given .client (calls es)).length

variable {size : ℕ} {stats : ForwarderStats} {es : List Event} {c c' : Connection copier}

lemma counted_init (size : ℕ) (stats : ForwarderStats) :
    Counted size stats [] (init copier size stats) :=
  ⟨rfl, nofun, fun _ => rfl, nofun, rfl, rfl⟩

/-- The counting stream counts what it hands out and what it accepts. -/
lemma count_counts {call : Call} (h : call.Sane) (s : ForwarderStats) :
    (count s call).bytesSent = s.bytesSent + call.got.length ∧
      (count s call).bytesReceived = s.bytesReceived + call.put.length := by
  cases call with
  | read filled room poll =>
    obtain _ | err | bytes := poll
    · exact ⟨rfl, rfl⟩
    · exact ⟨rfl, rfl⟩
    · rw [count, pollRead_ok]
      exact ⟨rfl, rfl⟩
  | write bytes poll =>
    obtain _ | err | n := poll
    · exact ⟨rfl, rfl⟩
    · exact ⟨rfl, rfl⟩
    · rw [count, pollWrite_ok]
      refine ⟨rfl, ?_⟩
      have hlength : (bytes.take n).length = n := List.length_take_of_le h
      rw [Call.put, hlength]
      rfl
  | flush poll | shutdown poll => exact ⟨rfl, rfl⟩

/-- What a socket hands out is what comes next. -/
lemma got_append_drop {s : Source} {call : Call} (h : s.Allows call) :
    call.got ++ s.unread.drop call.got.length = s.unread := by
  cases call with
  | read filled room poll =>
    obtain _ | err | bytes := poll
    · rfl
    · rfl
    · obtain ⟨rest, hrest⟩ := h.2.1
      rw [Call.got, ← hrest, List.drop_left]
  | _ => rfl

/-- A socket tells its end only at its end. -/
lemma eof_of_allows {s : Source} {call : Call} (h : s.Allows call) (heof : call.eof = true) :
    s.fin = true ∧ s.unread = [] := by
  cases call with
  | read filled room poll =>
    obtain _ | err | bytes := poll
    · cases heof
    · cases heof
    · obtain ⟨hroom, hempty⟩ := Bool.and_eq_true_iff.mp heof
      obtain hzero | hend := h.2.2 (List.isEmpty_iff.mp hempty)
      · rw [hzero] at hroom
        cases hroom
      · exact hend
  | _ => cases heof

/-- A peer sends more, or closes its side, before it has closed it. -/
lemma Counted.peer (h : Counted size stats es c) {e : Event} {side : Side} (bytes : Bytes)
    {s : Source} (hfin : (c.sources side).fin = false)
    (hcalls : calls (es ++ [e]) = calls es)
    (hsent : ∀ other, Copy.sent other (es ++ [e]) =
      Copy.sent other es ++ if side = other then bytes else [])
    (hs : s.unread = (c.sources side).unread ++ bytes) :
    Counted size stats (es ++ [e]) { c with sources := Function.update c.sources side s } := by
  have hopen : Copy.ended side (calls es) = false := by
    by_contra hended
    rw [(h.ended side (Bool.not_eq_false _ ▸ hended)).1] at hfin
    cases hfin
  refine ⟨by rw [hcalls]; exact h.copied, by rw [hcalls]; exact h.sane, fun other => ?_,
    fun other hended => ?_, by rw [hcalls]; exact h.sent, by rw [hcalls]; exact h.received⟩
  · rw [hcalls, hsent, ← h.stream other]
    dsimp only
    obtain rfl | hother := eq_or_ne other side
    · rw [Function.update_self, hs, if_pos rfl, List.append_assoc]
    · rw [Function.update_of_ne hother, if_neg hother.symm, List.append_nil]
  · rw [hcalls] at hended
    dsimp only
    obtain rfl | hother := eq_or_ne other side
    · rw [hopen] at hended
      cases hended
    · rw [Function.update_of_ne hother]
      exact h.ended other hended

lemma counted_step (h : Counted size stats es c) {e : Event} (hstep : c.step e = some c') :
    Counted size stats (es ++ [e]) c' := by
  cases e with
  | arrive side bytes =>
    obtain ⟨hfin, heq⟩ := Option.ite_none_left_eq_some.mp hstep
    obtain rfl := Option.some.inj heq
    refine h.peer bytes (Bool.eq_false_of_not_eq_true hfin) (by simp [calls])
      (fun other => by simp [sent]) rfl
  | finish side =>
    obtain ⟨hfin, heq⟩ := Option.ite_none_left_eq_some.mp hstep
    obtain rfl := Option.some.inj heq
    refine h.peer [] (Bool.eq_false_of_not_eq_true hfin) (by simp [calls])
      (fun other => by simp [sent]) (List.append_nil _).symm
  | call side call =>
    obtain ⟨⟨-, hallows⟩, heq⟩ := Option.ite_none_right_eq_some.mp hstep
    obtain ⟨state, hcopier, rfl⟩ := Option.map_eq_some_iff.mp heq
    have hcalls : calls (es ++ [.call side call]) = calls es ++ [(side, call)] := by simp [calls]
    have hsent : ∀ other, sent other (es ++ [.call side call]) = sent other es := by
      intro other
      simp [sent]
    obtain ⟨hcountSent, hcountReceived⟩ := count_counts hallows.sane c.stats
    have hnext := got_append_drop hallows
    refine ⟨?_, ?_, fun other => ?_, fun other hended => ?_, ?_, ?_⟩
    · rw [hcalls, run_append]
      exact ⟨c.state, h.copied, (run_singleton _ _).trans hcopier⟩
    · rw [hcalls, List.forall_mem_append, List.forall_mem_singleton]
      exact ⟨h.sane, hallows.sane⟩
    · rw [hcalls, taken_snoc, hsent, ← h.stream other]
      dsimp only
      obtain rfl | hother := eq_or_ne other side
      · rw [Function.update_self, if_pos rfl, List.append_assoc, hnext]
      · rw [Function.update_of_ne hother, if_neg hother.symm, List.append_nil]
    · rw [hcalls, ended_snoc, Bool.or_eq_true, Bool.and_eq_true, decide_eq_true_eq] at hended
      dsimp only
      obtain rfl | hother := eq_or_ne other side
      · have hend : (c.sources other).fin = true ∧ (c.sources other).unread = [] :=
          hended.elim (h.ended other) fun heof => eof_of_allows hallows heof.2
        rw [Function.update_self]
        exact ⟨hend.1, by rw [hend.2, List.drop_nil]⟩
      · rw [Function.update_of_ne hother]
        exact h.ended other (hended.resolve_right fun heof => hother heof.1.symm)
    · dsimp only
      rw [hcalls, taken_snoc, List.length_append, ← Nat.add_assoc, ← h.sent]
      split_ifs
      · exact hcountSent
      · rfl
    · dsimp only
      rw [hcalls, given_snoc, List.length_append, ← Nat.add_assoc, ← h.received]
      split_ifs
      · exact hcountReceived
      · rfl

lemma counted_of_run (h : run step (init copier size stats) es = some c) :
    Counted size stats es c :=
  run_invariant_history (counted_init size stats) (fun _ _ _ _ hc hstep => counted_step hc hstep) h

/-- What a copy has written, it has read, and what it has read was sent. -/
lemma Counted.isPrefix (h : Counted size stats es c) (side : Side) :
    taken side (calls es) <+: Copy.sent side es := ⟨_, h.stream side⟩

/-- **The counters are right however the copy ends.**  At every point of every run, also behind an
error: what the forwarder counts as received is what the client was given; what it counts as sent
is what was taken from the client, which the target was given but for at most a buffer of it; and
each peer was given the beginning of what the other one has sent. -/
theorem copy_counts (hcopier : copier.Contract) (hsize : 0 < size)
    (h : run step (init copier size stats) es = some c) :
    c.stats.bytesReceived = stats.bytesReceived + (given .client (calls es)).length ∧
    c.stats.bytesSent = stats.bytesSent + (taken .client (calls es)).length ∧
    taken .client (calls es) <+: Copy.sent .client es ∧
    given .target (calls es) <+: taken .client (calls es) ∧
    (taken .client (calls es)).length ≤ (given .target (calls es)).length + size ∧
    given .client (calls es) <+: Copy.sent .target es := by
  have hc := counted_of_run h
  obtain ⟨held, hlen, htaken⟩ :=
    hcopier.relays _ _ _ (fun _ => hsize) hc.copied hc.sane .client
  obtain ⟨held', -, htaken'⟩ := hcopier.relays _ _ _ (fun _ => hsize) hc.copied hc.sane .target
  refine ⟨hc.received, hc.sent, hc.isPrefix .client, ⟨held, htaken.symm⟩, ?_, ?_⟩
  · rw [htaken, List.length_append]
    exact Nat.add_le_add_left hlen _
  · have hgiven : given .client (calls es) <+: taken .target (calls es) := ⟨held', htaken'.symm⟩
    exact hgiven.trans (hc.isPrefix .target)

/-- A client that sends two bytes, and a target that takes one of them and resets. -/
def resetRun : List Event :=
  [.arrive .client [1, 2], .call .client (.read 0 8192 .pending),
    .call .client (.read 0 8192 (.ready (.ok [1, 2]))),
    .call .target (.write [1, 2] (.ready (.ok 1))),
    .call .target (.write [2] (.ready (.error (.os IoError.econnreset))))]

theorem copy_counts_resetRun :
    ∃ c, run step (init buffered 8192 (.withProtocol [] .tcp)) resetRun = some c ∧
      given .target (calls resetRun) = [1] ∧ c.stats.bytesSent = 2 := by
  refine ⟨_, rfl, rfl, ?_⟩
  exact (@copy_counts buffered 8192 (.withProtocol [] .tcp) resetRun _ contract_buffered
    (by decide) rfl).2.1

end Connection

/-! ## Both paths -/

/-- What a connection moved: what the peers sent, and what they were given. -/
structure Transfer where
  fromClient : Bytes
  fromTarget : Bytes
  toTarget : Bytes
  toClient : Bytes
deriving DecidableEq, Repr

/-- The transfers of `proxy_connection` that end well, over either path, with the counters behind
them. -/
inductive Transferred (stats : ForwarderStats) : Transfer → ForwarderStats → Prop
  | splice {size : ℕ} {c2r r2c : Except IoError ℕ} {pipes : Splice.Pipes}
      {es : List Splice.Connection.Event} {c : Splice.Connection} :
      Splice.Pipes.new size c2r r2c = .ok pipes →
      run Splice.Connection.step (.init pipes stats) es = some c → c.result = some (.ok ()) →
      Transferred stats
        { fromClient := Splice.Connection.fromClient es
          fromTarget := Splice.Connection.fromTarget es
          toTarget := c.c2r.delivered
          toClient := c.r2c.delivered }
        c.stats
  | copy {copier : Copier} {size : ℕ} {es : List Event} {c : Connection copier} :
      copier.Contract → 0 < size → run Connection.step (.init copier size stats) es = some c →
      copier.result c.state = some (.ok ()) →
      Transferred stats
        { fromClient := sent .client es
          fromTarget := sent .target es
          toTarget := given .target (calls es)
          toClient := given .client (calls es) }
        c.stats

/-- **Both paths move and count the same.**  Whichever path a connection takes, when it ends well
each peer was given exactly what the other one sent, and the counters have grown by the lengths of
the two streams. -/
theorem transferred_exact (stats stats' : ForwarderStats) (t : Transfer)
    (h : Transferred stats t stats') :
    t.toTarget = t.fromClient ∧ t.toClient = t.fromTarget ∧
    stats'.bytesSent = stats.bytesSent + t.fromClient.length ∧
    stats'.bytesReceived = stats.bytesReceived + t.fromTarget.length := by
  cases h with
  | @splice size c2r r2c pipes es c hnew hrun hok =>
    obtain ⟨hsent, hreceived, -, -, hend⟩ := Splice.Connection.run_delivers hnew hrun
    obtain ⟨-, -, hto, hto'⟩ := hend hok
    exact ⟨hto, hto', by rw [hsent, hto], by rw [hreceived, hto']⟩
  | @copy copier size es c hcopier hsize hrun hok =>
    have hc := Connection.counted_of_run hrun
    have hends := hcopier.ends _ _ _ (fun _ => hsize) hc.copied hc.sane hok
    have hall : ∀ side, taken side (calls es) = sent side es := by
      intro side
      rw [← hc.stream side, (hc.ended side (hends side).1).2, List.append_nil]
    have hto : given .target (calls es) = sent .client es := (hends .client).2.trans (hall _)
    have hto' : given .client (calls es) = sent .target es := (hends .target).2.trans (hall _)
    refine ⟨hto, hto', ?_, ?_⟩
    · rw [hc.sent, hall]
    · rw [hc.received, hto']

/-- Two bytes one way and one the other. -/
def exchange : List Event :=
  [.arrive .client [1, 2], .call .client (.read 0 8192 (.ready (.ok [1, 2]))),
    .arrive .target [3], .finish .target, .call .target (.read 0 8192 (.ready (.ok [3]))),
    .call .target (.write [1, 2] (.ready (.ok 2))), .call .client (.write [3] (.ready (.ok 1))),
    .finish .client, .call .client (.read 0 8192 (.ready (.ok []))),
    .call .target (.read 0 8192 (.ready (.ok []))), .call .target (.shutdown (.ready (.ok ()))),
    .call .client (.shutdown (.ready (.ok ())))]

theorem transferred_exact_exchange :
    (∃ stats', Transferred (.withProtocol [] .tcp) ⟨[1, 2], [3], [1, 2], [3]⟩ stats' ∧
      stats'.bytesSent = 2) ∧
    ∃ stats', Transferred (.withProtocol [] .tcp) ⟨[1, 2], [], [1, 2], []⟩ stats' ∧
      stats'.bytesSent = 2 := by
  have hcopy : Transferred (.withProtocol [] .tcp) ⟨[1, 2], [3], [1, 2], [3]⟩ _ :=
    @Transferred.copy _ buffered 8192 exchange _ contract_buffered (by decide) rfl rfl
  have hsplice : Transferred (.withProtocol [] .tcp) ⟨[1, 2], [], [1, 2], []⟩ _ :=
    @Transferred.splice _ 65536 (.ok 65536) (.ok 65536) ⟨65536, 65536, 65536⟩
      Splice.Connection.twoBytes _ (by decide) rfl rfl
  exact ⟨⟨_, hcopy, (transferred_exact _ _ _ hcopy).2.2.1⟩,
    ⟨_, hsplice, (transferred_exact _ _ _ hsplice).2.2.1⟩⟩

end Rfw.Forwarder.Copy
