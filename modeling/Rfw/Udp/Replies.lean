/-
# From the target to a client: one wakeup

A wakeup answers each received buffer until the listener blocks, and the slow path sends the
remainder.  `Replied` is the contract of the functions that answer one buffer, `Drained` the one of
the receive loop: the datagrams received so far are those dealt with, followed by the pending ones.
-/
import Rfw.Udp.Drains
import Rfw.Udp.Session

namespace Rfw.Udp

open Lib

/-! ## What a trace says -/

/-- The datagrams that a session received from the target. -/
def answeredDown (sid : ℕ) (evs : List Event) : List Bytes :=
  evs.flatMap fun
    | .answered i data segment => if i = sid then pieces segment data else []
    | _ => []

/-- The datagrams that the kernel accepted from a session for its client. -/
def repliedDown (sid : ℕ) (evs : List Event) : List Bytes :=
  evs.flatMap fun
    | .replied i _ call => if i = sid then call.out else []
    | _ => []

@[simp] lemma answeredDown_nil (sid : ℕ) : answeredDown sid [] = [] := rfl

@[simp] lemma answeredDown_append (sid : ℕ) (evs evs' : List Event) :
    answeredDown sid (evs ++ evs') = answeredDown sid evs ++ answeredDown sid evs' :=
  List.flatMap_append

@[simp] lemma answeredDown_answered (sid : ℕ) (data : Bytes) (segment : ℕ) (evs : List Event) :
    answeredDown sid (.answered sid data segment :: evs) =
      pieces segment data ++ answeredDown sid evs := by
  simp [answeredDown]

@[simp] lemma answeredDown_replied (sid i : ℕ) (client : SocketAddr) (cs : List Call) :
    answeredDown sid (cs.map (.replied i client)) = [] := by
  simp [answeredDown, List.flatMap_map]

@[simp] lemma repliedDown_nil (sid : ℕ) : repliedDown sid [] = [] := rfl

@[simp] lemma repliedDown_append (sid : ℕ) (evs evs' : List Event) :
    repliedDown sid (evs ++ evs') = repliedDown sid evs ++ repliedDown sid evs' :=
  List.flatMap_append

@[simp] lemma repliedDown_answered (sid i : ℕ) (data : Bytes) (segment : ℕ) (evs : List Event) :
    repliedDown sid (.answered i data segment :: evs) = repliedDown sid evs := by
  simp [repliedDown]

@[simp] lemma repliedDown_replied (sid : ℕ) (client : SocketAddr) (cs : List Call) :
    repliedDown sid (cs.map (.replied sid client)) = outOf cs := by
  simp [repliedDown, outOf, List.flatMap_map]

/-! ## One buffer -/

/-- The datagrams that the slow path is handed. -/
def pendingPieces : Option Pending → List Bytes
  | none => []
  | some p => pieces p.segment p.data

/-- The contract of the functions that answer a buffer of the datagrams `ps`, with the sends `cs`:
the first ones, `handled`, were accepted or dropped, and the others are pending. -/
structure Replied (sid : ℕ) (ps : List Bytes) (cs : List Call) (pending : Option Pending)
    (t t' : Turn) : Prop where
  rest : t'.toEngine = { t.toEngine with off := t'.off, trace := t'.trace }
  off : ∃ gsoOk, t'.off = { t.off with gsoOk }
  trace : t'.trace = t.trace ++ cs.map (.replied sid (t.heap sid).client)
  split : ∃ handled, ps = handled ++ pendingPieces pending ∧ (outOf cs).Sublist handled ∧
    t'.batch.dropped + (outOf cs).length = t.batch.dropped + handled.length
  datagrams : t'.batch.datagrams = t.batch.datagrams + (outOf cs).length
  bytes : t'.batch.bytes = t.batch.bytes + payload (outOf cs)

namespace Replied

variable {sid : ℕ} {ps ps' : List Bytes} {cs cs' : List Call} {pending : Option Pending}
  {t t' t'' : Turn}

lemma heap_eq (h : Replied sid ps cs pending t t') : t'.heap = t.heap := by rw [h.rest]

lemma stats_eq (h : Replied sid ps cs pending t t') : t'.stats = t.stats := by rw [h.rest]

/-- A buffer dealt with, followed by another one. -/
lemma trans (h : Replied sid ps cs none t t') (h' : Replied sid ps' cs' pending t' t'') :
    Replied sid (ps ++ ps') (cs ++ cs') pending t t'' where
  rest := by rw [h'.rest, h.rest]
  off := by
    obtain ⟨gsoOk, hoff⟩ := h.off
    obtain ⟨gsoOk', hoff'⟩ := h'.off
    exact ⟨gsoOk', by rw [hoff', hoff]⟩
  trace := by rw [h'.trace, h.trace, h.heap_eq, List.map_append, List.append_assoc]
  split := by
    obtain ⟨handled, hps, hsub, hdropped⟩ := h.split
    obtain ⟨handled', hps', hsub', hdropped'⟩ := h'.split
    refine ⟨handled ++ handled', ?_, ?_, ?_⟩
    · simp [hps, hps', pendingPieces]
    · rw [outOf_append]
      exact hsub.append hsub'
    · simp only [outOf_append, List.length_append]
      omega
  datagrams := by rw [h'.datagrams, h.datagrams, outOf_append, List.length_append]; omega
  bytes := by rw [h'.bytes, h.bytes, outOf_append, payload_append]; omega

end Replied

/-- The sends of a session to its client, seen from the turn that made them. -/
def Turn.repliedBy (t : Turn) (sid : ℕ) (cs : List Call) : Engine :=
  t.logAll (cs.map (.replied sid (t.heap sid).client))

lemma sendTo_of_ok {k : Kernel} {sid segment : ℕ} {e : Engine} {data : Bytes}
    (h : k.sendTo e.trace (e.heap sid).client data segment = .ok ()) :
    sendTo k sid e data segment =
      (.ok (), e.logAll [.replied sid (e.heap sid).client ⟨data, segment, true⟩]) := by
  simp only [sendTo, Engine.call, h]
  rfl

lemma sendTo_of_error {k : Kernel} {sid segment : ℕ} {e : Engine} {data : Bytes} {err : IoError}
    (h : k.sendTo e.trace (e.heap sid).client data segment = .error err) :
    sendTo k sid e data segment =
      (.error err, e.logAll [.replied sid (e.heap sid).client ⟨data, segment, false⟩]) := by
  simp only [sendTo, Engine.call, h]
  rfl

section Reply

variable (k : Kernel) (sid : ℕ) (t : Turn)

/-- Counting what was accepted meets the contract. -/
lemma replied_accept (cs : List Call) (n bytes : ℕ) (hn : n = (outOf cs).length)
    (hbytes : bytes = payload (outOf cs)) :
    Replied sid (outOf cs) cs none t { t.accept n bytes with toEngine := t.repliedBy sid cs } := by
  subst hn hbytes
  exact {
    rest := rfl
    off := ⟨t.off.gsoOk, rfl⟩
    trace := rfl
    split := ⟨outOf cs, by simp [pendingPieces], List.Sublist.refl _, rfl⟩
    datagrams := rfl
    bytes := rfl }

/-- Counting datagrams as dropped after failed sends meets the contract. -/
lemma replied_drop (ps : List Bytes) (cs : List Call) (n : ℕ) (hn : n = ps.length)
    (hout : outOf cs = []) :
    Replied sid ps cs none t { t.drop n with toEngine := t.repliedBy sid cs } := by
  subst hn
  exact {
    rest := rfl
    off := ⟨t.off.gsoOk, rfl⟩
    trace := rfl
    split := ⟨ps, by simp [pendingPieces], by simp [hout], by simp [hout, Turn.drop]⟩
    datagrams := by simp [hout, Turn.drop]
    bytes := by simp [hout, Turn.drop] }

/-- Leaving datagrams pending after failed sends meets the contract. -/
lemma replied_block (p : Pending) (cs : List Call) (hout : outOf cs = []) :
    Replied sid (pieces p.segment p.data) cs (some p) t
      { t with toEngine := t.repliedBy sid cs } where
  rest := rfl
  off := ⟨t.off.gsoOk, rfl⟩
  trace := rfl
  split := ⟨[], rfl, by simp [hout], by simp [hout]⟩
  datagrams := by simp [hout]
  bytes := by simp [hout]

/-- A buffer of one datagram is answered. -/
lemma replied_replyOne (data : Bytes) :
    ∃ cs, Replied sid [data] cs (replyOne k sid data t).1 t (replyOne k sid data t).2 := by
  rcases hsend : k.sendTo t.trace (t.heap sid).client data 0 with err | ⟨⟩
  · simp only [replyOne, sendTo_of_error hsend]
    split
    · have h := replied_block sid t ⟨data, 0⟩ [⟨data, 0, false⟩] (by simp)
      rw [pieces_zero] at h
      exact ⟨_, h⟩
    · exact ⟨_, replied_drop sid t [data] [⟨data, 0, false⟩] 1 rfl (by simp)⟩
  · simp only [replyOne, sendTo_of_ok hsend]
    exact ⟨_, replied_accept sid t [⟨data, 0, true⟩] 1 data.length rfl rfl⟩

lemma pieces_of_ne_nil {segment : ℕ} (hs : 0 < segment) {data : Bytes} (hdata : data ≠ []) :
    pieces segment data = chunks segment data := by
  by_cases h : segment < data.length
  · exact pieces_of_coalesced (isCoalesced_iff.mpr ⟨hs, h⟩)
  · rw [pieces_of_not_coalesced (by simp [isCoalesced, h]),
      chunks_of_length_le hdata (by omega)]

/-- The pieces of a burst are answered one by one; the rest of it is pending when the listener
blocks. -/
lemma replied_replyPieces {segment : ℕ} (hs : 0 < segment) (rest : Bytes) :
    ∃ cs, Replied sid (chunks segment rest) cs
      (replyPieces k sid segment (chunks segment rest) rest t).1 t
      (replyPieces k sid segment (chunks segment rest) rest t).2 := by
  induction rest using chunks_induction hs generalizing t with
  | nil =>
    have h := replied_accept sid t [] 0 0 rfl rfl
    simp only [chunks_nil, replyPieces]
    exact ⟨[], by simpa [Turn.repliedBy, Turn.accept] using h⟩
  | step rest hrest ih =>
    have hdrop : rest.drop (rest.take segment).length = rest.drop segment := by
      rw [List.length_take]
      rcases le_total segment rest.length with h | h
      · rw [Nat.min_eq_left h]
      · rw [Nat.min_eq_right h, List.drop_length, List.drop_of_length_le h]
    rw [chunks_of_ne_nil hs hrest, replyPieces, hdrop]
    rcases hsend : k.sendTo t.trace (t.heap sid).client (rest.take segment) 0 with err | ⟨⟩
    · simp only [sendTo_of_error hsend]
      split
      · -- the slow path cuts the rest by the same segment, so it starts with this piece
        have h := replied_block sid t ⟨rest, segment⟩ [⟨rest.take segment, 0, false⟩] (by simp)
        rw [pieces_of_ne_nil hs hrest, chunks_of_ne_nil hs hrest] at h
        exact ⟨_, h⟩
      · have h := replied_drop sid t [rest.take segment] [⟨rest.take segment, 0, false⟩] 1 rfl
          (by simp)
        obtain ⟨cs, h'⟩ := ih { t.drop 1 with
          toEngine := t.repliedBy sid [⟨rest.take segment, 0, false⟩] }
        exact ⟨_, h.trans h'⟩
    · simp only [sendTo_of_ok hsend]
      have h := replied_accept sid t [⟨rest.take segment, 0, true⟩] 1 (rest.take segment).length rfl
        (by simp)
      obtain ⟨cs, h'⟩ := ih { t.accept 1 (rest.take segment).length with
        toEngine := t.repliedBy sid [⟨rest.take segment, 0, true⟩] }
      exact ⟨_, h.trans h'⟩

/-- Giving up offload on the listener. -/
lemma replied_gsoOff :
    Replied sid [] [] none t { t with off := { t.off with gsoOk := false } } where
  rest := rfl
  off := ⟨false, rfl⟩
  trace := by simp
  split := ⟨[], rfl, .slnil, rfl⟩
  datagrams := rfl
  bytes := rfl

/-- A burst is answered. -/
lemma replied_replyCoalesced {data : Bytes} {segment : ℕ}
    (hburst : isCoalesced data.length segment = true) :
    ∃ cs, Replied sid (pieces segment data) cs (replyCoalesced k sid data segment t).1 t
      (replyCoalesced k sid data segment t).2 := by
  obtain ⟨hs, hlen⟩ := isCoalesced_iff.mp hburst
  have hdata : data ≠ [] := List.length_pos_iff.mp (by omega)
  rw [pieces_of_coalesced hburst, replyCoalesced]
  by_cases hgso : t.off.gsoOk
  swap
  · rw [if_neg hgso]
    exact replied_replyPieces k sid t hs data
  rw [if_pos hgso]
  have hcall : ∀ evs data seg, sendTo k sid (t.logAll evs) data seg =
      (t.logAll evs).call (fun trace => k.sendTo trace (t.heap sid).client)
        (.replied sid (t.heap sid).client) data seg := fun _ _ _ => rfl
  rcases hr : sendChunks (sendTo k sid) data segment t.toEngine with ⟨_ | ⟨off, err⟩, e⟩
  · obtain ⟨cs, rfl, hout, -⟩ := sent_sendChunks hs hcall hr
    have h := replied_accept sid t cs (segments data.length segment) data.length
      (by rw [hout, ← length_pieces, pieces_of_coalesced hburst])
      (by rw [hout, payload_chunks hs])
    rw [hout] at h
    exact ⟨cs, h⟩
  · obtain ⟨hoff, hdvd, ⟨cs, rfl, hout, -⟩, -⟩ := stopped_sendChunks hs hcall hdata hr
    have hrest : data.drop off ≠ [] := by
      apply List.length_pos_iff.mp
      rw [List.length_drop]
      omega
    -- first the datagrams in front of the offset are counted, then the others are dealt with
    have h := replied_accept sid t cs (off / segment) off
      (by rw [hout, length_chunks_take hs hdvd hoff]) (by rw [hout, payload_chunks_take hs hoff])
    rw [chunks_split hs hdvd hoff, ← hout]
    dsimp only
    split
    · -- the listener blocked inside the chunks
      have h' := replied_block sid
        { t.accept (off / segment) off with toEngine := t.repliedBy sid cs }
        ⟨data.drop off, segment⟩ [] rfl
      rw [pieces_of_ne_nil hs hrest] at h'
      exact ⟨cs ++ [], h.trans (by simpa [Turn.repliedBy, Turn.accept] using h')⟩
    · split
      · -- a hard error drops the rest of the burst
        have h' := replied_drop sid
          { t.accept (off / segment) off with toEngine := t.repliedBy sid cs }
          (chunks segment (data.drop off)) [] (segments (data.length - off) segment)
          (by rw [← List.length_drop, ← length_pieces, pieces_of_ne_nil hs hrest]) rfl
        exact ⟨cs ++ [], h.trans (by simpa [Turn.repliedBy, Turn.accept, Turn.drop] using h')⟩
      · -- a fallback error splits the rest here
        obtain ⟨cs', h'⟩ := replied_replyPieces k sid
          { t.accept (off / segment) off with
            toEngine := { t.repliedBy sid cs with off := { t.off with gsoOk := false } } }
          hs (data.drop off)
        exact ⟨cs ++ ([] ++ cs'), h.trans ((replied_gsoOff sid _).trans h')⟩

end Reply

/-! ## The receive loop -/

/-- The remainder that a drain hands to the slow path. -/
def SessionDrain.pending : SessionDrain → Option Pending
  | .blocked p => some p
  | .idle | .full | .dead => none

/-- Going on after one receive, or stopping at a blocked reply. -/
def SessionDrain.ofPending : Option Pending → SessionDrain
  | some p => .blocked p
  | none => .idle

/-- The contract of a part of the receive loop that ends with `outcome`: its trace grew by `evs`,
and the datagrams received in it are those dealt with, followed by the pending ones. -/
structure Drained (sid : ℕ) (evs : List Event) (outcome : SessionDrain) (t t' : Turn) : Prop where
  trace : t'.trace = t.trace ++ evs
  events : ∀ ev ∈ evs, (∃ data segment, ev = .answered sid data segment) ∨
    ∃ call, ev = .replied sid (t.heap sid).client call
  split : ∃ handled, answeredDown sid evs = handled ++ pendingPieces outcome.pending ∧
    (repliedDown sid evs).Sublist handled ∧
    t'.batch.dropped + (repliedDown sid evs).length = t.batch.dropped + handled.length
  datagrams : t'.batch.datagrams = t.batch.datagrams + (repliedDown sid evs).length
  bytes : t'.batch.bytes = t.batch.bytes + payload (repliedDown sid evs)
  stats : quiet t'.stats = quiet t.stats
  heap : t'.heap = Function.update t.heap sid
    { t.heap sid with dead := (t.heap sid).dead || decide (outcome = .dead) }
  off : ∃ gsoOk, t'.off = { t.off with gsoOk }
  rest : t'.toEngine =
    { t.toEngine with stats := t'.stats, off := t'.off, heap := t'.heap, trace := t'.trace }

namespace Drained

variable {sid : ℕ} {evs evs' : List Event} {outcome : SessionDrain} {t t' t'' : Turn}

/-- Nothing was received, and at most evidence was left. -/
lemma quiet_stop (sid : ℕ) (t : Turn) (outcome : SessionDrain) (stats : ForwarderStats)
    (hpending : outcome.pending = none) (hstats : quiet stats = quiet t.stats) :
    Drained sid [] outcome t
      { t with
        stats
        heap := Function.update t.heap sid
          { t.heap sid with dead := (t.heap sid).dead || decide (outcome = .dead) } } where
  trace := by simp
  events := by simp
  split := ⟨[], by simp [hpending, pendingPieces], by simp, rfl⟩
  datagrams := rfl
  bytes := rfl
  stats := hstats
  heap := rfl
  off := ⟨t.off.gsoOk, rfl⟩
  rest := rfl

lemma stop (h : outcome = .idle ∨ outcome = .full) : Drained sid [] outcome t t := by
  rcases h with rfl | rfl
  · simpa using quiet_stop sid t .idle t.stats rfl rfl
  · simpa using quiet_stop sid t .full t.stats rfl rfl

/-- The loop goes on after a part that neither blocks nor fails. -/
lemma trans (h : Drained sid evs .idle t t') (h' : Drained sid evs' outcome t' t'') :
    Drained sid (evs ++ evs') outcome t t'' where
  trace := by rw [h'.trace, h.trace, List.append_assoc]
  events := by
    refine List.forall_mem_append.mpr ⟨h.events, ?_⟩
    have hclient : (t'.heap sid).client = (t.heap sid).client := by simp [h.heap]
    rw [← hclient]
    exact h'.events
  split := by
    obtain ⟨handled, hps, hsub, hdropped⟩ := h.split
    obtain ⟨handled', hps', hsub', hdropped'⟩ := h'.split
    refine ⟨handled ++ handled', ?_, ?_, ?_⟩
    · simp [hps, hps', pendingPieces, SessionDrain.pending]
    · rw [repliedDown_append]
      exact hsub.append hsub'
    · simp only [repliedDown_append, List.length_append]
      omega
  datagrams := by rw [h'.datagrams, h.datagrams, repliedDown_append, List.length_append]; omega
  bytes := by rw [h'.bytes, h.bytes, repliedDown_append, payload_append]; omega
  stats := h'.stats.trans h.stats
  heap := by rw [h'.heap, h.heap]; simp
  off := by
    obtain ⟨gsoOk, hoff⟩ := h.off
    obtain ⟨gsoOk', hoff'⟩ := h'.off
    exact ⟨gsoOk', by rw [hoff', hoff]⟩
  rest := by rw [h'.rest, h.rest]

end Drained

/-- An answered buffer, together with its receive, is a part of the loop. -/
lemma Replied.drained {sid : ℕ} {data : Bytes} {segment : ℕ} {cs : List Call}
    {pending : Option Pending} {t t' : Turn}
    (h : Replied sid (pieces segment data) cs pending
      (t.onEngine (·.log (.answered sid data segment))) t') :
    Drained sid (.answered sid data segment :: cs.map (.replied sid (t.heap sid).client))
      (.ofPending pending) t t' where
  trace := by simp [h.trace, Turn.onEngine, Engine.log]
  events := by
    simp only [List.forall_mem_cons, List.forall_mem_map]
    exact ⟨.inl ⟨data, segment, rfl⟩, fun call _ => .inr ⟨call, rfl⟩⟩
  split := by
    have hpending : (SessionDrain.ofPending pending).pending = pending := by
      cases pending <;> rfl
    simpa [hpending, Turn.onEngine] using h.split
  datagrams := by simpa [Turn.onEngine] using h.datagrams
  bytes := by simpa [Turn.onEngine] using h.bytes
  stats := by rw [h.stats_eq]; rfl
  heap := by
    have hdead : decide (SessionDrain.ofPending pending = .dead) = false := by
      cases pending <;> simp [SessionDrain.ofPending]
    rw [h.heap_eq]
    simp [hdead, Turn.onEngine, Engine.log]
  off := h.off
  rest := by rw [h.rest]; rfl

section Loop

variable {ρ : Type*} {sid : ℕ} {reply : ρ → Turn → Option Pending × Turn}
  {datagrams carried : ρ → List Bytes}

/-- A loop that ends with `outcome` took the datagrams `got` of the receives on offer: those of all
of them, or those up to the receive whose answer blocked, which the remainder is the end of. -/
def Took (datagrams : ρ → List Bytes) (offered : List ρ) (outcome : SessionDrain)
    (got : List Bytes) : Prop :=
  ∃ taken left, offered = taken ++ left ∧ got = taken.flatMap datagrams ∧
    match outcome with
    | .blocked p => ∃ before r, taken = before ++ [r] ∧ pieces p.segment p.data <:+ datagrams r
    | .idle | .full | .dead => left = []

lemma Took.cons {offered : List ρ} {outcome : SessionDrain} {got : List Bytes}
    (h : Took datagrams offered outcome got) (r : ρ) :
    Took datagrams (r :: offered) outcome (datagrams r ++ got) := by
  obtain ⟨taken, left, hoffered, hgot, hend⟩ := h
  refine ⟨r :: taken, left, by rw [hoffered, List.cons_append],
    by rw [hgot, List.flatMap_cons], ?_⟩
  cases outcome with
  | blocked p =>
    obtain ⟨before, last, htaken, hsuffix⟩ := hend
    exact ⟨r :: before, last, by rw [htaken, List.cons_append], hsuffix⟩
  | idle | full | dead => exact hend

/-- What was taken of the values of some receives was taken of the receives. -/
lemma Took.of_map {σ : Type*} {f : σ → ρ} {offered : List σ} {outcome : SessionDrain}
    {got : List Bytes} (h : Took datagrams (offered.map f) outcome got) :
    Took (fun r => datagrams (f r)) offered outcome got := by
  obtain ⟨taken, left, hoffered, hgot, hend⟩ := h
  obtain ⟨taken, left, rfl, rfl, rfl⟩ := List.map_eq_append_iff.mp hoffered
  refine ⟨taken, left, rfl, by rw [hgot, List.flatMap_map], ?_⟩
  cases outcome with
  | blocked p =>
    obtain ⟨before, last, htaken, hsuffix⟩ := hend
    obtain ⟨before, rest, rfl, rfl, hrest⟩ := List.map_eq_append_iff.mp htaken
    obtain ⟨r, rfl, rfl⟩ := List.map_eq_singleton_iff.mp hrest
    exact ⟨before, r, rfl, hsuffix⟩
  | idle | full | dead => exact List.map_eq_nil_iff.mp hend

lemma took_nil {outcome : SessionDrain} (h : outcome.pending = none) :
    Took datagrams [] outcome [] := by
  refine ⟨[], [], rfl, rfl, ?_⟩
  cases outcome with
  | blocked p => cases h
  | idle | full | dead => rfl

/-- What each receive deals with, the loop deals with, up to where it stops; what it sends or
leaves pending is among what it carries. -/
lemma answerLoop_drained (nowMs : ℕ)
    (hreply : ∀ r t, ∃ evs, Drained sid evs (.ofPending (reply r t).1) t (reply r t).2 ∧
      answeredDown sid evs = datagrams r ∧
      (repliedDown sid evs ++ pendingPieces (reply r t).1).Sublist (carried r))
    (n : ℕ) (rs : List (Except IoError ρ)) (d : ReplyTurn) :
    ∃ evs, Drained sid evs (answerLoop sid nowMs reply n rs d).1 d.toTurn
        (answerLoop sid nowMs reply n rs d).2.toTurn ∧
      Took datagrams (receipts n rs) (answerLoop sid nowMs reply n rs d).1 (answeredDown sid evs) ∧
      (repliedDown sid evs ++ pendingPieces (answerLoop sid nowMs reply n rs d).1.pending).Sublist
        ((rs.filterMap Except.toOption).flatMap carried) := by
  induction n generalizing rs d with
  | zero => exact ⟨[], .stop (.inr rfl), took_nil rfl, List.nil_sublist _⟩
  | succ n ih =>
    rcases rs with _ | ⟨err | r, rs⟩
    · exact ⟨[], .stop (.inl rfl), took_nil rfl, List.nil_sublist _⟩
    · -- an error is no datagram; it ends the loop or leaves evidence
      have hskip : (Except.error err :: rs).filterMap (fun r => r.toOption) =
          rs.filterMap Except.toOption := rfl
      rw [hskip]
      cases hclass : classifyUdpErr err with
      | wouldBlock =>
        simp only [answerLoop, receipts, hclass]
        exact ⟨[], .stop (.inl rfl), took_nil rfl, List.nil_sublist _⟩
      | transient =>
        simp only [answerLoop, receipts, hclass]
        exact ih rs d
      | icmp kind =>
        simp only [answerLoop, receipts, hclass]
        obtain ⟨evs, h, hrest⟩ := ih rs
          { d with stats := d.stats.markUdpIcmpError nowMs kind }
        have hnote := Drained.quiet_stop sid d.toTurn .idle
          (d.stats.markUdpIcmpError nowMs kind) rfl rfl
        exact ⟨[] ++ evs, Drained.trans (by simpa using hnote) h, hrest⟩
      | fatal =>
        simp only [answerLoop, receipts, hclass]
        have hdead := Drained.quiet_stop sid d.toTurn .dead d.stats rfl rfl
        exact ⟨[], by simpa [Turn.onEngine, Engine.modify] using hdead, took_nil rfl,
          List.nil_sublist _⟩
    · obtain ⟨evs, hr, hdatagrams, hcarried⟩ := hreply r d.toTurn
      simp only [answerLoop, receipts, List.filterMap_cons, Except.toOption, List.flatMap_cons]
      rcases hpending : reply r d.toTurn with ⟨_ | p, t⟩
      · -- the loop goes on: both accounts are concatenated
        rw [hpending] at hr hcarried
        obtain ⟨evs', h, hfirst, hsub⟩ := ih rs { toTurn := t, replied := true }
        refine ⟨evs ++ evs', hr.trans h, ?_, ?_⟩
        · rw [answeredDown_append, hdatagrams]
          exact hfirst.cons r
        · rw [repliedDown_append, List.append_assoc]
          exact List.Sublist.append (by simpa [pendingPieces] using hcarried) hsub
      · -- a blocked reply ends the drain with results left over
        rw [hpending] at hr hcarried
        obtain ⟨handled, hsplit, -⟩ := hr.split
        refine ⟨evs, hr, ?_, ?_⟩
        · refine ⟨[r], receipts n rs, rfl, by simp [hdatagrams], [], r, rfl, handled, ?_⟩
          rw [← hdatagrams]
          exact hsplit.symm
        · exact hcarried.trans (List.sublist_append_left _ _)

end Loop

/-- What a part of the loop sent or left pending is among what it received. -/
lemma Drained.sublist {sid : ℕ} {evs : List Event} {outcome : SessionDrain} {t t' : Turn}
    (h : Drained sid evs outcome t t') :
    (repliedDown sid evs ++ pendingPieces outcome.pending).Sublist (answeredDown sid evs) := by
  obtain ⟨handled, hsplit, hsub, -⟩ := h.split
  rw [hsplit]
  exact hsub.append (List.Sublist.refl _)

/-- An answered buffer as the loop sees it. -/
lemma Replied.answered {sid : ℕ} {data : Bytes} {segment : ℕ} {cs : List Call}
    {pending : Option Pending} {t t' : Turn}
    (h : Replied sid (pieces segment data) cs pending
      (t.onEngine (·.log (.answered sid data segment))) t') :
    ∃ evs, Drained sid evs (.ofPending pending) t t' ∧
      answeredDown sid evs = pieces segment data ∧
      (repliedDown sid evs ++ pendingPieces pending).Sublist (pieces segment data) := by
  have hpending : (SessionDrain.ofPending pending).pending = pending := by
    cases pending <;> rfl
  have hsub := h.drained.sublist
  rw [hpending] at hsub
  exact ⟨_, h.drained, by simp, by simpa using hsub⟩

/-- The datagrams that one receive can pass on: none of a truncated buffer, and a plain receive
takes the bytes for one datagram. -/
def Recv.carried (gro : Bool) (r : Recv) : List Bytes :=
  if gro then if r.truncated then [] else pieces r.segment r.data else [r.data]

lemma answerPlain_drained (k : Kernel) (sid : ℕ) (data : Bytes) (t : Turn) :
    ∃ evs, Drained sid evs (.ofPending (answerPlain k sid data t).1) t
        (answerPlain k sid data t).2 ∧ answeredDown sid evs = [data] ∧
      (repliedDown sid evs ++ pendingPieces (answerPlain k sid data t).1).Sublist [data] := by
  obtain ⟨cs, h⟩ := replied_replyOne k sid (t.onEngine (·.log (.answered sid data 0))) data
  rw [← pieces_zero data] at h ⊢
  exact h.answered

lemma answerGro_drained (k : Kernel) (sid : ℕ) (r : Recv) (t : Turn) :
    ∃ evs, Drained sid evs (.ofPending (answerGro k sid r t).1) t (answerGro k sid r t).2 ∧
      answeredDown sid evs = pieces r.segment r.data ∧
      (repliedDown sid evs ++ pendingPieces (answerGro k sid r t).1).Sublist (r.carried true) := by
  simp only [answerGro, Recv.carried, if_true]
  split
  · -- a truncated buffer is dropped whole
    have h := replied_drop sid (t.onEngine (·.log (.answered sid r.data r.segment)))
      (pieces r.segment r.data) [] (segments r.data.length r.segment)
      (length_pieces _ _).symm rfl
    exact ⟨_, by simpa [Turn.repliedBy, Turn.drop] using h.drained, by simp,
      by simp [repliedDown, pendingPieces]⟩
  · split
    · rename_i hsingle
      obtain ⟨cs, h⟩ := replied_replyOne k sid
        (t.onEngine (·.log (.answered sid r.data r.segment))) r.data
      rw [← pieces_of_not_coalesced (by simpa using hsingle)] at h
      exact h.answered
    · rename_i hburst
      obtain ⟨cs, h⟩ := replied_replyCoalesced k sid
        (t.onEngine (·.log (.answered sid r.data r.segment))) (by simpa using hburst)
      exact h.answered

/-! ## One wakeup -/

/-- The datagrams of a buffer that a session's socket handed over: a plain receive takes the bytes
for one datagram. -/
def Recv.answers (gro : Bool) (r : Recv) : List Bytes :=
  pieces (if gro then r.segment else 0) r.data

/-- How far the accounts of a session moved: `out` was accepted and `dropped` datagrams were
dropped. -/
structure Booked (sid : ℕ) (out : List Bytes) (dropped : ℕ) (e e' : Engine) : Prop where
  received : e'.stats.datagramsReceived = e.stats.datagramsReceived + out.length
  bytes : e'.stats.bytesReceived = e.stats.bytesReceived + payload out
  rx : (e'.heap sid).rxDatagrams = (e.heap sid).rxDatagrams + out.length
  dropped : e'.stats.datagramsDropped = e.stats.datagramsDropped + dropped

lemma Booked.trans {sid : ℕ} {out out' : List Bytes} {dropped dropped' : ℕ} {e e' e'' : Engine}
    (h : Booked sid out dropped e e') (h' : Booked sid out' dropped' e' e'') :
    Booked sid (out ++ out') (dropped + dropped') e e'' where
  received := by rw [h'.received, h.received, List.length_append]; omega
  bytes := by rw [h'.bytes, h.bytes, payload_append]; omega
  rx := by rw [h'.rx, h.rx, List.length_append]; omega
  dropped := by rw [h'.dropped, h.dropped]; omega

/-- The flush books the batch and stamps the session if something was received. -/
lemma flushReceived_spec (sid nowMs : ℕ) (d : ReplyTurn)
    (hzero : d.batch.datagrams = 0 → d.batch.bytes = 0) :
    ∃ stats, flushReceived sid nowMs d =
        { d.toEngine with
          stats
          heap := Function.update d.heap sid
            { d.heap sid with
              lastActivityMs :=
                if d.replied then max (d.heap sid).lastActivityMs nowMs
                else (d.heap sid).lastActivityMs
              rxDatagrams := (d.heap sid).rxDatagrams + d.batch.datagrams } } ∧
      stats.datagramsReceived = d.stats.datagramsReceived + d.batch.datagrams ∧
      stats.bytesReceived = d.stats.bytesReceived + d.batch.bytes ∧
      stats.datagramsDropped = d.stats.datagramsDropped + d.batch.dropped ∧
      stats.activeConnections = d.stats.activeConnections := by
  have hok : ∀ s : ForwarderStats, (s.markConnectOkAt nowMs).datagramsReceived =
      s.datagramsReceived ∧ (s.markConnectOkAt nowMs).bytesReceived = s.bytesReceived ∧
      (s.markConnectOkAt nowMs).datagramsDropped = s.datagramsDropped ∧
      (s.markConnectOkAt nowMs).activeConnections = s.activeConnections := by
    intro s
    simp only [ForwarderStats.markConnectOkAt]
    split <;> simp
  rcases d with ⟨⟨e, batch⟩, replied⟩
  simp only at hzero
  refine ⟨(flushReceived sid nowMs ⟨⟨e, batch⟩, replied⟩).stats, ?_⟩
  simp only [flushReceived, Engine.modify, touch_eq]
  -- the counters are only touched when there is something to add
  by_cases hn : 0 < batch.datagrams
  · rw [if_pos hn]
    cases replied <;> by_cases hx : 0 < batch.dropped <;>
      simp [hx, hok, ForwarderStats.addReceived, ForwarderStats.addDatagramsReceived,
        ForwarderStats.addDatagramsDropped] <;> omega
  · have hn0 : batch.datagrams = 0 := by omega
    rw [if_neg hn]
    cases replied <;> by_cases hx : 0 < batch.dropped <;>
      simp [hn0, hzero hn0, hx, hok, ForwarderStats.addDatagramsDropped] <;> omega

/-- The flush leaves the trace and the offload alone. -/
lemma flushReceived_rest (sid nowMs : ℕ) (d : ReplyTurn) :
    (flushReceived sid nowMs d).trace = d.trace ∧ (flushReceived sid nowMs d).off = d.off := by
  simp only [flushReceived]
  split <;> split <;> split <;> exact ⟨rfl, rfl⟩

/-- A drain that accepted no datagram accepted no bytes. -/
lemma Drained.bytes_eq_zero {sid : ℕ} {evs : List Event} {outcome : SessionDrain} {e : Engine}
    {t : Turn} (h : Drained sid evs outcome { e with batch := {} } t)
    (hzero : t.batch.datagrams = 0) : t.batch.bytes = 0 := by
  have hn := h.datagrams
  have hb := h.bytes
  simp only [Nat.zero_add] at hn hb
  rw [hb, List.eq_nil_of_length_eq_zero (hn.symm.trans hzero), payload_nil]

/-- The results of a sequence of receives, seen through a function. -/
lemma filterMap_toOption_map {α β : Type*} (f : α → β) (rs : List (Except IoError α)) :
    (rs.map (·.map f)).filterMap Except.toOption = (rs.filterMap Except.toOption).map f := by
  induction rs with
  | nil => rfl
  | cons r rs ih =>
    cases r with
    | error err => simpa [List.filterMap_cons, Except.toOption, Except.map] using ih
    | ok a => simpa [List.filterMap_cons, Except.toOption, Except.map] using ih

/-- A drain of a session, with the accounts it leaves. -/
lemma drainSession_drained (k : Kernel) (nowMs : ℕ) (rs : List (Except IoError Recv)) (sid : ℕ)
    (e : Engine) :
    ∃ evs d, Drained sid evs (drainSession k nowMs rs sid e).1 { e with batch := {} } d.toTurn ∧
      (drainSession k nowMs rs sid e).2 = flushReceived sid nowMs d ∧
      Took (Recv.answers (e.heap sid).gro) (receipts sessionBatch rs)
        (drainSession k nowMs rs sid e).1 (answeredDown sid evs) ∧
      (repliedDown sid evs ++ pendingPieces (drainSession k nowMs rs sid e).1.pending).Sublist
        ((rs.filterMap Except.toOption).flatMap (Recv.carried (e.heap sid).gro)) := by
  rw [drainSession]
  by_cases hgro : (e.heap sid).gro
  · obtain ⟨evs, h, hfirst, hsub⟩ := answerLoop_drained nowMs (answerGro_drained k sid)
      sessionBatch rs { e with batch := {}, replied := false }
    rw [if_pos hgro]
    refine ⟨evs, _, h, rfl, ?_, ?_⟩
    · rw [hgro]
      exact hfirst
    · rw [hgro]
      exact hsub
  · obtain ⟨evs, h, hfirst, hsub⟩ := answerLoop_drained nowMs (answerPlain_drained k sid)
      sessionBatch (rs.map (·.map Recv.data)) { e with batch := {}, replied := false }
    rw [if_neg hgro]
    have hplain : (fun r : Recv => [r.data]) = Recv.answers false :=
      funext fun r => (pieces_zero r.data).symm
    rw [filterMap_toOption_map, List.flatMap_map] at hsub
    rw [receipts_map] at hfirst
    refine ⟨evs, _, h, rfl, ?_, ?_⟩
    · rw [Bool.eq_false_iff.mpr hgro, ← hplain]
      exact hfirst.of_map
    · rw [Bool.eq_false_iff.mpr hgro]
      exact hsub

/-- The counters of a drain: what it accepted and what it dropped. -/
lemma flushReceived_booked (nowMs : ℕ) {sid : ℕ} {e : Engine} {evs : List Event} {d : ReplyTurn}
    {outcome : SessionDrain}
    (h : Drained sid evs outcome { e with batch := {} } d.toTurn) :
    Booked sid (repliedDown sid evs) d.batch.dropped e (flushReceived sid nowMs d) := by
  have hn := h.datagrams
  have hb := h.bytes
  simp only [Nat.zero_add] at hn hb
  obtain ⟨stats, heq, hreceived, hbytes, hdropped, -⟩ :=
    flushReceived_spec sid nowMs d h.bytes_eq_zero
  have hquiet := h.stats
  have h₁ := congrArg ForwarderStats.datagramsReceived hquiet
  have h₂ := congrArg ForwarderStats.bytesReceived hquiet
  have h₃ := congrArg ForwarderStats.datagramsDropped hquiet
  simp only [quiet] at h₁ h₂ h₃
  rw [heq]
  exact {
    received := by simp only [hreceived, h₁, hn]
    bytes := by simp only [hbytes, h₂, hb]
    rx := by simp [h.heap, hn]
    dropped := by simp only [hdropped, h₃] }

/-- The task's own state is outside the accounts. -/
lemma setTask_booked (sid : ℕ) (task : Task) (e : Engine) :
    Booked sid [] 0 e (e.setTask sid task) where
  received := rfl
  bytes := rfl
  rx := by simp [Engine.setTask, Engine.modify]
  dropped := rfl

/-- A task that ends leaves the accounts and the trace alone. -/
lemma endTask_booked (sid : ℕ) (e : Engine) :
    Booked sid [] 0 e (e.endTask sid) ∧ (e.endTask sid).trace = e.trace := by
  obtain ⟨activeConnections, udpLimit, heap, heq, hheap⟩ :=
    dropShared_spec (e.setTask sid .ended) sid
  rw [Engine.endTask, heq]
  have hrx := congrArg SessionShared.rxDatagrams (hheap sid)
  refine ⟨⟨rfl, rfl, ?_, rfl⟩, rfl⟩
  simpa [Engine.setTask, Engine.modify] using hrx

/-- One piece of the slow path. -/
lemma sendPending_spec (k : Kernel) (sid : ℕ) (piece : Bytes) (rest : List Bytes) (e : Engine) :
    ∃ c stats dropped, sendPending k sid piece rest e =
        { e.logAll [.replied sid (e.heap sid).client c] with
          stats
          heap := Function.update e.heap sid
            { e.heap sid with
              rxDatagrams := (e.heap sid).rxDatagrams + c.out.length
              task := if rest = [] then .waiting else .sending rest } } ∧
      c.out.Sublist [piece] ∧ dropped + c.out.length = 1 ∧
      stats.activeConnections = e.stats.activeConnections ∧
      Booked sid c.out dropped e (sendPending k sid piece rest e) := by
  rcases hsend : k.sendTo e.trace (e.heap sid).client piece 0 with err | ⟨⟩
  · have hcall := sendTo_of_error hsend
    refine ⟨⟨piece, 0, false⟩, e.stats.addDatagramsDropped 1, 1, ?_, ?_, rfl, rfl, ?_⟩
    · simp [sendPending, hcall, Engine.setTask, Engine.modify, Engine.logAll, Call.out]
    · simp [Call.out]
    · simp only [sendPending, hcall]
      constructor <;>
        simp [Engine.setTask, Engine.modify, Engine.logAll, Call.out,
          ForwarderStats.addDatagramsDropped]
  · have hcall := sendTo_of_ok hsend
    refine ⟨⟨piece, 0, true⟩, (e.stats.addReceived piece.length).addDatagramsReceived 1, 0, ?_, ?_,
      rfl, rfl, ?_⟩
    · simp [sendPending, hcall, Engine.setTask, Engine.modify, Engine.logAll, Call.out]
    · simp [Call.out]
    · simp only [sendPending, hcall]
      constructor <;>
        simp [Engine.setTask, Engine.modify, Engine.logAll, Call.out,
          ForwarderStats.addReceived, ForwarderStats.addDatagramsReceived]

/-- The slow path books every piece. -/
lemma sendAllPending_booked (k : Kernel) (sid : ℕ) (ps : List Bytes) (e : Engine) :
    ∃ cs dropped, (sendAllPending k sid ps e).trace =
        e.trace ++ cs.map (.replied sid (e.heap sid).client) ∧
      (outOf cs).Sublist ps ∧ dropped + (outOf cs).length = ps.length ∧
      Booked sid (outOf cs) dropped e (sendAllPending k sid ps e) := by
  induction ps generalizing e with
  | nil => exact ⟨[], 0, by simp [sendAllPending], by simp, by simp, ⟨rfl, rfl, rfl, rfl⟩⟩
  | cons piece rest ih =>
    obtain ⟨c, stats, dropped, heq, hsub, hone, -, hbooked⟩ := sendPending_spec k sid piece rest e
    obtain ⟨cs, dropped', htrace, hsub', hrest, hbooked'⟩ := ih (sendPending k sid piece rest e)
    have hout : outOf (c :: cs) = c.out ++ outOf cs := by simp [outOf]
    refine ⟨c :: cs, dropped + dropped', ?_, ?_, ?_, ?_⟩
    · rw [sendAllPending, htrace, heq]
      simp [Engine.logAll]
    · rw [hout]
      exact hsub.append hsub'
    · rw [hout, List.length_append, List.length_cons]
      omega
    · rw [hout]
      exact hbooked.trans hbooked'

/-- The accounts of one wakeup of a session: the drain noted the events `fast`, the slow path the
events `slow`. -/
structure WakeupAccounted (sid : ℕ) (rs : List (Except IoError Recv))
    (drained : SessionDrain × Engine) (fast slow : List Event) (e e' : Engine) : Prop where
  fastTrace : drained.2.trace = e.trace ++ fast
  slowTrace : e'.trace = drained.2.trace ++ slow
  /-- The drain received the datagrams of all the receives on offer, up to a blocked reply, and the
  slow path received nothing. -/
  received : Took (Recv.answers (e.heap sid).gro) (receipts sessionBatch rs) drained.1
    (answeredDown sid fast)
  receivedNoMore : answeredDown sid slow = []
  /-- Every datagram received is counted once. -/
  total : e'.stats.datagramsReceived + e'.stats.datagramsDropped =
    e.stats.datagramsReceived + e.stats.datagramsDropped + (answeredDown sid fast).length
  /-- What the kernel accepted is counted as received. -/
  booked : e'.stats.datagramsReceived =
      e.stats.datagramsReceived + (repliedDown sid (fast ++ slow)).length ∧
    e'.stats.bytesReceived = e.stats.bytesReceived + payload (repliedDown sid (fast ++ slow)) ∧
    (e'.heap sid).rxDatagrams =
      (e.heap sid).rxDatagrams + (repliedDown sid (fast ++ slow)).length
  /-- Each datagram is accepted at most once, in order. -/
  once : (repliedDown sid (fast ++ slow)).Sublist (answeredDown sid fast)
  /-- The remainder starts at the first datagram that the drain neither sent nor dropped. -/
  pending : ∀ p, drained.1 = .blocked p → ∃ handled,
    answeredDown sid fast = handled ++ pieces p.segment p.data ∧
    (repliedDown sid fast).Sublist handled ∧
    (repliedDown sid slow).Sublist (pieces p.segment p.data) ∧
    drained.2.stats.datagramsReceived + drained.2.stats.datagramsDropped =
      e.stats.datagramsReceived + e.stats.datagramsDropped + handled.length

/-- The accounts of a wakeup, from those of its drain and of what follows the drain. -/
lemma wakeupAccounted_of_drained {sid nowMs : ℕ} {rs : List (Except IoError Recv)}
    {outcome : SessionDrain} {fast slow : List Event} {e e' : Engine} {d : ReplyTurn} (dropped : ℕ)
    (h : Drained sid fast outcome { e with batch := {} } d.toTurn)
    (hfirst : Took (Recv.answers (e.heap sid).gro) (receipts sessionBatch rs) outcome
      (answeredDown sid fast))
    (hslow : e'.trace = (flushReceived sid nowMs d).trace ++ slow)
    (hanswered : answeredDown sid slow = [])
    (hsub : (repliedDown sid slow).Sublist (pendingPieces outcome.pending))
    (hdropped : dropped + (repliedDown sid slow).length =
      (pendingPieces outcome.pending).length)
    (hbooked : Booked sid (repliedDown sid slow) dropped (flushReceived sid nowMs d) e') :
    WakeupAccounted sid rs (outcome, flushReceived sid nowMs d) fast slow e e' := by
  have hfast := flushReceived_booked nowMs h
  have hall := hfast.trans hbooked
  obtain ⟨handled, hsplit, hsub', hcount⟩ := h.split
  simp only [Nat.zero_add] at hcount
  have hlength : (answeredDown sid fast).length =
      handled.length + (pendingPieces outcome.pending).length := by
    rw [hsplit, List.length_append]
  exact {
    fastTrace := by rw [(flushReceived_rest sid nowMs d).1, h.trace]
    slowTrace := hslow
    received := hfirst
    receivedNoMore := hanswered
    total := by
      rw [hall.received, hall.dropped, List.length_append]
      omega
    booked := by
      rw [repliedDown_append]
      exact ⟨hall.received, hall.bytes, hall.rx⟩
    once := by
      rw [repliedDown_append, hsplit]
      exact hsub'.append hsub
    pending := by
      rintro p rfl
      refine ⟨handled, hsplit, hsub', hsub, ?_⟩
      rw [hfast.received, hfast.dropped]
      omega }

/-- **Reply accounting.**  Whatever a session receives and however the listener's sends end, a
wakeup and its slow path account for every datagram, and the remainder that is handed over starts
where the fast path stopped. -/
theorem handleWakeup_accounts (k : Kernel) (nowMs : ℕ) (rs : List (Except IoError Recv)) (sid : ℕ)
    (e : Engine) :
    ∃ fast slow, WakeupAccounted sid rs (drainSession k nowMs rs sid e) fast slow e
      (handleWakeup k nowMs rs sid e) := by
  obtain ⟨fast, d, h, hflush, hfirst, -⟩ := drainSession_drained k nowMs rs sid e
  rcases hdrain : drainSession k nowMs rs sid e with ⟨outcome, e'⟩
  simp only [hdrain] at h hflush hfirst
  subst hflush
  simp only [handleWakeup, wakeup, hdrain]
  cases outcome with
  | idle =>
    exact ⟨fast, [], wakeupAccounted_of_drained 0 h hfirst (by simp) rfl (by simp) rfl
      ⟨rfl, rfl, rfl, rfl⟩⟩
  | full =>
    exact ⟨fast, [], wakeupAccounted_of_drained 0 h hfirst (by simp) rfl (by simp) rfl
      ⟨rfl, rfl, rfl, rfl⟩⟩
  | dead =>
    obtain ⟨hbooked, htrace⟩ := endTask_booked sid (flushReceived sid nowMs d)
    exact ⟨fast, [], wakeupAccounted_of_drained 0 h hfirst (by simpa using htrace) rfl (by simp)
      rfl hbooked⟩
  | blocked p =>
    obtain ⟨cs, dropped, htrace, hsub, hdropped, hbooked⟩ := sendAllPending_booked k sid
      (pieces p.segment p.data)
      ((flushReceived sid nowMs d).setTask sid (.sending (pieces p.segment p.data)))
    have hall := (setTask_booked sid (.sending (pieces p.segment p.data))
      (flushReceived sid nowMs d)).trans hbooked
    refine ⟨fast, _, wakeupAccounted_of_drained dropped h hfirst htrace ?_ ?_ ?_ ?_⟩
    · simp
    · simpa [SessionDrain.pending, pendingPieces] using hsub
    · simpa [SessionDrain.pending, pendingPieces] using hdropped
    · simpa using hall

end Rfw.Udp
