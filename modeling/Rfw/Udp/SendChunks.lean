/-
# A burst is split without loss

The callers of `send_chunks` derive their counters and the place to resume at from the offset that
it reports.  Here every call of `send_one` is written to a log, whatever its outcome, and the log
tells which datagrams left: all those of the burst, or exactly those in front of the offset.
-/
import Rfw.Udp.Sends

namespace Rfw.Udp

open Lib

/-- One call of `send_one` and its result. -/
structure Attempt where
  chunk : Bytes
  seg : ℕ
  result : Except IoError Unit

/-- The datagrams that a call puts on the wire. -/
def Attempt.emitted (a : Attempt) : List Bytes :=
  match a.result with
  | .ok () => emission a.seg a.chunk
  | .error _ => []

/-- The datagrams that a sequence of calls puts on the wire. -/
def emitted (log : List Attempt) : List Bytes := log.flatMap Attempt.emitted

/-- A `send_one` that writes its calls to a log. -/
def recording {σ : Type*} (sendOne : σ → Bytes → ℕ → Except IoError Unit × σ)
    (s : σ × List Attempt) (chunk : Bytes) (seg : ℕ) : Except IoError Unit × (σ × List Attempt) :=
  let (result, t) := sendOne s.1 chunk seg
  (result, t, s.2 ++ [⟨chunk, seg, result⟩])

/-! ## The limits of one send -/

/-- A chunk with more than one datagram is within the payload of one send. -/
lemma chunkBytes_le {segment : ℕ} (h : segment < chunkBytes segment) :
    chunkBytes segment ≤ gsoMaxPayload := by
  unfold chunkBytes at h ⊢
  have hquotient : 1 < max 1 (min (gsoMaxPayload / segment) maxGsoSegments) := by
    by_contra hone
    have hmul := Nat.mul_le_mul_left segment (Nat.le_of_not_lt hone)
    omega
  have hle : max 1 (min (gsoMaxPayload / segment) maxGsoSegments) ≤ gsoMaxPayload / segment := by
    omega
  exact (Nat.mul_le_mul_left segment hle).trans (Nat.mul_div_le _ _)

lemma chunkBytes_le_segments (segment : ℕ) : chunkBytes segment ≤ maxGsoSegments * segment := by
  unfold chunkBytes
  rw [Nat.mul_comm maxGsoSegments]
  refine Nat.mul_le_mul_left segment ?_
  unfold maxGsoSegments
  omega

/-- A segmented send is within the limits of the kernel. -/
lemma Handed.segmented {segment : ℕ} {chunk : Bytes} {seg : ℕ} (h : Handed segment chunk seg)
    (hseg : 0 < seg) :
    (emission seg chunk).length ≤ maxGsoSegments ∧ chunk.length ≤ gsoMaxPayload := by
  have heq := h.seg_eq
  split_ifs at heq with hmore
  · subst heq
    have hlen := h.length_le
    refine ⟨?_, hlen.trans (chunkBytes_le (hmore.trans_le hlen))⟩
    rw [emission, if_neg (by omega), length_chunks hseg]
    have hsegments := chunkBytes_le_segments seg
    unfold maxGsoSegments at hsegments ⊢
    refine Nat.le_of_lt_succ (Nat.div_lt_of_lt_mul ?_)
    omega
  · omega

/-- A plain send carries one datagram. -/
lemma Handed.plain {segment : ℕ} {chunk : Bytes} {seg : ℕ} (h : Handed segment chunk seg)
    (hs : 0 < segment) (hseg : seg = 0) : chunk.length ≤ segment := by
  have heq := h.seg_eq
  split_ifs at heq with hmore <;> omega

/-! ## The log -/

section Log

variable {σ : Type*} {sendOne : σ → Bytes → ℕ → Except IoError Unit × σ} {segment : ℕ}

/-- What the log says while every call succeeds. -/
structure Logged (segment : ℕ) (accepted : List Bytes) (log : List Attempt) : Prop where
  emitted : emitted log = accepted
  succeeded : ∀ a ∈ log, a.result = .ok ()
  handed : ∀ a ∈ log, Handed segment a.chunk a.seg

lemma emitted_append (log log' : List Attempt) :
    emitted (log ++ log') = emitted log ++ emitted log' := List.flatMap_append

/-- One more call that succeeds. -/
lemma Logged.snoc {accepted : List Bytes} {log : List Attempt} (h : Logged segment accepted log)
    (hs : 0 < segment) {chunk : Bytes} {seg : ℕ} (hchunk : Handed segment chunk seg) :
    Logged segment (accepted ++ chunks segment chunk) (log ++ [⟨chunk, seg, .ok ()⟩]) where
  emitted := by
    rw [emitted_append, h.emitted]
    simp [Udp.emitted, Attempt.emitted, hchunk.emission_eq hs]
  succeeded := List.forall_mem_append.mpr ⟨h.succeeded, by simp⟩
  handed := List.forall_mem_append.mpr ⟨h.handed, by simpa using hchunk⟩

/-- How a recorded burst ends. -/
lemma ends_recording (sendOne : σ → Bytes → ℕ → Except IoError Unit × σ) (hs : 0 < segment)
    (buf : Bytes) (s : σ) :
    GsoSend.Ends (recording sendOne) (fun accepted t => Logged segment accepted t.2) segment buf
      (s, []) (sendChunks (recording sendOne) buf segment (s, [])) := by
  refine sendChunks_rule hs ?_ ⟨rfl, by simp, by simp⟩
  rintro accepted ⟨t, log⟩ chunk seg t' hlogged hchunk hsend
  obtain ⟨hresult, rfl⟩ := Prod.mk.inj hsend
  rw [hresult]
  exact hlogged.snoc hs hchunk

/-- The log of a call that fails. -/
lemma recording_error {t : σ × List Attempt} {chunk : Bytes} {seg : ℕ} {e : IoError} {t' : σ}
    {log : List Attempt} (h : recording sendOne t chunk seg = (.error e, t', log)) :
    log = t.2 ++ [⟨chunk, seg, .error e⟩] := by
  obtain ⟨hresult, h⟩ := Prod.mk.inj h
  obtain ⟨-, rfl⟩ := Prod.mk.inj h
  rw [hresult]

/-- Every call of a burst, the last one included, is one that the loop makes. -/
lemma handed_of_ends {buf : Bytes} {s t : σ} {r : GsoSend} {log : List Attempt}
    (h : GsoSend.Ends (recording sendOne) (fun accepted t => Logged segment accepted t.2) segment
      buf (s, []) (r, t, log)) : ∀ a ∈ log, Handed segment a.chunk a.seg := by
  cases h with
  | sent hlogged => exact hlogged.handed
  | unfit _ => simp
  | failed hlogged _ _ hchunk hsend =>
    rw [recording_error hsend]
    exact List.forall_mem_append.mpr ⟨hlogged.handed, by simpa using hchunk⟩

/-- More fuel than there are bytes makes no difference: the loop has ended before. -/
lemma sendChunksGo_fuel {step : ℕ} (hstep : 0 < step) :
    ∀ (fuel off : ℕ) (rest : Bytes) (s : σ), rest.length ≤ fuel →
      sendChunksGo sendOne segment step fuel off rest s =
        sendChunksGo sendOne segment step rest.length off rest s := by
  intro fuel
  induction fuel using Nat.strong_induction_on with
  | _ fuel ih =>
    intro off rest s hfuel
    by_cases hrest : rest = []
    · subst hrest
      cases fuel with
      | zero => rfl
      | succ fuel => simp [sendChunksGo]
    · have hpos := List.length_pos_iff.mpr hrest
      obtain ⟨n, hn⟩ : ∃ n, rest.length = n + 1 := ⟨rest.length - 1, by omega⟩
      obtain ⟨fuel, rfl⟩ : ∃ m, fuel = m + 1 := ⟨fuel - 1, by omega⟩
      have hdrop : (rest.drop step).length ≤ n := by
        rw [List.length_drop]
        omega
      rw [hn, sendChunksGo, sendChunksGo, if_neg hrest, if_neg hrest]
      dsimp only
      split
      · rfl
      · rw [ih fuel (by omega) _ _ _ (by omega), ih n (by omega) _ _ _ hdrop]

end Log

/-- **A burst is split without loss.**  Whatever `send_one` answers, the datagrams that left are
those in front of the reported offset, or all of them when nothing failed. -/
theorem sendChunks_splits {σ : Type*} (sendOne : σ → Bytes → ℕ → Except IoError Unit × σ)
    (buf : Bytes) (segment : ℕ) (hs : 0 < segment) (hlt : segment < buf.length) (s t : σ)
    (r : GsoSend) (log : List Attempt)
    (hrun : sendChunks (recording sendOne) buf segment (s, []) = (r, t, log)) :
    (r = .sent ↔ segment < 2 ^ 16 ∧ ∀ a ∈ log, a.result = .ok ()) ∧
    (r = .sent → emitted log = chunks segment buf) ∧
    (∀ off e, r = .stopped off e →
      segment ∣ off ∧ off < buf.length ∧ emitted log = chunks segment (buf.take off) ∧
      (emitted log).length = off / segment ∧
      (chunks segment (buf.drop off)).length = segments buf.length segment - off / segment) ∧
    (∀ a ∈ log, 0 < a.seg →
      (emission a.seg a.chunk).length ≤ maxGsoSegments ∧ a.chunk.length ≤ gsoMaxPayload) ∧
    (∀ a ∈ log, a.seg = 0 → a.chunk.length ≤ segment) ∧
    (2 ^ 16 ≤ segment → r = .stopped 0 (.os IoError.einval) ∧ log = [] ∧ t = s) ∧
    (0 < chunkBytes segment ∧ segment ∣ chunkBytes segment) ∧
    (∀ fuel, buf.length ≤ fuel →
      sendChunksGo (recording sendOne) segment (chunkBytes segment) fuel 0 buf (s, []) =
        sendChunksGo (recording sendOne) segment (chunkBytes segment) buf.length 0 buf
          (s, [])) := by
  have hends := ends_recording sendOne hs buf s
  rw [hrun] at hends
  have hhanded := handed_of_ends hends
  refine ⟨?_, ?_, ?_, fun a ha => (hhanded a ha).segmented, fun a ha => (hhanded a ha).plain hs, ?_,
    ⟨chunkBytes_pos hs, dvd_chunkBytes segment⟩, ?_⟩
  · cases hends with
    | sent hlogged =>
      have hfits : segment < 2 ^ 16 := by
        by_contra hbig
        rw [sendChunks, if_neg hbig] at hrun
        simp at hrun
      exact iff_of_true rfl ⟨hfits, hlogged.succeeded⟩
    | unfit hbig =>
      refine iff_of_false (by simp) ?_
      rintro ⟨hfits, -⟩
      omega
    | failed _ _ _ _ hsend =>
      rw [recording_error hsend]
      simp
  · rintro rfl
    cases hends with
    | sent hlogged => exact hlogged.emitted
  · rintro off e rfl
    have hoff : segment ∣ off ∧ off < buf.length ∧ emitted log = chunks segment (buf.take off) := by
      cases hends with
      | unfit _ => exact ⟨dvd_zero _, by omega, by simp [emitted]⟩
      | failed hlogged hoff hdvd _ hsend =>
        refine ⟨hdvd, hoff, ?_⟩
        rw [recording_error hsend, emitted_append, hlogged.emitted]
        simp [emitted, Attempt.emitted]
    obtain ⟨hdvd, hlen, hemitted⟩ := hoff
    have hcount := length_chunks_take hs hdvd hlen
    have hall := length_pieces segment buf
    rw [pieces_of_coalesced (isCoalesced_iff.mpr ⟨hs, hlt⟩), chunks_split hs hdvd hlen,
      List.length_append, hcount] at hall
    exact ⟨hdvd, hlen, hemitted, by rw [hemitted, hcount], by omega⟩
  · intro hbig
    rw [sendChunks, if_neg (by omega)] at hrun
    obtain ⟨rfl, hstate⟩ := Prod.mk.inj hrun
    obtain ⟨rfl, rfl⟩ := Prod.mk.inj hstate
    exact ⟨rfl, rfl, rfl⟩
  · intro fuel hfuel
    exact sendChunksGo_fuel (chunkBytes_pos hs) fuel 0 buf (s, []) hfuel

/-- A kernel that refuses the second send. -/
def demoSendOne (calls : ℕ) (_ : Bytes) (_ : ℕ) : Except IoError Unit × ℕ :=
  (if calls = 1 then .error (.os IoError.einval) else .ok (), calls + 1)

/-- A burst of 66 datagrams of one byte: 64 of them leave. -/
theorem sendChunks_splits_demo :
    sendChunks (recording demoSendOne) (List.replicate 66 7) 1 (0, []) =
        (.stopped 64 (.os IoError.einval), 2,
          [⟨List.replicate 64 7, 1, .ok ()⟩, ⟨[7, 7], 1, .error (.os IoError.einval)⟩]) ∧
      (chunks 1 (List.drop 64 (List.replicate 66 (7 : UInt8)))).length = 2 := by
  have hrun : sendChunks (recording demoSendOne) (List.replicate 66 7) 1 (0, []) =
      (.stopped 64 (.os IoError.einval), 2,
        [⟨List.replicate 64 7, 1, .ok ()⟩, ⟨[7, 7], 1, .error (.os IoError.einval)⟩]) := rfl
  have hsplits := sendChunks_splits demoSendOne _ 1 (by decide) (by decide) 0 2 _ _ hrun
  obtain ⟨-, -, hstopped, -⟩ := hsplits
  exact ⟨hrun, (hstopped _ _ rfl).2.2.2.2.trans (by decide)⟩

end Rfw.Udp
