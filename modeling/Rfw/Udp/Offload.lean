/-
# Segmentation offload

The kernel may hand the forwarder several datagrams of one peer as a single buffer (receive
offload) and takes such a buffer back as a single send (segmentation offload).  A buffer comes
with the length `segment` of its datagrams, and it is a burst when `0 < segment < len`.

`sendChunks` sends a burst in as few segmented sends as the kernel's limits allow and stops at the
first error.  `sendChunks_rule` is the only fact about it that the later files use: whatever holds
before the loop and survives one accepted send holds at the end, with exactly the datagrams in
front of the reported offset accepted.
-/
import Rfw.Lib.Chunks
import Rfw.Net

namespace Rfw.Udp

open Lib

/-- A payload. -/
abbrev Bytes := List UInt8

/-- `MAX_GSO_SEGMENTS`. -/
def maxGsoSegments : ℕ := 64

/-- `GSO_MAX_PAYLOAD`. -/
def gsoMaxPayload : ℕ := 65507

/-- `is_coalesced`. -/
def isCoalesced (len segment : ℕ) : Bool := decide (0 < segment ∧ segment < len)

/-- `segments`: the number of datagrams in a buffer. -/
def segments (len segment : ℕ) : ℕ :=
  if isCoalesced len segment then (len + segment - 1) / segment else 1

/-- `chunk_bytes`. -/
def chunkBytes (segment : ℕ) : ℕ :=
  segment * max 1 (min (gsoMaxPayload / segment) maxGsoSegments)

/-- `is_fallback_error`. -/
def isFallbackError (e : IoError) : Bool :=
  decide (e.rawOsError = some IoError.einval ∨ e.rawOsError = some IoError.eio ∨
    e.rawOsError = some IoError.emsgsize)

/-- `offload::Recv`, with the bytes of the buffer that were filled. -/
structure Recv where
  data : Bytes
  segment : ℕ
  sender : Option SocketAddr
  truncated : Bool
deriving DecidableEq, Repr

/-- `GsoSend`. -/
inductive GsoSend
  | sent
  /-- `off` is the offset of the first unsent byte. -/
  | stopped (off : ℕ) (error : IoError)
deriving DecidableEq, Repr

/-- The loop of `send_chunks` from the offset `off`, where `rest` is still to be sent. -/
def sendChunksGo {σ : Type*} (sendOne : σ → Bytes → ℕ → Except IoError Unit × σ)
    (segment step : ℕ) : ℕ → ℕ → Bytes → σ → GsoSend × σ
  | 0, _, _, s => (.sent, s)
  | fuel + 1, off, rest, s =>
      if rest = [] then (.sent, s)
      else
        let chunk := rest.take step
        let seg := if segment < chunk.length then segment else 0
        match sendOne s chunk seg with
        | (.error e, s) => (.stopped off e, s)
        | (.ok (), s) => sendChunksGo sendOne segment step fuel (off + chunk.length)
            (rest.drop step) s

/-- `send_chunks`.  The state `s` is what `send_one` acts on. -/
def sendChunks {σ : Type*} (sendOne : σ → Bytes → ℕ → Except IoError Unit × σ)
    (buf : Bytes) (segment : ℕ) (s : σ) : GsoSend × σ :=
  if segment < 2 ^ 16 then
    sendChunksGo sendOne segment (chunkBytes segment) buf.length 0 buf s
  else (.stopped 0 (.os IoError.einval), s)

/-! ## The datagrams of a buffer -/

/-- The datagrams that a received buffer stands for. -/
def pieces (segment : ℕ) (data : Bytes) : List Bytes :=
  if isCoalesced data.length segment then chunks segment data else [data]

/-- The datagrams that an accepted send puts on the wire. -/
def emission (segment : ℕ) (data : Bytes) : List Bytes :=
  if segment = 0 then [data] else chunks segment data

/-- The payload of a sequence of datagrams. -/
def payload (ds : List Bytes) : ℕ := (ds.map List.length).sum

@[simp] lemma payload_nil : payload [] = 0 := rfl

@[simp] lemma payload_cons (d : Bytes) (ds : List Bytes) :
    payload (d :: ds) = d.length + payload ds := by
  simp [payload]

@[simp] lemma payload_append (ds ds' : List Bytes) :
    payload (ds ++ ds') = payload ds + payload ds' := by
  simp [payload]

lemma isCoalesced_iff {len segment : ℕ} :
    isCoalesced len segment = true ↔ 0 < segment ∧ segment < len := by
  simp [isCoalesced]

lemma pieces_of_coalesced {segment : ℕ} {data : Bytes}
    (h : isCoalesced data.length segment = true) : pieces segment data = chunks segment data := by
  rw [pieces, if_pos h]

lemma pieces_of_not_coalesced {segment : ℕ} {data : Bytes}
    (h : ¬ isCoalesced data.length segment = true) : pieces segment data = [data] := by
  rw [pieces, if_neg h]

@[simp] lemma pieces_zero (data : Bytes) : pieces 0 data = [data] :=
  pieces_of_not_coalesced (by simp [isCoalesced])

/-- `segments` counts the datagrams of a buffer. -/
lemma length_pieces (segment : ℕ) (data : Bytes) :
    (pieces segment data).length = segments data.length segment := by
  simp only [pieces, segments]
  split
  · rename_i h
    exact length_chunks (isCoalesced_iff.mp h).1 data
  · rfl

/-- The payload of the pieces of a buffer is its length. -/
lemma payload_chunks {segment : ℕ} (hs : 0 < segment) (data : Bytes) :
    payload (chunks segment data) = data.length := by
  rw [payload, ← List.length_flatten, flatten_chunks hs]

@[simp] lemma emission_zero (data : Bytes) : emission 0 data = [data] := rfl

/-- A chunk is sent segmented exactly when it holds more than one datagram, so either way the
kernel emits its datagrams. -/
lemma emission_chunk {segment : ℕ} (hs : 0 < segment) {chunk : Bytes} (hne : chunk ≠ []) :
    emission (if segment < chunk.length then segment else 0) chunk = chunks segment chunk := by
  by_cases h : segment < chunk.length
  · rw [if_pos h, emission, if_neg (by omega)]
  · rw [if_neg h, emission_zero, chunks_of_length_le hne (by omega)]

/-! ## The loop -/

lemma dvd_chunkBytes (segment : ℕ) : segment ∣ chunkBytes segment := Dvd.intro _ rfl

lemma chunkBytes_pos {segment : ℕ} (hs : 0 < segment) : 0 < chunkBytes segment :=
  Nat.mul_pos hs (by omega)

/-- A prefix of whole datagrams can be cut before or after. -/
lemma chunks_append_of_dvd {segment : ℕ} (hs : 0 < segment) {l : Bytes} (r : Bytes)
    (h : segment ∣ l.length) : chunks segment (l ++ r) = chunks segment l ++ chunks segment r := by
  obtain ⟨m, hm⟩ := h
  exact chunks_append hs m l r (by rw [hm, Nat.mul_comm])

/-- What the loop hands to `send_one`: a chunk of whole datagrams, segmented when there is more than
one. -/
structure Handed (segment : ℕ) (chunk : Bytes) (seg : ℕ) : Prop where
  ne_nil : chunk ≠ []
  length_le : chunk.length ≤ chunkBytes segment
  seg_eq : seg = if segment < chunk.length then segment else 0

/-- Either way the kernel emits the datagrams of the chunk. -/
lemma Handed.emission_eq {segment : ℕ} {chunk : Bytes} {seg : ℕ} (h : Handed segment chunk seg)
    (hs : 0 < segment) : emission seg chunk = chunks segment chunk := by
  rw [h.seg_eq]
  exact emission_chunk hs h.ne_nil

/-- How `sendChunks` ends, seen through a property `P accepted s` of the datagrams accepted so far
and the state. -/
inductive GsoSend.Ends {σ : Type*} (sendOne : σ → Bytes → ℕ → Except IoError Unit × σ)
    (P : List Bytes → σ → Prop) (segment : ℕ) (buf : Bytes) (s : σ) : GsoSend × σ → Prop
  /-- Everything was accepted. -/
  | sent {t : σ} : P (chunks segment buf) t → Ends sendOne P segment buf s (.sent, t)
  /-- The segment does not fit the kernel's field: nothing was tried. -/
  | unfit : 2 ^ 16 ≤ segment → Ends sendOne P segment buf s (.stopped 0 (.os IoError.einval), s)
  /-- One send failed, with the datagrams before `off` accepted. -/
  | failed {t t' : σ} {off seg : ℕ} {chunk : Bytes} {e : IoError} :
      P (chunks segment (buf.take off)) t → off < buf.length → segment ∣ off →
      Handed segment chunk seg → sendOne t chunk seg = (.error e, t') →
      Ends sendOne P segment buf s (.stopped off e, t')

section Rule

variable {σ : Type*} {sendOne : σ → Bytes → ℕ → Except IoError Unit × σ}
  {P : List Bytes → σ → Prop} {segment : ℕ}

/-- The loop with `done` sent and `rest` to go. -/
lemma sendChunksGo_rule (hs : 0 < segment)
    (hok : ∀ acc t chunk seg t', P acc t → Handed segment chunk seg →
      sendOne t chunk seg = (.ok (), t') → P (acc ++ chunks segment chunk) t')
    (buf : Bytes) (s₀ : σ) :
    ∀ (fuel : ℕ) (done rest : Bytes) (s : σ), rest.length ≤ fuel → buf = done ++ rest →
      (rest ≠ [] → segment ∣ done.length) → P (chunks segment done) s →
      GsoSend.Ends sendOne P segment buf s₀
        (sendChunksGo sendOne segment (chunkBytes segment) fuel done.length rest s) := by
  intro fuel
  have hstep := chunkBytes_pos hs
  induction fuel with
  | zero =>
    intro done rest s hfuel hbuf _ hP
    obtain rfl : rest = [] := List.eq_nil_of_length_eq_zero (by omega)
    obtain rfl : buf = done := by simpa using hbuf
    exact .sent hP
  | succ fuel ih =>
    intro done rest s hfuel hbuf halign hP
    rw [sendChunksGo]
    by_cases hrest : rest = []
    · rw [if_pos hrest]
      obtain rfl : buf = done := by simpa [hrest] using hbuf
      exact .sent hP
    · rw [if_neg hrest]
      have hpos : 0 < rest.length := List.length_pos_iff.mpr hrest
      have hchunk : Handed segment (rest.take (chunkBytes segment))
          (if segment < (rest.take (chunkBytes segment)).length then segment else 0) := by
        refine ⟨List.length_pos_iff.mp ?_, List.length_take_le _ _, rfl⟩
        rw [List.length_take]
        omega
      simp only
      rcases hsend : sendOne s (rest.take (chunkBytes segment))
        (if segment < (rest.take (chunkBytes segment)).length then segment else 0) with ⟨r, s'⟩
      cases r with
      | error e =>
        refine .failed ?_ ?_ (halign hrest) hchunk hsend
        · simpa [hbuf] using hP
        · simp only [hbuf, List.length_append]
          omega
      | ok =>
        have hP' := hok _ _ _ _ _ hP hchunk hsend
        rw [← chunks_append_of_dvd hs _ (halign hrest)] at hP'
        have := ih (done ++ rest.take (chunkBytes segment)) (rest.drop (chunkBytes segment)) s'
          (by rw [List.length_drop]; omega)
          (by rw [List.append_assoc, List.take_append_drop, hbuf]) ?_ hP'
        · simpa using this
        · -- more is left, so the chunk was a whole one
          intro hmore
          have hlen : chunkBytes segment < rest.length := by
            have := List.length_pos_iff.mpr hmore
            rw [List.length_drop] at this
            omega
          rw [List.length_append, List.length_take, Nat.min_eq_left hlen.le]
          exact Nat.dvd_add (halign hrest) (dvd_chunkBytes segment)

/-- **The rule for `send_chunks`.**  What holds before it and survives an accepted send of whole
datagrams holds when it ends, of the datagrams in front of the offset it reports. -/
theorem sendChunks_rule (hs : 0 < segment) {buf : Bytes} {s : σ}
    (hok : ∀ acc t chunk seg t', P acc t → Handed segment chunk seg →
      sendOne t chunk seg = (.ok (), t') → P (acc ++ chunks segment chunk) t')
    (h0 : P [] s) : GsoSend.Ends sendOne P segment buf s (sendChunks sendOne buf segment s) := by
  rw [sendChunks]
  split
  · exact sendChunksGo_rule hs hok buf s _ [] buf s le_rfl rfl (by simp) (by simpa using h0)
  · exact .unfit (by omega)

end Rule

end Rfw.Udp
