/-
# Sequences of sends

Both directions send in the same three ways: one datagram, a sequence of datagrams one by one,
and a burst through `sendChunks`.  A send only notes a call in the trace, so what a sequence of
sends does is told by the calls it made: `outOf` gives the datagrams they put on the wire.
-/
import Rfw.Udp.Engine

namespace Rfw.Udp

open Lib

/-- The datagrams that a send puts on the wire: none if it failed. -/
def Call.out (c : Call) : List Bytes := if c.ok then emission c.segment c.data else []

/-- A send that is accepted puts something on the wire: no empty burst is ever sent. -/
def Call.Real (c : Call) : Prop := c.ok = true → c.out ≠ []

lemma Call.real_plain (data : Bytes) (ok : Bool) : Call.Real ⟨data, 0, ok⟩ := by
  intro hok
  obtain rfl : ok = true := hok
  simp [Call.out]

lemma Call.real_failed (data : Bytes) (segment : ℕ) : Call.Real ⟨data, segment, false⟩ := by
  intro hok
  cases hok

/-- The datagrams that a sequence of sends puts on the wire. -/
def outOf (cs : List Call) : List Bytes := cs.flatMap Call.out

@[simp] lemma outOf_nil : outOf [] = [] := rfl

@[simp] lemma outOf_append (cs cs' : List Call) : outOf (cs ++ cs') = outOf cs ++ outOf cs' :=
  List.flatMap_append

@[simp] lemma outOf_accepted (data : Bytes) (segment : ℕ) :
    outOf [⟨data, segment, true⟩] = emission segment data := by
  simp [outOf, Call.out]

@[simp] lemma outOf_failed (data : Bytes) (segment : ℕ) : outOf [⟨data, segment, false⟩] = [] := by
  simp [outOf, Call.out]

@[simp] lemma logAll_nil (e : Engine) : e.logAll [] = e := by simp [Engine.logAll]

@[simp] lemma logAll_logAll (e : Engine) (evs evs' : List Event) :
    (e.logAll evs).logAll evs' = e.logAll (evs ++ evs') := by
  simp [Engine.logAll]

section Call

variable {e : Engine} {ask : List Event → Bytes → ℕ → Except IoError Unit} {event : Call → Event}
  {data : Bytes} {segment : ℕ}

lemma call_of_ok (h : ask e.trace data segment = .ok ()) :
    e.call ask event data segment = (.ok (), e.logAll [event ⟨data, segment, true⟩]) := by
  simp only [Engine.call, h]
  rfl

lemma call_of_error {err : IoError} (h : ask e.trace data segment = .error err) :
    e.call ask event data segment = (.error err, e.logAll [event ⟨data, segment, false⟩]) := by
  simp only [Engine.call, h]
  rfl

end Call

/-! ## Bursts -/

/-- A burst in front of an offset between two datagrams. -/
lemma chunks_split {segment off : ℕ} (hs : 0 < segment) {data : Bytes} (hdvd : segment ∣ off)
    (hoff : off < data.length) :
    chunks segment data = chunks segment (data.take off) ++ chunks segment (data.drop off) := by
  rw [← chunks_append_of_dvd hs, List.take_append_drop]
  rwa [List.length_take, Nat.min_eq_left hoff.le]

lemma length_chunks_take {segment off : ℕ} (hs : 0 < segment) {data : Bytes} (hdvd : segment ∣ off)
    (hoff : off < data.length) : (chunks segment (data.take off)).length = off / segment := by
  obtain ⟨m, rfl⟩ := hdvd
  rw [length_chunks hs, List.length_take, Nat.min_eq_left hoff.le, Nat.mul_div_cancel_left _ hs,
    show segment * m + segment - 1 = segment - 1 + segment * m by omega,
    Nat.add_mul_div_left _ _ hs, Nat.div_eq_of_lt (by omega), Nat.zero_add]

lemma payload_chunks_take {segment off : ℕ} (hs : 0 < segment) {data : Bytes}
    (hoff : off < data.length) : payload (chunks segment (data.take off)) = off := by
  rw [payload_chunks hs, List.length_take, Nat.min_eq_left hoff.le]

section Burst

variable {sendOne : Engine → Bytes → ℕ → Except IoError Unit × Engine} {e : Engine}
  {ask : List Event → Bytes → ℕ → Except IoError Unit} {event : Call → Event} {segment : ℕ}

/-- How a burst ends, with the calls it made. -/
lemma ends_sendChunks (hs : 0 < segment)
    (hcall : ∀ evs data seg,
      sendOne (e.logAll evs) data seg = (e.logAll evs).call ask event data seg) (data : Bytes) :
    GsoSend.Ends sendOne
      (fun acc e' => ∃ cs : List Call, e' = e.logAll (cs.map event) ∧ outOf cs = acc ∧
        ∀ c ∈ cs, c.Real)
      segment data e (sendChunks sendOne data segment e) := by
  refine sendChunks_rule hs ?_ ⟨[], by simp, rfl, by simp⟩
  rintro _ _ chunk seg e' ⟨cs, rfl, rfl, hreal⟩ hchunk hsend
  have hemission := hchunk.emission_eq hs
  rw [hcall] at hsend
  rcases hok : ask (e.logAll (cs.map event)).trace chunk seg with err | ⟨⟩
  · rw [call_of_error hok] at hsend
    simp at hsend
  · rw [call_of_ok hok] at hsend
    obtain rfl : _ = e' := by simpa using hsend
    have hlast : Call.Real ⟨chunk, seg, true⟩ := by
      intro _
      simp [Call.out, hemission, chunks_ne_nil hs hchunk.ne_nil]
    refine ⟨cs ++ [⟨chunk, seg, true⟩], by simp, by simp [hemission], ?_⟩
    exact List.forall_mem_append.mpr ⟨hreal, by simpa using hlast⟩

/-- The whole burst was accepted. -/
lemma sent_sendChunks (hs : 0 < segment)
    (hcall : ∀ evs data seg,
      sendOne (e.logAll evs) data seg = (e.logAll evs).call ask event data seg) {data : Bytes}
    {e' : Engine} (h : sendChunks sendOne data segment e = (.sent, e')) :
    ∃ cs : List Call, e' = e.logAll (cs.map event) ∧ outOf cs = chunks segment data ∧
      ∀ c ∈ cs, c.Real := by
  have hends := ends_sendChunks hs hcall data
  rw [h] at hends
  cases hends with
  | sent hP => exact hP

/-- The burst stopped at an offset between two datagrams, with the ones before it accepted. -/
lemma stopped_sendChunks (hs : 0 < segment)
    (hcall : ∀ evs data seg,
      sendOne (e.logAll evs) data seg = (e.logAll evs).call ask event data seg) {data : Bytes}
    (hdata : data ≠ []) {e' : Engine} {off : ℕ} {err : IoError}
    (h : sendChunks sendOne data segment e = (.stopped off err, e')) :
    off < data.length ∧ segment ∣ off ∧
      (∃ cs : List Call, e' = e.logAll (cs.map event) ∧
        outOf cs = chunks segment (data.take off) ∧ ∀ c ∈ cs, c.Real) ∧
      (isFallbackError err = true ∨ ∃ trace chunk seg, ask trace chunk seg = .error err) := by
  have hends := ends_sendChunks hs hcall data
  rw [h] at hends
  cases hends with
  | unfit _ =>
    exact ⟨List.length_pos_iff.mpr hdata, dvd_zero _, ⟨[], by simp, by simp, by simp⟩,
      .inl (by decide)⟩
  | @failed t _ _ seg chunk _ hP hoff hdvd _ hsend =>
    obtain ⟨cs, rfl, hout, hreal⟩ := hP
    rw [hcall] at hsend
    rcases hask : ask (e.logAll (cs.map event)).trace chunk seg with err' | ⟨⟩
    · rw [call_of_error hask] at hsend
      obtain ⟨rfl, rfl⟩ : err' = err ∧ _ = e' := by simpa using hsend
      have hall : ∀ c ∈ cs ++ [⟨chunk, seg, false⟩], Call.Real c :=
        List.forall_mem_append.mpr ⟨hreal, by simpa using Call.real_failed chunk seg⟩
      refine ⟨hoff, hdvd, ⟨cs ++ [⟨chunk, seg, false⟩], by simp, by simp [hout], hall⟩, .inr ?_⟩
      exact ⟨_, _, _, hask⟩
    · rw [call_of_ok hask] at hsend
      simp at hsend

end Burst

end Rfw.Udp
