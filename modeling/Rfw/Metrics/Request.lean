/-
# Requests to the metrics server

`handle_conn` reads until the empty line behind the request head, a size limit or the end of the
stream, and answers by the target of the request line.  After each read it looks for the end of the
head only in the new bytes and the three before them.  That agrees with a search of the whole
buffer (`readHead_exact`), and the answer does not depend on how the request was cut into reads.
-/
import Rfw.Lib.Utf8
import Rfw.Metrics.Json
import Rfw.Metrics.Prometheus
import Rfw.Net
import Mathlib.Algebra.GroupWithZero.Nat

namespace Rfw.Metrics

open Lib Lib.Utf8

/-- `MAX_REQUEST_BYTES`. -/
def maxRequestBytes : ℕ := 8192

/-- The length of the buffer of one read. -/
def chunkSize : ℕ := 1024

/-- The end of a request head. -/
def terminator : List UInt8 := [13, 10, 13, 10]

/-- `slice::windows`. -/
def windows (n : ℕ) (l : List UInt8) : List (List UInt8) :=
  (List.range (l.length + 1 - n)).map fun i => (l.drop i).take n

/-- The search for the end of the head. -/
def hasTerminator (l : List UInt8) : Bool := (windows 4 l).any fun w => w = terminator

/-- How a wait for the next read ends. -/
inductive Read
  /-- Some bytes; none at the end of the stream. -/
  | data (chunk : List UInt8)
  | failed (e : IoError)
  /-- `REQUEST_READ_TIMEOUT` is over. -/
  | deadline
deriving DecidableEq, Repr

/-- How the read loop ends. -/
inductive HeadRead
  /-- The buffer is complete; `left` has not been read. -/
  | complete (buf : List UInt8) (left : List Read)
  | failed (e : IoError)
  | expired
  /-- The loop still waits. -/
  | waiting
deriving DecidableEq, Repr

/-- The read loop of `handle_conn`. -/
def readHead (buf : List UInt8) (scanned : ℕ) : List Read → HeadRead
  | [] => .waiting
  | .deadline :: _ => .expired
  | .failed e :: _ => .failed e
  | .data chunk :: left =>
      if chunk = [] then .complete buf left
      else
        let buf := buf ++ chunk
        let start := scanned - 3
        if hasTerminator (buf.drop start) || decide (maxRequestBytes ≤ buf.length) then
          .complete buf left
        else readHead buf buf.length left

/-- The loop with a search of the whole buffer after each read. -/
def rescanHead (buf : List UInt8) : List Read → HeadRead
  | [] => .waiting
  | .deadline :: _ => .expired
  | .failed e :: _ => .failed e
  | .data chunk :: left =>
      if chunk = [] then .complete buf left
      else
        let buf := buf ++ chunk
        if hasTerminator buf || decide (maxRequestBytes ≤ buf.length) then .complete buf left
        else rescanHead buf left

/-! ## The request line -/

/-- A line without the carriage return at its end. -/
def stripCr (line : Str) : Str := if line.getLast? = some '\r' then line.dropLast else line

/-- The first of `str::lines`. -/
def firstLine (s : Str) : Option Str :=
  if s = [] then none
  else
    match Str.splitOnce '\n' s with
    | some (line, _) => some (stripCr line)
    | none => some s

/-- `str::split_whitespace`. -/
def splitWhitespace (s : Str) : List Str := (s.splitOnP Str.isWhitespace).filter (· ≠ [])

/-- `parse_request_target`. -/
def parseRequestTarget (head : Str) : Option Str := do
  let first ← firstLine head
  match splitWhitespace first with
  | [] => none
  | method :: parts => if method ≠ "GET".toList then none else parts.head?

example : parseRequestTarget "GET /metrics HTTP/1.1\r\nHost: x\r\n\r\n".toList =
    some "/metrics".toList := by decide

/-! ## Responses -/

/-- `NotifierSnapshot`. -/
structure NotifierSnapshot where
  enabled : Bool
  sent : ℕ
  failed : ℕ
  dropped : ℕ
  suppressed : ℕ
deriving DecidableEq, Repr

/-- One metric without labels. -/
def single (name help kind : String) (value : ℕ) : Str :=
  "# HELP ".toList ++ name.toList ++ [' '] ++ help.toList ++ "\n# TYPE ".toList ++ name.toList ++
    [' '] ++ kind.toList ++ ['\n'] ++ name.toList ++ [' '] ++ Str.decimal value ++ ['\n']

/-- `render_webhook_metrics`. -/
def renderWebhookMetrics (n : NotifierSnapshot) : Str :=
  single "rfw_webhook_enabled" "1 if a webhook URL is configured, 0 otherwise." "gauge"
      (if n.enabled then 1 else 0) ++
    single "rfw_webhook_sent_total" "Alert messages accepted by the webhook." "counter" n.sent ++
    single "rfw_webhook_failed_total" "Alert messages given up on after the retry budget."
      "counter" n.failed ++
    single "rfw_webhook_dropped_total"
      "Alert events dropped because the delivery queue was full." "counter" n.dropped ++
    single "rfw_webhook_suppressed_total"
      "Alert events folded into a later message by the per-kind throttle." "counter" n.suppressed

/-- `http_response`.  The content length counts bytes. -/
def httpResponse (status contentType : String) (body : Str) : Str :=
  "HTTP/1.1 ".toList ++ status.toList ++ "\r\nContent-Type: ".toList ++ contentType.toList ++
    "\r\nContent-Length: ".toList ++ Str.decimal (body.map Char.utf8Size).sum ++
    "\r\nConnection: close\r\n\r\n".toList ++ body

/-- `render_health`. -/
def renderHealth (snaps : List StatsSnapshot) : Str :=
  let unbound := (snaps.filter fun s => !s.listening).map StatsSnapshot.label
  if unbound = [] then httpResponse "200 OK" "text/plain" "rfw ok\n".toList
  else
    httpResponse "503 Service Unavailable" "text/plain"
      ("rfw degraded: ".toList ++ Str.decimal unbound.length ++
        " forwarder(s) not listening: ".toList ++ ", ".toList.intercalate unbound ++ ['\n'])

/-- The answer to a request target. -/
def respond (snaps : List StatsSnapshot) (n : NotifierSnapshot) (target : Option Str) : Str :=
  if target = some "/metrics".toList then
    httpResponse "200 OK" "text/plain; version=0.0.4"
      (renderPrometheus snaps ++ renderWebhookMetrics n)
  else if target = some "/stats".toList then
    httpResponse "200 OK" "application/json" (renderJson snaps)
  else if target = some "/".toList then renderHealth snaps
  else httpResponse "404 Not Found" "text/plain" "not found\n".toList

/-- The answer of `handle_conn`; a failed or expired read is not answered. -/
def handleConn (snaps : List StatsSnapshot) (n : NotifierSnapshot) (reads : List Read) :
    Option Str :=
  match readHead [] 0 reads with
  | .complete buf _ => some (respond snaps n (parseRequestTarget (decodeLossy buf)))
  | _ => none

/-! ## The search -/

@[simp] lemma length_terminator : terminator.length = 4 := rfl

/-- What starts with some bytes and the end of a head contains the latter. -/
lemma terminator_infix_of_starts {a l : List UInt8} (h : a ++ terminator <+: l) :
    terminator <:+: l := (List.suffix_append a terminator).isInfix.trans h.isInfix

lemma hasTerminator_iff {l : List UInt8} : hasTerminator l = true ↔ terminator <:+: l := by
  simp only [hasTerminator, windows, List.any_map, List.any_eq_true, List.mem_range,
    Function.comp_apply, decide_eq_true_eq]
  constructor
  · rintro ⟨i, -, hi⟩
    refine ⟨l.take i, (l.drop i).drop 4, ?_⟩
    rw [← hi, List.append_assoc, List.take_append_drop, List.take_append_drop]
  · rintro ⟨a, b, rfl⟩
    refine ⟨a.length, ?_, ?_⟩
    · rw [List.length_append, List.length_append, length_terminator]
      omega
    · rw [List.append_assoc, List.drop_left]
      rfl

/-- If the bytes so far have no end of the head, then one that is there after the next read begins
at most three bytes before it. -/
lemma terminator_infix_drop {old chunk : List UInt8} (h : ¬ terminator <:+: old) :
    terminator <:+: (old ++ chunk).drop (old.length - 3) ↔ terminator <:+: old ++ chunk := by
  constructor
  · exact fun hdrop => hdrop.trans (List.drop_suffix _ _).isInfix
  · rintro ⟨a, b, heq⟩
    by_cases hstart : old.length - 3 ≤ a.length
    · refine ⟨a.drop (old.length - 3), b, ?_⟩
      rw [← heq, List.append_assoc, List.append_assoc, List.drop_append_of_le_length hstart]
    · -- it would lie in the bytes before
      exfalso
      apply h
      have hwhole : a ++ terminator <+: old ++ chunk := ⟨b, heq⟩
      have hprefix : a ++ terminator <+: old := by
        refine List.prefix_of_prefix_length_le hwhole (List.prefix_append _ _) ?_
        rw [List.length_append, length_terminator]
        omega
      exact terminator_infix_of_starts hprefix

/-- The search in the new bytes finds what a search of the whole buffer finds. -/
lemma readHead_eq_rescanHead {buf : List UInt8} (h : ¬ terminator <:+: buf) (reads : List Read) :
    readHead buf buf.length reads = rescanHead buf reads := by
  induction reads generalizing buf with
  | nil => rfl
  | cons read reads ih =>
    cases read with
    | deadline => rfl
    | failed e => rfl
    | data chunk =>
      have hsearch : hasTerminator ((buf ++ chunk).drop (buf.length - 3)) =
          hasTerminator (buf ++ chunk) := by
        rw [Bool.eq_iff_iff, hasTerminator_iff, hasTerminator_iff]
        exact terminator_infix_drop h
      simp only [readHead, rescanHead, hsearch]
      split_ifs with hempty hfull
      · rfl
      · rfl
      · refine ih fun hinfix => hfull ?_
        rw [hasTerminator_iff.mpr hinfix, Bool.true_or]

/-! ## Where the loop stops -/

/-- A buffer at which the loop stops. -/
def Full (buf : List UInt8) : Prop := terminator <:+: buf ∨ maxRequestBytes ≤ buf.length

/-- The reads of a stream that is cut into chunks. -/
def streamed (chunks : List (List UInt8)) : List Read := chunks.map .data ++ [.data []]

/-- The chunks that one read can bring. -/
def Readable (chunks : List (List UInt8)) : Prop :=
  ∀ c ∈ chunks, 1 ≤ c.length ∧ c.length ≤ chunkSize

/-- The loop stops with the first chunk that makes the buffer full, or at the end of the stream. -/
inductive Stops (chunks : List (List UInt8)) : List UInt8 → List Read → Prop
  | full (pre : List (List UInt8)) (c : List UInt8) (post : List (List UInt8)) :
      chunks = pre ++ c :: post → (∀ p, p <+: pre → ¬ Full p.flatten) →
      Full (pre ++ [c]).flatten → Stops chunks (pre ++ [c]).flatten (streamed post)
  | eof : (∀ p, p <+: chunks → ¬ Full p.flatten) → Stops chunks chunks.flatten []

lemma full_iff {buf : List UInt8} :
    (hasTerminator buf || decide (maxRequestBytes ≤ buf.length)) = true ↔ Full buf := by
  rw [Bool.or_eq_true, hasTerminator_iff, decide_eq_true_eq]
  rfl

lemma not_full_nil : ¬ Full [] := by
  rintro (h | h)
  · have := h.length_le
    simp at this
  · simp [maxRequestBytes] at h

/-- The loop after the chunks `pre`, none of which made the buffer full. -/
lemma stops_rescanHead (pre chunks : List (List UInt8)) (hpre : ∀ p, p <+: pre → ¬ Full p.flatten)
    (hne : ∀ c ∈ chunks, c ≠ []) :
    ∃ buf left, rescanHead pre.flatten (streamed chunks) = .complete buf left ∧
      Stops (pre ++ chunks) buf left := by
  induction chunks generalizing pre with
  | nil =>
    refine ⟨pre.flatten, [], rfl, ?_⟩
    have heof : Stops pre pre.flatten [] := .eof hpre
    simpa using heof
  | cons c chunks ih =>
    have hc : c ≠ [] := hne c List.mem_cons_self
    have hflatten : pre.flatten ++ c = (pre ++ [c]).flatten := by simp
    have hloop : rescanHead pre.flatten (streamed (c :: chunks)) =
        if (hasTerminator (pre ++ [c]).flatten ||
          decide (maxRequestBytes ≤ (pre ++ [c]).flatten.length)) = true then
          .complete (pre ++ [c]).flatten (streamed chunks)
        else rescanHead (pre ++ [c]).flatten (streamed chunks) := by
      rw [← hflatten, streamed, List.map_cons, List.cons_append, rescanHead, if_neg hc]
      rfl
    by_cases hfull : Full (pre ++ [c]).flatten
    · rw [if_pos (full_iff.mpr hfull)] at hloop
      exact ⟨_, _, hloop, .full pre c chunks rfl hpre hfull⟩
    · rw [if_neg (mt full_iff.mp hfull)] at hloop
      have hnext : ∀ p, p <+: pre ++ [c] → ¬ Full p.flatten := by
        intro p hp
        obtain rfl | hp := List.prefix_concat_iff.mp hp
        · exact hfull
        · exact hpre p hp
      obtain ⟨buf, left, hrest, hstops⟩ := ih (pre ++ [c]) hnext fun d hd =>
        hne d (List.mem_cons_of_mem c hd)
      refine ⟨buf, left, hloop.trans hrest, ?_⟩
      simpa using hstops

namespace Stops

variable {chunks : List (List UInt8)} {buf : List UInt8} {left : List Read}

/-- The buffer stays below the limit and one read more. -/
lemma length_lt (h : Stops chunks buf left) (hchunks : Readable chunks) :
    buf.length < maxRequestBytes + chunkSize := by
  cases h with
  | full pre c post heq hpre hfull =>
    have hbefore : ¬ maxRequestBytes ≤ pre.flatten.length := fun hlen =>
      hpre pre (List.prefix_refl pre) (.inr hlen)
    have hc := (hchunks c (by simp [heq])).2
    simp only [List.flatten_append, List.flatten_singleton, List.length_append]
    omega
  | eof hall =>
    have hbefore : ¬ maxRequestBytes ≤ chunks.flatten.length := fun hlen =>
      hall chunks (List.prefix_refl chunks) (.inr hlen)
    omega

/-- The buffer is the start of the stream. -/
lemma isPrefix (h : Stops chunks buf left) : buf <+: chunks.flatten := by
  cases h with
  | full pre c post heq _ _ =>
    refine ⟨post.flatten, ?_⟩
    rw [heq]
    simp
  | eof _ => exact List.prefix_refl _

/-- If the head ends within the limit, the buffer has a newline. -/
lemma newline_mem (h : Stops chunks buf left) {a b : List UInt8}
    (heq : chunks.flatten = a ++ terminator ++ b) (hlen : a.length + 4 ≤ maxRequestBytes) :
    10 ∈ buf := by
  have hterminator : ∀ l : List UInt8, terminator <:+: l → 10 ∈ l := fun l hl =>
    hl.subset (by decide)
  have hwhole : a ++ terminator <+: chunks.flatten := ⟨b, heq.symm⟩
  have hprefix := h.isPrefix
  cases h with
  | full pre c post _ _ hfull =>
    obtain hfull | hfull := hfull
    · exact hterminator _ hfull
    · have hhead : a ++ terminator <+: (pre ++ [c]).flatten := by
        refine List.prefix_of_prefix_length_le hwhole hprefix ?_
        rw [List.length_append, length_terminator]
        omega
      exact hterminator _ (terminator_infix_of_starts hhead)
  | eof _ => exact hterminator _ (terminator_infix_of_starts hwhole)

end Stops

/-! ## The first line decides -/

lemma firstLine_append (a b : Str) :
    firstLine (a ++ '\n' :: b) = some (stripCr (a.takeWhile (· ≠ '\n'))) := by
  have hline : (a ++ '\n' :: b).takeWhile (· ≠ '\n') = a.takeWhile (· ≠ '\n') := by
    induction a with
    | nil => rfl
    | cons c a ih =>
      simp only [List.cons_append, List.takeWhile_cons, ih]
  have hmore : (a ++ '\n' :: b).dropWhile (· ≠ '\n') ≠ [] := by
    intro hnil
    have hall := List.dropWhile_eq_nil_iff.mp hnil '\n' (by simp)
    simp at hall
  obtain ⟨d, rest, hdrop⟩ := List.exists_cons_of_ne_nil hmore
  have hsplit : Str.splitOnce '\n' (a ++ '\n' :: b) = some (a.takeWhile (· ≠ '\n'), rest) := by
    simp only [Str.splitOnce, hdrop, hline]
  rw [firstLine, if_neg (by simp), hsplit]

/-- The start of a stream with a newline in it has the request target of the whole stream. -/
lemma parseRequestTarget_of_isPrefix {buf stream : List UInt8} (h : buf <+: stream)
    (hmem : 10 ∈ buf) :
    parseRequestTarget (decodeLossy buf) = parseRequestTarget (decodeLossy stream) := by
  obtain ⟨x, y, rfl⟩ := List.append_of_mem hmem
  obtain ⟨z, rfl⟩ := h
  have hnewline : Char.ofNat (10 : UInt8).toNat = '\n' := rfl
  have hline : ∀ t, firstLine (decodeLossy (x ++ 10 :: t)) =
      some (stripCr ((decodeLossy x).takeWhile (· ≠ '\n'))) := by
    intro t
    rw [decodeLossy_append_ascii (by decide), hnewline, firstLine_append]
  rw [List.append_assoc, List.cons_append]
  simp only [parseRequestTarget, hline]

/-! ## Results -/

lemma readHead_nil (reads : List Read) : readHead [] 0 reads = rescanHead [] reads :=
  readHead_eq_rescanHead (fun h => not_full_nil (.inl h)) reads

/-- The loop comes to an end on every stream. -/
lemma readHead_streamed {chunks : List (List UInt8)} (h : Readable chunks) :
    ∃ buf left, readHead [] 0 (streamed chunks) = .complete buf left ∧ Stops chunks buf left := by
  have hne : ∀ c ∈ chunks, c ≠ [] := fun c hc => List.length_pos_iff.mp (h c hc).1
  rw [readHead_nil]
  refine stops_rescanHead [] chunks ?_ hne
  intro p hp
  rw [List.prefix_nil.mp hp]
  exact not_full_nil

/-- A head that ends within the limit has the request target of the whole stream. -/
lemma Stops.parseRequestTarget_eq {chunks : List (List UInt8)} {buf : List UInt8}
    {left : List Read} (h : Stops chunks buf left) {a b : List UInt8}
    (heq : chunks.flatten = a ++ terminator ++ b)
    (hlen : (a ++ terminator).length ≤ maxRequestBytes) :
    parseRequestTarget (decodeLossy buf) = parseRequestTarget (decodeLossy chunks.flatten) := by
  rw [List.length_append, length_terminator] at hlen
  exact parseRequestTarget_of_isPrefix h.isPrefix (h.newline_mem heq hlen)

/-- **The incremental search agrees with a search of the whole buffer.**  However the stream is cut
into reads, the loop stops with the first read that completes the head or reaches the limit, or at
the end of the stream, below the limit and one read more.  If the head ends within the limit, every
way of cutting the stream gives the request target of the stream. -/
theorem readHead_exact :
    (∀ reads, readHead [] 0 reads = rescanHead [] reads) ∧
    (∀ chunks, Readable chunks →
      ∃ buf left, readHead [] 0 (streamed chunks) = .complete buf left ∧
        Stops chunks buf left ∧ buf.length < maxRequestBytes + chunkSize) ∧
    (∀ chunks a b, Readable chunks → chunks.flatten = a ++ terminator ++ b →
      (a ++ terminator).length ≤ maxRequestBytes →
      ∀ buf left, readHead [] 0 (streamed chunks) = .complete buf left →
        parseRequestTarget (decodeLossy buf) =
          parseRequestTarget (decodeLossy (a ++ terminator ++ b))) := by
  refine ⟨readHead_nil, fun chunks h => ?_, fun chunks a b h heq hlen buf left hread => ?_⟩
  · obtain ⟨buf, left, hread, hstops⟩ := readHead_streamed h
    exact ⟨buf, left, hread, hstops, hstops.length_lt h⟩
  · obtain ⟨buf', left', hread', hstops⟩ := readHead_streamed h
    obtain ⟨rfl, rfl⟩ := HeadRead.complete.inj (hread.symm.trans hread')
    rw [← heq]
    exact hstops.parseRequestTarget_eq heq hlen

/-- The answer does not depend on how the request was cut into reads. -/
theorem handleConn_streamed (snaps : List StatsSnapshot) (n : NotifierSnapshot)
    {chunks : List (List UInt8)} (h : Readable chunks) {a b : List UInt8}
    (heq : chunks.flatten = a ++ terminator ++ b)
    (hlen : (a ++ terminator).length ≤ maxRequestBytes) :
    handleConn snaps n (streamed chunks) =
      some (respond snaps n (parseRequestTarget (decodeLossy chunks.flatten))) := by
  obtain ⟨buf, left, hread, hstops⟩ := readHead_streamed h
  rw [handleConn, hread]
  dsimp only
  rw [hstops.parseRequestTarget_eq heq hlen]

end Rfw.Metrics
