/-
# The health check

`GET /` answers `200 OK` only while every registered forwarder has its listener bound, and
`health_check` is a client of that route: `rfw --health-check` connects to the endpoint, sends one
request and looks at the first line of the answer.

`healthCheck_iff` puts the two together over the runs of a process, in which the endpoint and the
forwarders go on next to each other.  The flags of the forwarders are read as one snapshot.
-/
import Rfw.Forwarder.Alerts
import Rfw.Forwarder.Drain
import Rfw.Metrics.Serve

namespace Rfw.Metrics

open Lib Lib.Utf8 Forwarder

/-! ## The client -/

/-- The request of `health_check`. -/
def probeRequest : Str :=
  "GET / HTTP/1.1\r\nHost: localhost\r\nConnection: close\r\n\r\n".toList

/-- What the exchange with the endpoint comes to. -/
inductive Probe
  /-- `PROBE_TIMEOUT` is over. -/
  | timedOut
  /-- Connecting, writing or reading failed. -/
  | failed (error : Str)
  /-- Everything until the end of the stream. -/
  | answered (response : List UInt8)
deriving DecidableEq, Repr

/-- `health_check`, given the address as it parses and the exchange. -/
def healthCheck (addr : Str) (parsed : Except Str SocketAddr) (probe : Probe) : Except Str Unit :=
  match parsed with
  | .error e =>
      .error ("--health-check '".toList ++ addr ++ "' is not a host:port address: ".toList ++ e)
  | .ok _ =>
      match probe with
      | .timedOut => .error "health check timed out after 5s".toList
      | .failed e =>
          .error ("health check could not reach ".toList ++ addr ++ ": ".toList ++ e)
      | .answered response =>
          let head := decodeLossy response
          if "HTTP/1.1 200 OK".toList.isPrefixOf head then .ok ()
          else
            .error ("health check got an unhealthy response from ".toList ++ addr ++ ": ".toList ++
              (firstLine head).getD "<empty response>".toList)

/-! ## The server's side -/

/-- `ForwarderStats::snapshot`, with the flag of the listener and the sampled rates. -/
def snapshot (stats : ForwarderStats) (listening : Bool) (rates : ℕ × ℕ) : StatsSnapshot where
  label := stats.label
  protocol := stats.protocol
  bytesSent := stats.bytesSent
  bytesReceived := stats.bytesReceived
  datagramsSent := stats.datagramsSent
  datagramsReceived := stats.datagramsReceived
  datagramsDropped := stats.datagramsDropped
  activeConnections := stats.activeConnections
  rejectedConnections := stats.rejectedConnections
  rateSentBps := rates.1
  rateRecvBps := rates.2
  listening := listening
  targetReachable := stats.targetReachable

/-- The TCP forwarders in the registry: `stop_one` and `shutdown_all` take a forwarder out only when
they have its task. -/
def registered (s : ManagedFleet) : List Listener :=
  (s.fleet.listeners.zipIdx.filter fun p => p.2 ∈ s.handles ∨ p.2 ∈ s.awaiting).map Prod.fst

lemma mem_listeners_of_registered {s : ManagedFleet} {l : Listener} (h : l ∈ registered s) :
    l ∈ s.fleet.listeners := by
  obtain ⟨⟨m, i⟩, hm, rfl⟩ := List.mem_map.mp h
  exact List.mem_of_getElem? (List.mk_mem_zipIdx_iff_getElem?.mp (List.mem_filter.mp hm).1)

/-- `StatsRegistry::collect`, with the snapshots of the UDP forwarders. -/
def collect (s : ManagedFleet) (rates : Listener → ℕ × ℕ) (udp : List StatsSnapshot) :
    List StatsSnapshot :=
  (registered s).map (fun l => snapshot l.stats l.listening (rates l)) ++ udp

/-- A process: its forwarders, and the endpoint that reads their registry. -/
structure Served where
  fleet : ManagedFleet
  server : Server

namespace Served

/-- What can happen next. -/
inductive Input
  | fleet (i : ManagedFleet.Input)
  | server (i : Server.Input)
  /-- A task of the endpoint reads the registry. -/
  | collect (i : ℕ) (rates : Listener → ℕ × ℕ) (udp : List StatsSnapshot) (n : NotifierSnapshot)

/-- A process that has not started a forwarder, nor bound its endpoint. -/
def init (settings : Settings) (addr : Str) : Served :=
  ⟨ManagedFleet.init settings, Server.init addr⟩

/-- One step of a forwarder or of the endpoint, which reads nothing but the registry. -/
def step (s : Served) : Input → Option Served
  | .fleet i => (ManagedFleet.step s.fleet i).map fun fleet => { s with fleet }
  | .server (.collect ..) => none
  | .server i => (Server.step s.server i).map fun server => { s with server }
  | .collect i rates udp n =>
      (Server.step s.server (.collect i (Metrics.collect s.fleet rates udp) n)).map fun server =>
        { s with server }

/-- The steps of a client that sends some chunks on a new connection and reads the answer. -/
def exchange (s : Served) (chunks : List (List UInt8)) (rates : Listener → ℕ × ℕ)
    (udp : List StatsSnapshot) (n : NotifierSnapshot) : List Input :=
  let i := s.server.requests.length
  .server .accept :: chunks.map (fun chunk => .server (.read i (.data chunk))) ++
    [.collect i rates udp n, .server (.written i true)]

/-- Every TCP forwarder in the registry has its accept loop, and every UDP forwarder its
listener. -/
def Serving (s : Served) (udp : List StatsSnapshot) : Prop :=
  (∀ l ∈ registered s.fleet, l.phase.serving = true) ∧ ∀ u ∈ udp, u.listening = true

instance (s : Served) (udp : List StatsSnapshot) : Decidable (s.Serving udp) :=
  inferInstanceAs (Decidable (_ ∧ _))

end Served

/-! ## The request on its way -/

/-- Once the end of the head has been read, the loop does not look at what comes behind. -/
lemma rescanHead_append {buf : List UInt8} {chunks : List (List UInt8)}
    (hbuf : ¬ terminator <:+: buf) (hall : terminator <:+: buf ++ chunks.flatten)
    (hne : ∀ c ∈ chunks, c ≠ []) (rest rest' : List Read) :
    ∃ b left left', rescanHead buf (chunks.map .data ++ rest) = .complete b left ∧
      rescanHead buf (chunks.map .data ++ rest') = .complete b left' := by
  induction chunks generalizing buf with
  | nil =>
    rw [List.flatten_nil, List.append_nil] at hall
    exact absurd hall hbuf
  | cons c chunks ih =>
    have hc : c ≠ [] := hne c List.mem_cons_self
    simp only [List.map_cons, List.cons_append, rescanHead, if_neg hc]
    by_cases hstop :
        (hasTerminator (buf ++ c) || decide (maxRequestBytes ≤ (buf ++ c).length)) = true
    · rw [if_pos hstop, if_pos hstop]
      exact ⟨buf ++ c, _, _, rfl, rfl⟩
    · rw [if_neg hstop, if_neg hstop]
      refine ih (fun hterminator => hstop ?_) ?_ fun d hd => hne d (List.mem_cons_of_mem c hd)
      · rw [hasTerminator_iff.mpr hterminator, Bool.true_or]
      · rwa [List.flatten_cons, ← List.append_assoc] at hall

/-- The loop waits as long as the buffer is not full. -/
lemma rescanHead_eq_waiting {buf : List UInt8} {chunks : List (List UInt8)}
    (hne : ∀ c ∈ chunks, c ≠ []) (h : ¬ Full (buf ++ chunks.flatten)) :
    rescanHead buf (chunks.map .data) = .waiting := by
  induction chunks generalizing buf with
  | nil => rfl
  | cons c chunks ih =>
    rw [List.flatten_cons, ← List.append_assoc] at h
    have hstop : ¬ Full (buf ++ c) := by
      rintro (hfull | hfull)
      · exact h (.inl (hfull.trans (List.prefix_append _ _).isInfix))
      · exact h (.inr (hfull.trans (List.prefix_append _ _).length_le))
    rw [List.map_cons, rescanHead, if_neg (hne c List.mem_cons_self), if_neg (mt full_iff.mp hstop)]
    exact ih (fun d hd => hne d (List.mem_cons_of_mem c hd)) h

/-- The answer to a complete head does not wait for the end of the stream. -/
lemma handleConn_append (snaps : List StatsSnapshot) (n : NotifierSnapshot)
    {chunks : List (List UInt8)} (hall : terminator <:+: chunks.flatten)
    (hne : ∀ c ∈ chunks, c ≠ []) (rest : List Read) :
    handleConn snaps n (chunks.map .data ++ rest) = handleConn snaps n (streamed chunks) := by
  obtain ⟨b, left, left', hleft, hleft'⟩ :=
    rescanHead_append (fun h => not_full_nil (.inl h)) hall hne rest [.data []]
  rw [handleConn, handleConn, readHead_nil, readHead_nil, streamed, hleft, hleft']

/-- The request of the health check is answered by `render_health`, however it arrives. -/
lemma handleConn_probeRequest (snaps : List StatsSnapshot) (n : NotifierSnapshot)
    {chunks : List (List UInt8)} (hchunks : Readable chunks)
    (hrequest : chunks.flatten = encode probeRequest) (rest : List Read) :
    handleConn snaps n (chunks.map .data ++ rest) = some (renderHealth snaps) := by
  have hhead : encode probeRequest =
      encode "GET / HTTP/1.1\r\nHost: localhost\r\nConnection: close".toList ++ terminator ++
        [] := by
    decide
  have htarget : parseRequestTarget probeRequest = some "/".toList := by decide
  have hall : terminator <:+: chunks.flatten := by
    rw [hrequest, hhead]
    exact ⟨_, _, rfl⟩
  have hne : ∀ c ∈ chunks, c ≠ [] := fun c hc => List.length_pos_iff.mp (hchunks c hc).1
  rw [handleConn_append snaps n hall hne,
    handleConn_streamed snaps n hchunks (hrequest.trans hhead) (by decide), hrequest,
    decodeLossy_encode, htarget]
  rfl

/-- The loop reads on until all of the request is there. -/
lemma not_full_of_part {part rest : List UInt8} (h : part ++ rest = encode probeRequest)
    (hrest : rest ≠ []) : ¬ Full part := by
  have hpart : part <+: (encode probeRequest).dropLast :=
    ⟨rest.dropLast, by rw [← h, List.dropLast_append_of_ne_nil hrest]⟩
  have hsearch : hasTerminator (encode probeRequest).dropLast = false := by decide
  have hlength : (encode probeRequest).dropLast.length < maxRequestBytes := by decide
  rintro (hfull | hfull)
  · rw [hasTerminator_iff.mpr (hfull.trans hpart.isInfix)] at hsearch
    cases hsearch
  · exact absurd hpart.length_le (by omega)

/-- A task that has read a part of the request goes on reading. -/
lemma afterReads_part {before after : List (List UInt8)} (hchunks : Readable (before ++ after))
    (hrequest : (before ++ after).flatten = encode probeRequest) (hafter : after ≠ []) :
    Server.afterReads (before.map .data) = .reading := by
  have hne : ∀ c ∈ before ++ after, c ≠ [] := fun c hc => List.length_pos_iff.mp (hchunks c hc).1
  have hrest : after.flatten ≠ [] := by
    obtain ⟨c, cs, rfl⟩ := List.exists_cons_of_ne_nil hafter
    rw [List.flatten_cons]
    exact List.append_ne_nil_of_left_ne_nil (hne c (by simp)) _
  rw [List.flatten_append] at hrequest
  rw [Server.afterReads, readHead_nil, rescanHead_eq_waiting
    (fun c hc => hne c (List.mem_append_left _ hc)) (not_full_of_part hrequest hrest)]

/-- A task that has read the request has the head that `render_health` answers. -/
lemma afterReads_probeRequest {chunks : List (List UInt8)} (hchunks : Readable chunks)
    (hrequest : chunks.flatten = encode probeRequest) :
    ∃ buf, Server.afterReads (chunks.map .data) = .collecting buf ∧
      ∀ snaps n, respond snaps n (parseRequestTarget (decodeLossy buf)) = renderHealth snaps := by
  have hanswer := fun snaps n => handleConn_probeRequest snaps n hchunks hrequest []
  simp only [List.append_nil, handleConn] at hanswer
  unfold Server.afterReads
  cases hhead : readHead [] 0 (chunks.map .data) with
  | complete buf left =>
    simp only [hhead] at hanswer
    exact ⟨buf, rfl, fun snaps n => Option.some.inj (hanswer snaps n)⟩
  | failed e | expired | waiting =>
    simp only [hhead] at hanswer
    cases hanswer [] ⟨false, 0, 0, 0, 0⟩

/-! ## The verdict -/

lemma renderHealth_of_listening {snaps : List StatsSnapshot} (h : ∀ s ∈ snaps, s.listening = true) :
    renderHealth snaps = httpResponse "200 OK" "text/plain" "rfw ok\n".toList := by
  have hnone : (snaps.filter fun s => !s.listening) = [] := by
    rw [List.filter_eq_nil_iff]
    intro s hs
    simp [h s hs]
  simp only [renderHealth, hnone, List.map_nil, if_true]

lemma renderHealth_of_not_listening {snaps : List StatsSnapshot}
    (h : ¬ ∀ s ∈ snaps, s.listening = true) :
    ∃ body, renderHealth snaps = httpResponse "503 Service Unavailable" "text/plain" body := by
  have hsome : ((snaps.filter fun s => !s.listening).map StatsSnapshot.label) ≠ [] := by
    intro hnil
    rw [List.map_eq_nil_iff, List.filter_eq_nil_iff] at hnil
    exact h fun s hs => by simpa using hnil s hs
  exact ⟨_, if_neg hsome⟩

/-- What `health_check` makes of the answer of the health route. -/
lemma healthCheck_renderHealth (addr : Str) (parsed : SocketAddr) (snaps : List StatsSnapshot) :
    healthCheck addr (.ok parsed) (.answered (encode (renderHealth snaps))) =
      if ∀ s ∈ snaps, s.listening = true then .ok ()
      else .error ("health check got an unhealthy response from ".toList ++ addr ++
        ": ".toList ++
        "HTTP/1.1 503 Service Unavailable".toList) := by
  simp only [healthCheck, decodeLossy_encode]
  by_cases h : ∀ s ∈ snaps, s.listening = true
  · rw [renderHealth_of_listening h, if_pos h]
    rfl
  · obtain ⟨body, hbody⟩ := renderHealth_of_not_listening h
    obtain ⟨rest, hrest⟩ :
        ∃ rest, httpResponse "503 Service Unavailable" "text/plain" body =
          "HTTP/1.1 503 Service Unavailable\r".toList ++ '\n' :: rest := ⟨_, rfl⟩
    have hline : firstLine (httpResponse "503 Service Unavailable" "text/plain" body) =
        some "HTTP/1.1 503 Service Unavailable".toList := by
      rw [hrest, firstLine_append]
      decide
    rw [hbody, if_neg h, hline]
    refine (if_neg ?_).trans ?_
    · rw [hrest]
      exact Bool.false_ne_true
    · rfl

namespace Served

variable {s s' : Served}

/-- A step is one of a forwarder, or one of the endpoint, which reads the registry as it is. -/
lemma step_cases {i : Input} (h : step s i = some s') :
    (∃ j, ManagedFleet.step s.fleet j = some s'.fleet) ∧ s'.server = s.server ∨
      s'.fleet = s.fleet ∧ ∃ j, Server.step s.server j = some s'.server ∧
        ∀ k snaps n, j = .collect k snaps n →
          ∃ rates udp, i = .collect k rates udp n ∧ snaps = collect s.fleet rates udp := by
  cases i with
  | fleet i =>
    obtain ⟨fleet, hfleet, rfl⟩ := Option.map_eq_some_iff.mp h
    exact .inl ⟨⟨i, hfleet⟩, rfl⟩
  | server i =>
    have hother (hnot : ∀ k snaps n, i ≠ .collect k snaps n)
        (h : (Server.step s.server i).map (fun server => { s with server }) = some s') :
        s'.fleet = s.fleet ∧ ∃ j, Server.step s.server j = some s'.server ∧
          ∀ k snaps n, j = .collect k snaps n →
            ∃ rates udp, Input.server i = .collect k rates udp n ∧
              snaps = collect s.fleet rates udp := by
      obtain ⟨server, hserver, rfl⟩ := Option.map_eq_some_iff.mp h
      exact ⟨rfl, i, hserver, fun k snaps n heq => absurd heq (hnot k snaps n)⟩
    cases i with
    | collect i snaps n => cases h
    | _ => exact .inr (hother nofun h)
  | collect i rates udp n =>
    obtain ⟨server, hserver, rfl⟩ := Option.map_eq_some_iff.mp h
    refine .inr ⟨rfl, _, hserver, fun k snaps n heq => ?_⟩
    cases heq
    exact ⟨rates, udp, rfl, rfl⟩

lemma bounded_of_run {settings : Settings} {addr : Str} {is : List Input}
    (h : run step (init settings addr) is = some s) : s.server.Bounded := by
  refine run_invariant (I := fun s => s.server.Bounded) (fun s i s' hs hstep => ?_)
    (Server.bounded_init addr) h
  obtain ⟨-, hkept⟩ | ⟨-, j, hserver, -⟩ := step_cases hstep
  · rwa [hkept]
  · exact Server.bounded_step _ _ _ hs hserver

/-- The forwarders do not see the endpoint. -/
lemma exists_fleet_run {settings : Settings} {addr : Str} {is : List Input}
    (h : run step (init settings addr) is = some s) :
    ∃ js, run ManagedFleet.step (ManagedFleet.init settings) js = some s.fleet := by
  refine exists_run_of_simulation (f := fleet) (fun s i s' hstep => ?_) h
  obtain ⟨⟨j, hfleet⟩, -⟩ | ⟨hkept, -⟩ := step_cases hstep
  · exact ⟨[j], (run_singleton _ _).trans hfleet⟩
  · exact ⟨[], by rw [hkept, run_nil]⟩

/-- What the check makes of the answer tells whether every port was served when the registry was
read. -/
lemma healthCheck_collect {settings : Settings} {server : Str} {is : List Input}
    (h : run step (init settings server) is = some s) (rates : Listener → ℕ × ℕ)
    (udp : List StatsSnapshot) (addr : Str) (parsed : SocketAddr) :
    healthCheck addr (.ok parsed) (.answered (encode (renderHealth (collect s.fleet rates udp)))) =
      if s.Serving udp then .ok ()
      else .error ("health check got an unhealthy response from ".toList ++ addr ++
        ": ".toList ++ "HTTP/1.1 503 Service Unavailable".toList) := by
  obtain ⟨js, hjs⟩ := exists_fleet_run h
  obtain ⟨ks, hks⟩ := ManagedFleet.exists_fleet_run hjs
  have hflag : ∀ l ∈ registered s.fleet, l.listening = l.phase.serving := fun l hl =>
    (Fleet.opened_of_run hks l (mem_listeners_of_registered hl)).listening
  have hiff : (∀ x ∈ collect s.fleet rates udp, x.listening = true) ↔ s.Serving udp := by
    rw [collect, List.forall_mem_append, List.forall_mem_map]
    refine and_congr (forall₂_congr fun l hl => ?_) Iff.rfl
    rw [← hflag l hl]
    rfl
  rw [healthCheck_renderHealth]
  exact if_congr hiff rfl rfl

/-- An answer comes from a registry that a task has read on the way. -/
lemma exists_collect {settings : Settings} {addr : Str} {is : List Input}
    (h : run step (init settings addr) is = some s) {i : ℕ} {reads : List Read} {response : Str}
    (hanswers : s.server.Answers i reads response) :
    ∃ pre rates udp n post m, is = pre ++ .collect i rates udp n :: post ∧
      run step (init settings addr) pre = some m ∧
      handleConn (collect m.fleet rates udp) n reads = some response := by
  have hnone : ¬ (init settings addr).server.Answers i reads response := by
    rintro ⟨q, hq, -⟩
    cases hq
  obtain ⟨pre, input, post, m, m', rfl, hpre, hstep, hno, hyes⟩ :=
    exists_step_of_change (P := fun m : Served => m.server.Answers i reads response) hnone
      hanswers h
  obtain ⟨-, hkept⟩ | ⟨-, j, hserver, hregistry⟩ := step_cases hstep
  · rw [hkept] at hyes
    exact absurd hyes hno
  · obtain ⟨snaps, n, hcollect, hhandle⟩ :=
      Server.answers_step (bounded_of_run hpre).sound hno hyes hserver
    obtain ⟨rates, udp, rfl, rfl⟩ := hregistry i snaps n hcollect
    exact ⟨pre, rates, udp, n, post, m, rfl, hpre, hhandle⟩

/-- The chunks of the request, read one after the other. -/
lemma run_reads {i expires : ℕ} (before after : List (List UInt8))
    (hchunks : Readable (before ++ after))
    (hrequest : (before ++ after).flatten = encode probeRequest)
    (hq : s.server.requests[i]? =
      some ⟨expires, before.map .data, Server.afterReads (before.map .data)⟩) :
    ∃ t, run step s (after.map fun chunk => .server (.read i (.data chunk))) = some t ∧
      t.fleet = s.fleet ∧ t.server.requests[i]? =
        some ⟨expires, (before ++ after).map .data,
          Server.afterReads ((before ++ after).map .data)⟩ := by
  induction after generalizing s before with
  | nil => exact ⟨s, rfl, rfl, by rwa [List.append_nil]⟩
  | cons chunk after ih =>
    have hassoc : before ++ chunk :: after = (before ++ [chunk]) ++ after := by simp
    have hreading := afterReads_part hchunks hrequest (List.cons_ne_nil chunk after)
    have hcan : Server.CanRead s.server.clock expires (.data chunk) :=
      (hchunks chunk (List.mem_append_right _ List.mem_cons_self)).2
    rw [hassoc] at hchunks hrequest ⊢
    have hstep : step s (.server (.read i (.data chunk))) =
        some { s with
          server := s.server.advance i ⟨expires, (before ++ [chunk]).map .data,
            Server.afterReads ((before ++ [chunk]).map .data)⟩ } := by
      simp only [step, Server.step, hq, Option.bind_some, hreading, hcan, and_self, if_true,
        Option.map_some, List.map_append, List.map_singleton]
    obtain ⟨t, hrun, hfleet, ht⟩ := ih (s := { s with server := s.server.advance i _ })
      _ hchunks hrequest (List.getElem?_set_self (List.getElem?_eq_some_iff.mp hq).1)
    exact ⟨t, run_cons_eq_some.mpr ⟨_, hstep, hrun⟩, hfleet, ht⟩

/-- A connection is admitted when a permit is left. -/
lemma exists_accept (haccepting : s.server.phase = .accepting) (hpermit : 0 < s.server.available) :
    ∃ t, step s (.server .accept) = some t ∧ t.fleet = s.fleet ∧
      t.server.requests[s.server.requests.length]? =
        some ⟨s.server.clock + requestReadTimeout, [], .reading⟩ := by
  obtain ⟨available, havailable⟩ := Nat.exists_eq_add_of_lt hpermit
  rw [Nat.zero_add] at havailable
  simp only [step, Server.step, haccepting, havailable, if_true, Option.map_some]
  exact ⟨_, rfl, rfl, List.getElem?_concat_length ..⟩

/-- A task that has read a head answers it, from the registry as it is. -/
lemma run_answer {i expires : ℕ} {reads : List Read} {buf : List UInt8}
    (hq : s.server.requests[i]? = some ⟨expires, reads, .collecting buf⟩)
    (rates : Listener → ℕ × ℕ) (udp : List StatsSnapshot) (n : NotifierSnapshot) :
    ∃ t, run step s [.collect i rates udp n, .server (.written i true)] = some t ∧
      t.server.requests[i]? = some ⟨expires, reads, .finished (some
        (respond (collect s.fleet rates udp) n (parseRequestTarget (decodeLossy buf))))⟩ := by
  have hlt := (List.getElem?_eq_some_iff.mp hq).1
  have hcollect : step s (.collect i rates udp n) = some { s with
      server := s.server.advance i ⟨expires, reads, .writing
        (respond (collect s.fleet rates udp) n (parseRequestTarget (decodeLossy buf)))⟩ } := by
    simp only [step, Server.step, hq, Option.bind_some, Option.map_some]
  rw [run_cons, hcollect, Option.bind_some, run_singleton]
  simp only [step, Server.step, Server.advance, List.getElem?_set_self hlt, Option.bind_some,
    Option.map_some, if_true]
  exact ⟨_, rfl, List.getElem?_set_self (by rwa [List.length_set])⟩

/-- An admitted check is answered. -/
lemma run_exchange {chunks : List (List UInt8)} (hchunks : Readable chunks)
    (hrequest : chunks.flatten = encode probeRequest) (haccepting : s.server.phase = .accepting)
    (hpermit : 0 < s.server.available) (rates : Listener → ℕ × ℕ) (udp : List StatsSnapshot)
    (n : NotifierSnapshot) :
    ∃ t q, run step s (s.exchange chunks rates udp n) = some t ∧
      t.server.requests[s.server.requests.length]? = some q ∧ q.reads = chunks.map .data ∧
      q.step = .finished (some (renderHealth (collect s.fleet rates udp))) := by
  obtain ⟨t, haccept, hfleet, hq⟩ := exists_accept haccepting hpermit
  obtain ⟨buf, hbuf, hrespond⟩ := afterReads_probeRequest hchunks hrequest
  obtain ⟨u, hreads, hfleet', hq⟩ := run_reads [] chunks hchunks hrequest hq
  rw [List.nil_append, hbuf] at hq
  obtain ⟨v, hanswer, hq⟩ := run_answer hq rates udp n
  rw [hrespond, hfleet', hfleet] at hq
  refine ⟨v, _, ?_, hq, rfl, rfl⟩
  rw [exchange, List.cons_append, run_cons_eq_some]
  exact ⟨t, haccept, run_append.mpr ⟨u, hreads, hanswer⟩⟩

/-- **The health check tells whether every port is served.**  In every run of a process, whenever
the endpoint has answered the request of the check, however that was cut into reads, the check
succeeds exactly if, when the registry was read for the answer, the accept loop of each registered
TCP forwarder was alive and the listener of each registered UDP forwarder was bound; otherwise its
error names the status.  And from every reachable state in which the endpoint accepts and has a
permit left, the steps of an exchange lead to such an answer. -/
theorem healthCheck_iff {settings : Settings} {server : Str} {is : List Input}
    (h : run step (init settings server) is = some s) (addr : Str) (parsed : SocketAddr)
    {chunks : List (List UInt8)} (hchunks : Readable chunks)
    (hrequest : chunks.flatten = encode probeRequest) :
    (∀ i q rest response, s.server.requests[i]? = some q → q.reads = chunks.map .data ++ rest →
      q.step = .finished (some response) →
      ∃ pre rates udp n post m, is = pre ++ .collect i rates udp n :: post ∧
        run step (init settings server) pre = some m ∧
        healthCheck addr (.ok parsed) (.answered (encode response)) =
          if m.Serving udp then .ok ()
          else .error ("health check got an unhealthy response from ".toList ++ addr ++
            ": ".toList ++ "HTTP/1.1 503 Service Unavailable".toList)) ∧
    (s.server.phase = .accepting → 0 < s.server.available → ∀ rates udp n, ∃ t q response,
      run step s (s.exchange chunks rates udp n) = some t ∧
        t.server.requests[s.server.requests.length]? = some q ∧ q.reads = chunks.map .data ∧
        q.step = .finished (some response) ∧
        healthCheck addr (.ok parsed) (.answered (encode response)) =
          if s.Serving udp then .ok ()
          else .error ("health check got an unhealthy response from ".toList ++ addr ++
            ": ".toList ++ "HTTP/1.1 503 Service Unavailable".toList)) := by
  refine ⟨fun i q rest response hq hreads hanswer => ?_,
    fun haccepting hpermit rates udp n => ?_⟩
  · obtain ⟨pre, rates, udp, n, post, m, his, hpre, hhandle⟩ :=
      exists_collect h ⟨q, hq, hreads, .inr hanswer⟩
    rw [handleConn_probeRequest _ n hchunks hrequest rest] at hhandle
    obtain rfl := Option.some.inj hhandle
    exact ⟨pre, rates, udp, n, post, m, his, hpre, healthCheck_collect hpre rates udp addr parsed⟩
  · obtain ⟨t, q, hrun, hq, hreads, hanswer⟩ :=
      run_exchange hchunks hrequest haccepting hpermit rates udp n
    exact ⟨t, q, _, hrun, hq, hreads, hanswer, healthCheck_collect h rates udp addr parsed⟩

/-- Two forwarders, of which one has its listener, and an endpoint that accepts. -/
def halfBound : List Input :=
  [.fleet (.start ⟨"127.0.0.1".toList, 8080, "10.0.0.1".toList, 80, .tcp⟩
      (some (.v4 0x0A000001)) 0),
    .fleet (.start ⟨"127.0.0.1".toList, 8081, "10.0.0.1".toList, 80, .tcp⟩
      (some (.v4 0x0A000001)) 0),
    .fleet (.fleet (.listener 0 (.bind .poll))), .server (.bind none),
    .fleet (.fleet (.listener 0 (.bind .succeed))), .server .poll]

theorem healthCheck_iff_halfBound :
    ∃ s t q response, run step (init Settings.default "[::1]:9100".toList) halfBound = some s ∧
      run step s (s.exchange [encode probeRequest] (fun _ => (0, 0)) [] ⟨false, 0, 0, 0, 0⟩) =
        some t ∧
      t.server.requests[0]? = some q ∧ q.step = .finished (some response) ∧
      healthCheck "[::1]:9100".toList (.ok (.v6 1 9100 0 0)) (.answered (encode response)) =
        .error ("health check got an unhealthy response from [::1]:9100: ".toList ++
          "HTTP/1.1 503 Service Unavailable".toList) := by
  obtain ⟨s, hs, hdark, haccepting, hpermit, hnone⟩ : ∃ s,
      run step (init Settings.default "[::1]:9100".toList) halfBound = some s ∧
      (registered s.fleet).map (fun l => l.phase.serving) = [true, false] ∧
      s.server.phase = .accepting ∧ s.server.available = 32 ∧ s.server.requests.length = 0 :=
    ⟨_, rfl, rfl, rfl, rfl, rfl⟩
  have hchunks : Readable [encode probeRequest] := by
    intro c hc
    obtain rfl := List.mem_singleton.mp hc
    decide
  have hsome : ¬ s.Serving [] := fun hall => by
    have hmem : false ∈ (registered s.fleet).map (fun l => l.phase.serving) := by rw [hdark]; simp
    obtain ⟨l, hl, hfalse⟩ := List.mem_map.mp hmem
    rw [hall.1 l hl] at hfalse
    cases hfalse
  obtain ⟨-, hexchange⟩ := healthCheck_iff hs "[::1]:9100".toList (.v6 1 9100 0 0) hchunks
    (List.append_nil _)
  obtain ⟨t, q, response, hrun, hq, -, hanswer, hcheck⟩ :=
    hexchange haccepting (by omega) (fun _ => (0, 0)) [] ⟨false, 0, 0, 0, 0⟩
  rw [hnone] at hq
  exact ⟨s, t, q, response, hs, hrun, hq, hanswer, hcheck.trans (if_neg hsome)⟩

end Served

end Rfw.Metrics
