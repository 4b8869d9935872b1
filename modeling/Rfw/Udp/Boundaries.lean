/-
# Datagram boundaries

A forwarder between its clients and its target.  Each client's datagrams wait in order in the
listener's receive queue, and the target's answers in the queue of a session's socket.  A receive
takes one datagram, or, once receive offload was set on the socket, several consecutive ones of a
peer as one buffer, whose segment only a receive that looks for it sees.  Any datagram can get lost.

In every run, what a session emits is a subsequence of what was sent to it: no datagram is merged
with another one, split, altered, repeated or overtaken.
-/
import Rfw.Lib.Transition
import Rfw.Udp.Moves

namespace Rfw.Udp

open Lib

/-! ## The kernel -/

/-- A receive, with the datagrams that were taken off the queue for it. -/
structure Delivery where
  datagrams : List Bytes
  recv : Recv

/-- What the kernel may hand over on a socket; `gro` says whether receive offload was ever set on
it.  Only a burst can be longer than the buffer. -/
def Delivery.Honest (gro : Bool) (d : Delivery) : Prop :=
  if d.recv.truncated then gro = true
  else
    (d.datagrams = [d.recv.data] ∧
      (d.recv.segment = 0 ∨ d.recv.data.length ≤ d.recv.segment)) ∨
    (gro = true ∧ 2 ≤ d.datagrams.length ∧ EqualPieces d.recv.segment d.datagrams ∧
      d.recv.data = d.datagrams.flatten)

instance (gro : Bool) (d : Delivery) : Decidable (d.Honest gro) :=
  inferInstanceAs (Decidable (ite _ _ _))

/-- A forwarder with what its peers have sent and what of it waits in its receive queues. -/
structure Network where
  engine : Engine
  clientSent : SocketAddr → List Bytes
  clientQueue : SocketAddr → List Bytes
  /-- The datagrams that the target sent to the socket of a session. -/
  targetSent : ℕ → List Bytes
  targetQueue : ℕ → List Bytes

namespace Network

/-- What happens in the network. -/
inductive Action
  /-- A client sends a datagram, which arrives or gets lost. -/
  | clientSends (client : SocketAddr) (data : Bytes) (arrives : Bool)
  /-- The target answers a session, and the answer arrives or gets lost. -/
  | targetSends (sid : ℕ) (data : Bytes) (arrives : Bool)
  /-- The listener is readable. -/
  | listenerReceives (k : Kernel) (nowMs : ℕ) (ds : List (Except IoError Delivery))
  /-- A session's upstream socket is ready. -/
  | sessionReceives (k : Kernel) (nowMs : ℕ) (ds : List (Except IoError Delivery)) (sid : ℕ)
  /-- Anything else that the forwarder does. -/
  | act (a : Udp.Action)

/-- Receive offload was set on the listener or on the socket of a session. -/
def groSet (n : Network) (session : Option ℕ) : Bool :=
  decide (Event.setGro session true ∈ n.engine.trace)

/-- The datagrams of a client among those taken off the listener's queue. -/
def takenFrom (ds : List Delivery) (c : SocketAddr) : List Bytes :=
  ds.flatMap fun d => if d.recv.sender = some c then d.datagrams else []

/-- A forwarder that has just been started. -/
def start (cfg : ForwarderConfig) (knobs : RuntimeKnobs) (literal : Option IpAddr)
    (udpLimit : ℕ) : Network where
  engine := Engine.start cfg knobs literal udpLimit
  clientSent := fun _ => []
  clientQueue := fun _ => []
  targetSent := fun _ => []
  targetQueue := fun _ => []

/-- One step of the network.  Deliveries beyond the last receive of a drain get lost. -/
def step (n : Network) : Action → Option Network
  | .clientSends client data arrives =>
      some { n with
        clientSent := Function.update n.clientSent client (n.clientSent client ++ [data])
        clientQueue :=
          if arrives then Function.update n.clientQueue client (n.clientQueue client ++ [data])
          else n.clientQueue }
  | .targetSends sid data arrives =>
      if sid < n.engine.fresh then
        some { n with
          targetSent := Function.update n.targetSent sid (n.targetSent sid ++ [data])
          targetQueue :=
            if arrives then Function.update n.targetQueue sid (n.targetQueue sid ++ [data])
            else n.targetQueue }
      else none
  | .listenerReceives k nowMs ds =>
      let got := ds.filterMap Except.toOption
      if (∀ d ∈ got, d.Honest (n.groSet none)) ∧
          ∀ d ∈ got, ∀ c ∈ d.recv.sender, takenFrom got c <+: n.clientQueue c then
        (Udp.step n.engine (.readable k nowMs (ds.map (·.map Delivery.recv)))).map fun engine =>
          { n with
            engine
            clientQueue := fun c => (n.clientQueue c).drop (takenFrom got c).length }
      else none
  | .sessionReceives k nowMs ds sid =>
      let got := ds.filterMap Except.toOption
      if (∀ d ∈ got, d.Honest (n.groSet (some sid))) ∧
          got.flatMap Delivery.datagrams <+: n.targetQueue sid then
        (Udp.step n.engine (.sessionReady k nowMs (ds.map (·.map Delivery.recv)) sid)).map
          fun engine =>
            { n with
              engine
              targetQueue := Function.update n.targetQueue sid
                ((n.targetQueue sid).drop (got.flatMap Delivery.datagrams).length) }
      else none
  | .act (.readable _ _ _) => none
  | .act (.sessionReady _ _ _ _) => none
  | .act a => (Udp.step n.engine a).map fun engine => { n with engine }

end Network

/-- A receive that looks for the segment whenever there can be one passes on the datagrams that
were sent. -/
lemma Delivery.Honest.carried {gro aware : Bool} {d : Delivery} (h : d.Honest gro)
    (haware : gro = true → aware = true) : (d.recv.carried aware).Sublist d.datagrams := by
  rw [Delivery.Honest] at h
  rw [Recv.carried]
  split at h
  · rename_i htruncated
    rw [if_pos (haware h), if_pos htruncated]
    exact List.nil_sublist _
  · rename_i htruncated
    rcases h with ⟨hone, hsegment⟩ | ⟨hgro, hlen, hequal, hdata⟩
    · have hsingle : ¬ isCoalesced d.recv.data.length d.recv.segment = true := by
        rw [isCoalesced_iff]
        omega
      rw [if_neg htruncated, pieces_of_not_coalesced hsingle, hone, ite_self]
    · obtain ⟨d₁, d₂, ds, hds⟩ : ∃ d₁ d₂ ds, d.datagrams = d₁ :: d₂ :: ds := by
        rcases hd : d.datagrams with _ | ⟨d₁, _ | ⟨d₂, ds⟩⟩
        · simp [hd] at hlen
        · simp [hd] at hlen
        · exact ⟨d₁, d₂, ds, rfl⟩
      rw [hds] at hequal
      have hcut := fun hs => chunks_flatten hs _ hequal
      obtain ⟨hfirst, hrest⟩ := hequal
      have hsecond := hrest.head_length
      have hburst : isCoalesced d.recv.data.length d.recv.segment = true := by
        rw [isCoalesced_iff, hdata, hds, List.flatten_cons, List.flatten_cons, List.length_append,
          List.length_append]
        omega
      rw [if_pos (haware hgro), if_neg htruncated, pieces_of_coalesced hburst, hdata, hds,
        hcut (by omega)]

/-! ## The invariant -/

/-- What the emitted datagrams, those that a session still holds, and those in the queues come to;
and a socket with receive offload is only read by receives that look for the segment. -/
structure Intact (n : Network) : Prop where
  owned : Owned none n.engine
  listener : .setGro none true ∈ n.engine.trace → n.engine.off.groAware = true
  upstream : ∀ sid, .setGro (some sid) true ∈ n.engine.trace →
    (n.engine.heap sid).gro = true ∧ sid < n.engine.fresh
  up : ∀ c, (sentUp c n.engine.trace ++ n.clientQueue c).Sublist (n.clientSent c)
  down : ∀ sid, (repliedDown sid n.engine.trace ++ (n.engine.heap sid).task.pending ++
    n.targetQueue sid).Sublist (n.targetSent sid)
  addressed : ∀ sid client call, .replied sid client call ∈ n.engine.trace →
    client = (n.engine.heap sid).client ∧ sid < n.engine.fresh

/-- A step of the forwarder that takes what it was given off the queues. -/
lemma Intact.moved {n : Network} (h : Intact n) {given : SocketAddr → List Bytes}
    {answers : ℕ → List Bytes} {evs : List Event} {engine : Engine} (howned : Owned none engine)
    (hmoved : Moved given answers evs n.engine engine) {clientQueue : SocketAddr → List Bytes}
    {targetQueue : ℕ → List Bytes}
    (hclients : ∀ c, (given c ++ clientQueue c).Sublist (n.clientQueue c))
    (htargets : ∀ sid, (answers sid ++ targetQueue sid).Sublist (n.targetQueue sid)) :
    Intact { n with engine, clientQueue, targetQueue } where
  owned := howned
  listener := by
    intro hmem
    rw [hmoved.trace] at hmem
    rcases List.mem_append.mp hmem with hmem | hmem
    · exact hmoved.aware (h.listener hmem)
    · exact hmoved.listener hmem
  upstream := by
    intro sid hmem
    rw [hmoved.trace] at hmem
    rcases List.mem_append.mp hmem with hmem | hmem
    · obtain ⟨hgro, hlt⟩ := h.upstream sid hmem
      exact ⟨(hmoved.kept sid hlt).2.trans hgro, hlt.trans_le hmoved.fresh⟩
    · exact hmoved.upstream sid hmem
  up := by
    intro c
    have hgiven := ((hmoved.up c).append (List.Sublist.refl (clientQueue c))).trans (hclients c)
    simp only [hmoved.trace, sentUp_append, List.append_assoc]
    exact ((List.Sublist.refl _).append hgiven).trans (h.up c)
  down := by
    intro sid
    have hanswers := (hmoved.down sid).append (List.Sublist.refl (targetQueue sid))
    rw [List.append_assoc (n.engine.heap sid).task.pending] at hanswers
    have hall := hanswers.trans ((List.Sublist.refl _).append (htargets sid))
    simp only [hmoved.trace, repliedDown_append, List.append_assoc] at hall ⊢
    have hdown := h.down sid
    rw [List.append_assoc] at hdown
    exact ((List.Sublist.refl _).append hall).trans hdown
  addressed := by
    intro sid client call hmem
    rw [hmoved.trace] at hmem
    rcases List.mem_append.mp hmem with hmem | hmem
    · obtain ⟨hclient, hlt⟩ := h.addressed sid client call hmem
      exact ⟨hclient.trans (hmoved.kept sid hlt).1.symm, hlt.trans_le hmoved.fresh⟩
    · exact hmoved.addressed sid client call hmem

/-- A datagram that a peer sends, and that arrives or gets lost. -/
lemma sublist_sends {κ : Type*} [DecidableEq κ] {emitted queue sent : κ → List Bytes}
    (h : ∀ x, (emitted x ++ queue x).Sublist (sent x)) (x₀ : κ) (data : Bytes) (arrives : Bool)
    (x : κ) :
    (emitted x ++
      (if arrives then Function.update queue x₀ (queue x₀ ++ [data]) else queue) x).Sublist
      (Function.update sent x₀ (sent x₀ ++ [data]) x) := by
  by_cases hx : x = x₀
  · subst hx
    cases arrives
    · simpa using (h x).trans (List.sublist_append_left _ [data])
    · simpa [List.append_assoc] using (h x).append (List.Sublist.refl [data])
  · cases arrives
    · simpa [hx] using h x
    · simpa [hx] using h x

/-! ## Every run -/

namespace Network

/-- What the receives on the listener pass on was taken off the queues for them. -/
lemma givenBy_sublist {gro aware : Bool} (haware : gro = true → aware = true)
    {ds : List (Except IoError Delivery)}
    (hhonest : ∀ d ∈ ds.filterMap Except.toOption, d.Honest gro) (c : SocketAddr) :
    (givenBy aware (ds.map (·.map Delivery.recv)) c).Sublist
      (takenFrom (ds.filterMap Except.toOption) c) := by
  rw [givenBy, filterMap_toOption_map, List.flatMap_map, takenFrom]
  refine List.Sublist.flatMap_right _ fun d hd => ?_
  split
  · exact (hhonest d hd).carried haware
  · exact List.Sublist.refl _

/-- What the receives of a session pass on was taken off its queue for them. -/
lemma answersBy_sublist {gro aware : Bool} (haware : gro = true → aware = true)
    {ds : List (Except IoError Delivery)}
    (hhonest : ∀ d ∈ ds.filterMap Except.toOption, d.Honest gro) (sid : ℕ) :
    (answersBy aware (ds.map (·.map Delivery.recv)) sid sid).Sublist
      ((ds.filterMap Except.toOption).flatMap Delivery.datagrams) := by
  rw [answersBy, if_pos rfl, filterMap_toOption_map, List.flatMap_map]
  exact List.Sublist.flatMap_right _ fun d hd => (hhonest d hd).carried haware

/-- A client that sent none of the received datagrams loses none. -/
lemma takenFrom_queued {ds : List Delivery} {queue : SocketAddr → List Bytes}
    (h : ∀ d ∈ ds, ∀ c ∈ d.recv.sender, takenFrom ds c <+: queue c) (c : SocketAddr) :
    takenFrom ds c <+: queue c := by
  by_cases hc : ∃ d ∈ ds, d.recv.sender = some c
  · obtain ⟨d, hd, hsender⟩ := hc
    exact h d hd c hsender
  · have hnone : takenFrom ds c = [] := by
      refine List.flatMap_eq_nil_iff.mpr fun d hd => if_neg fun hsender => hc ⟨d, hd, hsender⟩
    rw [hnone]
    exact List.nil_prefix

/-- A part of a queue, followed by what is left of it. -/
lemma sublist_drop {given taken queue : List Bytes} (hgiven : given.Sublist taken)
    (htaken : taken <+: queue) : (given ++ queue.drop taken.length).Sublist queue := by
  conv_rhs => rw [← List.prefix_iff_eq_append.mp htaken]
  exact hgiven.append (List.Sublist.refl _)

variable {n n' : Network}

lemma intact_listenerReceives {k : Kernel} {nowMs : ℕ} {ds : List (Except IoError Delivery)}
    (h : Intact n) (hstep : step n (.listenerReceives k nowMs ds) = some n') : Intact n' := by
  simp only [step] at hstep
  split at hstep
  · rename_i hcond
    obtain ⟨hhonest, hqueued⟩ := hcond
    obtain ⟨engine, hengine, rfl⟩ := Option.map_eq_some_iff.mp hstep
    obtain ⟨evs, hmoved⟩ := moved_step h.owned hengine
    have haware : n.groSet none = true → n.engine.off.groAware = true :=
      fun hset => h.listener (of_decide_eq_true hset)
    exact h.moved (keeps_step hengine h.owned).1 hmoved
      (fun c => sublist_drop (givenBy_sublist haware hhonest c) (takenFrom_queued hqueued c))
      (fun sid => List.Sublist.refl _)
  · cases hstep

lemma intact_sessionReceives {k : Kernel} {nowMs : ℕ} {ds : List (Except IoError Delivery)}
    {sid : ℕ} (h : Intact n) (hstep : step n (.sessionReceives k nowMs ds sid) = some n') :
    Intact n' := by
  simp only [step] at hstep
  split at hstep
  · rename_i hcond
    obtain ⟨hhonest, hqueued⟩ := hcond
    obtain ⟨engine, hengine, rfl⟩ := Option.map_eq_some_iff.mp hstep
    obtain ⟨evs, hmoved⟩ := moved_step h.owned hengine
    have haware : n.groSet (some sid) = true → (n.engine.heap sid).gro = true :=
      fun hset => (h.upstream sid (of_decide_eq_true hset)).1
    refine h.moved (keeps_step hengine h.owned).1 hmoved (fun c => List.Sublist.refl _)
      (fun i => ?_)
    simp only [Udp.Action.answers]
    by_cases hi : i = sid
    · subst hi
      rw [Function.update_self]
      exact sublist_drop (answersBy_sublist haware hhonest i) hqueued
    · rw [answersBy, if_neg hi, Function.update_of_ne hi]
      exact List.Sublist.refl _
  · cases hstep

lemma intact_act {a : Udp.Action} (h : Intact n) (hstep : step n (.act a) = some n') :
    Intact n' := by
  cases a with
  | readable k nowMs rs => cases hstep
  | sessionReady k nowMs rs sid => cases hstep
  | _ =>
    simp only [step] at hstep
    obtain ⟨engine, hengine, rfl⟩ := Option.map_eq_some_iff.mp hstep
    obtain ⟨evs, hmoved⟩ := moved_step h.owned hengine
    exact h.moved (keeps_step hengine h.owned).1 hmoved (fun c => List.Sublist.refl _)
      (fun sid => List.Sublist.refl _)

lemma intact_step (n : Network) (a : Action) (n' : Network) (h : Intact n)
    (hstep : step n a = some n') : Intact n' := by
  cases a with
  | clientSends client data arrives =>
    obtain rfl := Option.some.inj hstep
    exact { h with up := sublist_sends h.up client data arrives }
  | targetSends sid data arrives =>
    obtain ⟨-, rfl⟩ : _ ∧ _ = n' := by simpa only [step, Option.ite_none_right_eq_some,
      Option.some.injEq] using hstep
    exact { h with down := sublist_sends h.down sid data arrives }
  | listenerReceives k nowMs ds => exact intact_listenerReceives h hstep
  | sessionReceives k nowMs ds sid => exact intact_sessionReceives h hstep
  | act a => exact intact_act h hstep

lemma intact_start (cfg : ForwarderConfig) (knobs : RuntimeKnobs) (literal : Option IpAddr)
    (udpLimit : ℕ) : Intact (start cfg knobs literal udpLimit) where
  owned := owned_start cfg knobs literal udpLimit
  listener := by simp [start, Engine.start]
  upstream := by simp [start, Engine.start]
  up := by simp [start, Engine.start, sentUp]
  down := by simp [start, Engine.start, repliedDown, Task.pending]
  addressed := by simp [start, Engine.start]

end Network

/-- **Datagram boundaries survive every run.**  The datagrams emitted towards the target on behalf
of a client are a subsequence of those the client sent; the datagrams a session emits go to its
client and are a subsequence of those the target sent to it. -/
theorem boundaries_survive (cfg : ForwarderConfig) (knobs : RuntimeKnobs) (literal : Option IpAddr)
    (udpLimit : ℕ) (acts : List Network.Action) (n : Network)
    (h : Lib.run Network.step (Network.start cfg knobs literal udpLimit) acts = some n) :
    (∀ c, (sentUp c n.engine.trace).Sublist (n.clientSent c)) ∧
      ∀ sid, (repliedDown sid n.engine.trace).Sublist (n.targetSent sid) ∧
        ∀ client call, .replied sid client call ∈ n.engine.trace →
          client = (n.engine.heap sid).client := by
  have hintact : Intact n :=
    Lib.run_invariant Network.intact_step (Network.intact_start cfg knobs literal udpLimit) h
  refine ⟨fun c => ?_, fun sid => ⟨?_, fun client call hmem => ?_⟩⟩
  · exact (List.sublist_append_left _ _).trans (hintact.up c)
  · have hdown := hintact.down sid
    rw [List.append_assoc] at hdown
    exact (List.sublist_append_left _ _).trans hdown
  · exact (hintact.addressed sid client call hmem).1

/-- A kernel that rejects segmented sends on upstream sockets and has no room for them on the
listener. -/
def unsegmented : Kernel :=
  { Kernel.willing with
    send := fun _ _ segment => if segment = 0 then .ok () else .error (.os IoError.einval)
    sendTo := fun _ _ _ segment => if segment = 0 then .ok () else .error (.os IoError.eagain) }

/-- Bursts in both directions, with the knob turned on, and off again while a reply is blocked. -/
def toggledBursts : List Network.Action :=
  let client : SocketAddr := .v4 9 4000
  [.act (.reload { Settings.default with udpGroGso := true }), .act (.tick unsegmented 0),
    .clientSends client [1, 2] true, .clientSends client [9, 9] false,
    .clientSends client [3, 4] true, .clientSends client [5] true,
    .listenerReceives unsegmented 10
      [.ok ⟨[[1, 2], [3, 4], [5]], ⟨[1, 2, 3, 4, 5], 2, some client, false⟩⟩],
    .targetSends 0 [6, 7] true, .targetSends 0 [8] true,
    .sessionReceives unsegmented 20 [.ok ⟨[[6, 7], [8]], ⟨[6, 7, 8], 2, none, false⟩⟩] 0,
    .act (.reload Settings.default), .act (.tick unsegmented 30),
    .act (.sessionSend unsegmented 0), .act (.sessionSend unsegmented 0)]

theorem boundaries_survive_toggledBursts :
    ∃ n, Lib.run Network.step (Network.start ⟨[], 9000, [], 53, .udp⟩ (.fromSettings .default)
        (some (.v4 2)) 8) toggledBursts = some n ∧
      (sentUp (.v4 9 4000) n.engine.trace, repliedDown 0 n.engine.trace) =
        ([[1, 2], [3, 4], [5]], [[6, 7], [8]]) ∧
      (sentUp (.v4 9 4000) n.engine.trace).Sublist (n.clientSent (.v4 9 4000)) ∧
      (repliedDown 0 n.engine.trace).Sublist (n.targetSent 0) := by
  have hrun : (Lib.run Network.step (Network.start ⟨[], 9000, [], 53, .udp⟩
      (.fromSettings .default) (some (.v4 2)) 8) toggledBursts).map
        (fun n => (sentUp (.v4 9 4000) n.engine.trace, repliedDown 0 n.engine.trace)) =
      some ([[1, 2], [3, 4], [5]], [[6, 7], [8]]) := by decide +kernel
  obtain ⟨n, hn, hend⟩ := Option.map_eq_some_iff.mp hrun
  obtain ⟨hup, hdown⟩ := boundaries_survive _ _ _ _ toggledBursts n hn
  exact ⟨n, hn, hend, hup _, (hdown 0).1⟩

end Rfw.Udp
