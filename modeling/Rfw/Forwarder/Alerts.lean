/-
# What a forwarder tells the operator

A forwarder reports the failures to bind its address and that it did bind after all, sets the
`listening` flag that the health route shows, and reports refused connections, at most once in
`LIMIT_ALERT_SPACING`.  The facts below hold of every forwarder in every reachable fleet.
-/
import Rfw.Forwarder.Accounts

namespace Rfw.Forwarder

open Lib Monitor Notify

/-- The alerts about refused connections, latest refusal first: each tells how many connections had
been refused by then. -/
def limitEvents (label : Str) : List Gate.Answer → List Event
  | [] => []
  | a :: refusals =>
      limitEvents label refusals ++
        if a.opened then [.connectionLimitReached label (refusals.length + 1)] else []

namespace Listener

/-- The bind loop and the flag of the accept loop. -/
structure Opened (l : Listener) : Prop where
  told : l.bind.Told
  paced : l.bind.Paced
  /-- The flag is up exactly while the accept loop is alive. -/
  listening : l.listening = l.phase.serving
  /-- The accept loop runs on a bound socket. -/
  bound : l.phase.serving = true → l.bind.phase = .bound
  /-- The bind loop is over when it has its socket. -/
  binding : l.phase = .binding → l.bind.phase ≠ .bound

/-- The alerts about refused connections. -/
structure Alerted (l : Listener) : Prop where
  last : l.lastLimitAlert = Gate.lastOpened l.refusals
  kept : Gate.Kept limitAlertSpacing l.refusals
  read : ∀ a ∈ l.refusals, a.checked ≤ a.stamped
  counted : l.stats.rejectedConnections = l.refusals.length
  alerts : l.limitAlerts = limitEvents l.bind.cfg.label l.refusals

variable {l l' : Listener}

lemma opened_init (cfg : ForwarderConfig) (literal : Option IpAddr) (now : ℕ) :
    Opened (init cfg literal now) :=
  ⟨Bind.told_init cfg now, Bind.paced_init cfg now, rfl, nofun, nofun⟩

lemma alerted_init (cfg : ForwarderConfig) (literal : Option IpAddr) (now : ℕ) :
    Alerted (init cfg literal now) :=
  ⟨rfl, trivial, nofun, rfl, rfl⟩

lemma opened_bound (h : Opened l) {b : Bind} (htold : b.Told) (hpaced : b.Paced)
    (hphase : l.phase = .binding) : Opened (l.bound b) := by
  have hdown : l.listening = false := by rw [h.listening, hphase]; rfl
  unfold bound
  split
  · rename_i hbound
    exact ⟨htold, hpaced, rfl, fun _ => hbound, nofun⟩
  · exact ⟨htold, hpaced, hdown, nofun, nofun⟩
  · rename_i hbound hreturned
    refine ⟨htold, hpaced, by rw [hdown, hphase]; rfl, fun hserving => ?_, fun _ => hbound⟩
    rw [hphase] at hserving
    cases hserving

/-- Between two phases of the accept loop nothing changes for the operator. -/
lemma Opened.goOn (h : Opened l) (hserving : l.phase.serving = true)
    (hserving' : l'.phase.serving = true) (hbind : l'.bind = l.bind)
    (hlistening : l'.listening = l.listening) : Opened l' where
  told := hbind ▸ h.told
  paced := hbind ▸ h.paced
  listening := by rw [hlistening, h.listening, hserving, hserving']
  bound _ := hbind ▸ h.bound hserving
  binding hbinding := by
    rw [hbinding] at hserving'
    cases hserving'

lemma opened_move {owner : ℕ} {knobs : KnobSnapshot} {limit limit' : Option ℕ}
    {spawned : List Conn} (h : Opened l) (hmove : l.Move owner knobs limit l' limit' spawned) :
    Opened l' := by
  cases hmove with
  | bound i b hphase hmove =>
    exact opened_bound h (Bind.told_move h.told h.paced hmove) (Bind.paced_move h.paced hmove)
      hphase
  | stopped _ _ => exact ⟨h.told, h.paced, rfl, nofun, nofun⟩
  | awaited hphase _ | admitted _ _ hphase _ _ | refused _ _ hphase _ _ _ | retried _ hphase _
  | paused _ hphase _ | woken _ _ hphase _ =>
    exact h.goOn (by rw [hphase]; rfl) rfl rfl rfl
  | cancelled =>
    exact ⟨Bind.told_move h.told h.paced .cancelled, Bind.paced_move h.paced .cancelled,
      h.listening, h.bound, h.binding⟩

/-- The refusals and their alerts do not depend on the rest of the loop. -/
lemma Alerted.congr (h : Alerted l) (hlast : l'.lastLimitAlert = l.lastLimitAlert)
    (hrefusals : l'.refusals = l.refusals)
    (hstats : l'.stats.rejectedConnections = l.stats.rejectedConnections)
    (halerts : l'.limitAlerts = l.limitAlerts) (hcfg : l'.bind.cfg = l.bind.cfg) : Alerted l' where
  last := by rw [hlast, hrefusals, h.last]
  kept := hrefusals ▸ h.kept
  read := hrefusals ▸ h.read
  counted := by rw [hstats, hrefusals, h.counted]
  alerts := by rw [halerts, hcfg, hrefusals, h.alerts]

lemma alerted_refuse (h : Alerted l) {checked stamped : ℕ} (hread : checked ≤ stamped) :
    Alerted (l.refuse (l.stats.addRejected 1) checked stamped) where
  last := by
    simp only [refuse, Gate.lastOpened, h.last]
  kept := ⟨by rw [h.last], h.kept⟩
  read := List.forall_mem_cons.mpr ⟨hread, h.read⟩
  counted := by
    simp only [refuse, ForwarderStats.addRejected, List.length_cons, h.counted]
  alerts := by
    simp only [refuse, limitEvents, ForwarderStats.addRejected, h.counted, h.alerts]
    split
    · rfl
    · rw [List.append_nil]

lemma alerted_move {owner : ℕ} {knobs : KnobSnapshot} {limit limit' : Option ℕ}
    {spawned : List Conn} (h : Alerted l) (hmove : l.Move owner knobs limit l' limit' spawned) :
    Alerted l' := by
  cases hmove with
  | bound i b _ hmove =>
    have hcfg := Bind.cfg_move hmove
    unfold bound
    split <;> exact h.congr rfl rfl rfl rfl hcfg
  | refused checked stamped _ _ hread _ => exact alerted_refuse h hread
  | awaited _ _ | stopped _ _ | admitted _ _ _ _ _ | retried _ _ _ | paused _ _ _ | woken _ _ _ _
  | cancelled =>
    exact h.congr rfl rfl rfl rfl rfl

end Listener

namespace Fleet

/-- **The rule for what holds of every forwarder.**  It holds of a new one, a step of its own loop
keeps it, and it does not look at what tasks and monitors do to the stats, nor at their events. -/
lemma forall_listeners_of_run {P : Listener → Prop}
    (hinit : ∀ cfg literal now, P (.init cfg literal now))
    (hmove : ∀ {owner knobs limit l l' limit' spawned}, P l →
      Listener.Move owner knobs limit l l' limit' spawned → P l')
    (hstats : ∀ {l : Listener} {stats : ForwarderStats} {changes : List Event}, P l →
      stats.rejectedConnections = l.stats.rejectedConnections → P { l with stats, changes })
    {settings : Settings} {is : List Input} {f : Fleet}
    (h : run step (init settings) is = some f) : ∀ l ∈ f.listeners, P l := by
  refine run_invariant (I := fun f => ∀ l ∈ f.listeners, P l) (fun f i f' hf hstep => ?_)
    (fun l hl => absurd hl List.not_mem_nil) h
  have hset {j : ℕ} {m : Listener} (hm : P m) : ∀ l ∈ f.listeners.set j m, P l := by
    intro l hl
    rcases List.mem_or_eq_of_mem_set hl with hl | rfl
    · exact hf l hl
    · exact hm
  cases i with
  | start cfg literal now =>
    obtain rfl := Option.some.inj hstep
    simp only [List.forall_mem_append, List.forall_mem_singleton]
    exact ⟨hf, hinit cfg literal now⟩
  | reload settings =>
    obtain rfl := Option.some.inj hstep
    exact hf
  | listener j input =>
    obtain ⟨l, hl, hstep⟩ := Option.bind_eq_some_iff.mp hstep
    obtain ⟨⟨l', limit', spawned⟩, hlistener, rfl⟩ := Option.map_eq_some_iff.mp hstep
    exact hset (hmove (hf l (List.mem_of_getElem? hl)) (Listener.move_of_step hlistener))
  | conn j input =>
    obtain ⟨c, -, hstep⟩ := Option.bind_eq_some_iff.mp hstep
    obtain ⟨l, hl, hstep⟩ := Option.bind_eq_some_iff.mp hstep
    obtain ⟨⟨c', stats, events⟩, hconn, rfl⟩ := Option.map_eq_some_iff.mp hstep
    exact hset (hstats (hf l (List.mem_of_getElem? hl)) (Conn.kept_of_step hconn).rejected)
  | observe j addrs =>
    obtain ⟨l, hl, rfl⟩ := Option.map_eq_some_iff.mp hstep
    exact hset (hstats (hf l (List.mem_of_getElem? hl)) (observeAddrs_gauges l.stats addrs).2)
  | reachable j up =>
    obtain ⟨l, hl, rfl⟩ := Option.map_eq_some_iff.mp hstep
    exact hset (hstats (hf l (List.mem_of_getElem? hl)) rfl)

lemma opened_of_run {settings : Settings} {is : List Input} {f : Fleet}
    (h : run step (init settings) is = some f) : ∀ l ∈ f.listeners, l.Opened :=
  forall_listeners_of_run Listener.opened_init Listener.opened_move
    (fun h _ => ⟨h.told, h.paced, h.listening, h.bound, h.binding⟩) h

/-- **Binding is told as it happened.**  In every reachable fleet, each forwarder has reported every
failed attempt to bind with its number, the attempts at least `BIND_RETRY_DELAY` apart, and after
failures the success with their number, and nothing else; its `listening` flag is up exactly while
its accept loop is alive, which is only on a bound socket. -/
theorem bind_told {settings : Settings} {is : List Input} {f : Fleet}
    (h : run step (init settings) is = some f) :
    ∀ l ∈ f.listeners,
      (l.bind.raised = Bind.failureEvents l.bind.cfg (l.bind.failed.map Prod.snd) ++
        if l.bind.phase = .bound then Bind.recoveryEvent l.bind.cfg l.bind.failed.length else []) ∧
      (l.bind.failed.Pairwise fun earlier later => earlier.1 + bindRetryDelay ≤ later.1) ∧
      l.listening = l.phase.serving ∧ (l.listening = true → l.bind.phase = .bound) := by
  intro l hl
  have hopened : l.Opened := opened_of_run h l hl
  exact ⟨hopened.told.raised, hopened.told.spaced, hopened.listening,
    fun hup => hopened.bound (hopened.listening ▸ hup)⟩

/-- **Refused connections are reported, but not in a flood.**  In every reachable fleet, each
forwarder has raised exactly the alerts that the gate let through, each with the number of
connections refused so far; two of them are at least `LIMIT_ALERT_SPACING` apart; and a connection
that was refused without one was refused less than that after the latest one. -/
theorem limit_alerts_spaced {settings : Settings} {is : List Input} {f : Fleet}
    (h : run step (init settings) is = some f) :
    ∀ l ∈ f.listeners, l.limitAlerts = limitEvents l.bind.cfg.label l.refusals ∧
      l.stats.rejectedConnections = l.refusals.length ∧
      (l.refusals.Pairwise fun later earlier => later.opened = true → earlier.opened = true →
        earlier.stamped + limitAlertSpacing ≤ later.checked) ∧
      ∀ newer a older, l.refusals = newer ++ a :: older → a.opened = false →
        ∃ b ∈ older, b.opened = true ∧ Gate.lastOpened older = some b.stamped ∧
          a.checked < b.stamped + limitAlertSpacing := by
  intro l hl
  have halerted : l.Alerted := forall_listeners_of_run (P := Listener.Alerted)
    Listener.alerted_init Listener.alerted_move
    (fun h hstats => h.congr rfl rfl hstats rfl rfl) h l hl
  exact ⟨halerted.alerts, halerted.counted,
    Gate.pairwise_of_kept (by decide) halerted.kept halerted.read,
    fun newer a older => Gate.exists_of_closed halerted.kept⟩

/-- A forwarder whose port is taken at first. -/
def portTaken : List Input :=
  [.start ⟨"127.0.0.1".toList, 8080, "10.0.0.1".toList, 80, .tcp⟩ (some (.v4 0x0A000001)) 0,
    .listener 0 (.bind .poll), .listener 0 (.bind (.fail "Address already in use".toList 3)),
    .listener 0 (.bind (.wake 5000000003)), .listener 0 (.bind .poll),
    .listener 0 (.bind .succeed)]

theorem bind_told_portTaken : ∃ f l, run step (init Settings.default) portTaken = some f ∧
    f.listeners = [l] ∧ l.listening = true ∧ l.bind.failed.length = 1 ∧
    l.bind.raised = Bind.failureEvents l.bind.cfg ["Address already in use".toList] ++
      Bind.recoveryEvent l.bind.cfg 1 :=
  ⟨_, _, rfl, rfl, rfl, rfl,
    (@bind_told Settings.default portTaken _ rfl _ List.mem_cons_self).1⟩

/-- Two connections are refused within a minute, and a third one later. -/
def threeRefusals : List Input :=
  oneConnection ++
    [.listener 0 .poll, .listener 0 (.accept 30000000000 30000000000), .listener 0 .poll,
      .listener 0 (.accept 60000000009 60000000010)]

theorem limit_alerts_spaced_threeRefusals : ∃ f l,
    run step (init { Settings.default with maxConnections := some 1 }) threeRefusals = some f ∧
    f.listeners = [l] ∧ l.refusals.map (·.opened) = [true, false, true] ∧
    l.limitAlerts = limitEvents l.bind.cfg.label l.refusals :=
  ⟨_, _, rfl, rfl, rfl, (@limit_alerts_spaced
    { Settings.default with maxConnections := some 1 } threeRefusals _ rfl _ List.mem_cons_self).1⟩

end Fleet

end Rfw.Forwarder
