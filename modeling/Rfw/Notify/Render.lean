/-
# Messages

`Event::render` writes a headline for each kind of event, one line for each forwarder where there
is a list of them, the count of suppressed repeats and a footer that names the instance.  The cut
to the size that the chat service takes is made at the very end, over the whole text.
-/
import Rfw.Notify.Text

namespace Rfw.Notify

open Lib

/-- How loud an event is. -/
inductive Severity
  | info
  | warning
  | critical
deriving DecidableEq, Repr

/-- Identifies the process in every message. -/
structure InstanceInfo where
  name : Str
  version : Str
  pid : ℕ
deriving DecidableEq, Repr

/-- The target did not answer. -/
def ProbeReport.isErr (f : ProbeReport) : Bool := f.outcome.isRight

/-- `Event::severity`. -/
def Event.severity : Event → Severity
  | .started forwarders => if forwarders.any ProbeReport.isErr then .warning else .info
  | .stopping .. | .dnsChanged .. | .targetRecovered .. | .bindRecovered .. |
    .configReloaded .. => .info
  | .configReloadFailed .. | .connectionLimitReached .. | .udpSessionLimitReached .. |
    .internal .. => .warning
  | .targetUnreachable .. | .bindFailed .. => .critical

/-- The icon of a severity. -/
def Severity.icon : Severity → Char
  | .info => '🟢'
  | .warning => '🟠'
  | .critical => '🔴'

/-- The line of one forwarder in the startup message. -/
def ProbeReport.line (f : ProbeReport) : Str :=
  match f.outcome with
  | .inl (addr, latency) =>
      if f.protocol = .udp then
        "• ".toList ++ mono f.label ++ " ✅ resolved to ".toList ++ mono (displayAddr addr) ++
          " (".toList ++ Str.decimal (latency / 1000000) ++ " ms, udp: passive check)".toList
      else
        "• ".toList ++ mono f.label ++ " ✅ reachable at ".toList ++ mono (displayAddr addr) ++
          " (".toList ++ Str.decimal (latency / 1000000) ++ " ms)".toList
  | .inr e => "• ".toList ++ mono f.label ++ " ❌ unreachable: ".toList ++ plain e

/-- What a change of the addresses means to the clients of a forwarder. -/
def consequence (label : Str) : Str :=
  if "/udp".toList.isSuffixOf label then
    "New UDP sessions now go to the new address; ".toList ++
      "sessions to addresses no longer published were closed.".toList
  else
    "New connections now go to the new address; ".toList ++
      "connections already open stay on the old one.".toList

/-- The line of a reload that left the list of forwarders alone. -/
def unchangedLine (added removed : List Str) : Str :=
  if added = [] ∧ removed = [] then "\nForwarder list unchanged (settings only)".toList else []

/-- The line with the forwarders that a reload added or removed, if there are any. -/
def listLine (title : Str) (items : List Str) : Str :=
  if items ≠ [] then title ++ joinMono items else []

/-- The message of an event, without the suppressed repeats and the footer. -/
def Event.body (name : Str) (e : Event) : Str :=
  let icon := e.severity.icon
  match e with
  | .started forwarders =>
      let bad := forwarders.countP ProbeReport.isErr
      icon :: " *rfw started* on ".toList ++ mono name ++ " — ".toList ++
        Str.decimal forwarders.length ++ " forwarder(s)".toList ++
        (if 0 < bad then ", ".toList ++ Str.decimal bad ++ " target(s) unreachable".toList
          else []) ++
        forwarders.flatMap fun f => '\n' :: f.line
  | .stopping signal activeConnections =>
      "🟡 *rfw stopping* on ".toList ++ mono name ++ " (".toList ++ plain signal ++
        ") — draining ".toList ++ Str.decimal activeConnections ++
        " active connection(s)".toList
  | .dnsChanged label host old new =>
      "🔵 *DNS change* for ".toList ++ mono host ++ "\nForwarder ".toList ++ mono label ++
        ['\n'] ++ mono (joinIps old) ++ " → ".toList ++ mono (joinIps new) ++ ['\n'] ++
        consequence label
  | .targetUnreachable label target downFor lastError =>
      icon :: " *Target unreachable* ".toList ++ mono target ++ "\nForwarder ".toList ++
        mono label ++ "\nFailing for ".toList ++ fmtDuration downFor ++
        "; clients connecting to this port are being refused.\nLast error: ".toList ++
        plain lastError
  | .targetRecovered label target downFor address =>
      "✅ *Target reachable again* ".toList ++ mono target ++ "\nForwarder ".toList ++
        mono label ++ "\nWas unreachable for ".toList ++ fmtDuration downFor ++
        match address with
        | some addr => "\nAnswering at ".toList ++ mono (displayAddr addr)
        | none => []
  | .bindFailed label localAddr error attempts =>
      icon :: " *Cannot bind* ".toList ++ mono localAddr ++ "\nForwarder ".toList ++
        mono label ++ "\nError: ".toList ++ plain error ++ "\nAttempt ".toList ++
        Str.decimal attempts ++ "; retrying every 5 s. ".toList ++
        "Clients cannot connect to this port until it binds.".toList
  | .bindRecovered label localAddr failedAttempts =>
      "✅ *Listening again* on ".toList ++ mono localAddr ++ "\nForwarder ".toList ++
        mono label ++ "\nBound after ".toList ++ Str.decimal failedAttempts ++
        " failed attempt(s)".toList
  | .configReloaded active added removed =>
      "🔵 *Config reloaded* on ".toList ++ mono name ++ " — ".toList ++ Str.decimal active ++
        " forwarder(s) active".toList ++
        unchangedLine added removed ++ listLine "\nAdded: ".toList added ++
        listLine "\nRemoved: ".toList removed
  | .configReloadFailed path error =>
      icon :: " *Config reload failed* on ".toList ++ mono name ++
        " — running configuration kept\nFile: ".toList ++ mono path ++ "\nError: ".toList ++
        plain error
  | .connectionLimitReached label rejectedTotal =>
      icon :: " *Connection limit reached*\nForwarder ".toList ++ mono label ++
        "\nmax_connections is saturated; new connections are being refused (".toList ++
        Str.decimal rejectedTotal ++ " refused so far).".toList
  | .udpSessionLimitReached label rejectedTotal =>
      icon :: " *UDP session limit reached*\nForwarder ".toList ++ mono label ++
        "\nudp_max_sessions is saturated; ".toList ++
        "datagrams from new clients are being dropped (".toList ++
        Str.decimal rejectedTotal ++ " refused so far).".toList
  | .internal component message =>
      icon :: " *Internal problem* in ".toList ++ mono component ++ " on ".toList ++ mono name ++
        ['\n'] ++ plain message

/-- The line that counts the suppressed repeats. -/
def suppressedLine (suppressed : ℕ) : Str :=
  "_(+".toList ++ Str.decimal suppressed ++
    " similar event(s) suppressed since the previous message)_".toList

/-- The footer of every message; `now` is the clock in Unix seconds. -/
def footer (inst : InstanceInfo) (now : ℕ) : Str :=
  ['_'] ++ plain inst.name ++ " · pid ".toList ++ Str.decimal inst.pid ++ " · rfw ".toList ++
    inst.version ++ " · ".toList ++ formatUtc now ++ ['_']

/-- The whole text of a message, before the cut. -/
def Event.text (e : Event) (inst : InstanceInfo) (suppressed now : ℕ) : Str :=
  e.body inst.name ++ (if 0 < suppressed then '\n' :: suppressedLine suppressed else []) ++
    '\n' :: footer inst now

/-- `Event::render`. -/
def Event.render (e : Event) (inst : InstanceInfo) (suppressed now : ℕ) : Str :=
  truncateChars (e.text inst suppressed now) maxTextChars

/-! ## How long a message is -/

/-- The characters of a forwarder's line in the startup message. -/
def ProbeReport.width (f : ProbeReport) : ℕ :=
  match f.outcome with
  | .inl (addr, latency) =>
      (if f.protocol = .udp then 43 else 24) + (mono f.label).length +
        (mono (displayAddr addr)).length + (Str.decimal (latency / 1000000)).length
  | .inr e => 18 + (mono f.label).length + (plain e).length

/-- The characters of a list of forwarders in the reload message, with those between them. -/
def listWidth (items : List Str) : ℕ := (items.map fun s => (mono s).length + 2).sum

/-- The characters of an event's message, from its fields. -/
def Event.width (name : Str) : Event → ℕ
  | .started forwarders =>
      let bad := forwarders.countP ProbeReport.isErr
      35 + (mono name).length + (Str.decimal forwarders.length).length +
        (if 0 < bad then 24 + (Str.decimal bad).length else 0) +
        (forwarders.map fun f => f.width + 1).sum
  | .stopping signal activeConnections =>
      56 + (mono name).length + (plain signal).length + (Str.decimal activeConnections).length
  | .dnsChanged label host old new =>
      (if "/udp".toList.isSuffixOf label then 133 else 123) + (mono host).length +
        (mono label).length + (mono (joinIps old)).length + (mono (joinIps new)).length
  | .targetUnreachable label target downFor lastError =>
      112 + (mono target).length + (mono label).length + (fmtDuration downFor).length +
        (plain lastError).length
  | .targetRecovered label target downFor address =>
      59 + (mono target).length + (mono label).length + (fmtDuration downFor).length +
        match address with
        | some addr => 14 + (mono (displayAddr addr)).length
        | none => 0
  | .bindFailed label localAddr error attempts =>
      117 + (mono localAddr).length + (mono label).length + (plain error).length +
        (Str.decimal attempts).length
  | .bindRecovered label localAddr failedAttempts =>
      65 + (mono localAddr).length + (mono label).length + (Str.decimal failedAttempts).length
  | .configReloaded active added removed =>
      46 + (mono name).length + (Str.decimal active).length +
        (if added = [] ∧ removed = [] then 41 else 0) +
        (if added ≠ [] then 6 + listWidth added else 0) +
        (if removed ≠ [] then 8 + listWidth removed else 0)
  | .configReloadFailed path error =>
      72 + (mono name).length + (mono path).length + (plain error).length
  | .connectionLimitReached label rejectedTotal =>
      122 + (mono label).length + (Str.decimal rejectedTotal).length
  | .udpSessionLimitReached label rejectedTotal =>
      135 + (mono label).length + (Str.decimal rejectedTotal).length
  | .internal component message =>
      29 + (mono component).length + (mono name).length + (plain message).length

/-- The characters of the line about suppressed repeats. -/
def suppressedWidth (suppressed : ℕ) : ℕ :=
  if 0 < suppressed then 61 + (Str.decimal suppressed).length else 0

/-- The characters of the footer. -/
def footerWidth (inst : InstanceInfo) (now : ℕ) : ℕ :=
  20 + (plain inst.name).length + (Str.decimal inst.pid).length + inst.version.length +
    (formatUtc now).length

/-- The message needs no cut. -/
def Event.Fits (e : Event) (inst : InstanceInfo) (suppressed now : ℕ) : Prop :=
  e.width inst.name + suppressedWidth suppressed + footerWidth inst now ≤ maxTextChars

lemma ProbeReport.length_line (f : ProbeReport) : f.line.length = f.width := by
  unfold ProbeReport.line ProbeReport.width
  split
  · split_ifs
    · simp only [List.length_append]
      repeat rw [String.toList_ofList]
      simp only [List.length_cons, List.length_nil, Nat.reduceAdd]
      omega
    · simp only [List.length_append]
      repeat rw [String.toList_ofList]
      simp only [List.length_cons, List.length_nil, Nat.reduceAdd]
      omega
  · simp only [List.length_append]
    repeat rw [String.toList_ofList]
    simp only [List.length_cons, List.length_nil, Nat.reduceAdd]
    omega

lemma length_consequence (label : Str) :
    (consequence label).length = if "/udp".toList.isSuffixOf label then 98 else 88 := by
  unfold consequence
  split_ifs
  · simp only [List.length_append]
    repeat rw [String.toList_ofList]
    simp only [List.length_cons, List.length_nil, Nat.reduceAdd]
  · simp only [List.length_append]
    repeat rw [String.toList_ofList]
    simp only [List.length_cons, List.length_nil, Nat.reduceAdd]

lemma length_unchangedLine (added removed : List Str) :
    (unchangedLine added removed).length = if added = [] ∧ removed = [] then 41 else 0 := by
  unfold unchangedLine
  split_ifs
  · repeat rw [String.toList_ofList]
    simp only [List.length_cons, List.length_nil, Nat.reduceAdd]
  · rfl

/-- The first of the characters between the items stands in for two of the title. -/
lemma length_listLine (title : Str) (items : List Str) {k : ℕ} (h : title.length = k + 2) :
    (listLine title items).length = if items ≠ [] then k + listWidth items else 0 := by
  unfold listLine
  split_ifs with hitems
  · have hjoin : (joinMono items).length + 2 = listWidth items := length_joinMono_add hitems
    rw [List.length_append, h]
    omega
  · rfl

/-- The formula is the length of the message. -/
lemma Event.length_body (name : Str) (e : Event) : (e.body name).length = e.width name := by
  unfold Event.body Event.width
  cases e with
  | started forwarders =>
    have hlines : (forwarders.flatMap fun f => '\n' :: f.line).length =
        (forwarders.map fun f => f.width + 1).sum := by
      simp [List.length_flatMap, ProbeReport.length_line]
    dsimp only
    simp only [List.length_append, hlines]
    split_ifs
    · simp only [List.length_append]
      repeat rw [String.toList_ofList]
      simp only [List.length_cons, List.length_nil, Nat.reduceAdd]
      omega
    · repeat rw [String.toList_ofList]
      simp only [List.length_cons, List.length_nil, Nat.reduceAdd]
      omega
  | dnsChanged label host old new =>
    dsimp only
    simp only [List.length_append, length_consequence]
    repeat rw [String.toList_ofList]
    simp only [List.length_cons, List.length_nil, Nat.reduceAdd]
    split_ifs <;> omega
  | targetRecovered label target downFor address =>
    cases address with
    | none =>
      dsimp only
      simp only [List.length_append]
      repeat rw [String.toList_ofList]
      simp only [List.length_cons, List.length_nil, Nat.reduceAdd]
      omega
    | some addr =>
      dsimp only
      simp only [List.length_append]
      repeat rw [String.toList_ofList]
      simp only [List.length_cons, List.length_nil, Nat.reduceAdd]
      omega
  | configReloaded active added removed =>
    have hadded : (listLine "\nAdded: ".toList added).length =
        if added ≠ [] then 6 + listWidth added else 0 := length_listLine _ _ rfl
    have hremoved : (listLine "\nRemoved: ".toList removed).length =
        if removed ≠ [] then 8 + listWidth removed else 0 := length_listLine _ _ rfl
    dsimp only
    simp only [List.length_append, length_unchangedLine, hadded, hremoved]
    repeat rw [String.toList_ofList]
    simp only [List.length_cons, List.length_nil, Nat.reduceAdd]
    omega
  | _ =>
    dsimp only
    simp only [List.length_append]
    repeat rw [String.toList_ofList]
    simp only [List.length_cons, List.length_nil, Nat.reduceAdd]
    omega

lemma length_suppressedLine (suppressed : ℕ) :
    (suppressedLine suppressed).length = 60 + (Str.decimal suppressed).length := by
  unfold suppressedLine
  simp only [List.length_append]
  repeat rw [String.toList_ofList]
  simp only [List.length_cons, List.length_nil, Nat.reduceAdd]
  omega

lemma length_footer (inst : InstanceInfo) (now : ℕ) :
    (footer inst now).length + 1 = footerWidth inst now := by
  unfold footer footerWidth
  simp only [List.length_append]
  repeat rw [String.toList_ofList]
  simp only [List.length_cons, List.length_nil, Nat.reduceAdd]
  omega

/-- A message fits exactly when its text is within the limit. -/
lemma Event.fits_iff (e : Event) (inst : InstanceInfo) (suppressed now : ℕ) :
    e.Fits inst suppressed now ↔ (e.text inst suppressed now).length ≤ maxTextChars := by
  have hfooter := length_footer inst now
  have htext : (e.text inst suppressed now).length =
      e.width inst.name + suppressedWidth suppressed + footerWidth inst now := by
    unfold Event.text suppressedWidth
    split_ifs
    · simp only [List.length_append, List.length_cons, Event.length_body, length_suppressedLine]
      omega
    · simp only [List.length_append, List.length_cons, List.length_nil, Event.length_body]
      omega
  unfold Event.Fits
  rw [htext]

/-! ## The last line -/

/-- The text behind the last newline. -/
def lastLine (s : Str) : Str := (s.reverse.takeWhile (· ≠ '\n')).reverse

lemma newline_not_mem_lastLine (s : Str) : '\n' ∉ lastLine s := by
  intro h
  have h := List.mem_takeWhile_imp (List.mem_reverse.mp h)
  simp at h

lemma lastLine_append_newline (s : Str) {line : Str} (h : '\n' ∉ line) :
    lastLine (s ++ '\n' :: line) = line := by
  have hline : ∀ c ∈ line.reverse, decide (c ≠ '\n') = true := by
    intro c hc
    refine decide_eq_true ?_
    rintro rfl
    exact h (List.mem_reverse.mp hc)
  unfold lastLine
  rw [List.reverse_append, List.reverse_cons, List.append_assoc,
    List.takeWhile_append_of_pos hline]
  simp

/-- The last character of a text is that of its last line. -/
lemma getLast?_lastLine (s : Str) {c : Char} (h : c ≠ '\n') :
    (lastLine (s ++ [c])).getLast? = some c := by
  simp [lastLine, h]

/-! ## The footer -/

/-- What every message owes its reader: it is within the limit, its last line tells the instance,
its pid, its version and the time, and the suppressed repeats are counted on a line of their
own. -/
def Identified (text : Str) (inst : InstanceInfo) (suppressed now : ℕ) : Prop :=
  text.length ≤ maxTextChars ∧
    lastLine text = "_".toList ++ plain inst.name ++ " · pid ".toList ++ Str.decimal inst.pid ++
      " · rfw ".toList ++ inst.version ++ " · ".toList ++ formatUtc now ++ "_".toList ∧
    (0 < suppressed → "\n_(+".toList ++ Str.decimal suppressed ++
      " similar event(s) suppressed since the previous message)_\n".toList <:+: text)

/-- The footer is one line exactly when the version is. -/
lemma newline_mem_footer {inst : InstanceInfo} {now : ℕ} :
    '\n' ∈ footer inst now ↔ '\n' ∈ inst.version := by
  have hpid : '\n' ∉ Str.decimal inst.pid := Str.not_mem_decimal (by decide)
  unfold footer
  simp only [List.mem_append, newline_not_mem_plain, hpid, newline_not_mem_formatUtc,
    String.reduceToList, List.mem_cons, List.not_mem_nil]
  simp

/-- What a message owes its reader, in the words of the code. -/
lemma identified_iff {text : Str} {inst : InstanceInfo} {suppressed now : ℕ} :
    Identified text inst suppressed now ↔
      text.length ≤ maxTextChars ∧ lastLine text = footer inst now ∧
        (0 < suppressed → '\n' :: suppressedLine suppressed ++ ['\n'] <:+: text) := by
  have hmark : "_".toList = ['_'] := by decide
  have hopen : "\n_(+".toList = '\n' :: "_(+".toList := by decide
  have hclose : " similar event(s) suppressed since the previous message)_\n".toList =
      " similar event(s) suppressed since the previous message)_".toList ++ ['\n'] := by decide
  unfold Identified footer suppressedLine
  rw [hmark, hopen, hclose]
  simp only [List.cons_append, List.append_assoc]

/-- A text that is not cut. -/
lemma identified_text {e : Event} {inst : InstanceInfo} {suppressed now : ℕ}
    (hlen : (e.text inst suppressed now).length ≤ maxTextChars) (hversion : '\n' ∉ inst.version) :
    Identified (e.text inst suppressed now) inst suppressed now := by
  refine identified_iff.mpr ⟨hlen, ?_, ?_⟩
  · exact lastLine_append_newline _ fun h => hversion (newline_mem_footer.mp h)
  · intro hs
    refine ⟨e.body inst.name, footer inst now, ?_⟩
    unfold Event.text
    rw [if_pos hs]
    simp

/-- A text that is cut ends with an ellipsis, and the footer does not. -/
lemma not_identified_of_not_fits {e : Event} {inst : InstanceInfo} {suppressed now : ℕ}
    (h : ¬ e.Fits inst suppressed now) :
    ¬ Identified (e.render inst suppressed now) inst suppressed now := by
  intro hidentified
  obtain ⟨-, hlast, -⟩ := identified_iff.mp hidentified
  rw [Event.fits_iff] at h
  rw [Event.render, truncateChars, if_neg h] at hlast
  have hcut := getLast?_lastLine ((e.text inst suppressed now).take (maxTextChars - 1))
    (show '…' ≠ '\n' by decide)
  have hfooter : (footer inst now).getLast? = some '_' := by
    unfold footer
    exact List.getLast?_concat
  rw [hlast, hfooter] at hcut
  exact absurd hcut (by decide)

/-- Every message is within the limit. -/
lemma length_render_le (e : Event) (inst : InstanceInfo) (suppressed now : ℕ) :
    (e.render inst suppressed now).length ≤ maxTextChars :=
  length_truncateChars_le _ _ (by decide)

/-- **The footer survives exactly when nothing is cut.**  A message is bounded, ends with its
footer and counts the suppressed repeats if and only if its parts together have no more characters
than the limit, in an instance whose version is one line. -/
theorem render_identified_iff (e : Event) (inst : InstanceInfo) (suppressed now : ℕ) :
    Identified (e.render inst suppressed now) inst suppressed now ↔
      e.Fits inst suppressed now ∧ '\n' ∉ inst.version := by
  constructor
  · intro h
    have hfits : e.Fits inst suppressed now := by
      by_contra hfits
      exact not_identified_of_not_fits hfits h
    refine ⟨hfits, ?_⟩
    intro hversion
    have hfooter := newline_not_mem_lastLine (e.render inst suppressed now)
    rw [(identified_iff.mp h).2.1] at hfooter
    exact hfooter (newline_mem_footer.mpr hversion)
  · rintro ⟨hfits, hversion⟩
    have hlen := (e.fits_iff inst suppressed now).mp hfits
    rw [Event.render, truncateChars, if_pos hlen]
    exact identified_text hlen hversion

/-! ## Which messages can be cut -/

/-- The message lists forwarders. -/
def Event.Lists : Event → Prop
  | .started _ | .configReloaded .. => True
  | _ => False

/-- The numbers of an event, as far as its message shows them, are machine integers. -/
def Event.Machine : Event → Prop
  | .stopping _ n | .bindFailed _ _ _ n | .bindRecovered _ _ n | .connectionLimitReached _ n |
    .udpSessionLimitReached _ n => n < 2 ^ 64
  | .targetUnreachable _ _ downFor _ | .targetRecovered _ _ downFor _ =>
      downFor < 2 ^ 64 * 1000000000
  | _ => True

lemma length_decimal_machine {n : ℕ} (h : n < 2 ^ 64) : (Str.decimal n).length ≤ 20 :=
  length_decimal_le (by decide) (h.trans (by decide))

lemma length_twoDigits_le {n : ℕ} (h : n < 100) : (twoDigits n).length ≤ 2 := by
  unfold twoDigits
  split_ifs with hn
  · have := length_decimal_le (show 0 < 1 by decide) (show n < 10 ^ 1 by omega)
    simp only [List.length_cons]
    omega
  · exact length_decimal_le (by decide) (by omega)

lemma length_fmtDuration_le {d : ℕ} (h : d < 2 ^ 64 * 1000000000) :
    (fmtDuration d).length ≤ 25 := by
  have hbig : ∀ k, (Str.decimal (d / 1000000000 / k)).length ≤ 20 :=
    fun k => length_decimal_machine ((Nat.div_le_self _ k).trans_lt (by omega))
  have hm : "m ".toList.length = 2 := rfl
  have hh : "h ".toList.length = 2 := rfl
  have hd : "d ".toList.length = 2 := rfl
  unfold fmtDuration
  dsimp only
  split_ifs
  · have := length_decimal_machine (show d / 1000000000 < 2 ^ 64 by omega)
    simp only [List.length_append, List.length_singleton]
    omega
  · have := hbig 60
    have := length_twoDigits_le (show d / 1000000000 % 60 < 100 by omega)
    simp only [List.length_append, List.length_singleton, hm]
    omega
  · have := hbig 3600
    have := length_twoDigits_le (show d / 1000000000 % 3600 / 60 < 100 by omega)
    simp only [List.length_append, List.length_singleton, hh]
    omega
  · have := hbig 86400
    have := length_twoDigits_le (show d / 1000000000 % 86400 / 3600 < 100 by omega)
    simp only [List.length_append, List.length_singleton, hd]
    omega

/-- A message without a list is short: every string in it is cut by itself. -/
lemma Event.width_le (name : Str) {e : Event} (hlist : ¬ e.Lists) (he : e.Machine) :
    e.width name ≤ 1400 := by
  have hmono := length_mono_le
  have hplain := length_plain_le
  cases e with
  | started _ => exact absurd trivial hlist
  | configReloaded _ _ _ => exact absurd trivial hlist
  | stopping signal n =>
    have := length_decimal_machine he
    have := hmono name
    have := hplain signal
    simp only [Event.width]
    omega
  | dnsChanged label host old new =>
    have := hmono host
    have := hmono label
    have := hmono (joinIps old)
    have := hmono (joinIps new)
    simp only [Event.width]
    split_ifs <;> omega
  | targetUnreachable label target downFor lastError =>
    have := length_fmtDuration_le he
    have := hmono target
    have := hmono label
    have := hplain lastError
    simp only [Event.width]
    omega
  | targetRecovered label target downFor address =>
    have := length_fmtDuration_le he
    have := hmono target
    have := hmono label
    cases address with
    | none =>
      simp only [Event.width]
      omega
    | some addr =>
      have := hmono (displayAddr addr)
      simp only [Event.width]
      omega
  | bindFailed label localAddr error attempts =>
    have := length_decimal_machine he
    have := hmono localAddr
    have := hmono label
    have := hplain error
    simp only [Event.width]
    omega
  | bindRecovered label localAddr failedAttempts =>
    have := length_decimal_machine he
    have := hmono localAddr
    have := hmono label
    simp only [Event.width]
    omega
  | configReloadFailed path error =>
    have := hmono name
    have := hmono path
    have := hplain error
    simp only [Event.width]
    omega
  | connectionLimitReached label rejectedTotal =>
    have := length_decimal_machine he
    have := hmono label
    simp only [Event.width]
    omega
  | udpSessionLimitReached label rejectedTotal =>
    have := length_decimal_machine he
    have := hmono label
    simp only [Event.width]
    omega
  | internal component message =>
    have := hmono component
    have := hmono name
    have := hplain message
    simp only [Event.width]
    omega

/-- Only the two messages that list forwarders can lose their footer. -/
theorem fits_of_not_lists {e : Event} {inst : InstanceInfo} {suppressed now : ℕ}
    (hlist : ¬ e.Lists) (he : e.Machine) (hs : suppressed < 2 ^ 64) (hnow : now < 2 ^ 64)
    (hpid : inst.pid < 2 ^ 32) (hversion : inst.version.length ≤ 2000) :
    e.Fits inst suppressed now := by
  have hwidth := e.width_le inst.name hlist he
  have hsup : suppressedWidth suppressed ≤ 81 := by
    have := length_decimal_machine hs
    unfold suppressedWidth
    split_ifs <;> omega
  have hfooter : footerWidth inst now ≤ 2469 := by
    have := length_plain_le inst.name
    have := length_decimal_machine (show inst.pid < 2 ^ 64 by omega)
    have := length_formatUtc_le hnow
    unfold footerWidth
    omega
  unfold Event.Fits maxTextChars
  omega

/-- A list of forwarders takes at least four characters for each of them. -/
lemma le_listWidth (items : List Str) : 4 * items.length ≤ listWidth items := by
  induction items with
  | nil => exact Nat.le_refl 0
  | cons s items ih =>
    have hs := le_length_mono s
    simp only [listWidth, List.map_cons, List.sum_cons, List.length_cons] at ih ⊢
    omega

/-- A reload that adds a thousand forwarders has a message that is cut. -/
lemma not_fits_of_many {active : ℕ} {added removed : List Str} (h : 1000 ≤ added.length)
    (inst : InstanceInfo) (suppressed now : ℕ) :
    ¬ (Event.configReloaded active added removed).Fits inst suppressed now := by
  have hne : added ≠ [] := by
    rintro rfl
    simp at h
  have hwidth := le_listWidth added
  unfold Event.Fits Event.width maxTextChars
  dsimp only
  rw [if_pos hne]
  omega

/-- A release of the program on some host. -/
def demoInstance : InstanceInfo where
  name := "web1".toList
  version := "1.2.0".toList
  pid := 42

/-- The labels of a range of ports. -/
def demoLabels : List Str :=
  (List.range 1024).map fun i =>
    "0.0.0.0:".toList ++ Str.decimal (10000 + i) ++ "->db:".toList ++ Str.decimal (10000 + i)

/-- The message of a reload that adds a range of 1024 ports has lost its footer. -/
theorem render_loses_footer :
    ¬ Identified ((Event.configReloaded 1024 demoLabels []).render demoInstance 0 1700000000)
      demoInstance 0 1700000000 := by
  have hlength : demoLabels.length = 1024 := by
    rw [demoLabels, List.length_map, List.length_range]
  refine not_identified_of_not_fits (not_fits_of_many ?_ _ _ _)
  omega

end Rfw.Notify
