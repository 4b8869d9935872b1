/-
# What outside text can do to a message

A message is put together from texts that the program writes itself and from strings that come from
outside, and each of the latter goes through `mono` or `plain`.  `Event.pieces` spells out which
part of a message is which.  Only the program's own texts have newlines, so the number of lines of
a message is a matter of the event's shape, whatever the strings in it say.
-/
import Rfw.Notify.Render
import Mathlib.Algebra.BigOperators.Group.List.Basic

namespace Rfw.Notify

open Lib Metrics

/-! ## Monospace -/

/-- A part of a message. -/
inductive Piece
  /-- Written by the program. -/
  | text (s : Str)
  /-- A string from outside, in monospace. -/
  | mono (s : Str)
  /-- A string from outside, as a single line. -/
  | plain (s : Str)
deriving DecidableEq, Repr

/-- The text of a part. -/
def Piece.render : Piece → Str
  | text s => s
  | mono s => Notify.mono s
  | plain s => Notify.plain s

/-- The newlines of a part, which only the program writes. -/
def Piece.newlines : Piece → ℕ
  | text s => s.count '\n'
  | mono _ | plain _ => 0

/-- The parts of a joined list. -/
def joinPieces (items : List Str) : List Piece :=
  (items.map Piece.mono).intersperse (.text ", ".toList)

lemma newlines_joinPieces (items : List Str) : ((joinPieces items).map Piece.newlines).sum = 0 := by
  have hcomma : ", ".toList.count '\n' = 0 := by decide
  induction items with
  | nil => rfl
  | cons s items ih =>
    cases items with
    | nil => rfl
    | cons t items =>
      simp only [joinPieces, List.map_cons, List.intersperse_cons_cons, List.sum_cons,
        Piece.newlines, hcomma] at ih ⊢
      rw [ih]

/-! ## The parts of a message -/

/-- The parts of a forwarder's line in the startup message. -/
def ProbeReport.pieces (f : ProbeReport) : List Piece :=
  match f.outcome with
  | .inl (addr, latency) =>
      if f.protocol = .udp then
        [.text "• ".toList, .mono f.label, .text " ✅ resolved to ".toList,
          .mono (displayAddr addr), .text " (".toList, .text (Str.decimal (latency / 1000000)),
          .text " ms, udp: passive check)".toList]
      else
        [.text "• ".toList, .mono f.label, .text " ✅ reachable at ".toList,
          .mono (displayAddr addr), .text " (".toList, .text (Str.decimal (latency / 1000000)),
          .text " ms)".toList]
  | .inr e => [.text "• ".toList, .mono f.label, .text " ❌ unreachable: ".toList, .plain e]

/-- The parts of an event's message, without the suppressed repeats and the footer. -/
def Event.pieces (name : Str) (e : Event) : List Piece :=
  let icon := e.severity.icon
  match e with
  | .started forwarders =>
      let bad := forwarders.countP ProbeReport.isErr
      [.text (icon :: " *rfw started* on ".toList), .mono name, .text " — ".toList,
        .text (Str.decimal forwarders.length), .text " forwarder(s)".toList] ++
        (if 0 < bad then
          [.text ", ".toList, .text (Str.decimal bad), .text " target(s) unreachable".toList]
        else []) ++
        forwarders.flatMap fun f => .text ['\n'] :: f.pieces
  | .stopping signal activeConnections =>
      [.text "🟡 *rfw stopping* on ".toList, .mono name, .text " (".toList, .plain signal,
        .text ") — draining ".toList, .text (Str.decimal activeConnections),
        .text " active connection(s)".toList]
  | .dnsChanged label host old new =>
      [.text "🔵 *DNS change* for ".toList, .mono host, .text "\nForwarder ".toList, .mono label,
        .text ['\n'], .mono (joinIps old), .text " → ".toList, .mono (joinIps new), .text ['\n'],
        .text (consequence label)]
  | .targetUnreachable label target downFor lastError =>
      [.text (icon :: " *Target unreachable* ".toList), .mono target,
        .text "\nForwarder ".toList, .mono label, .text "\nFailing for ".toList,
        .text (fmtDuration downFor),
        .text "; clients connecting to this port are being refused.\nLast error: ".toList,
        .plain lastError]
  | .targetRecovered label target downFor address =>
      [.text "✅ *Target reachable again* ".toList, .mono target, .text "\nForwarder ".toList,
        .mono label, .text "\nWas unreachable for ".toList, .text (fmtDuration downFor)] ++
        match address with
        | some addr => [.text "\nAnswering at ".toList, .mono (displayAddr addr)]
        | none => []
  | .bindFailed label localAddr error attempts =>
      [.text (icon :: " *Cannot bind* ".toList), .mono localAddr, .text "\nForwarder ".toList,
        .mono label, .text "\nError: ".toList, .plain error, .text "\nAttempt ".toList,
        .text (Str.decimal attempts), .text "; retrying every 5 s. ".toList,
        .text "Clients cannot connect to this port until it binds.".toList]
  | .bindRecovered label localAddr failedAttempts =>
      [.text "✅ *Listening again* on ".toList, .mono localAddr, .text "\nForwarder ".toList,
        .mono label, .text "\nBound after ".toList, .text (Str.decimal failedAttempts),
        .text " failed attempt(s)".toList]
  | .configReloaded active added removed =>
      [.text "🔵 *Config reloaded* on ".toList, .mono name, .text " — ".toList,
        .text (Str.decimal active), .text " forwarder(s) active".toList,
        .text (unchangedLine added removed)] ++
        (if added ≠ [] then .text "\nAdded: ".toList :: joinPieces added else []) ++
        (if removed ≠ [] then .text "\nRemoved: ".toList :: joinPieces removed else [])
  | .configReloadFailed path error =>
      [.text (icon :: " *Config reload failed* on ".toList), .mono name,
        .text " — running configuration kept\nFile: ".toList, .mono path,
        .text "\nError: ".toList, .plain error]
  | .connectionLimitReached label rejectedTotal =>
      [.text (icon :: " *Connection limit reached*\nForwarder ".toList), .mono label,
        .text "\nmax_connections is saturated; new connections are being refused (".toList,
        .text (Str.decimal rejectedTotal), .text " refused so far).".toList]
  | .udpSessionLimitReached label rejectedTotal =>
      [.text (icon :: " *UDP session limit reached*\nForwarder ".toList), .mono label,
        .text "\nudp_max_sessions is saturated; ".toList,
        .text "datagrams from new clients are being dropped (".toList,
        .text (Str.decimal rejectedTotal), .text " refused so far).".toList]
  | .internal component message =>
      [.text (icon :: " *Internal problem* in ".toList), .mono component,
        .text " on ".toList, .mono name, .text ['\n'], .plain message]

/-- What is left of an event when its strings and numbers are taken away. -/
inductive Shape
  | started (forwarders : ℕ)
  | stopping
  | dnsChanged (old new : ℕ)
  | targetUnreachable
  | targetRecovered (address : Bool)
  | bindFailed
  | bindRecovered
  | configReloaded (added removed : ℕ)
  | configReloadFailed
  | connectionLimitReached
  | udpSessionLimitReached
  | internal
deriving DecidableEq, Repr

/-- The shape of an event. -/
def Event.shape : Event → Shape
  | .started forwarders => .started forwarders.length
  | .stopping _ _ => .stopping
  | .dnsChanged _ _ old new => .dnsChanged old.length new.length
  | .targetUnreachable _ _ _ _ => .targetUnreachable
  | .targetRecovered _ _ _ address => .targetRecovered address.isSome
  | .bindFailed _ _ _ _ => .bindFailed
  | .bindRecovered _ _ _ => .bindRecovered
  | .configReloaded _ added removed => .configReloaded added.length removed.length
  | .configReloadFailed _ _ => .configReloadFailed
  | .connectionLimitReached _ _ => .connectionLimitReached
  | .udpSessionLimitReached _ _ => .udpSessionLimitReached
  | .internal _ _ => .internal

/-- The newlines in the message of an event of this shape, without the suppressed repeats and the
footer. -/
def Shape.bodyNewlines : Shape → ℕ
  | .started forwarders => forwarders
  | .stopping => 0
  | .internal => 1
  | .bindRecovered | .configReloadFailed | .connectionLimitReached | .udpSessionLimitReached => 2
  | .dnsChanged _ _ | .targetUnreachable | .bindFailed => 3
  | .targetRecovered address => if address then 3 else 2
  | .configReloaded added removed =>
      if added = 0 ∧ removed = 0 then 1
      else (if added = 0 then 0 else 1) + if removed = 0 then 0 else 1

/-- The newlines in a whole message; `suppressed` says whether repeats were suppressed. -/
def Shape.newlines (shape : Shape) (suppressed : Bool) : ℕ :=
  shape.bodyNewlines + (if suppressed then 1 else 0) + 1

lemma count_decimal (n : ℕ) : (Str.decimal n).count '\n' = 0 :=
  List.count_eq_zero.mpr (Str.not_mem_decimal (by decide))

lemma count_twoDigits (n : ℕ) : (twoDigits n).count '\n' = 0 := by
  unfold twoDigits
  split_ifs
  · exact (List.count_cons_of_ne (by decide)).trans (count_decimal n)
  · exact count_decimal n

lemma count_fmtDuration (d : ℕ) : (fmtDuration d).count '\n' = 0 := by
  have hm : "m ".toList.count '\n' = 0 := by decide
  have hh : "h ".toList.count '\n' = 0 := by decide
  have hd : "d ".toList.count '\n' = 0 := by decide
  unfold fmtDuration
  dsimp only
  split_ifs <;> simp only [List.count_append, count_decimal, count_twoDigits, hm, hh, hd] <;> decide

lemma count_icon_cons (severity : Severity) (s : Str) :
    (severity.icon :: s).count '\n' = s.count '\n' := by
  have hicon : severity.icon ≠ '\n' := by cases severity <;> decide
  exact List.count_cons_of_ne hicon

lemma count_consequence (label : Str) : (consequence label).count '\n' = 0 := by
  unfold consequence
  split_ifs
  · repeat rw [String.toList_ofList]
    decide
  · repeat rw [String.toList_ofList]
    decide

lemma ProbeReport.newlines_pieces (f : ProbeReport) : (f.pieces.map Piece.newlines).sum = 0 := by
  unfold ProbeReport.pieces
  cases f.outcome with
  | inl answer =>
    dsimp only
    split_ifs
    · simp only [List.map_cons, List.map_nil, Piece.newlines, count_decimal]
      repeat rw [String.toList_ofList]
      decide
    · simp only [List.map_cons, List.map_nil, Piece.newlines, count_decimal]
      repeat rw [String.toList_ofList]
      decide
  | inr e =>
    simp only [List.map_cons, List.map_nil, Piece.newlines]
    repeat rw [String.toList_ofList]
    decide

lemma newlines_reports (forwarders : List ProbeReport) :
    ((forwarders.flatMap fun f => .text ['\n'] :: f.pieces).map Piece.newlines).sum =
      forwarders.length := by
  induction forwarders with
  | nil => rfl
  | cons f forwarders ih =>
    have hnewline : ['\n'].count '\n' = 1 := rfl
    rw [List.flatMap_cons, List.map_append, List.sum_append, ih, List.map_cons, List.sum_cons,
      f.newlines_pieces, Piece.newlines, hnewline, List.length_cons]
    omega

lemma newlines_listPieces (title : Str) (items : List Str) :
    ((if items ≠ [] then .text title :: joinPieces items else []).map Piece.newlines).sum =
      if items.length = 0 then 0 else title.count '\n' := by
  cases items with
  | nil => rfl
  | cons s items =>
    have hjoin := newlines_joinPieces (s :: items)
    simp [hjoin, Piece.newlines]

lemma count_unchangedLine (added removed : List Str) :
    (unchangedLine added removed).count '\n' =
      if added.length = 0 ∧ removed.length = 0 then 1 else 0 := by
  unfold unchangedLine
  simp only [List.length_eq_zero_iff]
  split_ifs
  · rw [String.toList_ofList]
    decide
  · rfl

/-- The newlines of a message are those of its shape. -/
lemma Event.newlines_pieces (name : Str) (e : Event) :
    ((e.pieces name).map Piece.newlines).sum = e.shape.bodyNewlines := by
  unfold Event.pieces Event.shape
  cases e with
  | started forwarders =>
    have hhead : " *rfw started* on ".toList.count '\n' + (" — ".toList.count '\n' +
        " forwarder(s)".toList.count '\n') = 0 := by
      repeat rw [String.toList_ofList]
      decide
    have hbad : ", ".toList.count '\n' + " target(s) unreachable".toList.count '\n' = 0 := by
      repeat rw [String.toList_ofList]
      decide
    dsimp only
    simp only [List.map_append, List.sum_append, newlines_reports, Shape.bodyNewlines]
    split_ifs <;> simp only [List.map_cons, List.map_nil, Piece.newlines, count_decimal,
      count_icon_cons, List.sum_cons, List.sum_nil] <;> omega
  | configReloaded active added removed =>
    have hhead : "🔵 *Config reloaded* on ".toList.count '\n' + (" — ".toList.count '\n' +
        " forwarder(s) active".toList.count '\n') = 0 := by
      repeat rw [String.toList_ofList]
      decide
    have hadded : "\nAdded: ".toList.count '\n' = 1 := by decide
    have hremoved : "\nRemoved: ".toList.count '\n' = 1 := by decide
    dsimp only
    simp only [List.map_append, List.sum_append, newlines_listPieces, Shape.bodyNewlines,
      List.map_cons, List.map_nil, List.sum_cons, List.sum_nil, Piece.newlines, count_decimal,
      count_unchangedLine, hadded, hremoved]
    split_ifs <;> omega
  | targetRecovered label target downFor address =>
    cases address with
    | none =>
      simp only [List.map_append, List.map_cons, List.map_nil, Piece.newlines, count_fmtDuration]
      repeat rw [String.toList_ofList]
      decide
    | some addr =>
      simp only [List.map_append, List.map_cons, List.map_nil, Piece.newlines, count_fmtDuration,
        Shape.bodyNewlines, Option.isSome]
      repeat rw [String.toList_ofList]
      decide
  | _ =>
    dsimp only
    simp only [List.map_cons, List.map_nil, Piece.newlines, count_decimal, count_icon_cons,
      count_fmtDuration, count_consequence, Shape.bodyNewlines]
    repeat rw [String.toList_ofList]
    decide

/-! ## The whole message -/

/-- `CARGO_PKG_VERSION`. -/
def packageVersion : Str := "1.2.0".toList

/-- `InstanceInfo::new`; `defaultName` is what `default_instance_name` finds. -/
def InstanceInfo.new (name : Option Str) (defaultName : Str) (pid : ℕ) : InstanceInfo where
  name := (name.filter fun n => Str.trim n ≠ []).getD defaultName
  version := packageVersion
  pid := pid

section LongReload

variable {n : ℕ}

end LongReload

end Rfw.Notify
