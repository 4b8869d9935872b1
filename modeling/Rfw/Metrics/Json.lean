/-
# The JSON endpoint

`render_json` writes the array of `/stats` by hand.  `renderJson_roundTrip` says that its output is
a JSON text, and that whoever decodes it gets back what the snapshots say.
-/
import Rfw.Lib.JsonReads
import Rfw.Metrics.Escape

namespace Rfw.Metrics

open Lib Json

/-- The `Display` form of a flag. -/
def showBool (b : Bool) : Str := if b then "true".toList else "false".toList

/-- The text of `target_reachable`. -/
def showTarget : Option Bool → Str
  | some true => "true".toList
  | some false => "false".toList
  | none => "null".toList

/-- The fields that only a UDP entry has. -/
def renderUdp (s : StatsSnapshot) : Str :=
  match s.protocol with
  | .udp =>
      ",\"datagrams_sent\":".toList ++ Str.decimal s.datagramsSent ++
        ",\"datagrams_received\":".toList ++ Str.decimal s.datagramsReceived ++
        ",\"datagrams_dropped\":".toList ++ Str.decimal s.datagramsDropped
  | .tcp => []

/-- One entry of `render_json`. -/
def renderEntry (s : StatsSnapshot) : Str :=
  "\x7b\"label\":\"".toList ++ escape s.label ++ "\",\"protocol\":\"".toList ++
    s.protocol.asStr ++ "\",\"bytes_sent\":".toList ++ Str.decimal s.bytesSent ++
    ",\"bytes_received\":".toList ++ Str.decimal s.bytesReceived ++
    ",\"active_connections\":".toList ++ Str.decimal s.activeConnections ++
    ",\"rejected_connections\":".toList ++ Str.decimal s.rejectedConnections ++
    ",\"rate_sent_bps\":".toList ++ Str.decimal s.rateSentBps ++
    ",\"rate_recv_bps\":".toList ++ Str.decimal s.rateRecvBps ++
    ",\"listening\":".toList ++ showBool s.listening ++
    ",\"target_reachable\":".toList ++ showTarget s.targetReachable ++ renderUdp s ++ ['\x7d']

/-- `render_json`. -/
def renderJson (snaps : List StatsSnapshot) : Str :=
  '[' :: (snaps.zipIdx.flatMap fun (s, i) =>
    (if 0 < i then [','] else []) ++ renderEntry s) ++ [']']

/-! ## Decoding -/

/-- What a reader of the endpoint learns about a forwarder. -/
structure Entry where
  label : Str
  protocol : Protocol
  bytesSent : ℕ
  bytesReceived : ℕ
  activeConnections : ℕ
  rejectedConnections : ℕ
  rateSentBps : ℕ
  rateRecvBps : ℕ
  listening : Bool
  targetReachable : Option Bool
  /-- The datagram counters, where they are present. -/
  datagramsSent : Option ℕ
  datagramsReceived : Option ℕ
  datagramsDropped : Option ℕ
deriving DecidableEq, Repr

/-- The member of an object. -/
def field (v : Json) (key : String) : Option Json :=
  match v with
  | .obj ms => (ms.find? fun m => m.1 = key.toList).map Prod.snd
  | _ => none

/-- A natural number. -/
def asNat : Json → Option ℕ
  | .num (.ofNat n) 0 => some n
  | _ => none

/-- A flag. -/
def asBool : Json → Option Bool
  | .bool b => some b
  | _ => none

/-- A string. -/
def asStr : Json → Option Str
  | .str s => some s
  | _ => none

/-- A flag that may be `null`. -/
def asNullable : Json → Option (Option Bool)
  | .null => some none
  | v => (asBool v).map some

/-- A protocol. -/
def asProtocol (v : Json) : Option Protocol :=
  if asStr v = some "tcp".toList then some .tcp
  else if asStr v = some "udp".toList then some .udp
  else none

/-- A datagram counter: a number for UDP, and absent for TCP. -/
def asDatagrams (protocol : Protocol) (v : Option Json) : Option (Option ℕ) :=
  match protocol, v with
  | .udp, some v => (asNat v).map some
  | .tcp, none => some none
  | _, _ => none

/-- An object whose keys are all different. -/
def uniqueKeys : Json → Bool
  | .obj ms => decide (ms.map Prod.fst).Nodup
  | _ => false

/-- Decode one entry of the array. -/
def decodeEntry (v : Json) : Option Entry := do
  guard (uniqueKeys v)
  let label ← (field v "label").bind asStr
  let protocol ← (field v "protocol").bind asProtocol
  let bytesSent ← (field v "bytes_sent").bind asNat
  let bytesReceived ← (field v "bytes_received").bind asNat
  let activeConnections ← (field v "active_connections").bind asNat
  let rejectedConnections ← (field v "rejected_connections").bind asNat
  let rateSentBps ← (field v "rate_sent_bps").bind asNat
  let rateRecvBps ← (field v "rate_recv_bps").bind asNat
  let listening ← (field v "listening").bind asBool
  let targetReachable ← (field v "target_reachable").bind asNullable
  let datagramsSent ← asDatagrams protocol (field v "datagrams_sent")
  let datagramsReceived ← asDatagrams protocol (field v "datagrams_received")
  let datagramsDropped ← asDatagrams protocol (field v "datagrams_dropped")
  return {
    label, protocol, bytesSent, bytesReceived, activeConnections, rejectedConnections,
    rateSentBps, rateRecvBps, listening, targetReachable, datagramsSent, datagramsReceived,
    datagramsDropped }

/-- What a snapshot says to a reader of the endpoint. -/
def StatsSnapshot.entry (s : StatsSnapshot) : Entry where
  label := s.label
  protocol := s.protocol
  bytesSent := s.bytesSent
  bytesReceived := s.bytesReceived
  activeConnections := s.activeConnections
  rejectedConnections := s.rejectedConnections
  rateSentBps := s.rateSentBps
  rateRecvBps := s.rateRecvBps
  listening := s.listening
  targetReachable := s.targetReachable
  datagramsSent := if s.protocol = .udp then some s.datagramsSent else none
  datagramsReceived := if s.protocol = .udp then some s.datagramsReceived else none
  datagramsDropped := if s.protocol = .udp then some s.datagramsDropped else none

/-! ## Labels -/

lemma hexVal_digitChar {k : ℕ} (h : k < 16) : hexVal k.digitChar = some k := by
  revert k
  decide

lemma hex4_hexPad4 {n : ℕ} (h : n < 0x100) :
    ∃ a b c d, hexPad4 n = [a, b, c, d] ∧ hex4 a b c d = some n := by
  refine ⟨_, _, _, _, hexPad4_eq h, ?_⟩
  have hzero : hexVal '0' = some 0 := by decide
  have hhigh : hexVal (n / 16).digitChar = some (n / 16) := hexVal_digitChar (by omega)
  have hlow : hexVal (n % 16).digitChar = some (n % 16) := hexVal_digitChar (by omega)
  simp only [hex4, hzero, hhigh, hlow, Option.bind_eq_bind, Option.bind_some]
  show some (((0 * 16 + 0) * 16 + n / 16) * 16 + n % 16) = some n
  congr 1
  omega

lemma shortEscape_of_escapeLetter {c e : Char} (h : escapeLetter c = some e) :
    shortEscape e = some c ∧ e ≠ 'u' := by
  unfold escapeLetter at h
  split at h
  · obtain rfl := Option.some.inj h
    exact ⟨rfl, by decide⟩
  · obtain rfl := Option.some.inj h
    exact ⟨rfl, by decide⟩
  · obtain rfl := Option.some.inj h
    exact ⟨rfl, by decide⟩
  · obtain rfl := Option.some.inj h
    exact ⟨rfl, by decide⟩
  · obtain rfl := Option.some.inj h
    exact ⟨rfl, by decide⟩
  · cases h

/-- An escaped character is read back. -/
lemma chars_escapeChar (c : Char) (s : Str) : chars (escapeChar c ++ s) = push c (chars s) := by
  cases escapeCase c with
  | letter e he h =>
    obtain ⟨hshort, hu⟩ := shortEscape_of_escapeLetter he
    have hchars := chars.eq_3 e s fun _ _ _ _ _ heq _ => hu heq
    rw [hshort] at hchars
    rw [h]
    exact hchars
  | number hc h =>
    have hlt := toNat_lt_of_isControl hc
    obtain ⟨a, b, c', d, hpad, hn⟩ := hex4_hexPad4 hlt
    rw [h, hpad]
    show chars ('\\' :: 'u' :: a :: b :: c' :: d :: s) = _
    -- a control character is far below the surrogates
    have hhigh : isHigh c.toNat = false := by simp [isHigh]; omega
    have hlow : isLow c.toNat = false := by simp [isLow]; omega
    simp only [chars, hn, hhigh, hlow, Bool.false_eq_true, if_false, Char.ofNat_toNat]
  | itself hslash hquote hc h =>
    rw [h]
    exact chars_plain_cons ⟨hquote, hslash, le_toNat_of_not_isControl hc⟩ s

lemma chars_escape (label rest : Str) :
    chars (escape label ++ '"' :: rest) = some (label, rest) := by
  induction label with
  | nil => rfl
  | cons c label ih =>
    rw [escape_cons, List.append_assoc, chars_escapeChar, ih]
    rfl

/-- Different labels stay different. -/
lemma escape_injective : Function.Injective escape := by
  intro l l' h
  have hl := chars_escape l []
  rw [h, chars_escape] at hl
  exact (Prod.mk.inj (Option.some.inj hl)).1.symm

/-! ## Entries -/

lemma plain_asStr (p : Protocol) : Plain p.asStr := by
  cases p with
  | tcp =>
    show Plain "tcp".toList
    rw [String.toList_ofList]
    decide
  | udp =>
    show Plain "udp".toList
    rw [String.toList_ofList]
    decide

lemma reads_showBool (b : Bool) : Reads (showBool b) (.bool b) := by
  cases b
  · exact reads_false
  · exact reads_true

/-- The value of `target_reachable`. -/
def targetJson : Option Bool → Json
  | some b => .bool b
  | none => .null

lemma reads_showTarget (t : Option Bool) : Reads (showTarget t) (targetJson t) := by
  match t with
  | some true => exact reads_true
  | some false => exact reads_false
  | none => exact reads_null

/-- A member with a number. -/
def counter (key : String) (n : ℕ) : Member := ⟨key.toList, Str.decimal n, .num n 0⟩

/-- The members that only a UDP entry has. -/
def udpMembers (s : StatsSnapshot) : List Member :=
  match s.protocol with
  | .udp =>
      [counter "datagrams_sent" s.datagramsSent, counter "datagrams_received" s.datagramsReceived,
        counter "datagrams_dropped" s.datagramsDropped]
  | .tcp => []

/-- The members of an entry. -/
def entryMembers (s : StatsSnapshot) : List Member :=
  [⟨"label".toList, '"' :: escape s.label ++ ['"'], .str s.label⟩,
    ⟨"protocol".toList, '"' :: s.protocol.asStr ++ ['"'], .str s.protocol.asStr⟩,
    counter "bytes_sent" s.bytesSent,
    counter "bytes_received" s.bytesReceived,
    counter "active_connections" s.activeConnections,
    counter "rejected_connections" s.rejectedConnections,
    counter "rate_sent_bps" s.rateSentBps,
    counter "rate_recv_bps" s.rateRecvBps,
    ⟨"listening".toList, showBool s.listening, .bool s.listening⟩,
    ⟨"target_reachable".toList, showTarget s.targetReachable, targetJson s.targetReachable⟩] ++
    udpMembers s

/-- The value of an entry. -/
def entryJson (s : StatsSnapshot) : Json := .obj ((entryMembers s).map fun m => (m.key, m.value))

/-- The text of an entry is the one of its members.  The literals of the format are cut at their
keys. -/
lemma renderEntry_eq (s : StatsSnapshot) :
    renderEntry s = '\x7b' :: joinComma ((entryMembers s).map Member.write) ++ ['\x7d'] := by
  have hlabel : "\x7b\"label\":\"".toList =
      '\x7b' :: '"' :: "label".toList ++ ['"', ':', '"'] := by simp
  have hprotocol : "\",\"protocol\":\"".toList =
      '"' :: ',' :: '"' :: "protocol".toList ++ ['"', ':', '"'] := by simp
  have hsent : "\",\"bytes_sent\":".toList =
      '"' :: ',' :: '"' :: "bytes_sent".toList ++ ['"', ':'] := by simp
  have hreceived : ",\"bytes_received\":".toList =
      ',' :: '"' :: "bytes_received".toList ++ ['"', ':'] := by simp
  have hactive : ",\"active_connections\":".toList =
      ',' :: '"' :: "active_connections".toList ++ ['"', ':'] := by simp
  have hrejected : ",\"rejected_connections\":".toList =
      ',' :: '"' :: "rejected_connections".toList ++ ['"', ':'] := by simp
  have hsentRate : ",\"rate_sent_bps\":".toList =
      ',' :: '"' :: "rate_sent_bps".toList ++ ['"', ':'] := by simp
  have hrecvRate : ",\"rate_recv_bps\":".toList =
      ',' :: '"' :: "rate_recv_bps".toList ++ ['"', ':'] := by simp
  have hlistening : ",\"listening\":".toList =
      ',' :: '"' :: "listening".toList ++ ['"', ':'] := by simp
  have htarget : ",\"target_reachable\":".toList =
      ',' :: '"' :: "target_reachable".toList ++ ['"', ':'] := by simp
  have hdatagramsSent : ",\"datagrams_sent\":".toList =
      ',' :: '"' :: "datagrams_sent".toList ++ ['"', ':'] := by simp
  have hdatagramsReceived : ",\"datagrams_received\":".toList =
      ',' :: '"' :: "datagrams_received".toList ++ ['"', ':'] := by simp
  have hdatagramsDropped : ",\"datagrams_dropped\":".toList =
      ',' :: '"' :: "datagrams_dropped".toList ++ ['"', ':'] := by simp
  unfold renderEntry renderUdp entryMembers udpMembers
  rw [hlabel, hprotocol, hsent, hreceived, hactive, hrejected, hsentRate, hrecvRate, hlistening,
    htarget, hdatagramsSent, hdatagramsReceived, hdatagramsDropped]
  cases s.protocol with
  | tcp =>
    simp only [List.append_assoc, List.append_nil, List.map_cons, List.map_nil, joinComma,
      Member.write, counter, List.cons_append, List.nil_append]
  | udp =>
    simp only [List.append_assoc, List.map_cons, List.map_nil, joinComma, Member.write, counter,
      List.cons_append, List.nil_append]

/-- The keys need no escapes. -/
lemma plain_keys :
    ["label", "protocol", "bytes_sent", "bytes_received", "active_connections",
      "rejected_connections", "rate_sent_bps", "rate_recv_bps", "listening", "target_reachable",
      "datagrams_sent", "datagrams_received", "datagrams_dropped"].Forall
        fun key => Plain key.toList := by
  simp only [List.Forall]
  -- `decide` needs the characters of each literal
  repeat rw [String.toList_ofList]
  decide

/-- Every member of an entry is read back. -/
lemma reads_entryMembers (s : StatsSnapshot) :
    ∀ m ∈ entryMembers s, Plain m.key ∧ Reads m.text m.value := by
  obtain ⟨hlabel, hprotocol, hsent, hreceived, hactive, hrejected, hsentRate, hrecvRate,
    hlistening, htarget, hdatagramsSent, hdatagramsReceived, hdatagramsDropped⟩ := plain_keys
  have hcounter : ∀ {key : String} (n : ℕ), Plain key.toList →
      Plain (counter key n).key ∧ Reads (counter key n).text (counter key n).value :=
    fun n hkey => ⟨hkey, reads_decimal n⟩
  have hudp : ∀ m ∈ udpMembers s, Plain m.key ∧ Reads m.text m.value := by
    unfold udpMembers
    cases s.protocol with
    | tcp => exact nofun
    | udp =>
      simp only [List.forall_mem_cons]
      exact ⟨hcounter _ hdatagramsSent, hcounter _ hdatagramsReceived,
        hcounter _ hdatagramsDropped, nofun⟩
  simp only [entryMembers, List.forall_mem_append, List.forall_mem_cons]
  exact ⟨⟨⟨hlabel, reads_str (chars_escape s.label)⟩,
    ⟨hprotocol, reads_str (chars_plain (plain_asStr s.protocol))⟩,
    hcounter _ hsent, hcounter _ hreceived, hcounter _ hactive, hcounter _ hrejected,
    hcounter _ hsentRate, hcounter _ hrecvRate,
    ⟨hlistening, reads_showBool s.listening⟩,
    ⟨htarget, reads_showTarget s.targetReachable⟩, nofun⟩, hudp⟩

/-- An entry is read back. -/
lemma reads_renderEntry (s : StatsSnapshot) : Reads (renderEntry s) (entryJson s) := by
  rw [renderEntry_eq]
  exact reads_obj (reads_entryMembers s)

/-- The keys of an entry are all different. -/
lemma uniqueKeys_entryJson (s : StatsSnapshot) : uniqueKeys (entryJson s) = true := by
  have hkeys : ((entryMembers s).map Member.key).Nodup := by
    unfold entryMembers udpMembers
    cases s.protocol with
    | tcp =>
      simp only [List.append_nil, List.map_cons, List.map_nil, counter]
      repeat rw [String.toList_ofList]
      decide
    | udp =>
      simp only [List.map_append, List.map_cons, List.map_nil, counter]
      repeat rw [String.toList_ofList]
      decide
  have hfst : ((entryMembers s).map fun m => (m.key, m.value)).map Prod.fst =
      (entryMembers s).map Member.key := List.map_map
  exact decide_eq_true (hfst ▸ hkeys)

/-- Decoding an entry gives what the snapshot says. -/
lemma decodeEntry_entryJson (s : StatsSnapshot) : decodeEntry (entryJson s) = some s.entry := by
  unfold decodeEntry
  rw [uniqueKeys_entryJson]
  obtain ⟨label, protocol, _, _, _, _, _, _, _, _, _, listening, target⟩ := s
  cases protocol <;> rcases target with _ | target <;> rfl

/-- After the first entry every entry has a comma before it. -/
lemma flatMap_zipIdx (snaps : List StatsSnapshot) {i : ℕ} (hi : 0 < i) :
    ((snaps.zipIdx i).flatMap fun (s, i) => (if 0 < i then [','] else []) ++ renderEntry s) =
      (snaps.map renderEntry).flatMap fun t => ',' :: t := by
  induction snaps generalizing i with
  | nil => rfl
  | cons s snaps ih =>
    rw [List.zipIdx_cons, List.flatMap_cons, List.map_cons, List.flatMap_cons,
      ih (Nat.succ_pos i)]
    simp only [hi, if_true, List.singleton_append]

/-- The commas stand between the entries. -/
lemma renderJson_eq (snaps : List StatsSnapshot) :
    renderJson snaps = '[' :: joinComma (snaps.map renderEntry) ++ [']'] := by
  cases snaps with
  | nil => rfl
  | cons s snaps =>
    rw [renderJson, List.zipIdx_cons, List.flatMap_cons, flatMap_zipIdx snaps (Nat.succ_pos 0),
      List.map_cons, joinComma_cons]
    simp only [Nat.lt_irrefl, if_false, List.nil_append]

/-- **The endpoint round-trips.**  For every list of snapshots the output of `render_json` is a JSON
text, an array with one entry for each snapshot in order, and decoding the entries gives back what
the snapshots say.  The decoder is strict: the keys of an entry are all different, and the datagram
counters are present exactly for UDP. -/
theorem renderJson_roundTrip (snaps : List StatsSnapshot) :
    ∃ vs, Json.parse (renderJson snaps) = some (.arr vs) ∧
      Json.Text (renderJson snaps) (.arr vs) ∧
      vs.map decodeEntry = snaps.map fun s => some s.entry := by
  have hreads : Reads (renderJson snaps) (.arr (snaps.map entryJson)) := by
    have hentries : ∀ p ∈ snaps.map fun s => (renderEntry s, entryJson s), Reads p.1 p.2 := by
      intro p hp
      obtain ⟨s, -, rfl⟩ := List.mem_map.mp hp
      exact reads_renderEntry s
    have harr := reads_arr hentries
    rw [List.map_map, List.map_map] at harr
    rw [renderJson_eq]
    exact harr
  have hparse := parse_of_reads hreads
  refine ⟨snaps.map entryJson, hparse, text_of_parse hparse, ?_⟩
  rw [List.map_map]
  exact List.map_congr_left fun s _ => decodeEntry_entryJson s

end Rfw.Metrics
