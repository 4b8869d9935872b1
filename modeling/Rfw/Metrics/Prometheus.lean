/-
# The Prometheus endpoint

`render_prometheus` writes a page of metrics: seven families with one sample for each forwarder,
the reachability of the targets that were probed, and three families for UDP forwarders only.

`renderPrometheus_page` reads the page back, line by line.
-/
import Rfw.Lib.Exposition
import Rfw.Metrics.Json

namespace Rfw.Metrics

open Lib Exposition

/-- The arguments of one call of `push_metric`.  The texts of a family fit on one line each. -/
structure Family where
  name : Str
  help : Str
  kind : Str
  getter : StatsSnapshot → ℕ
  isName : IsName name := by rw [String.toList_ofList]; decide
  help_line : '\n' ∉ help := by repeat rw [String.toList_ofList]; decide
  kind_line : '\n' ∉ kind := by rw [String.toList_ofList]; decide

/-- `push_metric`. -/
def pushMetric (out : Str) (f : Family) (snaps : List StatsSnapshot) : Str :=
  out ++ "# HELP ".toList ++ f.name ++ [' '] ++ f.help ++ ['\n'] ++
    "# TYPE ".toList ++ f.name ++ [' '] ++ f.kind ++ ['\n'] ++
    snaps.flatMap fun s =>
      f.name ++ "\x7blabel=\"".toList ++ escape s.label ++ "\"\x7d ".toList ++
        Str.decimal (f.getter s) ++ ['\n']

/-- The families that every forwarder has, in order. -/
def commonFamilies : List Family :=
  [{ name := "rfw_bytes_sent_total".toList
     help := "Lifetime bytes forwarded client->remote.".toList
     kind := "counter".toList
     getter := StatsSnapshot.bytesSent },
   { name := "rfw_bytes_received_total".toList
     help := "Lifetime bytes forwarded remote->client.".toList
     kind := "counter".toList
     getter := StatsSnapshot.bytesReceived },
   { name := "rfw_bytes_sent_rate_bps".toList
     help := "Current send throughput (bytes/sec).".toList
     kind := "gauge".toList
     getter := StatsSnapshot.rateSentBps },
   { name := "rfw_bytes_received_rate_bps".toList
     help := "Current receive throughput (bytes/sec).".toList
     kind := "gauge".toList
     getter := StatsSnapshot.rateRecvBps },
   { name := "rfw_active_connections".toList
     help := "Currently active connections.".toList
     kind := "gauge".toList
     getter := StatsSnapshot.activeConnections },
   { name := "rfw_rejected_connections_total".toList
     help := "Lifetime connections refused because max_connections was saturated.".toList
     kind := "counter".toList
     getter := StatsSnapshot.rejectedConnections },
   { name := "rfw_listening".toList
     help := "1 while the forwarder's listener is bound and accepting, 0 otherwise.".toList
     kind := "gauge".toList
     getter := fun s => s.listening.toNat }]

/-- The families that only UDP forwarders have, in order. -/
def udpFamilies : List Family :=
  [{ name := "rfw_datagrams_sent_total".toList
     help := "Lifetime UDP datagrams forwarded client->remote.".toList
     kind := "counter".toList
     getter := StatsSnapshot.datagramsSent },
   { name := "rfw_datagrams_received_total".toList
     help := "Lifetime UDP datagrams forwarded remote->client.".toList
     kind := "counter".toList
     getter := StatsSnapshot.datagramsReceived },
   { name := "rfw_datagrams_dropped_total".toList
     help := ("Lifetime UDP datagrams dropped (socket buffer full, session limit, ".toList ++
       "target not resolved, send error).".toList)
     kind := "counter".toList
     getter := StatsSnapshot.datagramsDropped }]

/-- The name of the family with the verdicts of the monitor. -/
def targetName : Str := "rfw_target_reachable".toList

/-- Its help text. -/
def targetHelp : Str :=
  "1 if the last probe of the target succeeded, 0 if it failed; ".toList ++
    "absent before the first probe.".toList

/-- The part of `render_prometheus` for the verdicts of the monitor: a target that was not probed
yet has no sample. -/
def pushTargetReachable (out : Str) (snaps : List StatsSnapshot) : Str :=
  out ++ "# HELP ".toList ++ targetName ++ [' '] ++ targetHelp ++ ['\n'] ++
    "# TYPE ".toList ++ targetName ++ [' '] ++ "gauge".toList ++ ['\n'] ++
    snaps.flatMap fun s =>
      match s.targetReachable with
      | some up =>
          targetName ++ "\x7blabel=\"".toList ++ escape s.label ++ "\"\x7d ".toList ++
            Str.decimal up.toNat ++ ['\n']
      | none => []

/-- The snapshots of UDP forwarders. -/
def udpSnapshots (snaps : List StatsSnapshot) : List StatsSnapshot :=
  snaps.filter fun s => s.protocol = .udp

/-- `render_prometheus`. -/
def renderPrometheus (snaps : List StatsSnapshot) : Str :=
  let out := commonFamilies.foldl (fun out f => pushMetric out f snaps) []
  let out := pushTargetReachable out snaps
  let udp := udpSnapshots snaps
  if udp.isEmpty then out else udpFamilies.foldl (fun out f => pushMetric out f udp) out

/-! ## The page as a list of blocks -/

/-- The block of a family. -/
def Family.block (f : Family) (snaps : List StatsSnapshot) : Block where
  name := f.name
  doc := f.help
  kind := f.kind
  samples := snaps.map fun s => (escape s.label, f.getter s)

/-- The block with the verdicts of the monitor. -/
def targetBlock (snaps : List StatsSnapshot) : Block where
  name := targetName
  doc := targetHelp
  kind := "gauge".toList
  samples := snaps.filterMap fun s => s.targetReachable.map fun up => (escape s.label, up.toNat)

/-- The blocks for UDP forwarders, if there are any. -/
def udpBlocks (snaps : List StatsSnapshot) : List Block :=
  if (udpSnapshots snaps).isEmpty then []
  else udpFamilies.map fun f => f.block (udpSnapshots snaps)

/-- The blocks of the page. -/
def blocks (snaps : List StatsSnapshot) : List Block :=
  commonFamilies.map (fun f => f.block snaps) ++ targetBlock snaps :: udpBlocks snaps

lemma mark_eq : "# HELP ".toList = helpMark ∧ "# TYPE ".toList = typeMark :=
  ⟨String.toList_ofList, String.toList_ofList⟩

lemma quote_eq :
    "\x7blabel=\"".toList = '\x7b' :: labelOpen ∧ "\"\x7d ".toList = '"' :: labelClose :=
  ⟨String.toList_ofList, String.toList_ofList⟩

lemma render_append (ls ls' : List Line) : render (ls ++ ls') = render ls ++ render ls' :=
  List.flatMap_append

lemma render_samples (name : Str) (ps : List (Str × ℕ)) :
    render (ps.map fun p => .sample name p.1 p.2) =
      ps.flatMap fun p => (Line.sample name p.1 p.2).text ++ ['\n'] := by
  rw [render, List.flatMap_map]

lemma pushMetric_eq (out : Str) (f : Family) (snaps : List StatsSnapshot) :
    pushMetric out f snaps = out ++ render (f.block snaps).lines := by
  have hsamples : (snaps.flatMap fun s =>
      f.name ++ "\x7blabel=\"".toList ++ escape s.label ++ "\"\x7d ".toList ++
        Str.decimal (f.getter s) ++ ['\n']) =
      render ((f.block snaps).samples.map fun p => .sample f.name p.1 p.2) := by
    rw [render_samples, Family.block, List.flatMap_map, quote_eq.1, quote_eq.2]
    refine List.flatMap_congr fun s _ => ?_
    simp [Line.text]
  rw [pushMetric, hsamples, mark_eq.1, mark_eq.2]
  simp [Block.lines, render, Line.text, Family.block]

lemma pushTargetReachable_eq (out : Str) (snaps : List StatsSnapshot) :
    pushTargetReachable out snaps = out ++ render (targetBlock snaps).lines := by
  have hsamples : (snaps.flatMap fun s =>
      match s.targetReachable with
      | some up =>
          targetName ++ "\x7blabel=\"".toList ++ escape s.label ++ "\"\x7d ".toList ++
            Str.decimal up.toNat ++ ['\n']
      | none => []) =
      render ((targetBlock snaps).samples.map fun p => .sample targetName p.1 p.2) := by
    rw [render_samples, targetBlock, quote_eq.1, quote_eq.2]
    induction snaps with
    | nil => rfl
    | cons s snaps ih =>
      rw [List.flatMap_cons, ih]
      cases hs : s.targetReachable with
      | none => simp [hs]
      | some up => simp [hs, Line.text]
  rw [pushTargetReachable, hsamples, mark_eq.1, mark_eq.2]
  simp [Block.lines, render, Line.text, targetBlock]

lemma foldl_pushMetric (fs : List Family) (out : Str) (snaps : List StatsSnapshot) :
    fs.foldl (fun out f => pushMetric out f snaps) out =
      out ++ render ((fs.map fun f => f.block snaps).flatMap Block.lines) := by
  induction fs generalizing out with
  | nil => exact (List.append_nil out).symm
  | cons f fs ih =>
    rw [List.foldl_cons, ih, pushMetric_eq, List.map_cons, List.flatMap_cons, render_append,
      List.append_assoc]

/-- The page is the text of its blocks. -/
lemma renderPrometheus_eq (snaps : List StatsSnapshot) :
    renderPrometheus snaps = render ((blocks snaps).flatMap Block.lines) := by
  rw [blocks, List.flatMap_append, List.flatMap_cons, render_append, render_append]
  simp only [renderPrometheus, foldl_pushMetric, pushTargetReachable_eq, udpBlocks]
  split
  · simp [render]
  · simp

/-! ## Labels on the page -/

lemma scanLabel_cons {c : Char} (hquote : c ≠ '"') (hslash : c ≠ '\\') (s : Str) :
    scanLabel (c :: s) = (scanLabel s).map fun p => (c :: p.1, p.2) := by
  rw [scanLabel]
  · exact hquote
  · exact fun _ _ heq _ => hslash heq

/-- Characters without a special meaning are passed over. -/
lemma scanLabel_append {t : Str} (h : ∀ c ∈ t, c ≠ '"' ∧ c ≠ '\\') (s : Str) :
    scanLabel (t ++ s) = (scanLabel s).map fun p => (t ++ p.1, p.2) := by
  induction t with
  | nil => simp
  | cons c t ih =>
    obtain ⟨hquote, hslash⟩ := h c List.mem_cons_self
    rw [List.cons_append, scanLabel_cons hquote hslash,
      ih fun d hd => h d (List.mem_cons_of_mem c hd), Option.map_map]
    rfl

/-- An escaped character is passed over as a whole. -/
lemma scanLabel_escapeChar (c : Char) (s : Str) :
    scanLabel (escapeChar c ++ s) = (scanLabel s).map fun p => (escapeChar c ++ p.1, p.2) := by
  cases escapeCase c with
  | letter e he h =>
    rw [h]
    rfl
  | number hc h =>
    have hplain : ∀ d ∈ hexPad4 c.toNat, d ≠ '"' ∧ d ≠ '\\' := fun d hd =>
      let hd := mem_hexPad4 (toNat_lt_of_isControl hc) hd
      ⟨hd.1, hd.2.1⟩
    rw [h]
    show (scanLabel (hexPad4 c.toNat ++ s)).map (fun p => ('\\' :: 'u' :: p.1, p.2)) = _
    rw [scanLabel_append hplain, Option.map_map]
    rfl
  | itself hslash hquote hc h =>
    rw [h]
    exact scanLabel_cons hquote hslash s

lemma scanLabel_escape (label rest : Str) :
    scanLabel (escape label ++ '"' :: rest) = some (escape label, rest) := by
  induction label with
  | nil => rfl
  | cons c label ih =>
    rw [escape_cons, List.append_assoc, scanLabel_escapeChar, ih]
    rfl

lemma newline_notMem_escapeChar (c : Char) : '\n' ∉ escapeChar c := by
  cases escapeCase c with
  | letter e he h =>
    have hn : e ≠ '\n' := by
      rintro rfl
      have hshort := (shortEscape_of_escapeLetter he).1
      cases hshort
    rw [h]
    simp [Ne.symm hn]
  | number hc h =>
    have hpad : '\n' ∉ hexPad4 c.toNat := fun hmem =>
      (mem_hexPad4 (toNat_lt_of_isControl hc) hmem).2.2 rfl
    rw [h]
    simp [hpad]
  | itself hslash hquote hc h =>
    have hn : c ≠ '\n' := by
      rintro rfl
      cases hc
    rw [h]
    simp [Ne.symm hn]

lemma quotable_escape (label : Str) : Quotable (escape label) where
  newline hmem := by
    obtain ⟨c, -, hc⟩ := List.mem_flatMap.mp hmem
    exact newline_notMem_escapeChar c hc
  scan := scanLabel_escape label

/-! ## The blocks are well formed -/

lemma targetName_isName : IsName targetName := by
  unfold targetName
  rw [String.toList_ofList]
  decide

lemma targetHelp_line : '\n' ∉ targetHelp := by
  unfold targetHelp
  rw [String.toList_ofList, String.toList_ofList]
  decide

/-- No two families have the same name. -/
lemma nodup_names :
    (commonFamilies.map Family.name ++ targetName :: udpFamilies.map Family.name).Nodup := by
  unfold commonFamilies udpFamilies targetName
  -- the literals have to be written out as characters before `decide` can compare them
  show ["rfw_bytes_sent_total".toList, "rfw_bytes_received_total".toList,
    "rfw_bytes_sent_rate_bps".toList, "rfw_bytes_received_rate_bps".toList,
    "rfw_active_connections".toList, "rfw_rejected_connections_total".toList,
    "rfw_listening".toList, "rfw_target_reachable".toList, "rfw_datagrams_sent_total".toList,
    "rfw_datagrams_received_total".toList, "rfw_datagrams_dropped_total".toList].Nodup
  repeat rw [String.toList_ofList]
  decide

section Blocks

variable {snaps : List StatsSnapshot} {b : Block}

/-- A block of the page is one of a family that every forwarder has, the one of the verdicts, or one
of a UDP family. -/
lemma mem_blocks : b ∈ blocks snaps ↔
    (∃ f ∈ commonFamilies, f.block snaps = b) ∨ b = targetBlock snaps ∨
      (udpSnapshots snaps ≠ [] ∧ ∃ f ∈ udpFamilies, f.block (udpSnapshots snaps) = b) := by
  rw [blocks, List.mem_append, List.mem_map, List.mem_cons, udpBlocks]
  by_cases hudp : udpSnapshots snaps = []
  · simp [hudp]
  · simp [hudp]

lemma Family.block_wellFormed (f : Family) (snaps : List StatsSnapshot) :
    (f.block snaps).WellFormed where
  name := f.isName
  doc := f.help_line
  kind := f.kind_line
  samples p hp := by
    obtain ⟨s, -, rfl⟩ := List.mem_map.mp hp
    exact quotable_escape s.label

lemma targetBlock_wellFormed (snaps : List StatsSnapshot) : (targetBlock snaps).WellFormed where
  name := targetName_isName
  doc := targetHelp_line
  kind := by
    show '\n' ∉ "gauge".toList
    rw [String.toList_ofList]
    decide
  samples p hp := by
    obtain ⟨s, -, hs⟩ := List.mem_filterMap.mp hp
    obtain ⟨up, -, rfl⟩ := Option.map_eq_some_iff.mp hs
    exact quotable_escape s.label

lemma wellFormed_of_mem_blocks (h : b ∈ blocks snaps) : b.WellFormed := by
  rcases mem_blocks.mp h with ⟨f, -, rfl⟩ | rfl | ⟨-, f, -, rfl⟩
  · exact f.block_wellFormed snaps
  · exact targetBlock_wellFormed snaps
  · exact f.block_wellFormed (udpSnapshots snaps)

/-- No two blocks are about the same metric. -/
lemma nodup_blocks (snaps : List StatsSnapshot) : ((blocks snaps).map Block.name).Nodup := by
  have hnames := nodup_names
  have hcommon : (commonFamilies.map fun f => f.block snaps).map Block.name =
      commonFamilies.map Family.name := List.map_map
  have hudp : ((udpBlocks snaps).map Block.name).Sublist (udpFamilies.map Family.name) := by
    rw [udpBlocks]
    split
    · exact List.nil_sublist _
    · rw [List.map_map]
      exact List.Sublist.refl _
  rw [blocks, List.map_append, List.map_cons, hcommon]
  exact hnames.sublist ((List.Sublist.refl _).append (hudp.cons_cons targetName))

/-- The samples of a block carry escaped labels of snapshots. -/
lemma label_of_mem_samples (hb : b ∈ blocks snaps) {p : Str × ℕ} (hp : p ∈ b.samples) :
    ∃ s ∈ snaps, p.1 = escape s.label := by
  rcases mem_blocks.mp hb with ⟨f, -, rfl⟩ | rfl | ⟨-, f, -, rfl⟩
  · obtain ⟨s, hs, rfl⟩ := List.mem_map.mp hp
    exact ⟨s, hs, rfl⟩
  · obtain ⟨s, hs, hup⟩ := List.mem_filterMap.mp hp
    obtain ⟨up, -, rfl⟩ := Option.map_eq_some_iff.mp hup
    exact ⟨s, hs, rfl⟩
  · obtain ⟨s, hs, rfl⟩ := List.mem_map.mp hp
    exact ⟨s, List.mem_of_mem_filter hs, rfl⟩

lemma udpSnapshots_ne_nil : udpSnapshots snaps ≠ [] ↔ ∃ s ∈ snaps, s.protocol = .udp := by
  simp [udpSnapshots, List.filter_eq_nil_iff]

/-- The name of a UDP family is on the page only if there is a UDP snapshot. -/
lemma udp_name_iff {f : Family} (hf : f ∈ udpFamilies) :
    (∃ l ∈ (blocks snaps).flatMap Block.lines, l.name = f.name) ↔ udpSnapshots snaps ≠ [] := by
  rw [exists_line_iff, List.mem_map]
  constructor
  · rintro ⟨b, hb, hname⟩
    have hdisjoint := (List.nodup_append.mp nodup_names).2.2
    have htarget := (List.nodup_cons.mp (List.nodup_append.mp nodup_names).2.1).1
    have hfname : f.name ∈ udpFamilies.map Family.name := List.mem_map_of_mem hf
    -- a block of another kind would share its name with the family
    rcases mem_blocks.mp hb with ⟨g, hg, rfl⟩ | rfl | ⟨hne, -⟩
    · exact absurd hname
        (hdisjoint _ (List.mem_map_of_mem hg) _ (List.mem_cons_of_mem _ hfname))
    · have hname : targetName = f.name := hname
      rw [← hname] at hfname
      exact absurd hfname htarget
    · exact hne
  · intro hne
    exact ⟨f.block (udpSnapshots snaps), mem_blocks.mpr (Or.inr (Or.inr ⟨hne, f, hf, rfl⟩)), rfl⟩

lemma nodup_escape (h : (snaps.map StatsSnapshot.label).Nodup) :
    (snaps.map fun s => escape s.label).Nodup := by
  have hmap := h.map escape_injective
  rwa [List.map_map] at hmap

/-- Leaving out the snapshots without a verdict leaves out their labels. -/
lemma targetBlock_labels (snaps : List StatsSnapshot) :
    ((targetBlock snaps).samples.map Prod.fst).Sublist (snaps.map fun s => escape s.label) := by
  induction snaps with
  | nil => exact List.Sublist.refl _
  | cons s snaps ih =>
    rw [targetBlock] at ih ⊢
    cases hs : s.targetReachable with
    | none =>
      rw [List.filterMap_cons_none (by rw [hs]; rfl)]
      exact ih.cons (escape s.label)
    | some up =>
      rw [List.filterMap_cons_some (by rw [hs]; rfl)]
      exact ih.cons_cons (escape s.label)

/-- No block has a label twice. -/
lemma nodup_labels (h : (snaps.map StatsSnapshot.label).Nodup) (hb : b ∈ blocks snaps) :
    (b.samples.map Prod.fst).Nodup := by
  rcases mem_blocks.mp hb with ⟨f, -, rfl⟩ | rfl | ⟨-, f, -, rfl⟩
  · have hlabels := nodup_escape h
    rwa [Family.block, List.map_map]
  · exact (nodup_escape h).sublist (targetBlock_labels snaps)
  · have hudp : ((udpSnapshots snaps).map StatsSnapshot.label).Nodup :=
      h.sublist (List.filter_sublist.map _)
    have hlabels := nodup_escape hudp
    rwa [Family.block, List.map_map]

end Blocks

/-! ## The page -/

/-- The metrics of every forwarder, with the value that a snapshot has for each. -/
def commonMetrics : List (Str × (StatsSnapshot → ℕ)) :=
  [("rfw_bytes_sent_total".toList, fun s => s.bytesSent),
    ("rfw_bytes_received_total".toList, fun s => s.bytesReceived),
    ("rfw_bytes_sent_rate_bps".toList, fun s => s.rateSentBps),
    ("rfw_bytes_received_rate_bps".toList, fun s => s.rateRecvBps),
    ("rfw_active_connections".toList, fun s => s.activeConnections),
    ("rfw_rejected_connections_total".toList, fun s => s.rejectedConnections),
    ("rfw_listening".toList, fun s => s.listening.toNat)]

/-- The metrics of UDP forwarders, with the value that a snapshot has for each. -/
def datagramMetrics : List (Str × (StatsSnapshot → ℕ)) :=
  [("rfw_datagrams_sent_total".toList, fun s => s.datagramsSent),
    ("rfw_datagrams_received_total".toList, fun s => s.datagramsReceived),
    ("rfw_datagrams_dropped_total".toList, fun s => s.datagramsDropped)]

lemma commonMetrics_eq : commonMetrics = commonFamilies.map fun f => (f.name, f.getter) := rfl

lemma datagramMetrics_eq : datagramMetrics = udpFamilies.map fun f => (f.name, f.getter) := rfl

/-- What a reader finds on the page. -/
structure Page (snaps : List StatsSnapshot) (lines : List Line) : Prop where
  /-- The lines are what stands between the newlines, and a newline ends the page. -/
  split : Str.split '\n' (renderPrometheus snaps) = lines.map Line.text ++ [[]]
  /-- Every line is read back as a help line, a type line or a sample. -/
  read : ∀ line ∈ lines, readLine line.text = some line
  /-- The label of a sample is the escaped label of a snapshot. -/
  label : ∀ name label value, .sample name label value ∈ lines →
    ∃ s ∈ snaps, label = escape s.label
  /-- Each of the seven common metrics has one sample for each snapshot, with its value. -/
  common : ∀ metric ∈ commonMetrics,
    samplesOf metric.1 lines = snaps.map fun s => (escape s.label, metric.2 s)
  /-- The verdict has one sample for each snapshot that has one. -/
  target : samplesOf "rfw_target_reachable".toList lines =
    snaps.filterMap fun s => s.targetReachable.map fun up => (escape s.label, up.toNat)
  /-- Each of the three metrics of UDP forwarders appears when there is a UDP snapshot. -/
  udp : ∀ metric ∈ datagramMetrics,
    (∃ line ∈ lines, line.name = metric.1) ↔ ∃ s ∈ snaps, s.protocol = .udp
  /-- It has one sample for each UDP snapshot, with its value. -/
  datagrams : ∀ metric ∈ datagramMetrics, samplesOf metric.1 lines =
    (snaps.filter fun s => s.protocol = .udp).map fun s => (escape s.label, metric.2 s)
  /-- No two samples share metric name and label. -/
  series : (lines.filterMap Line.series).Nodup

/-- **The page is well formed.**  For every list of snapshots with different labels, the text of
`render_prometheus` falls into help lines, type lines and samples, with exactly the samples that the
snapshots ask for and no series twice. -/
theorem renderPrometheus_page (snaps : List StatsSnapshot)
    (h : (snaps.map StatsSnapshot.label).Nodup) : ∃ lines, Page snaps lines := by
  have hwf : ∀ l ∈ (blocks snaps).flatMap Block.lines,
      readLine l.text = some l ∧ '\n' ∉ l.text := by
    intro l hl
    obtain ⟨b, hb, hl⟩ := List.mem_flatMap.mp hl
    exact (wellFormed_of_mem_blocks hb).line hl
  refine ⟨(blocks snaps).flatMap Block.lines, ?_, fun l hl => (hwf l hl).1, ?_, ?_, ?_, ?_, ?_, ?_⟩
  · rw [renderPrometheus_eq]
    exact split_render fun l hl => (hwf l hl).2
  · intro name label value hl
    obtain ⟨b, hb, hl⟩ := List.mem_flatMap.mp hl
    exact label_of_mem_samples hb (mem_samples_of_mem_lines hl)
  · rw [commonMetrics_eq, List.forall_mem_map]
    intro f hf
    exact samplesOf_of_mem (nodup_blocks snaps) (mem_blocks.mpr (Or.inl ⟨f, hf, rfl⟩))
  · exact samplesOf_of_mem (nodup_blocks snaps) (mem_blocks.mpr (Or.inr (Or.inl rfl)))
  · rw [datagramMetrics_eq, List.forall_mem_map]
    intro f hf
    rw [udp_name_iff hf, udpSnapshots_ne_nil]
  · rw [datagramMetrics_eq, List.forall_mem_map]
    intro f hf
    by_cases hudp : udpSnapshots snaps = []
    · -- no block, and so no sample
      have hnone : ∀ l ∈ (blocks snaps).flatMap Block.lines, l.name ≠ f.name :=
        fun l hl hname => (udp_name_iff hf).mp ⟨l, hl, hname⟩ hudp
      rw [samplesOf_eq_nil hnone]
      rw [udpSnapshots] at hudp
      rw [hudp]
      rfl
    · exact samplesOf_of_mem (nodup_blocks snaps)
        (mem_blocks.mpr (Or.inr (Or.inr ⟨hudp, f, hf, rfl⟩)))
  · exact nodup_series (nodup_blocks snaps) fun b hb => nodup_labels h hb

/-- A TCP forwarder with a newline in its label, and a UDP forwarder that was probed. -/
def demoSnapshots : List StatsSnapshot :=
  [{ label := ['a', '\n'], protocol := .tcp, bytesSent := 1, bytesReceived := 2, datagramsSent := 0
     datagramsReceived := 0, datagramsDropped := 0, activeConnections := 1
     rejectedConnections := 0, rateSentBps := 0, rateRecvBps := 0, listening := true
     targetReachable := none },
   { label := ['"'], protocol := .udp, bytesSent := 3, bytesReceived := 4, datagramsSent := 1
     datagramsReceived := 1, datagramsDropped := 0, activeConnections := 1
     rejectedConnections := 0, rateSentBps := 0, rateRecvBps := 0, listening := true
     targetReachable := some true }]

theorem renderPrometheus_page_demo : ∃ lines, Page demoSnapshots lines :=
  renderPrometheus_page demoSnapshots (by decide)

end Rfw.Metrics
