/-
# Precedence of the sources

The environment is meant to replace the command line and the file completely.  The loader,
however, reads the replaced source first and gives up if that fails, and it panics if any variable
of the environment is not Unicode.  So valid environment entries decide the result exactly when all
variables are Unicode and the source they replace could have been used.
-/
import Rfw.Config.Grammar

namespace Rfw

open Lib

/-- A traversal with a fallible function succeeds when every call does. -/
lemma mapM_eq_ok {ε α β : Type} {f : α → Except ε β} {xs : List α} {ys : List β} :
    xs.mapM f = .ok ys ↔ List.Forall₂ (fun x y => f x = .ok y) xs ys := by
  induction xs generalizing ys with
  | nil =>
    rw [List.mapM_nil, List.forall₂_nil_left_iff]
    exact ⟨fun h => (Except.ok.inj h).symm, fun h => congrArg Except.ok h.symm⟩
  | cons x xs ih =>
    rw [List.mapM_cons, bind_eq_ok, List.forall₂_cons_left_iff]
    constructor
    · rintro ⟨y, hy, h⟩
      obtain ⟨ys', hys, h⟩ := bind_eq_ok.mp h
      exact ⟨y, ys', hy, ih.mp hys, (Except.ok.inj h).symm⟩
    · rintro ⟨y, ys', hy, hys, rfl⟩
      exact ⟨y, hy, bind_eq_ok.mpr ⟨ys', ih.mpr hys, rfl⟩⟩

/-! ## Entries as the loaders make them -/

lemma PortSpan.built_of_parse {s what : Str} {span : PortSpan} (h : parse s what = .ok span) :
    span.Built := by
  by_cases hs : '-' ∈ s
  · obtain ⟨a, b, rfl, ha⟩ := List.eq_append_cons_of_mem hs
    obtain ⟨-, -, -, -, hne, hlen⟩ := (parse_eq_ok_of_range ha).mp h
    exact .range (range_eq_ok.mpr ⟨hne, rfl, rfl, hlen⟩)
  · obtain ⟨heq, -⟩ := (parse_eq_ok_of_single hs).mp h
    obtain ⟨start, end_, hle⟩ := span
    obtain rfl : start = end_ := heq
    exact .single start

lemma built_of_new {lh rh : Str} {local_ remote : PortSpan} {p : Protocol} {spec : ForwarderSpec}
    (hlocal : local_.Built) (hremote : remote.Built)
    (h : ForwarderSpec.new lh local_ rh remote p = .ok spec) : spec.Built := by
  obtain ⟨rfl, -⟩ := new_eq_ok.mp h
  exact ⟨hlocal, hremote, h⟩

lemma built_of_parseForwarderSpec {s : Str} {spec : ForwarderSpec}
    (h : parseForwarderSpec s = .ok spec) : spec.Built := by
  obtain ⟨body, l, r, -, -, hlocal, hremote, hlen⟩ := parseForwarderSpec_eq_ok.mp h
  have hspan : ∀ {s : Str} {span : PortSpan},
      PortField s span.start.toNat span.end_.toNat → span.Built := fun h =>
    PortSpan.built_of_parse ((@PortSpan.parse_eq_ok _ [] _).mpr h)
  exact built_of_new (hspan hlocal) (hspan hremote) (new_of_len_eq hlen)

lemma built_of_intoSpec_range {lh rh : Str} {lp le rp re : UInt16} {p : Protocol}
    {spec : ForwarderSpec}
    (h : RawForwarder.intoSpec ⟨lh, lp, some le, rh, rp, some re, p⟩ = .ok spec) :
    spec.Built := by
  obtain ⟨local_, hlocal, remote, hremote, hnew⟩ := intoSpec_range_eq_ok.mp h
  exact built_of_new (.range hlocal) (.range hremote) hnew

lemma built_of_intoSpec {r : RawForwarder} {spec : ForwarderSpec} (h : r.intoSpec = .ok spec) :
    spec.Built := by
  obtain ⟨lh, lp, le, rh, rp, re, p⟩ := r
  cases le with
  | none =>
    cases re with
    | none => exact built_of_new (.single lp) (.single rp) h
    | some re => cases h
  | some le =>
    cases re with
    | some re => exact built_of_intoSpec_range h
    | none =>
      cases hlocal : PortSpan.range lp le with
      | error e =>
        obtain ⟨e', herr⟩ := @intoSpec_of_invalid lh rh lp rp p le e hlocal
        rw [herr] at h
        cases h
      | ok local_ =>
        -- the inferred end, if there is one, is as good as a written one
        by_cases hsum : rp.toNat + (le.toNat - lp.toNat) < 65536
        · rw [intoSpec_inferred hlocal hsum] at h
          exact built_of_intoSpec_range h
        · obtain ⟨e', herr⟩ := @intoSpec_past_end lh rh lp rp p le local_ hlocal
            (Nat.not_lt.mp hsum)
          rw [herr] at h
          cases h

/-! ## The environment -/

/-- Every name and value is the encoding of a text. -/
def AllUnicode (env : Environment) : Prop :=
  ∀ kv ∈ env, ∃ key value : Str, kv = (Utf8.encode key, Utf8.encode value)

/-- The variables that are texts. -/
def textVars (env : Environment) : List (Str × Str) :=
  env.filterMap fun kv =>
    kv.1.intoString.bind fun key => kv.2.intoString.map fun value => (key, value)

/-- The entries of the environment: the values that parse, by increasing index. -/
def envSpecs (env : Environment) : List ForwarderSpec :=
  let entries := (textVars env).filterMap fun kv => (envIndex kv.1).map fun index => (index, kv.2)
  (entries.insertionSort fun a b => a.1 ≤ b.1).filterMap fun e =>
    (parseForwarderSpec e.2).toOption

/-- Some variable with an index has a value that parses. -/
def SomeEnvParses (env : Environment) : Prop :=
  ∃ key value : Str, (Utf8.encode key, Utf8.encode value) ∈ env ∧ (envIndex key).isSome ∧
    ∃ spec, parseForwarderSpec value = .ok spec

lemma intoString_eq_some {s : OsString} {text : Str} :
    s.intoString = some text ↔ s = Utf8.encode text := by
  rw [OsString.intoString, Option.ite_none_right_eq_some]
  constructor
  · rintro ⟨hencode, hdecode⟩
    rw [← Option.some.inj hdecode, hencode]
  · rintro rfl
    rw [Utf8.decodeLossy_encode]
    exact ⟨rfl, rfl⟩

@[simp] lemma intoString_encode (text : Str) : OsString.intoString (Utf8.encode text) = some text :=
  intoString_eq_some.mpr rfl

lemma mem_textVars {env : Environment} {key value : Str} :
    (key, value) ∈ textVars env ↔ (Utf8.encode key, Utf8.encode value) ∈ env := by
  simp only [textVars, List.mem_filterMap, Option.bind_eq_some_iff, Option.map_eq_some_iff,
    intoString_eq_some, Prod.mk.injEq]
  constructor
  · rintro ⟨⟨_, _⟩, hmem, _, rfl, _, rfl, rfl, rfl⟩
    exact hmem
  · intro hmem
    exact ⟨_, hmem, key, rfl, value, rfl, rfl, rfl⟩

/-- The environment is read as text when all of it is text. -/
lemma envVars_eq_ok {env : Environment} {vars : List (Str × Str)} :
    envVars env = .ok vars ↔ AllUnicode env ∧ textVars env = vars := by
  induction env generalizing vars with
  | nil =>
    constructor
    · intro h
      exact ⟨List.forall_mem_nil _, Except.ok.inj h⟩
    · rintro ⟨-, rfl⟩
      rfl
  | cons kv env ih =>
    obtain ⟨name, bytes⟩ := kv
    rw [envVars, List.mapM_cons, bind_eq_ok]
    simp only [AllUnicode, List.forall_mem_cons]
    constructor
    · rintro ⟨⟨key, value⟩, htext, h⟩
      obtain ⟨vars', henv, h⟩ := bind_eq_ok.mp h
      obtain rfl := Except.ok.inj h
      obtain ⟨hall, rfl⟩ := ih.mp henv
      split at htext
      · rename_i key value hkey hvalue
        obtain ⟨rfl, rfl⟩ := Prod.mk.inj (Except.ok.inj htext)
        refine ⟨⟨⟨key, value, ?_⟩, hall⟩, ?_⟩
        · rw [intoString_eq_some.mp hkey, intoString_eq_some.mp hvalue]
        · simp [textVars, hkey, hvalue]
      · cases htext
    · rintro ⟨⟨⟨key, value, heq⟩, hall⟩, rfl⟩
      obtain ⟨rfl, rfl⟩ := Prod.mk.inj heq
      refine ⟨(key, value), by simp only [intoString_encode], ?_⟩
      refine bind_eq_ok.mpr ⟨textVars env, ih.mpr ⟨hall, rfl⟩, ?_⟩
      simp [textVars, pure, Except.pure]

/-- The expansion of entries, port for port. -/
def expansion (specs : List ForwarderSpec) : List ForwarderConfig :=
  specs.flatMap fun s => (List.range s.local_.len).map s.forwarderAt

lemma toOption_eq_some {ε α : Type} {x : Except ε α} {a : α} :
    x.toOption = some a ↔ x = .ok a := by
  cases x <;> simp [Except.toOption]

lemma built_of_mem_envSpecs {env : Environment} {spec : ForwarderSpec}
    (h : spec ∈ envSpecs env) : spec.Built := by
  obtain ⟨e, -, he⟩ := List.mem_filterMap.mp h
  exact built_of_parseForwarderSpec (toOption_eq_some.mp he)

lemma envSpecs_ne_nil {env : Environment} (h : SomeEnvParses env) : envSpecs env ≠ [] := by
  obtain ⟨key, value, hmem, hindex, spec, hparse⟩ := h
  obtain ⟨index, hindex⟩ := Option.isSome_iff_exists.mp hindex
  have hspec : spec ∈ envSpecs env := by
    refine List.mem_filterMap.mpr ⟨(index, value), ?_, toOption_eq_some.mpr hparse⟩
    rw [List.mem_insertionSort]
    exact List.mem_filterMap.mpr ⟨(key, value), mem_textVars.mpr hmem, by rw [hindex]; rfl⟩
  exact List.ne_nil_of_mem hspec

lemma expandSpecs_of_distinct {specs : List ForwarderSpec} (hbuilt : ∀ s ∈ specs, s.Built)
    (hdistinct : DistinctClaims specs) : expandSpecs specs = .ok (expansion specs) := by
  rw [expandSpecs_eq_ok, nodup_endpoints_iff]
  exact ⟨(List.flatMap_congr fun s hs => (hbuilt s hs).expand_eq).symm, hdistinct⟩

lemma expansion_ne_nil {specs : List ForwarderSpec} (h : specs ≠ []) : expansion specs ≠ [] := by
  obtain ⟨s, specs, rfl⟩ := List.exists_cons_of_ne_nil h
  have hlen : s.local_.len ≠ 0 := Nat.succ_ne_zero _
  simp [expansion, hlen]

/-- Valid environment entries expand to a list that is not empty and passes the later check; they
load if all of the environment is text. -/
lemma loadEnvForwarders_of_distinct {env : Environment}
    (hdistinct : DistinctClaims (envSpecs env)) :
    (∀ fwds, loadEnvForwarders env = .ok fwds ↔ AllUnicode env ∧ fwds = expansion (envSpecs env)) ∧
      validateNoDuplicates (expansion (envSpecs env)) = .ok () := by
  have hbuilt : ∀ s ∈ envSpecs env, s.Built := fun s hs => built_of_mem_envSpecs hs
  have hexpand := expandSpecs_of_distinct hbuilt hdistinct
  refine ⟨fun fwds => ?_, validateNoDuplicates_of_expandSpecs hbuilt hexpand⟩
  rw [loadEnvForwarders, bind_eq_ok]
  simp only [envVars_eq_ok, mapError_eq_ok]
  constructor
  · rintro ⟨-, ⟨hall, rfl⟩, h⟩
    exact ⟨hall, (Except.ok.inj (hexpand.symm.trans h)).symm⟩
  · rintro ⟨hall, rfl⟩
    exact ⟨textVars env, ⟨hall, rfl⟩, hexpand⟩

/-! ## The replaced sources -/

/-- The source that would be used without the environment can be loaded: the command line's
entries if there are any, else the file's if there is one. -/
inductive LowerLoads (ext : Externals) (cli : CliArgs) (file : File) : Prop
  | cli {specs : List ForwarderSpec} (given : cli.forwarders ≠ [])
      (entries : List.Forall₂ Means cli.forwarders specs) (distinct : DistinctClaims specs)
  | file {content : Str} {doc : ConfigDoc} {specs : List ForwarderSpec}
      (none_given : cli.forwarders = []) (path : cli.configFile.isSome)
      (read : file = .ok content) (decoded : ext.yaml content = .ok doc)
      (entries : List.Forall₂ (fun raw spec => RawForwarder.intoSpec raw = .ok spec)
        doc.forwarders specs)
      (distinct : DistinctClaims specs)
  | nothing (none_given : cli.forwarders = []) (no_path : cli.configFile = none)

/-- A file loads when it can be read and decoded, and its entries are valid and distinct. -/
lemma exists_loadYamlForwarders_iff {ext : Externals} {file : File} :
    (∃ fwd, loadYamlForwarders ext file = .ok fwd) ↔
      ∃ content doc specs, file = .ok content ∧ ext.yaml content = .ok doc ∧
        List.Forall₂ (fun raw spec => RawForwarder.intoSpec raw = .ok spec) doc.forwarders specs ∧
        DistinctClaims specs := by
  simp only [loadYamlForwarders, loadYamlConfig, parseConfigFile, deserializeForwarders,
    bind_eq_ok, mapError_eq_ok, mapM_eq_ok]
  constructor
  · rintro ⟨-, -, ⟨content, hread, -, ⟨doc, hdoc, fwd, ⟨specs, hspecs, hexpand⟩, -⟩, -⟩, -⟩
    exact ⟨content, doc, specs, hread, hdoc, hspecs, exists_expandSpecs_iff.mp ⟨fwd, hexpand⟩⟩
  · rintro ⟨content, doc, specs, hread, hdoc, hspecs, hdistinct⟩
    obtain ⟨fwd, hexpand⟩ := exists_expandSpecs_iff.mpr hdistinct
    have hbuilt : ∀ s ∈ specs, s.Built := by
      have hflip := hspecs.flip.imp fun s raw h => And.intro (built_of_intoSpec h) h
      exact ((List.forall₂_and_left _ _).mp hflip).1
    have hvalid := validateNoDuplicates_of_expandSpecs hbuilt hexpand
    exact ⟨fwd, _, ⟨content, hread, _, ⟨doc, hdoc, fwd, ⟨specs, hspecs, hexpand⟩, rfl⟩,
      (), hvalid, rfl⟩, rfl⟩

lemma forall₂_means_iff {texts : List Str} {specs : List ForwarderSpec} :
    texts.mapM parseForwarderSpec = .ok specs ↔ List.Forall₂ Means texts specs := by
  simp only [mapM_eq_ok, parseForwarderSpec_eq_ok]

lemma exists_configuredForwarders_iff {ext : Externals} {cli : CliArgs} {file : File} :
    (∃ r, configuredForwarders ext cli file = .ok r) ↔ LowerLoads ext cli file := by
  constructor
  · rintro ⟨r, h⟩
    rw [configuredForwarders] at h
    split at h
    · rename_i hgiven
      obtain ⟨specs, hspecs, h⟩ := bind_eq_ok.mp h
      obtain ⟨fwd, hexpand, -⟩ := bind_eq_ok.mp h
      exact .cli hgiven (forall₂_means_iff.mp hspecs) (exists_expandSpecs_iff.mp ⟨fwd, hexpand⟩)
    · rename_i hnone
      have hnone : cli.forwarders = [] := not_not.mp hnone
      split at h
      · rename_i hpath
        obtain ⟨fwd, hload, -⟩ := bind_eq_ok.mp h
        obtain ⟨content, doc, specs, hread, hdoc, hspecs, hdistinct⟩ :=
          exists_loadYamlForwarders_iff.mp ⟨fwd, hload⟩
        exact .file hnone hpath hread hdoc hspecs hdistinct
      · rename_i hpath
        exact .nothing hnone (by simpa using hpath)
  · intro h
    cases h with
    | cli given entries distinct =>
      obtain ⟨fwd, hexpand⟩ := exists_expandSpecs_iff.mpr distinct
      refine ⟨(fwd, .cli), ?_⟩
      rw [configuredForwarders, if_pos given]
      exact bind_eq_ok.mpr ⟨_, forall₂_means_iff.mpr entries, bind_eq_ok.mpr ⟨fwd, hexpand, rfl⟩⟩
    | file none_given path read decoded entries distinct =>
      obtain ⟨fwd, hload⟩ := exists_loadYamlForwarders_iff.mpr
        ⟨_, _, _, read, decoded, entries, distinct⟩
      refine ⟨(fwd, .file), ?_⟩
      rw [configuredForwarders, if_neg (not_not.mpr none_given), if_pos path, hload]
      rfl
    | nothing none_given no_path =>
      refine ⟨([], .none), ?_⟩
      rw [configuredForwarders, if_neg (not_not.mpr none_given), no_path]
      rfl

/-! ## Two starts with the same environment -/

/-- Valid environment entries decide the result if all variables are text and the replaced source
loads, and only then. -/
lemma loadForwardersWithSource_env_iff {ext : Externals} {env : Environment} {cli : CliArgs}
    {file : File} (hparses : SomeEnvParses env) (hdistinct : DistinctClaims (envSpecs env)) :
    loadForwardersWithSource ext env cli file = .ok (expansion (envSpecs env), .env) ↔
      AllUnicode env ∧ LowerLoads ext cli file := by
  obtain ⟨hload, hvalid⟩ := loadEnvForwarders_of_distinct hdistinct
  have hne : (expansion (envSpecs env)).isEmpty = false :=
    List.isEmpty_eq_false_iff.mpr (expansion_ne_nil (envSpecs_ne_nil hparses))
  rw [← exists_configuredForwarders_iff, loadForwardersWithSource, bind_eq_ok]
  constructor
  · rintro ⟨r, hr, h⟩
    obtain ⟨fwds, henv, -⟩ := bind_eq_ok.mp h
    exact ⟨((hload fwds).mp henv).1, r, mapError_eq_ok.mp hr⟩
  · rintro ⟨hall, r, hr⟩
    refine ⟨r, mapError_eq_ok.mpr hr, bind_eq_ok.mpr ⟨_, (hload _).mpr ⟨hall, rfl⟩, ?_⟩⟩
    rw [hne]
    exact bind_eq_ok.mpr ⟨(), mapError_eq_ok.mpr hvalid, rfl⟩

/-- **When the environment replaces the other sources.**  Two starts with the same environment, in
which some value parses and the values that parse have distinct endpoints, both take the
environment's entries if and only if all of the environment is text and the source that the entries
replace loads in both. -/
theorem env_replaces_iff (ext : Externals) (env : Environment) (hparses : SomeEnvParses env)
    (hdistinct : DistinctClaims (envSpecs env)) (cli cli' : CliArgs) (file file' : File) :
    (loadForwardersWithSource ext env cli file = .ok (expansion (envSpecs env), .env) ∧
      loadForwardersWithSource ext env cli' file' = .ok (expansion (envSpecs env), .env)) ↔
    (AllUnicode env ∧ LowerLoads ext cli file ∧ LowerLoads ext cli' file') := by
  rw [loadForwardersWithSource_env_iff hparses hdistinct,
    loadForwardersWithSource_env_iff hparses hdistinct, and_and_and_comm, and_self]

/-- One valid environment entry. -/
def oneEntry : Environment :=
  [(Utf8.encode "RFW_FORWARDER_1".toList, Utf8.encode "a:80:b:80".toList)]

lemma textVars_oneEntry : textVars oneEntry = [("RFW_FORWARDER_1".toList, "a:80:b:80".toList)] := by
  simp only [textVars, oneEntry, List.filterMap_cons, intoString_encode, Option.bind_some,
    Option.map_some, List.filterMap_nil]

lemma allUnicode_oneEntry : AllUnicode oneEntry := List.forall_mem_singleton.mpr ⟨_, _, rfl⟩

lemma someEnvParses_oneEntry : SomeEnvParses oneEntry :=
  ⟨_, _, List.mem_singleton_self _, by decide,
    ⟨"a".toList, .single 80, "b".toList, .single 80, .tcp⟩, by decide⟩

lemma distinctClaims_oneEntry : DistinctClaims (envSpecs oneEntry) := by
  rw [← nodup_endpoints_iff, envSpecs, textVars_oneEntry]
  decide

/-- No file is read here. -/
def noFile : Externals where
  parseUrl := fun _ => .error []
  isSocketAddr := fun _ => false
  yaml := fun _ => .error []
  customError := id

theorem env_replaces_iff_demo :
    ∃ fwd, loadForwardersWithSource noFile oneEntry {} (.error []) = .ok (fwd, .env) ∧
      loadForwardersWithSource noFile oneEntry { forwarders := ["c:1:d:1".toList] } (.error []) =
        .ok (fwd, .env) := by
  have hcli : LowerLoads noFile { forwarders := ["c:1:d:1".toList] } (.error []) := by
    rw [← exists_configuredForwarders_iff]
    exact ⟨([⟨"c".toList, 1, "d".toList, 1, .tcp⟩], .cli), by decide⟩
  have hreplaces := env_replaces_iff noFile oneEntry someEnvParses_oneEntry distinctClaims_oneEntry
  exact ⟨_, (hreplaces _ _ _ _).mpr ⟨allUnicode_oneEntry, .nothing rfl rfl, hcli⟩⟩

/-- A replaced entry that does not parse stops the start. -/
theorem env_not_replaces :
    ¬ ∀ (ext : Externals) (env : Environment) (cli cli' : CliArgs) (file file' : File),
      SomeEnvParses env → DistinctClaims (envSpecs env) →
        loadForwardersWithSource ext env cli file = .ok (expansion (envSpecs env), .env) ∧
        loadForwardersWithSource ext env cli' file' = .ok (expansion (envSpecs env), .env) := by
  intro h
  have hruns := h noFile oneEntry {} { forwarders := ["c:1".toList] } (.error []) (.error [])
    someEnvParses_oneEntry distinctClaims_oneEntry
  have hlower := (loadForwardersWithSource_env_iff someEnvParses_oneEntry
    distinctClaims_oneEntry).mp hruns.2
  obtain ⟨r, hr⟩ := exists_configuredForwarders_iff.mpr hlower.2
  cases hr

end Rfw
