/-
# Hot-reload and restart

A process is started by `main`: it loads the forwarders and the settings, builds the manager and
starts every forwarder.  Afterwards the config watcher applies one version of the file after the
other with the reload body of `watch_config_file`.  The main result, `reload_eq_restart`, says
that the versions in between leave no trace: what a process runs after any sequence of reloads is
what the last version that loaded, and the command line, determine.
-/
import Rfw.Manager.Forwarders
import Mathlib.Data.Char
import Mathlib.Data.List.Lex

namespace Rfw

open Lib

/-- A running process: its manager, and the `ReloadPolicy` fixed at startup. -/
structure Process where
  manager : Manager
  cli : CliArgs
  source : ForwarderSource

/-- The alert raised at the end of a reload. -/
inductive ReloadAlert
  | configReloaded (active : ℕ) (added removed : List Str)
  | configReloadFailed (path error : Str)
deriving DecidableEq, Repr

/-- The error of `main` when nothing is configured. -/
def noForwarders : Str :=
  ("No forwarders configured.\n" ++
    "Usage: rfw [OPTIONS] [FORWARDERS...]\n" ++
    "Examples:\n" ++
    "rfw localhost:8080:172.16.0.5:80\n" ++
    "rfw -f forwarders.yml\n" ++
    "rfw localhost:8080:example.com:80 localhost:8081:other.com:443\n\n" ++
    "Environment: RFW_FORWARDER_1, RFW_FORWARDER_2, ... override everything.\n\n" ++
    "Forwarder format: local_host:local_port:remote_host:remote_port[/tcp|/udp]").toList

/-- `Semaphore::MAX_PERMITS`. -/
def maxPermits : ℕ := 2 ^ 61 - 1

/-- The part of `main` that brings a process up. -/
def start (ext : Externals) (env : Environment) (cli : CliArgs) (file : File) :
    Except Exit Process := do
  let loaded ← loadForwardersWithSource ext env cli file
  let settings ← (loadSettings ext cli file).mapError .error
  if loaded.1.isEmpty then .error (.error noForwarders)
  -- `Semaphore::new` panics in `ForwarderManager::new`
  else if settings.maxConnections.any (maxPermits < ·) then .error .panic
  else
    return { manager := (Manager.new settings).startAll loaded.1, cli, source := loaded.2 }

/-- The sorted labels of one list that are not in another. -/
def labelsMinus (a b : List Str) : List Str :=
  (a.filter fun label => !b.contains label).insertionSort (· ≤ ·)

/-- The reload body of `watch_config_file` for one version of the file. -/
def reload (ext : Externals) (p : Process) (file : File) : Process × ReloadAlert :=
  match loadYamlConfig ext file with
  | .ok loaded =>
      let before := p.manager.runningLabels
      let settings := applyCliOverrides loaded.settings p.cli
      let manager := p.manager.updateKnobs settings
      let manager := if p.source = .file then manager.sync loaded.forwarders else manager
      let after := manager.runningLabels
      ({ p with manager },
        .configReloaded after.length (labelsMinus after before) (labelsMinus before after))
  | .error e => (p, .configReloadFailed (p.cli.configFile.getD []) e)

/-- The process after a sequence of versions. -/
def reloads (ext : Externals) (p : Process) (versions : List File) : Process :=
  versions.foldl (fun p file => (reload ext p file).1) p

/-- The last of a sequence of versions that loads. -/
def lastLoaded (ext : Externals) : List File → Option LoadedConfig
  | [] => none
  | file :: files =>
      match lastLoaded ext files with
      | some c => some c
      | none => (loadYamlConfig ext file).toOption

/-! ## One reload -/

lemma reload_policy (ext : Externals) (p : Process) (file : File) :
    (reload ext p file).1.cli = p.cli ∧ (reload ext p file).1.source = p.source := by
  simp only [reload]
  split <;> exact ⟨rfl, rfl⟩

/-- A version that does not load changes nothing. -/
lemma reload_of_error {ext : Externals} {p : Process} {file : File} {e : Str}
    (h : loadYamlConfig ext file = .error e) : (reload ext p file).1 = p := by
  simp only [reload, h]

/-- A version that loads sets every knob. -/
lemma reload_knobs {ext : Externals} {p : Process} {file : File} {c : LoadedConfig}
    (h : loadYamlConfig ext file = .ok c) :
    (reload ext p file).1.manager.knobs = .fromSettings (applyCliOverrides c.settings p.cli) := by
  simp only [reload, h]
  split
  · rw [Manager.sync_knobs]
    exact RuntimeKnobs.update_eq_fromSettings p.manager.knobs _
  · exact RuntimeKnobs.update_eq_fromSettings p.manager.knobs _

/-- When the forwarders come from the file, a version that loads sets the running labels. -/
lemma mem_runningLabels_reload {ext : Externals} {p : Process} {file : File} {c : LoadedConfig}
    (h : loadYamlConfig ext file = .ok c) (hsource : p.source = .file) {l : Str} :
    l ∈ (reload ext p file).1.manager.runningLabels ↔
      l ∈ c.forwarders.map ForwarderConfig.label := by
  simp only [reload, h, hsource, if_true]
  exact Manager.mem_runningLabels_sync

/-- When they come from elsewhere, no version touches the forwarders. -/
lemma reload_forwarders_of_ne {ext : Externals} {p : Process} {file : File}
    (hsource : p.source ≠ .file) :
    (reload ext p file).1.manager.forwarders = p.manager.forwarders := by
  simp only [reload, hsource, if_false]
  split <;> rfl

/-! ## A sequence of reloads -/

lemma reloads_cons (ext : Externals) (p : Process) (file : File) (files : List File) :
    reloads ext p (file :: files) = reloads ext (reload ext p file).1 files := rfl

/-- Versions none of which loads leave the process as it is. -/
lemma reloads_of_lastLoaded_eq_none {ext : Externals} {files : List File} :
    ∀ {p : Process}, lastLoaded ext files = none → reloads ext p files = p := by
  induction files with
  | nil => intro p _; rfl
  | cons file files ih =>
    intro p h
    simp only [lastLoaded] at h
    split at h
    · exact absurd h (by simp)
    · rename_i hrest
      cases hload : loadYamlConfig ext file with
      | ok c => simp [hload, Except.toOption] at h
      | error e => rw [reloads_cons, reload_of_error hload, ih hrest]

/-- A property of the process that each version that loads establishes from its own contents
holds, after a sequence of versions, for the last one that loaded. -/
lemma reloads_of_lastLoaded {ext : Externals} {P : Process → LoadedConfig → Prop}
    {Q : Process → Prop} (hQ : ∀ p file, Q p → Q (reload ext p file).1)
    (hP : ∀ p file c, Q p → loadYamlConfig ext file = .ok c → P (reload ext p file).1 c)
    {files : List File} {c : LoadedConfig} :
    ∀ {p : Process}, Q p → lastLoaded ext files = some c → P (reloads ext p files) c := by
  induction files with
  | nil => intro p _ h; exact absurd h (by simp [lastLoaded])
  | cons file files ih =>
    intro p hq h
    simp only [lastLoaded] at h
    rw [reloads_cons]
    split at h
    · rename_i c' hrest
      obtain rfl : c' = c := by simpa using h
      exact ih (hQ p file hq) hrest
    · rename_i hrest
      cases hload : loadYamlConfig ext file with
      | error e => simp [hload, Except.toOption] at h
      | ok c' =>
        obtain rfl : c' = c := by simpa [hload, Except.toOption] using h
        rw [reloads_of_lastLoaded_eq_none hrest]
        exact hP p file c' hq hload

lemma reloads_forwarders_of_ne {ext : Externals} {files : List File} :
    ∀ {p : Process}, p.source ≠ .file →
      (reloads ext p files).manager.forwarders = p.manager.forwarders := by
  induction files with
  | nil => intro p _; rfl
  | cons file files ih =>
    intro p h
    have hsource : (reload ext p file).1.source ≠ .file := by rwa [(reload_policy ext p file).2]
    rw [reloads_cons, ih hsource, reload_forwarders_of_ne h]

/-! ## A fresh start -/

/-- What a process has right after its start. -/
lemma start_eq_ok {ext : Externals} {env : Environment} {cli : CliArgs} {file : File}
    {p : Process} (h : start ext env cli file = .ok p) :
    ∃ fwds settings, loadForwardersWithSource ext env cli file = .ok (fwds, p.source) ∧
      loadSettings ext cli file = .ok settings ∧ p.cli = cli ∧
      p.manager = (Manager.new settings).startAll fwds := by
  obtain ⟨⟨fwds, source⟩, hload, h⟩ := bind_eq_ok.mp h
  obtain ⟨settings, hsettings, h⟩ := bind_eq_ok.mp h
  split at h
  · cases h
  · split at h
    · cases h
    · obtain rfl := Except.ok.inj h
      exact ⟨fwds, settings, hload, mapError_eq_ok.mp hsettings, rfl, rfl⟩

/-- A process started on a version that loads, with the forwarders taken from the file. -/
lemma start_of_loaded {ext : Externals} {env : Environment} {cli : CliArgs} {file : File}
    {p : Process} {c : LoadedConfig} (h : start ext env cli file = .ok p)
    (hcli : cli.forwarders = []) (hconfig : cli.configFile.isSome = true)
    (henv : loadEnvForwarders env = .ok []) (hload : loadYamlConfig ext file = .ok c) :
    (∀ l, l ∈ p.manager.runningLabels ↔ l ∈ c.forwarders.map ForwarderConfig.label) ∧
      p.manager.knobs = .fromSettings (applyCliOverrides c.settings cli) := by
  obtain ⟨fwds, settings, hfwds, hsettings, -, hmanager⟩ := start_eq_ok h
  obtain ⟨-, hyaml⟩ := loadForwardersWithSource_of_file hcli hconfig henv hfwds
  obtain rfl : c.forwarders = fwds := by
    simpa [loadYamlForwarders, hload, bind, Except.bind, pure, Except.pure] using hyaml
  obtain rfl := loadSettings_of_loaded hconfig hload hsettings
  rw [hmanager]
  refine ⟨fun l => ?_, by rw [Manager.startAll_knobs]; rfl⟩
  rw [Manager.mem_runningLabels_startAll]
  simp [Manager.runningLabels, Manager.new, Table.empty, Table.keys]

/-- **Hot-reload is equivalent to a restart.**  Let a process be started on a version of the file
and reload any sequence of later versions.

* With the forwarders from the file, there is a last version that loaded; the running labels are
  its labels and the knobs are its settings under the command line, and any process that starts
  on a version with these contents, in the same environment and with the same command line, has
  the same labels and the same knobs.
* With the forwarders from the environment or the command line, the running set is the one of
  the start, and the knobs are those of the last version that loaded, or those of the start.
* A version that does not load changes neither. -/
theorem reload_eq_restart (ext : Externals) (env : Environment) (cli : CliArgs)
    (file : File) (p : Process) (hstart : start ext env cli file = .ok p) (files : List File) :
    (p.source = .file →
      ∃ c, lastLoaded ext (file :: files) = some c ∧
        (∀ l, l ∈ (reloads ext p files).manager.runningLabels ↔
          l ∈ c.forwarders.map ForwarderConfig.label) ∧
        (reloads ext p files).manager.knobs =
          .fromSettings (applyCliOverrides c.settings cli) ∧
        ∀ file' p', loadYamlConfig ext file' = .ok c → start ext env cli file' = .ok p' →
          (∀ l, l ∈ (reloads ext p files).manager.runningLabels ↔
            l ∈ p'.manager.runningLabels) ∧
          (reloads ext p files).manager.knobs = p'.manager.knobs) ∧
      (p.source = .env ∨ p.source = .cli →
        (reloads ext p files).manager.forwarders = p.manager.forwarders ∧
        (reloads ext p files).manager.knobs =
          match lastLoaded ext files with
          | some c => .fromSettings (applyCliOverrides c.settings cli)
          | none => p.manager.knobs) ∧
      (∀ file' e, loadYamlConfig ext file' = .error e →
        (reload ext (reloads ext p files) file').1.manager = (reloads ext p files).manager) := by
  have hpcli : p.cli = cli := by
    obtain ⟨_, _, _, _, h, _⟩ := start_eq_ok hstart
    exact h
  -- each version that loads sets the knobs, whatever the source
  have hknobs : ∀ c, lastLoaded ext files = some c → (reloads ext p files).manager.knobs =
      .fromSettings (applyCliOverrides c.settings cli) := by
    intro c hc
    refine reloads_of_lastLoaded (Q := fun q => q.cli = cli)
      (P := fun q c => q.manager.knobs = .fromSettings (applyCliOverrides c.settings cli))
      ?_ ?_ hpcli hc
    · intro q file' hq
      rw [(reload_policy ext q file').1, hq]
    · intro q file' c' hq hload
      rw [reload_knobs hload, hq]
  refine ⟨fun hsource => ?_, fun hsource => ?_, fun file' e he => by rw [reload_of_error he]⟩
  · obtain ⟨fwds, settings, hfwds, -, -, -⟩ := start_eq_ok hstart
    rw [hsource] at hfwds
    obtain ⟨hcli, hconfig, henv, hyaml⟩ := loadForwardersWithSource_file hfwds
    obtain ⟨c₀, hc₀, -⟩ := bind_eq_ok.mp hyaml
    -- the labels and the knobs are those of the last version that loaded
    have hlast : ∃ c, lastLoaded ext (file :: files) = some c ∧
        (∀ l, l ∈ (reloads ext p files).manager.runningLabels ↔
          l ∈ c.forwarders.map ForwarderConfig.label) ∧
        (reloads ext p files).manager.knobs =
          .fromSettings (applyCliOverrides c.settings cli) := by
      cases hl : lastLoaded ext files with
      | none =>
        refine ⟨c₀, by simp [lastLoaded, hl, hc₀, Except.toOption], ?_⟩
        rw [reloads_of_lastLoaded_eq_none hl]
        exact start_of_loaded hstart hcli hconfig henv hc₀
      | some c =>
        refine ⟨c, by simp [lastLoaded, hl], ?_, hknobs c hl⟩
        refine reloads_of_lastLoaded (Q := fun q => q.source = .file)
          (P := fun q c => ∀ l, l ∈ q.manager.runningLabels ↔
            l ∈ c.forwarders.map ForwarderConfig.label) ?_ ?_ hsource hl
        · intro q file' hq
          rw [(reload_policy ext q file').2, hq]
        · intro q file' c' hq hload l
          exact mem_runningLabels_reload hload hq
    obtain ⟨c, hc, hlabels, hset⟩ := hlast
    refine ⟨c, hc, hlabels, hset, fun file' p' hload hstart' => ?_⟩
    obtain ⟨hlabels', hset'⟩ := start_of_loaded hstart' hcli hconfig henv hload
    exact ⟨fun l => (hlabels l).trans (hlabels' l).symm, hset.trans hset'.symm⟩
  · have hne : p.source ≠ .file := by
      rcases hsource with h | h <;> rw [h] <;> simp
    refine ⟨reloads_forwarders_of_ne hne, ?_⟩
    cases hl : lastLoaded ext files with
    | none => rw [reloads_of_lastLoaded_eq_none hl]
    | some c => exact hknobs c hl

/-- One entry that forwards local port 8080 to port 80 of a host. -/
def demoEntry (host : Str) : RawForwarder :=
  { localHost := "localhost".toList, localPort := 8080, localPortEnd := none, remoteHost := host,
    remotePort := 80, remotePortEnd := none, protocol := .tcp }

/-- A decoder that knows two documents, `"a"` and `"b"`. -/
def demoExternals : Externals where
  parseUrl := fun _ => .error []
  isSocketAddr := fun _ => false
  customError := id
  yaml := fun content =>
    if content = ['a'] then .ok ⟨[demoEntry "one".toList], none⟩
    else if content = ['b'] then
      .ok ⟨[demoEntry "two".toList], some { bufferBytes := some 16384, useSplice := some true }⟩
    else .error "unexpected end of stream".toList

/-- The command line of the demo. -/
def demoCli : CliArgs := { configFile := some ['f'], connectTimeoutSecs := some 7 }

lemma exists_start_demo {content : Str}
    (h : (start demoExternals [] demoCli (.ok content)).toOption.map Process.source = some .file) :
    ∃ p, start demoExternals [] demoCli (.ok content) = .ok p ∧ p.source = .file := by
  obtain ⟨p, hp, hfile⟩ := Option.map_eq_some_iff.mp h
  refine ⟨p, ?_, hfile⟩
  revert hp
  cases start demoExternals [] demoCli (.ok content) <;> simp [Except.toOption]

/-- A process started on `"a"` that reloads `"b"` and then a file cut short runs `"b"`, as a process
started on it does: its forwarder, the file's buffer and splice setting, and the command line's
timeout. -/
theorem reload_eq_restart_demo :
    ∃ p p', start demoExternals [] demoCli (.ok ['a']) = .ok p ∧ p.source = .file ∧
      start demoExternals [] demoCli (.ok ['b']) = .ok p' ∧
      (∀ l, l ∈ (reloads demoExternals p [.ok ['b'], .ok []]).manager.runningLabels ↔
        l ∈ p'.manager.runningLabels) ∧
      (reloads demoExternals p [.ok ['b'], .ok []]).manager.knobs = p'.manager.knobs ∧
      p'.manager.knobs = .fromSettings { Settings.default with
        bufferBytes := 16384, useSplice := true, connectTimeoutSecs := 7 } := by
  obtain ⟨p, hstart, hfile⟩ := @exists_start_demo ['a'] (by decide)
  obtain ⟨p', hstart', -⟩ := @exists_start_demo ['b'] (by decide)
  obtain ⟨c, hc, -, hknobs, hrestart⟩ :=
    (reload_eq_restart _ _ _ _ p hstart [.ok ['b'], .ok []]).1 hfile
  have hlast : lastLoaded demoExternals [.ok ['a'], .ok ['b'], .ok []] =
      some ⟨[⟨"localhost".toList, 8080, "two".toList, 80, .tcp⟩],
        { Settings.default with bufferBytes := 16384, useSplice := true }⟩ := by decide
  obtain rfl := Option.some.inj (hlast.symm.trans hc)
  obtain ⟨hlabels, hsame⟩ := hrestart (.ok ['b']) p' (by decide) hstart'
  exact ⟨p, p', hstart, hfile, hstart', hlabels, hsame, hsame.symm.trans hknobs⟩

end Rfw
