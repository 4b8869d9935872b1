/-
# Loading the configuration

The configuration comes from the YAML file, the command line and the environment.  The YAML
decoder is another crate, so it enters as a function from the text of the file to the document as
it is written; what the program does with that document (the defaults, the port ranges, the
duplicate checks) is defined here.  The environment belongs to the operating system: its strings are
bytes, and reading them as text can fail.
-/
import Rfw.Config.Forwarders
import Rfw.Config.Settings
import Rfw.Lib.Utf8
import Mathlib.Data.List.Sort
import Mathlib.Algebra.Group.Nat.Defs

namespace Rfw

open Lib

/-- The configuration document as it is written. -/
structure ConfigDoc where
  forwarders : List RawForwarder
  settings : Option RawSettings
deriving DecidableEq, Repr

/-- The code outside the repository that loading relies on. -/
structure Externals extends Parsers where
  /-- The YAML decoder of `serde_saphyr::from_str`, up to the derived field types. -/
  yaml : Str → Except Str ConfigDoc
  /-- How the decoder reports an error raised by `deserialize_forwarders`. -/
  customError : Str → Str

/-- The file at the configured path: its text, or the error of reading it. -/
abbrev File := Except Str Str

/-- The deserialized `ConfigFile`, and the `LoadedConfig` made of it. -/
structure LoadedConfig where
  forwarders : List ForwarderConfig
  settings : Settings
deriving DecidableEq, Repr

/-- `deserialize_forwarders`. -/
def deserializeForwarders (raw : List RawForwarder) : Except Str (List ForwarderConfig) := do
  let specs ← raw.mapM RawForwarder.intoSpec
  expandSpecs specs

/-- `serde_saphyr::from_str::<ConfigFile>`. -/
def parseConfigFile (ext : Externals) (content : Str) : Except Str LoadedConfig := do
  let doc ← ext.yaml content
  let forwarders ← (deserializeForwarders doc.forwarders).mapError ext.customError
  let settings := match doc.settings with
    | none => Settings.default
    | some raw => Settings.ofRaw raw
  return { forwarders, settings }

/-- `load_yaml_config`. -/
def loadYamlConfig (ext : Externals) (file : File) : Except Str LoadedConfig := do
  let content ← file
  let cf ← parseConfigFile ext content
  validateNoDuplicates cf.forwarders
  return cf

/-- `load_yaml_forwarders`. -/
def loadYamlForwarders (ext : Externals) (file : File) : Except Str (List ForwarderConfig) := do
  let loaded ← loadYamlConfig ext file
  return loaded.forwarders

/-- Where the running forwarder list came from at startup. -/
inductive ForwarderSource
  | env
  | cli
  | file
  | none
deriving DecidableEq, Repr

/-- A string of the operating system: any bytes. -/
abbrev OsString := List UInt8

/-- `OsString::into_string`: the text that the bytes encode, if they encode one. -/
def OsString.intoString (s : OsString) : Option Str :=
  let text := Utf8.decodeLossy s
  if Utf8.encode text = s then some text else none

/-- The environment of the process, as the operating system hands it over. -/
abbrev Environment := List (OsString × OsString)

/-- How the program ends before it runs. -/
inductive Exit
  /-- `main` returns an error. -/
  | error (text : Str)
  /-- `main` panics. -/
  | panic
deriving DecidableEq, Repr

/-- `std::env::vars`, read to the end: it panics at a name or value that is not Unicode. -/
def envVars (env : Environment) : Except Exit (List (Str × Str)) :=
  env.mapM fun kv =>
    match OsString.intoString kv.1, OsString.intoString kv.2 with
    | some key, some value => .ok (key, value)
    | _, _ => .error .panic

/-- The index of an `RFW_FORWARDER_N` variable. -/
def envIndex (key : Str) : Option ℕ :=
  match Str.stripStart "RFW_FORWARDER_".toList key with
  | none => none
  | some suffix => (Str.parseUnsigned (2 ^ 64) suffix).toOption

/-- `load_env_forwarders`: the entries that parse, by increasing index. -/
def loadEnvForwarders (env : Environment) : Except Exit (List ForwarderConfig) := do
  let vars ← envVars env
  let entries := vars.filterMap fun kv => (envIndex kv.1).map fun index => (index, kv.2)
  let sorted := entries.insertionSort fun a b => a.1 ≤ b.1
  (expandSpecs (sorted.filterMap fun e => (parseForwarderSpec e.2).toOption)).mapError .error

/-- The list configured without the environment, with its source. -/
def configuredForwarders (ext : Externals) (cli : CliArgs) (file : File) :
    Except Str (List ForwarderConfig × ForwarderSource) :=
  if cli.forwarders ≠ [] then do
    let specs ← cli.forwarders.mapM parseForwarderSpec
    let forwarders ← expandSpecs specs
    return (forwarders, .cli)
  else if cli.configFile.isSome then do
    let forwarders ← loadYamlForwarders ext file
    return (forwarders, .file)
  else return ([], .none)

/-- `load_forwarders_with_source`. -/
def loadForwardersWithSource (ext : Externals) (env : Environment) (cli : CliArgs)
    (file : File) : Except Exit (List ForwarderConfig × ForwarderSource) := do
  let configured ← (configuredForwarders ext cli file).mapError .error
  let envForwarders ← loadEnvForwarders env
  let chosen := if envForwarders.isEmpty then configured else (envForwarders, .env)
  (validateNoDuplicates chosen.1).mapError .error
  return chosen

/-- The settings before the command line is applied: an unreadable file falls back to the
defaults. -/
def fileSettings (ext : Externals) (cli : CliArgs) (file : File) : Except Str Settings :=
  if cli.configFile.isSome then
    match file with
    | .error _ => .ok Settings.default
    | .ok content => (parseConfigFile ext content).map LoadedConfig.settings
  else .ok Settings.default

/-- `load_settings`. -/
def loadSettings (ext : Externals) (cli : CliArgs) (file : File) : Except Str Settings := do
  let settings ← fileSettings ext cli file
  let settings := applyCliOverrides settings cli
  settings.validate ext.toParsers
  return settings

/-! ## What a successful load has read -/

/-- A bind of two fallible computations succeeds when both do. -/
lemma bind_eq_ok {ε α β : Type} {x : Except ε α} {f : α → Except ε β} {b : β} :
    (x >>= f) = .ok b ↔ ∃ a, x = .ok a ∧ f a = .ok b := by
  cases x with
  | error e => simp [bind, Except.bind]
  | ok a => simp [bind, Except.bind]

/-- Only errors change under `mapError`. -/
lemma mapError_eq_ok {ε ε' α : Type} {x : Except ε α} {f : ε → ε'} {a : α} :
    x.mapError f = .ok a ↔ x = .ok a := by
  cases x with
  | error e => exact ⟨nofun, nofun⟩
  | ok b => exact ⟨fun h => congrArg _ (Except.ok.inj h), fun h => congrArg _ (Except.ok.inj h)⟩

/-- A loaded file could be read, and its text decodes to what was loaded. -/
lemma loadYamlConfig_eq_ok {ext : Externals} {file : File} {c : LoadedConfig}
    (h : loadYamlConfig ext file = .ok c) :
    ∃ content, file = .ok content ∧ parseConfigFile ext content = .ok c := by
  obtain ⟨content, hfile, h⟩ := bind_eq_ok.mp h
  obtain ⟨cf, hcf, h⟩ := bind_eq_ok.mp h
  obtain ⟨u, -, h⟩ := bind_eq_ok.mp h
  obtain rfl : cf = c := by simpa [pure, Except.pure] using h
  exact ⟨content, hfile, hcf⟩

/-- The source is `File` only if nothing else configures a forwarder. -/
lemma loadForwardersWithSource_file {ext : Externals} {env : Environment} {cli : CliArgs}
    {file : File} {fwds : List ForwarderConfig}
    (h : loadForwardersWithSource ext env cli file = .ok (fwds, .file)) :
    cli.forwarders = [] ∧ cli.configFile.isSome = true ∧ loadEnvForwarders env = .ok [] ∧
      loadYamlForwarders ext file = .ok fwds := by
  obtain ⟨configured, hconf, h⟩ := bind_eq_ok.mp h
  replace hconf := mapError_eq_ok.mp hconf
  obtain ⟨envForwarders, henv, h⟩ := bind_eq_ok.mp h
  obtain ⟨u, -, h⟩ := bind_eq_ok.mp h
  have hchosen : (if envForwarders.isEmpty then configured else (envForwarders, .env)) =
      (fwds, .file) := by simpa [pure, Except.pure] using h
  cases envForwarders with
  | cons f fs => simp at hchosen
  | nil =>
    obtain rfl : configured = (fwds, .file) := by simpa using hchosen
    simp only [configuredForwarders] at hconf
    split at hconf
    · obtain ⟨specs, -, hconf⟩ := bind_eq_ok.mp hconf
      obtain ⟨forwarders, -, hconf⟩ := bind_eq_ok.mp hconf
      simp [pure, Except.pure] at hconf
    · rename_i hcli
      split at hconf
      · rename_i hfile
        obtain ⟨forwarders, hload, hconf⟩ := bind_eq_ok.mp hconf
        obtain rfl : forwarders = fwds := by simpa [pure, Except.pure] using hconf
        exact ⟨by simpa using hcli, hfile, henv, hload⟩
      · simp [pure, Except.pure] at hconf

/-- Without other sources, a start reads the forwarders of the file. -/
lemma loadForwardersWithSource_of_file {ext : Externals} {env : Environment} {cli : CliArgs}
    {file : File} {r : List ForwarderConfig × ForwarderSource} (hcli : cli.forwarders = [])
    (hconfig : cli.configFile.isSome = true) (henv : loadEnvForwarders env = .ok [])
    (h : loadForwardersWithSource ext env cli file = .ok r) :
    r.2 = .file ∧ loadYamlForwarders ext file = .ok r.1 := by
  obtain ⟨configured, hconf, h⟩ := bind_eq_ok.mp h
  replace hconf := mapError_eq_ok.mp hconf
  obtain ⟨envForwarders, henv', h⟩ := bind_eq_ok.mp h
  obtain rfl : envForwarders = [] := by simpa [henv] using henv'.symm
  obtain ⟨u, -, h⟩ := bind_eq_ok.mp h
  obtain rfl : configured = r := by simpa [pure, Except.pure] using h
  simp only [configuredForwarders, hcli, ne_eq, not_true_eq_false, if_false, hconfig,
    if_true] at hconf
  obtain ⟨forwarders, hload, hconf⟩ := bind_eq_ok.mp hconf
  obtain rfl : (forwarders, ForwarderSource.file) = configured := by
    simpa [pure, Except.pure] using hconf
  exact ⟨rfl, hload⟩

/-- A start on a file that loads takes the file's settings with the command line applied. -/
lemma loadSettings_of_loaded {ext : Externals} {cli : CliArgs} {file : File} {c : LoadedConfig}
    {s : Settings} (hconfig : cli.configFile.isSome = true)
    (hload : loadYamlConfig ext file = .ok c) (h : loadSettings ext cli file = .ok s) :
    s = applyCliOverrides c.settings cli := by
  obtain ⟨content, rfl, hparse⟩ := loadYamlConfig_eq_ok hload
  obtain ⟨base, hbase, h⟩ := bind_eq_ok.mp h
  simp only [fileSettings, hconfig, if_true, hparse, Except.map, Except.ok.injEq] at hbase
  obtain ⟨u, -, h⟩ := bind_eq_ok.mp h
  subst hbase
  simpa [pure, Except.pure] using h.symm

end Rfw
