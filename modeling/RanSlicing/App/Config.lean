import RanSlicing.Controller.Decode
import RanSlicing.Controller.Mode
import RanSlicing.Document.Toml.Reader
import RanSlicing.Policy.Preset
import RanSlicing.Settings.Environment

/-!
# Configuration

What the program is told before it starts. The configuration is collected from a file and from the
environment; whatever neither of them says has a value of its own. The presets of a configuration
stand beside the built-in ones and hide those of the same name.
-/

namespace RanSlicing

/-- How to reach the controller. -/
structure ControllerConfig where
  url : String
  port : UInt16
  /-- time granted to a request in milliseconds -/
  timeout : UInt64
  /-- name of the operation mode, not checked -/
  mode : String
  deriving DecidableEq, Repr

/-- When cycles run, in seconds. -/
structure TimingConfig where
  interval : UInt64
  initialDelay : UInt64
  cycles : Option UInt64
  deriving DecidableEq, Repr

/-- Which policy to start from, and where accepted ones are kept. -/
structure PolicyConfig where
  /-- file with the policy of new base stations -/
  template : Option String
  outputDir : String
  basename : String
  format : PolicyFormat
  persist : Bool
  deriving DecidableEq, Repr

/-- A scheduler function to move when the program starts. -/
structure Delegation where
  function : SchedulerFunction
  action : ControlAction
  deriving DecidableEq, Repr

/-- The configuration of the program. -/
structure AppConfig where
  controller : ControllerConfig
  timing : TimingConfig
  policy : PolicyConfig
  /-- file with the report that is replayed in test mode -/
  storedReport : String
  presets : List (String × Preset)
  /-- name of the preset to start with -/
  preset : Option String
  /-- measurement trigger to send when the program starts -/
  trigger : Option Trigger
  delegations : List Delegation
  deriving DecidableEq, Repr

/-- The configuration asks for a preset that does not exist. -/
structure UnknownPreset where
  name : String
  deriving DecidableEq, Repr

/-- The wording of an unknown preset. -/
def UnknownPreset.message (e : UnknownPreset) : String := "Unknown slice template: " ++ e.name

/-! ## Decoding -/

section

variable {ν α : Type} [Source ν α]

open Source (record? text? bool? u16? u64? listOf? optional?)

/-- How to reach the controller when nothing is said. -/
def ControllerConfig.default : ControllerConfig := ⟨"http://localhost", 9999, 5000, "test"⟩

/-- How to reach the controller, in settings or a document. -/
def ControllerConfig.read? (v : ν) : Option ControllerConfig := do
  let fs ← record? ["url", "port", "timeout_ms", "op_mode"] v
  let url ← fs.withDefault "url" default.url text?
  let port ← fs.withDefault "port" default.port u16?
  let timeout ← fs.withDefault "timeout_ms" default.timeout u64?
  let mode ← fs.withDefault "op_mode" default.mode text?
  return ⟨url, port, timeout, mode⟩

/-- When cycles run when nothing is said. -/
def TimingConfig.default : TimingConfig := ⟨10, 3, none⟩

/-- When cycles run, in settings or a document. -/
def TimingConfig.read? (v : ν) : Option TimingConfig := do
  let fs ← record? ["interval_secs", "initial_delay_secs", "cycles"] v
  let interval ← fs.withDefault "interval_secs" default.interval u64?
  let initialDelay ← fs.withDefault "initial_delay_secs" default.initialDelay u64?
  let cycles ← fs.withDefault "cycles" default.cycles (optional? u64?)
  return ⟨interval, initialDelay, cycles⟩

/-- Where policies come from and go to when nothing is said. -/
def PolicyConfig.default : PolicyConfig := ⟨none, ".", "enb_scheduling_policy", .yaml, true⟩

/-- Where policies come from and go to, in settings or a document. -/
def PolicyConfig.read? (v : ν) : Option PolicyConfig := do
  let fs ← record? ["template", "output_dir", "basename", "format", "persist"] v
  let template ← fs.withDefault "template" default.template (optional? text?)
  let outputDir ← fs.withDefault "output_dir" default.outputDir text?
  let basename ← fs.withDefault "basename" default.basename text?
  let format ← fs.withDefault "format" default.format PolicyFormat.read?
  let persist ← fs.withDefault "persist" default.persist bool?
  return ⟨template, outputDir, basename, format, persist⟩

/-- The file with the report when nothing is said. -/
def AppConfig.defaultReport : String := "fixtures/all_stats.json"

/-- The file with the report that is replayed. -/
def AppConfig.readReport? (v : ν) : Option String := do
  let fs ← record? ["stats_fixture"] v
  fs.withDefault "stats_fixture" defaultReport text?

/-- A scheduler function to move; both parts have to be there. -/
def Delegation.read? (v : ν) : Option Delegation := do
  let fs ← record? ["function", "action"] v
  let function ← fs.required "function" SchedulerFunction.read?
  let action ← fs.required "action" ControlAction.read?
  return ⟨function, action⟩

/-- Presets by name. -/
def AppConfig.readPresets? (v : ν) : Option (List (String × Preset)) := do
  let es ← Source.entries? v
  es.mapM (fun (name, p) => (Preset.read? p).map (fun p => (name, p)))

/-- A configuration, without the built-in presets. -/
def AppConfig.read? (v : ν) : Option AppConfig := do
  let fs ← record? ["controller", "control_loop", "policy", "simulation", "slice_templates",
    "slice_template", "rrc_trigger", "delegation"] v
  let controller ← fs.withDefault "controller" ControllerConfig.default ControllerConfig.read?
  let timing ← fs.withDefault "control_loop" TimingConfig.default TimingConfig.read?
  let policy ← fs.withDefault "policy" PolicyConfig.default PolicyConfig.read?
  let report ← fs.withDefault "simulation" defaultReport readReport?
  let presets ← fs.withDefault "slice_templates" [] readPresets?
  let preset ← fs.withDefault "slice_template" none (optional? text?)
  let trigger ← fs.withDefault "rrc_trigger" none (optional? Trigger.read?)
  let delegations ← fs.withDefault "delegation" [] (listOf? Delegation.read?)
  return ⟨controller, timing, policy, report, presets, preset, trigger, delegations⟩

end

/-! ## Encoding -/

section

variable {α : Type}

/-- How to reach the controller, every field written out. -/
def ControllerConfig.toTree (c : ControllerConfig) : Tree α :=
  .map [("url", .text c.url), ("port", .nat c.port.toNat), ("timeout_ms", .nat c.timeout.toNat),
    ("op_mode", .text c.mode)]

/-- When cycles run, every field written out. -/
def TimingConfig.toTree (c : TimingConfig) : Tree α :=
  .map [("interval_secs", .nat c.interval.toNat),
    ("initial_delay_secs", .nat c.initialDelay.toNat),
    ("cycles", .option (fun (n : UInt64) => .nat n.toNat) c.cycles)]

/-- Where policies come from and go to, every field written out. -/
def PolicyConfig.toTree (c : PolicyConfig) : Tree α :=
  .map [("template", .option .text c.template), ("output_dir", .text c.outputDir),
    ("basename", .text c.basename), ("format", .text c.format.extension),
    ("persist", .bool c.persist)]

/-- A scheduler function to move as a tree. -/
def Delegation.toTree (d : Delegation) : Tree α :=
  .map [("function", .text d.function.name), ("action", .text d.action.name)]

/-- A configuration with every field written out. -/
def AppConfig.toTree (c : AppConfig) : Tree α :=
  .map [("controller", c.controller.toTree), ("control_loop", c.timing.toTree),
    ("policy", c.policy.toTree), ("simulation", .map [("stats_fixture", .text c.storedReport)]),
    ("slice_templates", .map (c.presets.map (fun (name, p) => (name, p.toTree)))),
    ("slice_template", .option .text c.preset),
    ("rrc_trigger", .option (fun (t : Trigger) => .text t.name) c.trigger),
    ("delegation", .list (c.delegations.map Delegation.toTree))]

end

namespace AppConfig

/-- Adds the built-in presets whose names are free. -/
def withBuiltin (c : AppConfig) : AppConfig :=
  let free := Preset.builtin.filter (fun b => !c.presets.any (fun p => p.1 = b.1))
  { c with presets := c.presets ++ free }

/-- The preset to start with, if one is asked for. -/
def selected (c : AppConfig) : Except UnknownPreset (Option Preset) :=
  match c.preset with
  | none => .ok none
  | some name =>
    match c.presets.lookup name with
    | some p => .ok (some p)
    | none => .error ⟨name⟩

/-- The file that a name of a configuration means: the file itself, or the one with the usual
extension behind its name. -/
def file? (fs : Files) (name : String) : Option Path :=
  [name, name ++ ".toml"].map Path.ofString |>.find? fs.isFile

/-- The settings in a configuration file; a file that cannot be read has none. -/
def fileLayer? (fs : Files) (name : String) : Option (List (String × Tree Float)) :=
  match (file? fs name).map fs.read with
  | some (.ok text) => (Toml.read? text).map Settings.entriesOf
  | _ => some []

/-- The configuration in a file and in the environment, if they make sense. -/
def load? (fs : Files) (name : String) (environment : List (String × String)) :
    Option AppConfig := do
  let layer ← fileLayer? fs name
  let settings := (Settings.empty.addLayer layer).addLayer (Settings.ofEnvironment environment)
  (read? settings).map withBuiltin

end AppConfig

end RanSlicing
