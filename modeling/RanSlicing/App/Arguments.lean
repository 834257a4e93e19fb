import RanSlicing.App.Config

/-!
# Command line

The options of the program. Each takes a value, behind an equals sign or as the next word, and may be
given once; there are no other words. What an option says goes over what the configuration says.
-/

namespace RanSlicing

/-- The options of the command line. -/
inductive Flag
  | config
  | logLevel
  | url
  | port
  | mode
  | preset
  | storedReport
  | template
  | cycles
  | interval
  | outputDir
  deriving DecidableEq, Repr

namespace Flag

/-- Every option. -/
def all : List Flag :=
  [config, logLevel, url, port, mode, preset, storedReport, template, cycles, interval, outputDir]

/-- The name of an option behind two dashes. -/
def name : Flag → String
  | config => "config"
  | logLevel => "log-level"
  | url => "url"
  | port => "port"
  | mode => "op-mode"
  | preset => "slice-template"
  | storedReport => "stats-fixture"
  | template => "policy"
  | cycles => "cycles"
  | interval => "interval-secs"
  | outputDir => "output-dir"

/-- The letter of an option behind one dash. -/
def letter? : Flag → Option Char
  | config => some 'c'
  | logLevel => some 'l'
  | _ => none

/-- The option that a word starts with, and the value if it is part of the word. -/
def ofWord? (word : String) : Option (Flag × Option String) :=
  match word.toList with
  | '-' :: '-' :: r =>
    let name := r.takeWhile (· ≠ '=')
    let value := match r.drop name.length with
      | _ :: v => some (String.ofList v)
      | [] => none
    (all.find? (fun f => f.name.toList = name)).map (fun f => (f, value))
  | '-' :: c :: r =>
    let value := match r with
      | [] => none
      | '=' :: v => some (String.ofList v)
      | v => some (String.ofList v)
    (all.find? (fun f => f.letter? = some c)).map (fun f => (f, value))
  | _ => none

end Flag

/-- What the command line says. -/
structure Arguments where
  config : String
  logLevel : String
  url : Option String
  port : Option UInt16
  mode : Option String
  preset : Option String
  storedReport : Option String
  template : Option String
  cycles : Option UInt64
  interval : Option UInt64
  outputDir : Option String
  deriving DecidableEq, Repr

namespace Arguments

/-- A word that is no value of its own: it starts with a dash and is more than one. -/
def isOption (word : String) : Bool := word.startsWith "-" ∧ word ≠ "-"

/-- Options with their values. -/
def pairs? : List String → Option (List (Flag × String))
  | [] => some []
  | word :: rest =>
    if word = "--" then (if rest.isEmpty then some [] else none)
    else
      match Flag.ofWord? word with
      | none => none
      | some (f, some v) => (pairs? rest).map ((f, v) :: ·)
      | some (f, none) =>
        match rest with
        | [] => none
        | v :: rest => if isOption v then none else (pairs? rest).map ((f, v) :: ·)

/-- An option that may be missing, with a value that has to make sense. -/
def value? {β : Type} (given : List (Flag × String)) (f : Flag) (read : String → Option β) :
    Option (Option β) :=
  match given.lookup f with
  | none => some none
  | some v => (read v).map some

/-- The path of a file or directory. -/
def path? (s : String) : Option String := if s.isEmpty then none else some s

/-- A port. -/
def port? (s : String) : Option UInt16 :=
  ((Settings.intOfText? s).filter (fun n => 0 ≤ n ∧ n.toNat < UInt16.size)).map
    (fun n => UInt16.ofNat n.toNat)

/-- A number of 64 bits. -/
def number? (s : String) : Option UInt64 := (Settings.natOfText? UInt64.size s).map UInt64.ofNat

/-- Reads a command line. -/
def parse? (words : List String) : Option Arguments := do
  let given ← pairs? words
  guard (given.map Prod.fst).Nodup
  let config ← value? given .config path?
  let logLevel ← value? given .logLevel some
  let url ← value? given .url some
  let port ← value? given .port port?
  let mode ← value? given .mode some
  let preset ← value? given .preset some
  let storedReport ← value? given .storedReport path?
  let template ← value? given .template path?
  let cycles ← value? given .cycles number?
  let interval ← value? given .interval number?
  let outputDir ← value? given .outputDir path?
  return ⟨config.getD "rrm_app.toml", logLevel.getD "info", url, port, mode, preset, storedReport,
    template, cycles, interval, outputDir⟩

/-- A configuration with what the command line says about it. -/
def override (a : Arguments) (c : AppConfig) : AppConfig where
  controller :=
    { c.controller with
      url := a.url.getD c.controller.url
      port := a.port.getD c.controller.port
      mode := a.mode.getD c.controller.mode }
  timing :=
    { c.timing with
      interval := a.interval.getD c.timing.interval
      cycles := a.cycles.or c.timing.cycles }
  policy :=
    { c.policy with
      template := a.template.or c.policy.template
      outputDir := a.outputDir.getD c.policy.outputDir }
  storedReport := a.storedReport.getD c.storedReport
  presets := c.presets
  preset := a.preset.or c.preset
  trigger := c.trigger
  delegations := c.delegations

end Arguments

end RanSlicing
