import RanSlicing.Files.Path
import RanSlicing.Controller.Command
import RanSlicing.Document.Source

/-!
# Policy formats

A policy document is kept as YAML or as JSON. The extension of a file tells its format: JSON has
its own, and everything else is taken for YAML.
-/

namespace RanSlicing

/-- The format of a policy file. -/
inductive PolicyFormat
  | yaml
  | json
  deriving DecidableEq, Repr

/-- A text that names no format, in lower case. -/
structure UnsupportedFormat where
  name : String
  deriving DecidableEq, Repr

/-- The wording of an unsupported format. -/
def UnsupportedFormat.message (e : UnsupportedFormat) : String :=
  "Unsupported policy format: " ++ e.name

namespace PolicyFormat

/-- The extension of files of a format, and its name. -/
def extension : PolicyFormat → String
  | yaml => "yaml"
  | json => "json"

/-- Both formats. -/
def all : List PolicyFormat := [yaml, json]

/-- Reads the name of a format in any case of letters. -/
def parse (s : String) : Except UnsupportedFormat PolicyFormat :=
  match ofName? [("yaml", yaml), ("yml", yaml), ("json", json)] s with
  | some f => .ok f
  | none => .error ⟨s.map Char.toLower⟩

/-- A format in a document. -/
def read? {ν α : Type} [Source ν α] (v : ν) : Option PolicyFormat :=
  Source.named? (all.map (fun f => (f.extension, f))) v

/-- The format of the file that a path leads to. -/
def ofPath (path : String) : PolicyFormat :=
  if Path.extension? path = some "json" then json else yaml

end PolicyFormat

end RanSlicing
