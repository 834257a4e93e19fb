import RanSlicing.Controller.Error
import RanSlicing.Document.Json.Reader
import RanSlicing.Document.TreeSource
import RanSlicing.Document.Yaml.Source
import RanSlicing.Stats.Document

/-!
# Reading stats reports

A report is stored as YAML or as JSON, told apart by the extension of its file. What the controller
sends is JSON.
-/

namespace RanSlicing.StatsReport

/-- A report in JSON. -/
def ofJson? (text : String) : Option StatsReport := (Json.read? text).bind read?

/-- A report in YAML. -/
def ofYaml? (text : String) : Option StatsReport := (Yaml.read? text).bind read?

/-- Whether the extension of a file marks it as YAML. -/
def isYaml (path : String) : Bool :=
  let extension := Path.extension? path
  extension = some "yaml" ∨ extension = some "yml"

/-- A report stored at a path. -/
def parse (path text : String) : Except InterfaceError StatsReport :=
  if isYaml path then (ofYaml? text).elim (.error .malformedYaml) .ok
  else (ofJson? text).elim (.error .malformedJson) .ok

end RanSlicing.StatsReport
