import RanSlicing.Document.Json.Reader
import RanSlicing.Document.Json.Writer
import RanSlicing.Document.TreeSource
import RanSlicing.Document.Yaml.Source
import RanSlicing.Document.Yaml.Writer
import RanSlicing.Policy.Document

/-!
# Policy documents as text

The written form of a policy: `toTree` and `read?` are the two directions between a document and
its tree, and `dump` and `parse` go on to text in either format. What is missing from a document is
left out of its tree; parsing ends with a check of every share.
-/

namespace RanSlicing

section

variable {ν α : Type} [Source ν α]

open Source (record? bounded? real? text? listOf? optional?)

/-- The parameters of a scheduler in a document. -/
def Scheduler.readParameters? (behaviour : Option String) (v : ν) : Option (Scheduler α) := do
  let fs ← record? ["n_active_slices", "slice_percentage", "slice_maxmcs"] v
  let n ← fs.required "n_active_slices" (bounded? .sliceCount)
  let shares ← fs.withDefault "slice_percentage" [] (listOf? real?)
  let caps ← fs.withDefault "slice_maxmcs" [] (listOf? (bounded? .mcs))
  return ⟨behaviour, n, shares, caps⟩

/-- A scheduler in a document. -/
def Scheduler.read? (v : ν) : Option (Scheduler α) := do
  let fs ← record? ["behaviour", "parameters"] v
  let behaviour ← fs.withDefault "behaviour" none (optional? text?)
  fs.required "parameters" (readParameters? behaviour)

/-- An entry in a document. -/
def PolicyDocument.readEntry? (v : ν) : Option (PolicyEntry α) := do
  let fs ← record? ["dl_scheduler", "ul_scheduler"] v
  let dl ← fs.withDefault "dl_scheduler" none (optional? Scheduler.read?)
  let ul ← fs.withDefault "ul_scheduler" none (optional? Scheduler.read?)
  return ⟨dl, ul⟩

/-- A policy in a document. Its shares are not checked. -/
def PolicyDocument.read? (v : ν) : Option (PolicyDocument α) := do
  let fs ← record? ["mac"] v
  let mac ← fs.required "mac" (listOf? readEntry?)
  return ⟨mac⟩

end

variable {α : Type}

/-- A scheduler as a tree. -/
def Scheduler.toTree (p : Scheduler α) : Tree α :=
  .record [p.behaviour.map (fun b => ("behaviour", .text b)),
    some ("parameters", .map [("n_active_slices", .nat p.activeSlices.val),
      ("slice_percentage", .list (p.shares.map .real)),
      ("slice_maxmcs", .list (p.caps.map (fun m => .nat m.val)))])]

namespace PolicyDocument

/-- A policy as a tree. -/
def toTree (doc : PolicyDocument α) : Tree α :=
  .map [("mac", .list (doc.mac.map (fun e =>
    .record [e.dl.map (fun p => ("dl_scheduler", p.toTree)),
      e.ul.map (fun p => ("ul_scheduler", p.toTree))])))]

/-- The text of a policy in a format. -/
def dump [Share α] (doc : PolicyDocument α) : PolicyFormat → String
  | .yaml => Yaml.write doc.toTree
  | .json => Json.pretty doc.toTree

/-- A policy in a text, not checked. -/
def ofText? (text : String) : PolicyFormat → Option (PolicyDocument Float)
  | .yaml => (Yaml.read? text).bind read?
  | .json => (Json.read? text).bind read?

/-- A policy in a text. -/
def parse (text : String) (format : PolicyFormat) :
    Except (PolicyError Float) (PolicyDocument Float) :=
  match ofText? text format with
  | none => .error (.malformed format)
  | some doc => doc.validate.map (fun _ => doc)

/-- The policy in a file, in the format that the extension of the file tells. -/
def load (fs : Files) (path : String) : Except (PolicyError Float) (PolicyDocument Float) :=
  match fs.read (Path.ofString path) with
  | .error e => .error (.file path e)
  | .ok text => parse text (PolicyFormat.ofPath path)

/-- The name of the file of a policy: a base name, a number and the extension of the format. -/
def fileName (basename : String) (sequence : UInt32) (format : PolicyFormat) : String :=
  basename ++ "_" ++ toString sequence.toNat ++ "." ++ format.extension

/-- Writes a policy to a new file of a directory, which is made if it is not there. Gives the files
afterwards and the path of the new one. When the file is refused, the directories stay. -/
def save [Share α] (doc : PolicyDocument α) (fs : Files) (dir basename : String)
    (sequence : UInt32) (format : PolicyFormat) : Files × Except (PolicyError α) Path :=
  let path := Path.ofString (Path.join dir (fileName basename sequence format))
  match fs.makeDirectories (Path.ofString dir) with
  | .error e => (fs, .error (.file (Path.toString path) e))
  | .ok fs =>
    match fs.createNew path (doc.dump format) with
    | .error e => (fs, .error (.file (Path.toString path) e))
    | .ok fs => (fs, .ok path)

end PolicyDocument

end RanSlicing
