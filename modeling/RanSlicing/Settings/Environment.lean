import RanSlicing.Settings.Source

/-!
# Settings in the environment

A variable whose name starts with a prefix is a setting: the rest of its name is the path, with two
underscores between the keys. Its text is a truth value or a number if it spells one.
-/

namespace RanSlicing.Settings

/-- What starts the name of a variable that is a setting. -/
def environmentMark : List Char := ['r', 'r', 'm', '_', 'a', 'p', 'p', '_', '_']

/-- Puts a dot for every two underscores. -/
def dotted : List Char → List Char
  | '_' :: '_' :: r => '.' :: dotted r
  | c :: r => c :: dotted r
  | [] => []

/-- The value that the text of a variable spells. -/
def spelled (s : String) : Tree Float :=
  if lowercase s = "true" then .bool true
  else if lowercase s = "false" then .bool false
  else
    match intOfText? s, Numeral.float? s.toList with
    | some n, _ => .int n
    | none, some x => .real x
    | none, none => .text s

/-- The setting of a variable, if it is one. -/
def ofVariable? (name value : String) : Option (String × Tree Float) :=
  let cs := (lowercase name).toList
  if environmentMark.isPrefixOf cs then
    some (String.ofList (dotted (cs.drop environmentMark.length)), spelled value)
  else none

/-- The layer of the environment. -/
def ofEnvironment (environment : List (String × String)) : List (String × Tree Float) :=
  environment.filterMap (fun (name, value) => ofVariable? name value)

end RanSlicing.Settings
