/-!
# Paths

A path is the list of its names, from the root of the tree of files down. Reading one from text
drops the parts that name nothing, and a double dot takes back the name before it: the tree has no
links, so this is what the path leads to.

The text of a path also tells the name and the extension of the file, with the usual rule that a
leading dot starts no extension.
-/

namespace RanSlicing

/-- Names from the root down; the empty path is the root. -/
abbrev Path := List String

namespace Path

/-- The parts of a text between slashes, without the ones that name nothing. -/
def parts (s : String) : List String :=
  ((s.toList.splitOn '/').map String.ofList).filter (fun p => p ≠ "" ∧ p ≠ ".")

/-- The path that a text leads to. -/
def ofString (s : String) : Path :=
  (parts s).foldl (fun p part => if part = ".." then p.dropLast else p ++ [part]) []

/-- Names with slashes between them. -/
def toString (p : Path) : String := String.intercalate "/" p

/-- The directory that a path lies in; the root lies in itself. -/
def parent (p : Path) : Path := p.dropLast

/-- The paths of the directories above a path and of the path itself, the topmost first; the root
is left out. -/
def ancestry (p : Path) : List Path := (List.range p.length).map (fun n => p.take (n + 1))

/-- The name of the file that a text leads to. -/
def fileName? (s : String) : Option String := (parts s).getLast?.filter (· ≠ "..")

/-- What stands after the last dot of a name; a name that only starts with a dot has no
extension. -/
def extensionOf? (name : String) : Option String :=
  let after := name.toList.reverse.takeWhile (· ≠ '.')
  let before := (name.toList.reverse.drop after.length).drop 1
  if after.length = name.length ∨ before.isEmpty then none
  else some (String.ofList after.reverse)

/-- The extension of the file that a text leads to, in lower case. -/
def extension? (s : String) : Option String :=
  ((fileName? s).bind extensionOf?).map (fun e => e.map Char.toLower)

/-- The text of a path below a directory. -/
def join (dir file : String) : String :=
  if dir = "" ∨ file.startsWith "/" then file
  else if dir.endsWith "/" then dir ++ file
  else dir ++ "/" ++ file

end Path

end RanSlicing
