import RanSlicing.Files.Path

/-!
# Files

The tree of files that the program reads from and writes to, as a value. Writing returns a new tree
and never changes or removes an entry of the old one: `createNew` refuses a name that is taken.

An error names what was found in the way, as an operating system reports it.
-/

namespace RanSlicing

/-- Why a file operation failed. -/
inductive FileError
  | notFound
  | alreadyExists
  | notADirectory
  | isADirectory
  | invalidData
  deriving DecidableEq, Repr

/-- What a file holds. -/
inductive Content
  | text (s : String)
  /-- bytes that are no text -/
  | undecodable
  deriving DecidableEq, Repr

/-- What a file with these bytes holds. -/
def Content.ofBytes (bytes : List UInt8) : Content :=
  match String.fromUTF8? ⟨bytes.toArray⟩ with
  | some s => .text s
  | none => .undecodable

/-- A tree of files. The root is a directory without being listed. -/
structure Files where
  entries : List (Path × Content)
  directories : List Path
  deriving DecidableEq, Repr

namespace Files

/-- No files at all. -/
def empty : Files := ⟨[], []⟩

/-- What the file at a path holds. -/
def content? (fs : Files) (p : Path) : Option Content := fs.entries.lookup p

/-- Whether a path leads to a file. -/
def isFile (fs : Files) (p : Path) : Bool := (fs.content? p).isSome

/-- Whether a path leads to a directory. -/
def isDirectory (fs : Files) (p : Path) : Bool := p.isEmpty || fs.directories.contains p

/-- Whether something stands at a path. -/
def taken (fs : Files) (p : Path) : Bool := fs.isFile p || fs.isDirectory p

/-- Why nothing can be found at a path: some name above it is a file, or is missing. -/
def missing (fs : Files) (p : Path) : FileError :=
  if (Path.ancestry (Path.parent p)).any fs.isFile then .notADirectory else .notFound

/-- The text of a file. -/
def read (fs : Files) (p : Path) : Except FileError String :=
  match fs.content? p with
  | some (.text s) => .ok s
  | some .undecodable => .error .invalidData
  | none => .error (if fs.isDirectory p then .isADirectory else fs.missing p)

/-- Adds the directories of a path that are not there. -/
def addDirectories (fs : Files) (p : Path) : Files :=
  { fs with directories := fs.directories ++ (Path.ancestry p).filter (fun d => !fs.isDirectory d) }

/-- Makes a directory and every directory above it. -/
def makeDirectories (fs : Files) (p : Path) : Except FileError Files :=
  if fs.isFile p then .error .alreadyExists
  else if (Path.ancestry p).any fs.isFile then .error .notADirectory
  else .ok (fs.addDirectories p)

/-- Writes a file under a name that is not taken, in a directory that exists. -/
def createNew (fs : Files) (p : Path) (s : String) : Except FileError Files :=
  if fs.taken p then .error .alreadyExists
  else if fs.isDirectory (Path.parent p) then .ok { fs with entries := fs.entries ++ [(p, .text s)] }
  else .error (fs.missing p)

/-- Puts a file at a path, whatever was there, and makes the directories above it. -/
def put (fs : Files) (p : Path) (c : Content) : Files :=
  let fs := fs.addDirectories (Path.parent p)
  { fs with entries := fs.entries.filter (fun e => e.1 ≠ p) ++ [(p, c)] }

end Files

end RanSlicing
