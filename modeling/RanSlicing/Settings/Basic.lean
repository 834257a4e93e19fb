import RanSlicing.Decimal.Numeral
import RanSlicing.Document.TreeSource
import RanSlicing.Settings.Case

/-!
# Settings

Settings are collected from several layers into one tree. A later layer wins: tables are merged key
by key, and every other value replaces what was there. Keys are taken in lower case; only the keys of
tables inside lists stay as they are, because a list is one value.

Unlike the leaves of a document, the leaves of settings convert into each other, since a layer such
as the environment has nothing but texts: a text that spells a number is one, a number counts as a
truth value, and so on.
-/

namespace RanSlicing

/-- Collected settings. -/
structure Settings where
  tree : Tree Float

namespace Settings

/-! ## Merging -/

/-- The entries of a table; anything else has none. -/
def entriesOf : Tree Float → List (String × Tree Float)
  | .map es => es
  | _ => []

/-- Puts a value under a key that may be there. -/
def put (es : List (String × Tree Float)) (k : String) (t : Tree Float) :
    List (String × Tree Float) :=
  if es.any (fun e => e.1 = k) then es.map (fun e => if e.1 = k then (k, t) else e)
  else es ++ [(k, t)]

mutual

/-- What an old value becomes under a new one. -/
def merge (old : Tree Float) : Tree Float → Tree Float
  | .map [] =>
    match old with
    | .null => .map []
    | t => t
  | .map (e :: es) => .map (mergeEntries (entriesOf old) (e :: es))
  | t => t

/-- The entries of a table after those of another. -/
def mergeEntries (old : List (String × Tree Float)) :
    List (String × Tree Float) → List (String × Tree Float)
  | [] => old
  | (k, t) :: rest =>
    let k := lowercase k
    mergeEntries (put old k (merge ((old.lookup k).getD .null) t)) rest

end

/-! ## Paths -/

/-- A step from a value to one inside it. -/
inductive Step
  | key (name : String)
  /-- a position in a list; a negative one is counted from its end -/
  | item (position : Int)
  deriving DecidableEq, Repr

/-- A character of a key in a path. -/
def isKeyChar (c : Char) : Bool := c.isAlphanum ∨ c = ' ' ∨ c = '_' ∨ c = '-'

/-- The number between brackets, from behind the opening one on. -/
def position? (cs : List Char) : Option (Int × List Char) :=
  let cs := cs.dropWhile (· = ' ')
  let (negative, r) := match cs with
    | '-' :: r => (true, r)
    | r => (false, r)
  let ds := r.takeWhile Char.isDigit
  match Numeral.natOfDigits? 10 ds, (r.drop ds.length).dropWhile (· = ' ') with
  | some n, ']' :: rest => some (if negative then -(n : Int) else n, rest)
  | _, _ => none

/-- Steps behind the first one: a dot and a key, or a position in brackets. -/
def steps? (fuel : Nat) (cs : List Char) : Option (List Step) :=
  match fuel, cs with
  | _, [] => some []
  | 0, _ => none
  | fuel + 1, '.' :: r =>
    let name := r.takeWhile isKeyChar
    if name.isEmpty then none
    else (steps? fuel (r.drop name.length)).map (Step.key (String.ofList name) :: ·)
  | fuel + 1, '[' :: r =>
    match position? r with
    | some (i, r) => (steps? fuel r).map (Step.item i :: ·)
    | none => none
  | _, _ => none

/-- The path that a key spells. A key that spells none is a single step. -/
def path (k : String) : List Step :=
  ((steps? (k.length + 1) ('.' :: k.toList))).getD [.key k]

/-- The index of a position in a list of some length. -/
def index (position : Int) (length : Nat) : Nat :=
  if 0 ≤ position then position.toNat else length - position.natAbs

/-- Writes a value at a path. Whatever is in the way makes room for a table or a list. -/
def write (new : Tree Float) : List Step → Tree Float → Tree Float
  | [], old => merge old new
  | .key name :: rest, old =>
    let k := lowercase name
    let es := entriesOf old
    .map (put es k (write new rest ((es.lookup k).getD .null)))
  | .item position :: rest, old =>
    let items := match old with
      | .list items => items
      | _ => []
    let i := index position items.length
    let items := items ++ List.replicate (i + 1 - items.length) .null
    .list (items.set i (match rest with
      | [] => new
      | _ => write new rest ((items[i]?).getD .null)))

/-- Adds a layer: its values in order, each under a key that spells a path. -/
def addLayer (s : Settings) (layer : List (String × Tree Float)) : Settings :=
  ⟨layer.foldl (fun t (k, v) => write v (path k) t) s.tree⟩

/-- No settings. -/
def empty : Settings := ⟨.map []⟩

end Settings

end RanSlicing
