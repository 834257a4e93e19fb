import RanSlicing.Document.Tree

/-!
# TOML tables

A table can be filled from several places of a document, and what may still be added to it depends
on how it came about: a header defines a table once, a header of a deeper table and a key with dots
define the tables on their way as a side effect, and a table inside a value is closed. `Table`
remembers this while a document is read, and every change that would define something twice is
refused.
-/

namespace RanSlicing.Toml

/-- How a table came about. -/
inductive Origin
  /-- defined by a header, or the whole document -/
  | header
  /-- on the way to the table of a header -/
  | path
  /-- on the way to a key with dots -/
  | dotted
  deriving DecidableEq, Repr

/-- What stands under a key. -/
inductive Item where
  /-- a closed value -/
  | value (t : Tree Float)
  | table (origin : Origin) (entries : List (String × Item))
  /-- tables with the same header, the last one first -/
  | tables (elements : List (List (String × Item)))

/-- The entries of a table under construction. -/
abbrev Entries := List (String × Item)

namespace Entries

/-- Puts an item under a key that may be there. -/
def put (es : Entries) (k : String) (i : Item) : Entries :=
  if es.any (fun e => e.1 = k) then es.map (fun e => if e.1 = k then (k, i) else e)
  else es ++ [(k, i)]

/-- Changes the table at a path. Tables that are missing on the way are made with the given origin;
a key with dots may not enter a table that has a header. -/
def alter? (origin : Origin) (change : Origin → Entries → Option Entries) (here : Origin) :
    List String → Entries → Option Entries
  | [], es => change here es
  | k :: ks, es =>
    match es.lookup k with
    | none => (alter? origin change origin ks []).map (fun inner => es.put k (.table origin inner))
    | some (.value _) => none
    | some (.tables []) => none
    | some (.tables (last :: earlier)) =>
      (alter? origin change .header ks last).map
        (fun last => es.put k (.tables (last :: earlier)))
    | some (.table known inner) =>
      if origin = .dotted ∧ known = .header then none
      else (alter? origin change known ks inner).map (fun inner => es.put k (.table known inner))

/-- Adds a value under a new key. -/
def insert? (es : Entries) (k : String) (i : Item) : Option Entries :=
  match es.lookup k with
  | none => some (es.put k i)
  | some _ => none

/-- Adds a value at a path of keys with dots. A path goes through tables of its own kind only. -/
def insertDotted? (es : Entries) (keys : List String) (t : Tree Float) : Option Entries :=
  match keys.reverse with
  | [] => none
  | k :: [] => es.insert? k (.value t)
  | k :: ks =>
    alter? .dotted
      (fun here es => if here = .dotted then insert? es k (.value t) else none) .header ks.reverse es

/-- Defines a table by its header. One that is only on the way to others can still be defined. -/
def define? (es : Entries) (keys : List String) : Option Entries :=
  match keys.reverse with
  | [] => none
  | k :: ks =>
    alter? .path (fun _ es =>
      match es.lookup k with
      | none => some (es.put k (.table .header []))
      | some (.table .path inner) => some (es.put k (.table .header inner))
      | some _ => none) .header ks.reverse es

/-- Adds a table to the tables with one header. -/
def append? (es : Entries) (keys : List String) : Option Entries :=
  match keys.reverse with
  | [] => none
  | k :: ks =>
    alter? .path (fun _ es =>
      match es.lookup k with
      | none => some (es.put k (.tables [[]]))
      | some (.tables elements) => some (es.put k (.tables ([] :: elements)))
      | some _ => none) .header ks.reverse es

/-- Adds a value to the table that the last header has begun. -/
def insertUnder? (es : Entries) (header keys : List String) (t : Tree Float) : Option Entries :=
  alter? .path (fun _ es => es.insertDotted? keys t) .header header es

end Entries

mutual

/-- The tree of an item. -/
def Item.toTree : Item → Tree Float
  | .value t => t
  | .table _ entries => .map (entryTrees entries)
  | .tables elements => .list (elementTrees elements).reverse

/-- The trees of the entries of a table. -/
def entryTrees : List (String × Item) → List (String × Tree Float)
  | [] => []
  | (k, i) :: rest => (k, i.toTree) :: entryTrees rest

/-- The trees of several tables. -/
def elementTrees : List (List (String × Item)) → List (Tree Float)
  | [] => []
  | es :: rest => .map (entryTrees es) :: elementTrees rest

end

end RanSlicing.Toml
