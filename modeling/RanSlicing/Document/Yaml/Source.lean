import RanSlicing.Document.Source
import RanSlicing.Document.Yaml.Node
import RanSlicing.Share

/-!
# Reading YAML

A YAML scalar has no kind of its own: it is what it is asked to be. Words in quotes are never
numbers; a plain word is a number if it is spelled as one, with the usual marks for other radices,
and every scalar is a text. A value that is left out counts as nothing, as an empty list and as an
empty record.
-/

namespace RanSlicing.Yaml

/-! ## Numbers in words -/

/-- Zeros in front of further digits: such a word is a text and no whole number. -/
def isPaddedNumber (cs : List Char) : Bool :=
  let digits := match cs with
    | '-' :: r => r
    | '+' :: r => r
    | r => r
  digits.length > 1 && digits.head? = some '0' && digits.all Char.isDigit

/-- Digits behind the mark of a radix. -/
def marked? : List Char → Option Nat
  | '0' :: 'x' :: r => Numeral.natOfDigits? 16 r
  | '0' :: 'o' :: r => Numeral.natOfDigits? 8 r
  | '0' :: 'b' :: r => Numeral.natOfDigits? 2 r
  | _ => none

/-- A whole number without a sign. -/
def magnitude? (cs : List Char) : Option Nat :=
  (marked? cs).or (if isPaddedNumber cs then none else Numeral.natOfDigits? 10 cs)

/-- An unsigned number, with an optional plus. -/
def natWord? : List Char → Option Nat
  | '+' :: r => magnitude? r
  | r => magnitude? r

/-- A signed number. -/
def intWord? : List Char → Option Int
  | '-' :: r => (magnitude? r).map (fun n => -(n : Int))
  | r => (natWord? r).map (fun n => (n : Int))

/-- A real number: a finite decimal, or one of the words for infinities and no number. -/
def realWord? (cs : List Char) : Option Float :=
  let negative? : List Char → Option (List Char) := fun
    | '-' :: r => some r
    | _ => none
  let unsigned := match cs with
    | '+' :: r => r
    | r => r
  let finite? (r : List Char) : Option Float :=
    (Numeral.magnitude? r).filter (fun x => !x.isInf)
  let infinities := [".inf".toList, ".Inf".toList, ".INF".toList]
  if infinities.contains unsigned then some (1.0 / 0.0)
  else if [".nan".toList, ".NaN".toList, ".NAN".toList].contains cs then some (0.0 / 0.0)
  else
    match negative? cs with
    | some r => if infinities.contains r then some (-1.0 / 0.0) else (finite? r).map (fun x => -x)
    | none => finite? unsigned

/-- The words for nothing. -/
def isNullWord (s : String) : Bool := s = "null" ∨ s = "Null" ∨ s = "NULL" ∨ s = "~"

/-- Tags that make a word in a literal block a number or a truth value, or a plain word nothing. -/
def intTag : String := "tag:yaml.org,2002:int"

@[inherit_doc intTag]
def floatTag : String := "tag:yaml.org,2002:float"

@[inherit_doc intTag]
def boolTag : String := "tag:yaml.org,2002:bool"

@[inherit_doc intTag]
def nullTag : String := "tag:yaml.org,2002:null"

namespace Document

/-- Another place in the same document. -/
def moveTo (d : Document) (n : Node) : Document := { d with node := n }

/-- The node at a place; an alias stands for its anchored node. -/
def target (d : Document) : Option Node :=
  match d.node with
  | .alias number => d.anchors.lookup number
  | n => some n

/-- The scalar at a place. -/
def text? (d : Document) : Option String :=
  match d.target with
  | some (.scalar _ _ s) => some s
  | _ => none

/-- The word at a place, if it may be a value of the kind of a tag. -/
def word? (d : Document) (kindTag : String) : Option (List Char) :=
  match d.target with
  | some (.scalar _ .plain s) => some s.toList
  | some (.scalar tag .literal s) => if tag = some kindTag then some s.toList else none
  | _ => none

/-- Whether a value is left out at a place. -/
def isOmitted : Node → Bool
  | .void => true
  | .scalar _ .plain s => s.isEmpty
  | _ => false

/-- The value at a place, or that there is none. A tag that says so allows no other word. -/
def option? (d : Document) : Option (Option Document) :=
  match d.target with
  | none => none
  | some n =>
    match n with
    | .void => some none
    | .scalar none .plain s => some (if s.isEmpty ∨ isNullWord s then none else some (d.moveTo n))
    | .scalar (some tag) .plain s =>
      if tag = nullTag then (if isNullWord s then some none else none) else some (some (d.moveTo n))
    | n => some (some (d.moveTo n))

/-- The items of the list at a place. -/
def list? (d : Document) : Option (List Document) :=
  match d.target with
  | some (.list items) => some (items.map d.moveTo)
  | some n => if isOmitted n then some [] else none
  | none => none

/-- The entries of the map at a place; every key is a scalar. -/
def entries? (d : Document) : Option (List (String × Document)) :=
  match d.target with
  | some (.map entries) =>
    entries.mapM (fun (k, v) => ((d.moveTo k).text?).map (fun k => (k, d.moveTo v)))
  | some n => if isOmitted n then some [] else none
  | none => none

instance : Source Document Float where
  nat? d := (d.word? intTag).bind natWord?
  int? d := (d.word? intTag).bind intWord?
  real? d := (d.word? floatTag).bind realWord?
  bool? d := (d.word? boolTag).bind (fun cs =>
    let s := String.ofList cs
    if s = "true" ∨ s = "True" ∨ s = "TRUE" then some true
    else if s = "false" ∨ s = "False" ∨ s = "FALSE" then some false
    else none)
  text? := text?
  choice? names d := d.text?.filter (fun s => names.contains s)
  option? := option?
  list? := list?
  record? names d := d.entries?.bind (Fields.ofEntries? names)
  entries? := entries?

end Document

end RanSlicing.Yaml
