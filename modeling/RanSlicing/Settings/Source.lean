import RanSlicing.Settings.Basic

/-!
# Reading settings

How the leaves of settings convert: the words for yes and no are understood as truth values and as
one and zero, a real number is rounded where a whole one is wanted, and a number is taken for true if
it is not zero. A table may be written as the list of its values.
-/

namespace RanSlicing.Settings

/-- The words for true. -/
def yesWords : List String := ["true", "on", "yes"]

/-- The words for false. -/
def noWords : List String := ["false", "off", "no"]

/-- Digits with an optional plus, below a limit. -/
def natOfText? (limit : Nat) (s : String) : Option Nat :=
  let digits := match s.toList with
    | '+' :: r => r
    | r => r
  (Numeral.natOfDigits? 10 digits).filter (· < limit)

/-- Digits with an optional sign that fit 64 bits. -/
def intOfText? (s : String) : Option Int :=
  let (negative, ds) := Numeral.sign s.toList
  ((Numeral.natOfDigits? 10 ds).map (fun n => if negative then -(n : Int) else n)).filter
    (fun n => Int64.minValue.toInt ≤ n ∧ n ≤ Int64.maxValue.toInt)

/-- An unsigned number; a real one is rounded and kept inside 64 bits. -/
def nat? : Tree Float → Option Nat
  | .int n => if 0 ≤ n then some n.toNat else none
  | .bool b => some (if b then 1 else 0)
  | .real x => some x.round.toUInt64.toNat
  | .text s =>
    let w := lowercase s
    if yesWords.contains w then some 1
    else if noWords.contains w then some 0
    else natOfText? UInt64.size w
  | _ => none

/-- A signed number. -/
def int? : Tree Float → Option Int
  | .int n => some n
  | .bool b => some (if b then 1 else 0)
  | .real x => some x.round.toInt64.toInt
  | .text s =>
    let w := lowercase s
    if yesWords.contains w then some 1
    else if noWords.contains w then some 0
    else intOfText? w
  | _ => none

/-- A real number. -/
def real? : Tree Float → Option Float
  | .int n => some (Float.ofInt n)
  | .bool b => some (if b then 1.0 else 0.0)
  | .real x => some x
  | .text s =>
    let w := lowercase s
    if yesWords.contains w then some 1.0
    else if noWords.contains w then some 0.0
    else Numeral.float? w.toList
  | _ => none

/-- A truth value. -/
def bool? : Tree Float → Option Bool
  | .bool b => some b
  | .int n => some (n ≠ 0)
  | .real x => some (x != 0.0)
  | .text s =>
    let w := lowercase s
    if w = "1" ∨ yesWords.contains w then some true
    else if w = "0" ∨ noWords.contains w then some false
    else none
  | _ => none

/-- A text. -/
def text? : Tree Float → Option String
  | .text s => some s
  | .bool b => some (if b then "true" else "false")
  | .int n => some (toString n)
  | .real x => some (Decimal.message x)
  | _ => none

/-- A name out of a list in any case of letters, alone or as the only key of a table. -/
def choice? (names : List String) : Tree Float → Option String
  | .text s => names.find? (fun n => lowercase n = lowercase s)
  | .map [(s, _)] => names.find? (fun n => lowercase n = lowercase s)
  | _ => none

/-- A record: a table, or the list of its values in order, of which more than there are names are
ignored. -/
def record? (names : List String) : Tree Float → Option (Fields Settings)
  | .map entries => Fields.ofEntries? names (entries.map (fun e => (e.1, ⟨e.2⟩)))
  | .list items => some (names.zip (items.map Settings.mk))
  | _ => none

instance : Source Settings Float where
  nat? s := nat? s.tree
  int? s := int? s.tree
  real? s := real? s.tree
  bool? s := bool? s.tree
  text? s := text? s.tree
  choice? names s := choice? names s.tree
  option? s := match s.tree with
    | .null => some none
    | _ => some (some s)
  list? s := match s.tree with
    | .list items => some (items.map Settings.mk)
    | _ => none
  record? names s := record? names s.tree
  entries? s := match s.tree with
    | .map entries => some (entries.map (fun e => (e.1, ⟨e.2⟩)))
    | _ => none

end RanSlicing.Settings
