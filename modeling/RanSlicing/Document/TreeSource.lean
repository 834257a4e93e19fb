import RanSlicing.Document.Source
import RanSlicing.Share

/-!
# Reading trees

A tree says of which kind each of its leaves is, and reading it takes that literally: a number with
a fraction is no whole number, a text is no number, and only `null` is a missing value. A record may
also be written as the list of its fields in order.
-/

namespace RanSlicing.Tree

variable {α : Type}

/-- A real number; a whole number is one too. -/
def real? [Share α] : Tree α → Option α
  | real x => some x
  | int n => some (Share.ofInt n)
  | _ => none

/-- A name out of a list, alone or as the only key of a map with no value. -/
def choice? (names : List String) : Tree α → Option String
  | text s => if names.contains s then some s else none
  | map [(s, null)] => if names.contains s then some s else none
  | _ => none

instance [Share α] : Source (Tree α) α where
  nat?
    | int n => if 0 ≤ n then some n.toNat else none
    | _ => none
  int?
    | int n => some n
    | _ => none
  real? := real?
  bool?
    | bool b => some b
    | _ => none
  text?
    | text s => some s
    | _ => none
  choice? := choice?
  option?
    | null => some none
    | t => some (some t)
  list?
    | list items => some items
    | _ => none
  record? names
    | map entries => Fields.ofEntries? names entries
    | list items => Fields.ofPositions? names items
    | _ => none
  entries?
    | map entries => some entries
    | _ => none

end RanSlicing.Tree
