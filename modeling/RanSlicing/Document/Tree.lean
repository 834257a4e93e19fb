/-!
# Document trees

A document is a tree of lists and maps over a few kinds of leaves. A tree is what an encoder hands
to a writer of some format, and what a reader of a format that marks the kind of every leaf hands
to a decoder. The type of real leaves is a parameter: it is the type of shares of the documents.

Maps keep their entries in order and may repeat a key, so that a reader decides nothing about
repeated keys: the decoder of a record does.
-/

namespace RanSlicing

/-- A document. -/
inductive Tree (α : Type) where
  | null
  | bool (b : Bool)
  | int (n : Int)
  | real (x : α)
  | text (s : String)
  | list (items : List (Tree α))
  | map (entries : List (String × Tree α))
  /-- a leaf that is spelled correctly but has no value, such as a number too large to represent -/
  | valueless

namespace Tree

variable {α : Type}

instance : Inhabited (Tree α) := ⟨null⟩

/-- A whole number. -/
def nat (n : Nat) : Tree α := int n

/-- A list of whole numbers. -/
def nats (ns : List Nat) : Tree α := list (ns.map nat)

/-- The tree of a value that may be missing. -/
def option {β : Type} (f : β → Tree α) : Option β → Tree α
  | none => null
  | some b => f b

/-- A map without the entries that are missing. -/
def record (entries : List (Option (String × Tree α))) : Tree α := map (entries.filterMap id)

/-- The first entry of a map under a key. -/
def get? (t : Tree α) (key : String) : Option (Tree α) :=
  match t with
  | map entries => entries.lookup key
  | _ => none

end Tree

end RanSlicing
