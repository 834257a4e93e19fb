import RanSlicing.Document.Tree
import RanSlicing.Share

/-!
# Writing JSON

Two layouts of the same text: `compact`, without blanks, and `pretty`, with one item a line and two
blanks for each level. Only control characters, quotes and backslashes are escaped. A real number
without digits has no spelling in the format and is written as `null`.
-/

namespace RanSlicing.Json

/-- One character of a string. -/
def encodeChar (c : Char) : List Char :=
  match c with
  | '"' => ['\\', '"']
  | '\\' => ['\\', '\\']
  | '\n' => ['\\', 'n']
  | '\r' => ['\\', 'r']
  | '\t' => ['\\', 't']
  | c =>
    if c.toNat = 8 then ['\\', 'b']
    else if c.toNat = 12 then ['\\', 'f']
    else if c.toNat < 0x20 then
      let ds := Nat.toDigits 16 c.toNat
      ['\\', 'u'] ++ List.replicate (4 - ds.length) '0' ++ ds
    else [c]

/-- A string in quotes. -/
def quoted (s : String) : String := String.ofList ('"' :: s.toList.flatMap encodeChar ++ ['"'])

variable {α : Type} [Share α]

/-- A real number. -/
def realText (x : α) : String :=
  match Share.special? x with
  | some _ => "null"
  | none => Share.document x

/-- The breaks and blanks of a layout: what stands before an item at a depth, and after a colon. -/
structure Layout where
  lineBreak : Nat → String
  afterColon : String

/-- No blanks at all. -/
def Layout.compact : Layout := ⟨fun _ => "", ""⟩

/-- One item a line. -/
def Layout.pretty : Layout :=
  ⟨fun depth => String.ofList ('\n' :: List.replicate (2 * depth) ' '), " "⟩

mutual

/-- The text of a tree at a depth. -/
def render (l : Layout) (depth : Nat) : Tree α → String
  | .null => "null"
  | .bool b => if b then "true" else "false"
  | .int n => toString n
  | .real x => realText x
  | .text s => quoted s
  | .valueless => "null"
  | .list [] => "[]"
  | .list (t :: ts) =>
    "[" ++ l.lineBreak (depth + 1) ++ render l (depth + 1) t ++ renderItems l (depth + 1) ts
      ++ l.lineBreak depth ++ "]"
  | .map [] => "\x7b\x7d"
  | .map ((k, t) :: es) =>
    "\x7b" ++ l.lineBreak (depth + 1) ++ quoted k ++ ":" ++ l.afterColon ++ render l (depth + 1) t
      ++ renderEntries l (depth + 1) es ++ l.lineBreak depth ++ "\x7d"

/-- The items of a list after its first. -/
def renderItems (l : Layout) (depth : Nat) : List (Tree α) → String
  | [] => ""
  | t :: ts => "," ++ l.lineBreak depth ++ render l depth t ++ renderItems l depth ts

/-- The entries of a map after its first. -/
def renderEntries (l : Layout) (depth : Nat) : List (String × Tree α) → String
  | [] => ""
  | (k, t) :: es =>
    "," ++ l.lineBreak depth ++ quoted k ++ ":" ++ l.afterColon ++ render l depth t
      ++ renderEntries l depth es

end

/-- One line without blanks. -/
def compact (t : Tree α) : String := render .compact 0 t

/-- One item a line. -/
def pretty (t : Tree α) : String := render .pretty 0 t

end RanSlicing.Json
