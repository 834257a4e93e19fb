import RanSlicing.Document.Tree
import RanSlicing.Document.Yaml.Source

/-!
# Writing YAML

Lists and maps are written as blocks, a list at the column of the key that it belongs to. A text is
written in the plainest style that reads back as the same text: as a block of lines if it has line
feeds, in single quotes if it would read as something else than a text, plain otherwise; and where
the style does not carry its characters, in the next one that does.
-/

namespace RanSlicing.Yaml

/-! ## Scalars -/

/-- A character that can be written as itself. -/
def isPrintable (c : Char) : Bool :=
  let n := c.toNat
  n = 0x0A ∨ (0x20 ≤ n ∧ n ≤ 0x7E) ∨ (0xA0 ≤ n ∧ n ≤ 0xD7FF)
    ∨ (0xE000 ≤ n ∧ n < 0xFFFE ∧ n ≠ 0xFEFF)

/-- A character after which a word ends. -/
def endsWord (c : Char) : Bool := isBlankOrBreak c || c.toNat = 0

/-- Whether what follows a character ends a word. -/
def followedByEnd : List Char → Bool
  | [] => true
  | c :: _ => endsWord c

/-- Whether the first character of a text could be taken for an indicator. -/
def startsLikeIndicator : List Char → Bool
  | [] => false
  | c :: r =>
    if c = '?' ∨ c = ':' ∨ c = '-' then followedByEnd r
    else ['#', ',', '[', ']', '\x7b', '\x7d', '&', '*', '!', '|', '>', '\'', '"', '%', '@',
      '\x60'].contains c

/-- Whether a later character of a text could be taken for an indicator: a colon at the end of a
word, or a number sign at the start of one. -/
def hasInnerIndicator : List Char → Bool
  | a :: b :: r =>
    (b = ':' && followedByEnd r) || (b = '#' && endsWord a) || hasInnerIndicator (b :: r)
  | _ => false

/-- Whether a text starts like a mark between documents. -/
def startsLikeMark : List Char → Bool
  | '-' :: '-' :: '-' :: _ => true
  | '.' :: '.' :: '.' :: _ => true
  | _ => false

/-- Whether a character of one class is followed by one of another. -/
def hasPair (p q : Char → Bool) : List Char → Bool
  | a :: b :: r => (p a && q b) || hasPair p q (b :: r)
  | _ => false

/-- Whether a style cannot carry a text at all: it has characters that have to be escaped, or a
space at the end of a line. -/
def needsEscapes (cs : List Char) : Bool :=
  cs.any (fun c => !isPrintable c) || hasPair (· = ' ') isBreak cs

/-- Whether a text can be written without quotes. -/
def plainAllowed (cs : List Char) : Bool :=
  !(needsEscapes cs || cs.any isBreak || cs.head? = some ' ' || cs.getLast? = some ' '
    || startsLikeMark cs || startsLikeIndicator cs || hasInnerIndicator cs)

/-- Whether a text can be written in single quotes. -/
def singleAllowed (cs : List Char) : Bool := !(needsEscapes cs || hasPair isBreak (· = ' ') cs)

/-- Whether a text can be written as a block of lines. -/
def blockAllowed (cs : List Char) : Bool :=
  !(needsEscapes cs || cs.getLast? = some ' ' || cs.isEmpty)

/-- Whether a plain word would read as something else than a text. -/
def readsAsOther (s : String) : Bool :=
  let cs := s.toList
  let bool := ["true", "True", "TRUE", "false", "False", "FALSE"].contains s
  let int := (intWord? cs).any (fun n => -Int.pow 2 127 ≤ n ∧ n < Int.pow 2 128)
  s.isEmpty || isNullWord s || bool || int || isPaddedNumber cs || (realWord? cs).isSome

private def pad (n : Nat) : List Char := List.replicate n ' '

/-- The text of a character in double quotes. -/
def escapeChar (c : Char) : List Char :=
  let n := c.toNat
  let hex (width : Nat) : List Char :=
    let ds := (Nat.toDigits 16 n).map Char.toUpper
    List.replicate (width - ds.length) '0' ++ ds
  match n with
  | 0x00 => ['\\', '0']
  | 0x07 => ['\\', 'a']
  | 0x08 => ['\\', 'b']
  | 0x09 => ['\\', 't']
  | 0x0A => ['\\', 'n']
  | 0x0B => ['\\', 'v']
  | 0x0C => ['\\', 'f']
  | 0x0D => ['\\', 'r']
  | 0x1B => ['\\', 'e']
  | 0x22 => ['\\', '"']
  | 0x5C => ['\\', '\\']
  | 0x85 => ['\\', 'N']
  | 0x2028 => ['\\', 'L']
  | 0x2029 => ['\\', 'P']
  | _ =>
    if isPrintable c then [c]
    else if n ≤ 0xFF then ['\\', 'x'] ++ hex 2
    else if n ≤ 0xFFFF then ['\\', 'u'] ++ hex 4
    else ['\\', 'U'] ++ hex 8

/-- A text in double quotes. -/
def doubleQuoted (cs : List Char) : List Char := '"' :: cs.flatMap escapeChar ++ ['"']

/-- The inside of single quotes; a line goes on at the indentation. -/
def singleInside (indent : Nat) (fresh : Bool) : List Char → List Char
  | [] => []
  | c :: r =>
    if isBreak c then c :: singleInside indent true r
    else
      (if fresh ∧ c ≠ ' ' then pad indent else []) ++ (if c = '\'' then ['\'', '\''] else [c])
        ++ singleInside indent false r

/-- The lines of a block at the indentation; empty lines are not padded. -/
def blockInside (indent : Nat) (fresh : Bool) : List Char → List Char
  | [] => []
  | c :: r =>
    if isBreak c then c :: blockInside indent true r
    else (if fresh then pad indent else []) ++ c :: blockInside indent false r

/-- The marks behind the indicator of a block: its indentation where its start does not show it,
and what becomes of the line ends behind it. -/
def blockMarks (cs : List Char) : List Char :=
  (if cs.head?.any (fun c => c = ' ' || isBreak c) then ['2'] else []) ++
    match cs.reverse with
    | [] => ['-']
    | [c] => if isBreak c then ['+'] else ['-']
    | c :: d :: _ => if !isBreak c then ['-'] else if isBreak d then ['+'] else []

/-- A text on one line. -/
def inlineText (indent : Nat) (s : String) : List Char :=
  let cs := s.toList
  if !readsAsOther s && plainAllowed cs then cs
  else if singleAllowed cs then '\'' :: singleInside indent false cs ++ ['\'']
  else doubleQuoted cs

/-- A text behind a key or an item mark, with the end of its last line. A block that ends in a line
end has it already. -/
def textLine (indent : Nat) (s : String) : List Char :=
  let cs := s.toList
  if !cs.contains '\n' then inlineText indent s ++ ['\n']
  else if blockAllowed cs then
    '|' :: blockMarks cs ++ '\n' :: blockInside indent true cs
      ++ (if cs.getLast?.any isBreak then [] else ['\n'])
  else doubleQuoted cs ++ ['\n']

variable {α : Type} [Share α]

/-- A real number. -/
def realText (x : α) : String :=
  match Share.special? x with
  | some .nan => ".nan"
  | some .infinity => ".inf"
  | some .negInfinity => "-.inf"
  | none => Share.document x

/-! ## Collections -/

/-- A place before the value of a key or an item: what a block collection there starts with, and
its column. -/
structure Place where
  /-- what stands before the first item of a list -/
  beforeList : List Char
  listColumn : Nat
  /-- what stands before the first entry of a map -/
  beforeMap : List Char
  mapColumn : Nat
  /-- indentation of the lines of a text -/
  textIndent : Nat

/-- Behind a key at a column: a collection starts on the next line. -/
def Place.behindKey (column : Nat) : Place :=
  ⟨'\n' :: pad column, column, '\n' :: pad (column + 2), column + 2, column + 2⟩

/-- Behind an item mark at a column: a collection starts on the same line. -/
def Place.behindItem (column : Nat) : Place :=
  ⟨[' '], column + 2, [' '], column + 2, column + 2⟩

mutual

/-- A value at a place, up to the end of its last line. -/
def render (p : Place) : Tree α → List Char
  | .null => " null\n".toList
  | .bool b => (if b then " true\n" else " false\n").toList
  | .int n => ' ' :: (toString n).toList ++ ['\n']
  | .real x => ' ' :: (realText x).toList ++ ['\n']
  | .text s => ' ' :: textLine p.textIndent s
  | .valueless => " null\n".toList
  | .list [] => " []\n".toList
  | .list (t :: ts) =>
    p.beforeList ++ '-' :: render (.behindItem p.listColumn) t ++ renderItems p.listColumn ts
  | .map [] => " \x7b\x7d\n".toList
  | .map ((k, t) :: es) =>
    p.beforeMap ++ inlineText p.textIndent k ++ ':' :: render (.behindKey p.mapColumn) t
      ++ renderEntries p.mapColumn es

/-- The items of a list after its first. -/
def renderItems (column : Nat) : List (Tree α) → List Char
  | [] => []
  | t :: ts =>
    pad column ++ '-' :: render (.behindItem column) t ++ renderItems column ts

/-- The entries of a map after its first. -/
def renderEntries (column : Nat) : List (String × Tree α) → List Char
  | [] => []
  | (k, t) :: es =>
    pad column ++ inlineText (column + 2) k ++ ':' :: render (.behindKey column) t
      ++ renderEntries column es

end

/-- The text of a document. -/
def write (t : Tree α) : String :=
  let root : Place := ⟨[], 0, [], 0, 2⟩
  match t with
  | .list (_ :: _) => String.ofList (render root t)
  | .map (_ :: _) => String.ofList (render root t)
  | t => String.ofList ((render root t).drop 1)

end RanSlicing.Yaml
