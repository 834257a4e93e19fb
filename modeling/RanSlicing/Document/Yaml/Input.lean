/-!
# YAML characters

The classes of characters that the grammar of YAML tells apart, and the place in a text that a
reader has come to. Line and column matter to the grammar: indentation is structure.
-/

namespace RanSlicing.Yaml

/-- Ends a line: line feed, carriage return, next line, line or paragraph separator. -/
def isBreak (c : Char) : Bool :=
  c = '\n' ∨ c = '\r' ∨ c.toNat = 0x85 ∨ c.toNat = 0x2028 ∨ c.toNat = 0x2029

/-- Separates words on a line. -/
def isBlank (c : Char) : Bool := c = ' ' ∨ c = '\t'

/-- A blank or the end of a line. -/
def isBlankOrBreak (c : Char) : Bool := isBlank c || isBreak c

/-- A character of names: anchors, handles and directives are made of them. -/
def isWord (c : Char) : Bool := c.isAlphanum || c = '_' || c = '-'

/-- A character that may occur in a document at all. -/
def isAllowed (c : Char) : Bool :=
  let n := c.toNat
  n = 0x09 ∨ n = 0x0A ∨ n = 0x0D ∨ (0x20 ≤ n ∧ n ≤ 0x7E) ∨ n = 0x85 ∨ (0xA0 ≤ n ∧ n ≤ 0xD7FF)
    ∨ (0xE000 ≤ n ∧ n ≤ 0xFFFD) ∨ 0x10000 ≤ n

/-- The rest of a line, if any, is blank at its start. -/
def startsBlank : List Char → Bool
  | [] => true
  | c :: _ => isBlankOrBreak c

/-- The place in a text that has been reached, and what is left of the text. -/
structure Input where
  rest : List Char
  /-- characters read so far -/
  index : Nat
  /-- lines read so far -/
  line : Nat
  /-- characters read on this line -/
  column : Nat

namespace Input

/-- The start of a text. -/
def start (cs : List Char) : Input := ⟨cs, 0, 0, 0⟩

/-- Passes over characters of one line. -/
def skip (i : Input) (n : Nat) : Input := ⟨i.rest.drop n, i.index + n, i.line, i.column + n⟩

/-- Passes over the end of a line; a carriage return and a line feed together are one. -/
def skipBreak (i : Input) : Input :=
  let n := match i.rest with
    | '\r' :: '\n' :: _ => 2
    | _ => 1
  ⟨i.rest.drop n, i.index + n, i.line + 1, 0⟩

/-- What the end of a line contributes to a text: a line feed, except for the two separators. -/
def breakText (i : Input) : List Char :=
  match i.rest with
  | [] => []
  | c :: _ => if c.toNat = 0x2028 ∨ c.toNat = 0x2029 then [c] else ['\n']

/-- Whether the text goes on with a character of a class. -/
def at? (i : Input) (p : Char → Bool) : Bool := i.rest.head?.any p

/-- Length of the run of characters of a class. -/
def run (i : Input) (p : Char → Bool) : Nat := (i.rest.takeWhile p).length

/-- Passes over the run of characters of a class. -/
def skipRun (i : Input) (p : Char → Bool) : Input := i.skip (i.run p)

/-- Passes over the blanks of a line and a comment. -/
def skipComment (i : Input) : Input :=
  if i.at? (· = '#') then i.skipRun (fun c => !isBreak c) else i

/-- Whether a line starts here with a mark between documents. -/
def atDocumentMark (i : Input) : Bool :=
  i.column = 0 &&
    match i.rest with
    | '-' :: '-' :: '-' :: r => startsBlank r
    | '.' :: '.' :: '.' :: r => startsBlank r
    | _ => false

end Input

end RanSlicing.Yaml
