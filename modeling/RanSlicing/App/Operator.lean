import RanSlicing.Radio.Quantity
import RanSlicing.Decimal.Numeral

/-!
# Operator prompt

While the control loop runs, an operator types the wanted number of slices, one number a line. The
prompt is a fold over lines: a line that holds a number of slices replaces the count, and every
other line leaves it alone.
-/

namespace RanSlicing.Operator

/-- A line that is no number of slices. -/
structure NotANumber where
  line : String
  deriving DecidableEq, Repr

/-- The wording of a line that is no number. -/
def NotANumber.message (e : NotANumber) : String := "'" ++ e.line ++ "' is not a number of slices"

/-- The blanks around a number: the characters that Unicode gives the property `White_Space`. -/
def isBlank (c : Char) : Bool :=
  let n := c.toNat
  (9 ≤ n ∧ n ≤ 13) ∨ n = 0x20 ∨ n = 0x85 ∨ n = 0xA0 ∨ n = 0x1680 ∨ (0x2000 ≤ n ∧ n ≤ 0x200A)
    ∨ n = 0x2028 ∨ n = 0x2029 ∨ n = 0x202F ∨ n = 0x205F ∨ n = 0x3000

/-- Drops the blanks at both ends. -/
def trim (cs : List Char) : List Char :=
  ((cs.dropWhile isBlank).reverse.dropWhile isBlank).reverse

/-- The number on a line: an optional plus and decimal digits, at most 255. -/
def parseCount (line : List Char) : Except NotANumber Nat :=
  let text := trim line
  let digits := match text with
    | '+' :: r => r
    | r => r
  match (Numeral.natOfDigits? 10 digits).filter (· ≤ 255) with
  | some n => .ok n
  | none => .error ⟨String.ofList text⟩

/-- The count after one line. -/
def step (count : SliceCount) (line : List Char) : SliceCount :=
  match parseCount line with
  | .ok n => (Bounded.ofNat .sliceCount n).toOption.getD count
  | .error _ => count

/-- Cuts an input after each line feed; an input that ends in one has no line after it. -/
def splitLines {α : Type} (isBreak : α → Bool) : List α → List (List α)
  | [] => []
  | c :: r =>
    if isBreak c then [] :: splitLines isBreak r
    else match splitLines isBreak r with
      | [] => [[c]]
      | l :: ls => (c :: l) :: ls

/-- The characters of a line of bytes, if it is text. -/
def decodeLine? (bytes : List UInt8) : Option (List Char) :=
  (String.fromUTF8? ⟨bytes.toArray⟩).map String.toList

/-- The count after an input: its lines in order, up to the first one that is no text. -/
def run (count : SliceCount) (input : List UInt8) : SliceCount :=
  let lines := (splitLines (· = 10) input).map decodeLine?
  ((lines.takeWhile Option.isSome).filterMap id).foldl step count

end RanSlicing.Operator
