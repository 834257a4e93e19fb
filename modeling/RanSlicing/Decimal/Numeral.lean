/-!
# Numerals

Reading numbers from text, over lists of characters. `natOfDigits?` reads digits of any radix;
`float?` reads the usual spellings of a floating point number and rounds to the nearest double.
-/

namespace RanSlicing.Numeral

/-- The value of a digit in a radix up to 36, of either case. -/
def digit? (radix : Nat) (c : Char) : Option Nat :=
  let n := c.toNat
  let v? :=
    if '0' ≤ c ∧ c ≤ '9' then some (n - 48)
    else if 'a' ≤ c ∧ c ≤ 'z' then some (n - 87)
    else if 'A' ≤ c ∧ c ≤ 'Z' then some (n - 55)
    else none
  v?.filter (fun v => v < radix)

/-- The number that a non-empty list of digits denotes. -/
def natOfDigits? (radix : Nat) (cs : List Char) : Option Nat :=
  if cs.isEmpty then none
  else cs.foldlM (fun acc c => (digit? radix c).map (fun d => acc * radix + d)) 0

/-- Splits off the longest run of decimal digits. -/
def spanDigits (cs : List Char) : List Char × List Char := cs.span Char.isDigit

/-- An optional sign and the rest; `true` for a minus. -/
def sign : List Char → Bool × List Char
  | '-' :: r => (true, r)
  | '+' :: r => (false, r)
  | r => (false, r)

/-- A decimal fraction with an exponent, split into its parts. -/
structure Parts where
  whole : List Char
  fraction : List Char
  exponent : Int
  deriving Repr

/-- An exponent mark with its digits, or nothing at all. -/
def exponent? : List Char → Option Int
  | [] => some 0
  | c :: r =>
    if c = 'e' ∨ c = 'E' then
      let (negative, ds) := sign r
      (natOfDigits? 10 ds).map (fun n => if negative then -(n : Int) else n)
    else none

/-- Digits with an optional point and an optional exponent; at least one digit stands beside the
point. -/
def parts? (cs : List Char) : Option Parts :=
  let (whole, r) := spanDigits cs
  let (fraction, r) := match r with
    | '.' :: r => spanDigits r
    | r => ([], r)
  if whole.isEmpty ∧ fraction.isEmpty then none
  else (exponent? r).map (fun e => ⟨whole, fraction, e⟩)

/-- The double nearest to `n * 10 ^ e`. Exponents far outside the range of the format are decided
before any power is computed. -/
def nearest (n : Nat) (e : Int) : Float :=
  let top := ((Nat.toDigits 10 n).length : Int) + e
  if n = 0 ∨ top < -400 then 0.0
  else if 400 < top then 1.0 / 0.0
  else if e < 0 then Float.ofScientific n true e.natAbs
  else Float.ofScientific n false e.natAbs

/-- The double nearest to a fraction. -/
def Parts.toFloat (p : Parts) : Float :=
  let n := (natOfDigits? 10 (p.whole ++ p.fraction)).getD 0
  nearest n (p.exponent - p.fraction.length)

private def lower (cs : List Char) : List Char := cs.map Char.toLower

/-- A finite double without a sign. -/
def magnitude? (cs : List Char) : Option Float := (parts? cs).map Parts.toFloat

/-- A double: a fraction, `inf`, `infinity` or `nan` in any case, after an optional sign. -/
def float? (cs : List Char) : Option Float :=
  let (negative, r) := sign cs
  let value? :=
    if lower r = ['i', 'n', 'f'] ∨ lower r = ['i', 'n', 'f', 'i', 'n', 'i', 't', 'y'] then
      some (1.0 / 0.0)
    else if lower r = ['n', 'a', 'n'] then some (0.0 / 0.0)
    else magnitude? r
  value?.map (fun x => if negative then -x else x)

end RanSlicing.Numeral
