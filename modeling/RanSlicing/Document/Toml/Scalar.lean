import RanSlicing.Document.Toml.Text
import RanSlicing.Document.Tree

/-!
# TOML scalars

Numbers, truth values and times are words without quotes. A word is cut out of the text first and
then read as a whole. Whole numbers fit 64 bits with a sign. A time has no type of its own in a tree:
it is the text of its normal form.
-/

namespace RanSlicing.Toml

/-- A character of a word without quotes. -/
def isScalar (c : Char) : Bool := isWord c ∨ c = '+' ∨ c = '.' ∨ c = ':'

/-- Digits with single underscores between them, without the underscores. -/
def ungroup? (isDigit : Char → Bool) : List Char → Option (List Char)
  | [] => none
  | [c] => if isDigit c then some [c] else none
  | c :: '_' :: r => if isDigit c then (ungroup? isDigit r).map (c :: ·) else none
  | c :: r => if isDigit c then (ungroup? isDigit r).map (c :: ·) else none

/-- Decimal digits of a number; only zero itself starts with a zero. -/
def decimal? (cs : List Char) : Option (List Char) :=
  (ungroup? Char.isDigit cs).filter (fun ds => ds.length = 1 ∨ ds.head? ≠ some '0')

/-- Whether a number fits 64 bits with a sign. -/
def fits (n : Int) : Bool := Int64.minValue.toInt ≤ n ∧ n ≤ Int64.maxValue.toInt

/-- A whole number. Only decimal ones have a sign. -/
def integer? (cs : List Char) : Option Int :=
  let radix? (radix : Nat) (ds : List Char) : Option Int :=
    ((ungroup? (fun c => (Numeral.digit? radix c).isSome) ds).bind
      (Numeral.natOfDigits? radix)).map (fun n => (n : Int))
  let value? := match cs with
    | '0' :: 'x' :: r => radix? 16 r
    | '0' :: 'o' :: r => radix? 8 r
    | '0' :: 'b' :: r => radix? 2 r
    | cs =>
      let (negative, r) := Numeral.sign cs
      ((decimal? r).bind (Numeral.natOfDigits? 10)).map
        (fun n => if negative then -(n : Int) else n)
  value?.filter fits

/-- An exponent with its mark, without underscores. -/
def exponent? : List Char → Option (List Char)
  | [] => some []
  | c :: r =>
    if c = 'e' ∨ c = 'E' then
      let (negative, ds) := Numeral.sign r
      (ungroup? Char.isDigit ds).map (fun ds => 'e' :: (if negative then '-' :: ds else ds))
    else none

/-- The part of a real number behind its whole part. -/
def tail? : List Char → Option (List Char)
  | '.' :: r =>
    let fraction := r.takeWhile (fun c => c.isDigit || c = '_')
    match ungroup? Char.isDigit fraction, exponent? (r.drop fraction.length) with
    | some ds, some e => some ('.' :: ds ++ e)
    | _, _ => none
  | [] => none
  | r => exponent? r

/-- A real number. A positive one has to be finite unless it is spelled as infinite. -/
def real? (cs : List Char) : Option Float :=
  let (negative, r) := Numeral.sign cs
  let signed (x : Float) : Float := if negative then -x else x
  if r = ['i', 'n', 'f'] then some (signed (1.0 / 0.0))
  else if r = ['n', 'a', 'n'] then some (0.0 / 0.0)
  else
    let whole := r.takeWhile (fun c => c.isDigit || c = '_')
    match decimal? whole, tail? (r.drop whole.length) with
    | some ds, some t =>
      ((Numeral.float? (ds ++ t)).map signed).filter (fun x => !(x == 1.0 / 0.0))
    | _, _ => none

/-! ## Times -/

/-- A number of exactly so many digits, and the rest. -/
def digits? (width : Nat) (cs : List Char) : Option (Nat × List Char) :=
  let ds := cs.take width
  if ds.length = width ∧ ds.all Char.isDigit then
    (Numeral.natOfDigits? 10 ds).map (fun n => (n, cs.drop width))
  else none

/-- What follows a character. -/
def after? (c : Char) : List Char → Option (List Char)
  | d :: r => if d = c then some r else none
  | [] => none

/-- The text of a number with two digits. -/
def two (n : Nat) : String := if n < 10 then "0" ++ toString n else toString n

/-- Length of a month. -/
def monthLength (year month : Nat) : Nat :=
  let leap := year % 4 = 0 ∧ (year % 100 ≠ 0 ∨ year % 400 = 0)
  if month = 2 then (if leap then 29 else 28)
  else if month = 4 ∨ month = 6 ∨ month = 9 ∨ month = 11 then 30
  else 31

/-- A date, and the rest. -/
def date? (cs : List Char) : Option (String × List Char) := do
  let (year, r) ← digits? 4 cs
  let (month, r) ← digits? 2 (← after? '-' r)
  let (day, r) ← digits? 2 (← after? '-' r)
  if 1 ≤ month ∧ month ≤ 12 ∧ 1 ≤ day ∧ day ≤ monthLength year month then
    some (String.ofList (cs.take 10), r)
  else none

/-- The fraction of a second: nine digits count, and zeros at the end are dropped. -/
def secondFraction? : List Char → Option (String × List Char)
  | '.' :: r =>
    let ds := r.takeWhile Char.isDigit
    let kept := ((ds.take 9).reverse.dropWhile (· = '0')).reverse
    if ds.isEmpty then none
    else some (if kept.isEmpty then "" else "." ++ String.ofList kept, r.drop ds.length)
  | r => some ("", r)

/-- A time of day, and the rest. -/
def clock? (cs : List Char) : Option (String × List Char) := do
  let (hour, r) ← digits? 2 cs
  let (minute, r) ← digits? 2 (← after? ':' r)
  let (second, r) ← digits? 2 (← after? ':' r)
  let (fraction, r) ← secondFraction? r
  if hour ≤ 23 ∧ minute ≤ 59 ∧ second ≤ 60 then
    some (two hour ++ ":" ++ two minute ++ ":" ++ two second ++ fraction, r)
  else none

/-- The distance from universal time, if there is one. -/
def offset? (cs : List Char) : Option String :=
  match cs with
  | [] => some ""
  | c :: r =>
    if c = 'Z' ∨ c = 'z' then (if r.isEmpty then some "Z" else none)
    else if c = '+' ∨ c = '-' then do
      let (hour, r) ← digits? 2 r
      let (minute, r) ← digits? 2 (← after? ':' r)
      let west := c = '-' ∧ ¬(hour = 0 ∧ minute = 0)
      if hour ≤ 23 ∧ minute ≤ 59 ∧ r.isEmpty then
        some ((if west then "-" else "+") ++ two hour ++ ":" ++ two minute)
      else none
    else none

/-- A date, a time of day, or both with an optional distance from universal time. -/
def time? (cs : List Char) : Option String :=
  match date? cs with
  | some (date, []) => some date
  | some (date, c :: r) =>
    if c = 'T' ∨ c = 't' ∨ c = ' ' then do
      let (clock, r) ← clock? r
      let offset ← offset? r
      some (date ++ "T" ++ clock ++ offset)
    else none
  | none =>
    match clock? cs with
    | some (clock, []) => some clock
    | _ => none

/-- The word at the start of a text. A date and a time of day with a space between them are one
word. -/
def word (cs : List Char) : List Char :=
  let w := cs.takeWhile isScalar
  match (date? w).map Prod.snd, cs.drop w.length with
  | some [], ' ' :: c :: r => if c.isDigit then w ++ ' ' :: (c :: r).takeWhile isScalar else w
  | _, _ => w

/-- The value of a word. -/
def scalar? (cs : List Char) : Option (Tree Float) :=
  if cs = ['t', 'r', 'u', 'e'] then some (.bool true)
  else if cs = ['f', 'a', 'l', 's', 'e'] then some (.bool false)
  else
    ((integer? cs).map Tree.int).or (((real? cs).map Tree.real).or ((time? cs).map Tree.text))

end RanSlicing.Toml
