import RanSlicing.Document.Tree
import RanSlicing.Decimal.Numeral

/-!
# JSON tokens

The lexical grammar of JSON. `Token.scan` splits a text into punctuation, strings and other leaves.

Two kinds of leaves can be spelled correctly and still have no value: a string with half of a
surrogate pair, and a number too large for a double. Such a leaf is a fault only for who reads it,
so it is kept as a leaf without a value.

Numbers with a fraction or an exponent are rounded in two steps: a significand of at most 64 bits,
the digits beyond it dropped, is scaled by one power of ten.
-/

namespace RanSlicing.Json

/-- A lexical unit. -/
inductive Token
  | openList
  | closeList
  | openMap
  | closeMap
  | comma
  | colon
  /-- a string, or a string without a value -/
  | string (s : Option String)
  /-- any other leaf -/
  | leaf (t : Tree Float)

/-! ## Numbers -/

/-- The largest significand that is kept. -/
def maxSignificand : Nat := UInt64.size - 1

/-- A number as far as it is kept: digits and a power of ten. -/
structure Scaled where
  significand : Nat
  exponent : Int

namespace Scaled

/-- Takes in one more digit; `none` when it would not fit the significand. -/
def push? (s : Scaled) (c : Char) : Option Scaled :=
  let n := s.significand * 10 + (c.toNat - 48)
  if n ≤ maxSignificand then some { s with significand := n } else none

/-- The digits before the point. A digit that does not fit, and every one after it, only moves the
point. -/
def whole (s : Scaled) : List Char → Scaled
  | [] => s
  | c :: r =>
    match s.push? c with
    | some s' => whole s' r
    | none => { s with exponent := s.exponent + (c :: r).length }

/-- The digits after the point. A digit that does not fit is dropped with every one after it. -/
def fraction (s : Scaled) : List Char → Scaled
  | [] => s
  | c :: r =>
    match s.push? c with
    | some s' => fraction { s' with exponent := s'.exponent - 1 } r
    | none => s

/-- Powers of ten that a double holds one at a time. -/
private def power (e : Nat) : Float := Float.ofScientific 1 false e

/-- Scales down by at most 308 places at a time. -/
private def shrink (fuel : Nat) (x : Float) (places : Nat) : Float :=
  match fuel with
  | 0 => x
  | fuel + 1 =>
    if places ≤ 308 then x / power places
    else if x == 0.0 then x
    else shrink fuel (x / power 308) (places - 308)

/-- The magnitude of a scaled number, unless it is too large. A number that is scaled down by more
than four times the range of a double is zero. -/
def toFloat? (s : Scaled) : Option Float :=
  let x := Float.ofNat s.significand
  if 0 ≤ s.exponent then
    if s.significand = 0 then some x
    else if 308 < s.exponent then none
    else
      let y := x * power s.exponent.toNat
      if y.isInf then none else some y
  else some (shrink 5 x (-s.exponent).toNat)

end Scaled

/-- The value of a number token in its parts. Without fraction and exponent it is whole, as long as
it fits 64 bits and is not a negative zero. -/
def number (negative : Bool) (wholeDigits : List Char) (fractionDigits : Option (List Char))
    (exponent : Option Int) : Tree Float :=
  let w := Scaled.whole ⟨0, 0⟩ wholeDigits
  let approximate (s : Scaled) : Tree Float :=
    match s.toFloat? with
    | some x => .real (if negative then -x else x)
    | none => .valueless
  match fractionDigits, exponent with
  | none, none =>
    if w.exponent ≠ 0 then approximate w
    else if negative then
      if 0 < w.significand ∧ w.significand ≤ UInt64.size / 2 then .int (-w.significand)
      else approximate w
    else .int w.significand
  | fractionDigits, exponent =>
    let f := w.fraction (fractionDigits.getD [])
    approximate { f with exponent := f.exponent + exponent.getD 0 }

/-- The fraction of a number: nothing, or a point and at least one digit. -/
private def fractionPart? : List Char → Option (Option (List Char) × List Char)
  | '.' :: r =>
    let (ds, r) := Numeral.spanDigits r
    if ds.isEmpty then none else some (some ds, r)
  | r => some (none, r)

/-- The exponent of a number: nothing, or a mark, an optional sign and at least one digit. -/
private def exponentPart? : List Char → Option (Option Int × List Char)
  | [] => some (none, [])
  | c :: r =>
    if c = 'e' ∨ c = 'E' then
      let (negative, r) := Numeral.sign r
      let (ds, r) := Numeral.spanDigits r
      (Numeral.natOfDigits? 10 ds).map (fun n => (some (if negative then -(n : Int) else n), r))
    else some (none, c :: r)

/-- A number at the start of a text. A leading zero stands alone before the point. -/
def number? (cs : List Char) : Option (Tree Float × List Char) := do
  let (negative, r) := match cs with
    | '-' :: r => (true, r)
    | r => (false, r)
  let (whole, r) := Numeral.spanDigits r
  if whole.isEmpty ∨ (whole.length > 1 ∧ whole.head? = some '0') then none
  else
    let (f, r) ← fractionPart? r
    let (e, r) ← exponentPart? r
    some (number negative whole f e, r)

/-! ## Strings -/

/-- Four hexadecimal digits. -/
private def hex4? : List Char → Option (Nat × List Char)
  | a :: b :: c :: d :: r => (Numeral.natOfDigits? 16 [a, b, c, d]).map (fun n => (n, r))
  | _ => none

/-- A character escaped by one letter. -/
def escaped? : Char → Option Char
  | '"' => some '"'
  | '\\' => some '\\'
  | '/' => some '/'
  | 'b' => some (Char.ofNat 8)
  | 'f' => some (Char.ofNat 12)
  | 'n' => some '\n'
  | 'r' => some '\r'
  | 't' => some '\t'
  | _ => none

/-- The rest of a string whose opening quote has been read. `acc` holds its characters so far, in
reverse, and `sound` says whether all of them had a value. -/
def string? (fuel : Nat) (acc : List Char) (sound : Bool) (cs : List Char) :
    Option (Option String × List Char) :=
  match fuel, cs with
  | 0, _ => none
  | _, [] => none
  | _ + 1, '"' :: r => some (if sound then some (String.ofList acc.reverse) else none, r)
  | fuel + 1, '\\' :: 'u' :: r =>
    match hex4? r with
    | none => none
    | some (n, r) =>
      if n < 0xD800 ∨ 0xDFFF < n then string? fuel (Char.ofNat n :: acc) sound r
      else
        match r with
        | '\\' :: 'u' :: r' =>
          match hex4? r' with
          | some (m, r'') =>
            if n ≤ 0xDBFF ∧ 0xDC00 ≤ m ∧ m ≤ 0xDFFF then
              let c := Char.ofNat (0x10000 + (n - 0xD800) * 0x400 + (m - 0xDC00))
              string? fuel (c :: acc) sound r''
            else string? fuel acc false r
          | none => none
        | _ => string? fuel acc false r
  | fuel + 1, '\\' :: c :: r =>
    match escaped? c with
    | some c => string? fuel (c :: acc) sound r
    | none => none
  | fuel + 1, c :: r => if c.toNat < 0x20 then none else string? fuel (c :: acc) sound r

/-! ## The whole text -/

/-- The token at the start of a text that starts with no blank. -/
def token? (cs : List Char) : Option (Token × List Char) :=
  match cs with
  | '[' :: r => some (.openList, r)
  | ']' :: r => some (.closeList, r)
  | '\x7b' :: r => some (.openMap, r)
  | '\x7d' :: r => some (.closeMap, r)
  | ',' :: r => some (.comma, r)
  | ':' :: r => some (.colon, r)
  | '"' :: r => (string? (r.length + 1) [] true r).map (fun (s, r) => (.string s, r))
  | 'n' :: 'u' :: 'l' :: 'l' :: r => some (.leaf .null, r)
  | 't' :: 'r' :: 'u' :: 'e' :: r => some (.leaf (.bool true), r)
  | 'f' :: 'a' :: 'l' :: 's' :: 'e' :: r => some (.leaf (.bool false), r)
  | cs => (number? cs).map (fun (t, r) => (.leaf t, r))

/-- The blanks of JSON. -/
def isBlank (c : Char) : Bool := c = ' ' ∨ c = '\n' ∨ c = '\t' ∨ c = '\r'

/-- The tokens of a text, each of which takes at least one character. -/
def Token.scan (fuel : Nat) (acc : List Token) (cs : List Char) : Option (List Token) :=
  match fuel, cs.dropWhile isBlank with
  | _, [] => some acc.reverse
  | 0, _ => none
  | fuel + 1, cs =>
    match token? cs with
    | none => none
    | some (t, r) => Token.scan fuel (t :: acc) r

end RanSlicing.Json
