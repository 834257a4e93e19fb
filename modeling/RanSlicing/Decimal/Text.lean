import RanSlicing.Decimal.Shortest

/-!
# Decimal text

How the shortest digits of a number are laid out. What differs between one use and another is kept
in a `Style`: which numbers are written positionally, and whether a whole number keeps a fraction.
-/

namespace RanSlicing

/-- The numbers that no digits describe. -/
inductive Special
  | nan
  | infinity
  | negInfinity
  deriving DecidableEq, Repr

/-- The special value of a double, if it is one. -/
def Special.ofFloat? (x : Float) : Option Special :=
  if x.isNaN then some .nan
  else if x.isInf then some (if x < 0 then .negInfinity else .infinity)
  else none

namespace Decimal

/-- A choice of layout. -/
structure Style where
  /-- which positions of the decimal point are written without an exponent -/
  positional : Int → Bool
  /-- a whole number is written with a fraction of zero -/
  wholeFraction : Bool

/-- Documents: the point may stand up to four zeros before the digits and up to sixteen digits
after their start; a number is always marked as one with a fraction. -/
def Style.document : Style := ⟨fun p => -5 < p ∧ p ≤ 16, true⟩

/-- Messages: never an exponent, and no fraction where there is none. -/
def Style.message : Style := ⟨fun _ => true, false⟩

private def zeros (n : Nat) : String := String.ofList (List.replicate n '0')

/-- Digits with the point at position `p`, counted from their start. -/
def positional (style : Style) (ds : List Char) (p : Int) : String :=
  if p ≤ 0 then "0." ++ zeros (-p).toNat ++ String.ofList ds
  else if ds.length ≤ p.toNat then
    String.ofList ds ++ zeros (p.toNat - ds.length) ++ (if style.wholeFraction then ".0" else "")
  else String.ofList (ds.take p.toNat) ++ "." ++ String.ofList (ds.drop p.toNat)

/-- Digits with the point after the first one and an exponent. -/
def scientific (ds : List Char) (p : Int) : String :=
  let head := String.ofList (ds.take 1)
  let tail := ds.drop 1
  (if tail.isEmpty then head else head ++ "." ++ String.ofList tail) ++ "e" ++ toString (p - 1)

/-- The text of a decimal. -/
def text (style : Style) (d : Decimal) : String :=
  if d.digits = 0 then (if style.wholeFraction then "0.0" else "0")
  else
    let ds := Nat.toDigits 10 d.digits
    let p := (ds.length : Int) + d.exponent
    if style.positional p then positional style ds p else scientific ds p

/-- The text of a finite double in a style: its sign and its shortest digits. -/
def ofFinite (style : Style) (x : Float) : String :=
  let sign := if x.toBits.toNat / Nat.pow 2 63 = 1 then "-" else ""
  sign ++ text style (match Binary.ofFloat? x with
    | some b => if b.mantissa = 0 then ⟨0, 0⟩ else b.shortest
    | none => ⟨0, 0⟩)

/-- The text of a double in a message. -/
def message (x : Float) : String :=
  match Special.ofFloat? x with
  | some .nan => "NaN"
  | some .infinity => "inf"
  | some .negInfinity => "-inf"
  | none => ofFinite .message x

end Decimal

end RanSlicing
