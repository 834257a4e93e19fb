/-!
# Shortest decimals

A floating point number is written with the fewest decimal digits that read back as it. Two steps:

* `Binary.ofFloat?` decodes a finite number into its exact value `mantissa * 2 ^ exponent`;
* `Binary.shortest` looks for the coarsest decimal grid that has a point among the reals which
  round to that value. Only the two points next to the value have to be tried on each grid, because
  those reals form an interval around it.

All arithmetic is exact, in `Nat`: the value, its rounding interval and the grid are brought to one
denominator first.
-/

namespace RanSlicing

/-- A decimal number `digits * 10 ^ exponent`. -/
structure Decimal where
  digits : Nat
  exponent : Int
  deriving DecidableEq, Repr

/-- A binary number `mantissa * 2 ^ exponent` of the double format. -/
structure Binary where
  mantissa : Nat
  exponent : Int
  /-- the gap to the next number below is half the gap to the next number above -/
  narrowBelow : Bool
  deriving DecidableEq, Repr

namespace Binary

/-- The magnitude of a finite double; infinities and not-a-number have none. -/
def ofFloat? (x : Float) : Option Binary :=
  let word := x.toBits.toNat
  let biased : Nat := word / Nat.pow 2 52 % Nat.pow 2 11
  let fraction : Nat := word % Nat.pow 2 52
  if biased = 2047 then none
  else if biased = 0 then some ⟨fraction, -1074, false⟩
  else some ⟨Nat.pow 2 52 + fraction, (biased : Int) - 1075, fraction = 0 ∧ 1 < biased⟩

end Binary

namespace Decimal

/-- Number of decimal digits of a positive number. -/
def width (n : Nat) : Nat := (Nat.toDigits 10 n).length

/-- The position `p` of the decimal point of `num / den`: the quotient lies in `[10^(p-1), 10^p)`.
Both arguments are positive. -/
def pointOf (num den : Nat) : Int :=
  if den ≤ num then width (num / den)
  else 1 - (width ((den + num - 1) / num - 1) : Int)

/-- Drops the zeros at the end of the digits; `fuel` bounds how many can be dropped. -/
def trim (fuel : Nat) (d : Decimal) : Decimal :=
  match fuel with
  | 0 => d
  | fuel + 1 =>
    if d.digits % 10 = 0 ∧ d.digits ≠ 0 then trim fuel ⟨d.digits / 10, d.exponent + 1⟩ else d

end Decimal

namespace Binary

/-- `n * 2 ^ e` over the common denominator `2 ^ shift`. -/
private def scaled (n : Nat) (e : Int) (shift : Nat) : Nat := n * Nat.pow 2 (e + shift).toNat

/-- The point of the grid `10 ^ k` next to the value that rounds to the value, if there is one. Of
two such points the nearer is taken, and of two equally near ones the even one. -/
def onGrid? (b : Binary) (k : Int) : Option Nat :=
  let shift := (2 - b.exponent).toNat
  let lift := Nat.pow 10 (-k).toNat
  let unit := Nat.pow 2 shift * Nat.pow 10 k.toNat
  let value := scaled b.mantissa b.exponent shift * lift
  let quarter := scaled 1 (b.exponent - 2) shift * lift
  let low := value - (if b.narrowBelow then quarter else 2 * quarter)
  let high := value + 2 * quarter
  let inside (n : Nat) : Bool :=
    if b.mantissa % 2 = 0 then low ≤ n * unit ∧ n * unit ≤ high
    else low < n * unit ∧ n * unit < high
  let below := value / unit
  let above := below + 1
  match inside below, inside above with
  | true, true =>
    let down := value - below * unit
    let up := above * unit - value
    some (if down < up then below else if up < down then above
      else if below % 2 = 0 then below else above)
  | true, false => some below
  | false, true => some above
  | false, false => none

/-- The shortest decimal that reads back as a positive double. Seventeen digits always suffice, so
the search over grids ends with a hit; the trailing alternative is never taken. -/
def shortest (b : Binary) : Decimal :=
  let num := b.mantissa * Nat.pow 2 b.exponent.toNat
  let den := Nat.pow 2 (-b.exponent).toNat
  let point := Decimal.pointOf num den
  let tries := (List.range 17).map (fun (i : Nat) => point - 1 - (i : Int))
  let hit? := tries.findSome? (fun k => (b.onGrid? k).map (fun n => Decimal.mk n k))
  (hit?.getD ⟨num, 0⟩).trim 32

end Binary

end RanSlicing
