import RanSlicing.Decimal.Text

/-!
# Shares

A share is the fraction of a cell's resource blocks that one slice owns. Allocation and policy are
written over any type of shares with the arithmetic of `Share`: the running program uses doubles,
and exact statements about it use rational numbers.

The two texts of a share are its own business, because only the type of shares knows its digits:
`document` is its spelling inside a policy document and `message` the one inside an error.
-/

namespace RanSlicing

/-- A type of shares. -/
class Share (α : Type) extends Zero α, One α, Add α, Sub α, Div α, LE α, LT α, BEq α where
  /-- a whole number -/
  ofInt : Int → α
  /-- the smallest share given to a slice with any demand -/
  floor : α
  decidableLE : DecidableLE α
  decidableLT : DecidableLT α
  /-- the special value of a share that has no digits -/
  special? : α → Option Special
  /-- the digits of a share in a document -/
  document : α → String
  /-- a share in a message -/
  message : α → String

namespace Share

variable {α : Type} [Share α]

instance (x y : α) : Decidable (x ≤ y) := decidableLE x y

instance (x y : α) : Decidable (x < y) := decidableLT x y

/-- A whole number of parts. -/
def ofNat (n : Nat) : α := ofInt (n : Int)

/-- A share of a policy lies between nothing and the whole cell; a share that is not a number lies
nowhere. -/
def Valid (x : α) : Prop := 0 ≤ x ∧ x ≤ 1

instance (x : α) : Decidable (Valid x) := inferInstanceAs (Decidable (_ ∧ _))

/-- The sum of a list of shares, from the left. -/
def sum (xs : List α) : α := xs.foldl (· + ·) 0

/-- Doubles: what the program computes with. -/
instance : Share Float where
  one := 1.0
  ofInt := Float.ofInt
  floor := 0.1
  decidableLE := inferInstance
  decidableLT := inferInstance
  special? := Special.ofFloat?
  document := Decimal.ofFinite .document
  message := Decimal.message

/-- Rational numbers: shares without rounding. -/
instance : Share Rat where
  zero := 0
  one := 1
  ofInt := fun n => n
  floor := 1 / 10
  decidableLE := inferInstance
  decidableLT := inferInstance
  special? := fun _ => none
  document := fun x => toString x.num ++ "/" ++ toString x.den
  message := fun x => toString x.num ++ "/" ++ toString x.den

/-- Two doubles are the same share when they differ by at most a billionth. -/
def close (a b : Float) : Bool := (a - b).abs ≤ 1e-9

end Share

end RanSlicing
