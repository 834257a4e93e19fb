/-!
# Lower case

The lower case of letters, for names that may be written in any case. Latin with its extensions,
Greek, Cyrillic, Armenian and the full-width letters have one; a letter whose lower case is more than
one character stays as it is.
-/

namespace RanSlicing

/-- Ranges of capital letters with the distance to their small ones. -/
def capitalRanges : List (Nat × Nat × Nat) :=
  [(0x41, 0x5A, 32), (0xC0, 0xD6, 32), (0xD8, 0xDE, 32), (0x388, 0x38A, 37), (0x391, 0x3A1, 32),
    (0x3A3, 0x3AB, 32), (0x400, 0x40F, 80), (0x410, 0x42F, 32), (0x531, 0x556, 48),
    (0x386, 0x386, 38), (0x38C, 0x38C, 64), (0x38E, 0x38F, 63), (0xFF21, 0xFF3A, 32)]

/-- Ranges in which a capital letter at an even number is followed by its small one. -/
def evenCapitals : List (Nat × Nat) :=
  [(0x100, 0x12F), (0x132, 0x137), (0x14A, 0x177), (0x370, 0x373), (0x3D8, 0x3EF), (0x460, 0x481),
    (0x48A, 0x4BF), (0x4D0, 0x52F), (0x1E00, 0x1E95), (0x1EA0, 0x1EFF)]

/-- Ranges in which a capital letter at an odd number is followed by its small one. -/
def oddCapitals : List (Nat × Nat) := [(0x139, 0x148), (0x179, 0x17E), (0x4C1, 0x4CE)]

/-- The lower case of a letter; any other character stays as it is. -/
def lowerChar (c : Char) : Char :=
  let n := c.toNat
  let inside (ranges : List (Nat × Nat)) : Bool := ranges.any (fun r => r.1 ≤ n ∧ n ≤ r.2)
  match capitalRanges.find? (fun r => r.1 ≤ n ∧ n ≤ r.2.1) with
  | some r => Char.ofNat (n + r.2.2)
  | none =>
    if n = 0x178 then Char.ofNat 0xFF
    else if (n % 2 = 0 ∧ inside evenCapitals) ∨ (n % 2 = 1 ∧ inside oddCapitals) then
      Char.ofNat (n + 1)
    else c

/-- A text in lower case. -/
def lowercase (s : String) : String := s.map lowerChar

end RanSlicing
