import RanSlicing.Radio.Quantity

/-!
# Buffer status

A user signals how many bytes wait in its uplink buffers by the index of a level (TS 36.321, table
6.1.3.1-1). The top two indices share one level, at which the signal saturates.
-/

namespace RanSlicing.BsrIndex

/-- The level in bytes of each index. -/
def levels : List Nat :=
  [0, 10, 12, 14, 17, 19, 22, 26, 31, 36, 42, 49, 57, 67, 78, 91, 107, 125, 146, 171, 200, 234, 274,
   321, 376, 440, 515, 603, 706, 826, 967, 1132, 1326, 1552, 1817, 2127, 2490, 2915, 3413, 3995,
   4677, 5476, 6411, 7505, 8787, 10287, 12043, 14099, 16507, 19325, 22624, 26487, 31009, 36304,
   42502, 49759, 58255, 68201, 79846, 93479, 109439, 128125, 150000, 150000]

/-- The bytes that an index signals. -/
def bytes (i : BsrIndex) : Nat := (levels[i.val]?).getD 0

/-- Every index, from the lowest level up. -/
def all : List BsrIndex :=
  List.ofFn (fun i : Fin 64 => ⟨i.val, Nat.le_of_lt_succ i.isLt⟩)

/-- The index that saturates. -/
def top : BsrIndex := ⟨63, by decide⟩

/-- The lowest index whose level covers `n` bytes, or the saturated one when no level does. -/
def covering (n : Nat) : BsrIndex := (all.find? (fun i => n ≤ bytes i)).getD top

end RanSlicing.BsrIndex
