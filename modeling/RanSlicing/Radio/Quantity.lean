/-!
# Bounded radio quantities

Channel quality, modulation index, buffer status index, slice id and slice count are all small
whole numbers with a largest value. `Bounded q` is the type of the values of the quantity `q`: the
bound is part of the value, so nothing that holds one has to check it again. The only way in from
an unchecked number is `Bounded.ofNat`, which says which bound was broken.
-/

namespace RanSlicing

/-- The sum of a list of numbers. -/
def total : List Nat → Nat
  | [] => 0
  | n :: ns => n + total ns

/-- The quantities that have a largest value. -/
inductive Quantity
  | cqi
  | mcs
  | bsrIndex
  | sliceId
  | sliceCount
  deriving DecidableEq, Repr

namespace Quantity

/-- The largest value of a quantity. -/
def max : Quantity → Nat
  | cqi => 15
  | mcs => 28
  | bsrIndex => 63
  | sliceId => 4
  | sliceCount => 4

/-- What a quantity is called in an error. -/
def name : Quantity → String
  | cqi => "CQI"
  | mcs => "MCS"
  | bsrIndex => "BSR index"
  | sliceId => "slice id"
  | sliceCount => "slice count"

end Quantity

/-- A number was given for `quantity` that is above its largest value. -/
structure OutOfRange where
  quantity : Quantity
  value : Nat
  deriving DecidableEq, Repr

/-- The wording of a broken bound: the quantity, the offending value and the largest allowed one. -/
def OutOfRange.message (e : OutOfRange) : String :=
  e.quantity.name ++ " " ++ toString e.value ++ " out of range (max "
    ++ toString e.quantity.max ++ ")"

/-- A value of the quantity `q`. -/
structure Bounded (q : Quantity) where
  val : Nat
  /-- the value respects the bound of its quantity -/
  le_max : val ≤ q.max
  deriving DecidableEq, Repr

/-- Wideband channel quality indicator. -/
abbrev Cqi := Bounded .cqi

/-- Modulation and coding scheme index. -/
abbrev Mcs := Bounded .mcs

/-- Buffer status report index. -/
abbrev BsrIndex := Bounded .bsrIndex

/-- Network slice identifier. -/
abbrev SliceId := Bounded .sliceId

/-- Number of active slices. -/
abbrev SliceCount := Bounded .sliceCount

namespace Bounded

variable {q : Quantity}

/-- Accepts exactly the numbers up to the largest value of the quantity. -/
def ofNat (q : Quantity) (n : Nat) : Except OutOfRange (Bounded q) :=
  if h : n ≤ q.max then .ok ⟨n, h⟩ else .error ⟨q, n⟩

instance : Inhabited (Bounded q) := ⟨⟨0, Nat.zero_le _⟩⟩

/-- Two values of a quantity are equal as soon as their numbers are. -/
@[ext]
theorem ext {a b : Bounded q} (h : a.val = b.val) : a = b := by
  cases a; cases b; cases h; rfl

/-- Of two values the smaller. -/
instance : Min (Bounded q) := ⟨fun a b => if a.val ≤ b.val then a else b⟩

/-- The smaller value has the smaller number. -/
theorem val_min (a b : Bounded q) : (min a b).val = min a.val b.val := by
  change (if a.val ≤ b.val then a else b).val = if a.val ≤ b.val then a.val else b.val
  split <;> rfl

theorem ofNat_of_le {n : Nat} (h : n ≤ q.max) : ofNat q n = .ok ⟨n, h⟩ := dif_pos h

theorem ofNat_of_not_le {n : Nat} (h : ¬ n ≤ q.max) : ofNat q n = .error ⟨q, n⟩ := dif_neg h

/-- A number is accepted as the value that it is. -/
theorem ofNat_eq_ok_iff {n : Nat} {a : Bounded q} : ofNat q n = .ok a ↔ a.val = n := by
  by_cases h : n ≤ q.max
  · rw [ofNat_of_le h, Except.ok.injEq, Bounded.ext_iff, eq_comm]
  · rw [ofNat_of_not_le h]
    exact iff_of_false (fun hok => nomatch hok) fun hval => h (hval ▸ a.le_max)

/-- Every bounded value is accepted again. -/
theorem ofNat_val (a : Bounded q) : ofNat q a.val = .ok a := by
  simp only [ofNat, a.le_max, dif_pos]

end Bounded

namespace SliceId

/-- Every slice slot, in id order. -/
def slots : List SliceId :=
  [⟨0, by decide⟩, ⟨1, by decide⟩, ⟨2, by decide⟩, ⟨3, by decide⟩, ⟨4, by decide⟩]

/-- The round-robin slice of the user at position `position` of its cell; with no slice configured
there is none. -/
def forUser (position : Nat) (n : SliceCount) : Option SliceId :=
  if h : n.val = 0 then none
  else some ⟨position % n.val, by
    have hlt : position % n.val < n.val := Nat.mod_lt _ (Nat.pos_of_ne_zero h)
    have hle : n.val ≤ 4 := n.le_max
    change position % n.val ≤ 4
    omega⟩

end SliceId

namespace SliceCount

/-- The slice ids that a count covers, in order. -/
def slices (n : SliceCount) : List SliceId :=
  SliceId.slots.filter (fun s => s.val < n.val)

/-- A count covers the ids below it. -/
@[simp] theorem mem_slices {n : SliceCount} {s : SliceId} : s ∈ n.slices ↔ s.val < n.val := by
  have hslots : s ∈ SliceId.slots := by
    have hs : s.val ≤ 4 := s.le_max
    simp only [SliceId.slots, List.mem_cons, Bounded.ext_iff]
    omega
  simp only [slices, List.mem_filter, hslots, true_and, decide_eq_true_eq]

/-- No id is covered twice. -/
theorem nodup_slices (n : SliceCount) : n.slices.Nodup :=
  List.Pairwise.filter _ (by decide : SliceId.slots.Nodup)

/-- A count covers as many ids as it says. -/
@[simp] theorem length_slices (n : SliceCount) : n.slices.length = n.val := by
  obtain ⟨v, hv⟩ := n
  match v, hv with
  | 0, _ | 1, _ | 2, _ | 3, _ | 4, _ => rfl
  | k + 5, hv => exact absurd (show k + 5 ≤ 4 from hv) (by omega)

/-- The covered ids ascend from the first slot without a gap. -/
theorem map_val_slices (n : SliceCount) : n.slices.map Bounded.val = List.range n.val := by
  obtain ⟨v, hv⟩ := n
  match v, hv with
  | 0, _ | 1, _ | 2, _ | 3, _ | 4, _ => rfl
  | k + 5, hv => exact absurd (show k + 5 ≤ 4 from hv) (by omega)

end SliceCount

end RanSlicing
