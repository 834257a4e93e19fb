import Mathlib.Tactic.Ring
import RanSlicing.Proofs.Totals
import RanSlicing.Radio.Modulation
import RanSlicing.Radio.TransportBlock

/-!
# The order of block sizes

What the tables say about transport blocks in relation to each other. Every scheme selects a size index of the
table, and a better channel quality never a lower one (`Mcs.itbs_ofCqi_mono`). A block never carries less with a
higher size index (`TransportBlock.bytes_mono_itbs`) or with more resource blocks
(`TransportBlock.bytes_mono_rb`). More resource blocks may carry less for each of them, but never less than eight
ninths of what fewer carry for each (`TransportBlock.efficiency`). So a block that is sent in one piece carries
at least eight ninths of what its parts carry by themselves (`TransportBlock.total_bytes_le`), and it need not
carry more.

The table is checked in single passes, row against row and along each row, and what such a pass says about all
its entries is proved of the pass.
-/

namespace RanSlicing

/-! ## Schemes -/

namespace Mcs

/-- Every scheme has a size index in each direction, and the table of transport blocks has a row for it. -/
theorem exists_itbs (mcs : Mcs) (d : Direction) :
    ∃ itbs ≤ TransportBlock.maxItbs, (Modulation.itbsByMcs.get d)[mcs.val]? = some itbs := by
  obtain ⟨v, hv⟩ := mcs
  have hall : ∀ v ≤ Quantity.max .mcs, ∀ d ∈ Direction.all, ∃ itbs ≤ TransportBlock.maxItbs,
      (Modulation.itbsByMcs.get d)[v]? = some itbs := by decide
  exact hall v hv d (by cases d <;> decide)

theorem getElem?_itbs (mcs : Mcs) (d : Direction) :
    (Modulation.itbsByMcs.get d)[mcs.val]? = some (mcs.itbs d) := by
  obtain ⟨itbs, -, hget⟩ := mcs.exists_itbs d
  rw [Mcs.itbs, hget, Option.getD_some]

theorem itbs_le (mcs : Mcs) (d : Direction) : mcs.itbs d ≤ TransportBlock.maxItbs := by
  obtain ⟨itbs, hle, hget⟩ := mcs.exists_itbs d
  rwa [Mcs.itbs, hget, Option.getD_some]

/-- A better channel quality never selects a lower size index. -/
theorem itbs_ofCqi_mono {q q' : Cqi} (h : q.val ≤ q'.val) : (ofCqi q).itbs .dl ≤ (ofCqi q').itbs .dl := by
  have hall : ∀ i j : Fin 16, i ≤ j →
      (Modulation.mcsByCqi.get i).itbs .dl ≤ (Modulation.mcsByCqi.get j).itbs .dl := by decide
  exact hall ⟨q.val, _⟩ ⟨q'.val, _⟩ h

end Mcs

namespace TransportBlock

/-! ## Rows -/

theorem length_table : table.length = maxItbs + 1 := rfl

theorem length_of_mem_table : ∀ row ∈ table, row.length = maxRb := by decide +kernel

@[simp] theorem bytes_zero (itbs : Nat) : bytes itbs 0 = 0 := by
  rw [bytes, bits, Nat.zero_div]

theorem bits_eq {itbs : Nat} {row : List Nat} (h : table[itbs]? = some row) (n : Nat) :
    bits itbs (n + 1) = row[n]?.getD 0 := by
  rw [bits, h, Option.bind_some]

/-- A size index has a row in the table, or there is no block for it. -/
theorem row_cases (itbs : Nat) :
    (∃ row ∈ table, table[itbs]? = some row) ∨ ∀ rb, bits itbs rb = 0 := by
  cases hrow : table[itbs]? with
  | some row => exact .inl ⟨row, List.mem_of_getElem? hrow, rfl⟩
  | none =>
    refine .inr fun rb => ?_
    cases rb with
    | zero => rfl
    | succ n => rw [bits, hrow, Option.bind_none, Option.getD_none]

/-! ## Size indices -/

/-- Each row lies below the next. -/
theorem ascending_table : ∀ rows ∈ table.zip table.tail, ∀ sizes ∈ rows.1.zip rows.2, sizes.1 ≤ sizes.2 := by
  decide +kernel

theorem bits_le_succ {itbs : Nat} (h : itbs < maxItbs) (rb : Nat) : bits itbs rb ≤ bits (itbs + 1) rb := by
  cases rb with
  | zero => exact Nat.le_refl 0
  | succ n =>
    have hlt : itbs + 1 < table.length := by
      rw [length_table]
      exact Nat.succ_lt_succ h
    have hrow := List.getElem?_eq_getElem (Nat.lt_of_succ_lt hlt)
    have hnext := List.getElem?_eq_getElem hlt
    have hlength := length_of_mem_table _ (List.mem_of_getElem? hrow)
    have hlength' := length_of_mem_table _ (List.mem_of_getElem? hnext)
    rw [bits_eq hrow, bits_eq hnext]
    by_cases hn : n < maxRb
    · have hsize := List.getElem?_eq_getElem (Nat.lt_of_lt_of_eq hn hlength.symm)
      have hsize' := List.getElem?_eq_getElem (Nat.lt_of_lt_of_eq hn hlength'.symm)
      have hpair : (table[itbs], table[itbs + 1]) ∈ table.zip table.tail := by
        apply List.mem_of_getElem? (i := itbs)
        rw [List.getElem?_zip_eq_some, List.getElem?_tail]
        exact ⟨hrow, hnext⟩
      rw [hsize, hsize', Option.getD_some, Option.getD_some]
      refine ascending_table _ hpair (_, _) (List.mem_of_getElem? (i := n) ?_)
      rw [List.getElem?_zip_eq_some]
      exact ⟨hsize, hsize'⟩
    · rw [List.getElem?_eq_none (by omega)]
      exact Nat.zero_le _

/-- A higher size index never carries less. -/
theorem bytes_mono_itbs {itbs itbs' : Nat} (h : itbs ≤ itbs') (h' : itbs' ≤ maxItbs) (rb : Nat) :
    bytes itbs rb ≤ bytes itbs' rb := by
  induction h with
  | refl => exact Nat.le_refl _
  | step _ ih => exact Nat.le_trans (ih (by omega)) (Nat.div_le_div_right (bits_le_succ (by omega) rb))

/-! ## Resource blocks -/

/-- Each row goes upwards. -/
theorem isChain_table : ∀ row ∈ table, row.IsChain (· ≤ ·) := by decide +kernel

/-- More resource blocks never carry less. -/
theorem bytes_mono_rb (itbs : Nat) {m n : Nat} (hmn : m ≤ n) (hn : n ≤ maxRb) :
    bytes itbs m ≤ bytes itbs n := by
  apply Nat.div_le_div_right
  obtain ⟨row, hmem, hrow⟩ | hnone := row_cases itbs
  · have hlength := length_of_mem_table _ hmem
    cases m with
    | zero => exact Nat.zero_le _
    | succ m =>
      obtain ⟨n, rfl⟩ : ∃ k, n = k + 1 := ⟨n - 1, by omega⟩
      rw [bits_eq hrow, bits_eq hrow, List.getElem?_eq_getElem (by omega), List.getElem?_eq_getElem (by omega)]
      obtain hlt | rfl := Nat.lt_or_eq_of_le (Nat.le_of_succ_le_succ hmn)
      · exact List.pairwise_iff_getElem.mp (isChain_table _ hmem).pairwise m n _ _ hlt
      · exact Nat.le_refl _
  · rw [hnone]
    exact Nat.zero_le _

/-! ## Efficiency -/

/-- A number of resource blocks and the bytes they carry, so that what is carried for each of them is known.
The second keeps up with the first if it carries at least eight ninths as much for each. -/
def KeepsUp (p q : Nat × Nat) : Prop := 8 * (q.1 * p.2) ≤ 9 * (p.1 * q.2)

instance (p q : Nat × Nat) : Decidable (KeepsUp p q) := inferInstanceAs (Decidable (_ ≤ _))

/-- The even numbers of resource blocks from `n` on, with the bytes they carry according to a row. -/
def evenSizes (n : Nat) : List Nat → List (Nat × Nat)
  | [] => []
  | [_] => []
  | _ :: size :: rest => (n, size / 8) :: evenSizes (n + 2) rest

/-- Goes along sizes with the best one so far, and tells whether all of them keep up with it. -/
def allKeepUp (best : Nat × Nat) : List (Nat × Nat) → Bool
  | [] => true
  | p :: rest => KeepsUp best p && allKeepUp (if p.2 * best.1 ≤ best.2 * p.1 then best else p) rest

/-- Whoever keeps up with a size keeps up with any that carries no more for each resource block. -/
theorem KeepsUp.of_le {p best q : Nat × Nat} (hbest : 0 < best.1) (hle : p.2 * best.1 ≤ best.2 * p.1)
    (h : KeepsUp best q) : KeepsUp p q := by
  apply Nat.le_of_mul_le_mul_right _ hbest
  calc 8 * (q.1 * p.2) * best.1
      = 8 * q.1 * (p.2 * best.1) := by ring
    _ ≤ 8 * q.1 * (best.2 * p.1) := Nat.mul_le_mul_left _ hle
    _ = 8 * (q.1 * best.2) * p.1 := by ring
    _ ≤ 9 * (best.1 * q.2) * p.1 := Nat.mul_le_mul_right _ h
    _ = 9 * (p.1 * q.2) * best.1 := by ring

/-- If all keep up with the best one before them, then with each one before them. -/
theorem keepsUp_of_allKeepUp {sizes : List (Nat × Nat)} {best : Nat × Nat} (hbest : 0 < best.1)
    (hsizes : ∀ p ∈ sizes, 0 < p.1) (h : allKeepUp best sizes = true) :
    (∀ q ∈ sizes, KeepsUp best q) ∧ sizes.Pairwise KeepsUp := by
  induction sizes generalizing best with
  | nil => exact ⟨fun _ hq => absurd hq List.not_mem_nil, .nil⟩
  | cons p rest ih =>
    simp only [allKeepUp, Bool.and_eq_true, decide_eq_true_eq] at h
    obtain ⟨hp, hrest⟩ := h
    obtain ⟨hpos, hpositive⟩ := List.forall_mem_cons.mp hsizes
    -- the better one of `p` and `best` goes on, and the other one is compared with the rest through it
    by_cases hle : p.2 * best.1 ≤ best.2 * p.1
    · rw [if_pos hle] at hrest
      obtain ⟨hall, hpairs⟩ := ih hbest hpositive hrest
      exact ⟨List.forall_mem_cons.mpr ⟨hp, hall⟩,
        .cons (fun q hq => (hall q hq).of_le hbest hle) hpairs⟩
    · rw [if_neg hle] at hrest
      obtain ⟨hall, hpairs⟩ := ih hpos hpositive hrest
      have hle' : best.2 * p.1 ≤ p.2 * best.1 := Nat.le_of_not_le hle
      exact ⟨List.forall_mem_cons.mpr ⟨hp, fun q hq => (hall q hq).of_le hpos hle'⟩, .cons hall hpairs⟩

theorem allKeepUp_table : ∀ row ∈ table, allKeepUp (2, 0) (evenSizes 2 row) = true := by decide +kernel

theorem getElem?_evenSizes (n : Nat) (row : List Nat) (j : Nat) :
    (evenSizes n row)[j]? = (row[2 * j + 1]?).map fun size => (n + 2 * j, size / 8) := by
  induction n, row using evenSizes.induct generalizing j with
  | case1 n => rfl
  | case2 n first => simp [evenSizes]
  | case3 n first size rest ih =>
    cases j with
    | zero => rfl
    | succ j =>
      rw [evenSizes, List.getElem?_cons_succ, ih, show 2 * (j + 1) + 1 = 2 * j + 1 + 1 + 1 by omega,
        List.getElem?_cons_succ, List.getElem?_cons_succ, show n + 2 + 2 * j = n + 2 * (j + 1) by omega]

theorem evenSizes_positive {n : Nat} (hn : 0 < n) (row : List Nat) : ∀ p ∈ evenSizes n row, 0 < p.1 := by
  intro p hp
  obtain ⟨j, hj⟩ := List.mem_iff_getElem?.mp hp
  rw [getElem?_evenSizes, Option.map_eq_some_iff] at hj
  obtain ⟨size, -, rfl⟩ := hj
  exact Nat.add_pos_left hn _

/-- Every even number that the table covers has its place among the even sizes of a row. -/
theorem getElem?_evenSizes_of_even {itbs : Nat} {row : List Nat} (hrow : table[itbs]? = some row) {n : Nat}
    (heven : n % 2 = 0) (htwo : 2 ≤ n) (hmax : n ≤ maxRb) :
    (evenSizes 2 row)[n / 2 - 1]? = some (n, bytes itbs n) := by
  obtain ⟨j, rfl⟩ : ∃ j, n = 2 * j + 1 + 1 := ⟨n / 2 - 1, by omega⟩
  have hlt : 2 * j + 1 < row.length := by
    rw [length_of_mem_table _ (List.mem_of_getElem? hrow)]
    omega
  rw [show (2 * j + 1 + 1) / 2 - 1 = j by omega, getElem?_evenSizes, List.getElem?_eq_getElem hlt, bytes,
    bits_eq hrow, List.getElem?_eq_getElem hlt, Option.map_some, Option.getD_some, Nat.add_comm 2]

/-- For each of its resource blocks, an even number carries at least eight ninths of what a smaller one carries
for each. -/
theorem efficiency (itbs : Nat) {m n : Nat} (hm : m % 2 = 0) (hn : n % 2 = 0) (hmn : m ≤ n) (hmax : n ≤ maxRb) :
    8 * (n * bytes itbs m) ≤ 9 * (m * bytes itbs n) := by
  obtain rfl | hpos := Nat.eq_zero_or_pos m
  · rw [bytes_zero, Nat.mul_zero]
    exact Nat.zero_le _
  obtain ⟨row, hmem, hrow⟩ | hnone := row_cases itbs
  · obtain ⟨-, hpairs⟩ := keepsUp_of_allKeepUp (by decide) (evenSizes_positive (by decide) _)
      (allKeepUp_table _ hmem)
    obtain hlt | rfl := Nat.lt_or_eq_of_le hmn
    · obtain ⟨hi, hfirst⟩ := List.getElem?_eq_some_iff.mp
        (getElem?_evenSizes_of_even hrow hm (by omega) (by omega))
      obtain ⟨hj, hsecond⟩ := List.getElem?_eq_some_iff.mp
        (getElem?_evenSizes_of_even hrow hn (by omega) hmax)
      have hkeeps := List.pairwise_iff_getElem.mp hpairs _ _ hi hj (by omega)
      rwa [hfirst, hsecond] at hkeeps
    · omega
  · rw [bytes, hnone]
    exact Nat.zero_le _

/-! ## Parts -/

/-- Even parts carry at most nine eighths of what the block carries that is as large as all of them. -/
theorem total_bytes_le (itbs : Nat) {parts : List Nat} (heven : ∀ k ∈ parts, k % 2 = 0)
    (hmax : total parts ≤ maxRb) :
    8 * total (parts.map (bytes itbs)) ≤ 9 * bytes itbs (total parts) := by
  obtain hnone | hpos := Nat.eq_zero_or_pos (total parts)
  · have hzero : ∀ k ∈ parts, bytes itbs k ≤ 0 := fun k hk => by
      have hk' := le_total_of_mem hk
      obtain rfl : k = 0 := by omega
      rw [bytes_zero]
    have htotal := total_map_le hzero
    rw [total_map_zero] at htotal
    omega
  · -- each part is compared with its share of the block, and the shares add up to the block
    have hparts : total (parts.map fun k => 8 * (total parts * bytes itbs k)) ≤
        total (parts.map fun k => 9 * (k * bytes itbs (total parts))) :=
      total_map_le fun k hk => efficiency itbs (heven k hk) (total_even heven) (le_total_of_mem hk) hmax
    apply Nat.le_of_mul_le_mul_left _ hpos
    calc total parts * (8 * total (parts.map (bytes itbs)))
        = total (parts.map fun k => 8 * (total parts * bytes itbs k)) := by
          simp only [total_eq_sum, List.sum_map_mul_left]
          ring
      _ ≤ total (parts.map fun k => 9 * (k * bytes itbs (total parts))) := hparts
      _ = total parts * (9 * bytes itbs (total parts)) := by
          simp only [total_eq_sum, List.sum_map_mul_left, List.sum_map_mul_right, List.map_id_fun', id_eq]
          ring

end TransportBlock

end RanSlicing
