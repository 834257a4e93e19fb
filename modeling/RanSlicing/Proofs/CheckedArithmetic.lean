import RanSlicing.Allocation
import RanSlicing.Proofs.BlockSizes
import RanSlicing.Proofs.HandOut
import RanSlicing.Proofs.SliceDemand

/-!
# Checked arithmetic

A cycle calculates with 32-bit numbers without a sign, and looks up in tables. The definitions that it runs
take no notice: below zero a difference is zero, outside a table there is a zero, and a sum is as large as it
may be. `Checked` goes through the same calculation in single steps, and each step that a machine cannot carry
out is a fault: a difference below zero, a sum beyond 32 bits, an index outside its table, a loop that does not
come to its end.

No step is ever a fault, and the results are those of the running definitions (`Checked.cycle_eq_ok`). What
carries this is the budget. It starts within the table of transport blocks, nobody is granted more than is left
of it, and so the numbers of blocks that are subtracted, added up and looked up all stay below it.
-/

namespace RanSlicing.Checked

/-! ## Steps -/

/-- A step that cannot be carried out. -/
inductive Fault
  /-- a difference below zero -/
  | underflow (minuend subtrahend : Nat)
  /-- a sum that does not fit into 32 bits -/
  | overflow (sum : Nat)
  /-- a transport block outside the table -/
  | block (outside : TransportBlock.OutsideTable)
  /-- an index outside a list -/
  | index (position : Nat)
  /-- a loop that has used up its turns -/
  | endless
  deriving DecidableEq, Repr

def sub (a b : Nat) : Except Fault Nat := if b ≤ a then .ok (a - b) else .error (.underflow a b)

def add (a b : Nat) : Except Fault Nat := if a + b < 2 ^ 32 then .ok (a + b) else .error (.overflow (a + b))

def lookup {β : Type} (xs : List β) (i : Nat) : Except Fault β :=
  match xs[i]? with
  | some x => .ok x
  | none => .error (.index i)

def bits (itbs rb : Nat) : Except Fault Nat := (TransportBlock.bits? itbs rb).mapError .block

def bytes (itbs rb : Nat) : Except Fault Nat := (TransportBlock.bytes? itbs rb).mapError .block

@[simp] theorem ok_bind {β γ : Type} (x : β) (f : β → Except Fault γ) : (Except.ok x >>= f) = f x := rfl

@[simp] theorem pure_eq_ok {β : Type} (x : β) : (pure x : Except Fault β) = .ok x := rfl

theorem sub_of_le {a b : Nat} (h : b ≤ a) : sub a b = .ok (a - b) := if_pos h

theorem add_of_lt {a b : Nat} (h : a + b < 2 ^ 32) : add a b = .ok (a + b) := if_pos h

theorem lookup_of_getElem? {β : Type} {xs : List β} {i : Nat} {x : β} (h : xs[i]? = some x) :
    lookup xs i = .ok x := by
  rw [lookup, h]

section

variable {itbs rb : Nat} (hitbs : itbs ≤ TransportBlock.maxItbs) (hrb : rb ≤ TransportBlock.maxRb)

include hitbs hrb

theorem bits_of_le : bits itbs rb = .ok (TransportBlock.bits itbs rb) := by
  rw [bits, TransportBlock.bits?, if_neg (Nat.not_lt.mpr hitbs), if_neg (Nat.not_lt.mpr hrb)]
  rfl

theorem bytes_of_le : bytes itbs rb = .ok (TransportBlock.bytes itbs rb) := by
  rw [bytes, TransportBlock.bytes?, TransportBlock.bits?, if_neg (Nat.not_lt.mpr hitbs),
    if_neg (Nat.not_lt.mpr hrb)]
  rfl

end

/-! ## The estimator -/

/-- Lets a grant grow by two blocks for as long as it does not carry the buffer and the budget reaches. There
is a last turn after which the loop must have come to its end. -/
def grow (itbs required budget : Nat) : Nat → Nat → Except Fault Nat
  | 0, _ => .error .endless
  | turns + 1, rb => do
    let size ← bytes itbs rb
    if size < required then
      let next ← add rb 2
      if next ≤ budget then grow itbs required budget turns next else pure rb
    else pure rb

/-- The grant of a channel, in as many turns as the table of transport blocks has steps. -/
def grant (itbs required budget : Nat) : Except Fault Nat :=
  if budget < 2 then .ok 0 else grow itbs required budget (TransportBlock.maxRb / 2) 2

/-- The bytes that a channel has to send. -/
def required (d : Direction) (c : Channel) : Except Fault Nat :=
  match d with
  | .dl => .ok c.dlQueueBytes
  | .ul => lookup BsrIndex.levels c.ulBsr.val

/-- Serves one more channel of a user that has got `rb` blocks so far. -/
def serve (itbs budget : Nat) (d : Direction) (rb : Nat) (c : Channel) : Except Fault Nat := do
  let required ← required d c
  let left ← sub budget rb
  let granted ← grant itbs required left
  add rb granted

/-- The scheme of a user. -/
def scheme (ulMcs : Mcs) (u : User) : Direction → Except Fault Mcs
  | .dl => lookup Modulation.mcsByCqi.toList u.dlCqi.val
  | .ul => .ok ulMcs

/-- The estimate for one user in one direction. -/
def link (ulMcs : Mcs) (u : User) (d : Direction) (budget : Nat) : Except Fault LinkEstimate := do
  let mcs ← scheme ulMcs u d
  let itbs ← lookup (Modulation.itbsByMcs.get d) mcs.val
  let rb ← u.channels.foldlM (serve itbs budget d) 0
  let size ← bits itbs rb
  pure ⟨mcs, itbs, rb, size⟩

/-- The estimates for users, each out of what those before it have left. -/
def users (ulMcs : Mcs) (budget : PerDirection Nat) : List User → Except Fault (List UserEstimate)
  | [] => .ok []
  | u :: rest => do
    let dl ← link ulMcs u .dl (budget.get .dl)
    let ul ← link ulMcs u .ul (budget.get .ul)
    let dlLeft ← sub (budget.get .dl) dl.rb
    let ulLeft ← sub (budget.get .ul) ul.rb
    let others ← users ulMcs ⟨dlLeft, ulLeft⟩ rest
    pure (⟨u.ueId, u.rnti, ⟨dl, ul⟩⟩ :: others)

/-- The estimates of a cell. -/
def cell (ulMcs : Mcs) (s : CellStats) : Except Fault CellEstimate := do
  let users ← users ulMcs (Estimate.budget s.cell) s.users
  pure ⟨s.cell.enbId, s.cell.bsId, users⟩

/-- Resource blocks of all users in a direction. -/
def demand (e : CellEstimate) (d : Direction) : Except Fault Nat :=
  e.users.foldlM (fun sum u => add sum (u.link.get d).rb) 0

/-! ## The allocator -/

/-- Adds what a user is estimated at to the slot of its slice. -/
def place (n : SliceCount) (slots : List (PerDirection Nat)) (u : UserEstimate) :
    Except Fault (List (PerDirection Nat)) :=
  match SliceId.forUser u.ueId n with
  | none => .ok slots
  | some s => do
    let slot ← lookup slots s.val
    let dl ← add (slot.get .dl) (u.link.get .dl).rb
    let ul ← add (slot.get .ul) (u.link.get .ul).rb
    pure (slots.set s.val ⟨dl, ul⟩)

/-- The demands of all slices, in the order of their ids. -/
def demands (n : SliceCount) (e : CellEstimate) : Except Fault (List (PerDirection Nat)) :=
  e.users.foldlM (place n) (n.slices.map fun _ => ⟨0, 0⟩)

/-- The caps of all slices, out of tables with a cap for every slot that a policy can have. -/
def limits (c : Cell) (n : SliceCount) (caps : McsCaps) : Except Fault (List (PerDirection Mcs)) :=
  n.slices.mapM fun s => do
    let dl ← lookup (SliceId.slots.map fun s => caps.cap s .dl) s.val
    let ul ← lookup (SliceId.slots.map fun s => caps.cap s .ul) s.val
    pure ⟨min dl (c.ceiling.get .dl), min ul (c.ceiling.get .ul)⟩

/-! ## No step of the estimator is a fault -/

variable {itbs budget : Nat}

/-- A loop that has got as far as `rb`, with no step before it that carries the buffer, stops at the grant. The
induction is on the turns that are left, which are enough for the steps that are left of the budget. -/
theorem grow_eq_ok (hitbs : itbs ≤ TransportBlock.maxItbs) (hbudget : budget ≤ TransportBlock.maxRb)
    {required turns rb : Nat} (heven : rb % 2 = 0) (htwo : 2 ≤ rb) (hrb : rb ≤ budget)
    (hturns : budget < rb + 2 * turns) (hbefore : ∀ k < rb, ¬ (Load.mk itbs required).CoveredBy k) :
    grow itbs required budget turns rb = .ok (Estimate.grant itbs required budget) := by
  induction turns generalizing rb with
  | zero => omega
  | succ turns ih =>
    simp only [grow, bytes_of_le hitbs (Nat.le_trans hrb hbudget), ok_bind, pure_eq_ok]
    split
    · rename_i hsmall
      -- no step up to `rb` carries the buffer, and an odd number is no step
      have huncovered : ∀ k < rb + 2, ¬ (Load.mk itbs required).CoveredBy k := by
        rintro k hk hcovered
        obtain rfl | hlt : k = rb ∨ k < rb := by
          have := hcovered.1
          omega
        · exact absurd hcovered.2.2 (Nat.not_le.mpr hsmall)
        · exact hbefore k hlt hcovered
      rw [add_of_lt (by rw [TransportBlock.maxRb] at hbudget; omega), ok_bind]
      split
      · rename_i hnext
        exact ih (by omega) (by omega) hnext (by omega) huncovered
      · rename_i hlast
        have hgrant := Estimate.grant_of_uncovered fun k (hk : k ≤ budget) =>
          huncovered k (by omega)
        rw [hgrant]
        congr 1
        omega
    · rename_i hcovers
      have hgrant := Estimate.grant_of_covered hrb ⟨heven, htwo, Nat.le_of_not_lt hcovers⟩ hbefore
      rw [hgrant]

theorem grant_eq_ok (hitbs : itbs ≤ TransportBlock.maxItbs) (hbudget : budget ≤ TransportBlock.maxRb)
    (required : Nat) : grant itbs required budget = .ok (Estimate.grant itbs required budget) := by
  rw [grant]
  split
  · rename_i hsmall
    have hnone : ∀ k ≤ budget, ¬ (Load.mk itbs required).CoveredBy k := by
      rintro k hk ⟨-, htwo, -⟩
      omega
    rw [Estimate.grant_of_uncovered hnone]
    congr 1
    omega
  · have hbefore : ∀ k < 2, ¬ (Load.mk itbs required).CoveredBy k := by
      rintro k hk ⟨-, htwo, -⟩
      omega
    apply grow_eq_ok hitbs hbudget rfl (Nat.le_refl 2) (by omega) ?_ hbefore
    rw [TransportBlock.maxRb] at *
    omega

theorem required_eq_ok (d : Direction) (c : Channel) : required d c = .ok (c.required d) := by
  cases d with
  | dl => rfl
  | ul =>
    have hlt : c.ulBsr.val < BsrIndex.levels.length := Nat.lt_succ_of_le c.ulBsr.le_max
    have hlevel : BsrIndex.levels[c.ulBsr.val]? = some c.ulBsr.bytes := by
      rw [BsrIndex.bytes, List.getElem?_eq_getElem hlt, Option.getD_some]
    exact lookup_of_getElem? hlevel

/-- The channels that are still to be served get what the budget still has for them. -/
theorem foldlM_serve_eq_ok (hitbs : itbs ≤ TransportBlock.maxItbs) (hbudget : budget ≤ TransportBlock.maxRb)
    (d : Direction) (cs : List Channel) {rb : Nat} (hrb : rb ≤ budget) :
    cs.foldlM (serve itbs budget d) rb =
      .ok (rb + Estimate.grants itbs (budget - rb) (cs.map fun c => c.required d)) := by
  induction cs generalizing rb with
  | nil => rfl
  | cons c rest ih =>
    have hgrant := Estimate.grant_le itbs (c.required d) (budget - rb)
    have hserve : serve itbs budget d rb c =
        .ok (rb + Estimate.grant itbs (c.required d) (budget - rb)) := by
      rw [serve, required_eq_ok, ok_bind, sub_of_le hrb, ok_bind, grant_eq_ok hitbs (by omega), ok_bind]
      apply add_of_lt
      rw [TransportBlock.maxRb] at hbudget
      omega
    rw [List.foldlM_cons, hserve, ok_bind, ih (by omega), List.map_cons, Estimate.grants, Nat.sub_sub,
      Nat.add_assoc]

theorem scheme_eq_ok (ulMcs : Mcs) (u : User) (d : Direction) :
    scheme ulMcs u d = .ok (Estimate.linkMcs ulMcs u d) := by
  cases d with
  | dl =>
    apply lookup_of_getElem?
    have hlt : u.dlCqi.val < Modulation.mcsByCqi.toList.length := Nat.lt_succ_of_le u.dlCqi.le_max
    rw [List.getElem?_eq_getElem hlt, Vector.getElem_toList]
    rfl
  | ul => rfl

theorem link_eq_ok (ulMcs : Mcs) (u : User) (d : Direction) (hbudget : budget ≤ TransportBlock.maxRb) :
    link ulMcs u d budget = .ok (Estimate.link ulMcs u d budget) := by
  have hitbs := (Estimate.linkMcs ulMcs u d).itbs_le d
  have hrb := Estimate.grants_le ((Estimate.linkMcs ulMcs u d).itbs d) budget
    (u.channels.map fun c => c.required d)
  rw [link, scheme_eq_ok, ok_bind, lookup_of_getElem? (Mcs.getElem?_itbs _ d), ok_bind,
    foldlM_serve_eq_ok hitbs hbudget d _ (Nat.zero_le _), ok_bind, Nat.zero_add, Nat.sub_zero,
    bits_of_le hitbs (Nat.le_trans hrb hbudget)]
  rfl

theorem users_eq_ok (ulMcs : Mcs) (us : List User) {budget : PerDirection Nat}
    (hbudget : ∀ d, budget.get d ≤ TransportBlock.maxRb) :
    users ulMcs budget us = .ok (Estimate.users ulMcs budget us) := by
  induction us generalizing budget with
  | nil => rfl
  | cons u rest ih =>
    have hrb : ∀ d, (Estimate.link ulMcs u d (budget.get d)).rb ≤ budget.get d := fun d =>
      Estimate.grants_le _ _ _
    have hrest := @ih (PerDirection.ofFn fun d => budget.get d - (Estimate.link ulMcs u d (budget.get d)).rb)
      fun d => by
        rw [PerDirection.get_ofFn]
        exact Nat.le_trans (Nat.sub_le _ _) (hbudget d)
    rw [users, link_eq_ok ulMcs u .dl (hbudget .dl), ok_bind, link_eq_ok ulMcs u .ul (hbudget .ul), ok_bind,
      sub_of_le (hrb .dl), ok_bind, sub_of_le (hrb .ul), ok_bind]
    exact congrArg (· >>= _) hrest

theorem cell_eq_ok (ulMcs : Mcs) (s : CellStats) : cell ulMcs s = .ok (Estimate.cell ulMcs s) := by
  rw [cell, users_eq_ok ulMcs s.users (Estimate.budget_le s.cell)]
  rfl

/-! ## No step of the allocator is a fault -/

/-- A slot is found at its id. -/
theorem getElem?_map_slices {β : Type} {n : SliceCount} {s : SliceId} (h : s.val < n.val) (f : SliceId → β) :
    (n.slices.map f)[s.val]? = some (f s) := by
  have hval : (n.slices.map Bounded.val)[s.val]? = some s.val := by
    rw [SliceCount.map_val_slices, List.getElem?_range h]
  rw [List.getElem?_map] at hval ⊢
  obtain ⟨s', hs', heq⟩ := Option.map_eq_some_iff.mp hval
  rw [hs', Bounded.ext heq]
  rfl

/-- Writing to the slot of a slice changes what is kept for that slice. -/
theorem set_map_slices {β : Type} {n : SliceCount} {s : SliceId} (f : SliceId → β) (x : β) :
    (n.slices.map f).set s.val x = n.slices.map fun s' => if s = s' then x else f s' := by
  apply List.ext_getElem?
  intro i
  by_cases hi : i < n.val
  · obtain ⟨t, rfl⟩ : ∃ t : SliceId, t.val = i := ⟨⟨i, Nat.le_trans (Nat.le_of_lt hi) n.le_max⟩, rfl⟩
    rw [getElem?_map_slices hi]
    by_cases hst : s = t
    · subst hst
      simp [hi]
    · rw [List.getElem?_set_ne fun hval => hst (Bounded.ext hval), getElem?_map_slices hi, if_neg hst]
  · have hlength : n.val ≤ i := Nat.le_of_not_lt hi
    rw [List.getElem?_eq_none (by simpa using hlength), List.getElem?_eq_none (by simpa using hlength)]

/-- A user is added to the slot of its slice. -/
theorem place_eq_ok {n : SliceCount} {u : UserEstimate} {f : SliceId → PerDirection Nat}
    (hfits : ∀ s d, SliceId.forUser u.ueId n = some s → (f s).get d + (u.link.get d).rb < 2 ^ 32) :
    place n (n.slices.map f) u = .ok (n.slices.map fun s => PerDirection.ofFn fun d =>
      (f s).get d + if SliceId.forUser u.ueId n = some s then (u.link.get d).rb else 0) := by
  have hsame : ∀ s, PerDirection.ofFn (f s).get = f s := fun s => rfl
  rw [place]
  cases hslice : SliceId.forUser u.ueId n with
  | none => simp [hsame]
  | some s =>
    have hs : s.val < n.val := SliceId.val_lt_of_forUser hslice
    simp only [lookup_of_getElem? (getElem?_map_slices hs f), ok_bind, pure_eq_ok]
    rw [add_of_lt (hfits s .dl hslice), ok_bind, add_of_lt (hfits s .ul hslice), ok_bind, set_map_slices]
    refine congrArg Except.ok (List.map_congr_left fun s' _ => ?_)
    by_cases hss : s = s'
    · subst hss
      simp [PerDirection.ofFn, PerDirection.get]
    · simp [hss, hsame]

/-- Users are added one after the other. The sum of a slot stays within 32 bits, because it only grows and does so
in the end. -/
theorem foldlM_place_eq_ok (n : SliceCount) (enbId : Nat) (bsId : BsId) (us : List UserEstimate)
    {f : SliceId → PerDirection Nat}
    (hfits : ∀ s ∈ n.slices, ∀ d, (f s).get d + Allocation.demand ⟨enbId, bsId, us⟩ n s d < 2 ^ 32) :
    us.foldlM (place n) (n.slices.map f) = .ok (n.slices.map fun s =>
      PerDirection.ofFn fun d => (f s).get d + Allocation.demand ⟨enbId, bsId, us⟩ n s d) := by
  induction us generalizing f with
  | nil => rfl
  | cons u rest ih =>
    simp only [Allocation.demand_cons] at hfits
    have hplace : ∀ s d, SliceId.forUser u.ueId n = some s → (f s).get d + (u.link.get d).rb < 2 ^ 32 := by
      intro s d hslice
      have := hfits s (SliceCount.mem_slices.mpr (SliceId.val_lt_of_forUser hslice)) d
      rw [if_pos hslice] at this
      omega
    rw [List.foldlM_cons, place_eq_ok hplace, ok_bind, ih]
    · simp only [PerDirection.get_ofFn, Allocation.demand_cons, Nat.add_assoc]
    · intro s hs d
      rw [PerDirection.get_ofFn, Nat.add_assoc]
      exact hfits s hs d

theorem demands_of_slices_fit (n : SliceCount) {e : CellEstimate}
    (hfits : ∀ s ∈ n.slices, ∀ d, Allocation.demand e n s d < 2 ^ 32) :
    demands n e = .ok (n.slices.map fun s => PerDirection.ofFn (Allocation.demand e n s)) := by
  have hzero : ∀ d, (PerDirection.mk 0 0).get d = 0 := by
    rintro (_ | _) <;> rfl
  rw [demands, foldlM_place_eq_ok n e.enbId e.bsId e.users fun s hs d => by
    rw [hzero, Nat.zero_add]
    exact hfits s hs d]
  simp only [hzero, Nat.zero_add]

theorem demands_eq_ok (n : SliceCount) {e : CellEstimate} (hfits : ∀ d, e.demand d < 2 ^ 32) :
    demands n e = .ok (n.slices.map fun s => PerDirection.ofFn (Allocation.demand e n s)) :=
  demands_of_slices_fit n fun s _ d => Nat.lt_of_le_of_lt (Allocation.demand_le e n s d) (hfits d)

theorem mapM_eq_ok {β γ : Type} {f : β → Except Fault γ} {g : β → γ} {xs : List β}
    (h : ∀ x ∈ xs, f x = .ok (g x)) : xs.mapM f = .ok (xs.map g) := by
  induction xs with
  | nil => rfl
  | cons x rest ih =>
    obtain ⟨hx, hrest⟩ := List.forall_mem_cons.mp h
    rw [List.mapM_cons, hx, ok_bind, ih hrest, ok_bind, pure_eq_ok, List.map_cons]

theorem limits_eq_ok (c : Cell) (n : SliceCount) (caps : McsCaps) :
    limits c n caps = .ok (n.slices.map fun s =>
      PerDirection.ofFn fun d => min (caps.cap s d) (c.ceiling.get d)) := by
  have hslots : ∀ s ∈ SliceId.slots, SliceId.slots[s.val]? = some s := by decide
  refine mapM_eq_ok fun s hs => ?_
  have hcap : ∀ d, lookup (SliceId.slots.map fun s => caps.cap s d) s.val = .ok (caps.cap s d) := fun d => by
    apply lookup_of_getElem?
    rw [List.getElem?_map, hslots s (List.mem_of_mem_filter hs), Option.map_some]
  rw [hcap, ok_bind, hcap, ok_bind, pure_eq_ok]
  rfl

/-! ## A cycle -/

theorem demand_eq_ok {e : CellEstimate} {d : Direction} (hfits : e.demand d < 2 ^ 32) :
    demand e d = .ok (e.demand d) := by
  have hfold : ∀ (us : List UserEstimate) (sum : Nat), sum + total (us.map fun u => (u.link.get d).rb) < 2 ^ 32 →
      us.foldlM (fun sum u => add sum (u.link.get d).rb) sum =
        .ok (sum + total (us.map fun u => (u.link.get d).rb)) := by
    intro us
    induction us with
    | nil => exact fun _ _ => rfl
    | cons u rest ih =>
      intro sum hsum
      simp only [List.map_cons, total] at hsum ⊢
      rw [List.foldlM_cons, add_of_lt (by omega), ok_bind, ih _ (by omega), Nat.add_assoc]
  rw [demand, hfold e.users 0 (by rw [Nat.zero_add]; exact hfits), Nat.zero_add]
  rfl

/-- **No step of a cycle is a fault.** Whatever a cell, its users and their buffers are like, the checked
estimator comes to its end with the estimates of the cell, and with the demand of all users; and the checked
allocator comes to its end with the demands and the caps of the slices. -/
theorem cycle_eq_ok {α : Type} [Share α] (ulMcs : Mcs) (s : CellStats) (n : SliceCount) (caps : McsCaps) :
    let e := Estimate.cell ulMcs s
    let a : CellAllocation α := Allocation.cell s.cell e n caps
    cell ulMcs s = .ok e ∧ (∀ d, demand e d = .ok (e.demand d)) ∧
      demands n e = .ok (a.slices.map SliceAllocation.demand) ∧
      limits s.cell n caps = .ok (a.slices.map SliceAllocation.maxMcs) := by
  intro e a
  have hfits : ∀ d, e.demand d < 2 ^ 32 := fun d => by
    have hle := Estimate.demand_users_le ulMcs s.users (Estimate.budget s.cell) d
    have hbudget := Estimate.budget_le s.cell d
    rw [TransportBlock.maxRb] at hbudget
    exact Nat.lt_of_le_of_lt (Nat.le_trans hle hbudget) (by decide)
  have hdemands : a.slices.map SliceAllocation.demand =
      n.slices.map fun s => PerDirection.ofFn (Allocation.demand e n s) := by
    simp only [a, Allocation.cell, List.map_map, Function.comp_def]
  have hcaps : a.slices.map SliceAllocation.maxMcs =
      n.slices.map fun x => PerDirection.ofFn fun d => min (caps.cap x d) (s.cell.ceiling.get d) := by
    simp only [a, Allocation.cell, List.map_map, Function.comp_def]
  rw [hdemands, hcaps]
  exact ⟨cell_eq_ok ulMcs s, fun d => demand_eq_ok (hfits d), demands_eq_ok n hfits, limits_eq_ok s.cell n caps⟩

end RanSlicing.Checked
