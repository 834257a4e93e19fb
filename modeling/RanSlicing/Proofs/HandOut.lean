import Mathlib.Data.List.SplitLengths
import RanSlicing.Proofs.Budget

/-!
# What a cell hands out

The estimator goes through users, channels and steps, and takes what it grants out of a budget. Here the three
loops become one formula. A channel has a *need*, which knows nothing of budgets: the fewest blocks that carry
its buffer. Out of a budget it is granted its need or the last step (`Estimate.grant_eq_min`), so what is left
stays as even or odd as it was, and after any number of channels the blocks handed out are the sum of their
needs, cut at the last step (`Estimate.total_handOut`).

`Estimate.handOut` is the list of all grants. Cut into one part for each user it gives the estimates of the
users (`Estimate.handedOut_cell`).
-/

namespace RanSlicing

/-! ## Needs -/

/-- What one channel has to send: so many bytes, at a transport block size index. -/
structure Load where
  itbs : Nat
  required : Nat
  deriving DecidableEq, Repr

namespace Load

/-- An even number of blocks, two at least, that carries the load. -/
def CoveredBy (x : Load) (k : Nat) : Prop :=
  k % 2 = 0 ∧ 2 ≤ k ∧ x.required ≤ TransportBlock.bytes x.itbs k

instance (x : Load) (k : Nat) : Decidable (x.CoveredBy k) := inferInstanceAs (Decidable (_ ∧ _))

/-- The fewest blocks that carry the load, or all that the table has when they do not. -/
def need (x : Load) : Nat :=
  ((List.range (TransportBlock.maxRb + 1)).find? (fun k => x.CoveredBy k)).getD TransportBlock.maxRb

/-- A load that can be carried is carried by its need, and by nothing smaller. -/
theorem need_cases (x : Load) :
    (x.need ≤ TransportBlock.maxRb ∧ x.CoveredBy x.need ∧ ∀ k < x.need, ¬ x.CoveredBy k) ∨
      (x.need = TransportBlock.maxRb ∧ ∀ k ≤ TransportBlock.maxRb, ¬ x.CoveredBy k) := by
  cases hfind : (List.range (TransportBlock.maxRb + 1)).find? (fun k => x.CoveredBy k) with
  | none =>
    refine .inr ⟨by rw [need, hfind, Option.getD_none], fun k hk hcovered => ?_⟩
    rw [List.find?_range_eq_none] at hfind
    simpa [hcovered] using hfind k (Nat.lt_succ_of_le hk)
  | some k =>
    rw [need, hfind, Option.getD_some]
    obtain ⟨hcovered, hmem, hleast⟩ := List.find?_range_eq_some.mp hfind
    refine .inl ⟨Nat.le_of_lt_succ (List.mem_range.mp hmem), by simpa using hcovered, fun j hj => ?_⟩
    simpa using hleast j hj

theorem need_le_of_covered {x : Load} {k : Nat} (hk : k ≤ TransportBlock.maxRb) (h : x.CoveredBy k) :
    x.need ≤ k := by
  obtain ⟨-, -, hleast⟩ | ⟨-, hnone⟩ := x.need_cases
  · exact Nat.le_of_not_lt fun hlt => hleast k hlt h
  · exact absurd h (hnone k hk)

theorem need_even (x : Load) : x.need % 2 = 0 := by
  obtain ⟨-, hcovered, -⟩ | ⟨hall, -⟩ := x.need_cases
  · exact hcovered.1
  · rw [hall, TransportBlock.maxRb]

theorem need_le (x : Load) : x.need ≤ TransportBlock.maxRb := by
  obtain ⟨hle, -, -⟩ | ⟨hall, -⟩ := x.need_cases
  · exact hle
  · exact Nat.le_of_eq hall

end Load

namespace Estimate

/-! ## One channel -/

/-- The steps of a budget are its even numbers from two on. -/
theorem mem_steps {budget k : Nat} : k ∈ steps budget ↔ k % 2 = 0 ∧ 2 ≤ k ∧ k ≤ budget := by
  rw [steps, List.mem_range']
  constructor
  · rintro ⟨i, hi, rfl⟩
    omega
  · rintro ⟨heven, htwo, hle⟩
    exact ⟨k / 2 - 1, by omega, by omega⟩

/-- A grant is the first step that covers the buffer, or the last step when none does. -/
theorem grant_cases (x : Load) (budget : Nat) :
    (grant x.itbs x.required budget ∈ steps budget ∧ x.CoveredBy (grant x.itbs x.required budget) ∧
        ∀ k < grant x.itbs x.required budget, ¬ x.CoveredBy k) ∨
      (grant x.itbs x.required budget = 2 * (budget / 2) ∧ ∀ k ≤ budget, ¬ x.CoveredBy k) := by
  rw [grant]
  cases hfind : (steps budget).find? (fun k => x.required ≤ TransportBlock.bytes x.itbs k) with
  | none =>
    rw [List.find?_eq_none] at hfind
    refine .inr ⟨rfl, fun k hk hcovered => ?_⟩
    simpa [hcovered.2.2] using hfind k (mem_steps.mpr ⟨hcovered.1, hcovered.2.1, hk⟩)
  | some k =>
    have hmem := List.mem_of_find?_eq_some hfind
    obtain ⟨heven, htwo, hle⟩ := mem_steps.mp hmem
    obtain ⟨hcovers, i, hi, hget, hleast⟩ := List.find?_eq_some_iff_getElem.mp hfind
    refine .inl ⟨hmem, ⟨heven, htwo, by simpa using hcovers⟩, fun j hj hcovered => ?_⟩
    -- a smaller even number stands earlier among the steps
    simp only [steps, List.getElem_range', List.length_range'] at hget hi hleast
    rw [Option.getD_some] at hj
    obtain ⟨hjeven, hjtwo, hjcovers⟩ := hcovered
    have hearlier := hleast (j / 2 - 1) (by omega)
    rw [show 2 + 2 * (j / 2 - 1) = j by omega] at hearlier
    simp [hjcovers] at hearlier

theorem grant_of_covered {x : Load} {budget k : Nat} (hk : k ≤ budget) (hcovered : x.CoveredBy k)
    (hleast : ∀ j < k, ¬ x.CoveredBy j) : grant x.itbs x.required budget = k := by
  obtain ⟨-, hgrant, hsmaller⟩ | ⟨-, hnone⟩ := grant_cases x budget
  · apply Nat.le_antisymm
    · exact Nat.le_of_not_lt fun hlt => hsmaller k hlt hcovered
    · exact Nat.le_of_not_lt fun hlt => hleast _ hlt hgrant
  · exact absurd hcovered (hnone k hk)

theorem grant_of_uncovered {x : Load} {budget : Nat} (hnone : ∀ k ≤ budget, ¬ x.CoveredBy k) :
    grant x.itbs x.required budget = 2 * (budget / 2) := by
  obtain ⟨hmem, hgrant, -⟩ | ⟨hlast, -⟩ := grant_cases x budget
  · exact absurd hgrant (hnone _ (mem_steps.mp hmem).2.2)
  · exact hlast

/-- A channel is granted its need, or the last step of the budget. -/
theorem grant_eq_min (x : Load) {budget : Nat} (h : budget ≤ TransportBlock.maxRb) :
    grant x.itbs x.required budget = min (2 * (budget / 2)) x.need := by
  obtain ⟨hneed, hcovered, hleast⟩ | ⟨hneed, hnone⟩ := x.need_cases
  · have heven := hcovered.1
    by_cases hle : x.need ≤ budget
    · rw [grant_of_covered hle hcovered hleast]
      omega
    · rw [grant_of_uncovered fun k hk => hleast k (by omega)]
      omega
  · rw [grant_of_uncovered fun k hk => hnone k (by omega)]
    omega

theorem grant_even (x : Load) (budget : Nat) : grant x.itbs x.required budget % 2 = 0 := by
  obtain ⟨-, hcovered, -⟩ | ⟨hlast, -⟩ := grant_cases x budget
  · exact hcovered.1
  · rw [hlast, Nat.mul_mod_right]

/-! ## One channel after the other -/

/-- What channels are granted, each out of what those before it have left. -/
def handOut (budget : Nat) : List Load → List Nat
  | [] => []
  | x :: rest =>
    let rb := grant x.itbs x.required budget
    rb :: handOut (budget - rb) rest

@[simp] theorem length_handOut (budget : Nat) (xs : List Load) : (handOut budget xs).length = xs.length := by
  induction xs generalizing budget with
  | nil => rfl
  | cons x rest ih => simp only [handOut, List.length_cons, ih]

/-- Whoever comes first does not depend on who comes after. -/
theorem take_handOut (budget n : Nat) (xs : List Load) :
    (handOut budget xs).take n = handOut budget (xs.take n) := by
  induction xs generalizing budget n with
  | nil => simp [handOut]
  | cons x rest ih =>
    cases n with
    | zero => rfl
    | succ n => simp only [handOut, List.take_succ_cons, ih]

theorem handOut_append (budget : Nat) (xs xs' : List Load) :
    handOut budget (xs ++ xs') = handOut budget xs ++ handOut (budget - total (handOut budget xs)) xs' := by
  induction xs generalizing budget with
  | nil => rfl
  | cons x rest ih => simp only [List.cons_append, handOut, ih, total, Nat.sub_sub]

theorem even_of_mem_handOut {budget : Nat} {xs : List Load} : ∀ k ∈ handOut budget xs, k % 2 = 0 := by
  induction xs generalizing budget with
  | nil => exact fun k hk => absurd hk List.not_mem_nil
  | cons x rest ih =>
    rw [handOut, List.forall_mem_cons]
    exact ⟨grant_even x budget, ih⟩

/-- What is handed out is what is needed, cut at the last step. The induction is over all budgets: a grant is
even, so the last step goes down by exactly the grant. -/
theorem total_handOut (xs : List Load) {budget : Nat} (h : budget ≤ TransportBlock.maxRb) :
    total (handOut budget xs) = min (2 * (budget / 2)) (total (xs.map Load.need)) := by
  induction xs generalizing budget with
  | nil => simp [handOut, total]
  | cons x rest ih =>
    have hgrant := grant_eq_min x h
    have heven := x.need_even
    have hrest := @ih (budget - grant x.itbs x.required budget) (by omega)
    simp only [handOut, List.map_cons, total, hrest]
    omega

end Estimate

/-! ## One user after the other -/

/-- What the channels of a user have to send in a direction. -/
def User.loads (ulMcs : Mcs) (d : Direction) (u : User) : List Load :=
  u.channels.map fun c => ⟨(Estimate.linkMcs ulMcs u d).itbs d, c.required d⟩

/-- What the channels of a cell have to send in a direction, in the order in which they are served. -/
def CellStats.loads (ulMcs : Mcs) (d : Direction) (s : CellStats) : List Load :=
  s.users.flatMap (User.loads ulMcs d)

@[simp] theorem User.length_loads (ulMcs : Mcs) (d : Direction) (u : User) :
    (u.loads ulMcs d).length = u.channels.length :=
  List.length_map _

theorem User.loads_eq (ulMcs : Mcs) (d : Direction) (u : User) :
    u.loads ulMcs d =
      (u.channels.map fun c => c.required d).map (Load.mk ((Estimate.linkMcs ulMcs u d).itbs d)) := by
  rw [List.map_map]
  rfl

namespace Estimate

/-- The estimate that goes with a number of resource blocks. -/
def linkAt (ulMcs : Mcs) (u : User) (d : Direction) (rb : Nat) : LinkEstimate :=
  let mcs := linkMcs ulMcs u d
  ⟨mcs, mcs.itbs d, rb, TransportBlock.bits (mcs.itbs d) rb⟩

theorem grants_eq_total (itbs budget : Nat) (required : List Nat) :
    grants itbs budget required = total (handOut budget (required.map (Load.mk itbs))) := by
  induction required generalizing budget with
  | nil => rfl
  | cons n rest ih => simp only [grants, List.map_cons, handOut, total, ih]

/-- A user gets what is handed out to its channels. -/
theorem link_eq_linkAt (ulMcs : Mcs) (u : User) (d : Direction) (budget : Nat) :
    link ulMcs u d budget = linkAt ulMcs u d (total (handOut budget (u.loads ulMcs d))) := by
  rw [link, grants_eq_total, ← User.loads_eq, linkAt]

/-- The users of a cell share one list of grants, a part for each. -/
theorem map_link_users (ulMcs : Mcs) (d : Direction) (us : List User) (budget : PerDirection Nat) :
    (users ulMcs budget us).map (fun u => u.link.get d) =
      List.zipWith (fun u part => linkAt ulMcs u d (total part)) us
        ((us.map fun u => u.channels.length).splitLengths
          (handOut (budget.get d) (us.flatMap (User.loads ulMcs d)))) := by
  induction us generalizing budget with
  | nil => rfl
  | cons u rest ih =>
    have hlength : (handOut (budget.get d) (u.loads ulMcs d)).length = u.channels.length := by simp
    simp only [users, List.map_cons, List.flatMap_cons, handOut_append, List.splitLengths_cons,
      List.take_left' hlength, List.drop_left' hlength, List.zipWith_cons_cons, PerDirection.get_ofFn, ih,
      link_eq_linkAt]
    rfl

/-- **What a cell hands out.** List the channels of a cell user by user. After any number of them, the blocks
handed out in a direction are the sum of their needs, or the largest even number that the capacity and the
table allow if that is less. Each user is estimated at the blocks handed out to its own channels. -/
theorem handedOut_cell (ulMcs : Mcs) (s : CellStats) (d : Direction) :
    let loads := s.loads ulMcs d
    let budget := min (s.cell.capacity.get d) TransportBlock.maxRb
    let granted := handOut budget loads
    let parts := (s.users.map fun u => u.channels.length).splitLengths granted
    (∀ n, total (granted.take n) = min (2 * (budget / 2)) (total ((loads.take n).map Load.need))) ∧
      (cell ulMcs s).users.map (fun u => u.link.get d) =
        List.zipWith (fun u part => linkAt ulMcs u d (total part)) s.users parts := by
  intro loads budget granted parts
  refine ⟨fun n => ?_, ?_⟩
  · rw [take_handOut]
    exact total_handOut _ (Nat.min_le_right _ _)
  · rw [cell, map_link_users, Estimate.budget, PerDirection.get_map]
    rfl

end Estimate

end RanSlicing
