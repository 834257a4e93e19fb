import RanSlicing.Proofs.BlockSizes
import RanSlicing.Proofs.Directions
import RanSlicing.Proofs.HandOut

/-!
# How users displace each other

Two readings of a cell differ in one user. The users share one budget in each direction, so what one of them
takes more is missing for those after it, and this is all: users are served in order, each with what its
channels need together as far as the budget reaches (`Estimate.blocks_cell`), and of two users that are served
like this nobody gains by the need of the other (`Estimate.serve_set`). What a channel needs falls with the
channel quality and rises with the buffer, so the same comparison answers both questions
(`Estimate.displacement`).
-/

namespace RanSlicing

/-! ## Needs -/

/-- A load that is carried wherever another one is needs no more blocks. -/
theorem Load.need_mono {x y : Load} (h : ∀ k ≤ TransportBlock.maxRb, y.CoveredBy k → x.CoveredBy k) :
    x.need ≤ y.need := by
  obtain ⟨hle, hcovered, -⟩ | ⟨hall, -⟩ := y.need_cases
  · exact need_le_of_covered hle (h _ hle hcovered)
  · rw [hall]
    exact x.need_le

/-- What the channels of a user need together in a direction. -/
def User.need (ulMcs : Mcs) (d : Direction) (u : User) : Nat := total ((u.loads ulMcs d).map Load.need)

theorem User.need_even (ulMcs : Mcs) (d : Direction) (u : User) : u.need ulMcs d % 2 = 0 := by
  refine total_even fun k hk => ?_
  obtain ⟨x, -, rfl⟩ := List.mem_map.mp hk
  exact x.need_even

/-- A better channel quality never makes a user need more. -/
theorem User.need_of_cqi (ulMcs : Mcs) (u : User) {cqi : Cqi} (h : u.dlCqi.val ≤ cqi.val) :
    { u with dlCqi := cqi }.need ulMcs .dl ≤ u.need ulMcs .dl := by
  simp only [need, loads, List.map_map]
  refine total_map_le fun c _ => Load.need_mono fun k _ hcovered => ?_
  obtain ⟨heven, htwo, hcovers⟩ := hcovered
  have hitbs := Mcs.itbs_ofCqi_mono h
  exact ⟨heven, htwo, Nat.le_trans hcovers (TransportBlock.bytes_mono_itbs hitbs (Mcs.itbs_le _ _) k)⟩

/-- A longer queue never makes a user need less. -/
theorem User.need_of_queue (ulMcs : Mcs) (u : User) {k : Nat} {c : Channel} (hc : u.channels[k]? = some c)
    {queue : Nat} (h : c.dlQueueBytes ≤ queue) :
    u.need ulMcs .dl ≤
      { u with channels := u.channels.set k { c with dlQueueBytes := queue } }.need ulMcs .dl := by
  simp only [need, loads, List.map_map, List.map_set]
  apply total_le_total_set
  · rw [List.getElem?_map, hc, Option.map_some]
  · refine Load.need_mono fun k _ hcovered => ?_
    obtain ⟨heven, htwo, hcovers⟩ := hcovered
    exact ⟨heven, htwo, Nat.le_trans h hcovers⟩

/-! ## Service in order -/

/-- The resource blocks of the users in a direction, in order. -/
def CellEstimate.blocks (e : CellEstimate) (d : Direction) : List Nat := e.users.map fun u => (u.link.get d).rb

namespace Estimate

/-- Serves needs in order, each as far as the budget reaches. -/
def serve (budget : Nat) : List Nat → List Nat
  | [] => []
  | need :: rest => min budget need :: serve (budget - min budget need) rest

/-- Users are served in order with what their channels need together. -/
theorem blocks_users (ulMcs : Mcs) (d : Direction) (us : List User) {budget : PerDirection Nat}
    (hbudget : budget.get d ≤ TransportBlock.maxRb) :
    (users ulMcs budget us).map (fun u => (u.link.get d).rb) =
      serve (2 * (budget.get d / 2)) (us.map (User.need ulMcs d)) := by
  induction us generalizing budget with
  | nil => rfl
  | cons u rest ih =>
    have hrb : (link ulMcs u d (budget.get d)).rb = min (2 * (budget.get d / 2)) (u.need ulMcs d) := by
      rw [link_eq_linkAt]
      exact total_handOut _ hbudget
    have heven := u.need_even ulMcs d
    have hrest := @ih (PerDirection.ofFn fun d => budget.get d - (link ulMcs u d (budget.get d)).rb) (by
      rw [PerDirection.get_ofFn]
      omega)
    rw [PerDirection.get_ofFn] at hrest
    simp only [users, List.map_cons, PerDirection.get_ofFn, hrest, serve, hrb]
    congr 2
    omega

theorem blocks_cell (ulMcs : Mcs) (s : CellStats) (d : Direction) :
    (cell ulMcs s).blocks d = serve (2 * ((budget s.cell).get d / 2)) (s.users.map (User.need ulMcs d)) :=
  blocks_users ulMcs d s.users (budget_le s.cell d)

/-- With a larger budget nobody gets less. -/
theorem serve_mono {budget budget' : Nat} (h : budget ≤ budget') (needs : List Nat) (j : Nat) :
    (serve budget needs).getD j 0 ≤ (serve budget' needs).getD j 0 := by
  induction needs generalizing budget budget' j with
  | nil => exact Nat.le_refl _
  | cons need rest ih =>
    cases j with
    | zero => simp only [serve, List.getD_cons_zero]; omega
    | succ j =>
      simp only [serve, List.getD_cons_succ]
      exact ih (by omega) j

/-- A user that needs less gets no more, and nobody else gets less. -/
theorem serve_set {needs : List Nat} {i need need' : Nat} (hneed : needs[i]? = some need) (h : need' ≤ need)
    (budget : Nat) :
    (serve budget (needs.set i need')).getD i 0 ≤ (serve budget needs).getD i 0 ∧
      ∀ j ≠ i, (serve budget needs).getD j 0 ≤ (serve budget (needs.set i need')).getD j 0 := by
  induction needs generalizing budget i with
  | nil => cases hneed
  | cons first rest ih =>
    cases i with
    | zero =>
      obtain rfl := Option.some.inj hneed
      simp only [List.set_cons_zero, serve, List.getD_cons_zero]
      refine ⟨by omega, fun j hj => ?_⟩
      obtain ⟨j, rfl⟩ := Nat.exists_eq_succ_of_ne_zero hj
      exact serve_mono (by omega) rest j
    | succ i =>
      obtain ⟨hown, hothers⟩ := ih hneed (budget - min budget first)
      refine ⟨hown, fun j hj => ?_⟩
      cases j with
      | zero => exact Nat.le_refl _
      | succ j => exact hothers j fun hji => hj (congrArg _ hji)

end Estimate

/-! ## Another user in the same place -/

theorem Channel.AgreeIn.refl (d : Direction) (c : Channel) : c.AgreeIn d c := by
  cases d <;> rfl

theorem User.AgreeIn.refl (d : Direction) (u : User) : u.AgreeIn d u :=
  ⟨rfl, fun _ => rfl, List.forall₂_same.mpr fun c _ => .refl d c⟩

/-- Lists that are written to at the same place stay related. -/
theorem forall₂_set {β : Type} {R : β → β → Prop} (hrefl : ∀ x, R x x) (xs : List β) (i : Nat) {x y : β}
    (h : R x y) : List.Forall₂ R (xs.set i x) (xs.set i y) := by
  induction xs generalizing i with
  | nil => exact .nil
  | cons z rest ih =>
    cases i with
    | zero => exact .cons h (List.forall₂_same.mpr fun x _ => hrefl x)
    | succ i => exact .cons (hrefl z) (ih i)

/-- The reading of a cell with another user at a position. -/
def CellStats.withUser (s : CellStats) (i : Nat) (u : User) : CellStats := { s with users := s.users.set i u }

theorem CellStats.withUser_self {s : CellStats} {i : Nat} {u : User} (hu : s.users[i]? = some u) :
    s.withUser i u = s := by
  obtain ⟨hi, rfl⟩ := List.getElem?_eq_some_iff.mp hu
  rw [withUser, List.set_getElem_self]

/-- From one estimate to another, the user at position `i` gives way in the downlink: it gets no more resource
blocks, everyone else gets no fewer, and the uplink stays as it is. -/
structure CellEstimate.GivesWay (i : Nat) (e e' : CellEstimate) : Prop where
  own : (e'.blocks .dl).getD i 0 ≤ (e.blocks .dl).getD i 0
  others : ∀ j ≠ i, (e.blocks .dl).getD j 0 ≤ (e'.blocks .dl).getD j 0
  uplink : e'.links .ul = e.links .ul

namespace Estimate

/-- A user gives way to one that needs more, if it can only be told apart in the downlink. -/
theorem givesWay_withUser (ulMcs : Mcs) {s : CellStats} {i : Nat} (hi : i < s.users.length) {u u' : User}
    (hneed : u'.need ulMcs .dl ≤ u.need ulMcs .dl) (hul : u'.AgreeIn .ul u) :
    (cell ulMcs (s.withUser i u)).GivesWay i (cell ulMcs (s.withUser i u')) := by
  have hplace : ((s.users.set i u).map (User.need ulMcs .dl))[i]? = some (u.need ulMcs .dl) := by
    rw [List.getElem?_map, List.getElem?_set_self hi, Option.map_some]
  -- the needs of both readings, as one list that is written to at the place of the user
  have hserve := serve_set hplace hneed (2 * ((budget s.cell).get .dl / 2))
  rw [List.map_set, List.set_set, ← List.map_set, ← List.map_set] at hserve
  have hblocks : ∀ u, (cell ulMcs (s.withUser i u)).blocks .dl =
      serve (2 * ((budget s.cell).get .dl / 2)) ((s.users.set i u).map (User.need ulMcs .dl)) :=
    fun u => blocks_cell ulMcs (s.withUser i u) .dl
  refine ⟨?_, ?_, ?_⟩
  · rw [hblocks, hblocks]
    exact hserve.1
  · rw [hblocks, hblocks]
    exact hserve.2
  · exact links_cell_congr (fun _ => rfl) ⟨rfl, rfl, forall₂_set (User.AgreeIn.refl .ul) s.users i hul⟩

/-- **How users displace each other.** When the channel quality of a user gets better and everything else stays
as it is, the user gives way. When one of its queues gets longer, then it is the other way round: the user
would give way if the queue became as short as it was. -/
theorem displacement (ulMcs : Mcs) {s : CellStats} {i : Nat} {u : User} (hu : s.users[i]? = some u) :
    (∀ cqi : Cqi, u.dlCqi.val ≤ cqi.val →
      (cell ulMcs s).GivesWay i (cell ulMcs (s.withUser i { u with dlCqi := cqi }))) ∧
    ∀ k c, u.channels[k]? = some c → ∀ queue, c.dlQueueBytes ≤ queue →
      let u' := { u with channels := u.channels.set k { c with dlQueueBytes := queue } }
      (cell ulMcs (s.withUser i u')).GivesWay i (cell ulMcs s) := by
  obtain ⟨hi, -⟩ := List.getElem?_eq_some_iff.mp hu
  constructor
  · intro cqi hcqi
    have hul : { u with dlCqi := cqi }.AgreeIn .ul u := ⟨rfl, nofun, (User.AgreeIn.refl .ul u).channels⟩
    have hgives := givesWay_withUser ulMcs hi (u.need_of_cqi ulMcs hcqi) hul
    rwa [CellStats.withUser_self hu] at hgives
  · intro k c hc queue hqueue u'
    have hul : u.AgreeIn .ul u' := by
      obtain ⟨hk, rfl⟩ := List.getElem?_eq_some_iff.mp hc
      refine ⟨rfl, nofun, ?_⟩
      have hchannels := forall₂_set (Channel.AgreeIn.refl .ul) u.channels k
        (show u.channels[k].AgreeIn .ul { u.channels[k] with dlQueueBytes := queue } from rfl)
      rwa [List.set_getElem_self] at hchannels
    have hgives := givesWay_withUser ulMcs hi (u.need_of_queue ulMcs hc hqueue) hul
    rwa [CellStats.withUser_self hu] at hgives

/-- Three users share 51 downlink blocks. When the one in the middle is received better, six blocks pass on to
the last user, and when one of its queues gets longer, it takes six blocks from the last user. -/
theorem displacement_middle_user :
    let c : Channel := ⟨4, ⟨20, by decide⟩, 300⟩
    let u : User := ⟨0, 1, 71, ⟨9, by decide⟩, 3, [⟨3, ⟨0, by decide⟩, 400⟩, c]⟩
    let s : CellStats := ⟨⟨0, 1, 7, ⟨51, 25⟩, Cell.ceilingOf true⟩,
      [⟨0, 0, 70, ⟨9, by decide⟩, 3, [⟨3, ⟨0, by decide⟩, 700⟩]⟩, u,
        ⟨0, 2, 72, ⟨15, by decide⟩, 3, [⟨3, ⟨0, by decide⟩, 4000⟩]⟩]⟩
    let better := s.withUser 1 { u with dlCqi := ⟨12, by decide⟩ }
    let longer := s.withUser 1 { u with channels := u.channels.set 1 { c with dlQueueBytes := 500 } }
    let blocks (s : CellStats) := (cell defaultUlMcs s).blocks .dl
    s.users[1]? = some u ∧
      blocks s = [20, 20, 10] ∧ blocks better = [20, 14, 16] ∧ blocks longer = [20, 26, 4] ∧
      (cell defaultUlMcs s).GivesWay 1 (cell defaultUlMcs better) ∧
      (cell defaultUlMcs longer).GivesWay 1 (cell defaultUlMcs s) := by
  intro c u s better longer blocks
  have hu : s.users[1]? = some u := rfl
  obtain ⟨hcqi, hqueue⟩ := displacement defaultUlMcs hu
  refine ⟨hu, by decide +kernel, by decide +kernel, by decide +kernel, hcqi _ (by decide), ?_⟩
  exact hqueue 1 c rfl 500 (by decide)

end Estimate

end RanSlicing
