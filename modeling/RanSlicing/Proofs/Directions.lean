import Mathlib.Data.List.Forall2
import RanSlicing.Proofs.PolicyWrites

/-!
# Directions are kept apart

Two readings of a cell are compared in one direction. There they agree: in the capacity, the ceiling, the buffers
of all channels and, in the downlink, the channel quality. In the other direction they may differ in
everything. Then nothing that is computed for the direction can be told apart: the estimates of the users,
what the slices get, and the schedulers that it is written to (`links_eq_of_agreeIn`).

The argument follows the data. `CellEstimate.links` and `CellAllocation.links` are one direction of an
estimate and of an allocation, `PolicyDocument.schedulers` is one direction of a document, and each is a
function of the one before it and of nothing else.
-/

namespace RanSlicing

variable {α : Type} {d : Direction}

/-! ## What is compared -/

/-- Two channels with the same buffer in a direction. -/
def Channel.AgreeIn (d : Direction) (c c' : Channel) : Prop :=
  match d with
  | .dl => c.dlQueueBytes = c'.dlQueueBytes
  | .ul => c.ulBsr = c'.ulBsr

/-- Two users with the same needs in a direction: as many channels, each with the same buffer. The channel
quality is that of the downlink. -/
structure User.AgreeIn (d : Direction) (u u' : User) : Prop where
  ueId : u.ueId = u'.ueId
  cqi : d = .dl → u.dlCqi = u'.dlCqi
  channels : List.Forall₂ (Channel.AgreeIn d) u.channels u'.channels

/-- Two readings of a cell that agree in a direction. -/
structure CellStats.AgreeIn (d : Direction) (s s' : CellStats) : Prop where
  capacity : s.cell.capacity.get d = s'.cell.capacity.get d
  ceiling : s.cell.ceiling.get d = s'.cell.ceiling.get d
  users : List.Forall₂ (User.AgreeIn d) s.users s'.users

/-- Two tables with the same caps in a direction. -/
def McsCaps.AgreeIn (d : Direction) (caps caps' : McsCaps) : Prop :=
  ∀ s, caps.cap s d = caps'.cap s d

/-- One direction of the estimates of a cell. -/
def CellEstimate.links (e : CellEstimate) (d : Direction) : List (Nat × LinkEstimate) :=
  e.users.map fun u => (u.ueId, u.link.get d)

/-- What one slice gets in one direction. -/
structure SliceLink (α : Type) where
  slice : SliceId
  share : α
  demand : Nat
  maxMcs : Mcs
  deriving DecidableEq

/-- One direction of what a slice gets. -/
def SliceAllocation.link (x : SliceAllocation α) (d : Direction) : SliceLink α :=
  ⟨x.slice, x.share.get d, x.demand.get d, x.maxMcs.get d⟩

/-- One direction of an allocation. -/
def CellAllocation.links (a : CellAllocation α) (d : Direction) : List (SliceLink α) :=
  a.slices.map fun x => x.link d

/-- One direction of a document: the scheduler of each entry. -/
def PolicyDocument.schedulers (doc : PolicyDocument α) (d : Direction) : List (Option (Scheduler α)) :=
  doc.mac.map fun e => e.get d

/-! ## Estimates -/

theorem Channel.AgreeIn.required {c c' : Channel} (h : c.AgreeIn d c') : c.required d = c'.required d := by
  cases d with
  | dl => exact h
  | ul => exact congrArg BsrIndex.bytes h

/-- A user is estimated by its needs in the direction and by what is left of the budget there. -/
theorem Estimate.link_congr {ulMcs ulMcs' : Mcs} (hmcs : d = .ul → ulMcs = ulMcs') {u u' : User}
    (h : u.AgreeIn d u') (budget : Nat) : link ulMcs u d budget = link ulMcs' u' d budget := by
  have hscheme : linkMcs ulMcs u d = linkMcs ulMcs' u' d := by
    cases d with
    | dl => exact congrArg Mcs.ofCqi (h.cqi rfl)
    | ul => exact hmcs rfl
  have hrequired : u.channels.map (fun c => c.required d) = u'.channels.map (fun c => c.required d) := by
    rw [← List.forall₂_eq_eq_eq, List.forall₂_map_left_iff, List.forall₂_map_right_iff]
    exact h.channels.imp fun _ _ hc => hc.required
  rw [link, link, hscheme, hrequired]

/-- Users are estimated one after the other, in each direction out of what is left there. The budgets are
carried along for both directions, so the induction is over all pairs of them that agree in the one that is
compared. -/
theorem Estimate.users_congr {ulMcs ulMcs' : Mcs} (hmcs : d = .ul → ulMcs = ulMcs') {us us' : List User}
    (h : List.Forall₂ (User.AgreeIn d) us us') {budget budget' : PerDirection Nat}
    (hbudget : budget.get d = budget'.get d) :
    (users ulMcs budget us).map (fun u => (u.ueId, u.link.get d)) =
      (users ulMcs' budget' us').map (fun u => (u.ueId, u.link.get d)) := by
  induction h generalizing budget budget' with
  | nil => rfl
  | cons hu _ ih =>
    have hlink := link_congr hmcs hu (budget.get d)
    simp only [users, List.map_cons, PerDirection.get_ofFn, ← hbudget, hlink, hu.ueId]
    refine congrArg _ (ih ?_)
    simp only [PerDirection.get_ofFn, ← hbudget, hlink]

/-- Estimates are made in each direction by itself. -/
theorem Estimate.links_cell_congr {ulMcs ulMcs' : Mcs} (hmcs : d = .ul → ulMcs = ulMcs') {s s' : CellStats}
    (h : s.AgreeIn d s') : (cell ulMcs s).links d = (cell ulMcs' s').links d := by
  refine users_congr hmcs h.users ?_
  simp only [budget, PerDirection.get_map, h.capacity]

/-! ## Allocations -/

namespace Allocation

/-- The demand of a slice in a direction is told by the estimates in that direction. -/
theorem demand_eq_total_links (e : CellEstimate) (n : SliceCount) (s : SliceId) (d : Direction) :
    demand e n s d =
      total (((e.links d).filter fun u => SliceId.forUser u.1 n = some s).map fun u => u.2.rb) := by
  rw [demand, CellEstimate.links, List.filter_map, List.map_map]
  rfl

variable [Share α]

/-- Shares are given in each direction by itself. -/
theorem share_congr {c c' : Cell} (hcapacity : c.capacity.get d = c'.capacity.get d) {e e' : CellEstimate}
    (he : e.links d = e'.links d) (n : SliceCount) (s : SliceId) :
    (share c e n s d : α) = share c' e' n s d := by
  simp only [share, demandTotal, demand_eq_total_links, he, hcapacity]

/-- Slices are allocated in each direction by itself. -/
theorem links_cell_congr {s s' : CellStats} (h : s.AgreeIn d s') {e e' : CellEstimate}
    (he : e.links d = e'.links d) {caps caps' : McsCaps} (hcaps : caps.AgreeIn d caps') (n : SliceCount) :
    (cell s.cell e n caps : CellAllocation α).links d = (cell s'.cell e' n caps').links d := by
  simp only [CellAllocation.links, cell, List.map_map]
  refine List.map_congr_left fun x _ => ?_
  simp only [Function.comp_apply, SliceAllocation.link, PerDirection.get_ofFn,
    share_congr h.capacity he, demand_eq_total_links, he, hcaps x, h.ceiling]

end Allocation

/-! ## Documents -/

section

variable [Share α]

/-- What is written to a scheduler is told by the allocation in its direction. -/
theorem Scheduler.write_congr {a a' : CellAllocation α} (hn : a.numSlices = a'.numSlices)
    (h : a.links d = a'.links d) : write d a = write d a' := by
  have hwrite : ∀ (a : CellAllocation α) (p : Scheduler α), p.write d a =
      (a.links d).foldl (fun p x => (p.setShare x.slice x.share).setCap x.slice x.maxMcs d)
        { p with activeSlices := a.numSlices } := by
    intro a p
    rw [write, CellAllocation.links, List.foldl_map]
    rfl
  funext p
  rw [hwrite, hwrite, h, hn]

namespace PolicyDocument

omit [Share α] in
/-- Changing the scheduler of one direction leaves the schedulers of the other alone. -/
theorem map_get_modifyFirst_of_ne {e : Direction} (h : d ≠ e) (f : Scheduler α → Scheduler α)
    (es : List (PolicyEntry α)) :
    (modifyFirst e f es).map (fun x => x.get d) = es.map (fun x => x.get d) := by
  induction es with
  | nil => rfl
  | cons x rest ih =>
    cases hx : x.get e with
    | some p => rw [modifyFirst_of_some hx, List.map_cons, List.map_cons, PerDirection.get_set_of_ne x h]
    | none => rw [modifyFirst_of_none hx, List.map_cons, List.map_cons, ih]

/-- Of an allocation, a direction of the document gets what is written in that direction. -/
theorem schedulers_withAllocation (doc : PolicyDocument α) (a : CellAllocation α) (d : Direction) :
    (doc.withAllocation a).schedulers d =
      (modifyFirst d (Scheduler.write d a) doc.mac).map (fun x => x.get d) := by
  cases d with
  | dl => exact map_get_modifyFirst_of_ne (by decide) _ _
  | ul =>
    simp only [schedulers, withAllocation, modifyFirst_comm (by decide : Direction.ul ≠ .dl)]
    exact map_get_modifyFirst_of_ne (by decide) _ _

end PolicyDocument

/-! ## From a reading to the policy -/

/-- **Directions are kept apart.** Let two readings of a cell agree in a direction, and with them the
configured caps and, in the uplink, the scheme that is assumed there. Then the estimates of the users and what
each slice gets are the same in that direction, whatever the other direction is like; and if both allocations
can be written to a document, its schedulers of that direction end up the same. -/
theorem links_eq_of_agreeIn {s s' : CellStats} (h : s.AgreeIn d s') {ulMcs ulMcs' : Mcs}
    (hmcs : d = .ul → ulMcs = ulMcs') {caps caps' : McsCaps} (hcaps : caps.AgreeIn d caps') (n : SliceCount) :
    let e := Estimate.cell ulMcs s
    let e' := Estimate.cell ulMcs' s'
    let a : CellAllocation α := Allocation.cell s.cell e n caps
    let a' : CellAllocation α := Allocation.cell s'.cell e' n caps'
    e.links d = e'.links d ∧ a.links d = a'.links d ∧
      ∀ doc written written' : PolicyDocument α, doc.applyAllocation a = .ok written →
        doc.applyAllocation a' = .ok written' → written.schedulers d = written'.schedulers d := by
  intro e e' a a'
  have hestimates : e.links d = e'.links d := Estimate.links_cell_congr hmcs h
  have hallocations : a.links d = a'.links d := Allocation.links_cell_congr h hestimates hcaps n
  have hwrite : Scheduler.write d a = Scheduler.write d a' := Scheduler.write_congr rfl hallocations
  refine ⟨hestimates, hallocations, fun doc written written' hwritten hwritten' => ?_⟩
  rw [PolicyDocument.eq_withAllocation hwritten, PolicyDocument.eq_withAllocation hwritten',
    PolicyDocument.schedulers_withAllocation, PolicyDocument.schedulers_withAllocation, hwrite]

/-- A cell of 25 downlink blocks with two users, once with a narrow and busy uplink and once with a wide and
idle one. The downlink is the same in both readings, and the uplink is not. -/
theorem links_eq_of_agreeIn_dl :
    let users (bsr : BsrIndex) : List User :=
      [⟨0, 0, 70, ⟨15, by decide⟩, 3, [⟨3, bsr, 4000⟩]⟩, ⟨0, 1, 71, ⟨7, by decide⟩, 9, [⟨3, bsr, 90⟩, ⟨4, bsr, 0⟩]⟩]
    let s : CellStats := ⟨⟨0, 1, 7, ⟨25, 6⟩, Cell.ceilingOf true⟩, users ⟨40, by decide⟩⟩
    let s' : CellStats := ⟨⟨4, 9, 8, ⟨25, 100⟩, ⟨Mcs.qam64Ceiling, ⟨3, by decide⟩⟩⟩, users ⟨0, by decide⟩⟩
    let caps' := McsCaps.default.set ⟨1, by decide⟩ .ul ⟨5, by decide⟩
    let e := Estimate.cell Estimate.defaultUlMcs s
    let e' := Estimate.cell ⟨20, by decide⟩ s'
    let a : CellAllocation Rat := Allocation.cell s.cell e ⟨2, by decide⟩ .default
    let a' : CellAllocation Rat := Allocation.cell s'.cell e' ⟨2, by decide⟩ caps'
    s.AgreeIn .dl s' ∧ McsCaps.default.AgreeIn .dl caps' ∧ e.links .dl = e'.links .dl ∧
      a.links .dl = a'.links .dl ∧ a.links .ul ≠ a'.links .ul ∧
      ∃ written written', PolicyDocument.default.applyAllocation a = .ok written ∧
        PolicyDocument.default.applyAllocation a' = .ok written' ∧
        written.schedulers .dl = written'.schedulers .dl ∧ written.schedulers .ul ≠ written'.schedulers .ul := by
  intro users s s' caps' e e' a a'
  have husers : ∀ bsr bsr', List.Forall₂ (User.AgreeIn .dl) (users bsr) (users bsr') := fun _ _ =>
    .cons ⟨rfl, fun _ => rfl, .cons rfl .nil⟩ (.cons ⟨rfl, fun _ => rfl, .cons rfl (.cons rfl .nil)⟩ .nil)
  have hagree : s.AgreeIn .dl s' := ⟨rfl, rfl, husers _ _⟩
  have hmcs : Direction.dl = .ul → Estimate.defaultUlMcs = ⟨20, by decide⟩ := fun h => absurd h (by decide)
  have hcaps : McsCaps.default.AgreeIn .dl caps' := fun x => by simp [caps', McsCaps.set]
  obtain ⟨hestimates, hallocations, hdocuments⟩ :=
    links_eq_of_agreeIn (α := Rat) hagree hmcs hcaps ⟨2, by decide⟩
  have hschedulers : ∀ d, (PolicyDocument.default (α := Rat)).scheduler? d ≠ none := by
    rintro (_ | _) <;> exact Option.some_ne_none _
  have hvalid : ∀ b ∈ [a, a'], ∀ x ∈ b.slices, ∀ d ∈ Direction.all, Share.Valid (x.share.get d) := by
    decide +kernel
  have hwritten : ∀ b ∈ [a, a'], PolicyDocument.default.applyAllocation b = .ok (.withAllocation .default b) :=
    fun b hb => PolicyDocument.applyAllocation_of_valid hschedulers fun x hx d =>
      hvalid b hb x hx d (by cases d <;> decide)
  have ha := hwritten a (by simp)
  have ha' := hwritten a' (by simp)
  exact ⟨hagree, hcaps, hestimates, hallocations, by decide +kernel, _, _, ha, ha', hdocuments _ _ _ ha ha',
    by decide +kernel⟩

end

end RanSlicing
