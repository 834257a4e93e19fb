import RanSlicing.Proofs.EffectivePolicy
import RanSlicing.Proofs.ModulationCaps

/-!
# Restarting the loop

A loop that has run for a while carries policies that its cycles have written to, and reads the caps of
the next cycle back from them. Still it may be stopped and started again at any time without a cell
noticing, as long as 64-QAM is not switched at its base station: under one ceiling the past takes nothing
from the caps that the ceiling would not take from them now (`ControlLoop.limits_eq_of_uniform`). So the
allocation of a cell is what a new loop would make of the same report
(`ControlLoop.allocation_eq_restarted`).
-/

namespace RanSlicing

/-- Whether every cell of a base station that a turn brings has 64-QAM switched one way. -/
def Turn.UniformAt (timeout : Millis) (b : BsId) (q : Bool) (t : Turn) : Prop :=
  ∀ r, t.report? timeout = some r → ∀ i config stats, r.configs[i]? = some config → config.bsId = b →
    Snapshot.cellStats i config r.macs[i]? = .ok stats → config.enables64Qam = q

/-- The cells of such a turn at the base station all have one ceiling. -/
theorem Turn.UniformAt.ceiling {timeout : Millis} {b : BsId} {q : Bool} {t : Turn}
    (h : t.UniformAt timeout b q) {c : CellStats} (hc : c ∈ t.cells timeout) (hb : c.cell.bsId = b) :
    c.cell.ceiling = Cell.ceilingOf q := by
  cases hr : t.report? timeout with
  | none =>
    rw [cells, hr] at hc
    cases hc
  | some r =>
    obtain ⟨i, config, hconfig, hstats⟩ := (mem_cells hr).mp hc
    obtain ⟨-, hbs, hceiling⟩ := Snapshot.eq_of_cellStats hstats
    rw [hceiling, h r hr i config c hconfig (hbs.symm.trans hb) hstats]

theorem Turn.uniformAt_smooth (timeout : Millis) (b : BsId) (cells : List (BsId × UInt32))
    (enable64Qam : UInt8) : (Turn.smooth cells enable64Qam).UniformAt timeout b (enable64Qam ≠ 0) := by
  intro r hr i config stats hconfig _ _
  obtain rfl := Option.some.inj hr
  rw [List.getElem?_map, Option.map_eq_some_iff] at hconfig
  obtain ⟨cell, -, rfl⟩ := hconfig
  rfl

/-- Caps that a cell cannot tell apart lead to the same allocation. -/
theorem Allocation.cell_congr {α : Type} [Share α] {c : Cell} {caps caps' : McsCaps}
    (h : ∀ s d, min (caps.cap s d) (c.ceiling.get d) = min (caps'.cap s d) (c.ceiling.get d))
    (e : CellEstimate) (n : SliceCount) : (cell c e n caps : CellAllocation α) = cell c e n caps' := by
  simp only [cell, h]

namespace ControlLoop

variable {α : Type} [Share α] {config : LoopConfig}

/-- What the past leaves of the caps at a base station where 64-QAM was always switched one way is the
one ceiling that goes with it. -/
theorem limits_eq_of_uniform {l : ControlLoop α} {turns : List Turn} {b : BsId} {q : Bool}
    (h : ∀ u ∈ turns, u.UniformAt config.timeout b q) {s : SliceId} {d : Direction} {m : Mcs}
    (hm : m ∈ limits config.timeout b s d (l.history config turns)) : m = (Cell.ceilingOf q).get d := by
  obtain ⟨e, he, hlimit⟩ := List.mem_filterMap.mp hm
  have hturn := h e.1 (map_fst_history config l turns ▸ List.mem_map_of_mem he)
  simp only [limit?] at hlimit
  split at hlimit
  · next report c hreport hlast =>
    obtain ⟨happlied, hb⟩ := List.mem_filter.mp (List.mem_of_getLast? hlast)
    have hc := (List.mem_filter.mp happlied).1
    rw [hturn.ceiling hc (beq_iff_eq.mp hb)] at hlimit
    split at hlimit
    · exact (Option.some.inj hlimit).symm
    · cases hlimit
  · cases hlimit

/-- The report of a position that makes sense comes with the allocation that was made for it. -/
theorem exists_allocation {l : ControlLoop α} {t : Turn} {r : StatsReport}
    (hr : t.report? config.timeout = some r) {i : Nat} {c : EnbConfig} (hc : r.configs[i]? = some c)
    {stats : CellStats} (hstats : Snapshot.cellStats i c r.macs[i]? = .ok stats) :
    ∃ x, (l.step config t).2.cells[i]? = some x ∧
      x.allocation = (l.allocate (l.slicesIn t) stats).toOption := by
  obtain ⟨run, he⟩ := exists_mem_cellLog (l := l) hr hc hstats
  have hx := getElem?_cells_of_mem_cellLog he
  rw [(Snapshot.eq_of_cellStats hstats).1] at hx
  refine ⟨run.report, hx, ?_⟩
  have hreport := congrArg CellReport.allocation (report_of_mem_cellLog he)
  rw [allocate, effective_ready] at hreport
  exact hreport

/-- Nothing is allocated without a scheduler. -/
theorem allocate_of_scheduler?_eq_none {l : ControlLoop α} {c : CellStats} {d : Direction}
    (h : (l.effective c.cell.bsId).scheduler? d = none) (n : SliceCount) :
    (l.allocate n c).toOption = none := by
  rcases (l.effective c.cell.bsId).mcsCaps_cases with ⟨_, -, herr⟩ | ⟨p, hp, -⟩
  · rw [allocate, herr]
    rfl
  · rw [hp d] at h
    cases h

/-- A cell is allocated by the caps of its base station. -/
theorem allocate_of_hasCaps {l : ControlLoop α} {c : CellStats} {caps : McsCaps}
    (h : (l.effective c.cell.bsId).HasCaps caps) (n : SliceCount) : l.allocate n c =
      .ok (Allocation.cell c.cell (Estimate.cell Estimate.defaultUlMcs c) n caps) := by
  rw [allocate, h.mcsCaps]

/-- While 64-QAM is switched one way at its base station, a cell is allocated by the caps of the
template. -/
theorem allocate_after_of_uniform (config : LoopConfig) {template : PolicyDocument α}
    {configured : McsCaps} (htemplate : template.HasCaps configured) (count : SliceCount)
    (files : Files) {turns : List Turn} {c : CellStats} {q : Bool}
    (huniform : ∀ u ∈ turns, u.UniformAt config.timeout c.cell.bsId q)
    (hceiling : c.cell.ceiling = Cell.ceilingOf q) (n : SliceCount) :
    ((start template count files).after config turns).allocate n c =
      .ok (Allocation.cell c.cell (Estimate.cell Estimate.defaultUlMcs c) n configured) := by
  rw [allocate_of_hasCaps (hasCaps_after config htemplate count files turns c.cell.bsId)]
  refine congrArg Except.ok (Allocation.cell_congr (fun s d => ?_) _ n)
  -- a ceiling of the past shows only if it is below the ceiling of the cell
  refine (Bounded.min_foldl_min_eq_iff _ _ _).mpr fun m hm => ?_
  rw [limits_eq_of_uniform huniform hm, hceiling, Bounded.val_min]
  exact Nat.min_le_right _ _

/-- **Restarting the loop.** Let a run have gone on for any number of cycles, and let 64-QAM have been
switched one way in all cells of a base station that made sense so far, this cycle included. Then the
allocation of such a cell is the one that a new loop with the same template makes in its first cycle from
the same report for as many slices. There is one exactly if the template has both schedulers. -/
theorem allocation_eq_restarted (config config' : LoopConfig) (template : PolicyDocument α)
    (count count' : SliceCount) (files files' : Files) {turns : List Turn} {t t' : Turn} {b : BsId}
    {q : Bool} (huniform : ∀ u ∈ turns ++ [t], u.UniformAt config.timeout b q) {r : StatsReport}
    (hr : t.report? config.timeout = some r) (hr' : t'.report? config'.timeout = some r)
    (hn : ((start template count files).after config turns).slicesIn t =
      (start template count' files').slicesIn t')
    {i : Nat} {c : EnbConfig} (hc : r.configs[i]? = some c) (hb : c.bsId = b) {stats : CellStats}
    (hstats : Snapshot.cellStats i c r.macs[i]? = .ok stats) :
    let aged := (start template count files).after config turns
    let fresh := start template count' files'
    ∃ x x', (aged.step config t).2.cells[i]? = some x ∧
      (fresh.step config' t').2.cells[i]? = some x' ∧ x.allocation = x'.allocation ∧
      (x.allocation.isSome ↔ ∀ d, template.scheduler? d ≠ none) := by
  intro aged fresh
  obtain ⟨x, hx, hallocation⟩ := exists_allocation (l := aged) hr hc hstats
  obtain ⟨x', hx', hallocation'⟩ := exists_allocation (l := fresh) hr' hc hstats
  refine ⟨x, x', hx, hx', ?_⟩
  rw [hallocation, hallocation', ← hn]
  rcases template.mcsCaps_cases with ⟨d, hd, -⟩ | ⟨p, hp, -⟩
  · -- what the template lacks, no policy of the run has
    have haged := allocate_of_scheduler?_eq_none (l := aged) (c := stats)
      ((scheduler?_after config _ turns _ d).mpr hd) (aged.slicesIn t)
    have hfresh := allocate_of_scheduler?_eq_none (l := fresh) (c := stats) hd (aged.slicesIn t)
    rw [haged, hfresh]
    exact ⟨rfl, fun h => absurd h Bool.false_ne_true, fun h => absurd hd (h d)⟩
  obtain ⟨-, hbs, hceiling⟩ := Snapshot.eq_of_cellStats hstats
  have hcaps : template.HasCaps ⟨fun s d => (p d).cap s d⟩ := fun d => ⟨p d, hp d, fun _ => rfl⟩
  obtain rfl : stats.cell.bsId = b := hbs.trans hb
  rw [huniform t (by simp) r hr i c stats hc hb hstats] at hceiling
  rw [allocate_after_of_uniform config hcaps count files
      (fun u hu => huniform u (List.mem_append_left _ hu)) hceiling,
    allocate_of_hasCaps (l := fresh) hcaps]
  refine ⟨rfl, fun _ d => ?_, fun _ => rfl⟩
  rw [hp d]
  exact Option.some_ne_none _

/-- In its third cycle, with more slices than before, a loop allocates what a new one does. -/
theorem allocation_eq_restarted_third_cycle :
    let config : LoopConfig := ⟨1000, 0, 5000, none, none⟩
    let template : PolicyDocument Rat := .default
    let turns := [Turn.smooth [(1, 7)] 1, Turn.failing 40]
    let t : Turn := { Turn.smooth [(1, 8)] 1 with typed := [3] }
    let aged := (start template ⟨1, by decide⟩ .empty).after config turns
    let fresh := start template ⟨3, by decide⟩ .empty
    (∀ u ∈ turns ++ [t], u.UniformAt config.timeout 1 true) ∧
      ∃ x x', (aged.step config t).2.cells[0]? = some x ∧
        (fresh.step config (.smooth [(1, 8)] 1)).2.cells[0]? = some x' ∧
        x.allocation = x'.allocation ∧ x.allocation.isSome := by
  intro config template turns t aged fresh
  have huniform : ∀ u ∈ turns ++ [t], u.UniformAt config.timeout 1 true := by
    intro u hu
    simp only [turns, List.cons_append, List.nil_append, List.mem_cons, List.not_mem_nil, or_false] at hu
    rcases hu with rfl | rfl | rfl
    · exact Turn.uniformAt_smooth config.timeout 1 [(1, 7)] 1
    · exact nofun
    · exact Turn.uniformAt_smooth config.timeout 1 [(1, 8)] 1
  let r : StatsReport :=
    ⟨[⟨1, [⟨0, .both 25, 1⟩]⟩], [⟨1, [⟨70, ⟨[], 0, [], some ⟨8, [⟨0, some 15⟩]⟩⟩⟩]⟩]⟩
  have hr : (Turn.smooth [(1, 8)] 1).report? config.timeout = some r := rfl
  have hstats : Snapshot.cellStats 0 ⟨1, [⟨0, .both 25, 1⟩]⟩ r.macs[0]? =
      .ok ⟨⟨0, 1, 8, .both 25, Cell.ceilingOf true⟩, [⟨0, 0, 70, ⟨15, by decide⟩, 0, []⟩]⟩ := by
    decide +kernel
  obtain ⟨x, x', hx, hx', hsame, hsome⟩ := allocation_eq_restarted config config template
    ⟨1, by decide⟩ ⟨3, by decide⟩ .empty .empty huniform hr hr (by decide +kernel) rfl rfl hstats
  exact ⟨huniform, x, x', hx, hx', hsame, hsome.mpr (by rintro (_ | _) <;> exact nofun)⟩

end ControlLoop

end RanSlicing
