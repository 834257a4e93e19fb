import RanSlicing.Proofs.CycleReport
import RanSlicing.Proofs.History
import RanSlicing.Proofs.PolicyWrites

/-!
# Modulation caps

A cycle takes the configured caps of a base station from its policy in effect, and writes the caps that
it allocates back into that policy. So an applied allocation becomes the configuration of the next
cycle, and a cap can only go down: of several applied cells of one base station in a cycle the last one
decides (`McsCaps.afterCells`), and of all cycles the lowest ceiling (`ControlLoop.remaining`).

`ControlLoop.cap_allocated` says what is allocated in any cycle, and exactly when the past plays no
part in it.
-/

namespace RanSlicing

/-! ## The smallest of several values -/

namespace Bounded

variable {q : Quantity}

theorem min_eq_left_of_le {a b : Bounded q} (h : a.val ≤ b.val) : min a b = a := by
  refine Bounded.ext ?_
  rw [val_min]
  omega

/-- What lies below the smallest of several values lies below all of them. -/
theorem le_foldl_min (k : Nat) (ms : List (Bounded q)) (m : Bounded q) :
    k ≤ (ms.foldl min m).val ↔ k ≤ m.val ∧ ∀ x ∈ ms, k ≤ x.val := by
  induction ms generalizing m with
  | nil => simp
  | cons x rest ih =>
    rw [List.foldl_cons, ih, val_min, List.forall_mem_cons, Nat.le_min, and_assoc]

/-- Several values do not show in a minimum exactly when none of them is below it. -/
theorem min_foldl_min_eq_iff (ms : List (Bounded q)) (a b : Bounded q) :
    min (ms.foldl min a) b = min a b ↔ ∀ x ∈ ms, (min a b).val ≤ x.val := by
  have hle : (ms.foldl min a).val ≤ a.val := ((le_foldl_min _ ms a).mp (Nat.le_refl _)).1
  have hiff := le_foldl_min (min a b).val ms a
  have hmin : (min a b).val = min a.val b.val := val_min a b
  rw [Bounded.ext_iff, val_min]
  constructor
  · intro heq
    exact (hiff.mp (by omega)).2
  · intro hms
    have hbelow := hiff.mpr ⟨by omega, hms⟩
    omega

end Bounded

/-! ## The caps of a document -/

/-- The ceiling of a cell never passes that of the direction. -/
theorem Cell.ceilingOf_le (q : Bool) (d : Direction) :
    ((Cell.ceilingOf q).get d).val ≤ (Mcs.ceiling d).val := by
  cases q <;> cases d <;> decide

/-- The cells of a turn keep to the ceilings of the directions. -/
theorem Turn.ceiling_le {timeout : Millis} {t : Turn} {c : CellStats} (hc : c ∈ t.cells timeout)
    (d : Direction) : (c.cell.ceiling.get d).val ≤ (Mcs.ceiling d).val := by
  obtain ⟨q, hq⟩ := Turn.exists_ceilingOf hc
  rw [hq]
  exact Cell.ceilingOf_le q d

/-- Caps as far as a ceiling allows, for the slices that a count covers. -/
def McsCaps.limit (caps : McsCaps) (n : SliceCount) (ceiling : PerDirection Mcs) : McsCaps :=
  ⟨fun s d => if s ∈ n.slices then min (caps.cap s d) (ceiling.get d) else caps.cap s d⟩

theorem McsCaps.cap_limit (caps : McsCaps) (n : SliceCount) (ceiling : PerDirection Mcs) (s : SliceId)
    (d : Direction) : (caps.limit n ceiling).cap s d =
      if s ∈ n.slices then min (caps.cap s d) (ceiling.get d) else caps.cap s d := rfl

variable {α : Type}

/-- A document with a scheduler in each direction, and the caps of its slices. -/
def PolicyDocument.HasCaps (doc : PolicyDocument α) (caps : McsCaps) : Prop :=
  ∀ d, ∃ p, doc.scheduler? d = some p ∧ ∀ s, p.cap s d = caps.cap s d

namespace PolicyDocument.HasCaps

variable {doc written : PolicyDocument α} {caps configured : McsCaps}

/-- The caps of a document are what is read from it. -/
theorem mcsCaps (h : doc.HasCaps caps) : doc.mcsCaps = .ok caps := by
  choose p hp hcap using h
  rw [mcsCaps_of_scheduler? hp]
  exact congrArg Except.ok (congrArg McsCaps.mk (funext fun s => funext fun d => hcap d s))

variable [Share α]

/-- Writing an allocation made from `configured` caps leaves these caps in the slices that it covers, as
far as the ceiling of its cell allows. What was in them before does not matter. -/
theorem applyAllocation (h : doc.HasCaps caps) {c : Cell} {e : CellEstimate} {n : SliceCount}
    (hout : ∀ s d, s ∉ n.slices → caps.cap s d = configured.cap s d)
    (hceiling : ∀ d, (c.ceiling.get d).val ≤ (Mcs.ceiling d).val)
    (hw : doc.applyAllocation (Allocation.cell c e n configured) = .ok written) :
    written.HasCaps (configured.limit n c.ceiling) := by
  intro d
  obtain ⟨p, hp, hcap⟩ := h d
  refine ⟨p.write d (Allocation.cell c e n configured), ?_, fun s => ?_⟩
  · rw [eq_withAllocation hw, scheduler?_withAllocation, hp, Option.map_some]
  have hslices := Allocation.map_slice_cell (α := α) c e n configured
  by_cases hs : s ∈ n.slices
  · have hnodup := n.nodup_slices
    rw [← hslices] at hs hnodup
    obtain ⟨x, hx, rfl⟩ := List.mem_map.mp hs
    rw [Scheduler.cap_write_of_mem hnodup hx, (Allocation.get_of_mem_slices hx d).2,
      McsCaps.cap_limit, if_pos (hslices ▸ hs)]
    refine Bounded.min_eq_left_of_le ?_
    rw [Bounded.val_min]
    exact Nat.le_trans (Nat.min_le_right _ _) (hceiling d)
  · rw [Scheduler.cap_write_of_notMem (hslices ▸ hs), McsCaps.cap_limit, if_neg hs, hcap s,
      hout s d hs]

end PolicyDocument.HasCaps

/-! ## The caps after a cycle -/

/-- The last of several cells at a base station. -/
def CellStats.lastAt (b : BsId) (cells : List CellStats) : Option CellStats :=
  (cells.filter (fun c => c.cell.bsId == b)).getLast?

theorem CellStats.lastAt_concat (b : BsId) (cells : List CellStats) (c : CellStats) :
    lastAt b (cells ++ [c]) = if b = c.cell.bsId then some c else lastAt b cells := by
  rw [lastAt, List.filter_append]
  by_cases h : b = c.cell.bsId
  · rw [if_pos h, List.filter_cons_of_pos (by simp [h]), List.filter_nil, List.getLast?_concat]
  · rw [if_neg h, List.filter_cons_of_neg (by simpa using Ne.symm h), List.filter_nil,
      List.append_nil]
    rfl

/-- The caps that a base station is left with when the allocations of some cells were applied: all of
them were made from the same caps, so the last one decides. -/
def McsCaps.afterCells (caps : McsCaps) (n : SliceCount) (b : BsId) (applied : List CellStats) :
    McsCaps :=
  match CellStats.lastAt b applied with
  | some c => caps.limit n c.cell.ceiling
  | none => caps

/-- Slices that are not covered keep their caps. -/
theorem McsCaps.cap_afterCells_of_notMem {n : SliceCount} {s : SliceId} (hs : s ∉ n.slices)
    (caps : McsCaps) (b : BsId) (applied : List CellStats) (d : Direction) :
    (caps.afterCells n b applied).cap s d = caps.cap s d := by
  simp only [afterCells]
  split
  · exact if_neg hs
  · rfl

theorem McsCaps.afterCells_concat (caps : McsCaps) (n : SliceCount) (b : BsId)
    (applied : List CellStats) (c : CellStats) :
    caps.afterCells n b (applied ++ [c]) =
      if b = c.cell.bsId then caps.limit n c.cell.ceiling else caps.afterCells n b applied := by
  rw [afterCells, afterCells, CellStats.lastAt_concat]
  by_cases h : b = c.cell.bsId
  · rw [if_pos h, if_pos h]
  · rw [if_neg h, if_neg h]

namespace ControlLoop

variable [Share α] {config : LoopConfig}

/-- The step of a cell keeps track of the caps of every base station, if the allocation of the cell was
made from the caps at the start of the cycle. -/
theorem hasCaps_enforceCell (answer : Push → Response Unit) {l : ControlLoop α} {c : CellStats}
    {caps : BsId → McsCaps} {n : SliceCount} {log : List (CellStats × CellRun α)} {e : CellEstimate}
    {planned : Except (ControlError α) (CellAllocation α)}
    (hplanned : planned = .ok (Allocation.cell c.cell e n (caps c.cell.bsId)))
    (hceiling : ∀ d, (c.cell.ceiling.get d).val ≤ (Mcs.ceiling d).val)
    (h : ∀ b, (l.effective b).HasCaps ((caps b).afterCells n b (appliedCells log))) (b : BsId) :
    ((enforceCell config answer l c planned).1.effective b).HasCaps ((caps b).afterCells n b
      (appliedCells (log ++ [(c, (enforceCell config answer l c planned).2)]))) := by
  rw [appliedCells_concat]
  rcases enforceCell_cases config answer l c planned with hidle | ⟨a, doc, ha, heff⟩
  · rw [hidle.notApplied, if_neg Bool.false_ne_true, hidle.effective]
    exact h b
  · rw [heff.outcome, Outcome.isApplied, if_pos rfl, heff.effective, McsCaps.afterCells_concat]
    split
    · next hb =>
      have hwritten := heff.written
      rw [← Except.ok.inj (hplanned.symm.trans ha), ← hb] at hwritten
      refine (h b).applyAllocation ?_ hceiling hwritten
      intro s d hs
      exact McsCaps.cap_afterCells_of_notMem hs ..
    · exact h b

/-- The caps of every base station after a cycle. -/
theorem hasCaps_step {l : ControlLoop α} {caps : BsId → McsCaps}
    (h : ∀ b, (l.effective b).HasCaps (caps b)) (t : Turn) (b : BsId) :
    ((l.step config t).1.effective b).HasCaps ((caps b).afterCells (l.slicesIn t) b
      (t.applied config.timeout (l.step config t).2)) := by
  rw [applied_step]
  revert b
  refine enforced_induct (P := fun l' done => ∀ b, (l'.effective b).HasCaps
    ((caps b).afterCells (l.slicesIn t) b (appliedCells done))) ?_ ?_
  · intro b
    rw [effective_ready]
    exact h b
  · intro l' done c hc hP
    refine hasCaps_enforceCell (e := Estimate.cell Estimate.defaultUlMcs c) t.push ?_
      (Turn.ceiling_le hc) hP
    rw [allocate, effective_ready, (h _).mcsCaps]

/-! ## The caps after a run -/

/-- The ceiling that a cycle leaves in a slice of a base station: that of the last cell whose allocation
was applied, if the cycle covered the slice. -/
def limit? (timeout : Millis) (b : BsId) (s : SliceId) (d : Direction) (e : Turn × CycleResult α) :
    Option Mcs :=
  match e.2.report, CellStats.lastAt b (e.1.applied timeout e.2) with
  | .ok report, some c => if s ∈ report.numSlices.slices then some (c.cell.ceiling.get d) else none
  | _, _ => none

/-- The ceilings that the cycles of a history left in a slice of a base station. -/
def limits (timeout : Millis) (b : BsId) (s : SliceId) (d : Direction)
    (history : List (Turn × CycleResult α)) : List Mcs :=
  history.filterMap (limit? timeout b s d)

/-- What a history leaves of configured caps at a base station: the lowest ceiling, if it is lower. -/
def remaining (configured : McsCaps) (timeout : Millis) (b : BsId)
    (history : List (Turn × CycleResult α)) : McsCaps :=
  ⟨fun s d => (limits timeout b s d history).foldl min (configured.cap s d)⟩

theorem limit?_step (l : ControlLoop α) (t : Turn) (b : BsId) (s : SliceId) (d : Direction) :
    limit? config.timeout b s d (t, (l.step config t).2) =
      (CellStats.lastAt b (t.applied config.timeout (l.step config t).2)).bind fun c =>
        if s ∈ (l.slicesIn t).slices then some (c.cell.ceiling.get d) else none := by
  rw [limit?]
  cases hlast : CellStats.lastAt b (t.applied config.timeout (l.step config t).2) with
  | none => cases (l.step config t).2.report <;> rfl
  | some c =>
    have hc : c ∈ t.cells config.timeout := by
      have happlied := (List.mem_filter.mp (List.mem_of_getLast? hlast)).1
      exact (List.mem_filter.mp happlied).1
    obtain ⟨report, hreport, hn⟩ := report_step_of_mem (l := l) hc
    rw [hreport, ← hn]
    rfl

/-- One more cycle takes away from the caps what its last applied cell does. -/
theorem remaining_concat (configured : McsCaps) (b : BsId) (history : List (Turn × CycleResult α))
    (l : ControlLoop α) (t : Turn) :
    remaining configured config.timeout b (history ++ [(t, (l.step config t).2)]) =
      (remaining configured config.timeout b history).afterCells (l.slicesIn t) b
        (t.applied config.timeout (l.step config t).2) := by
  have hlimits : ∀ s d, limits config.timeout b s d (history ++ [(t, (l.step config t).2)]) =
      limits config.timeout b s d history ++
        (limit? config.timeout b s d (t, (l.step config t).2)).toList := by
    intro s d
    rw [limits, List.filterMap_append, List.filterMap_cons]
    cases limit? config.timeout b s d (t, (l.step config t).2) <;> rfl
  simp only [remaining, McsCaps.afterCells]
  simp only [hlimits, limit?_step]
  cases CellStats.lastAt b (t.applied config.timeout (l.step config t).2) with
  | none => simp
  | some c =>
    refine congrArg McsCaps.mk (funext fun s => funext fun d => ?_)
    by_cases hs : s ∈ (l.slicesIn t).slices
    · rw [Option.bind_some, if_pos hs, if_pos hs, List.foldl_append]
      rfl
    · rw [Option.bind_some, if_neg hs, if_neg hs, Option.toList_none, List.append_nil]

/-- The caps of every base station after a run. -/
theorem hasCaps_after (config : LoopConfig) {template : PolicyDocument α} {configured : McsCaps}
    (htemplate : template.HasCaps configured) (count : SliceCount) (files : Files)
    (turns : List Turn) (b : BsId) :
    (((start template count files).after config turns).effective b).HasCaps
      (remaining configured config.timeout b
        ((start template count files).history config turns)) := by
  revert b
  refine history_induct (P := fun l done => ∀ b, (l.effective b).HasCaps
    (remaining configured config.timeout b done)) ?_ turns _ [] (fun _ => htemplate)
  intro l done t h b
  rw [remaining_concat]
  exact hasCaps_step h t b

/-! ## The caps that a cycle allocates -/

/-- A cell is reported with caps made from those that its base station has. -/
theorem exists_report_of_hasCaps {l : ControlLoop α} {t : Turn} {c : CellStats} {caps : McsCaps}
    (hc : c ∈ t.cells config.timeout) (h : (l.effective c.cell.bsId).HasCaps caps) :
    ∃ report outcome, (l.step config t).2.report = .ok report ∧
      cellReport c (some (Allocation.cell c.cell (Estimate.cell Estimate.defaultUlMcs c)
        report.numSlices caps)) outcome ∈ report.cells := by
  obtain ⟨report, outcome, hreport, hn, hmem⟩ := exists_report (l := l) hc
  rw [allocate, effective_ready, h.mcsCaps, ← hn] at hmem
  exact ⟨report, outcome, hreport, hmem⟩

/-- **Caps are what is configured, as far as no ceiling of the past was lower.** In every cycle of every
run, every cell is reported with an allocation of the slices that the cycle covers. The cap of such a
slice is the lowest of the configured cap, the ceilings that earlier cycles left at the base station, and
the ceiling of the cell now. So it is the smaller of the first and the last exactly when none of those
in between is lower. -/
theorem cap_allocated (config : LoopConfig) {template : PolicyDocument α}
    {scheduler : Direction → Scheduler α}
    (htemplate : ∀ d, template.scheduler? d = some (scheduler d)) (count : SliceCount) (files : Files)
    (turns : List Turn) {t : Turn} {c : CellStats} (hc : c ∈ t.cells config.timeout) :
    let l := (start template count files).after config turns
    let history := (start template count files).history config turns
    ∃ report a outcome, (l.step config t).2.report = .ok report ∧
      cellReport c (some a) outcome ∈ report.cells ∧
      a.slices.map SliceAllocation.slice = report.numSlices.slices ∧
      ∀ x ∈ a.slices, ∀ d,
        let cap := (scheduler d).cap x.slice d
        let ceiling := c.cell.ceiling.get d
        let past := limits config.timeout c.cell.bsId x.slice d history
        x.maxMcs.get d = min (past.foldl min cap) ceiling ∧
          (x.maxMcs.get d = min cap ceiling ↔ ∀ m ∈ past, (min cap ceiling).val ≤ m.val) := by
  intro l history
  have hcaps : template.HasCaps ⟨fun s d => (scheduler d).cap s d⟩ :=
    fun d => ⟨scheduler d, htemplate d, fun _ => rfl⟩
  obtain ⟨report, outcome, hreport, hmem⟩ := exists_report_of_hasCaps hc
    (hasCaps_after config hcaps count files turns c.cell.bsId)
  refine ⟨report, _, outcome, hreport, hmem, Allocation.map_slice_cell .., ?_⟩
  intro x hx d cap ceiling past
  have hcap : x.maxMcs.get d = min (past.foldl min cap) ceiling :=
    (Allocation.get_of_mem_slices hx d).2
  refine ⟨hcap, ?_⟩
  rw [hcap]
  exact Bounded.min_foldl_min_eq_iff past cap ceiling

/-- A cell with 64-QAM may use all of it if its base station was left with that ceiling before, and a push with the
lower one was refused. -/
theorem cap_allocated_after_refusal :
    let config : LoopConfig := ⟨1000, 0, 5000, none, none⟩
    let template : PolicyDocument Rat := .default
    let turns := [Turn.smooth [(1, 7)] 1, Turn.refusing [(1, 8)] 0]
    let t := Turn.smooth [(1, 9)] 1
    let c : CellStats := ⟨⟨0, 1, 9, PerDirection.both 25, Cell.ceilingOf true⟩,
      [⟨0, 0, 70, ⟨15, by decide⟩, 0, []⟩]⟩
    c ∈ t.cells config.timeout ∧
      limits config.timeout 1 ⟨0, by decide⟩ .dl
        ((start template ⟨1, by decide⟩ .empty).history config turns) = [Mcs.qam64Ceiling] ∧
      ∃ report a outcome,
        (((start template ⟨1, by decide⟩ .empty).after config turns).step config t).2.report = .ok report ∧
        cellReport c (some a) outcome ∈ report.cells ∧
        ∀ x ∈ a.slices, x.maxMcs.get .dl = Mcs.qam64Ceiling := by
  intro config template turns t c
  have hc : c ∈ t.cells config.timeout := by decide +kernel
  have hpast : limits config.timeout 1 ⟨0, by decide⟩ .dl
      ((start template ⟨1, by decide⟩ .empty).history config turns) = [Mcs.qam64Ceiling] := by decide +kernel
  obtain ⟨scheduler, htemplate, hconfigured⟩ : ∃ scheduler : Direction → Scheduler Rat,
      (∀ d, template.scheduler? d = some (scheduler d)) ∧
        (scheduler .dl).cap ⟨0, by decide⟩ .dl = Mcs.qam64Ceiling :=
    ⟨fun d => ⟨none, ⟨1, by decide⟩, [1, 2 / 5, 0, 0], List.replicate 4 (Mcs.ceiling d)⟩,
      fun d => by cases d <;> rfl, rfl⟩
  obtain ⟨report, a, outcome, hreport, hmem, hslices, hcaps⟩ :=
    cap_allocated config htemplate ⟨1, by decide⟩ .empty turns hc
  refine ⟨hc, hpast, report, a, outcome, hreport, hmem, fun x hx => ?_⟩
  -- the first slice is the only one
  have hslice : x.slice = ⟨0, by decide⟩ := by
    have hcount : report.numSlices = ⟨1, by decide⟩ := by
      rw [numSlices_of_report hreport]
      decide +kernel
    have hmem : x.slice ∈ report.numSlices.slices := hslices ▸ List.mem_map_of_mem hx
    rw [hcount] at hmem
    exact List.mem_singleton.mp hmem
  obtain ⟨hcap, -⟩ := hcaps x hx .dl
  rw [hcap, hslice, hconfigured, hpast]
  rfl

/-- A cell that was once applied without 64-QAM does not get it back when it is switched on again. -/
theorem cap_allocated_ratchet :
    let config : LoopConfig := ⟨1000, 0, 5000, none, none⟩
    let template : PolicyDocument Rat := .default
    let l := (start template ⟨1, by decide⟩ .empty).after config [Turn.smooth [(1, 7)] 0]
    ∃ c ∈ (Turn.smooth [(1, 8)] 1).cells config.timeout, ∃ report a outcome,
      (l.step config (Turn.smooth [(1, 8)] 1)).2.report = .ok report ∧
        cellReport c (some a) outcome ∈ report.cells ∧
        ∃ x ∈ a.slices, ∃ p, template.scheduler? .dl = some p ∧
          x.maxMcs.get .dl = Mcs.qam16Ceiling ∧
          min (p.cap x.slice .dl) (c.cell.ceiling.get .dl) = Mcs.qam64Ceiling := by
  intro config template l
  let c : CellStats := ⟨⟨0, 1, 8, PerDirection.both 25, Cell.ceilingOf true⟩,
    [⟨0, 0, 70, ⟨15, by decide⟩, 0, []⟩]⟩
  have hc : c ∈ (Turn.smooth [(1, 8)] 1).cells config.timeout := by decide +kernel
  obtain ⟨report, outcome, hreport, -, hmem⟩ := exists_report (l := l) hc
  -- only the allocation itself is computed
  have hcaps : (((l.ready config.timeout (Turn.smooth [(1, 8)] 1)).allocate
      (l.slicesIn (Turn.smooth [(1, 8)] 1)) c).toOption.map fun a =>
        a.slices.map fun x => (x.slice, x.maxMcs.get .dl)) =
      some [(⟨0, by decide⟩, Mcs.qam16Ceiling)] := by decide +kernel
  obtain ⟨a, ha, hslices⟩ := Option.map_eq_some_iff.mp hcaps
  rw [ha] at hmem
  have hx : ((⟨0, by decide⟩ : SliceId), Mcs.qam16Ceiling) ∈
      a.slices.map fun x => (x.slice, x.maxMcs.get .dl) := by
    rw [hslices]
    exact List.mem_singleton.mpr rfl
  obtain ⟨x, hx, heq⟩ := List.mem_map.mp hx
  obtain ⟨hslice, hcap⟩ := Prod.mk.inj heq
  refine ⟨c, hc, report, a, outcome, hreport, hmem, x, hx, _, rfl, hcap, ?_⟩
  rw [hslice]
  decide

end ControlLoop

end RanSlicing
