import RanSlicing.Proofs.Cycle
import Mathlib.Data.List.Nodup

/-!
# What a cycle reports

A report lists every cell of its turn once, with the allocation that was made for it and what became
of that allocation, and it lists the cells that were left out. Both kinds are merged in the order of
their positions, and every position has one report (`ControlLoop.map_enbId_cells_step`), so the report of
a cell is found at its position.

`Turn.applied` reads the cells whose policy took effect back out of a report. These are exactly the cells
whose step put a policy into effect, in their order (`ControlLoop.applied_step`).
-/

namespace RanSlicing

variable {α : Type}

/-- What a cycle says about its cells, in the order of their positions. A cycle without a report says
nothing. -/
def CycleResult.cells (r : CycleResult α) : List (CellReport α) :=
  match r.report with
  | .ok report => report.cells
  | .error _ => []

/-- The cells of a turn whose policy took effect, as the cycle reports it. -/
def Turn.applied (timeout : Millis) (t : Turn) (r : CycleResult α) : List CellStats :=
  (t.cells timeout).filter (fun c =>
    r.cells.any (fun x => x.enbId == c.cell.enbId && x.outcome.isApplied))

/-- An element is the only one of its kind in a list without two of a kind. -/
theorem filter_eq_singleton {β κ : Type} [DecidableEq κ] {f : β → κ} {xs : List β}
    (h : (xs.map f).Nodup) {x : β} (hx : x ∈ xs) : xs.filter (fun y => f y = f x) = [x] := by
  induction xs with
  | nil => cases hx
  | cons y rest ih =>
    rw [List.map_cons, List.nodup_cons] at h
    rcases List.mem_cons.mp hx with rfl | hx
    · rw [List.filter_cons_of_pos (by simp), List.filter_eq_nil_iff.mpr]
      intro z hz
      rw [decide_eq_true_eq]
      exact fun heq => h.1 (heq ▸ List.mem_map_of_mem hz)
    · have hne : f y ≠ f x := fun heq => h.1 (heq ▸ List.mem_map_of_mem hx)
      rw [List.filter_cons_of_neg (by simpa using hne), ih h.2 hx]

namespace ControlLoop

/-- The cells of a log whose step put a policy into effect. -/
def appliedCells (log : List (CellStats × CellRun α)) : List CellStats :=
  (log.filter (fun e => e.2.report.outcome.isApplied)).map Prod.fst

/-- One more cell counts if it was applied. -/
theorem appliedCells_concat (log : List (CellStats × CellRun α)) (c : CellStats) (r : CellRun α) :
    appliedCells (log ++ [(c, r)]) =
      if r.report.outcome.isApplied then appliedCells log ++ [c] else appliedCells log := by
  by_cases h : r.report.outcome.isApplied = true
  · simp [appliedCells, h]
  · simp [appliedCells, h]

/-- Merged reports stand in the order of their positions. -/
theorem pairwise_merge (runs : List (CellRun α)) (rejected : List RejectedCell) :
    (merge runs rejected).Pairwise (fun a b => a.enbId ≤ b.enbId) := by
  have hsorted := @List.pairwise_mergeSort (CellReport α) (fun a b => a.enbId ≤ b.enbId)
    (fun a b c hab hbc => by
      rw [decide_eq_true_eq] at hab hbc ⊢
      exact Nat.le_trans hab hbc)
    (fun a b => by
      rw [Bool.or_eq_true, decide_eq_true_eq, decide_eq_true_eq]
      exact Nat.le_total a.enbId b.enbId)
    (runs.map CellRun.report ++ rejected.map rejectedReport)
  simpa only [merge, decide_eq_true_eq] using hsorted

variable [Share α] {config : LoopConfig} {l : ControlLoop α} {t : Turn}

/-! ## Reported cells -/

theorem cells_step (config : LoopConfig) (l : ControlLoop α) (t : Turn) :
    (l.step config t).2.cells = ((t.report? config.timeout).map fun r =>
      merge (l.enforced config t).2 (Snapshot.ofReport r).rejected).getD [] := by
  have hcells : (l.step config t).2.cells =
      ((l.step config t).2.report.toOption.map CycleReport.cells).getD [] := by
    simp only [CycleResult.cells]
    cases (l.step config t).2.report <;> rfl
  rw [hcells, (step_eq config l t).2.2, Option.map_map]
  rfl

theorem cells_step_of_none (hr : t.report? config.timeout = none) : (l.step config t).2.cells = [] := by
  rw [cells_step, hr]
  rfl

/-- A cycle reports its cells and those that were left out, and nothing else. -/
theorem mem_cells_step {x : CellReport α} :
    x ∈ (l.step config t).2.cells ↔
      (∃ e ∈ l.cellLog config t, e.2.report = x) ∨
        ∃ r, t.report? config.timeout = some r ∧
          ∃ c ∈ (Snapshot.ofReport r).rejected, rejectedReport c = x := by
  have hlog : (∃ e ∈ l.cellLog config t, e.2.report = x) ↔
      x ∈ (l.enforced config t).2.map CellRun.report := by
    rw [← map_snd_cellLog, List.map_map, List.mem_map]
    rfl
  rw [cells_step]
  cases hr : t.report? config.timeout with
  | none =>
    have hempty : l.cellLog config t = [] := by
      rw [cellLog, Turn.cells, hr, List.zip_nil_left]
    simp [hempty]
  | some r =>
    rw [Option.map_some, Option.getD_some, merge, List.mem_mergeSort, List.mem_append, hlog,
      List.mem_map (f := rejectedReport)]
    simp

/-- What is reported of a cell besides its outcome was fixed before the first cell was enforced. -/
theorem report_of_mem_cellLog {e : CellStats × CellRun α} (he : e ∈ l.cellLog config t) :
    e.2.report = cellReport e.1 ((l.ready config.timeout t).allocate (l.slicesIn t) e.1).toOption
      e.2.report.outcome := by
  refine enforced_induct (P := fun _ done => ∀ e ∈ done, e.2.report = cellReport e.1
    ((l.ready config.timeout t).allocate (l.slicesIn t) e.1).toOption e.2.report.outcome) ?_ ?_ e he
  · exact fun _ h => absurd h List.not_mem_nil
  · intro l' done c _ hP e he
    rcases List.mem_append.mp he with he | he
    · exact hP e he
    · rw [List.mem_singleton.mp he]
      exact report_enforceCell config t.push l' c _

/-- A cycle that gets a report makes one, for the number of slices that it started with. -/
theorem report_step {r : StatsReport} (hr : t.report? config.timeout = some r) :
    (l.step config t).2.report = .ok ⟨l.cycle + 1, l.slicesIn t,
      merge (l.enforced config t).2 (Snapshot.ofReport r).rejected⟩ := by
  rw [← toOption_eq_some_iff, (step_eq config l t).2.2, hr, Option.map_some]

/-- Whatever a cycle reports is for the number of slices that it started with. -/
theorem numSlices_of_report {report : CycleReport α} (h : (l.step config t).2.report = .ok report) :
    report.numSlices = l.slicesIn t := by
  have hsome := (step_eq config l t).2.2
  rw [h] at hsome
  obtain ⟨r, -, rfl⟩ := Option.map_eq_some_iff.mp hsome.symm
  rfl

/-- A cycle with a cell reports, for the number of slices that it started with. -/
theorem report_step_of_mem {c : CellStats} (hc : c ∈ t.cells config.timeout) :
    ∃ report, (l.step config t).2.report = .ok report ∧ report.numSlices = l.slicesIn t := by
  cases hr : t.report? config.timeout with
  | none =>
    rw [Turn.cells, hr] at hc
    cases hc
  | some r => exact ⟨_, report_step hr, rfl⟩

/-- Every cell of a turn is reported, with the allocation that was made for it. -/
theorem exists_report {c : CellStats} (hc : c ∈ t.cells config.timeout) :
    ∃ report outcome, (l.step config t).2.report = .ok report ∧ report.numSlices = l.slicesIn t ∧
      cellReport c ((l.ready config.timeout t).allocate (l.slicesIn t) c).toOption outcome ∈
        report.cells := by
  obtain ⟨report, hreport, hn⟩ := report_step_of_mem (l := l) hc
  rw [← map_fst_cellLog config l t] at hc
  obtain ⟨e, he, rfl⟩ := List.mem_map.mp hc
  refine ⟨report, e.2.report.outcome, hreport, hn, ?_⟩
  have hmem := mem_cells_step.mpr (.inl ⟨e, he, rfl⟩)
  rw [CycleResult.cells, hreport, report_of_mem_cellLog he] at hmem
  exact hmem

/-! ## Positions -/

theorem enbId_of_mem_cellLog {e : CellStats × CellRun α} (he : e ∈ l.cellLog config t) :
    e.2.report.enbId = e.1.cell.enbId := by
  rw [report_of_mem_cellLog he]
  rfl

/-- A position that makes sense has a cell in the log. -/
theorem exists_mem_cellLog {r : StatsReport} (hr : t.report? config.timeout = some r) {i : Nat}
    {c : EnbConfig} (hc : r.configs[i]? = some c) {stats : CellStats}
    (hstats : Snapshot.cellStats i c r.macs[i]? = .ok stats) :
    ∃ run, (stats, run) ∈ l.cellLog config t := by
  have hmem := (Turn.mem_cells hr).mpr ⟨i, c, hc, hstats⟩
  rw [← map_fst_cellLog config l t] at hmem
  obtain ⟨e, he, rfl⟩ := List.mem_map.mp hmem
  exact ⟨e.2, he⟩

/-- A cell of the log makes sense at its position. -/
theorem cellStats_of_mem_cellLog {r : StatsReport} (hr : t.report? config.timeout = some r)
    {e : CellStats × CellRun α} (he : e ∈ l.cellLog config t) :
    ∃ c, r.configs[e.1.cell.enbId]? = some c ∧
      Snapshot.cellStats e.1.cell.enbId c r.macs[e.1.cell.enbId]? = .ok e.1 := by
  obtain ⟨i, c, hc, hstats⟩ := (Turn.mem_cells hr).mp (mem_cells_of_mem_cellLog he)
  rw [(Snapshot.eq_of_cellStats hstats).1]
  exact ⟨c, hc, hstats⟩

/-- The reports of a cycle are in the order of their positions, and none is missing. -/
theorem map_enbId_cells_step {r : StatsReport} (hr : t.report? config.timeout = some r) :
    (l.step config t).2.cells.map CellReport.enbId = List.range r.configs.length := by
  have hruns : (l.enforced config t).2.map (fun run => run.report.enbId) =
      (Snapshot.ofReport r).cells.map (fun c => c.cell.enbId) := by
    have hcells : (Snapshot.ofReport r).cells = t.cells config.timeout := by rw [Turn.cells, hr]
    rw [hcells, ← map_fst_cellLog config l t, ← map_snd_cellLog, List.map_map, List.map_map]
    exact List.map_congr_left fun e he => enbId_of_mem_cellLog he
  have hperm : ((l.step config t).2.cells.map CellReport.enbId).Perm
      (List.range r.configs.length) := by
    refine List.Perm.trans ?_ (Snapshot.perm_ofReport r)
    rw [cells_step, hr, Option.map_some, Option.getD_some, merge, ← hruns]
    refine ((List.mergeSort_perm _ _).map CellReport.enbId).trans ?_
    rw [List.map_append, List.map_map, List.map_map]
    exact .refl _
  -- ascending lists with the same elements are the same
  refine hperm.eq_of_pairwise (fun a b _ _ hab hba => Nat.le_antisymm hab hba) ?_ ?_
  · rw [List.pairwise_map, cells_step, hr]
    exact pairwise_merge _ _
  · exact List.pairwise_lt_range.imp Nat.le_of_lt

/-- The report at a position is the one with that position. -/
theorem getElem?_cells_step {i : Nat} {x : CellReport α} :
    (l.step config t).2.cells[i]? = some x ↔ x ∈ (l.step config t).2.cells ∧ x.enbId = i := by
  have hposition : ∀ {j : Nat} {y : CellReport α},
      (l.step config t).2.cells[j]? = some y → y.enbId = j := by
    intro j y hy
    cases hr : t.report? config.timeout with
    | none => rw [cells_step_of_none hr] at hy; cases hy
    | some r =>
      have hid : ((l.step config t).2.cells.map CellReport.enbId)[j]? = some y.enbId := by
        rw [List.getElem?_map, hy, Option.map_some]
      rw [map_enbId_cells_step hr] at hid
      obtain ⟨hlt, hget⟩ := List.getElem?_eq_some_iff.mp hid
      rw [List.getElem_range] at hget
      exact hget.symm
  constructor
  · intro hx
    exact ⟨List.mem_of_getElem? hx, hposition hx⟩
  · rintro ⟨hx, rfl⟩
    obtain ⟨j, hj⟩ := List.getElem?_of_mem hx
    rw [hposition hj]
    exact hj

theorem length_cells_step {r : StatsReport} (hr : t.report? config.timeout = some r) :
    (l.step config t).2.cells.length = r.configs.length := by
  rw [← List.length_map (f := CellReport.enbId), map_enbId_cells_step hr, List.length_range]

/-- Behind the last position of a report there is nothing to say. -/
theorem getElem?_cells_of_none {r : StatsReport} (hr : t.report? config.timeout = some r) {i : Nat}
    (hi : r.configs[i]? = none) : (l.step config t).2.cells[i]? = none := by
  rw [List.getElem?_eq_none_iff] at hi ⊢
  rwa [length_cells_step hr]

/-- A cell of a cycle is reported at its position. -/
theorem getElem?_cells_of_mem_cellLog {e : CellStats × CellRun α} (he : e ∈ l.cellLog config t) :
    (l.step config t).2.cells[e.1.cell.enbId]? = some e.2.report :=
  getElem?_cells_step.mpr ⟨mem_cells_step.mpr (.inl ⟨e, he, rfl⟩), enbId_of_mem_cellLog he⟩

/-- A cell that was left out is reported at its position. -/
theorem getElem?_cells_of_error {r : StatsReport} (hr : t.report? config.timeout = some r) {i : Nat}
    {c : EnbConfig} (hc : r.configs[i]? = some c) {f : StatsFault}
    (hf : Snapshot.cellStats i c r.macs[i]? = .error f) :
    (l.step config t).2.cells[i]? = some (rejectedReport ⟨i, c.bsId, f⟩) := by
  have hrejected : (⟨i, c.bsId, f⟩ : RejectedCell) ∈ (Snapshot.ofReport r).rejected :=
    Snapshot.mem_rejected_ofReport.mpr ⟨i, c, f, hc, hf, rfl⟩
  exact getElem?_cells_step.mpr ⟨mem_cells_step.mpr (.inr ⟨r, hr, _, hrejected, rfl⟩), rfl⟩

/-- The cells of a cycle stand at different positions. -/
theorem nodup_enbId_cellLog (config : LoopConfig) (l : ControlLoop α) (t : Turn) :
    ((l.cellLog config t).map (fun e => e.1.cell.enbId)).Nodup := by
  have hmap : (l.cellLog config t).map (fun e => e.1.cell.enbId) =
      (t.cells config.timeout).map (fun c => c.cell.enbId) := by
    rw [← map_fst_cellLog config l t, List.map_map]
    rfl
  rw [hmap, List.Nodup, List.pairwise_map]
  exact (t.pairwise_enbId_cells config.timeout).imp fun h => Nat.ne_of_lt h

/-! ## Pushes -/

/-- Whatever a cell pushes names that cell and its base station. -/
theorem push_of_mem_cellLog {e : CellStats × CellRun α} (he : e ∈ l.cellLog config t) :
    ∀ x ∈ e.2.exchange, x.push.enbId = e.1.cell.enbId ∧ x.push.bsId = e.1.cell.bsId := by
  refine enforced_induct (P := fun _ done => ∀ e ∈ done, ∀ x ∈ e.2.exchange,
    x.push.enbId = e.1.cell.enbId ∧ x.push.bsId = e.1.cell.bsId) ?_ ?_ e he
  · exact fun _ h => absurd h List.not_mem_nil
  · intro l' done c _ hP
    refine List.forall_mem_append.mpr ⟨hP, List.forall_mem_singleton.mpr fun x hx => ?_⟩
    obtain ⟨a, doc, ha, -, hpush⟩ := push_enforceCell config t.push l' c _ x hx
    rw [hpush]
    exact ⟨rfl, bsId_of_allocate ha⟩

/-- Every push of a cycle is that of a cell, and names it. -/
theorem exists_of_mem_exchanges {x : Exchange} (hx : x ∈ (l.step config t).2.exchanges) :
    ∃ e ∈ l.cellLog config t, x.push.enbId = e.1.cell.enbId ∧ x.push.bsId = e.1.cell.bsId := by
  rw [exchanges_step] at hx
  obtain ⟨e, he, hx⟩ := List.mem_flatMap.mp hx
  exact ⟨e, he, push_of_mem_cellLog he x (Option.mem_toList.mp hx)⟩

/-- The pushes with a property that tells cells apart are those of the cells that have it. -/
theorem filter_exchanges_step {p : Push → Bool} {q : CellStats → Bool}
    (h : ∀ e ∈ l.cellLog config t, ∀ x ∈ e.2.exchange, p x.push = q e.1) :
    (l.step config t).2.exchanges.filter (fun x => p x.push) =
      ((l.cellLog config t).filter (fun e => q e.1)).flatMap (fun e => e.2.exchange.toList) := by
  rw [exchanges_step]
  generalize l.cellLog config t = log at h ⊢
  induction log with
  | nil => rfl
  | cons e rest ih =>
    rw [List.flatMap_cons, List.filter_append, ih fun e he => h e (List.mem_cons_of_mem _ he)]
    cases hx : e.2.exchange with
    | none => cases hq : q e.1 <;> simp [hq, hx]
    | some x =>
      have hpq : p x.push = q e.1 := h e (List.mem_cons_self ..) x (by simp [hx])
      cases hq : q e.1 <;> simp [hpq, hq, hx]

/-- The push of a cell is the one that names its position. -/
theorem filter_exchanges_of_mem_cellLog {e : CellStats × CellRun α} (he : e ∈ l.cellLog config t) :
    (l.step config t).2.exchanges.filter (fun x => x.push.enbId = e.1.cell.enbId) =
      e.2.exchange.toList := by
  have hpush : ∀ e' ∈ l.cellLog config t, ∀ x ∈ e'.2.exchange,
      decide (x.push.enbId = e.1.cell.enbId) = decide (e'.1.cell.enbId = e.1.cell.enbId) := by
    intro e' he' x hx
    rw [(push_of_mem_cellLog he' x hx).1]
  rw [filter_exchanges_step (p := fun push => push.enbId = e.1.cell.enbId)
    (q := fun c => c.cell.enbId = e.1.cell.enbId) hpush,
    filter_eq_singleton (nodup_enbId_cellLog config l t) he, List.flatMap_singleton]

/-- Nothing is pushed at a position that was left out. -/
theorem filter_exchanges_of_error {r : StatsReport} (hr : t.report? config.timeout = some r) {i : Nat}
    {c : EnbConfig} (hc : r.configs[i]? = some c) {f : StatsFault}
    (hf : Snapshot.cellStats i c r.macs[i]? = .error f) :
    (l.step config t).2.exchanges.filter (fun x => x.push.enbId = i) = [] := by
  rw [List.filter_eq_nil_iff]
  intro x hx hxi
  obtain ⟨e, he, henb, -⟩ := exists_of_mem_exchanges hx
  obtain ⟨c', hc', hstats⟩ := cellStats_of_mem_cellLog hr he
  rw [← henb, of_decide_eq_true hxi] at hc' hstats
  obtain rfl := Option.some.inj (hc.symm.trans hc')
  rw [hf] at hstats
  cases hstats

/-- Every push names a position of the report. -/
theorem enbId_lt_of_mem_exchanges {r : StatsReport} (hr : t.report? config.timeout = some r)
    {x : Exchange} (hx : x ∈ (l.step config t).2.exchanges) : x.push.enbId < r.configs.length := by
  obtain ⟨e, he, henb, -⟩ := exists_of_mem_exchanges hx
  obtain ⟨c, hc, -⟩ := cellStats_of_mem_cellLog hr he
  rw [henb]
  exact (List.getElem?_eq_some_iff.mp hc).1

/-- Pushes go out in the order of the positions. -/
theorem pairwise_exchanges_step (config : LoopConfig) (l : ControlLoop α) (t : Turn) :
    (l.step config t).2.exchanges.Pairwise (fun x y => x.push.enbId < y.push.enbId) := by
  have hlog : (l.cellLog config t).Pairwise (fun e e' => e.1.cell.enbId < e'.1.cell.enbId) := by
    rw [← List.pairwise_map (f := Prod.fst)
      (R := fun c c' : CellStats => c.cell.enbId < c'.cell.enbId), map_fst_cellLog]
    exact t.pairwise_enbId_cells config.timeout
  rw [exchanges_step, List.pairwise_flatMap]
  constructor
  · intro e _
    cases e.2.exchange with
    | none => exact .nil
    | some x => exact List.pairwise_singleton _ x
  · refine hlog.imp_of_mem fun {e e'} he he' hlt x hx y hy => ?_
    rw [(push_of_mem_cellLog he x (Option.mem_toList.mp hx)).1,
      (push_of_mem_cellLog he' y (Option.mem_toList.mp hy)).1]
    exact hlt

/-! ## Applied cells -/

/-- **Applied cells.** The cells that a cycle reports as applied are those whose step put a policy into
effect. -/
theorem applied_step (config : LoopConfig) (l : ControlLoop α) (t : Turn) :
    t.applied config.timeout (l.step config t).2 = appliedCells (l.cellLog config t) := by
  rw [Turn.applied, ← map_fst_cellLog config l t, List.filter_map, appliedCells]
  refine congrArg _ (List.filter_congr fun e he => ?_)
  rw [Function.comp_apply, Bool.eq_iff_iff, List.any_eq_true]
  constructor
  · rintro ⟨x, hx, hand⟩
    rw [Bool.and_eq_true, beq_iff_eq] at hand
    rcases mem_cells_step.mp hx with ⟨e', he', rfl⟩ | ⟨r, -, c, -, rfl⟩
    · -- the report with the position of this cell is its own
      have heq := List.inj_on_of_nodup_map (nodup_enbId_cellLog config l t) he' he
        (by rw [← enbId_of_mem_cellLog he', hand.1])
      rw [← heq]
      exact hand.2
    · exact absurd hand.2 Bool.false_ne_true
  · intro happlied
    refine ⟨e.2.report, mem_cells_step.mpr (.inl ⟨e, he, rfl⟩), ?_⟩
    rw [enbId_of_mem_cellLog he, happlied]
    simp

end ControlLoop

end RanSlicing
