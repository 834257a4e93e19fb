import RanSlicing.Proofs.CellStep
import RanSlicing.Proofs.Snapshot
import Mathlib.Data.List.Basic

/-!
# One cycle, cell by cell

A cycle is the fold of the step of a cell over the cells that its report brings; a cycle whose fetch
failed is the same fold over no cells. `ControlLoop.ready` is the loop before the first of these
steps and `ControlLoop.enforced` what comes out after the last, together with what happened to each
cell. `ControlLoop.enforced_induct` is the induction over the cells that every invariant of a cycle
is proved by.
-/

namespace RanSlicing

/-! ## What a turn brings -/

namespace Turn

/-- The report that a loop gets to see. -/
def report? (timeout : Millis) (t : Turn) : Option StatsReport :=
  match t.fetch.inTime? timeout with
  | some (.ok r) => some r
  | _ => none

/-- The cells that the loop has to deal with; there are none without a report. -/
def cells (timeout : Millis) (t : Turn) : List CellStats :=
  match t.report? timeout with
  | some r => (Snapshot.ofReport r).cells
  | none => []

/-- A report is seen if the fetch is answered with it in time. -/
theorem report?_eq_some_iff {timeout : Millis} {t : Turn} {r : StatsReport} :
    t.report? timeout = some r ↔ t.fetch.delay ≤ timeout ∧ t.fetch.result = .ok r := by
  rw [report?, Response.inTime?]
  by_cases h : t.fetch.delay ≤ timeout
  · rw [if_pos h]
    cases t.fetch.result <;> simp [h]
  · simp [h]

/-- The cells of a turn are those that make sense at their positions in its report. -/
theorem mem_cells {timeout : Millis} {t : Turn} {r : StatsReport} (hr : t.report? timeout = some r)
    {c : CellStats} : c ∈ t.cells timeout ↔
      ∃ i config, r.configs[i]? = some config ∧ Snapshot.cellStats i config r.macs[i]? = .ok c := by
  rw [cells, hr]
  exact Snapshot.mem_cells_ofReport

/-- The positions of the cells of a turn ascend. -/
theorem pairwise_enbId_cells (timeout : Millis) (t : Turn) :
    (t.cells timeout).Pairwise (fun c c' => c.cell.enbId < c'.cell.enbId) := by
  simp only [cells]
  split
  · exact Snapshot.pairwise_enbId_cells _
  · exact List.Pairwise.nil

/-- A cell has the ceilings of one with or without 64-QAM. -/
theorem exists_ceilingOf {timeout : Millis} {t : Turn} {c : CellStats} (hc : c ∈ t.cells timeout) :
    ∃ q, c.cell.ceiling = Cell.ceilingOf q := by
  simp only [cells] at hc
  split at hc
  · obtain ⟨enb, config, -, hstats⟩ := Snapshot.mem_cells_ofReport.mp hc
    exact ⟨_, (Snapshot.eq_of_cellStats hstats).2.2⟩
  · cases hc

end Turn

namespace ControlLoop

variable {α : Type}

/-! ## Before the first cell -/

/-- The number of slices in the cycle that a turn starts. -/
def slicesIn (l : ControlLoop α) (t : Turn) : SliceCount := l.count.requests t.typed

/-- The loop when all base stations of a turn are met and no cell is enforced yet. -/
def ready (timeout : Millis) (l : ControlLoop α) (t : Turn) : ControlLoop α :=
  (({ l.typed t.typed with cycle := l.cycle + 1 } : ControlLoop α).typed t.fetch.typed).meet
    (t.cells timeout)

@[simp] theorem files_ready (timeout : Millis) (l : ControlLoop α) (t : Turn) :
    (l.ready timeout t).files = l.files := rfl

@[simp] theorem effective_ready (timeout : Millis) (l : ControlLoop α) (t : Turn) (b : BsId) :
    (l.ready timeout t).effective b = l.effective b := by
  rw [ready, effective_meet]
  rfl

/-- Once all cells are met, a base station is unknown if it was before and has no cell. -/
theorem policy_ready_eq_none_iff (timeout : Millis) (l : ControlLoop α) (t : Turn) (b : BsId) :
    (l.ready timeout t).policy b = none ↔
      l.policy b = none ∧ b ∉ (t.cells timeout).map (fun c => c.cell.bsId) := by
  rw [ready, policy_meet_eq_none_iff]
  rfl

variable [Share α]

/-! ## Induction over the cells -/

/-- **Induction over the cells of a cycle.** What holds before the first cell, and is kept by the step
of every cell that is planned, holds after the last. The property speaks of the state of the loop and
of the cells that are done, each with what happened to it. -/
theorem enforceCells_induct (config : LoopConfig) (answer : Push → Response Unit)
    {P : ControlLoop α → List (CellStats × CellRun α) → Prop} :
    ∀ (planned : List (CellStats × Except (ControlError α) (CellAllocation α)))
      (l : ControlLoop α) (done : List (CellStats × CellRun α)),
      P l done →
      (∀ l done c a, (c, a) ∈ planned → P l done →
        P (enforceCell config answer l c a).1 (done ++ [(c, (enforceCell config answer l c a).2)])) →
      P (enforceCells config answer l planned).1
        (done ++ (planned.map Prod.fst).zip (enforceCells config answer l planned).2) := by
  intro planned
  induction planned with
  | nil =>
    intro l done h _
    simpa [enforceCells] using h
  | cons p rest ih =>
    obtain ⟨c, a⟩ := p
    intro l done h hstep
    have hrest := ih _ _ (hstep l done c a (List.mem_cons_self ..) h)
      (fun l done c' a' hm => hstep l done c' a' (List.mem_cons_of_mem _ hm))
    simpa [enforceCells, List.append_assoc] using hrest

/-- Every cell is enforced. -/
theorem length_enforceCells (config : LoopConfig) (answer : Push → Response Unit) :
    ∀ (planned : List (CellStats × Except (ControlError α) (CellAllocation α))) (l : ControlLoop α),
      (enforceCells config answer l planned).2.length = planned.length
  | [], _ => rfl
  | (_, _) :: rest, _ => congrArg (· + 1) (length_enforceCells config answer rest _)

/-- Enforcing two lists of cells is enforcing one after the other. -/
theorem enforceCells_append (config : LoopConfig) (answer : Push → Response Unit) :
    ∀ (ps qs : List (CellStats × Except (ControlError α) (CellAllocation α))) (l : ControlLoop α),
      enforceCells config answer l (ps ++ qs) =
        ((enforceCells config answer (enforceCells config answer l ps).1 qs).1,
          (enforceCells config answer l ps).2 ++
            (enforceCells config answer (enforceCells config answer l ps).1 qs).2)
  | [], _, _ => rfl
  | (c, a) :: ps, qs, l => by
    simp only [List.cons_append, enforceCells, enforceCells_append config answer ps qs]

/-- The number of the cycle stands from its first cell to its last. -/
theorem cycle_enforceCells (config : LoopConfig) (answer : Push → Response Unit) (l : ControlLoop α)
    (planned : List (CellStats × Except (ControlError α) (CellAllocation α))) :
    (enforceCells config answer l planned).1.cycle = l.cycle := by
  refine enforceCells_induct config answer (P := fun l' _ => l'.cycle = l.cycle) planned l [] rfl ?_
  intro l' _ c a _ h
  rw [← h]
  cases a <;> rfl

/-! ## A cycle as a fold over its cells -/

/-- The allocations of a cycle, all of them made before the first is enforced. -/
def planned (timeout : Millis) (l : ControlLoop α) (t : Turn) :
    List (CellStats × Except (ControlError α) (CellAllocation α)) :=
  (t.cells timeout).map (fun c => (c, (l.ready timeout t).allocate (l.slicesIn t) c))

/-- The loop after a cycle, and what happened to each cell. -/
def enforced (config : LoopConfig) (l : ControlLoop α) (t : Turn) :
    ControlLoop α × List (CellRun α) :=
  enforceCells config t.push (l.ready config.timeout t) (l.planned config.timeout t)

/-- A cycle is the enforcement of its cells, whether it got a report or not. -/
theorem step_eq (config : LoopConfig) (l : ControlLoop α) (t : Turn) :
    (l.step config t).1 = (l.enforced config t).1 ∧
      (l.step config t).2.exchanges = (l.enforced config t).2.filterMap CellRun.exchange ∧
      (l.step config t).2.report.toOption = (t.report? config.timeout).map (fun r =>
        ⟨l.cycle + 1, l.slicesIn t, merge (l.enforced config t).2 (Snapshot.ofReport r).rejected⟩) := by
  simp only [step, enforced, planned, ready, Turn.cells, Turn.report?]
  cases t.fetch.inTime? config.timeout with
  | none => exact ⟨rfl, rfl, rfl⟩
  | some result =>
    cases result with
    | error e => exact ⟨rfl, rfl, rfl⟩
    | ok r =>
      refine ⟨rfl, rfl, ?_⟩
      -- the report names the cycle as the loop does after its last cell
      simp only [process, Except.toOption, Option.map_some, cycle_enforceCells]
      rfl

/-- A cycle uses up one number, whether it got a report or not. -/
theorem cycle_step (config : LoopConfig) (l : ControlLoop α) (t : Turn) :
    (l.step config t).1.cycle = l.cycle + 1 := by
  rw [(step_eq config l t).1, enforced, cycle_enforceCells]
  rfl

/-- An allocation that is planned for a cell is addressed to its base station. -/
theorem bsId_of_allocate {l : ControlLoop α} {n : SliceCount} {c : CellStats} {a : CellAllocation α}
    (h : l.allocate n c = .ok a) : a.bsId = c.cell.bsId := by
  simp only [allocate] at h
  split at h
  · cases h; rfl
  · cases h

/-- An allocation that is planned covers the slices that it was planned for. -/
theorem slices_of_allocate {l : ControlLoop α} {n : SliceCount} {c : CellStats} {a : CellAllocation α}
    (h : l.allocate n c = .ok a) :
    a.numSlices = n ∧ a.slices.map SliceAllocation.slice = n.slices := by
  simp only [allocate] at h
  split at h
  · cases h
    exact ⟨rfl, Allocation.map_slice_cell ..⟩
  · cases h

/-- What happened to each cell of a cycle. -/
def cellLog (config : LoopConfig) (l : ControlLoop α) (t : Turn) : List (CellStats × CellRun α) :=
  (t.cells config.timeout).zip (l.enforced config t).2

/-- The induction over the cells for a whole cycle. -/
theorem enforced_induct {config : LoopConfig} {l : ControlLoop α} {t : Turn}
    {P : ControlLoop α → List (CellStats × CellRun α) → Prop}
    (hstart : P (l.ready config.timeout t) [])
    (hstep : ∀ l' done c, c ∈ t.cells config.timeout → P l' done →
      P (enforceCell config t.push l' c ((l.ready config.timeout t).allocate (l.slicesIn t) c)).1
        (done ++ [(c, (enforceCell config t.push l' c
          ((l.ready config.timeout t).allocate (l.slicesIn t) c)).2)])) :
    P (l.step config t).1 (l.cellLog config t) := by
  have h := enforceCells_induct config t.push (l.planned config.timeout t)
    (l.ready config.timeout t) [] hstart (fun l' done c a hm hP => by
      obtain ⟨c', hc', he⟩ := List.mem_map.mp hm
      cases he
      exact hstep l' done _ hc' hP)
  have hfst : (l.planned config.timeout t).map Prod.fst = t.cells config.timeout := by
    rw [planned, List.map_map]
    exact List.map_id _
  rw [hfst] at h
  rw [(step_eq config l t).1]
  exact h

theorem map_fst_cellLog (config : LoopConfig) (l : ControlLoop α) (t : Turn) :
    (l.cellLog config t).map Prod.fst = t.cells config.timeout := by
  refine List.map_fst_zip (Nat.le_of_eq ?_)
  rw [enforced, length_enforceCells, planned, List.length_map]

theorem mem_cells_of_mem_cellLog {config : LoopConfig} {l : ControlLoop α} {t : Turn}
    {e : CellStats × CellRun α} (he : e ∈ l.cellLog config t) : e.1 ∈ t.cells config.timeout :=
  map_fst_cellLog config l t ▸ List.mem_map_of_mem he

theorem map_snd_cellLog (config : LoopConfig) (l : ControlLoop α) (t : Turn) :
    (l.cellLog config t).map Prod.snd = (l.enforced config t).2 := by
  refine List.map_snd_zip (Nat.le_of_eq ?_)
  rw [enforced, length_enforceCells, planned, List.length_map]

/-- The exchanges of a cycle are those of its cells. -/
theorem exchanges_step (config : LoopConfig) (l : ControlLoop α) (t : Turn) :
    (l.step config t).2.exchanges = (l.cellLog config t).flatMap (fun e => e.2.exchange.toList) := by
  rw [(step_eq config l t).2.1, ← map_snd_cellLog, List.filterMap_map,
    List.filterMap_eq_flatMap_toList]
  rfl

end ControlLoop

end RanSlicing
