import RanSlicing.Proofs.CycleReport
import RanSlicing.Proofs.History
import RanSlicing.Proofs.PolicyFiles

/-!
# Policies that are kept

A policy that took effect is kept under a name made of the frame number of its cell, and a name that is
taken is never written again. Nothing else in the name tells the cells apart, so what has been kept so
far is known from the frame numbers of all cells that were applied, whichever base station they belong
to. The invariant is `Files.Holds` with these names, along the cells of a cycle and the cycles of a run.

So no policy goes without a file exactly when no frame number occurs twice among all applied cells
(`ControlLoop.kept_iff_nodup`).
-/

namespace RanSlicing

/-! ## Names that are taken -/

/-- The name that the policy of a cell is kept under. -/
def Persistence.nameOf (p : Persistence) (c : CellStats) : String :=
  PolicyDocument.fileName p.basename c.cell.sfn p.format

/-- Of a cell only its frame number goes into the name. -/
theorem Persistence.map_nameOf (p : Persistence) (cells : List CellStats) :
    cells.map p.nameOf = (cells.map fun c => c.cell.sfn).map fun sfn =>
      PolicyDocument.fileName p.basename sfn p.format := by
  rw [List.map_map]
  rfl

variable {α : Type}

/-- A policy that took effect was kept. -/
def Outcome.Kept (o : Outcome α) : Prop := ∀ kept, o = .applied kept → kept.isSome = true

theorem Outcome.kept_of_not_isApplied {o : Outcome α} (h : o.isApplied = false) : o.Kept := by
  intro kept ho
  rw [ho] at h
  cases h

theorem Outcome.kept_applied (kept : Option Path) :
    (applied kept : Outcome α).Kept ↔ kept.isSome = true :=
  ⟨fun h => h kept rfl, fun h _ ho => by cases ho; exact h⟩

/-- A name that is taken already adds nothing. -/
theorem Files.Holds.append_of_mem {fs : Files} {dir : Path} {names : List String} {name : String}
    (h : fs.Holds dir names) (hname : name ∈ names) : fs.Holds dir (names ++ [name]) := by
  refine ⟨h.free, fun other => ?_⟩
  rw [h.taken, List.mem_append, List.mem_singleton]
  exact ⟨.inl, fun hor => hor.elim id fun heq => heq ▸ hname⟩

variable [Share α]

/-- Keeping a policy takes its name, and gives a file exactly if the name was free. -/
theorem Enforcement.keep_of_holds {p : Persistence} (hbase : '/' ∉ p.basename.toList) {fs : Files}
    {names : List String} (h : fs.Holds (Path.ofString p.dir) names) (c : CellStats)
    (doc : PolicyDocument α) :
    (keep (some p) fs c.cell.sfn doc).1.Holds (Path.ofString p.dir) (names ++ [p.nameOf c]) ∧
      ((keep (some p) fs c.cell.sfn doc).2.isSome = true ↔ p.nameOf c ∉ names) := by
  obtain ⟨made, hmade, hdir, hholds⟩ := Files.makeDirectories_of_holds h
  have hpath : Path.ofString (Path.join p.dir (PolicyDocument.fileName p.basename c.cell.sfn p.format)) =
      Path.ofString p.dir ++ [p.nameOf c] :=
    Path.ofString_join (PolicyDocument.plain_fileName hbase _ _) p.dir
  simp only [keep, PolicyDocument.save, hmade, hpath]
  by_cases hname : p.nameOf c ∈ names
  · rw [Files.createNew_of_mem hholds hname]
    exact ⟨hholds.append_of_mem hname, by simp [hname, Except.toOption]⟩
  · obtain ⟨written, hwritten, hnames⟩ := Files.createNew_of_notMem hholds hdir hname (doc.dump p.format)
    rw [hwritten]
    exact ⟨hnames, by simp [hname, Except.toOption]⟩

namespace ControlLoop

variable {config : LoopConfig} {p : Persistence}

/-! ## One cell -/

/-- The step of a cell keeps track of the names that are taken, and of whether all policies were kept. -/
theorem kept_enforceCell (hp : config.persistence = some p) (hbase : '/' ∉ p.basename.toList)
    (answer : Push → Response Unit) {l : ControlLoop α} (c : CellStats)
    (planned : Except (ControlError α) (CellAllocation α)) {names : List String}
    {log : List (CellStats × CellRun α)}
    (hfiles : l.files.Holds (Path.ofString p.dir) (names ++ (appliedCells log).map p.nameOf)) :
    let r := enforceCell config answer l c planned
    r.1.files.Holds (Path.ofString p.dir)
        (names ++ (appliedCells (log ++ [(c, r.2)])).map p.nameOf) ∧
      ((names ++ (appliedCells (log ++ [(c, r.2)])).map p.nameOf).Nodup ↔
        (names ++ (appliedCells log).map p.nameOf).Nodup ∧ r.2.report.outcome.Kept) := by
  intro r
  rw [appliedCells_concat]
  rcases enforceCell_cases config answer l c planned with hidle | ⟨a, doc, -, heff⟩
  · rw [hidle.notApplied, if_neg Bool.false_ne_true, hidle.files]
    exact ⟨hfiles, (and_iff_left (Outcome.kept_of_not_isApplied hidle.notApplied)).symm⟩
  · obtain ⟨hholds, hkept⟩ := Enforcement.keep_of_holds hbase hfiles c doc
    rw [heff.outcome, heff.files, hp, Outcome.kept_applied, hkept, Outcome.isApplied, if_pos rfl,
      List.map_append, ← List.append_assoc, List.map_singleton]
    refine ⟨hholds, ?_⟩
    rw [← List.concat_eq_append, List.nodup_concat]
    exact and_comm

/-! ## One cycle -/

/-- A cycle keeps track of the names that are taken, and of whether all policies were kept. -/
theorem kept_step (hp : config.persistence = some p) (hbase : '/' ∉ p.basename.toList)
    {l : ControlLoop α} {names : List String} (hfiles : l.files.Holds (Path.ofString p.dir) names)
    (t : Turn) :
    (l.step config t).1.files.Holds (Path.ofString p.dir)
        (names ++ (t.applied config.timeout (l.step config t).2).map p.nameOf) ∧
      ((names ++ (t.applied config.timeout (l.step config t).2).map p.nameOf).Nodup ↔
        names.Nodup ∧ ∀ x ∈ (l.step config t).2.cells, x.outcome.Kept) := by
  -- a cell that was left out has no policy to keep
  have hcells : (∀ x ∈ (l.step config t).2.cells, x.outcome.Kept) ↔
      ∀ e ∈ l.cellLog config t, e.2.report.outcome.Kept := by
    constructor
    · intro h e he
      exact h _ (mem_cells_step.mpr (.inl ⟨e, he, rfl⟩))
    · intro h x hx
      rcases mem_cells_step.mp hx with ⟨e, he, rfl⟩ | ⟨r, -, left, -, rfl⟩
      · exact h e he
      · exact Outcome.kept_of_not_isApplied rfl
  rw [hcells, applied_step]
  refine enforced_induct (P := fun l' log =>
    l'.files.Holds (Path.ofString p.dir) (names ++ (appliedCells log).map p.nameOf) ∧
      ((names ++ (appliedCells log).map p.nameOf).Nodup ↔
        names.Nodup ∧ ∀ e ∈ log, e.2.report.outcome.Kept)) ?_ ?_
  · rw [files_ready]
    simpa [appliedCells] using hfiles
  · intro l' log c _ hP
    obtain ⟨hholds, hnodup⟩ := kept_enforceCell hp hbase t.push c
      ((l.ready config.timeout t).allocate (l.slicesIn t) c) hP.1
    refine ⟨hholds, ?_⟩
    rw [hnodup, hP.2, List.forall_mem_append, List.forall_mem_singleton, and_assoc]

/-! ## A run -/

/-- The cells that were applied in a history, in order. -/
def appliedIn (timeout : Millis) (history : List (Turn × CycleResult α)) : List CellStats :=
  history.flatMap (fun e => e.1.applied timeout e.2)

/-- A run keeps track of the names that are taken, and of whether all policies were kept. -/
theorem kept_history (config : LoopConfig) (hp : config.persistence = some p) (hbase : '/' ∉ p.basename.toList)
    {l : ControlLoop α} (hfiles : l.files.Holds (Path.ofString p.dir) []) (turns : List Turn) :
    (l.after config turns).files.Holds (Path.ofString p.dir)
        ((appliedIn config.timeout (l.history config turns)).map p.nameOf) ∧
      (((appliedIn config.timeout (l.history config turns)).map p.nameOf).Nodup ↔
        ∀ e ∈ l.history config turns, ∀ x ∈ e.2.cells, x.outcome.Kept) := by
  refine history_induct (P := fun l' done =>
    l'.files.Holds (Path.ofString p.dir) ((appliedIn config.timeout done).map p.nameOf) ∧
      (((appliedIn config.timeout done).map p.nameOf).Nodup ↔
        ∀ e ∈ done, ∀ x ∈ e.2.cells, x.outcome.Kept)) ?_ turns l [] ?_
  · intro l' done t hP
    obtain ⟨hholds, hnodup⟩ := kept_step hp hbase hP.1 t
    rw [appliedIn, List.flatMap_append, List.flatMap_singleton, List.map_append]
    refine ⟨hholds, ?_⟩
    rw [List.forall_mem_append, List.forall_mem_singleton, ← hP.2]
    exact hnodup
  · exact ⟨hfiles, by simp [appliedIn]⟩

/-- **No policy goes without a file exactly when no frame number occurs twice.** In a run that keeps its
policies in a directory that was free and empty, under a base name without slashes, every cell that is
reported as applied has a file if and only if the frame numbers of all applied cells are different,
also those of different base stations. -/
theorem kept_iff_nodup (config : LoopConfig) (hp : config.persistence = some p) (hbase : '/' ∉ p.basename.toList)
    {files : Files} (hfiles : files.Holds (Path.ofString p.dir) []) (template : PolicyDocument α)
    (count : SliceCount) (turns : List Turn) :
    let history := (start template count files).history config turns
    (∀ e ∈ history, ∀ x ∈ e.2.cells, ∀ kept, x.outcome = .applied kept → kept.isSome = true) ↔
      ((appliedIn config.timeout history).map (fun c => c.cell.sfn)).Nodup := by
  intro history
  have hkept := (kept_history config hp hbase (l := start template count files) hfiles turns).2
  refine Iff.trans hkept.symm ?_
  have hinj : Function.Injective fun sfn => PolicyDocument.fileName p.basename sfn p.format :=
    fun _ _ h => PolicyDocument.fileName_injective h
  rw [Persistence.map_nameOf]
  exact List.nodup_map_iff hinj

/-- Of a single cycle the applied cells are those of its log. -/
theorem appliedIn_singleton (l : ControlLoop α) (t : Turn) :
    appliedIn config.timeout (l.history config [t]) = appliedCells (l.cellLog config t) := by
  rw [history, history, appliedIn, List.flatMap_singleton, applied_step]

/-- A loop that keeps policies as YAML. -/
def keeping : LoopConfig :=
  ⟨1000, 0, 5000, none, some ⟨"policies", "policy", .yaml⟩⟩

/-- Two base stations with different frame numbers both have a file. -/
theorem kept_of_two_frames :
    let history := (start (PolicyDocument.default (α := Rat)) ⟨1, by decide⟩ .empty).history keeping
      [Turn.smooth [(1, 7), (2, 8)] 1]
    keeping.persistence = some ⟨"policies", "policy", .yaml⟩ ∧
      ∀ e ∈ history, ∀ x ∈ e.2.cells, ∀ kept, x.outcome = .applied kept → kept.isSome = true := by
  refine ⟨rfl, (kept_iff_nodup keeping rfl (by decide) (Files.empty_holds _) _ _ _).mpr ?_⟩
  rw [appliedIn_singleton]
  decide +kernel

/-- Two base stations that happen to report the same frame number are both applied, each for the first
time, and one of them has no file. -/
theorem not_kept_of_one_frame :
    let history := (start (PolicyDocument.default (α := Rat)) ⟨1, by decide⟩ .empty).history keeping
      [Turn.smooth [(1, 7), (2, 7)] 1]
    (appliedIn keeping.timeout history).map (fun c => (c.cell.bsId, c.cell.sfn)) = [(1, 7), (2, 7)] ∧
      ∃ e ∈ history, ∃ x ∈ e.2.cells, x.outcome = .applied none := by
  intro history
  have happlied : appliedIn keeping.timeout history = appliedCells
      ((start (PolicyDocument.default (α := Rat)) ⟨1, by decide⟩ .empty).cellLog keeping
        (Turn.smooth [(1, 7), (2, 7)] 1)) := appliedIn_singleton _ _
  refine ⟨by rw [happlied]; decide +kernel, ?_⟩
  by_contra hnone
  have hkept : ∀ e ∈ history, ∀ x ∈ e.2.cells, x.outcome.Kept := by
    intro e he x hx kept hout
    cases kept with
    | none => exact absurd ⟨e, he, x, hx, hout⟩ hnone
    | some path => rfl
  have hnodup := (kept_history keeping rfl (by decide) (Files.empty_holds _) _).2.mpr hkept
  have hframes : (appliedIn keeping.timeout history).map (fun c => c.cell.sfn) = [7, 7] := by
    rw [happlied]
    decide +kernel
  rw [Persistence.map_nameOf, hframes] at hnodup
  exact absurd hnodup (by simp)

end ControlLoop

end RanSlicing
