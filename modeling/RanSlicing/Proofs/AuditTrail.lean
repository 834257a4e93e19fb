import RanSlicing.Proofs.KeptPolicies

/-!
# The trail of policies that a run leaves

A run that keeps its policies only ever adds files. Its trail (`ControlLoop.trail`) lists its enforcements in
order, each with the loop before and after it. An enforcement is truthful (`TrailEntry.Truthful`) if it added
the file that its outcome names, with the text of the policy that it put into effect, under a name that no file
had; or no file at all if its outcome names none.

Enforcements follow each other without a gap (`TrailEntry.Leads`), so what a run adds is what its enforcements
add (`TrailEntry.Leads.entries_eq`), and no two of them can name the same file, because the file of the first
still stands when the second looks for a free name (`TrailEntry.Leads.nodup_files`).
-/

namespace RanSlicing

variable {α : Type}

/-! ## Kept policies -/

/-- The file that an outcome names. -/
def Outcome.file? : Outcome α → Option Path
  | applied kept => kept
  | _ => none

theorem Outcome.file?_of_not_isApplied {o : Outcome α} (h : o.isApplied = false) : o.file? = none := by
  cases o with
  | applied kept => cases h
  | skipped reason => rfl
  | failed e => rfl

/-- The files that a cycle reports. -/
def CycleResult.files (r : CycleResult α) : List Path := r.cells.filterMap fun x => x.outcome.file?

/-- Keeping a policy adds its file under a name that no file had, or adds nothing. -/
theorem Enforcement.entries_keep [Share α] (p : Persistence) (fs : Files) (sfn : UInt32)
    (doc : PolicyDocument α) :
    let out := keep (some p) fs sfn doc
    out.1.entries =
        fs.entries ++ (out.2.map fun path => (path, Content.text (doc.dump p.format))).toList ∧
      ∀ path, out.2 = some path → fs.content? path = none := by
  intro out
  rcases doc.save_cases fs p.dir p.basename sfn p.format with ⟨hpath, hfree, hadded⟩ | ⟨e, herror, hsame⟩
  · have hkept : out.2 = some _ := congrArg Except.toOption hpath
    rw [hkept]
    refine ⟨hadded, fun path h => ?_⟩
    cases h
    exact hfree
  · have hkept : out.2 = none := congrArg Except.toOption herror
    rw [hkept]
    exact ⟨hsame.trans (List.append_nil _).symm, fun _ h => nomatch h⟩

/-! ## Enforcements in a row -/

/-- One enforcement of a run. -/
structure TrailEntry (α : Type) where
  before : ControlLoop α
  stats : CellStats
  run : ControlLoop.CellRun α
  after : ControlLoop α

namespace TrailEntry

/-- The file that the outcome of an enforcement names. -/
def file? (e : TrailEntry α) : Option Path := e.run.report.outcome.file?

/-- Enforcements that lead from some files to others: each starts from the files that the one before it left. -/
inductive Leads : Files → List (TrailEntry α) → Files → Prop
  | nil (fs : Files) : Leads fs [] fs
  | cons (e : TrailEntry α) {es : List (TrailEntry α)} {fs : Files} (h : Leads e.after.files es fs) :
      Leads e.before.files (e :: es) fs

theorem Leads.eq_of_nil {fs fs' : Files} (h : Leads fs ([] : List (TrailEntry α)) fs') : fs' = fs := by
  cases h
  rfl

theorem Leads.append {fs fs' fs'' : Files} {ds es : List (TrailEntry α)} (h : Leads fs ds fs')
    (h' : Leads fs' es fs'') : Leads fs (ds ++ es) fs'' := by
  induction h with
  | nil => exact h'
  | cons e _ ih => exact .cons e (ih h')

variable [Share α]

/-- The file that an enforcement has to have added: the one that its outcome names, with the text of the policy
in effect afterwards. -/
def added (p : Persistence) (e : TrailEntry α) : Option (Path × Content) :=
  e.file?.map fun path => (path, .text ((e.after.effective e.stats.cell.bsId).dump p.format))

/-- An enforcement that added the file that its outcome names, where no file was, and nothing else. -/
structure Truthful (p : Persistence) (e : TrailEntry α) : Prop where
  entries : e.after.files.entries = e.before.files.entries ++ (e.added p).toList
  fresh : ∀ path, e.file? = some path → e.before.files.content? path = none

variable {p : Persistence} {e : TrailEntry α} {es : List (TrailEntry α)} {fs fs' : Files}

/-- The file that a truthful enforcement names is there afterwards, with the text of the policy in effect. -/
theorem Truthful.content? (h : Truthful p e) {path : Path} (hpath : e.file? = some path) :
    e.after.files.content? path = some (.text ((e.after.effective e.stats.cell.bsId).dump p.format)) := by
  rw [Files.content?_of_append h.entries, h.fresh path hpath, Option.none_or, added, hpath]
  simp

theorem Truthful.keeps (h : Truthful p e) : e.before.files.Keeps e.after.files :=
  Files.keeps_of_append h.entries

namespace Leads

/-- What truthful enforcements add is what their outcomes name, in order. -/
theorem entries_eq (h : Leads fs es fs') (hes : ∀ e ∈ es, Truthful p e) :
    fs'.entries = fs.entries ++ es.filterMap (added p) := by
  induction h with
  | nil fs => rw [List.filterMap_nil, List.append_nil]
  | cons e _ ih =>
    rw [List.forall_mem_cons] at hes
    rw [ih hes.2, hes.1.entries, List.append_assoc, List.filterMap_cons]
    cases e.added p <;> rfl

theorem keeps (h : Leads fs es fs') (hes : ∀ e ∈ es, Truthful p e) : fs.Keeps fs' :=
  Files.keeps_of_append (h.entries_eq hes)

/-- From the first to the last, each enforcement keeps the files that are there when it comes. -/
theorem keeps_of_mem (h : Leads fs es fs') (hes : ∀ e ∈ es, Truthful p e) :
    ∀ e ∈ es, fs.Keeps e.before.files ∧ e.after.files.Keeps fs' := by
  induction h with
  | nil => exact fun _ h => absurd h List.not_mem_nil
  | cons e hrest ih =>
    rw [List.forall_mem_cons] at hes
    refine List.forall_mem_cons.mpr ⟨⟨.refl _, hrest.keeps hes.2⟩, fun e' he' => ?_⟩
    obtain ⟨hbefore, hafter⟩ := ih hes.2 e' he'
    exact ⟨hes.1.keeps.trans hbefore, hafter⟩

/-- No file that an outcome names was there from the start, and none is named twice. -/
theorem nodup_files (h : Leads fs es fs') (hes : ∀ e ∈ es, Truthful p e) :
    (∀ path ∈ es.filterMap file?, fs.content? path = none) ∧ (es.filterMap file?).Nodup := by
  induction h with
  | nil => exact ⟨fun _ h => absurd h List.not_mem_nil, List.nodup_nil⟩
  | cons e _ ih =>
    rw [List.forall_mem_cons] at hes
    obtain ⟨hfresh, hnodup⟩ := ih hes.2
    have hrest : ∀ path ∈ List.filterMap file? _, e.before.files.content? path = none :=
      fun path hpath => hes.1.keeps.content?_eq_none (hfresh path hpath)
    cases hfile : e.file? with
    | none =>
      rw [List.filterMap_cons_none hfile]
      exact ⟨hrest, hnodup⟩
    | some path =>
      rw [List.filterMap_cons_some hfile]
      refine ⟨List.forall_mem_cons.mpr ⟨hes.1.fresh path hfile, hrest⟩, List.nodup_cons.mpr ⟨?_, hnodup⟩⟩
      -- the file of this enforcement stands when the others look for a free name
      intro hmem
      have hnone := hfresh path hmem
      rw [hes.1.content? hfile] at hnone
      cases hnone

end Leads

end TrailEntry

namespace ControlLoop

open TrailEntry (Leads Truthful)

variable [Share α] {config : LoopConfig} {p : Persistence}

/-! ## One cell -/

/-- The step of a cell adds the file that its outcome names, and no other. -/
theorem truthful_enforceCell (hp : config.persistence = some p) (answer : Push → Response Unit)
    (l : ControlLoop α) (c : CellStats) (planned : Except (ControlError α) (CellAllocation α)) :
    let out := enforceCell config answer l c planned
    Truthful p ⟨l, c, out.2, out.1⟩ := by
  intro out
  rcases enforceCell_cases config answer l c planned with hidle | ⟨a, doc, -, heff⟩
  · have hfile : TrailEntry.file? ⟨l, c, out.2, out.1⟩ = none :=
      Outcome.file?_of_not_isApplied hidle.notApplied
    refine ⟨?_, fun path hpath => ?_⟩
    · rw [TrailEntry.added, hfile, Option.map_none, Option.toList_none, List.append_nil]
      exact congrArg Files.entries hidle.files
    · rw [hfile] at hpath
      cases hpath
  · obtain ⟨hentries, hfresh⟩ := Enforcement.entries_keep p l.files c.cell.sfn doc
    have hfile : TrailEntry.file? ⟨l, c, out.2, out.1⟩ =
        (Enforcement.keep (some p) l.files c.cell.sfn doc).2 := by
      rw [TrailEntry.file?, heff.outcome, hp, Outcome.file?]
    refine ⟨?_, fun path hpath => hfresh path (hfile ▸ hpath)⟩
    rw [TrailEntry.added, hfile, heff.effective, if_pos rfl, heff.files, hp]
    exact hentries

/-! ## One cycle -/

/-- The enforcements of some cells. -/
def cellTrail (config : LoopConfig) (answer : Push → Response Unit) (l : ControlLoop α) :
    List (CellStats × Except (ControlError α) (CellAllocation α)) → List (TrailEntry α)
  | [] => []
  | (c, a) :: rest =>
    let out := enforceCell config answer l c a
    ⟨l, c, out.2, out.1⟩ :: cellTrail config answer out.1 rest

/-- The enforcements of a cycle. -/
def cycleTrail (config : LoopConfig) (l : ControlLoop α) (t : Turn) : List (TrailEntry α) :=
  cellTrail config t.push (l.ready config.timeout t) (l.planned config.timeout t)

theorem leads_cellTrail (config : LoopConfig) (answer : Push → Response Unit) (l : ControlLoop α)
    (planned : List (CellStats × Except (ControlError α) (CellAllocation α))) :
    Leads l.files (cellTrail config answer l planned) (enforceCells config answer l planned).1.files := by
  induction planned generalizing l with
  | nil => exact .nil _
  | cons q rest ih => exact .cons ⟨l, q.1, _, _⟩ (ih _)

/-- Every entry of a trail is the step of a cell that was planned. -/
theorem exists_of_mem_cellTrail {answer : Push → Response Unit} {l : ControlLoop α}
    {planned : List (CellStats × Except (ControlError α) (CellAllocation α))} :
    ∀ e ∈ cellTrail config answer l planned, ∃ a, (e.stats, a) ∈ planned ∧
      enforceCell config answer e.before e.stats a = (e.after, e.run) := by
  induction planned generalizing l with
  | nil => exact fun _ h => absurd h List.not_mem_nil
  | cons q rest ih =>
    refine List.forall_mem_cons.mpr ⟨⟨q.2, List.mem_cons_self .., rfl⟩, fun e he => ?_⟩
    obtain ⟨a, ha, hstep⟩ := ih e he
    exact ⟨a, List.mem_cons_of_mem _ ha, hstep⟩

theorem truthful_cellTrail (hp : config.persistence = some p) (answer : Push → Response Unit)
    (l : ControlLoop α) (planned : List (CellStats × Except (ControlError α) (CellAllocation α))) :
    ∀ e ∈ cellTrail config answer l planned, Truthful p e := by
  intro e he
  obtain ⟨a, -, hstep⟩ := exists_of_mem_cellTrail e he
  have htruthful := truthful_enforceCell hp answer e.before e.stats a
  rwa [hstep] at htruthful

/-- The trail says what happened to each cell. -/
theorem map_run_cellTrail (config : LoopConfig) (answer : Push → Response Unit) (l : ControlLoop α)
    (planned : List (CellStats × Except (ControlError α) (CellAllocation α))) :
    (cellTrail config answer l planned).map TrailEntry.run = (enforceCells config answer l planned).2 := by
  induction planned generalizing l with
  | nil => rfl
  | cons q rest ih => exact congrArg (_ :: ·) (ih _)

theorem leads_cycleTrail (config : LoopConfig) (l : ControlLoop α) (t : Turn) :
    Leads l.files (l.cycleTrail config t) (l.step config t).1.files := by
  rw [(step_eq config l t).1]
  exact leads_cellTrail config t.push (l.ready config.timeout t) _

theorem map_run_cycleTrail (config : LoopConfig) (l : ControlLoop α) (t : Turn) :
    (l.cycleTrail config t).map TrailEntry.run = (l.enforced config t).2 :=
  map_run_cellTrail config t.push (l.ready config.timeout t) _

/-- The exchanges of a cycle are those of its enforcements. -/
theorem exchanges_cycleTrail (config : LoopConfig) (l : ControlLoop α) (t : Turn) :
    (l.step config t).2.exchanges = (l.cycleTrail config t).filterMap fun e => e.run.exchange := by
  rw [(step_eq config l t).2.1, ← map_run_cycleTrail, List.filterMap_map]
  rfl

/-- A cycle without a report enforces nothing. -/
theorem cycleTrail_of_error {l : ControlLoop α} {t : Turn} {e : ControlError α}
    (h : (l.step config t).2.report = .error e) : l.cycleTrail config t = [] := by
  have hnone := (step_eq config l t).2.2
  rw [h] at hnone
  rw [cycleTrail, planned, Turn.cells, Option.map_eq_none_iff.mp hnone.symm]
  rfl

/-- What a cycle reports is what happened in its enforcements, or that a cell was left out. -/
theorem exists_of_mem_cells_step {l : ControlLoop α} {t : Turn} {x : CellReport α}
    (hx : x ∈ (l.step config t).2.cells) :
    (∃ e ∈ l.cycleTrail config t, e.run.report = x) ∨ ∃ c, rejectedReport c = x := by
  rcases mem_cells_step.mp hx with ⟨e, he, rfl⟩ | ⟨_, -, c, -, rfl⟩
  · have hrun : e.2 ∈ (l.cycleTrail config t).map TrailEntry.run := by
      rw [map_run_cycleTrail, ← map_snd_cellLog]
      exact List.mem_map_of_mem he
    obtain ⟨e', he', heq⟩ := List.mem_map.mp hrun
    exact .inl ⟨e', he', by rw [heq]⟩
  · exact .inr ⟨c, rfl⟩

/-- The files that a cycle reports are those that its enforcements name. -/
theorem files_step_perm (config : LoopConfig) (l : ControlLoop α) (t : Turn) :
    (l.step config t).2.files.Perm ((l.cycleTrail config t).filterMap TrailEntry.file?) := by
  have hruns : (l.cycleTrail config t).filterMap TrailEntry.file? =
      (l.enforced config t).2.filterMap fun run => run.report.outcome.file? := by
    rw [← map_run_cycleTrail, List.filterMap_map]
    rfl
  rw [hruns, CycleResult.files, cells_step]
  cases hr : t.report? config.timeout with
  | none =>
    have hnone : (l.enforced config t).2 = [] := by
      rw [enforced, planned, Turn.cells, hr]
      rfl
    rw [hnone]
    exact .refl _
  | some r =>
    refine ((List.mergeSort_perm _ _).filterMap _).trans ?_
    have hrejected : ((Snapshot.ofReport r).rejected.map rejectedReport).filterMap
        (fun x : CellReport α => x.outcome.file?) = [] := by
      rw [List.filterMap_map]
      exact List.filterMap_eq_nil_iff.mpr fun _ _ => rfl
    rw [List.filterMap_append, hrejected, List.append_nil, List.filterMap_map]
    exact .refl _

/-! ## A run -/

/-- The enforcements of a run. -/
def trail (config : LoopConfig) : ControlLoop α → List Turn → List (TrailEntry α)
  | _, [] => []
  | l, t :: ts => l.cycleTrail config t ++ trail config (l.step config t).1 ts

theorem leads_trail (config : LoopConfig) (l : ControlLoop α) (turns : List Turn) :
    Leads l.files (l.trail config turns) (l.after config turns).files := by
  induction turns generalizing l with
  | nil => exact .nil _
  | cons t rest ih => exact (leads_cycleTrail config l t).append (ih _)

theorem truthful_trail (hp : config.persistence = some p) (l : ControlLoop α) (turns : List Turn) :
    ∀ e ∈ l.trail config turns, Truthful p e := by
  induction turns generalizing l with
  | nil => exact fun _ h => absurd h List.not_mem_nil
  | cons t rest ih => exact List.forall_mem_append.mpr ⟨truthful_cellTrail hp _ _ _, ih _⟩

/-- What a run reports is what happened in its enforcements, or that a cell was left out. -/
theorem exists_of_mem_history {l : ControlLoop α} {turns : List Turn} :
    ∀ r ∈ l.history config turns, ∀ x ∈ r.2.cells,
      (∃ e ∈ l.trail config turns, e.run.report = x) ∨ ∃ c, rejectedReport c = x := by
  induction turns generalizing l with
  | nil => exact fun _ h => absurd h List.not_mem_nil
  | cons t rest ih =>
    refine List.forall_mem_cons.mpr ⟨fun x hx => ?_, fun r hr x hx => ?_⟩
    · exact (exists_of_mem_cells_step hx).imp_left fun ⟨e, he, heq⟩ => ⟨e, List.mem_append_left _ he, heq⟩
    · exact (ih r hr x hx).imp_left fun ⟨e, he, heq⟩ => ⟨e, List.mem_append_right _ he, heq⟩

/-- The files that a run reports are those that its enforcements name. -/
theorem files_history_perm (config : LoopConfig) (l : ControlLoop α) (turns : List Turn) :
    ((l.history config turns).flatMap fun r => r.2.files).Perm
      ((l.trail config turns).filterMap TrailEntry.file?) := by
  induction turns generalizing l with
  | nil => exact .refl _
  | cons t rest ih =>
    rw [history, trail, List.flatMap_cons, List.filterMap_append]
    exact (files_step_perm config l t).append (ih _)

/-- **The trail of a run.** Whatever files there are when a loop goes on, and whatever its turns are: the
enforcements of a run that keeps its policies follow each other without a gap and add exactly the files that their
outcomes name, each where no file was and with the text of the policy that was put into effect. Every file that is
there at any time stays as it is, no two outcomes that the run reports name the same file, and a cycle without a
report leaves all files alone. -/
theorem trail_truthful (config : LoopConfig) (hp : config.persistence = some p) (l : ControlLoop α)
    (turns : List Turn) :
    let l' := l.after config turns
    let trail := l.trail config turns
    let history := l.history config turns
    Leads l.files trail l'.files ∧
      l'.files.entries = l.files.entries ++ trail.filterMap (TrailEntry.added p) ∧
      (∀ e ∈ trail, Truthful p e) ∧
      (∀ e ∈ trail, l.files.Keeps e.before.files ∧ e.before.files.Keeps e.after.files ∧
        e.after.files.Keeps l'.files) ∧
      (∀ r ∈ history, ∀ x ∈ r.2.cells, (∃ e ∈ trail, e.run.report = x) ∨ ∃ c, rejectedReport c = x) ∧
      (history.flatMap fun r => r.2.files).Nodup ∧
      ∀ t e, (l'.step config t).2.report = .error e → (l'.step config t).1.files = l'.files := by
  intro l' trail history
  have hleads := leads_trail config l turns
  have htruthful := truthful_trail hp l turns
  refine ⟨hleads, hleads.entries_eq htruthful, htruthful, fun e he => ?_, exists_of_mem_history, ?_,
    fun t e herror => ?_⟩
  · obtain ⟨hbefore, hafter⟩ := hleads.keeps_of_mem htruthful e he
    exact ⟨hbefore, (htruthful e he).keeps, hafter⟩
  · exact (files_history_perm config l turns).nodup_iff.mpr (hleads.nodup_files htruthful).2
  · have hcycle := leads_cycleTrail config l' t
    rw [cycleTrail_of_error herror] at hcycle
    exact hcycle.eq_of_nil

/-- The first of two policies finds its name taken by an older file, which stays; the second has a file. -/
theorem trail_truthful_name_taken :
    let old : Path × Content := (["policies", "policy_7.yaml"], .text "")
    let l := start (PolicyDocument.default (α := Rat)) ⟨1, by decide⟩ ⟨[old], [["policies"]]⟩
    let turns := [Turn.smooth [(1, 7), (2, 8)] 1]
    (l.trail keeping turns).map TrailEntry.file? = [none, some ["policies", "policy_8.yaml"]] ∧
      (l.after keeping turns).files.content? old.1 = some old.2 ∧
      ∃ doc : PolicyDocument Rat, (l.after keeping turns).files.content? ["policies", "policy_8.yaml"] =
        some (.text (doc.dump .yaml)) := by
  intro old l turns
  have hfiles : (l.trail keeping turns).map TrailEntry.file? =
      [none, some ["policies", "policy_8.yaml"]] := by decide +kernel
  obtain ⟨-, hentries, htruthful, hkeeps, -⟩ := trail_truthful keeping rfl l turns
  have hsecond : some ["policies", "policy_8.yaml"] ∈ (l.trail keeping turns).map TrailEntry.file? := by
    rw [hfiles]
    exact List.mem_cons_of_mem _ (List.mem_singleton_self _)
  obtain ⟨e, he, hfile⟩ := List.mem_map.mp hsecond
  exact ⟨hfiles, Files.keeps_of_append hentries _ _ rfl, _,
    (hkeeps e he).2.2 _ _ ((htruthful e he).content? hfile)⟩

end ControlLoop

end RanSlicing
