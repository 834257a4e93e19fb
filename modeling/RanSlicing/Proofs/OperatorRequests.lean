import RanSlicing.Proofs.AuditTrail
import RanSlicing.Proofs.PolicyWrites

/-!
# Requests of the operator

The operator may ask for another number of slices at any time, also while a cycle waits for its report or for
the answer to a push. To these requests a cycle is atomic: it does what it would have done had the operator
kept quiet until its end, and leaves the requests to the cycle after it (`ControlLoop.step_eq_quiet`). A turn
says where in its cycle a request comes, so this holds wherever it comes.

So the number of slices that a cycle works with is the last one that was asked for before it and was in range
(`ControlLoop.slicesIn_after`). It is the number that the cycle reports, the number of slices of every
allocation, and the number of active slices in both directions of every policy that is pushed
(`ControlLoop.slices_of_cycle`).
-/

namespace RanSlicing

variable {α β : Type}

/-! ## Requests -/

namespace SliceCount

/-- The last number that was asked for and is in range, or the one that there was before. -/
def lastValid (count : SliceCount) (wanted : List Nat) : SliceCount :=
  (wanted.filterMap fun k => (Bounded.ofNat .sliceCount k).toOption).getLast?.getD count

theorem requests_append (count : SliceCount) (xs ys : List Nat) :
    count.requests (xs ++ ys) = (count.requests xs).requests ys :=
  List.foldl_append

/-- Of several requests the last valid one counts, whatever was asked for before and after it. -/
theorem requests_eq_lastValid (count : SliceCount) (wanted : List Nat) :
    count.requests wanted = count.lastValid wanted := by
  induction wanted generalizing count with
  | nil => rfl
  | cons k rest ih =>
    change (count.request k).requests rest = _
    rw [ih, lastValid, lastValid, request]
    cases hk : Bounded.ofNat .sliceCount k with
    | error e => rw [List.filterMap_cons_none (by rw [hk]; rfl)]; rfl
    | ok n => rw [List.filterMap_cons_some (by rw [hk]; rfl), List.getLast?_cons]; rfl

-- a request that is out of range does not undo the one before it
example : lastValid ⟨1, by decide⟩ [7, 3, 99] = ⟨3, by decide⟩ := by decide

end SliceCount

/-- A response in whose time the operator keeps quiet. -/
def Response.quiet (r : Response β) : Response β := { r with typed := [] }

@[simp] theorem Response.typed_quiet (r : Response β) : r.quiet.typed = [] := rfl

/-- What becomes of a request does not hang on what the operator asks for meanwhile. -/
@[simp] theorem Response.inTime?_quiet (timeout : Millis) (r : Response β) :
    r.quiet.inTime? timeout = r.inTime? timeout := rfl

@[simp] theorem Response.delivery_quiet (timeout : Millis) (r : Response Unit) :
    r.quiet.delivery timeout = r.delivery timeout := rfl

@[simp] theorem Response.elapsed_quiet (timeout : Millis) (r : Response β) :
    r.quiet.elapsed timeout = r.elapsed timeout := rfl

/-- A turn in which the operator keeps quiet once the cycle has started. -/
def Turn.quiet (t : Turn) : Turn :=
  { t with fetch := t.fetch.quiet, push := fun p => (t.push p).quiet }

@[simp] theorem Turn.typed_quiet (t : Turn) : t.quiet.typed = t.typed := rfl

@[simp] theorem Turn.fetch_quiet (t : Turn) : t.quiet.fetch = t.fetch.quiet := rfl

@[simp] theorem Turn.push_quiet (t : Turn) : t.quiet.push = fun p => (t.push p).quiet := rfl

/-- What the operator asks for while a cycle waits for the answers to some pushes. -/
def Exchange.late (answer : Push → Response Unit) (xs : List Exchange) : List Nat :=
  xs.flatMap fun x => (answer x.push).typed

/-- What the operator asks for once a cycle has started, in order: while it waits for its report, and then
while it waits for the answer to each push. -/
def Turn.late (t : Turn) (r : CycleResult α) : List Nat := t.fetch.typed ++ Exchange.late t.push r.exchanges

theorem Exchange.late_append (answer : Push → Response Unit) (xs ys : List Exchange) :
    late answer (xs ++ ys) = late answer xs ++ late answer ys := List.flatMap_append

/-- When the operator keeps quiet there is nothing to take along. -/
@[simp] theorem Exchange.late_quiet (answer : Push → Response Unit) (xs : List Exchange) :
    late (fun p => (answer p).quiet) xs = [] :=
  List.flatMap_eq_nil_iff.mpr fun _ _ => rfl

namespace ControlLoop

/-- What the operator asked for in the cycles of a history, in order. -/
def requested (history : List (Turn × CycleResult α)) : List Nat :=
  history.flatMap fun e => e.1.typed ++ e.1.late e.2

theorem requested_concat (history : List (Turn × CycleResult α)) (e : Turn × CycleResult α) :
    requested (history ++ [e]) = requested history ++ (e.1.typed ++ e.1.late e.2) := by
  rw [requested, List.flatMap_append, List.flatMap_singleton]
  rfl

@[simp] theorem typed_nil (l : ControlLoop α) : l.typed [] = l := rfl

@[simp] theorem typed_typed (l : ControlLoop α) (xs ys : List Nat) :
    (l.typed xs).typed ys = l.typed (xs ++ ys) := by
  simp only [typed, SliceCount.requests_append]

@[simp] theorem meet_typed (l : ControlLoop α) (wanted : List Nat) (cells : List CellStats) :
    (l.typed wanted).meet cells = (l.meet cells).typed wanted := rfl

@[simp] theorem allocate_typed [Share α] (l : ControlLoop α) (wanted : List Nat) (n : SliceCount)
    (stats : CellStats) : (l.typed wanted).allocate n stats = l.allocate n stats := rfl

@[simp] theorem files_typed (l : ControlLoop α) (wanted : List Nat) : (l.typed wanted).files = l.files := rfl

end ControlLoop

variable [Share α]

/-! ## One cell -/

/-- An enforcement does not look at what the operator asks for while it waits for its push. -/
theorem Enforcement.run_quiet (timeout : Millis) (persistence : Option Persistence) (files : Files)
    (current : PolicyDocument α) (stats : CellStats) (a : CellAllocation α)
    (answer : Push → Response Unit) :
    run timeout persistence files current stats a answer =
      let e := run timeout persistence files current stats a fun p => (answer p).quiet
      { e with typed := Exchange.late answer e.exchange.toList } := by
  cases hc : candidate current stats a with
  | error o => simp only [run_of_error hc, Exchange.late, Option.toList_none, List.flatMap_nil]
  | ok doc =>
    simp only [run, hc, Response.delivery_quiet]
    cases (answer ⟨stats.cell.enbId, a.bsId, doc.dump .yaml⟩).delivery timeout <;>
      simp [Exchange.late, Response.elapsed_quiet]

/-- When the operator keeps quiet, an enforcement has nothing to take along. -/
theorem Enforcement.typed_run_quiet (timeout : Millis) (persistence : Option Persistence) (files : Files)
    (current : PolicyDocument α) (stats : CellStats) (a : CellAllocation α)
    (answer : Push → Response Unit) :
    (run timeout persistence files current stats a fun p => (answer p).quiet).typed = [] := by
  rw [run_quiet]
  exact Exchange.late_quiet answer _

namespace ControlLoop

/-- The step of a cell takes what the operator asks for meanwhile along, and is the same otherwise. -/
theorem enforceCell_quiet (config : LoopConfig) (answer : Push → Response Unit) (l : ControlLoop α)
    (wanted : List Nat) (stats : CellStats) (planned : Except (ControlError α) (CellAllocation α)) :
    let quiet := enforceCell config (fun p => (answer p).quiet) l stats planned
    enforceCell config answer (l.typed wanted) stats planned =
      (quiet.1.typed (wanted ++ Exchange.late answer quiet.2.exchange.toList), quiet.2) := by
  cases planned with
  | error e => simp [enforceCell, Exchange.late]
  | ok a =>
    have hloud := Enforcement.run_quiet config.timeout config.persistence l.files
      (l.effective stats.cell.bsId) stats a answer
    have hstill := Enforcement.typed_run_quiet config.timeout config.persistence l.files
      (l.effective stats.cell.bsId) stats a answer
    simp only [enforceCell, effective_typed, files_typed, hloud, hstill, typed_nil]
    generalize Enforcement.run (α := α) _ _ _ _ _ _ (fun p => (answer p).quiet) = e
    let enforced : ControlLoop α :=
      { l with policies := l.policies.set stats.cell.bsId e.policy, files := e.files }
    exact Prod.ext (enforced.typed_typed wanted _) rfl

/-- So do the steps of several cells. -/
theorem enforceCells_quiet (config : LoopConfig) (answer : Push → Response Unit)
    (planned : List (CellStats × Except (ControlError α) (CellAllocation α))) (l : ControlLoop α)
    (wanted : List Nat) :
    let quiet := enforceCells config (fun p => (answer p).quiet) l planned
    enforceCells config answer (l.typed wanted) planned =
      (quiet.1.typed (wanted ++ Exchange.late answer (quiet.2.filterMap CellRun.exchange)), quiet.2) := by
  induction planned generalizing l wanted with
  | nil => simp [enforceCells, Exchange.late]
  | cons p rest ih =>
    simp only [enforceCells, enforceCell_quiet, ih, List.append_assoc, ← Exchange.late_append]
    cases hx : (enforceCell config (fun p => (answer p).quiet) l p.1 p.2).2.exchange <;> simp [hx]

/-! ## One cycle -/

/-- What comes after the report takes what the operator asks for meanwhile along. -/
theorem process_quiet (config : LoopConfig) (t : Turn) (n : SliceCount) (l : ControlLoop α) (wanted : List Nat)
    (r : StatsReport) :
    let quiet := process config t.quiet n l r
    process config t n (l.typed wanted) r =
      (quiet.1.typed (wanted ++ Exchange.late t.push quiet.2.exchanges), quiet.2) := by
  simp only [process, meet_typed, allocate_typed, enforceCells_quiet]
  rfl

/-- **A cycle is atomic to the operator.** Whatever the operator asks for while a cycle waits for its report or
for the answer to a push, and however often: the cycle does and reports what it would have done without, and
the requests are there for the next cycle, in the order in which they came. -/
theorem step_eq_quiet (config : LoopConfig) (l : ControlLoop α) (t : Turn) :
    let quiet := l.step config t.quiet
    l.step config t = (quiet.1.typed (t.late quiet.2), quiet.2) := by
  simp only [step, Turn.fetch_quiet, Response.inTime?_quiet, Response.elapsed_quiet, Response.typed_quiet,
    Turn.typed_quiet, typed_nil]
  cases t.fetch.inTime? config.timeout with
  | none => simp [Turn.late, Exchange.late]
  | some result =>
    cases result with
    | error e => simp [Turn.late, Exchange.late]
    | ok r => exact process_quiet ..

/-- When the operator keeps quiet, the number of slices stands for the whole cycle. -/
theorem count_step_quiet (config : LoopConfig) (l : ControlLoop α) (t : Turn) :
    (l.step config t.quiet).1.count = l.slicesIn t := by
  refine enforced_induct (P := fun l' _ => l'.count = l.slicesIn t) rfl fun l' done c _ hcount => ?_
  generalize (l.ready config.timeout t.quiet).allocate (l.slicesIn t.quiet) c = planned
  cases planned with
  | error e => exact hcount
  | ok a =>
    have hstill := Enforcement.typed_run_quiet config.timeout config.persistence l'.files
      (l'.effective c.cell.bsId) c a t.push
    simp only [enforceCell, Turn.push_quiet, hstill]
    exact hcount

/-- The number of slices after a cycle is the one that was asked for last, before the cycle or during it. -/
theorem count_step (config : LoopConfig) (l : ControlLoop α) (t : Turn) :
    (l.step config t).1.count = l.count.requests (t.typed ++ t.late (l.step config t).2) := by
  have hquiet := step_eq_quiet config l t
  have hlate : t.late (l.step config t).2 = t.late (l.step config t.quiet).2 := by rw [hquiet]
  rw [hlate, hquiet, typed, count_step_quiet, slicesIn, SliceCount.requests_append]

/-! ## A run -/

/-- The number of slices after a run. -/
theorem count_after (config : LoopConfig) (l : ControlLoop α) (turns : List Turn) :
    (l.after config turns).count = l.count.requests (requested (l.history config turns)) := by
  refine history_induct (P := fun l' done => l'.count = l.count.requests (requested done))
    (fun l' done t hcount => ?_) turns l [] rfl
  rw [count_step, hcount, requested_concat, SliceCount.requests_append _ (requested done)]

/-- The number of slices in a cycle is the last that was asked for before the cycle and is in range. -/
theorem slicesIn_after (config : LoopConfig) (l : ControlLoop α) (turns : List Turn) (t : Turn) :
    (l.after config turns).slicesIn t =
      l.count.lastValid (requested (l.history config turns) ++ t.typed) := by
  rw [slicesIn, count_after, ← SliceCount.requests_append, SliceCount.requests_eq_lastValid]

/-! ## What a cycle works with -/

/-- An allocation that a cycle reports is for the number of slices that the cycle started with. -/
theorem slices_of_mem_cells_step {l : ControlLoop α} {t : Turn} {x : CellReport α}
    (hx : x ∈ (l.step config t).2.cells) {a : CellAllocation α} (ha : x.allocation = some a) :
    a.numSlices = l.slicesIn t ∧ a.slices.map SliceAllocation.slice = (l.slicesIn t).slices := by
  rcases mem_cells_step.mp hx with ⟨e, he, rfl⟩ | ⟨r, -, c, -, rfl⟩
  · rw [report_of_mem_cellLog he] at ha
    exact slices_of_allocate (toOption_eq_some_iff.mp ha)
  · cases ha

/-- A push of an enforcement: the policy in effect with the reported allocation written to it, where both
directions have `n` active slices. -/
structure Pushed (n : SliceCount) (e : TrailEntry α) (x : Exchange) (doc : PolicyDocument α) : Prop where
  exchange : e.run.exchange = some x
  written : ∃ a, e.run.report.allocation = some a ∧
    (e.before.effective e.stats.cell.bsId).applyAllocation a = .ok doc
  body : x.push.body = doc.dump .yaml
  slices : ∀ d, doc.numSlices d = .ok n

/-- Every policy that a cycle pushes is for that number of slices as well, in both directions. -/
theorem exists_pushed_of_mem_exchanges {l : ControlLoop α} {t : Turn} {x : Exchange}
    (hx : x ∈ (l.step config t).2.exchanges) :
    ∃ e ∈ l.cycleTrail config t, ∃ doc, Pushed (l.slicesIn t) e x doc := by
  rw [exchanges_cycleTrail] at hx
  obtain ⟨e, he, hexchange⟩ := List.mem_filterMap.mp hx
  obtain ⟨planned, hplanned, hstep⟩ := exists_of_mem_cellTrail e he
  have hreport := report_enforceCell config t.push e.before e.stats planned
  have hpushed := push_enforceCell config t.push e.before e.stats planned
  rw [hstep] at hreport hpushed
  obtain ⟨a, doc, rfl, hwritten, hpush⟩ := hpushed x hexchange
  obtain ⟨c, -, hc⟩ := List.mem_map.mp hplanned
  obtain ⟨hslices, -⟩ := slices_of_allocate (Prod.mk.inj hc).2
  refine ⟨e, he, doc, hexchange, ⟨a, by rw [hreport]; rfl, hwritten⟩, by rw [hpush], fun d => ?_⟩
  rw [PolicyDocument.numSlices_of_applyAllocation hwritten, hslices]

/-- **Requests of the operator.** Whatever the operator asks for and whenever it does: the number of slices that
a cycle reports, that its allocations are for, and that is active in both directions of every policy that it
pushes, is the last one that was asked for before the cycle and is in range, or the one that the loop started
with. What is asked for during the cycle changes nothing in it; it is there for the next cycle. -/
theorem slices_of_cycle (config : LoopConfig) (template : PolicyDocument α) (count : SliceCount)
    (files : Files) (turns : List Turn) (t : Turn) :
    let begun := start template count files
    let l := begun.after config turns
    let n := count.lastValid (requested (begun.history config turns) ++ t.typed)
    let quiet := l.step config t.quiet
    (∀ report, (l.step config t).2.report = .ok report → report.numSlices = n ∧
      ∀ x ∈ report.cells, ∀ a, x.allocation = some a →
        a.numSlices = n ∧ a.slices.map SliceAllocation.slice = n.slices) ∧
    (∀ x ∈ (l.step config t).2.exchanges, ∃ e ∈ l.cycleTrail config t, ∃ doc, Pushed n e x doc) ∧
    l.step config t = (quiet.1.typed (t.late quiet.2), quiet.2) := by
  intro begun l n quiet
  have hn : l.slicesIn t = n := slicesIn_after config begun turns t
  refine ⟨fun report hreport => ?_, fun x hx => hn ▸ exists_pushed_of_mem_exchanges hx, step_eq_quiet ..⟩
  have hcells : (l.step config t).2.cells = report.cells := by rw [CycleResult.cells, hreport]
  exact ⟨hn ▸ numSlices_of_report hreport, fun x hx a ha => hn ▸ slices_of_mem_cells_step (hcells ▸ hx) ha⟩

end ControlLoop

end RanSlicing
