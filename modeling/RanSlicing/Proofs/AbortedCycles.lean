import RanSlicing.Proofs.OperatorRequests

/-!
# Aborted cycles

A cycle whose fetch fails uses up its number and does nothing else (`ControlLoop.aborted_of_fetchFails`). The
number shows in reports only, so a loop that comes to a cycle with another number makes the same cycle of it
(`ControlLoop.step_renumber`). Together: cycles whose fetches fail can be inserted into a run anywhere and in any
number, and the cycles that were there before do the same as without them (`ControlLoop.step_delayed`).

The operator goes on asking for slices while cycles fail. What is asked for in a cycle that was inserted reaches
the cycle after it, as if it had been asked for just before that one.
-/

namespace RanSlicing

variable {α : Type}

/-! ## Numbers of cycles -/

/-- The same report under another number. -/
def CycleReport.renumber (r : CycleReport α) (k : Nat) : CycleReport α := { r with cycle := k }

/-- The same cycle under another number. -/
def CycleResult.renumber (r : CycleResult α) (k : Nat) : CycleResult α :=
  { r with report := r.report.map (CycleReport.renumber · k) }

@[simp] theorem CycleResult.renumber_renumber (r : CycleResult α) (j k : Nat) :
    (r.renumber j).renumber k = r.renumber k := by
  obtain ⟨report | report, exchanges, elapsed⟩ := r <;> rfl

namespace ControlLoop

/-- The same loop after another number of cycles. -/
def renumber (l : ControlLoop α) (k : Nat) : ControlLoop α := { l with cycle := k }

@[simp] theorem renumber_renumber (l : ControlLoop α) (j k : Nat) :
    (l.renumber j).renumber k = l.renumber k := rfl

@[simp] theorem cycle_renumber (l : ControlLoop α) (k : Nat) : (l.renumber k).cycle = k := rfl

@[simp] theorem typed_renumber (l : ControlLoop α) (k : Nat) (wanted : List Nat) :
    (l.renumber k).typed wanted = (l.typed wanted).renumber k := rfl

@[simp] theorem meet_renumber (l : ControlLoop α) (k : Nat) (cells : List CellStats) :
    (l.renumber k).meet cells = (l.meet cells).renumber k := rfl

variable [Share α]

@[simp] theorem allocate_renumber (l : ControlLoop α) (k : Nat) (n : SliceCount) (stats : CellStats) :
    (l.renumber k).allocate n stats = l.allocate n stats := rfl

@[simp] theorem enforceCell_renumber (config : LoopConfig) (answer : Push → Response Unit) (l : ControlLoop α)
    (k : Nat) (stats : CellStats) (planned : Except (ControlError α) (CellAllocation α)) :
    enforceCell config answer (l.renumber k) stats planned =
      ((enforceCell config answer l stats planned).1.renumber k,
        (enforceCell config answer l stats planned).2) := by
  cases planned <;> rfl

@[simp] theorem enforceCells_renumber (config : LoopConfig) (answer : Push → Response Unit) (k : Nat)
    (planned : List (CellStats × Except (ControlError α) (CellAllocation α))) (l : ControlLoop α) :
    enforceCells config answer (l.renumber k) planned =
      ((enforceCells config answer l planned).1.renumber k, (enforceCells config answer l planned).2) := by
  induction planned generalizing l with
  | nil => rfl
  | cons p rest ih => simp only [enforceCells, enforceCell_renumber, ih]

theorem process_renumber (config : LoopConfig) (t : Turn) (n : SliceCount) (l : ControlLoop α) (k : Nat)
    (r : StatsReport) :
    process config t n (l.renumber k) r =
      ((process config t n l r).1.renumber k, (process config t n l r).2.renumber k) := by
  simp only [process, meet_renumber, allocate_renumber, enforceCells_renumber]
  rfl

/-- **Numbers of cycles.** A loop that has another number of cycles behind it makes the same cycle under another
number. -/
theorem step_renumber (config : LoopConfig) (l : ControlLoop α) (k : Nat) (t : Turn) :
    (l.renumber k).step config t =
      ((l.step config t).1.renumber (k + 1), (l.step config t).2.renumber (k + 1)) := by
  simp only [step]
  cases t.fetch.inTime? config.timeout with
  | none => rfl
  | some result =>
    cases result with
    | error e => rfl
    | ok r =>
      let begun := ((l.typed t.typed).renumber (l.cycle + 1)).typed t.fetch.typed
      exact process_renumber config t (l.slicesIn t) begun (k + 1) r

theorem after_renumber (config : LoopConfig) (turns : List Turn) (l : ControlLoop α) (k : Nat) :
    (l.renumber k).after config turns = (l.after config turns).renumber (k + turns.length) := by
  induction turns generalizing l k with
  | nil => rfl
  | cons t rest ih =>
    rw [after, step_renumber, ih, after, List.length_cons]
    congr 1
    omega

/-- What was asked for before a cycle might as well come first in its turn. -/
theorem step_typed (config : LoopConfig) (l : ControlLoop α) (wanted : List Nat) (t : Turn) :
    (l.typed wanted).step config t = l.step config { t with typed := wanted ++ t.typed } := by
  simp only [step, typed_typed]
  rfl

/-! ## Aborted cycles -/

end ControlLoop

/-- A turn whose fetch fails, whatever it fails of: an answer that comes too late, or one that is an error. -/
def Turn.FetchFails (timeout : Millis) (t : Turn) : Prop :=
  timeout < t.fetch.delay ∨ ∃ e, t.fetch.result = .error e

/-- A turn brings a report unless its fetch fails. -/
theorem Turn.report?_eq_none_iff {timeout : Millis} {t : Turn} :
    t.report? timeout = none ↔ t.FetchFails timeout := by
  rw [report?, Response.inTime?, FetchFails]
  by_cases hdelay : t.fetch.delay ≤ timeout
  · cases hresult : t.fetch.result <;> simp [hdelay]
  · simp [hdelay, Nat.lt_of_not_le hdelay]

/-- What the operator asks for until the fetch of a turn is over. -/
def Turn.asked (t : Turn) : List Nat := t.typed ++ t.fetch.typed

namespace ControlLoop

variable [Share α]

/-- A cycle that fails and leaves everything but its number as it was. -/
structure Aborted (l : ControlLoop α) (out : ControlLoop α × CycleResult α) : Prop where
  failed : ∃ e, out.2.report = .error e
  exchanges : out.2.exchanges = []
  files : out.1.files = l.files
  policies : out.1.policies = l.policies
  cycle : out.1.cycle = l.cycle + 1

/-- What is left of a turn when its fetch fails: the requests of the operator. -/
theorem step_of_fetchFails {config : LoopConfig} {t : Turn} (ht : t.FetchFails config.timeout)
    (l : ControlLoop α) :
    (l.step config t).1 = (l.typed t.asked).renumber (l.cycle + 1) ∧
      (l.step config t).2.exchanges = [] ∧ ∃ e, (l.step config t).2.report = .error e := by
  have hnone := Turn.report?_eq_none_iff.mpr ht
  rw [Turn.asked, ← typed_typed]
  simp only [Turn.report?] at hnone
  simp only [step]
  cases hfetch : t.fetch.inTime? config.timeout with
  | none => exact ⟨rfl, rfl, _, rfl⟩
  | some result =>
    cases result with
    | error e => exact ⟨rfl, rfl, _, rfl⟩
    | ok r => simp [hfetch] at hnone

/-- A cycle whose fetch fails is aborted. -/
theorem aborted_of_fetchFails {config : LoopConfig} {t : Turn} (ht : t.FetchFails config.timeout)
    (l : ControlLoop α) : Aborted l (l.step config t) := by
  obtain ⟨hloop, hexchanges, hfailed⟩ := step_of_fetchFails ht l
  exact ⟨hfailed, hexchanges, by rw [hloop]; rfl, by rw [hloop]; rfl, by rw [hloop]; rfl⟩

/-- Several such cycles leave requests of the operator behind, and nothing else. -/
theorem after_of_fetchFails {config : LoopConfig} {turns : List Turn}
    (hturns : ∀ t ∈ turns, t.FetchFails config.timeout) (l : ControlLoop α) :
    l.after config turns =
      (l.typed (turns.flatMap Turn.asked)).renumber (l.cycle + turns.length) := by
  induction turns generalizing l with
  | nil => rfl
  | cons t rest ih =>
    rw [List.forall_mem_cons] at hturns
    rw [after, (step_of_fetchFails hturns.1 l).1, ih hturns.2, typed_renumber, typed_typed, renumber_renumber,
      cycle_renumber, List.flatMap_cons, List.length_cons, Nat.add_right_comm, Nat.add_assoc]

/-! ## Cycles that are inserted -/

end ControlLoop

/-- A turn that comes after turns whose fetches fail. -/
structure DelayedTurn (timeout : Millis) where
  failed : List Turn
  turn : Turn
  fetchFails : ∀ t ∈ failed, t.FetchFails timeout

namespace DelayedTurn

variable {timeout : Millis}

/-- The turns that a delayed turn stands for. -/
def turns (d : DelayedTurn timeout) : List Turn := d.failed ++ [d.turn]

/-- The turn as it is without the delay: itself, with what the operator asked for in that time in front. -/
def undelayed (d : DelayedTurn timeout) : Turn :=
  { d.turn with typed := d.failed.flatMap Turn.asked ++ d.turn.typed }

end DelayedTurn

namespace ControlLoop

variable [Share α]

/-- A cycle that comes after aborted cycles. -/
theorem step_after_failed (config : LoopConfig) (l : ControlLoop α) (d : DelayedTurn config.timeout) :
    (l.after config d.failed).step config d.turn =
      ((l.step config d.undelayed).1.renumber (l.cycle + d.failed.length + 1),
        (l.step config d.undelayed).2.renumber (l.cycle + d.failed.length + 1)) := by
  rw [after_of_fetchFails d.fetchFails, step_renumber, step_typed]
  rfl

/-- A run with cycles that are inserted differs in the number of the last cycle. -/
theorem after_delayed (config : LoopConfig) (ds : List (DelayedTurn config.timeout)) (l : ControlLoop α) :
    l.after config (ds.flatMap DelayedTurn.turns) =
      (l.after config (ds.map DelayedTurn.undelayed)).renumber
        (l.cycle + (ds.flatMap DelayedTurn.turns).length) := by
  induction ds generalizing l with
  | nil => rfl
  | cons d rest ih =>
    have hd : l.after config d.turns = (l.step config d.undelayed).1.renumber (l.cycle + d.turns.length) := by
      rw [DelayedTurn.turns, after_concat, step_after_failed, List.length_append]
      rfl
    rw [List.flatMap_cons, after_append, hd, ih, after_renumber, renumber_renumber, cycle_renumber,
      List.length_append, ← Nat.add_assoc]
    rfl

/-- **Aborted cycles are invisible.** A cycle whose fetch fails pushes nothing, changes no file and no policy, is
an error and uses up one number. Insert such cycles into a run, anywhere and any number of them: every cycle that
was there before makes the same report, but for its number, the same pushes with the same answers, and leaves
the same policies and the same files. -/
theorem step_delayed (config : LoopConfig) (l : ControlLoop α) (ds : List (DelayedTurn config.timeout))
    (d : DelayedTurn config.timeout) :
    let alone := l.after config (ds.map DelayedTurn.undelayed)
    let among := l.after config (ds.flatMap DelayedTurn.turns ++ d.failed)
    among.step config d.turn =
        ((alone.step config d.undelayed).1.renumber (among.cycle + 1),
          (alone.step config d.undelayed).2.renumber (among.cycle + 1)) ∧
      ∀ (m : ControlLoop α) (t : Turn), t.FetchFails config.timeout → Aborted m (m.step config t) := by
  intro alone among
  refine ⟨?_, fun m t ht => aborted_of_fetchFails ht m⟩
  have hcycle : among.cycle = l.cycle + (ds.flatMap DelayedTurn.turns).length + d.failed.length := by
    rw [cycle_after, List.length_append, Nat.add_assoc]
  rw [hcycle]
  change (l.after config (ds.flatMap DelayedTurn.turns ++ d.failed)).step config d.turn = _
  rw [after_append, after_delayed, step_after_failed, step_renumber, cycle_renumber,
    CycleResult.renumber_renumber, renumber_renumber]

/-- A fetch that is refused, and a report that comes too late in a cycle before which the operator asks for two
slices, between two cycles that put a policy into effect: the second of these is the fourth now, and does what it
does without them when the operator asks just before it. -/
theorem step_delayed_refused_and_late :
    let config : LoopConfig := ⟨1000, 0, 5000, none, none⟩
    let first := Turn.smooth [(1, 7)] 1
    let late := { Turn.smooth [(1, 8)] 1 with
      typed := [2], fetch := { (Turn.smooth [(1, 8)] 1).fetch with delay := 6000 } }
    let last := Turn.smooth [(1, 9)] 1
    let l := start (PolicyDocument.default (α := Rat)) ⟨1, by decide⟩ .empty
    let alone := (l.after config [first]).step config { last with typed := [2] }
    let among := (l.after config [first, .failing 40, late]).step config last
    (∀ t ∈ [Turn.failing 40, late], t.FetchFails config.timeout) ∧
      among = (alone.1.renumber 4, alone.2.renumber 4) ∧
      (among.2.report.toOption.map fun r => (r.cycle, r.numSlices.val, r.applied)) = some (4, 2, 1) ∧
      ∀ t ∈ [Turn.failing 40, late], Aborted l (l.step config t) := by
  intro config first late last l alone among
  have hfails : ∀ t ∈ [Turn.failing 40, late], t.FetchFails config.timeout := by
    rintro t (_ | ⟨_, _ | ⟨_, ⟨⟩⟩⟩)
    · exact .inr ⟨.transport, rfl⟩
    · exact .inl (by decide)
  obtain ⟨hsame, haborted⟩ :=
    step_delayed config l [⟨[], first, by simp⟩] ⟨[.failing 40, late], last, hfails⟩
  have hcycle : (l.after config [first, .failing 40, late]).cycle + 1 = 4 := by rw [cycle_after]; rfl
  refine ⟨hfails, ?_, by decide +kernel, fun t ht => haborted l t (hfails t ht)⟩
  rw [← hcycle]
  exact hsame

end ControlLoop

end RanSlicing
