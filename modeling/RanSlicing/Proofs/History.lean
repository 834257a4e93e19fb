import RanSlicing.Control.Run
import RanSlicing.Proofs.Cycle
import Mathlib.Data.List.Nodup

/-!
# The history of a run

A run is its turns: `ControlLoop.after` is the loop after the cycles of some turns, and
`ControlLoop.history` keeps what every cycle did beside the turn that it answered. The loop that runs
on a clock (`ControlLoop.run`) goes through the same states (`ControlLoop.exists_turns_of_run`), so
what is proved of all lists of turns is proved of all runs, wherever they are stopped.

`ControlLoop.history_induct` is the induction over the cycles of a run.
-/

namespace RanSlicing

/-- A turn without a hitch: each of some base stations reports a frame number and one user with empty
queues, and every push is accepted at once. -/
def Turn.smooth (cells : List (BsId × UInt32)) (enable64Qam : UInt8) : Turn where
  typed := []
  fetch := ⟨0, .ok {
    configs := cells.map (fun c => ⟨c.1, [⟨0, PerDirection.both 25, enable64Qam⟩]⟩)
    macs := cells.map (fun c => ⟨c.1, [⟨70, ⟨[], 0, [], some ⟨c.2, [⟨0, some 15⟩]⟩⟩⟩]⟩) }, []⟩
  push _ := ⟨0, .ok (), []⟩

/-- The same turn, but the controller refuses every push. -/
def Turn.refusing (cells : List (BsId × UInt32)) (enable64Qam : UInt8) : Turn :=
  { Turn.smooth cells enable64Qam with push := fun _ => ⟨0, .error .transport, []⟩ }

/-- A turn in which the controller refuses to report, after a time. -/
def Turn.failing (delay : Millis) : Turn where
  typed := []
  fetch := ⟨delay, .error .transport, []⟩
  push _ := ⟨0, .ok (), []⟩

/-- Four base stations: the first has no carrier, the second no users, the others one user each. -/
def StatsReport.mixed : StatsReport where
  configs := ⟨1, []⟩ :: [2, 3, 4].map (fun b => ⟨b, [⟨0, PerDirection.both 25, 1⟩]⟩)
  macs := ⟨1, []⟩ :: ⟨2, []⟩ ::
    [3, 4].map (fun b => ⟨b, [⟨70, ⟨[], 0, [], some ⟨7, [⟨0, some 15⟩]⟩⟩⟩]⟩)

/-- A turn that brings these base stations; the last answers its push too late. -/
def Turn.mixed : Turn where
  typed := []
  fetch := ⟨0, .ok .mixed, []⟩
  push p := if p.bsId = 4 then ⟨6000, .ok (), []⟩ else ⟨0, .ok (), []⟩

namespace ControlLoop

variable {α : Type} [Share α]

/-- The loop after the cycles of some turns. -/
def after (config : LoopConfig) : ControlLoop α → List Turn → ControlLoop α
  | l, [] => l
  | l, t :: ts => after config (l.step config t).1 ts

/-- What the cycles of some turns do, each beside its turn. -/
def history (config : LoopConfig) : ControlLoop α → List Turn → List (Turn × CycleResult α)
  | _, [] => []
  | l, t :: ts => (t, (l.step config t).2) :: history config (l.step config t).1 ts

/-- The loop after the first `k` of infinitely many turns. -/
def reached (config : LoopConfig) (l : ControlLoop α) (turns : Nat → Turn) (k : Nat) : ControlLoop α :=
  l.after config ((List.range k).map turns)

/-- Turns that follow others are answered by the loop that those leave. -/
theorem after_append (config : LoopConfig) (l : ControlLoop α) (ts us : List Turn) :
    l.after config (ts ++ us) = (l.after config ts).after config us := by
  induction ts generalizing l with
  | nil => rfl
  | cons t rest ih => exact ih _

theorem after_concat (config : LoopConfig) (l : ControlLoop α) (ts : List Turn) (t : Turn) :
    l.after config (ts ++ [t]) = ((l.after config ts).step config t).1 :=
  after_append config l ts [t]

theorem reached_succ (config : LoopConfig) (l : ControlLoop α) (turns : Nat → Turn) (k : Nat) :
    l.reached config turns (k + 1) = ((l.reached config turns k).step config (turns k)).1 := by
  rw [reached, List.range_succ, List.map_append, List.map_singleton, after_concat]
  rfl

theorem cycle_after (config : LoopConfig) (l : ControlLoop α) (turns : List Turn) :
    (l.after config turns).cycle = l.cycle + turns.length := by
  induction turns generalizing l with
  | nil => rfl
  | cons t rest ih =>
    rw [after, ih, cycle_step, List.length_cons, Nat.add_right_comm, Nat.add_assoc]

theorem length_history (config : LoopConfig) (l : ControlLoop α) (turns : List Turn) :
    (l.history config turns).length = turns.length := by
  induction turns generalizing l with
  | nil => rfl
  | cons t rest ih => rw [history, List.length_cons, ih, List.length_cons]

/-- The turns of a history are those that it answers. -/
theorem map_fst_history (config : LoopConfig) (l : ControlLoop α) (turns : List Turn) :
    (l.history config turns).map Prod.fst = turns := by
  induction turns generalizing l with
  | nil => rfl
  | cons t rest ih => rw [history, List.map_cons, ih]

/-- **Induction over the cycles of a run.** What holds before the first cycle and is kept by every
cycle holds after all of them. The property speaks of the state of the loop and of the cycles that
are done. -/
theorem history_induct {config : LoopConfig}
    {P : ControlLoop α → List (Turn × CycleResult α) → Prop}
    (hstep : ∀ l done t, P l done → P (l.step config t).1 (done ++ [(t, (l.step config t).2)])) :
    ∀ (turns : List Turn) (l : ControlLoop α) (done : List (Turn × CycleResult α)),
      P l done → P (l.after config turns) (done ++ l.history config turns) := by
  intro turns
  induction turns with
  | nil =>
    intro l done h
    simpa [after, history] using h
  | cons t rest ih =>
    intro l done h
    simpa [after, history] using ih _ _ (hstep l done t h)

/-! ## Runs on a clock -/

theorem exists_turns_of_runFrom {config : LoopConfig} {shutdown : Shutdown} {turns : Nat → Turn} :
    ∀ {limit k : Nat} {now : Millis} {l : ControlLoop α} {r : RunResult α},
      runFrom config shutdown turns limit k now l = some r →
      ∃ n, r.loop = l.after config ((List.range' k n).map turns) ∧
        r.cycles = (l.history config ((List.range' k n).map turns)).map Prod.snd := by
  intro limit
  induction limit with
  | zero =>
    intro k now l r h
    simp only [runFrom] at h
    split at h
    · cases h
      exact ⟨0, rfl, rfl⟩
    · cases h
  | succ limit ih =>
    intro k now l r h
    simp only [runFrom] at h
    split at h
    · cases h
      exact ⟨0, rfl, rfl⟩
    · split at h
      · cases h
        exact ⟨1, rfl, rfl⟩
      · split at h
        · cases h
          exact ⟨1, rfl, rfl⟩
        · obtain ⟨rest, hrest, rfl⟩ := Option.map_eq_some_iff.mp h
          obtain ⟨n, hloop, hcycles⟩ := ih hrest
          refine ⟨n + 1, hloop, ?_⟩
          rw [hcycles]
          rfl

/-- A run on a clock is the history of the first turns that it is given. -/
theorem exists_turns_of_run {config : LoopConfig} {shutdown : Shutdown} {turns : Nat → Turn}
    {l : ControlLoop α} {r : RunResult α} (h : l.run config shutdown turns = some r) :
    ∃ n, r.loop = l.after config ((List.range n).map turns) ∧
      r.cycles = (l.history config ((List.range n).map turns)).map Prod.snd := by
  have hbegin : ∀ {r : RunResult α}, ((cycleLimit? config shutdown).bind
      (fun limit => runFrom config shutdown turns limit 0 config.initialDelay l)) = some r →
      ∃ n, r.loop = l.after config ((List.range n).map turns) ∧
        r.cycles = (l.history config ((List.range n).map turns)).map Prod.snd := by
    intro r h
    obtain ⟨limit, -, hfrom⟩ := Option.bind_eq_some_iff.mp h
    simpa only [List.range_eq_range'] using exists_turns_of_runFrom hfrom
  simp only [run] at h
  split at h
  · exact hbegin h
  · split at h
    · cases h
      exact ⟨0, rfl, rfl⟩
    · exact hbegin h

end ControlLoop

end RanSlicing
