import RanSlicing.Proofs.History

/-!
# Runs with a bound

A loop that is bounded to a number of cycles stops by itself. Nothing that its surroundings do keeps it
from that: a cycle whose fetch fails or comes too late counts like any other, and there is no pause
after the last cycle. The bound is looked at after a cycle, never before it, so the smallest number of
cycles is one (`ControlLoop.run_bounded`).
-/

namespace RanSlicing

/-! ## Times without a signal -/

/-- No signal is there up to a time, that time included. -/
def Shutdown.SilentUntil (now : Millis) : Shutdown → Prop
  | never => True
  | .atTime t => now < t
  | _ => False

namespace Shutdown.SilentUntil

variable {s : Shutdown} {now later : Millis}

theorem mono (h : s.SilentUntil later) (hle : now ≤ later) : s.SilentUntil now := by
  cases s with
  | never => exact h
  | atTime t => exact Nat.lt_of_le_of_lt hle h
  | before => exact h
  | orphaned => exact h

/-- A cycle that starts in silence is not held back. -/
theorem signalled (h : s.SilentUntil now) : s.signalled now = false := by
  cases s with
  | never => rfl
  | atTime t => exact decide_eq_false (Nat.not_le_of_lt h)
  | before => exact h.elim
  | orphaned => rfl

/-- A pause that ends in silence is not cut short. -/
theorem interrupts? {length : Millis} (h : s.SilentUntil (now + length)) :
    s.interrupts? now length = none := by
  cases s with
  | never => rfl
  | atTime t => exact if_neg (Nat.not_lt_of_lt h)
  | before => exact h.elim
  | orphaned => exact h.elim

end Shutdown.SilentUntil

namespace ControlLoop

variable {α : Type} [Share α] {config : LoopConfig}

/-! ## From one cycle to the last -/

/-- The time that some turns take: that of their cycles, and a pause between one cycle and the next. -/
def duration (config : LoopConfig) (l : ControlLoop α) (turns : List Turn) : Millis :=
  total (((l.history config turns).map (fun e => e.2.elapsed)).intersperse config.interval)

/-- The rest of a bounded run, from a cycle that starts in silence. The induction is on the cycles that
the bound leaves after that one. -/
theorem runFrom_bounded {m : Nat} (hm : config.maxCycles = some m) (shutdown : Shutdown)
    (turns : Nat → Turn) :
    ∀ (n k : Nat) (now : Millis) (l : ControlLoop α), k + (n + 1) = max m 1 →
      shutdown.SilentUntil (now + l.duration config ((List.range' k (n + 1)).map turns)) →
      runFrom config shutdown turns (n + 1) k now l =
        some ⟨l.after config ((List.range' k (n + 1)).map turns),
          (l.history config ((List.range' k (n + 1)).map turns)).map Prod.snd,
          now + l.duration config ((List.range' k (n + 1)).map turns)⟩ := by
  intro n
  induction n with
  | zero =>
    intro k now l hk hsilent
    have hlast : config.maxCycles.any (· ≤ k + 1) = true := by
      rw [hm, Option.any_some, decide_eq_true_eq]
      omega
    simp only [runFrom]
    rw [(hsilent.mono (Nat.le_add_right _ _)).signalled, if_neg Bool.false_ne_true, if_pos hlast]
    rfl
  | succ n ih =>
    intro k now l hk hsilent
    have hmore : ¬ config.maxCycles.any (· ≤ k + 1) = true := by
      rw [hm, Option.any_some, decide_eq_true_eq]
      omega
    have hduration : l.duration config ((List.range' k (n + 2)).map turns) =
        (l.step config (turns k)).2.elapsed + (config.interval +
          (l.step config (turns k)).1.duration config ((List.range' (k + 1) (n + 1)).map turns)) := rfl
    rw [hduration, ← Nat.add_assoc, ← Nat.add_assoc] at hsilent
    -- silence until the last cycle ends is silence in the pause before it, and before that
    have hpause := hsilent.mono (Nat.le_add_right _ _)
    have hstart := (hpause.mono (Nat.le_add_right _ _)).mono (Nat.le_add_right _ _)
    rw [runFrom, hstart.signalled, if_neg Bool.false_ne_true]
    dsimp only
    rw [if_neg hmore, hpause.interrupts?]
    dsimp only
    rw [ih (k + 1) _ _ (by omega) hsilent, Option.map_some, hduration, ← Nat.add_assoc, ← Nat.add_assoc]
    rfl

/-- **Bounded runs.** A loop whose cycles are bounded, and which gets no signal until its last cycle has
ended, stops whatever its surroundings do. It has then answered the first turns, one for each cycle up
to the bound and at least one, and asked for the report of each of them; it stops when the last of these
cycles ends. So it runs exactly as many cycles as it was bounded to if that is at least one, and one too
many if it is none. -/
theorem run_bounded (config : LoopConfig) {m : Nat} (hm : config.maxCycles = some m)
    (turns : Nat → Turn) (l : ControlLoop α) {shutdown : Shutdown} :
    let answered := (List.range (max m 1)).map turns
    shutdown.SilentUntil (config.initialDelay + l.duration config answered) →
    ∃ r, l.run config shutdown turns = some r ∧
      r.cycles = (l.history config answered).map Prod.snd ∧ r.loop = l.after config answered ∧
      r.elapsed = config.initialDelay + l.duration config answered ∧
      r.cycles.length = max m 1 ∧ r.loop.cycle = l.cycle + max m 1 ∧
      (r.cycles.length = m ↔ 1 ≤ m) := by
  intro answered hsilent
  have hfrom : runFrom config shutdown turns (max m 1) 0 config.initialDelay l =
      some ⟨l.after config answered, (l.history config answered).map Prod.snd,
        config.initialDelay + l.duration config answered⟩ := by
    obtain ⟨n, hn⟩ : ∃ n, max m 1 = n + 1 := ⟨max m 1 - 1, by omega⟩
    have hrest := runFrom_bounded hm shutdown turns n 0 config.initialDelay l (by omega)
    rw [← hn, ← List.range_eq_range'] at hrest
    exact hrest hsilent
  have hlimit : cycleLimit? config shutdown = some (max m 1) := by
    simp only [cycleLimit?, hm]
  have hpause : shutdown.interrupts? 0 config.initialDelay = none := by
    refine Shutdown.SilentUntil.interrupts? ?_
    rw [Nat.zero_add]
    exact hsilent.mono (Nat.le_add_right _ _)
  have hlength : answered.length = max m 1 := by
    rw [List.length_map, List.length_range]
  refine ⟨⟨l.after config answered, (l.history config answered).map Prod.snd,
    config.initialDelay + l.duration config answered⟩, ?_, rfl, rfl, rfl, ?_, ?_, ?_⟩
  · simp only [run, hlimit, hpause, Option.bind_some, hfrom, ite_self]
  · rw [List.length_map, length_history, hlength]
  · rw [cycle_after, hlength]
  · rw [List.length_map, length_history, hlength]
    omega

/-- A run of three cycles ends with the third, although the first fetch was refused and the second came
too late; a signal that comes later finds it stopped. -/
theorem run_bounded_three :
    let config : LoopConfig := ⟨1000, 700, 5000, some 3, none⟩
    let l := start (PolicyDocument.default (α := Rat)) ⟨1, by decide⟩ .empty
    let turns (k : Nat) : Turn :=
      if k = 0 then .failing 40 else if k = 1 then .failing 6000 else .smooth [(1, 7)] 1
    config.maxCycles = some 3 ∧
      (Shutdown.atTime 7741).SilentUntil
        (config.initialDelay + l.duration config ((List.range (max 3 1)).map turns)) ∧
      ∃ r, l.run config (.atTime 7741) turns = some r ∧ r.cycles.length = 3 ∧ r.elapsed = 7740 := by
  intro config l turns
  have hend : config.initialDelay + l.duration config ((List.range (max 3 1)).map turns) = 7740 := by
    decide +kernel
  have hsilent : (Shutdown.atTime 7741).SilentUntil
      (config.initialDelay + l.duration config ((List.range (max 3 1)).map turns)) := by
    rw [hend]
    exact Nat.lt_succ_self 7740
  obtain ⟨r, hr, -, -, helapsed, -, -, hcycles⟩ := run_bounded config rfl turns l hsilent
  exact ⟨rfl, hsilent, r, hr, hcycles.mpr (by decide), helapsed.trans hend⟩

/-- A loop that is bounded to no cycles runs one. -/
theorem run_of_bound_zero :
    let config : LoopConfig := ⟨1000, 0, 5000, some 0, none⟩
    let l := start (PolicyDocument.default (α := Rat)) ⟨1, by decide⟩ .empty
    (l.run config .never fun _ => .failing 40).map (fun r => (r.cycles.length, r.loop.cycle)) =
      some (1, 1) := by
  decide +kernel

end ControlLoop

end RanSlicing
