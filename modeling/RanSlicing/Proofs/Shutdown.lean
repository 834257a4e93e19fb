import RanSlicing.Proofs.BoundedRun

/-!
# Runs that are shut down

A run that is told to shut down does nothing else than the same run would do undisturbed, it only stops
earlier. Cycle `k` of the undisturbed run is the answer to turn `k`; it takes place if the bound allows it
(`LoopConfig.Allows`) and it starts at `ControlLoop.startTime`. The signal is looked for in three places,
before the first cycle, before every cycle and in every pause, and in all of them it decides one thing:
whether the next cycle starts (`ControlLoop.lt_length_run_iff`). So the run that is signalled at a time
consists of the cycles that start before that time, whole as they are (`ControlLoop.run_atTime`).

A signal at the very time at which a cycle would start counts as the earlier of the two.
-/

namespace RanSlicing

/-! ## The signal -/

namespace Shutdown

variable {s : Shutdown} {now later length : Millis}

/-- A signal that is there stays. -/
theorem signalled_mono (h : s.signalled now = true) (hle : now ≤ later) : s.signalled later = true := by
  cases s with
  | never => exact h
  | before => rfl
  | orphaned => exact h
  | atTime t =>
    rw [signalled, decide_eq_true_eq] at h ⊢
    exact Nat.le_trans h hle

/-- What cuts a pause short is there when the pause would have ended. -/
theorem signalled_of_interrupts? (hs : s ≠ .orphaned) {t : Millis}
    (h : s.interrupts? now length = some t) : s.signalled (now + length) = true := by
  cases s with
  | never => cases h
  | before => rfl
  | orphaned => exact absurd rfl hs
  | atTime T =>
    simp only [interrupts?] at h
    split at h
    · next hlt => exact decide_eq_true (Nat.le_of_lt hlt)
    · cases h

end Shutdown

/-- Whether the bound of a loop lets it come to cycle `k`. The first cycle is never kept back. -/
def LoopConfig.Allows (config : LoopConfig) (k : Nat) : Prop := k = 0 ∨ ∀ m ∈ config.maxCycles, k < m

namespace ControlLoop

variable {α : Type} [Share α] {config : LoopConfig} {shutdown : Shutdown} {turns : Nat → Turn}

/-! ## The clock of an undisturbed run -/

/-- The time from the start of some cycles to the start of the next: that of the cycles, and a pause after
each of them. -/
def span (config : LoopConfig) (l : ControlLoop α) (ts : List Turn) : Millis :=
  total ((l.history config ts).map (fun e => e.2.elapsed + config.interval))

/-- The time at which cycle `k` of an undisturbed run starts. -/
def startTime (config : LoopConfig) (l : ControlLoop α) (turns : Nat → Turn) (k : Nat) : Millis :=
  config.initialDelay + l.span config ((List.range k).map turns)

theorem span_cons (l : ControlLoop α) (t : Turn) (ts : List Turn) :
    l.span config (t :: ts) =
      (l.step config t).2.elapsed + config.interval + (l.step config t).1.span config ts := rfl

/-! ## Which cycles take place -/

/-- From the start of cycle `k` on, a run consists of the cycles that the bound allows and that start
without a signal. The induction is along the run: a cycle and the pause behind it lead from one start to
the next. -/
theorem lt_length_runFrom_iff (hs : shutdown ≠ .orphaned) :
    ∀ {limit k : Nat} {now : Millis} {l : ControlLoop α} {r : RunResult α},
      runFrom config shutdown turns limit k now l = some r →
      ∀ j, j < r.cycles.length ↔ (j = 0 ∨ ∀ m ∈ config.maxCycles, k + j < m) ∧
        shutdown.signalled (now + l.span config ((List.range' k j).map turns)) = false := by
  -- a run that finds the signal is over
  have hstopped : ∀ {k : Nat} {now : Millis} {l : ControlLoop α}, shutdown.signalled now = true →
      ∀ j, ¬ shutdown.signalled (now + l.span config ((List.range' k j).map turns)) = false := by
    intro k now l hnow j hlater
    rw [Shutdown.signalled_mono hnow (Nat.le_add_right _ _)] at hlater
    cases hlater
  intro limit
  induction limit with
  | zero =>
    intro k now l r h j
    simp only [runFrom] at h
    split at h
    · next hnow =>
      cases h
      exact iff_of_false (Nat.not_lt_zero j) fun hj => hstopped hnow j hj.2
    · cases h
  | succ limit ih =>
    intro k now l r h j
    simp only [runFrom] at h
    split at h
    · next hnow =>
      cases h
      exact iff_of_false (Nat.not_lt_zero j) fun hj => hstopped hnow j hj.2
    next hnow =>
    rw [Bool.not_eq_true] at hnow
    cases j with
    | zero =>
      -- the cycle that has started takes place, whatever comes behind it
      refine iff_of_true ?_ ⟨.inl rfl, hnow⟩
      split at h
      · cases h
        exact Nat.one_pos
      · split at h
        · cases h
          exact Nat.one_pos
        · obtain ⟨rest, -, rfl⟩ := Option.map_eq_some_iff.mp h
          exact Nat.succ_pos _
    | succ j =>
      have hstart : now + l.span config ((List.range' k (j + 1)).map turns) =
          now + (l.step config (turns k)).2.elapsed + config.interval +
            (l.step config (turns k)).1.span config ((List.range' (k + 1) j).map turns) := by
        rw [List.range'_succ, List.map_cons, span_cons, ← Nat.add_assoc, ← Nat.add_assoc]
      have hallows : (j + 1 = 0 ∨ ∀ m ∈ config.maxCycles, k + (j + 1) < m) ↔
          ∀ m ∈ config.maxCycles, k + 1 + j < m := by
        rw [or_iff_right (Nat.succ_ne_zero j), Nat.add_assoc, Nat.add_comm 1 j]
      rw [hstart, hallows]
      split at h
      · next hbound =>
        cases h
        obtain ⟨m, hm, hle⟩ := (Option.any_eq_true _ _).mp hbound
        rw [decide_eq_true_eq] at hle
        refine iff_of_false (by simp) fun hj => ?_
        have hlt := hj.1 m hm
        omega
      · next hbound =>
        split at h
        · next t ht =>
          cases h
          refine iff_of_false (by simp) fun hj => ?_
          exact hstopped (Shutdown.signalled_of_interrupts? hs ht) j hj.2
        · obtain ⟨rest, hrest, rfl⟩ := Option.map_eq_some_iff.mp h
          rw [List.length_cons, Nat.add_lt_add_iff_right, ih hrest j]
          refine and_congr_left fun _ => or_iff_right_of_imp ?_
          -- the bound was not reached, so the next cycle is allowed
          rintro rfl m hm
          have hlt : ¬ m ≤ k + 1 := fun hle =>
            hbound ((Option.any_eq_true _ _).mpr ⟨m, hm, decide_eq_true hle⟩)
          omega

/-! ## That a run stops -/

/-- A run that starts another cycle stops if what would follow that cycle does, as far as the bound allows
it at all. -/
theorem isSome_runFrom_succ {limit k : Nat} {now : Millis} {l : ControlLoop α}
    (h : (∀ m ∈ config.maxCycles, k + 1 < m) →
      (runFrom config shutdown turns limit (k + 1)
        (now + (l.step config (turns k)).2.elapsed + config.interval) (l.step config (turns k)).1).isSome) :
    (runFrom config shutdown turns (limit + 1) k now l).isSome := by
  simp only [runFrom]
  split
  · rfl
  · split
    · rfl
    · next hbound =>
      split
      · rfl
      · rw [Option.isSome_map]
        refine h fun m hm => Nat.lt_of_not_le fun hle => ?_
        exact hbound ((Option.any_eq_true _ _).mpr ⟨m, hm, decide_eq_true hle⟩)

/-- A bounded run stops. -/
theorem isSome_runFrom_of_bound {m : Nat} (hm : config.maxCycles = some m) :
    ∀ {limit k : Nat} (now : Millis) (l : ControlLoop α), 0 < limit → m ≤ k + limit →
      (runFrom config shutdown turns limit k now l).isSome := by
  intro limit
  induction limit with
  | zero => exact fun _ _ h => absurd h (Nat.lt_irrefl 0)
  | succ limit ih =>
    intro k now l _ hle
    refine isSome_runFrom_succ fun hmore => ?_
    have hlt := hmore m hm
    exact ih _ _ (by omega) (by omega)

/-- A run that gets a signal stops, because every pause takes time. -/
theorem isSome_runFrom_atTime (hinterval : 0 < config.interval) {T : Millis} :
    ∀ {limit k : Nat} {now : Millis} (l : ControlLoop α), T ≤ now + limit →
      (runFrom config (.atTime T) turns limit k now l).isSome := by
  intro limit
  induction limit with
  | zero =>
    intro k now l hle
    have hnow : (Shutdown.atTime T).signalled now = true := decide_eq_true hle
    rw [runFrom, if_pos hnow]
    rfl
  | succ limit ih =>
    intro k now l hle
    refine isSome_runFrom_succ fun _ => ih _ ?_
    calc T ≤ now + (limit + 1) := hle
      _ = now + 1 + limit := by rw [Nat.add_comm limit 1, Nat.add_assoc]
      _ ≤ now + (l.step config (turns k)).2.elapsed + config.interval + limit :=
        Nat.add_le_add_right (Nat.add_le_add (Nat.le_add_right _ _) hinterval) limit

/-! ## Whole runs -/

/-- A run consists of the cycles that the bound allows and that start without a signal. -/
theorem lt_length_run_iff (hs : shutdown ≠ .orphaned) {l : ControlLoop α} {r : RunResult α}
    (h : l.run config shutdown turns = some r) (k : Nat) :
    k < r.cycles.length ↔ config.Allows k ∧ shutdown.signalled (l.startTime config turns k) = false := by
  have hbegin : ∀ {limit : Nat}, runFrom config shutdown turns limit 0 config.initialDelay l = some r →
      (k < r.cycles.length ↔
        config.Allows k ∧ shutdown.signalled (l.startTime config turns k) = false) := by
    intro limit hfrom
    rw [lt_length_runFrom_iff hs hfrom k, LoopConfig.Allows, startTime, List.range_eq_range', Nat.zero_add]
  simp only [run] at h
  split at h
  · obtain ⟨limit, -, hfrom⟩ := Option.bind_eq_some_iff.mp h
    exact hbegin hfrom
  · split at h
    · next t ht =>
      -- the signal came in the first pause, so it is there when the first cycle would start
      cases h
      refine iff_of_false (Nat.not_lt_zero k) fun hk => ?_
      have hsignal := Shutdown.signalled_of_interrupts? hs ht
      rw [Nat.zero_add] at hsignal
      rw [startTime, Shutdown.signalled_mono hsignal (Nat.le_add_right _ _)] at hk
      exact Bool.noConfusion hk.2
    · obtain ⟨limit, -, hfrom⟩ := Option.bind_eq_some_iff.mp h
      exact hbegin hfrom

/-- A run that is signalled at a time stops. -/
theorem exists_run_atTime (hinterval : 0 < config.interval) (turns : Nat → Turn) (l : ControlLoop α)
    (T : Millis) : ∃ r, l.run config (.atTime T) turns = some r := by
  have hbegin : ((cycleLimit? config (.atTime T)).bind fun limit =>
      runFrom config (.atTime T) turns limit 0 config.initialDelay l).isSome := by
    cases hm : config.maxCycles with
    | some m =>
      simp only [cycleLimit?, hm, Option.bind_some]
      exact isSome_runFrom_of_bound hm _ _ (by omega) (by omega)
    | none =>
      simp only [cycleLimit?, hm, Option.bind_some]
      exact isSome_runFrom_atTime hinterval _ (Nat.le_trans (Nat.le_succ T) (Nat.le_add_left _ _))
  rw [← Option.isSome_iff_exists]
  simp only [run]
  split
  · exact hbegin
  · split
    · rfl
    · exact hbegin

/-- A run that is signalled before it starts does nothing. -/
theorem exists_run_before (config : LoopConfig) (turns : Nat → Turn) (l : ControlLoop α) :
    ∃ now, l.run config .before turns = some ⟨l, [], now⟩ := by
  have hfrom : ∀ limit, runFrom config .before turns limit 0 config.initialDelay l =
      some ⟨l, [], config.initialDelay⟩ := by
    intro limit
    cases limit <;> rfl
  simp only [run]
  split
  · exact ⟨config.initialDelay, by cases hm : config.maxCycles <;> simp [cycleLimit?, hm, hfrom]⟩
  · exact ⟨0, rfl⟩

/-- What a run goes through, and where it ends, is told by the number of its cycles. -/
theorem cycles_of_run {l : ControlLoop α} {r : RunResult α} (h : l.run config shutdown turns = some r) :
    r.cycles = (l.history config ((List.range r.cycles.length).map turns)).map Prod.snd ∧
      r.loop = l.reached config turns r.cycles.length := by
  obtain ⟨n, hloop, hcycles⟩ := exists_turns_of_run h
  have hlength : r.cycles.length = n := by
    rw [hcycles, List.length_map, length_history, List.length_map, List.length_range]
  rw [hlength]
  exact ⟨hcycles, hloop⟩

/-- **Shutting down.** Let a loop pause between its cycles. Whatever its surroundings do, and whenever it is
signalled, the run stops. It has then gone through the cycles of the undisturbed run that start before the
signal, each of them in full, and is in the state that these leave; a signal in the first pause, or from
before the run, finds no cycle at all. The undisturbed run consists of all cycles that the bound allows. -/
theorem run_atTime (config : LoopConfig) (hinterval : 0 < config.interval) (turns : Nat → Turn)
    (l : ControlLoop α) (T : Millis) :
    (∃ r, l.run config (.atTime T) turns = some r ∧
      (∀ k, k < r.cycles.length ↔ config.Allows k ∧ l.startTime config turns k < T) ∧
      r.cycles = (l.history config ((List.range r.cycles.length).map turns)).map Prod.snd ∧
      r.loop = l.reached config turns r.cycles.length ∧
      (T ≤ config.initialDelay → r.cycles = [])) ∧
    (∃ r, l.run config .before turns = some r ∧ r.cycles = [] ∧ r.loop = l) ∧
    ∀ R, l.run config .never turns = some R →
      (∀ k, k < R.cycles.length ↔ config.Allows k) ∧
      R.cycles = (l.history config ((List.range R.cycles.length).map turns)).map Prod.snd ∧
      R.loop = l.reached config turns R.cycles.length := by
  refine ⟨?_, ?_, ?_⟩
  · obtain ⟨r, hr⟩ := exists_run_atTime hinterval turns l T
    obtain ⟨hcycles, hloop⟩ := cycles_of_run hr
    have hlength : ∀ k, k < r.cycles.length ↔ config.Allows k ∧ l.startTime config turns k < T := by
      intro k
      rw [lt_length_run_iff (by simp) hr k, Shutdown.signalled, decide_eq_false_iff_not, Nat.not_le]
    refine ⟨r, hr, hlength, hcycles, hloop, fun hT => ?_⟩
    refine List.eq_nil_of_length_eq_zero (Nat.eq_zero_of_not_pos fun hpos => ?_)
    have hstart : config.initialDelay < T := ((hlength 0).mp hpos).2
    exact Nat.not_le_of_lt hstart hT
  · obtain ⟨now, hr⟩ := exists_run_before config turns l
    exact ⟨_, hr, rfl, rfl⟩
  · intro R hR
    obtain ⟨hcycles, hloop⟩ := cycles_of_run hR
    refine ⟨fun k => ?_, hcycles, hloop⟩
    exact (lt_length_run_iff (by simp) hR k).trans (and_iff_left rfl)

/-- A signal that comes while the second cycle waits for its report ends the run after that cycle, although
the bound allows a third. -/
theorem run_atTime_second_fetch :
    let config : LoopConfig := ⟨1000, 700, 5000, some 3, none⟩
    let l := start (PolicyDocument.default (α := Rat)) ⟨1, by decide⟩ .empty
    let turns (k : Nat) : Turn :=
      if k = 0 then .failing 40 else if k = 1 then .failing 6000 else .smooth [(1, 7)] 1
    0 < config.interval ∧ l.startTime config turns 1 = 1740 ∧
      ∃ r, l.run config (.atTime 3000) turns = some r ∧ r.cycles.length = 2 ∧
        r.loop = l.reached config turns 2 := by
  intro config l turns
  obtain ⟨⟨r, hr, hlength, -, hloop, -⟩, -⟩ := run_atTime config (by decide) turns l 3000
  have hstarted : 1 < r.cycles.length :=
    (hlength 1).mpr ⟨.inr (by decide), by decide +kernel⟩
  have hstopped : ¬ 2 < r.cycles.length := fun h =>
    absurd ((hlength 2).mp h).2 (by decide +kernel)
  have htwo : r.cycles.length = 2 := by omega
  rw [htwo] at hloop
  exact ⟨by decide, by decide +kernel, r, hr, htwo, hloop⟩

end ControlLoop

end RanSlicing
