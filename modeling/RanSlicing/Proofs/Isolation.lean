import RanSlicing.Proofs.CycleReport
import RanSlicing.Proofs.EffectivePolicy

/-!
# Cells are kept apart

Two runs of a loop are compared at one position of their reports. At that position both runs are told the
same, and its base station stands nowhere else; everything else may differ. Then the two runs cannot be
told apart at that position: what they report of the cell, what they push to its base station and the
policy that is in effect there are the same in every cycle (`ControlLoop.sameAt_run`). Only the file that
a policy is kept in may be another one, because all cells share a directory.

Within a cycle the argument is a frame: the cells before and after the one that is looked at leave the
policy of its base station alone (`ControlLoop.effective_enforceCells`), so its own step is the only one
that counts (`ControlLoop.exists_step_of_alone`). Across the cycles the invariant is
`ControlLoop.AlikeAt`.
-/

namespace RanSlicing

variable {α : Type}

/-! ## What is compared -/

/-- An outcome without the file that a policy was kept in. -/
def Outcome.withoutFile : Outcome α → Outcome α
  | applied _ => applied none
  | o => o

/-- A report without the file that a policy was kept in. -/
def CellReport.withoutFile (x : CellReport α) : CellReport α :=
  { x with outcome := x.outcome.withoutFile }

/-- A report that lists a base station at one position, if it lists it at all. -/
def StatsReport.AloneAt (i : Nat) (b : BsId) (r : StatsReport) : Prop :=
  ∀ p ∈ r.configs.zipIdx, p.1.bsId = b ↔ p.2 = i

instance (i : Nat) (b : BsId) (r : StatsReport) : Decidable (r.AloneAt i b) :=
  inferInstanceAs (Decidable (∀ p ∈ r.configs.zipIdx, p.1.bsId = b ↔ p.2 = i))

/-- Two reports that say the same about a base station that stands at one position only. -/
structure StatsReport.AgreeAt (i : Nat) (b : BsId) (r r' : StatsReport) : Prop where
  config : r.configs[i]? = r'.configs[i]?
  mac : r.macs[i]? = r'.macs[i]?
  alone : r.AloneAt i b
  alone' : r'.AloneAt i b

/-- Two turns that a base station at one position sees alike: both bring a report or neither does, the
reports agree there, and the same becomes of every push to it. -/
structure Turn.AgreeAt (timeout : Millis) (i : Nat) (b : BsId) (t t' : Turn) : Prop where
  reports : Option.Rel (StatsReport.AgreeAt i b) (t.report? timeout) (t'.report? timeout)
  answers : ∀ p : Push, p.bsId = b → (t.push p).delivery timeout = (t'.push p).delivery timeout

/-- Two cycles that look the same at a position and to its base station. -/
structure CycleResult.SameAt (i : Nat) (b : BsId) (r r' : CycleResult α) : Prop where
  cell : r.cells[i]?.map CellReport.withoutFile = r'.cells[i]?.map CellReport.withoutFile
  pushes : r.exchanges.filter (fun x => x.push.bsId = b) = r'.exchanges.filter (fun x => x.push.bsId = b)

/-- Two loops that treat a base station alike. -/
structure ControlLoop.AlikeAt (b : BsId) (l l' : ControlLoop α) : Prop where
  policy : l.policy b = l'.policy b
  effective : l.effective b = l'.effective b

/-- Two loops that start from the same policy of a base station have the same one as soon as both know
it or neither does. -/
theorem ControlLoop.AlikeAt.of_effective {b : BsId} {l l' : ControlLoop α}
    (h : l.effective b = l'.effective b) (hnone : l.policy b = none ↔ l'.policy b = none) :
    ControlLoop.AlikeAt b l l' := by
  refine ⟨?_, h⟩
  cases hp : l.policy b with
  | none => rw [hnone.mp hp]
  | some doc =>
    obtain ⟨doc', hp'⟩ := Option.ne_none_iff_exists'.mp (mt hnone.mpr (by rw [hp]; simp))
    have hdoc : (l.policy b).getD l.template = (l'.policy b).getD l'.template := h
    rw [hp, hp'] at hdoc
    rw [hp']
    exact congrArg some hdoc

/-! ## One enforcement -/

variable [Share α]

/-- What an enforcement does to a policy does not depend on the files, and on the controller only as far
as it answers pushes to the base station of the allocation. -/
theorem Enforcement.run_congr (timeout : Millis) (persistence : Option Persistence)
    (files files' : Files) (current : PolicyDocument α) (stats : CellStats) {a : CellAllocation α}
    {answer answer' : Push → Response Unit} (hanswer : ∀ p : Push, p.bsId = a.bsId →
      (answer p).delivery timeout = (answer' p).delivery timeout) :
    let e := run timeout persistence files current stats a answer
    let e' := run timeout persistence files' current stats a answer'
    e.outcome.withoutFile = e'.outcome.withoutFile ∧ e.exchange = e'.exchange ∧ e.policy = e'.policy := by
  intro e e'
  cases hc : candidate current stats a with
  | error o =>
    have he : e = ⟨o, current, files, none, 0, []⟩ := run_of_error hc ..
    have he' : e' = ⟨o, current, files', none, 0, []⟩ := run_of_error hc ..
    rw [he, he']
    exact ⟨rfl, rfl, rfl⟩
  | ok doc =>
    obtain ⟨hexchange, houtcome, hpolicy, -⟩ := run_of_ok hc timeout persistence files answer
    obtain ⟨hexchange', houtcome', hpolicy', -⟩ := run_of_ok hc timeout persistence files' answer'
    rw [← hanswer _ rfl] at hexchange' houtcome' hpolicy'
    refine ⟨?_, hexchange.trans hexchange'.symm, hpolicy.trans hpolicy'.symm⟩
    change (run timeout persistence files current stats a answer).outcome.withoutFile =
      (run timeout persistence files' current stats a answer').outcome.withoutFile
    rw [houtcome, houtcome']
    cases (answer ⟨stats.cell.enbId, a.bsId, doc.dump .yaml⟩).delivery timeout <;> rfl

namespace ControlLoop

variable {config : LoopConfig}

/-! ## One cell -/

/-- The step of a cell leaves all other base stations alone. -/
theorem effective_enforceCell_of_ne (answer : Push → Response Unit) (l : ControlLoop α) {c : CellStats}
    (planned : Except (ControlError α) (CellAllocation α)) {b : BsId} (h : c.cell.bsId ≠ b) :
    (enforceCell config answer l c planned).1.effective b = l.effective b := by
  cases planned with
  | error e => rfl
  | ok a => rw [effective_enforceCell_ok, if_neg (Ne.symm h)]

/-- The step of a cell in two loops that have the same policy for it. -/
theorem enforceCell_congr {answer answer' : Push → Response Unit} {l l' : ControlLoop α} {c : CellStats}
    {planned : Except (ControlError α) (CellAllocation α)}
    (hplanned : ∀ a, planned = .ok a → a.bsId = c.cell.bsId)
    (heffective : l.effective c.cell.bsId = l'.effective c.cell.bsId)
    (hanswer : ∀ p : Push, p.bsId = c.cell.bsId →
      (answer p).delivery config.timeout = (answer' p).delivery config.timeout) :
    let out := enforceCell config answer l c planned
    let out' := enforceCell config answer' l' c planned
    out.2.report.withoutFile = out'.2.report.withoutFile ∧ out.2.exchange = out'.2.exchange ∧
      out.1.effective c.cell.bsId = out'.1.effective c.cell.bsId := by
  intro out out'
  cases planned with
  | error e => exact ⟨rfl, rfl, heffective⟩
  | ok a =>
    obtain ⟨houtcome, hexchange, hpolicy⟩ := Enforcement.run_congr config.timeout config.persistence
      l.files l'.files (l.effective c.cell.bsId) c (hplanned a rfl ▸ hanswer)
    refine ⟨?_, ?_, ?_⟩
    · simp only [out, out', enforceCell, cellReport, CellReport.withoutFile, ← heffective, houtcome]
    · simp only [out, out', enforceCell, ← heffective, hexchange]
    · rw [effective_enforceCell_ok, effective_enforceCell_ok, if_pos rfl, if_pos rfl, ← heffective,
        hpolicy]

/-! ## One cycle -/

/-- Cells of other base stations leave the policy of a base station alone. -/
theorem effective_enforceCells (answer : Push → Response Unit) {b : BsId}
    {planned : List (CellStats × Except (ControlError α) (CellAllocation α))}
    (h : ∀ p ∈ planned, p.1.cell.bsId ≠ b) (l : ControlLoop α) :
    (enforceCells config answer l planned).1.effective b = l.effective b := by
  refine enforceCells_induct config answer (P := fun l' _ => l'.effective b = l.effective b) planned l []
    rfl ?_
  intro l' _ c a hc hl'
  rw [effective_enforceCell_of_ne answer l' a (h _ hc), hl']

/-- A cycle without a cell of a base station leaves its policy alone. -/
theorem effective_step_of_forall_ne {l : ControlLoop α} {t : Turn} {b : BsId}
    (h : ∀ c ∈ t.cells config.timeout, c.cell.bsId ≠ b) :
    (l.step config t).1.effective b = l.effective b := by
  rw [(step_eq config l t).1, enforced, effective_enforceCells, effective_ready]
  intro p hp
  obtain ⟨c, hc, rfl⟩ := List.mem_map.mp hp
  exact h c hc

/-- The step of the only cell of a base station in a cycle starts from the policy that the base station
has when the cycle starts, and leaves the one that it has when the cycle ends. -/
theorem exists_step_of_alone {l : ControlLoop α} {t : Turn} {c : CellStats}
    (hc : c ∈ t.cells config.timeout)
    (halone : ∀ c' ∈ t.cells config.timeout, c'.cell.bsId = c.cell.bsId → c'.cell.enbId = c.cell.enbId) :
    ∃ mid : ControlLoop α, mid.effective c.cell.bsId = l.effective c.cell.bsId ∧
      let out := enforceCell config t.push mid c
        ((l.ready config.timeout t).allocate (l.slicesIn t) c)
      (c, out.2) ∈ l.cellLog config t ∧
        (l.step config t).1.effective c.cell.bsId = out.1.effective c.cell.bsId := by
  obtain ⟨before, behind, hsplit⟩ := List.append_of_mem hc
  have hpairwise := t.pairwise_enbId_cells config.timeout
  rw [hsplit, List.pairwise_append, List.pairwise_cons] at hpairwise
  obtain ⟨-, ⟨hbehind, -⟩, hbefore⟩ := hpairwise
  let plan (c : CellStats) := (c, (l.ready config.timeout t).allocate (l.slicesIn t) c)
  -- a cell before or behind stands elsewhere, so it belongs to another base station
  have hbefore' : ∀ p ∈ before.map plan, p.1.cell.bsId ≠ c.cell.bsId := by
    intro p hp hbs
    obtain ⟨c', hc', rfl⟩ := List.mem_map.mp hp
    exact Nat.ne_of_lt (hbefore c' hc' c (List.mem_cons_self ..))
      (halone c' (by simp [hsplit, hc']) hbs)
  have hbehind' : ∀ p ∈ behind.map plan, p.1.cell.bsId ≠ c.cell.bsId := by
    intro p hp hbs
    obtain ⟨c', hc', rfl⟩ := List.mem_map.mp hp
    exact Nat.ne_of_gt (hbehind c' hc') (halone c' (by simp [hsplit, hc']) hbs)
  let mid := (enforceCells config t.push (l.ready config.timeout t) (before.map plan)).1
  have henforced : l.enforced config t = enforceCells config t.push (l.ready config.timeout t)
      (before.map plan ++ plan c :: behind.map plan) := by
    rw [enforced, planned, hsplit, List.map_append, List.map_cons]
  rw [enforceCells_append] at henforced
  refine ⟨mid, ?_, ?_, ?_⟩
  · rw [effective_enforceCells t.push hbefore', effective_ready]
  · rw [cellLog, hsplit, henforced, List.zip_append (by rw [length_enforceCells, List.length_map])]
    exact List.mem_append_right _ (List.mem_cons_self ..)
  · rw [(step_eq config l t).1, henforced]
    exact effective_enforceCells t.push hbehind' _

/-- The pushes to a base station that stands at one position only are those of that position. -/
theorem filter_exchanges_of_alone {l : ControlLoop α} {t : Turn} {i : Nat} {b : BsId}
    (halone : ∀ c ∈ t.cells config.timeout, c.cell.bsId = b ↔ c.cell.enbId = i) :
    (l.step config t).2.exchanges.filter (fun x => x.push.bsId = b) =
      (l.step config t).2.exchanges.filter (fun x => x.push.enbId = i) := by
  refine List.filter_congr fun x hx => ?_
  obtain ⟨e, he, henb, hbs⟩ := exists_of_mem_exchanges hx
  rw [henb, hbs, decide_eq_decide]
  exact halone _ (mem_cells_of_mem_cellLog he)

/-- Nothing is pushed to a base station without a cell. -/
theorem filter_exchanges_of_forall_ne {l : ControlLoop α} {t : Turn} {b : BsId}
    (h : ∀ c ∈ t.cells config.timeout, c.cell.bsId ≠ b) :
    (l.step config t).2.exchanges.filter (fun x => x.push.bsId = b) = [] := by
  rw [List.filter_eq_nil_iff]
  intro x hx hxb
  obtain ⟨e, he, -, hbs⟩ := exists_of_mem_exchanges hx
  exact h _ (mem_cells_of_mem_cellLog he) (hbs.symm.trans (of_decide_eq_true hxb))

/-- A base station without a cell does not become known. -/
theorem policy_step_eq_none_iff_of_forall_ne {l : ControlLoop α} {t : Turn} {b : BsId}
    (h : ∀ c ∈ t.cells config.timeout, c.cell.bsId ≠ b) :
    (l.step config t).1.policy b = none ↔ l.policy b = none := by
  rw [policy_step_eq_none_iff, and_iff_left]
  intro hmem
  obtain ⟨c, hc, hb⟩ := List.mem_map.mp hmem
  exact h c hc hb

/-! ## Two cycles -/

/-- Two cycles without a cell of a base station. -/
theorem sameAt_of_forall_ne {l l' : ControlLoop α} {t t' : Turn} {i : Nat} {b : BsId}
    (hl : AlikeAt b l l') (ht : ∀ c ∈ t.cells config.timeout, c.cell.bsId ≠ b)
    (ht' : ∀ c ∈ t'.cells config.timeout, c.cell.bsId ≠ b)
    (hcell : (l.step config t).2.cells[i]? = (l'.step config t').2.cells[i]?) :
    CycleResult.SameAt i b (l.step config t).2 (l'.step config t').2 ∧
      AlikeAt b (l.step config t).1 (l'.step config t').1 := by
  refine ⟨⟨by rw [hcell], ?_⟩, .of_effective ?_ ?_⟩
  · rw [filter_exchanges_of_forall_ne ht, filter_exchanges_of_forall_ne ht']
  · rw [effective_step_of_forall_ne ht, effective_step_of_forall_ne ht', hl.effective]
  · rw [policy_step_eq_none_iff_of_forall_ne ht, policy_step_eq_none_iff_of_forall_ne ht', hl.policy]

/-- Two cycles with the same cell at the only position of its base station. -/
theorem sameAt_of_mem {l l' : ControlLoop α} {t t' : Turn} {c : CellStats}
    (hl : AlikeAt c.cell.bsId l l') (hn : l.slicesIn t = l'.slicesIn t')
    (hanswer : ∀ p : Push, p.bsId = c.cell.bsId →
      (t.push p).delivery config.timeout = (t'.push p).delivery config.timeout)
    (hc : c ∈ t.cells config.timeout) (hc' : c ∈ t'.cells config.timeout)
    (halone : ∀ c' ∈ t.cells config.timeout,
      c'.cell.bsId = c.cell.bsId ↔ c'.cell.enbId = c.cell.enbId)
    (halone' : ∀ c' ∈ t'.cells config.timeout,
      c'.cell.bsId = c.cell.bsId ↔ c'.cell.enbId = c.cell.enbId) :
    CycleResult.SameAt c.cell.enbId c.cell.bsId (l.step config t).2 (l'.step config t').2 ∧
      AlikeAt c.cell.bsId (l.step config t).1 (l'.step config t').1 := by
  obtain ⟨mid, hmid, he, hstep⟩ := exists_step_of_alone (l := l) hc fun c' h => (halone c' h).mp
  obtain ⟨mid', hmid', he', hstep'⟩ := exists_step_of_alone (l := l') hc' fun c' h => (halone' c' h).mp
  -- the cell is allocated from the same policy for the same number of slices
  have hplanned : (l'.ready config.timeout t').allocate (l'.slicesIn t') c =
      (l.ready config.timeout t).allocate (l.slicesIn t) c := by
    rw [allocate, allocate, effective_ready, effective_ready, hl.effective, hn]
  rw [hplanned] at he' hstep'
  obtain ⟨hreport, hexchange, heffective⟩ := enforceCell_congr
    (fun a ha => bsId_of_allocate ha) (hmid.trans (hl.effective.trans hmid'.symm)) hanswer
  refine ⟨⟨?_, ?_⟩, .of_effective ?_ ?_⟩
  · rw [getElem?_cells_of_mem_cellLog he, getElem?_cells_of_mem_cellLog he']
    exact congrArg some hreport
  · rw [filter_exchanges_of_alone halone, filter_exchanges_of_alone halone',
      filter_exchanges_of_mem_cellLog he, filter_exchanges_of_mem_cellLog he']
    exact congrArg Option.toList hexchange
  · rw [hstep, hstep']
    exact heffective
  · rw [policy_step_eq_none_iff, policy_step_eq_none_iff]
    have hmem := List.mem_map_of_mem (f := fun c => c.cell.bsId) hc
    have hmem' := List.mem_map_of_mem (f := fun c => c.cell.bsId) hc'
    exact ⟨fun h => absurd hmem h.2, fun h => absurd hmem' h.2⟩

/-- The cells of a report that lists a base station at one position only. -/
theorem bsId_iff_of_aloneAt {t : Turn} {r : StatsReport} (hr : t.report? config.timeout = some r)
    {i : Nat} {b : BsId} (h : r.AloneAt i b) :
    ∀ c ∈ t.cells config.timeout, c.cell.bsId = b ↔ c.cell.enbId = i := by
  intro c hc
  obtain ⟨j, cfg, hcfg, hstats⟩ := (Turn.mem_cells hr).mp hc
  obtain ⟨henb, hbs, -⟩ := Snapshot.eq_of_cellStats hstats
  rw [henb, hbs]
  exact h (cfg, j) (List.mem_zipIdx_iff_getElem?.mpr hcfg)

/-- A report whose only position for a base station makes no sense brings no cell of it. -/
theorem forall_ne_of_aloneAt {t : Turn} {r : StatsReport} (hr : t.report? config.timeout = some r)
    {i : Nat} {b : BsId} (h : r.AloneAt i b)
    (hnone : ∀ cfg c, r.configs[i]? = some cfg → Snapshot.cellStats i cfg r.macs[i]? ≠ .ok c) :
    ∀ c ∈ t.cells config.timeout, c.cell.bsId ≠ b := by
  intro c hc hb
  obtain ⟨j, cfg, hcfg, hstats⟩ := (Turn.mem_cells hr).mp hc
  have hi := (bsId_iff_of_aloneAt hr h c hc).mp hb
  rw [(Snapshot.eq_of_cellStats hstats).1] at hi
  rw [hi] at hcfg hstats
  exact hnone cfg c hcfg hstats

/-- Two cycles whose reports say the same about a position. -/
theorem sameAt_of_reports {l l' : ControlLoop α} {t t' : Turn} {i : Nat} {b : BsId}
    (hl : AlikeAt b l l') (hn : l.slicesIn t = l'.slicesIn t')
    (hanswers : ∀ p : Push, p.bsId = b →
      (t.push p).delivery config.timeout = (t'.push p).delivery config.timeout)
    {r r' : StatsReport} (hr : t.report? config.timeout = some r)
    (hr' : t'.report? config.timeout = some r') (h : r.AgreeAt i b r') :
    CycleResult.SameAt i b (l.step config t).2 (l'.step config t').2 ∧
      AlikeAt b (l.step config t).1 (l'.step config t').1 := by
  obtain ⟨hconfig, hmac, halone, halone'⟩ := h
  -- at the position there is nothing, a cell that makes no sense, or one that does, in both reports
  cases hcfg : r.configs[i]? with
  | none =>
    rw [hcfg] at hconfig
    refine sameAt_of_forall_ne hl
      (forall_ne_of_aloneAt hr halone fun cfg c h => by rw [hcfg] at h; cases h)
      (forall_ne_of_aloneAt hr' halone' fun cfg c h => by rw [← hconfig] at h; cases h) ?_
    rw [getElem?_cells_of_none hr hcfg, getElem?_cells_of_none hr' hconfig.symm]
  | some cfg =>
    rw [hcfg] at hconfig
    cases hstats : Snapshot.cellStats i cfg r.macs[i]? with
    | error f =>
      have hstats' : Snapshot.cellStats i cfg r'.macs[i]? = .error f := hmac ▸ hstats
      refine sameAt_of_forall_ne hl ?_ ?_ ?_
      · refine forall_ne_of_aloneAt hr halone fun cfg' c h => ?_
        obtain rfl := Option.some.inj (hcfg.symm.trans h)
        rw [hstats]
        exact nofun
      · refine forall_ne_of_aloneAt hr' halone' fun cfg' c h => ?_
        obtain rfl := Option.some.inj (hconfig.trans h)
        rw [hstats']
        exact nofun
      · rw [getElem?_cells_of_error hr hcfg hstats, getElem?_cells_of_error hr' hconfig.symm hstats']
    | ok c =>
      have hc := (Turn.mem_cells hr).mpr ⟨i, cfg, hcfg, hstats⟩
      have hc' := (Turn.mem_cells hr').mpr ⟨i, cfg, hconfig.symm, hmac ▸ hstats⟩
      obtain rfl : c.cell.enbId = i := (Snapshot.eq_of_cellStats hstats).1
      obtain rfl : c.cell.bsId = b := (bsId_iff_of_aloneAt hr halone c hc).mpr rfl
      exact sameAt_of_mem hl hn hanswers hc hc' (bsId_iff_of_aloneAt hr halone)
        (bsId_iff_of_aloneAt hr' halone')

/-- **Two cycles that a base station sees alike.** They look the same at its position, and treat it alike
afterwards. -/
theorem sameAt_step {l l' : ControlLoop α} {t t' : Turn} {i : Nat} {b : BsId} (hl : AlikeAt b l l')
    (hn : l.slicesIn t = l'.slicesIn t') (ht : t.AgreeAt config.timeout i b t') :
    CycleResult.SameAt i b (l.step config t).2 (l'.step config t').2 ∧
      AlikeAt b (l.step config t).1 (l'.step config t').1 := by
  obtain ⟨hreports, hanswers⟩ := ht
  generalize hr : t.report? config.timeout = seen at hreports
  generalize hr' : t'.report? config.timeout = seen' at hreports
  cases hreports with
  | none =>
    refine sameAt_of_forall_ne hl ?_ ?_ ?_
    · simp [Turn.cells, hr]
    · simp [Turn.cells, hr']
    · rw [cells_step_of_none hr, cells_step_of_none hr']
  | some hagree => exact sameAt_of_reports hl hn hanswers hr hr' hagree

/-! ## Two runs -/

/-- **Cells are kept apart.** Two runs start from the same template. In every cycle so far both got a
report or neither did, the reports agreed at a position and listed its base station there only, the runs
counted as many slices, and the same became of every push to that base station. Then the two runs say the
same about the position in this cycle, have pushed the same to its base station, and have the same policy
in effect there, whatever else was reported, pushed and answered. -/
theorem sameAt_run (config : LoopConfig) (template : PolicyDocument α) (count count' : SliceCount)
    (files files' : Files) {i : Nat} {b : BsId} {turns turns' : Nat → Turn} {k : Nat}
    (hturns : ∀ j ≤ k, (turns j).AgreeAt config.timeout i b (turns' j))
    (hslices : ∀ j ≤ k, ((start template count files).reached config turns j).slicesIn (turns j) =
      ((start template count' files').reached config turns' j).slicesIn (turns' j)) :
    let l := (start template count files).reached config turns k
    let l' := (start template count' files').reached config turns' k
    CycleResult.SameAt i b (l.step config (turns k)).2 (l'.step config (turns' k)).2 ∧
      (l.step config (turns k)).1.policy b = (l'.step config (turns' k)).1.policy b := by
  intro l l'
  -- what one cycle does to the base station the next one starts from
  have halike : ∀ j ≤ k, AlikeAt b ((start template count files).reached config turns j)
      ((start template count' files').reached config turns' j) := by
    intro j
    induction j with
    | zero => exact fun _ => ⟨rfl, rfl⟩
    | succ j ih =>
      intro hj
      have hle : j ≤ k := Nat.le_of_succ_le hj
      rw [reached_succ, reached_succ]
      exact (sameAt_step (ih hle) (hslices j hle) (hturns j hle)).2
  obtain ⟨hsame, hafter⟩ := sameAt_step (halike k (Nat.le_refl k)) (hslices k (Nat.le_refl k))
    (hturns k (Nat.le_refl k))
  exact ⟨hsame, hafter.policy⟩

/-- Two runs that keep their policies. In one the first cell is refused, in the other it belongs to another
base station and is applied, and takes the file name that both cells have. The second cell is none the
wiser. -/
theorem sameAt_run_two_cycles :
    let config : LoopConfig := ⟨1000, 0, 5000, none, some ⟨"policies", "policy", .yaml⟩⟩
    let template : PolicyDocument Rat := .default
    let turns : Nat → Turn := fun _ => { Turn.smooth [(2, 7), (1, 7)] 1 with
      push := fun p => if p.bsId = 2 then ⟨0, .error .transport, []⟩ else ⟨0, .ok (), []⟩ }
    let turns' : Nat → Turn := fun _ => Turn.smooth [(3, 7), (1, 7)] 1
    let l := (start template ⟨1, by decide⟩ .empty).reached config turns 1
    let l' := (start template ⟨1, by decide⟩ .empty).reached config turns' 1
    (∀ j ≤ 1, (turns j).AgreeAt config.timeout 1 1 (turns' j)) ∧
      CycleResult.SameAt 1 1 (l.step config (turns 1)).2 (l'.step config (turns' 1)).2 ∧
      (l.step config (turns 1)).1.policy 1 = (l'.step config (turns' 1)).1.policy 1 := by
  intro config template turns turns' l l'
  have hturns : ∀ j ≤ 1, (turns j).AgreeAt config.timeout 1 1 (turns' j) := by
    intro j _
    refine ⟨.some ⟨rfl, rfl, ?_, ?_⟩, ?_⟩
    · decide
    · decide
    · intro p hp
      simp [turns, turns', Turn.smooth, hp]
  exact ⟨hturns, sameAt_run config template _ _ _ _ hturns (by decide +kernel)⟩

end ControlLoop

end RanSlicing
