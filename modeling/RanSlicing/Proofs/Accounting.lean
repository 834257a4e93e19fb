import RanSlicing.Proofs.CycleReport
import RanSlicing.Proofs.EffectivePolicy
import RanSlicing.Proofs.SliceShares

/-!
# The accounting of a cycle

A cycle that gets a report accounts for every position of it: with one entry, and with one push or none.
Which of the two it is depends only on what the report says there and on the policy of the base station
when the cycle starts. `ControlLoop.Fate` lists what can become of a cell that makes sense,
`ControlLoop.Accounted` what the entry at a position says and when, and `ControlLoop.accounted_step` is
the account of a whole cycle.

The cells of a cycle are enforced one after the other, and those before a cell may have written to its
policy. That matters little here because no write takes a scheduler away
(`ControlLoop.scheduler?_enforceCell`). That the shares of a cell are never refused is where rational
numbers are needed.
-/

namespace RanSlicing

namespace Enforcement

variable {α : Type} [Share α] {current doc : PolicyDocument α} {stats : CellStats}
  {a : CellAllocation α}

theorem candidate_of_noUsers (h : stats.users = []) :
    candidate current stats a = .error (.skipped .noUsers) := by
  rw [candidate, h]
  rfl

theorem candidate_of_noSlices (hu : stats.users ≠ []) (h : a.slices = []) :
    candidate current stats a = .error (.skipped .noSlices) := by
  rw [candidate, if_neg (by simpa using hu), h]
  rfl

end Enforcement

/-- The users that a report lists at a position. -/
def StatsReport.usersAt (r : StatsReport) (i : Nat) : List UserReport :=
  (r.macs[i]?.map EnbMac.users).getD []

namespace ControlLoop

variable {config : LoopConfig} {l : ControlLoop ℚ} {t : Turn}

/-! ## What becomes of a cell -/

/-- What becomes of a cell that makes sense, if its base station starts the cycle with the policy `doc`
and `n` slices are to be allocated. -/
inductive Fate (timeout : Millis) (answer : Push → Response Unit) (n : SliceCount)
    (doc : PolicyDocument ℚ) (c : CellStats) (run : CellRun ℚ) : Prop
  /-- the policy lacks a scheduler, so no allocation is made -/
  | unscheduled (d : Direction) (missing : doc.scheduler? d = none)
    (outcome : run.report.outcome = .failed (.policy (.missingScheduler d)))
    (silent : run.exchange = none)
  /-- nobody is attached -/
  | noUsers (scheduled : ∀ d, doc.scheduler? d ≠ none) (users : c.users = [])
    (outcome : run.report.outcome = .skipped .noUsers) (silent : run.exchange = none)
  /-- slicing is switched off -/
  | noSlices (scheduled : ∀ d, doc.scheduler? d ≠ none) (users : c.users ≠ []) (slices : n.val = 0)
    (outcome : run.report.outcome = .skipped .noSlices) (silent : run.exchange = none)
  /-- a policy was pushed -/
  | pushed (scheduled : ∀ d, doc.scheduler? d ≠ none) (users : c.users ≠ []) (slices : n.val ≠ 0)
    (push : Push) (exchange : run.exchange = some ⟨push, (answer push).delivery timeout⟩)
    (applied : (∃ kept, run.report.outcome = .applied kept) ↔ (answer push).delivery timeout = .accepted)
    (failed : (∃ e, run.report.outcome = .failed e) ↔ (answer push).delivery timeout ≠ .accepted)

/-- The step of a cell with an allocation that can be written leads to one of these fates. -/
theorem fate_of_allocation (config : LoopConfig) (answer : Push → Response Unit) {n : SliceCount}
    {doc : PolicyDocument ℚ} {l : ControlLoop ℚ} {c : CellStats} {a : CellAllocation ℚ}
    (hscheduled : ∀ d, doc.scheduler? d ≠ none)
    (hcurrent : ∀ d, (l.effective c.cell.bsId).scheduler? d ≠ none) (hslices : a.slices = [] ↔ n.val = 0)
    (hvalid : ∀ x ∈ a.slices, ∀ d, Share.Valid (x.share.get d)) :
    Fate config.timeout answer n doc c (enforceCell config answer l c (.ok a)).2 := by
  have hidle : ∀ {o}, Enforcement.candidate (l.effective c.cell.bsId) c a = .error o →
      (enforceCell config answer l c (.ok a)).2.report.outcome = o ∧
        (enforceCell config answer l c (.ok a)).2.exchange = none := by
    intro o ho
    simp only [enforceCell, Enforcement.run_of_error ho]
    exact ⟨rfl, trivial⟩
  by_cases husers : c.users = []
  · obtain ⟨houtcome, hsilent⟩ := hidle (Enforcement.candidate_of_noUsers husers)
    exact .noUsers hscheduled husers houtcome hsilent
  by_cases hn : n.val = 0
  · obtain ⟨houtcome, hsilent⟩ := hidle (Enforcement.candidate_of_noSlices husers (hslices.mpr hn))
    exact .noSlices hscheduled husers hn houtcome hsilent
  obtain ⟨hexchange, houtcome, -, -⟩ := Enforcement.run_of_ok
    (Enforcement.candidate_eq_ok_iff.mpr ⟨husers, mt hslices.mp hn,
      PolicyDocument.applyAllocation_of_valid hcurrent hvalid⟩)
    config.timeout config.persistence l.files answer
  have hreport : (enforceCell config answer l c (.ok a)).2.report.outcome = _ := houtcome
  generalize hdelivery : Response.delivery _ _ = delivery at hreport
  refine .pushed hscheduled husers hn _ hexchange ?_ ?_
  · rw [hreport, hdelivery]
    cases delivery <;> simp
  · rw [hreport, hdelivery]
    cases delivery <;> simp

/-- The step of a cell leads to one of these fates, whatever was written to its policy since the cell was
planned. -/
theorem fate_enforceCell (config : LoopConfig) (answer : Push → Response Unit) (n : SliceCount)
    (l l' : ControlLoop ℚ) (c : CellStats)
    (hstay : ∀ d, (l'.effective c.cell.bsId).scheduler? d = none ↔
      (l.effective c.cell.bsId).scheduler? d = none) :
    Fate config.timeout answer n (l.effective c.cell.bsId) c
      (enforceCell config answer l' c (l.allocate n c)).2 := by
  rcases (l.effective c.cell.bsId).mcsCaps_cases with ⟨d, hd, hcaps⟩ | ⟨p, hp, hcaps⟩
  · rw [allocate, hcaps]
    exact .unscheduled d hd rfl rfl
  have hscheduled : ∀ d, (l.effective c.cell.bsId).scheduler? d ≠ none := by
    intro d
    rw [hp d]
    exact Option.some_ne_none _
  rw [allocate, hcaps]
  refine fate_of_allocation config answer hscheduled (fun d => mt (hstay d).mp (hscheduled d)) ?_ ?_
  · rw [← List.length_eq_zero_iff, ← List.length_map (f := SliceAllocation.slice),
      Allocation.map_slice_cell, SliceCount.length_slices]
  · exact fun x hx d => Allocation.valid_of_mem_slices hx d

/-- Every cell of a cycle meets one of these fates, by the policy that its base station starts with. -/
theorem fate_of_mem_cellLog {e : CellStats × CellRun ℚ} (he : e ∈ l.cellLog config t) :
    Fate config.timeout t.push (l.slicesIn t) (l.effective e.1.cell.bsId) e.1 e.2 := by
  -- schedulers stay, so what the start of the cycle says about them holds for every cell of it
  refine (enforced_induct (P := fun l' done =>
    (∀ b d, (l'.effective b).scheduler? d = none ↔ (l.effective b).scheduler? d = none) ∧
      ∀ e ∈ done, Fate config.timeout t.push (l.slicesIn t) (l.effective e.1.cell.bsId) e.1 e.2)
    ?_ ?_).2 e he
  · exact ⟨fun b d => by rw [effective_ready], fun _ h => absurd h List.not_mem_nil⟩
  · rintro l' done c - ⟨hstay, hdone⟩
    refine ⟨fun b d => (scheduler?_enforceCell ..).trans (hstay b d),
      List.forall_mem_append.mpr ⟨hdone, List.forall_mem_singleton.mpr ?_⟩⟩
    have hfate := fate_enforceCell config t.push (l.slicesIn t) (l.ready config.timeout t) l' c
      (fun d => by rw [hstay, effective_ready])
    rw [effective_ready] at hfate
    exact hfate

/-! ## The account of a cycle -/

/-- No allocation can be made at a position: the stats make no sense, or the policy of the base station
lacks a scheduler. -/
def Unplanned (l : ControlLoop ℚ) (r : StatsReport) (i : Nat) (c : EnbConfig) : Prop :=
  (∃ f, Snapshot.cellStats i c r.macs[i]? = .error f) ∨
    ∃ d, (l.effective c.bsId).scheduler? d = none

instance (l : ControlLoop ℚ) (r : StatsReport) (i : Nat) (c : EnbConfig) :
    Decidable (l.Unplanned r i c) :=
  decidable_of_iff ((Snapshot.cellStats i c r.macs[i]?).isOk = false ∨
      (l.effective c.bsId).scheduler? .dl = none ∨ (l.effective c.bsId).scheduler? .ul = none) <| by
    refine or_congr ?_ ⟨fun h => h.elim (⟨_, ·⟩) (⟨_, ·⟩), ?_⟩
    · cases Snapshot.cellStats i c r.macs[i]? <;> simp [Except.isOk, Except.toBool]
    · rintro ⟨_ | _, h⟩
      · exact .inl h
      · exact .inr h

/-- What a cycle says about a position and what it pushes there, as it has to be by what the report `r`
configures there and the policy at the start of the cycle. -/
structure Accounted (config : LoopConfig) (l : ControlLoop ℚ) (t : Turn) (r : StatsReport) (i : Nat)
    (c : EnbConfig) (x : CellReport ℚ) (pushes : List Exchange) : Prop where
  enbId : x.enbId = i
  bsId : x.bsId = c.bsId
  failed : (∃ e, x.outcome = .failed e) ∧ pushes = [] ↔ l.Unplanned r i c
  noUsers : x.outcome = .skipped .noUsers ↔ ¬ l.Unplanned r i c ∧ r.usersAt i = []
  noSlices : x.outcome = .skipped .noSlices ↔
    ¬ l.Unplanned r i c ∧ r.usersAt i ≠ [] ∧ (l.slicesIn t).val = 0
  silent : (∃ reason, x.outcome = .skipped reason) → pushes = []
  pushed : ¬ l.Unplanned r i c → r.usersAt i ≠ [] → (l.slicesIn t).val ≠ 0 →
    ∃ push : Push, push.enbId = i ∧ push.bsId = c.bsId ∧
      pushes = [⟨push, (t.push push).delivery config.timeout⟩] ∧
      ((∃ kept, x.outcome = .applied kept) ↔
        (t.push push).delay ≤ config.timeout ∧ (t.push push).result = .ok ()) ∧
      ((∃ e, x.outcome = .failed e) ↔
        ¬ ((t.push push).delay ≤ config.timeout ∧ (t.push push).result = .ok ()))

/-- A position whose stats make no sense is accounted for. -/
theorem accounted_of_error {r : StatsReport} {i : Nat} {c : EnbConfig} {f : StatsFault}
    (hf : Snapshot.cellStats i c r.macs[i]? = .error f) :
    l.Accounted config t r i c (rejectedReport ⟨i, c.bsId, f⟩) [] := by
  have hunplanned : l.Unplanned r i c := .inl ⟨f, hf⟩
  refine ⟨rfl, rfl, ?_, ?_, ?_, fun _ => rfl, fun h => absurd hunplanned h⟩
  · exact ⟨fun _ => hunplanned, fun _ => ⟨⟨_, rfl⟩, rfl⟩⟩
  · simp [rejectedReport, hunplanned]
  · simp [rejectedReport, hunplanned]

/-- A cell that met one of the fates is accounted for. -/
theorem accounted_of_fate {r : StatsReport} {i : Nat} {c : EnbConfig} {stats : CellStats}
    (hstats : Snapshot.cellStats i c r.macs[i]? = .ok stats) {run : CellRun ℚ}
    (hreport : run.report.enbId = i ∧ run.report.bsId = c.bsId)
    (hpush : ∀ x ∈ run.exchange, x.push.enbId = i ∧ x.push.bsId = c.bsId)
    (h : Fate config.timeout t.push (l.slicesIn t) (l.effective c.bsId) stats run) :
    l.Accounted config t r i c run.report run.exchange.toList := by
  have husers : r.usersAt i = [] ↔ stats.users = [] := by
    rw [StatsReport.usersAt, ← List.length_eq_zero_iff, ← Snapshot.length_users_of_cellStats hstats,
      List.length_eq_zero_iff]
  have hunplanned : l.Unplanned r i c ↔ ∃ d, (l.effective c.bsId).scheduler? d = none := by
    rw [Unplanned, hstats]
    simp
  cases h with
  | unscheduled d missing outcome silent =>
    have hu : l.Unplanned r i c := hunplanned.mpr ⟨d, missing⟩
    refine ⟨hreport.1, hreport.2, ?_, ?_, ?_, fun _ => by rw [silent]; rfl, fun h => absurd hu h⟩
    · exact ⟨fun _ => hu, fun _ => ⟨⟨_, outcome⟩, by rw [silent]; rfl⟩⟩
    · simp [outcome, hu]
    · simp [outcome, hu]
  | noUsers scheduled users outcome silent =>
    have hu : ¬ l.Unplanned r i c := fun h => (hunplanned.mp h).elim scheduled
    refine ⟨hreport.1, hreport.2, ?_, ?_, ?_, fun _ => by rw [silent]; rfl, ?_⟩
    · simp [outcome, hu]
    · simp [outcome, hu, husers, users]
    · simp [outcome, husers, users]
    · exact fun _ hne => absurd (husers.mpr users) hne
  | noSlices scheduled users slices outcome silent =>
    have hu : ¬ l.Unplanned r i c := fun h => (hunplanned.mp h).elim scheduled
    refine ⟨hreport.1, hreport.2, ?_, ?_, ?_, fun _ => by rw [silent]; rfl, ?_⟩
    · simp [outcome, hu]
    · simp [outcome, husers, users]
    · simp [outcome, hu, husers, users, slices]
    · exact fun _ _ hne => absurd slices hne
  | pushed scheduled users slices push exchange applied failed =>
    have hu : ¬ l.Unplanned r i c := fun h => (hunplanned.mp h).elim scheduled
    -- it was applied or it has failed, so it was not skipped
    have hskipped : ∀ reason, run.report.outcome ≠ .skipped reason := by
      intro reason hskip
      rw [hskip] at applied failed
      by_cases hd : (t.push push).delivery config.timeout = .accepted
      · obtain ⟨kept, h⟩ := applied.mpr hd
        cases h
      · obtain ⟨e, h⟩ := failed.mpr hd
        cases h
    rw [Response.delivery_eq_accepted_iff] at applied
    rw [Ne, Response.delivery_eq_accepted_iff] at failed
    refine ⟨hreport.1, hreport.2, ?_, ?_, ?_, ?_, ?_⟩
    · simp [exchange, hu]
    · simp [hskipped, husers, users]
    · simp [hskipped, slices]
    · exact fun ⟨reason, h⟩ => absurd h (hskipped reason)
    · obtain ⟨henb, hbs⟩ := hpush _ exchange
      exact fun _ _ _ => ⟨push, henb, hbs, by rw [exchange]; rfl, applied, failed⟩

/-- Every position of a report is accounted for. -/
theorem exists_accounted {r : StatsReport} (hr : t.report? config.timeout = some r) {i : Nat}
    {c : EnbConfig} (hc : r.configs[i]? = some c) :
    ∃ x, (l.step config t).2.cells[i]? = some x ∧ l.Accounted config t r i c x
      ((l.step config t).2.exchanges.filter fun e => e.push.enbId = i) := by
  cases hstats : Snapshot.cellStats i c r.macs[i]? with
  | error f =>
    rw [filter_exchanges_of_error hr hc hstats]
    exact ⟨_, getElem?_cells_of_error hr hc hstats, accounted_of_error hstats⟩
  | ok stats =>
    obtain ⟨run, he⟩ := exists_mem_cellLog (l := l) hr hc hstats
    obtain ⟨henb, hbs, -⟩ := Snapshot.eq_of_cellStats hstats
    have hx := getElem?_cells_of_mem_cellLog he
    have hpushes := filter_exchanges_of_mem_cellLog he
    have hids : run.report.enbId = stats.cell.enbId ∧ run.report.bsId = stats.cell.bsId := by
      rw [report_of_mem_cellLog he]
      exact ⟨rfl, rfl⟩
    have hnamed := push_of_mem_cellLog he
    have hfate := fate_of_mem_cellLog he
    rw [henb] at hx hpushes
    rw [henb, hbs] at hids hnamed
    rw [hbs] at hfate
    rw [hpushes]
    exact ⟨run.report, hx, accounted_of_fate hstats hids hnamed hfate⟩

/-- **The account of a cycle.** A cycle that gets a report has one entry for each position of it, in
order. An entry fails without a push exactly if no allocation can be made there; of the others it is
skipped exactly if it has no users, or there are users but no slices, and in all remaining cases one
policy is pushed to its own base station, which is applied exactly if the controller accepts the push in
time. Nothing else is pushed, and the pushes go out in the order of the positions. -/
theorem accounted_step (config : LoopConfig) (l : ControlLoop ℚ) {t : Turn} {r : StatsReport}
    (hr : t.report? config.timeout = some r) :
    let result := (l.step config t).2
    ∃ report, result.report = .ok report ∧ report.numSlices = l.slicesIn t ∧
      report.cells.length = r.configs.length ∧
      (∀ i c, r.configs[i]? = some c → ∃ x, report.cells[i]? = some x ∧
        l.Accounted config t r i c x (result.exchanges.filter fun e => e.push.enbId = i)) ∧
      result.exchanges.Pairwise (fun e e' => e.push.enbId < e'.push.enbId) ∧
      ∀ e ∈ result.exchanges, e.push.enbId < r.configs.length := by
  intro result
  have hreport := report_step (l := l) hr
  have hcells : (l.step config t).2.cells =
      merge (l.enforced config t).2 (Snapshot.ofReport r).rejected := by
    rw [CycleResult.cells, hreport]
  refine ⟨_, hreport, rfl, ?_, ?_, pairwise_exchanges_step config l t, ?_⟩
  · dsimp only
    rw [← hcells, length_cells_step hr]
  · intro i c hc
    dsimp only
    rw [← hcells]
    exact exists_accounted hr hc
  · exact fun x hx => enbId_lt_of_mem_exchanges hr hx

/-- A cycle in which one cell makes no sense, one has no users, one is accepted and one is answered too
late has four entries, and pushes for the last two. -/
theorem accounted_step_mixed :
    let config : LoopConfig := ⟨1000, 0, 5000, none, none⟩
    let l := start (PolicyDocument.default (α := ℚ)) ⟨1, by decide⟩ .empty
    let result := (l.step config .mixed).2
    Turn.mixed.report? config.timeout = some .mixed ∧ ∃ report, result.report = .ok report ∧
      report.cells.length = 4 ∧
      (∃ x e, report.cells[0]? = some x ∧ x.outcome = .failed e) ∧
      (∃ x, report.cells[1]? = some x ∧ x.outcome = .skipped .noUsers) ∧
      (∃ x kept, report.cells[2]? = some x ∧ x.outcome = .applied kept) ∧
      (∃ x e, report.cells[3]? = some x ∧ x.outcome = .failed e) ∧
      result.exchanges.Pairwise (fun e e' => e.push.enbId < e'.push.enbId) := by
  intro config l result
  obtain ⟨report, hreport, -, hlength, hcells, hpairwise, -⟩ :=
    accounted_step config l (t := .mixed) (r := .mixed) rfl
  obtain ⟨w, hw, haccount⟩ := hcells 0 _ rfl
  obtain ⟨⟨e, hfailed⟩, -⟩ := haccount.failed.mpr (by decide +kernel)
  obtain ⟨x, hx, haccount⟩ := hcells 1 _ rfl
  have hskipped := haccount.noUsers.mpr ⟨by decide +kernel, rfl⟩
  obtain ⟨y, hy, haccount⟩ := hcells 2 _ rfl
  obtain ⟨push, -, hbs, -, happlied, -⟩ :=
    haccount.pushed (by decide +kernel) (by decide) (by decide)
  obtain ⟨kept, happlied⟩ := happlied.mpr (by simp [Turn.mixed, hbs])
  obtain ⟨z, hz, haccount⟩ := hcells 3 _ rfl
  obtain ⟨push, -, hbs, -, -, hlate⟩ :=
    haccount.pushed (by decide +kernel) (by decide) (by decide)
  obtain ⟨e', hlate⟩ := hlate.mpr (by simp [Turn.mixed, hbs, config])
  exact ⟨rfl, report, hreport, hlength, ⟨w, e, hw, hfailed⟩, ⟨x, hx, hskipped⟩,
    ⟨y, kept, hy, happlied⟩, ⟨z, e', hz, hlate⟩, hpairwise⟩

end ControlLoop

end RanSlicing
