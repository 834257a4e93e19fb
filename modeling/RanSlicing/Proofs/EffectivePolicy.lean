import RanSlicing.Proofs.History
import RanSlicing.Proofs.PolicyWrites

/-!
# The policy in effect

Which policy a base station has at any time of a run: none until a cell of it was reported, then the
template, and from the first push that the controller accepted on the document of the last such push.
Pushes that were refused or came too late, cells that were skipped or left out and cycles without a
report leave no trace.

Whether a push counts is read off the answer that its turn has for it and the time granted
(`Response.Accepts`), not off what the loop makes of that answer.

The invariant is `Push.Leaves`: it ties the policy of each base station to the pushes of the run so far that
were accepted (`ControlLoop.acceptedPushes`). It is kept by the step of every cell
(`ControlLoop.leaves_enforceCell`), so several cells of one base station in one report are no special case.
Whatever the policy is, it has schedulers in the directions in which the template has them
(`ControlLoop.scheduler?_after`).
-/

namespace RanSlicing

variable {α : Type}

/-! ## Base stations that turns bring -/

/-- Whether a turn brings a cell of a base station that makes sense: its fetch is answered in time, with a
report that has the base station at a position where the stats are accepted. -/
def Turn.Brings (timeout : Millis) (t : Turn) (b : BsId) : Prop :=
  t.fetch.delay ≤ timeout ∧ ∃ r, t.fetch.result = .ok r ∧
    ∃ (i : Nat) (config : EnbConfig) (stats : CellStats), r.configs[i]? = some config ∧ config.bsId = b ∧
      Snapshot.cellStats i config r.macs[i]? = .ok stats

theorem Turn.brings_iff {timeout : Millis} {t : Turn} {b : BsId} :
    t.Brings timeout b ↔ b ∈ (t.cells timeout).map (fun c => c.cell.bsId) := by
  rw [List.mem_map]
  constructor
  · rintro ⟨hdelay, r, hresult, i, config, stats, hconfig, rfl, hstats⟩
    refine ⟨stats, ?_, (Snapshot.eq_of_cellStats hstats).2.1⟩
    exact (mem_cells (report?_eq_some_iff.mpr ⟨hdelay, hresult⟩)).mpr ⟨i, config, hconfig, hstats⟩
  · rintro ⟨stats, hstats, rfl⟩
    cases hr : t.report? timeout with
    | none => simp [cells, hr] at hstats
    | some r =>
      obtain ⟨hdelay, hresult⟩ := report?_eq_some_iff.mp hr
      obtain ⟨i, config, hconfig, hstats⟩ := (mem_cells hr).mp hstats
      exact ⟨hdelay, r, hresult, i, config, stats, hconfig, (Snapshot.eq_of_cellStats hstats).2.1.symm, hstats⟩

/-! ## The last word on a base station -/

/-- The pushes to a base station that are accepted if the controller answers like this, in order. -/
def Exchange.acceptedAt (timeout : Millis) (answer : Push → Response Unit) (b : BsId)
    (xs : List Exchange) : List Push :=
  (xs.map Exchange.push).filter fun p => p.bsId = b ∧ (answer p).Accepts timeout

namespace Exchange

variable {timeout : Millis} {answer : Push → Response Unit} {b : BsId}

theorem acceptedAt_append (xs ys : List Exchange) :
    acceptedAt timeout answer b (xs ++ ys) =
      acceptedAt timeout answer b xs ++ acceptedAt timeout answer b ys := by
  rw [acceptedAt, List.map_append, List.filter_append]
  rfl

/-- Pushes that are not accepted do not count. -/
theorem acceptedAt_of_not {xs : List Exchange} (h : ∀ x ∈ xs, ¬ (answer x.push).Accepts timeout) :
    acceptedAt timeout answer b xs = [] := by
  refine List.filter_eq_nil_iff.mpr (List.forall_mem_map.mpr fun x hx => ?_)
  rw [decide_eq_true_eq]
  exact fun hp => h x hx hp.2

/-- A push that is accepted counts at its own base station. -/
theorem acceptedAt_singleton {x : Exchange} (h : (answer x.push).Accepts timeout) :
    acceptedAt timeout answer b [x] = if b = x.push.bsId then [x.push] else [] := by
  by_cases hb : b = x.push.bsId
  · simp [acceptedAt, h, hb]
  · simp [acceptedAt, hb, Ne.symm hb]

end Exchange

/-- What accepted pushes leave in effect at a base station: the document whose text was the body of the
last of them, or the template if there are none. -/
def Push.Leaves [Share α] (template : PolicyDocument α) (accepted : List Push) (doc : PolicyDocument α) :
    Prop :=
  match accepted.getLast? with
  | some p => doc.dump .yaml = p.body
  | none => doc = template

namespace ControlLoop

open Exchange (acceptedAt)
open Push (Leaves)

variable [Share α] {config : LoopConfig}

/-! ## One cell -/

/-- What the step of a cell means for one base station: nothing, or one push to it was accepted and the
document that was pushed is in effect there. -/
theorem enforceCell_cases_at (answer : Push → Response Unit) (l : ControlLoop α) {c : CellStats}
    {planned : Except (ControlError α) (CellAllocation α)}
    (hplanned : ∀ a, planned = .ok a → a.bsId = c.cell.bsId) (b : BsId) :
    let out := enforceCell config answer l c planned
    let accepted := acceptedAt config.timeout answer b out.2.exchange.toList
    (accepted = [] ∧ out.1.effective b = l.effective b) ∨
      ∃ a doc p, planned = .ok a ∧ (l.effective b).applyAllocation a = .ok doc ∧
        out.1.effective b = doc ∧ accepted = [p] ∧ p.body = doc.dump .yaml := by
  intro out accepted
  rcases enforceCell_cases config answer l c planned with hidle | ⟨a, doc, ha, heff⟩
  · refine .inl ⟨Exchange.acceptedAt_of_not fun x hx => ?_, hidle.effective b⟩
    exact hidle.notAccepted x (Option.mem_toList.mp hx)
  have haccepted : accepted = if b = c.cell.bsId then [⟨c.cell.enbId, a.bsId, doc.dump .yaml⟩] else [] := by
    change acceptedAt config.timeout answer b out.2.exchange.toList = _
    rw [heff.exchange, Option.toList_some, Exchange.acceptedAt_singleton (heff.accepted _ heff.exchange),
      hplanned a ha]
  by_cases hb : b = c.cell.bsId
  · refine .inr ⟨a, doc, _, ha, ?_, (heff.effective b).trans (if_pos hb), haccepted.trans (if_pos hb), rfl⟩
    rw [hb]
    exact heff.written
  · exact .inl ⟨haccepted.trans (if_neg hb), (heff.effective b).trans (if_neg hb)⟩

/-- The step of a cell keeps what accepted pushes leave in effect at every base station. -/
theorem leaves_enforceCell (answer : Push → Response Unit) {l : ControlLoop α} {c : CellStats}
    {planned : Except (ControlError α) (CellAllocation α)} {template : PolicyDocument α}
    {accepted : BsId → List Push} (hplanned : ∀ a, planned = .ok a → a.bsId = c.cell.bsId)
    (h : ∀ b, Leaves template (accepted b) (l.effective b)) (b : BsId) :
    Leaves template
      (accepted b ++
        acceptedAt config.timeout answer b (enforceCell config answer l c planned).2.exchange.toList)
      ((enforceCell config answer l c planned).1.effective b) := by
  rcases enforceCell_cases_at answer l hplanned b with
    ⟨hnone, hsame⟩ | ⟨a, doc, p, -, -, hdoc, hone, hbody⟩
  · rw [hnone, List.append_nil, hsame]
    exact h b
  · rw [hone, hdoc, Leaves, List.getLast?_concat]
    exact hbody.symm

/-! ## One cycle -/

/-- A cycle keeps what accepted pushes leave in effect at every base station. -/
theorem leaves_step {l : ControlLoop α} {template : PolicyDocument α} {accepted : BsId → List Push}
    (h : ∀ b, Leaves template (accepted b) (l.effective b)) (t : Turn) (b : BsId) :
    Leaves template
      (accepted b ++ acceptedAt config.timeout t.push b (l.step config t).2.exchanges)
      ((l.step config t).1.effective b) := by
  rw [exchanges_step]
  revert b
  refine enforced_induct (P := fun l' done => ∀ b, Leaves template
    (accepted b ++ acceptedAt config.timeout t.push b (done.flatMap fun e => e.2.exchange.toList))
    (l'.effective b)) (fun b => ?_) ?_
  · rw [effective_ready, List.flatMap_nil]
    exact (List.append_nil (accepted b)).symm ▸ h b
  · intro l' done c _ hP b
    rw [List.flatMap_append, List.flatMap_singleton, Exchange.acceptedAt_append, ← List.append_assoc]
    exact leaves_enforceCell t.push (fun a ha => bsId_of_allocate ha) hP b

/-- After a cycle exactly the base stations known before and those of its cells are known. -/
theorem policy_step_eq_none_iff (l : ControlLoop α) (t : Turn) (b : BsId) :
    (l.step config t).1.policy b = none ↔
      l.policy b = none ∧ b ∉ (t.cells config.timeout).map (fun c => c.cell.bsId) := by
  rw [← policy_ready_eq_none_iff]
  -- all cells are met before the first is enforced, so none of them adds a base station
  refine (enforced_induct (P := fun l' _ => ∀ b,
    l'.policy b = none ↔ (l.ready config.timeout t).policy b = none) (fun _ => Iff.rfl) ?_) b
  intro l' done c hc hP b
  have hknown : l'.policy c.cell.bsId ≠ none := by
    rw [Ne, hP, policy_ready_eq_none_iff, not_and_not_right]
    exact fun _ => List.mem_map_of_mem hc
  rw [policy_enforceCell_eq_none_iff hknown]
  exact hP b

/-! ## A run -/

/-- The pushes of a history to a base station that the controller accepted, in order. -/
def acceptedPushes (timeout : Millis) (b : BsId) (history : List (Turn × CycleResult α)) : List Push :=
  history.flatMap fun e => acceptedAt timeout e.1.push b e.2.exchanges

/-- What accepted pushes leave in effect, over a whole run. -/
theorem leaves_after (config : LoopConfig) (template : PolicyDocument α) (count : SliceCount)
    (files : Files) (turns : List Turn) (b : BsId) :
    Leaves template (acceptedPushes config.timeout b ((start template count files).history config turns))
      (((start template count files).after config turns).effective b) := by
  revert b
  refine history_induct (P := fun l done => ∀ b,
    Leaves template (acceptedPushes config.timeout b done) (l.effective b))
    (fun l done t h b => ?_) turns _ [] (fun _ => rfl)
  rw [acceptedPushes, List.flatMap_append, List.flatMap_singleton]
  exact leaves_step h t b

/-- Exactly the base stations of which a turn brought a cell have a policy. -/
theorem policy_after_eq_none_iff (config : LoopConfig) (l : ControlLoop α) (turns : List Turn)
    (b : BsId) :
    (l.after config turns).policy b = none ↔
      l.policy b = none ∧ ∀ t ∈ turns, ¬ t.Brings config.timeout b := by
  induction turns generalizing l with
  | nil => exact (and_iff_left fun _ h => absurd h List.not_mem_nil).symm
  | cons t rest ih =>
    rw [after, ih, policy_step_eq_none_iff, List.forall_mem_cons, Turn.brings_iff, and_assoc]

/-- **The policy in effect.** Whatever the turns of a run are, a base station has no policy exactly
until a cell of it was reported that made sense. From then on it has the document whose text was the
body of the last push to it that the controller took over in time, or the template if there was no
such push. -/
theorem policy_after (config : LoopConfig) (template : PolicyDocument α) (count : SliceCount)
    (files : Files) (turns : List Turn) (b : BsId) :
    (((start template count files).after config turns).policy b = none ↔
        ∀ t ∈ turns, ¬ t.Brings config.timeout b) ∧
      ∀ doc, ((start template count files).after config turns).policy b = some doc →
        match (acceptedPushes config.timeout b
          ((start template count files).history config turns)).getLast? with
        | some p => doc.dump .yaml = p.body
        | none => doc = template := by
  refine ⟨?_, fun doc hdoc => ?_⟩
  · rw [policy_after_eq_none_iff]
    exact and_iff_right rfl
  · have h := leaves_after config template count files turns b
    rw [effective, hdoc] at h
    exact h

/-! ## Schedulers -/

/-- The step of a cell neither adds a scheduler that counts nor takes one away. -/
theorem scheduler?_enforceCell (answer : Push → Response Unit) (l : ControlLoop α) (c : CellStats)
    (planned : Except (ControlError α) (CellAllocation α)) (b : BsId) (d : Direction) :
    ((enforceCell config answer l c planned).1.effective b).scheduler? d = none ↔
      (l.effective b).scheduler? d = none := by
  rcases enforceCell_cases config answer l c planned with hidle | ⟨a, doc, -, heff⟩
  · rw [hidle.effective]
  · rw [heff.effective]
    split
    · next hb =>
      rw [PolicyDocument.eq_withAllocation heff.written, PolicyDocument.scheduler?_withAllocation,
        Option.map_eq_none_iff, hb]
    · rfl

/-- Nor does a cycle. -/
theorem scheduler?_step (config : LoopConfig) (l : ControlLoop α) (t : Turn) (b : BsId) (d : Direction) :
    ((l.step config t).1.effective b).scheduler? d = none ↔ (l.effective b).scheduler? d = none := by
  refine enforced_induct (P := fun l' _ =>
    (l'.effective b).scheduler? d = none ↔ (l.effective b).scheduler? d = none) ?_ ?_
  · rw [effective_ready]
  · intro l' _ c _ h
    exact (scheduler?_enforceCell t.push l' c _ b d).trans h

/-- A policy has the schedulers of the template for as long as a run goes on. -/
theorem scheduler?_after (config : LoopConfig) (l : ControlLoop α) (turns : List Turn) (b : BsId)
    (d : Direction) :
    ((l.after config turns).effective b).scheduler? d = none ↔ (l.effective b).scheduler? d = none := by
  induction turns generalizing l with
  | nil => rfl
  | cons t rest ih => rw [after, ih, scheduler?_step]

end ControlLoop

end RanSlicing
