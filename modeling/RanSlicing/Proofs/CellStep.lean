import RanSlicing.Control.Cycle

/-!
# One cell of a cycle

Everything that a cycle does to the state of the loop, it does cell by cell, and there are only two
ways in which that can end. Either the cell is *idle*: it was left alone, or something failed, and the
policies and files are what they were. Or its policy was *put into effect*: the controller accepted
the push of the allocation written to the policy that the base station had.

`ControlLoop.enforceCell_cases` says that there is no third way. What holds of a run is derived from
it; nothing after this module opens an enforcement again.
-/

namespace RanSlicing

/-! ## The table of policies -/

namespace PolicyTable

variable {α : Type}

/-- Taking the entries of one base station out does not touch the others. -/
theorem lookup_filter_ne (t : PolicyTable α) {b c : BsId} (h : c ≠ b) :
    (t.filter (fun e => e.1 ≠ b)).lookup c = t.lookup c := by
  induction t with
  | nil => rfl
  | cons e rest ih =>
    by_cases hk : e.1 = b
    · rw [List.filter_cons_of_neg (by simpa using hk), ih]
      have hce : (c == e.1) = false := beq_eq_false_iff_ne.mpr (hk ▸ h)
      rw [List.lookup_cons, hce]
    · rw [List.filter_cons_of_pos (by simpa using hk), List.lookup_cons, List.lookup_cons, ih]

/-- Writing the policy of one base station shows at that base station only. -/
theorem get?_set (t : PolicyTable α) (b c : BsId) (doc : PolicyDocument α) :
    (t.set b doc).get? c = if c = b then some doc else t.get? c := by
  rw [get?, set, List.lookup_cons]
  by_cases h : c = b
  · simp [h]
  · rw [if_neg h, beq_eq_false_iff_ne.mpr h]
    exact lookup_filter_ne t h

/-- A base station keeps the policy that it has, and gets the first one otherwise. -/
theorem get?_ensure (t : PolicyTable α) (b c : BsId) (doc : PolicyDocument α) :
    (t.ensure b doc).get? c = if c = b then some ((t.get? b).getD doc) else t.get? c := by
  simp only [ensure]
  split
  · next h =>
    split
    · next hc =>
      obtain ⟨old, hold⟩ := Option.isSome_iff_exists.mp h
      rw [hc, hold]
      rfl
    · rfl
  · next h =>
    rw [get?_set, Option.not_isSome_iff_eq_none.mp h]
    rfl

end PolicyTable

/-! ## Base stations that are met -/

namespace ControlLoop

variable {α : Type}

/-- Requests of the operator do not concern the policies. -/
@[simp] theorem effective_typed (l : ControlLoop α) (wanted : List Nat) (b : BsId) :
    (l.typed wanted).effective b = l.effective b := rfl

@[simp] theorem template_meet (l : ControlLoop α) (cells : List CellStats) :
    (l.meet cells).template = l.template := rfl

/-- Meeting cells one by one is meeting them all. -/
theorem meet_cons (l : ControlLoop α) (c : CellStats) (cells : List CellStats) :
    l.meet (c :: cells) = (l.meet [c]).meet cells := rfl

theorem policy_meet_singleton (l : ControlLoop α) (c : CellStats) (b : BsId) :
    (l.meet [c]).policy b = if b = c.cell.bsId then some (l.effective b) else l.policy b := by
  change (l.policies.ensure c.cell.bsId l.template).get? b = _
  rw [PolicyTable.get?_ensure]
  split
  · next h => rw [h]; rfl
  · rfl

/-- Meeting a base station for the first time does not change the policy that it starts from. -/
@[simp] theorem effective_meet (l : ControlLoop α) (cells : List CellStats) (b : BsId) :
    (l.meet cells).effective b = l.effective b := by
  induction cells generalizing l with
  | nil => rfl
  | cons c rest ih =>
    rw [meet_cons, ih]
    rw [effective, policy_meet_singleton, template_meet]
    split <;> rfl

/-- After a meeting exactly the base stations known before and those of the cells are known. -/
theorem policy_meet_eq_none_iff (l : ControlLoop α) (cells : List CellStats) (b : BsId) :
    (l.meet cells).policy b = none ↔
      l.policy b = none ∧ b ∉ cells.map (fun c => c.cell.bsId) := by
  induction cells generalizing l with
  | nil => exact (and_iff_left List.not_mem_nil).symm
  | cons c rest ih =>
    rw [meet_cons, ih, policy_meet_singleton, List.map_cons, List.mem_cons, not_or]
    by_cases h : b = c.cell.bsId
    · simp [h]
    · simp [h]

/-- The policies in effect after one of them was written. -/
theorem effective_set (l : ControlLoop α) (b : BsId) (doc : PolicyDocument α) (fs : Files) (c : BsId) :
    effective { l with policies := l.policies.set b doc, files := fs } c =
      if c = b then doc else l.effective c := by
  change ((l.policies.set b doc).get? c).getD l.template = _
  rw [PolicyTable.get?_set]
  split <;> rfl

end ControlLoop

/-! ## What an enforcement can do -/

/-- Whether the controller takes over what was pushed, and says so in time. -/
def Response.Accepts (timeout : Millis) (r : Response Unit) : Prop :=
  r.delay ≤ timeout ∧ r.result = .ok ()

instance (timeout : Millis) (r : Response Unit) : Decidable (r.Accepts timeout) :=
  decidable_of_iff (r.delay ≤ timeout ∧ r.result.isOk = true) <|
    and_congr_right fun _ => by cases r.result <;> simp [Except.isOk, Except.toBool]

/-- A push ends as accepted exactly if the controller accepts it. -/
theorem Response.delivery_eq_accepted_iff {timeout : Millis} {r : Response Unit} :
    r.delivery timeout = .accepted ↔ r.Accepts timeout := by
  simp only [delivery, inTime?, Accepts]
  by_cases h : r.delay ≤ timeout
  · rw [if_pos h]
    cases r.result <;> simp [h]
  · simp [h]

variable {α : Type} [Share α]

/-- An enforcement that left the policy and the files alone. -/
structure Enforcement.Idle (timeout : Millis) (before : Files) (current : PolicyDocument α)
    (answer : Push → Response Unit) (e : Enforcement α) : Prop where
  policy : e.policy = current
  files : e.files = before
  notApplied : e.outcome.isApplied = false
  notAccepted : ∀ x ∈ e.exchange, ¬ (answer x.push).Accepts timeout

/-- An enforcement that put `doc` into effect: the allocation was written to the policy in effect, the
controller accepted the push of the result, and only then it was kept. -/
structure Enforcement.PutsIntoEffect (timeout : Millis) (persistence : Option Persistence)
    (before : Files) (current : PolicyDocument α) (stats : CellStats) (a : CellAllocation α)
    (answer : Push → Response Unit) (doc : PolicyDocument α) (e : Enforcement α) : Prop where
  written : current.applyAllocation a = .ok doc
  policy : e.policy = doc
  files : e.files = (keep persistence before stats.cell.sfn doc).1
  outcome : e.outcome = .applied (keep persistence before stats.cell.sfn doc).2
  exchange : e.exchange = some ⟨⟨stats.cell.enbId, a.bsId, doc.dump .yaml⟩, .accepted⟩
  accepted : ∀ x ∈ e.exchange, (answer x.push).Accepts timeout

namespace Enforcement

variable {current doc : PolicyDocument α} {stats : CellStats} {a : CellAllocation α}

/-- Naming a failure in other words does not touch a success. -/
theorem mapError_eq_ok_iff {ε ε' β : Type} {f : ε → ε'} {x : Except ε β} {b : β} :
    x.mapError f = .ok b ↔ x = .ok b := by
  cases x with
  | error e => exact ⟨fun h => (by cases h), fun h => (by cases h)⟩
  | ok c => exact ⟨fun h => congrArg _ (Except.ok.inj h), fun h => congrArg _ (Except.ok.inj h)⟩

/-- A cell has a candidate exactly if it has users and slices and its allocation can be written; the
candidate is the policy in effect with the allocation written to it. -/
theorem candidate_eq_ok_iff : candidate current stats a = .ok doc ↔
    stats.users ≠ [] ∧ a.slices ≠ [] ∧ current.applyAllocation a = .ok doc := by
  rw [candidate]
  by_cases hu : stats.users = []
  · simp [hu]
  by_cases hs : a.slices = []
  · simp [hu, hs]
  rw [if_neg (by simpa using hu), if_neg (by simpa using hs)]
  exact mapError_eq_ok_iff.trans (by simp [hu, hs])

/-- A candidate is the policy in effect with the allocation written to it. -/
theorem applyAllocation_of_candidate (h : candidate current stats a = .ok doc) :
    current.applyAllocation a = .ok doc :=
  (candidate_eq_ok_iff.mp h).2.2

/-- A cell without candidate is skipped or has failed. -/
theorem isApplied_of_candidate {o : Outcome α} (h : candidate current stats a = .error o) :
    o.isApplied = false := by
  simp only [candidate] at h
  split at h
  · cases h; rfl
  · split at h
    · cases h; rfl
    · cases hw : current.applyAllocation a with
      | error e => rw [hw] at h; cases h; rfl
      | ok written => rw [hw] at h; cases h

/-- A cell without candidate is left as it was. -/
theorem run_of_error {o : Outcome α} (h : candidate current stats a = .error o) (timeout : Millis)
    (persistence : Option Persistence) (files : Files) (answer : Push → Response Unit) :
    run timeout persistence files current stats a answer = ⟨o, current, files, none, 0, []⟩ := by
  simp only [run, h]

/-- A candidate is pushed, and everything else hangs on what becomes of that push. -/
theorem run_of_ok (h : candidate current stats a = .ok doc) (timeout : Millis)
    (persistence : Option Persistence) (files : Files) (answer : Push → Response Unit) :
    let push : Push := ⟨stats.cell.enbId, a.bsId, doc.dump .yaml⟩
    let delivery := (answer push).delivery timeout
    let e := run timeout persistence files current stats a answer
    e.exchange = some ⟨push, delivery⟩ ∧
      e.outcome = (match delivery with
        | .accepted => .applied (keep persistence files stats.cell.sfn doc).2
        | .refused cause => .failed (.interface cause)
        | .timedOut => .failed (.timeout .policyPush timeout)) ∧
      e.policy = (if delivery = .accepted then doc else current) ∧
      e.files = if delivery = .accepted then (keep persistence files stats.cell.sfn doc).1 else files := by
  simp only [run, h]
  cases (answer ⟨stats.cell.enbId, a.bsId, doc.dump .yaml⟩).delivery timeout <;> simp

/-- An enforcement is idle or puts a policy into effect. -/
theorem run_cases (timeout : Millis) (persistence : Option Persistence) (files : Files)
    (current : PolicyDocument α) (stats : CellStats) (a : CellAllocation α)
    (answer : Push → Response Unit) :
    Idle timeout files current answer (run timeout persistence files current stats a answer) ∨
      ∃ doc, PutsIntoEffect timeout persistence files current stats a answer doc
        (run timeout persistence files current stats a answer) := by
  cases hc : candidate current stats a with
  | error o =>
    rw [run_of_error hc]
    exact .inl ⟨rfl, rfl, isApplied_of_candidate hc, by simp⟩
  | ok doc =>
    obtain ⟨hexchange, houtcome, hpolicy, hfiles⟩ := run_of_ok hc timeout persistence files answer
    by_cases haccepts : (answer ⟨stats.cell.enbId, a.bsId, doc.dump .yaml⟩).Accepts timeout
    · have hdelivery := Response.delivery_eq_accepted_iff.mpr haccepts
      rw [hdelivery] at hexchange houtcome hpolicy hfiles
      refine .inr ⟨doc, applyAllocation_of_candidate hc, hpolicy, hfiles, houtcome, hexchange, ?_⟩
      rw [hexchange]
      rintro x ⟨⟩
      exact haccepts
    · -- the push was refused or came too late
      have hdelivery := mt Response.delivery_eq_accepted_iff.mp haccepts
      rw [if_neg hdelivery] at hpolicy hfiles
      refine .inl ⟨hpolicy, hfiles, ?_, ?_⟩
      · rw [houtcome]
        split
        · contradiction
        · rfl
        · rfl
      · rw [hexchange]
        rintro x ⟨⟩
        exact haccepts

/-- Whatever is pushed is the text of the candidate, for the cell and the base station of its allocation. -/
theorem push_run (timeout : Millis) (persistence : Option Persistence) (files : Files)
    (current : PolicyDocument α) (stats : CellStats) (a : CellAllocation α)
    (answer : Push → Response Unit) :
    ∀ x ∈ (run timeout persistence files current stats a answer).exchange,
      ∃ doc, candidate current stats a = .ok doc ∧ x.push = ⟨stats.cell.enbId, a.bsId, doc.dump .yaml⟩ := by
  cases hc : candidate current stats a with
  | error o => simp [run_of_error hc]
  | ok doc => simp [(run_of_ok hc timeout persistence files answer).1]

end Enforcement

/-! ## What the step of a cell can do -/

namespace ControlLoop

variable {config : LoopConfig} {answer : Push → Response Unit}

/-- A cell whose step left all policies and files alone. -/
structure Idle (config : LoopConfig) (answer : Push → Response Unit) (l l' : ControlLoop α)
    (r : CellRun α) : Prop where
  effective : ∀ b, l'.effective b = l.effective b
  files : l'.files = l.files
  notApplied : r.report.outcome.isApplied = false
  notAccepted : ∀ x ∈ r.exchange, ¬ (answer x.push).Accepts config.timeout

/-- A cell whose step put `doc` into effect at its base station, and at no other. -/
structure PutsIntoEffect (config : LoopConfig) (answer : Push → Response Unit) (l : ControlLoop α)
    (stats : CellStats) (a : CellAllocation α) (doc : PolicyDocument α) (l' : ControlLoop α)
    (r : CellRun α) : Prop where
  written : (l.effective stats.cell.bsId).applyAllocation a = .ok doc
  effective : ∀ b, l'.effective b = if b = stats.cell.bsId then doc else l.effective b
  files : l'.files = (Enforcement.keep config.persistence l.files stats.cell.sfn doc).1
  outcome : r.report.outcome =
    .applied (Enforcement.keep config.persistence l.files stats.cell.sfn doc).2
  exchange : r.exchange = some ⟨⟨stats.cell.enbId, a.bsId, doc.dump .yaml⟩, .accepted⟩
  accepted : ∀ x ∈ r.exchange, (answer x.push).Accepts config.timeout

/-- The policies in effect after the step of a cell with an allocation. -/
theorem effective_enforceCell_ok (answer : Push → Response Unit) (l : ControlLoop α) (c : CellStats)
    (a : CellAllocation α) (b : BsId) :
    (enforceCell config answer l c (.ok a)).1.effective b =
      if b = c.cell.bsId then (Enforcement.run config.timeout config.persistence l.files
        (l.effective c.cell.bsId) c a answer).policy else l.effective b := by
  rw [enforceCell, effective_typed, effective_set]

/-- The step of a cell is idle or puts a policy into effect; then there was an allocation. -/
theorem enforceCell_cases (config : LoopConfig) (answer : Push → Response Unit) (l : ControlLoop α)
    (stats : CellStats) (planned : Except (ControlError α) (CellAllocation α)) :
    Idle config answer l (enforceCell config answer l stats planned).1
        (enforceCell config answer l stats planned).2 ∨
      ∃ a doc, planned = .ok a ∧ PutsIntoEffect config answer l stats a doc
        (enforceCell config answer l stats planned).1 (enforceCell config answer l stats planned).2 := by
  cases planned with
  | error e => exact .inl ⟨fun _ => rfl, rfl, rfl, by simp [enforceCell]⟩
  | ok a =>
    rcases Enforcement.run_cases config.timeout config.persistence l.files
      (l.effective stats.cell.bsId) stats a answer with h | ⟨doc, h⟩
    · refine .inl ⟨fun b => ?_, h.files, h.notApplied, h.notAccepted⟩
      rw [effective_enforceCell_ok, h.policy]
      split
      · next hb => rw [hb]
      · rfl
    · refine .inr ⟨a, doc, rfl, h.written, fun b => ?_, h.files, h.outcome, h.exchange, h.accepted⟩
      rw [effective_enforceCell_ok, h.policy]

/-- Enforcing the allocation of a base station that is known makes no other one known. -/
theorem policy_enforceCell_eq_none_iff {l : ControlLoop α} {stats : CellStats}
    (hknown : l.policy stats.cell.bsId ≠ none)
    (planned : Except (ControlError α) (CellAllocation α)) (b : BsId) :
    (enforceCell config answer l stats planned).1.policy b = none ↔ l.policy b = none := by
  cases planned with
  | error e => rfl
  | ok a =>
    change (PolicyTable.set _ _ _).get? b = none ↔ _
    rw [PolicyTable.get?_set]
    split
    · next h => simp [h, hknown]
    · rfl

/-- Whatever the step of a cell pushes is the policy in effect with the allocation written to it. -/
theorem push_enforceCell (config : LoopConfig) (answer : Push → Response Unit) (l : ControlLoop α)
    (stats : CellStats) (planned : Except (ControlError α) (CellAllocation α)) :
    ∀ x ∈ (enforceCell config answer l stats planned).2.exchange,
      ∃ a doc, planned = .ok a ∧ (l.effective stats.cell.bsId).applyAllocation a = .ok doc ∧
        x.push = ⟨stats.cell.enbId, a.bsId, doc.dump .yaml⟩ := by
  intro x hx
  cases planned with
  | error e => cases hx
  | ok a =>
    obtain ⟨doc, hc, hpush⟩ := Enforcement.push_run _ _ _ _ _ _ _ x hx
    exact ⟨a, doc, rfl, Enforcement.applyAllocation_of_candidate hc, hpush⟩

/-- What a cell is reported with, its outcome apart, is fixed before its step. -/
theorem report_enforceCell (config : LoopConfig) (answer : Push → Response Unit) (l : ControlLoop α)
    (stats : CellStats) (planned : Except (ControlError α) (CellAllocation α)) :
    (enforceCell config answer l stats planned).2.report =
      cellReport stats planned.toOption
        (enforceCell config answer l stats planned).2.report.outcome := by
  cases planned <;> rfl

end ControlLoop

end RanSlicing
