import RanSlicing.Proofs.CellStep
import RanSlicing.Proofs.PolicyWrites

/-!
# Enforcement is all or nothing

Between the policy that a base station has and the one that it is to get stand two reasons to leave a cell
alone, every check of every slot, a controller that may refuse or be late, and a file that may not be written.
`Enforcement.AllOrNothing` says what each of these ends has in common: one policy is pushed or none; the policy
in effect becomes the one that was pushed if the controller took it over in time, and then whether or not it
could be kept; and in every other case neither the policy nor a file has changed.

The controller is a function of the push that it answers. That there is one push at most shows in what an
enforcement can learn from it: the answer to that push and nothing else (`Enforcement.run_of_answer`).
-/

namespace RanSlicing

/-- A double that is not a number is no part of a cell. -/
theorem Share.not_valid_of_isNaN {x : Float} (h : x.isNaN = true) : ¬ Share.Valid x := by
  rintro ⟨-, hle⟩
  have hle : x.toModel.unpack.le (1.0 : Float).toModel.unpack = true := by
    exact of_decide_eq_true hle
  cases hx : x.toModel.unpack with
  | notANumber =>
    rw [hx] at hle
    cases hle
  | _ =>
    -- the other values have digits or are infinite
    have hnan : x.toModel.unpack.isNaN = true := h
    rw [hx] at hnan
    cases hnan

namespace Enforcement

variable {α : Type} [Share α] {timeout : Millis} {persistence : Option Persistence} {files : Files}
  {current : PolicyDocument α} {stats : CellStats} {a : CellAllocation α} {answer : Push → Response Unit}

/-! ## The push -/

/-- What is pushed is the text of the candidate, and what becomes of it is up to the controller. -/
theorem exchange_run_eq_some_iff {x : Exchange} :
    (run timeout persistence files current stats a answer).exchange = some x ↔
      ∃ doc, candidate current stats a = .ok doc ∧ x.push = ⟨stats.cell.enbId, a.bsId, doc.dump .yaml⟩ ∧
        x.delivery = (answer x.push).delivery timeout := by
  cases hc : candidate current stats a with
  | error o => simp [run_of_error hc]
  | ok doc =>
    obtain ⟨push, delivery⟩ := x
    rw [(run_of_ok hc timeout persistence files answer).1, Option.some.injEq, Exchange.mk.injEq]
    constructor
    · rintro ⟨rfl, rfl⟩
      exact ⟨doc, rfl, rfl, rfl⟩
    · rintro ⟨written, hwritten, rfl, hdelivery⟩
      cases hwritten
      exact ⟨rfl, hdelivery.symm⟩

/-- There is a push exactly if there are users and slices, a scheduler in each direction, and every share is
a part of a cell. -/
theorem exchange_run_ne_none_iff :
    (run timeout persistence files current stats a answer).exchange ≠ none ↔
      stats.users ≠ [] ∧ a.slices ≠ [] ∧ (∀ d, current.scheduler? d ≠ none) ∧
        ∀ x ∈ a.slices, ∀ d, Share.Valid (x.share.get d) := by
  constructor
  · intro h
    obtain ⟨x, hx⟩ := Option.ne_none_iff_exists'.mp h
    obtain ⟨doc, hc, -⟩ := exchange_run_eq_some_iff.mp hx
    obtain ⟨husers, hslices, hw⟩ := candidate_eq_ok_iff.mp hc
    obtain ⟨hs, hv, -⟩ := PolicyDocument.applyAllocation_eq_ok_iff.mp hw
    exact ⟨husers, hslices, hs, hv⟩
  · rintro ⟨husers, hslices, hs, hv⟩
    have hc : candidate current stats a = .ok (current.withAllocation a) :=
      candidate_eq_ok_iff.mpr ⟨husers, hslices, PolicyDocument.applyAllocation_of_valid hs hv⟩
    rw [(run_of_ok hc timeout persistence files answer).1]
    exact Option.some_ne_none _

/-- The controller is not asked anything but what it answers to the push, if there is one. -/
theorem run_of_answer {answer' : Push → Response Unit}
    (h : ∀ x ∈ (run timeout persistence files current stats a answer).exchange,
      answer' x.push = answer x.push) :
    run timeout persistence files current stats a answer' =
      run timeout persistence files current stats a answer := by
  cases hc : candidate current stats a with
  | error o => rw [run_of_error hc, run_of_error hc]
  | ok doc =>
    have hanswer := h _ (run_of_ok hc timeout persistence files answer).1
    simp only at hanswer
    simp only [run, hc, hanswer]

/-! ## What becomes of the policy -/

/-- A policy is applied exactly if the controller took over the one that was pushed, in time. -/
theorem applied_run_iff :
    (∃ kept, (run timeout persistence files current stats a answer).outcome = .applied kept) ↔
      ∃ x ∈ (run timeout persistence files current stats a answer).exchange,
        (answer x.push).delay ≤ timeout ∧ (answer x.push).result = .ok () := by
  rcases run_cases timeout persistence files current stats a answer with hidle | ⟨doc, heffect⟩
  · -- nothing was accepted and nothing is applied
    refine iff_of_false ?_ ?_
    · rintro ⟨kept, hkept⟩
      have hnot := hidle.notApplied
      rw [hkept] at hnot
      cases hnot
    · rintro ⟨x, hx, haccepts⟩
      exact hidle.notAccepted x hx haccepts
  · exact iff_of_true ⟨_, heffect.outcome⟩ ⟨_, heffect.exchange, heffect.accepted _ heffect.exchange⟩

/-- A policy that is applied is the one in effect with the allocation written to it, and its text was the
body of the push. -/
theorem policy_of_applied {kept : Option Path}
    (h : (run timeout persistence files current stats a answer).outcome = .applied kept) :
    let e := run timeout persistence files current stats a answer
    current.applyAllocation a = .ok e.policy ∧
      ∃ x ∈ e.exchange, x.push.bsId = a.bsId ∧ x.push.body = e.policy.dump .yaml := by
  intro e
  rcases run_cases timeout persistence files current stats a answer with hidle | ⟨doc, heffect⟩
  · have hnot := hidle.notApplied
    rw [h] at hnot
    cases hnot
  · have hpolicy : e.policy = doc := heffect.policy
    rw [hpolicy]
    exact ⟨heffect.written, _, heffect.exchange, rfl, rfl⟩

/-- An enforcement that did not apply a policy has changed nothing. -/
theorem unchanged_of_not_applied
    (h : (run timeout persistence files current stats a answer).outcome.isApplied = false) :
    let e := run timeout persistence files current stats a answer
    e.policy = current ∧ e.files = files := by
  intro e
  rcases run_cases timeout persistence files current stats a answer with hidle | ⟨doc, heffect⟩
  · exact ⟨hidle.policy, hidle.files⟩
  · rw [heffect.outcome] at h
    cases h

/-- Neither the files nor the place where policies are kept decide about the policy. -/
theorem run_of_persistence (persistence' : Option Persistence) (files' : Files) :
    let e := run timeout persistence files current stats a answer
    let e' := run timeout persistence' files' current stats a answer
    e'.exchange = e.exchange ∧ e'.policy = e.policy ∧ e'.outcome.isApplied = e.outcome.isApplied := by
  intro e e'
  cases hc : candidate current stats a with
  | error o =>
    have he : e = ⟨o, current, files, none, 0, []⟩ := run_of_error hc ..
    have he' : e' = ⟨o, current, files', none, 0, []⟩ := run_of_error hc ..
    rw [he, he']
    exact ⟨rfl, rfl, rfl⟩
  | ok doc =>
    obtain ⟨hexchange, houtcome, hpolicy, -⟩ := run_of_ok hc timeout persistence files answer
    obtain ⟨hexchange', houtcome', hpolicy', -⟩ := run_of_ok hc timeout persistence' files' answer
    refine ⟨hexchange'.trans hexchange.symm, hpolicy'.trans hpolicy.symm, ?_⟩
    change (run timeout persistence' files' current stats a answer).outcome.isApplied =
      (run timeout persistence files current stats a answer).outcome.isApplied
    rw [houtcome, houtcome']
    cases (answer ⟨stats.cell.enbId, a.bsId, doc.dump .yaml⟩).delivery timeout <;> rfl

/-! ## All of it or nothing -/

/-- What an enforcement `e` does to a policy and to the files: all that it was to do, or nothing. -/
structure AllOrNothing (timeout : Millis) (files : Files) (current : PolicyDocument α) (stats : CellStats)
    (a : CellAllocation α) (answer : Push → Response Unit) (e : Enforcement α) : Prop where
  /-- a policy is pushed exactly if there is one to push -/
  pushed : e.exchange ≠ none ↔ stats.users ≠ [] ∧ a.slices ≠ [] ∧ (∀ d, current.scheduler? d ≠ none) ∧
    ∀ x ∈ a.slices, ∀ d, Share.Valid (x.share.get d)
  /-- it is applied exactly if the controller accepts it in time -/
  applied : (∃ kept, e.outcome = .applied kept) ↔
    ∃ x ∈ e.exchange, (answer x.push).delay ≤ timeout ∧ (answer x.push).result = .ok ()
  /-- then the policy in effect is the one with the allocation, and its text was the body of the push -/
  effective : ∀ kept, e.outcome = .applied kept → current.applyAllocation a = .ok e.policy ∧
    ∃ x ∈ e.exchange, x.push.bsId = a.bsId ∧ x.push.body = e.policy.dump .yaml
  /-- otherwise everything is as it was -/
  unchanged : (∃ reason, e.outcome = .skipped reason) ∨ (∃ cause, e.outcome = .failed cause) →
    e.policy = current ∧ e.files = files

/-- **Enforcement is all or nothing.** Whatever the policy in effect, the allocation, the place where policies
are kept and the controller are: one policy is pushed or none, and none if a share is no number; it takes effect
as it was pushed if the controller accepts it in time, and otherwise nothing changes. Of the controller nothing
matters but the answer to that push, and whether the policy can be kept does not matter. -/
theorem allOrNothing_run (timeout : Millis) (persistence : Option Persistence) (files : Files)
    (current : PolicyDocument Float) (stats : CellStats) (a : CellAllocation Float)
    (answer : Push → Response Unit) :
    let e := run timeout persistence files current stats a answer
    AllOrNothing timeout files current stats a answer e ∧
      ((∃ x ∈ a.slices, ∃ d, (x.share.get d).isNaN = true) → e.exchange = none) ∧
      (∀ answer' : Push → Response Unit, (∀ x ∈ e.exchange, answer' x.push = answer x.push) →
        run timeout persistence files current stats a answer' = e) ∧
      ∀ persistence' files', let e' := run timeout persistence' files' current stats a answer
        e'.exchange = e.exchange ∧ e'.policy = e.policy ∧ e'.outcome.isApplied = e.outcome.isApplied := by
  intro e
  refine ⟨⟨exchange_run_ne_none_iff, applied_run_iff, fun kept => policy_of_applied, ?_⟩, ?_,
    fun answer' => run_of_answer, run_of_persistence⟩
  · intro hnot
    refine unchanged_of_not_applied ?_
    rcases hnot with ⟨reason, h⟩ | ⟨cause, h⟩
    · change e.outcome.isApplied = false
      rw [h]
      rfl
    · change e.outcome.isApplied = false
      rw [h]
      rfl
  · rintro ⟨x, hx, d, hnan⟩
    have hsilent : ¬ e.exchange ≠ none := by
      intro hpushed
      obtain ⟨-, -, -, hvalid⟩ := exchange_run_ne_none_iff.mp hpushed
      exact Share.not_valid_of_isNaN hnan (hvalid x hx d)
    exact Decidable.not_not.mp hsilent

end Enforcement

end RanSlicing
