import RanSlicing.Control.Exchange
import RanSlicing.Policy.Text

/-!
# Enforcement

Bringing the allocation of one cell into effect: write it to a copy of the policy in effect, push the
copy, and let it take effect when the controller has accepted it. Until then nothing changes, so
whatever fails on the way leaves the policy and the files as they were.

An accepted policy is kept as a new file, named after the frame number of the cell. The number
repeats in a long run; a policy whose name is taken stays in effect but is not kept.
-/

namespace RanSlicing

/-- Where accepted policies are kept. -/
structure Persistence where
  dir : String
  basename : String
  format : PolicyFormat
  deriving DecidableEq, Repr

/-- Why a cell was left alone. -/
inductive SkipReason
  /-- nobody is attached -/
  | noUsers
  /-- slicing is switched off -/
  | noSlices
  deriving DecidableEq, Repr

/-- What became of the allocation of a cell. -/
inductive Outcome (α : Type)
  /-- the controller accepted the policy; it is kept in a file, if any -/
  | applied (kept : Option Path)
  | skipped (reason : SkipReason)
  /-- nothing has changed -/
  | failed (e : ControlError α)
  deriving Repr

/-- Whether a policy took effect. -/
def Outcome.isApplied {α : Type} : Outcome α → Bool
  | applied _ => true
  | _ => false

/-- Everything that enforcing the allocation of one cell does. -/
structure Enforcement (α : Type) where
  outcome : Outcome α
  /-- the policy in effect afterwards -/
  policy : PolicyDocument α
  files : Files
  /-- the push, if there was one -/
  exchange : Option Exchange
  /-- time that passed -/
  elapsed : Millis
  /-- what the operator typed in that time -/
  typed : List Nat

namespace Enforcement

variable {α : Type} [Share α]

/-- The policy that has to be pushed for an allocation, unless the cell is left alone or the
allocation cannot be written. -/
def candidate (current : PolicyDocument α) (stats : CellStats) (a : CellAllocation α) :
    Except (Outcome α) (PolicyDocument α) :=
  if stats.users.isEmpty then .error (.skipped .noUsers)
  else if a.slices.isEmpty then .error (.skipped .noSlices)
  else (current.applyAllocation a).mapError (fun e => .failed (.policy e))

/-- Keeps a policy in a new file. Gives the files afterwards and the path, if a file was written. -/
def keep (persistence : Option Persistence) (files : Files) (sfn : UInt32)
    (doc : PolicyDocument α) : Files × Option Path :=
  match persistence with
  | none => (files, none)
  | some p =>
    let (files, saved) := doc.save files p.dir p.basename sfn p.format
    (files, saved.toOption)

/-- Enforces the allocation of a cell whose policy in effect is `current`. -/
def run (timeout : Millis) (persistence : Option Persistence) (files : Files)
    (current : PolicyDocument α) (stats : CellStats) (a : CellAllocation α)
    (answer : Push → Response Unit) : Enforcement α :=
  match candidate current stats a with
  | .error outcome => ⟨outcome, current, files, none, 0, []⟩
  | .ok doc =>
    let push : Push := ⟨stats.cell.enbId, a.bsId, doc.dump .yaml⟩
    let response := answer push
    let delivery := response.delivery timeout
    let after (outcome : Outcome α) (policy : PolicyDocument α) (files : Files) : Enforcement α :=
      ⟨outcome, policy, files, some ⟨push, delivery⟩, response.elapsed timeout, response.typed⟩
    match delivery with
    | .accepted =>
      let (files, kept) := keep persistence files stats.cell.sfn doc
      after (.applied kept) doc files
    | .refused e => after (.failed (.interface e)) current files
    | .timedOut => after (.failed (.timeout .policyPush timeout)) current files

end Enforcement

end RanSlicing
