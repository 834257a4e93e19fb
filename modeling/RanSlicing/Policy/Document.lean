import RanSlicing.Allocation
import RanSlicing.Files.Basic
import RanSlicing.Policy.Format

/-!
# Policy documents

The scheduling policy of one base station: for each direction a scheduler with a number of active
slices, the share of each slice and its modulation cap. A document is a list of entries with at most
one scheduler for each direction; of several schedulers of a direction the first is the one that
counts, and the others are carried along.

The lists of a scheduler may be shorter than the slices. A slice without a share owns nothing, and
one without a cap may use what its direction allows; writing to a slot behind the end of a list
first fills the slots before it with these values. So a write shows at its own slot only.

Every change is checked first, and a refused change leaves the document as it was.
-/

namespace RanSlicing

/-- The policy of one direction. -/
structure Scheduler (α : Type) where
  /-- name of the callback on the agent -/
  behaviour : Option String
  activeSlices : SliceCount
  /-- share of each slice -/
  shares : List α
  /-- modulation cap of each slice -/
  caps : List Mcs
  deriving DecidableEq, BEq, Repr

/-- One entry of a document. -/
abbrev PolicyEntry (α : Type) := PerDirection (Option (Scheduler α))

/-- The policy of one base station. -/
structure PolicyDocument (α : Type) where
  mac : List (PolicyEntry α)

/-- Why a policy was refused. -/
inductive PolicyError (α : Type)
  | outOfRange (e : OutOfRange)
  | invalidShare (share : α)
  | missingScheduler (d : Direction)
  /-- a text is no document of its format -/
  | malformed (format : PolicyFormat)
  /-- a policy file cannot be read or written -/
  | file (path : String) (cause : FileError)
  deriving Repr

/-- The wording of a refusal. -/
def PolicyError.message {α : Type} [Share α] : PolicyError α → String
  | outOfRange e => "Out of range: " ++ e.message
  | invalidShare x => "RB share " ++ Share.message x ++ " outside [0, 1]"
  | missingScheduler d => "Policy has no " ++ d.label ++ " scheduler section"
  | malformed .yaml => "Policy YAML error"
  | malformed .json => "Policy JSON error"
  | file path _ => "Cannot access policy file " ++ path

namespace Scheduler

variable {α : Type}

/-- Writes to a slot of a list; slots that are missing before it are filled with `pad`. -/
def setSlot {β : Type} (pad : β) (xs : List β) (slot : Nat) (x : β) : List β :=
  (xs ++ List.replicate (slot + 1 - xs.length) pad).set slot x

/-- Share of a slice. -/
def share [Share α] (p : Scheduler α) (s : SliceId) : α := (p.shares[s.val]?).getD 0

/-- Modulation cap of a slice. -/
def cap (p : Scheduler α) (s : SliceId) (d : Direction) : Mcs :=
  (p.caps[s.val]?).getD (Mcs.ceiling d)

/-- Sets the share of a slice. -/
def setShare [Share α] (p : Scheduler α) (s : SliceId) (x : α) : Scheduler α :=
  { p with shares := setSlot 0 p.shares s.val x }

/-- Sets the cap of a slice, as far as its direction allows. -/
def setCap (p : Scheduler α) (s : SliceId) (m : Mcs) (d : Direction) : Scheduler α :=
  { p with caps := setSlot (Mcs.ceiling d) p.caps s.val (min m (Mcs.ceiling d)) }

end Scheduler

namespace PolicyDocument

variable {α : Type}

/-- The scheduler that counts in a direction. -/
def scheduler? (doc : PolicyDocument α) (d : Direction) : Option (Scheduler α) :=
  doc.mac.findSome? (fun e => e.get d)

/-- The scheduler that counts, or the complaint that there is none. -/
def scheduler (doc : PolicyDocument α) (d : Direction) : Except (PolicyError α) (Scheduler α) :=
  match doc.scheduler? d with
  | some p => .ok p
  | none => .error (.missingScheduler d)

/-- Changes the first scheduler of a direction in a list of entries. -/
def modifyFirst (d : Direction) (f : Scheduler α → Scheduler α) :
    List (PolicyEntry α) → List (PolicyEntry α)
  | [] => []
  | e :: es =>
    match e.get d with
    | some p => e.set d (some (f p)) :: es
    | none => e :: modifyFirst d f es

/-- Changes the scheduler that counts. -/
def modify (doc : PolicyDocument α) (d : Direction) (f : Scheduler α → Scheduler α) :
    Except (PolicyError α) (PolicyDocument α) :=
  match doc.scheduler? d with
  | some _ => .ok ⟨modifyFirst d f doc.mac⟩
  | none => .error (.missingScheduler d)

/-- Number of active slices. -/
def numSlices (doc : PolicyDocument α) (d : Direction) : Except (PolicyError α) SliceCount :=
  (doc.scheduler d).map Scheduler.activeSlices

/-- Sets the number of active slices. -/
def setNumSlices (doc : PolicyDocument α) (d : Direction) (n : SliceCount) :
    Except (PolicyError α) (PolicyDocument α) :=
  doc.modify d (fun p => { p with activeSlices := n })

/-- Modulation cap of a slice. -/
def sliceCap (doc : PolicyDocument α) (s : SliceId) (d : Direction) :
    Except (PolicyError α) Mcs :=
  (doc.scheduler d).map (fun p => p.cap s d)

/-- Sets the modulation cap of a slice, as far as its direction allows. -/
def setSliceCap (doc : PolicyDocument α) (s : SliceId) (m : Mcs) (d : Direction) :
    Except (PolicyError α) (PolicyDocument α) :=
  doc.modify d (fun p => p.setCap s m d)

/-- The caps of every slice; there are none without a scheduler in both directions. -/
def mcsCaps (doc : PolicyDocument α) : Except (PolicyError α) McsCaps := do
  let dl ← doc.scheduler .dl
  let ul ← doc.scheduler .ul
  return ⟨fun s d => match d with
    | .dl => dl.cap s .dl
    | .ul => ul.cap s .ul⟩

variable [Share α]

/-- Share of a slice. -/
def sliceShare (doc : PolicyDocument α) (s : SliceId) (d : Direction) :
    Except (PolicyError α) α :=
  (doc.scheduler d).map (fun p => p.share s)

/-- Refuses a share that is not part of a cell. -/
def checkShare (x : α) : Except (PolicyError α) Unit :=
  if Share.Valid x then .ok () else .error (.invalidShare x)

/-- Sets the share of a slice. The share is looked at before the document. -/
def setSliceShare (doc : PolicyDocument α) (s : SliceId) (x : α) (d : Direction) :
    Except (PolicyError α) (PolicyDocument α) := do
  checkShare x
  doc.modify d (fun p => p.setShare s x)

/-- Every share of a document, the ones that do not count included. -/
def allShares (doc : PolicyDocument α) : List α :=
  doc.mac.flatMap (fun e => e.toList.flatMap (fun p? => (p?.map Scheduler.shares).getD []))

/-- Refuses a document with a share that is not part of a cell. -/
def validate (doc : PolicyDocument α) : Except (PolicyError α) Unit :=
  doc.allShares.forM checkShare

/-- Writes what one slice gets in a direction. -/
def applySlice (d : Direction) (doc : PolicyDocument α) (a : SliceAllocation α) :
    Except (PolicyError α) (PolicyDocument α) := do
  let doc ← doc.setSliceShare a.slice (a.share.get d) d
  doc.setSliceCap a.slice (a.maxMcs.get d) d

/-- Writes an allocation in one direction. -/
def applyDirection (a : CellAllocation α) (doc : PolicyDocument α) (d : Direction) :
    Except (PolicyError α) (PolicyDocument α) := do
  let doc ← doc.setNumSlices d a.numSlices
  a.slices.foldlM (applySlice d) doc

/-- The document with an allocation written to it, the downlink first. The first refused change
abandons it. -/
def applyAllocation (doc : PolicyDocument α) (a : CellAllocation α) :
    Except (PolicyError α) (PolicyDocument α) :=
  Direction.all.foldlM (applyDirection a) doc

/-- What a base station has before anything is configured: one slice in each direction that owns
the whole cell. -/
def default : PolicyDocument α :=
  let part (d : Direction) : Scheduler α :=
    ⟨none, ⟨1, by decide⟩, [1, Share.ofNat 2 / Share.ofNat 5, 0, 0],
      List.replicate 4 (Mcs.ceiling d)⟩
  ⟨[⟨some (part .dl), none⟩, ⟨none, some (part .ul)⟩]⟩

instance : BEq (PolicyDocument α) := ⟨fun a b => a.mac == b.mac⟩

end PolicyDocument

end RanSlicing
