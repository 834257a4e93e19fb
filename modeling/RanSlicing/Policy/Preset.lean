import RanSlicing.Policy.Text

/-!
# Slice presets

A preset is a number of slices with modulation caps for the first of them, known by a name. Applying
one writes it into a document slot by slot, the downlink first, and checks each number when its turn
comes: a preset that is refused half way keeps what was written before.
-/

namespace RanSlicing

/-- A number of slices and caps for the first of them. Nothing is checked yet. -/
structure Preset where
  slices : UInt8
  /-- modulation caps in slice order -/
  caps : PerDirection (List UInt8)
  deriving DecidableEq, Repr

/-- A change of a document that may be refused. -/
abbrev PolicyEdit (α : Type) := PolicyDocument α → Except (PolicyError α) (PolicyDocument α)

/-- Runs changes one after the other up to the first refused one; what was changed before it
stays. -/
def PolicyDocument.applyEdits {α : Type} (doc : PolicyDocument α) :
    List (PolicyEdit α) → PolicyDocument α × Except (PolicyError α) Unit
  | [] => (doc, .ok ())
  | edit :: rest =>
    match edit doc with
    | .ok doc => doc.applyEdits rest
    | .error e => (doc, .error e)

namespace Preset

/-- The presets that are always there. -/
def builtin : List (String × Preset) :=
  [("embb", ⟨1, ⟨[28], [16]⟩⟩), ("urllc", ⟨1, ⟨[12], [10]⟩⟩), ("mmtc", ⟨1, ⟨[9], [6]⟩⟩),
    ("mixed", ⟨3, ⟨[28, 12, 9], [16, 10, 6]⟩⟩)]

/-- The built-in preset of a name. -/
def builtin? (name : String) : Option Preset := builtin.lookup name

variable {α : Type}

/-- Writes one cap, after a look at its slot and at the cap itself. -/
def capEdit (d : Direction) (slot : Nat) (cap : UInt8) : PolicyEdit α := fun doc => do
  let s ← (Bounded.ofNat .sliceId slot).mapError .outOfRange
  let m ← (Bounded.ofNat .mcs cap.toNat).mapError .outOfRange
  doc.setSliceCap s m d

/-- The changes of a preset in one direction. -/
def directionEdits (p : Preset) (n : SliceCount) (d : Direction) : List (PolicyEdit α) :=
  (fun doc => doc.setNumSlices d n)
    :: (p.caps.get d).zipIdx.map (fun (cap, slot) => capEdit d slot cap)

/-- Writes a preset into a document. Gives the document afterwards, and the number of slices if
nothing was refused. -/
def apply (p : Preset) (doc : PolicyDocument α) :
    PolicyDocument α × Except (PolicyError α) SliceCount :=
  match Bounded.ofNat .sliceCount p.slices.toNat with
  | .error e => (doc, .error (.outOfRange e))
  | .ok n =>
    let (doc, done) := doc.applyEdits (Direction.all.flatMap (p.directionEdits n))
    (doc, done.map (fun _ => n))

/-- A preset in a document. -/
def read? {ν β : Type} [Source ν β] (v : ν) : Option Preset := do
  let fs ← Source.record? ["slices", "dl_max_mcs", "ul_max_mcs"] v
  let slices ← fs.required "slices" Source.u8?
  let dl ← fs.withDefault "dl_max_mcs" [] (Source.listOf? Source.u8?)
  let ul ← fs.withDefault "ul_max_mcs" [] (Source.listOf? Source.u8?)
  return ⟨slices, ⟨dl, ul⟩⟩

/-- A preset as a tree. -/
def toTree (p : Preset) : Tree α :=
  .map [("slices", .nat p.slices.toNat), ("dl_max_mcs", .nats (p.caps.dl.map UInt8.toNat)),
    ("ul_max_mcs", .nats (p.caps.ul.map UInt8.toNat))]

end Preset

end RanSlicing
