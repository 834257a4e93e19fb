/-!
# Link directions

A cell has two links, downlink and uplink, which never share a resource. `PerDirection α` keeps one
value for each, so that whatever is done "in both directions" is one definition applied twice and
not two definitions that have to be kept alike.
-/

namespace RanSlicing

/-- Direction of a link, seen from the base station. -/
inductive Direction
  | dl
  | ul
  deriving DecidableEq, Repr

namespace Direction

/-- Both directions, downlink first. -/
def all : List Direction := [dl, ul]

/-- The label used in messages. -/
def label : Direction → String
  | dl => "DL"
  | ul => "UL"

/-- The name used in documents. -/
def name : Direction → String
  | dl => "dl"
  | ul => "ul"

end Direction

/-- One value for each direction. -/
structure PerDirection (α : Type u) where
  dl : α
  ul : α
  deriving DecidableEq, BEq, Repr

namespace PerDirection

variable {α : Type u} {β : Type v} {γ : Type w}

/-- The value kept for a direction. -/
def get (p : PerDirection α) : Direction → α
  | .dl => p.dl
  | .ul => p.ul

/-- Replaces the value of one direction. -/
def set (p : PerDirection α) (d : Direction) (a : α) : PerDirection α :=
  match d with
  | .dl => { p with dl := a }
  | .ul => { p with ul := a }

/-- The value that `f` gives for each direction. -/
def ofFn (f : Direction → α) : PerDirection α := ⟨f .dl, f .ul⟩

/-- The same value in both directions. -/
def both (a : α) : PerDirection α := ⟨a, a⟩

/-- Applies a function in each direction. -/
def map (f : α → β) (p : PerDirection α) : PerDirection β := ⟨f p.dl, f p.ul⟩

/-- Joins two pairs of values direction by direction. -/
def zipWith (f : α → β → γ) (p : PerDirection α) (q : PerDirection β) : PerDirection γ :=
  ⟨f p.dl q.dl, f p.ul q.ul⟩

/-- The downlink value and then the uplink value. -/
def toList (p : PerDirection α) : List α := [p.dl, p.ul]

@[simp] theorem get_set_self (p : PerDirection α) (d : Direction) (a : α) :
    (p.set d a).get d = a := by
  cases d <;> rfl

/-- Writing one direction does not touch the other. -/
theorem get_set_of_ne (p : PerDirection α) {d e : Direction} (h : e ≠ d) (a : α) :
    (p.set d a).get e = p.get e := by
  cases d <;> cases e <;> simp_all [set, get]

@[simp] theorem set_set (p : PerDirection α) (d : Direction) (a b : α) :
    (p.set d a).set d b = p.set d b := by
  cases d <;> rfl

/-- Writes to different directions do not meet. -/
theorem set_comm (p : PerDirection α) {d e : Direction} (h : d ≠ e) (a b : α) :
    (p.set e b).set d a = (p.set d a).set e b := by
  cases d <;> cases e <;> simp_all [set]

@[simp] theorem set_get (p : PerDirection α) (d : Direction) : p.set d (p.get d) = p := by
  cases d <;> rfl

@[simp] theorem get_ofFn (f : Direction → α) (d : Direction) : (ofFn f).get d = f d := by
  cases d <;> rfl

@[simp] theorem get_map (f : α → β) (p : PerDirection α) (d : Direction) :
    (p.map f).get d = f (p.get d) := by
  cases d <;> rfl

end PerDirection

end RanSlicing
