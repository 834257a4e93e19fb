import RanSlicing.Document.Yaml.Event

/-!
# YAML nodes

The events of a document form a tree of nodes. An alias stays a leaf: it names an entry of the
table of anchored nodes, which is complete only when the whole document has been read, and it is
followed when it is looked at. A node may thus contain itself; reading it is finite all the same,
because every decoder looks only as deep as its type.

Aliases are resolved through numbers. A new anchor gets as its number how many names there were
before it; so one that gives a name a new meaning shares its number with the next new name, and the
later of the two nodes wins.
-/

namespace RanSlicing.Yaml

/-- A part of a document. -/
inductive Node
  /-- the root of an empty text -/
  | void
  | scalar (tag : Option String) (style : ScalarStyle) (text : String)
  | alias (number : Nat)
  | list (items : List Node)
  | map (entries : List (Node × Node))

instance : Inhabited Node := ⟨.void⟩

/-- A collection that is still open, with the number of its anchor and what it holds in reverse. -/
inductive Open
  | list (serial : Option Nat) (done : List Node)
  | map (serial : Option Nat) (done : List (Node × Node)) (key : Option Node)

/-- A document that has been put together in part. Anchored nodes are told apart by a serial number
in the order of their starts. -/
structure Builder where
  frames : List Open
  root : Option Node
  /-- numbers of the names of anchors -/
  names : List (String × Nat)
  /-- for each number the serial of the node that it stands for, the latest first -/
  numbers : List (Nat × Nat)
  /-- the anchored nodes by their serial -/
  nodes : List (Nat × Node)

namespace Builder

/-- Nothing put together yet. -/
def start : Builder := ⟨[], none, [], [], []⟩

/-- Registers an anchor; gives its serial. -/
def anchor (b : Builder) : Option String → Builder × Option Nat
  | none => (b, none)
  | some name =>
    let number := b.names.length
    let serial := b.numbers.length
    let names :=
      if (b.names.lookup name).isSome then
        b.names.map (fun e => if e.1 = name then (name, number) else e)
      else b.names ++ [(name, number)]
    ({ b with names := names, numbers := (number, serial) :: b.numbers }, some serial)

/-- Puts a finished node into the innermost collection. -/
def put (b : Builder) (n : Node) : Builder :=
  match b.frames with
  | [] => { b with root := some n }
  | .list s done :: fs => { b with frames := .list s (n :: done) :: fs }
  | .map s done none :: fs => { b with frames := .map s done (some n) :: fs }
  | .map s done (some k) :: fs => { b with frames := .map s ((k, n) :: done) none :: fs }

/-- Puts a finished node with an anchor into the table and into the innermost collection. -/
def putAnchored (b : Builder) (serial : Option Nat) (n : Node) : Builder :=
  match serial with
  | some s => ({ b with nodes := (s, n) :: b.nodes }).put n
  | none => b.put n

/-- Takes in one event. -/
def step? (b : Builder) : Event → Option Builder
  | .scalar a tag style text =>
    let (b, s) := b.anchor a
    some (b.putAnchored s (.scalar tag style text))
  | .alias name => (b.names.lookup name).map (fun n => b.put (.alias n))
  | .listStart a =>
    let (b, s) := b.anchor a
    some { b with frames := .list s [] :: b.frames }
  | .mapStart a =>
    let (b, s) := b.anchor a
    some { b with frames := .map s [] none :: b.frames }
  | .listEnd =>
    match b.frames with
    | .list s done :: fs => some (({ b with frames := fs }).putAnchored s (.list done.reverse))
    | _ => none
  | .mapEnd =>
    match b.frames with
    | .map s done none :: fs => some (({ b with frames := fs }).putAnchored s (.map done.reverse))
    | _ => none

end Builder

/-- A place in a document: the nodes that aliases stand for, and the node at the place. -/
structure Document where
  anchors : List (Nat × Node)
  node : Node

/-- The document of a sequence of events. -/
def Document.ofEvents? (events : List Event) : Option Document :=
  match events with
  | [] => some ⟨[], .void⟩
  | events =>
    match events.foldlM Builder.step? Builder.start with
    | none => none
    | some b =>
      let anchors := b.numbers.filterMap (fun (number, serial) =>
        (b.nodes.lookup serial).map (fun n => (number, n)))
      b.root.map (fun n => ⟨anchors, n⟩)

/-- The document in a YAML text. -/
def read? (s : String) : Option Document :=
  ((Token.ofText? s).bind Event.ofTokens?).bind Document.ofEvents?

end RanSlicing.Yaml
