import RanSlicing.Document.Json.Token

/-!
# Reading JSON

A text is split into tokens, and the tokens are folded over the containers that are still open, so
that nesting costs no recursion. `Json.read?` accepts exactly one value with blanks around it.
-/

namespace RanSlicing.Json

/-- A container that is still open, with what it holds so far in reverse. A map knows the key of the
value to come, and whether all its keys had a value. -/
inductive Frame
  | list (done : List (Tree Float))
  | map (done : List (String × Tree Float)) (key : String) (sound : Bool)

/-- What may come next. -/
inductive Expect
  /-- a value -/
  | value
  /-- a value or the end of the list -/
  | first
  /-- a key -/
  | key
  /-- a key or the end of the map -/
  | firstKey
  /-- the colon after a key -/
  | colon
  /-- a comma or the end of the innermost container -/
  | next

/-- A text that has been read in part. -/
structure Partial where
  frames : List Frame
  expect : Expect
  /-- the value, once no container is open -/
  value : Option (Tree Float)

/-- A map whose keys all had a value; otherwise it has none itself. -/
private def closeMap (done : List (String × Tree Float)) (sound : Bool) : Tree Float :=
  if sound then .map done.reverse else .valueless

namespace Partial

/-- Nothing read yet. -/
def start : Partial := ⟨[], .value, none⟩

/-- Puts a finished value into the innermost container. -/
def put (t : Tree Float) : List Frame → Partial
  | [] => ⟨[], .next, some t⟩
  | .list done :: r => ⟨.list (t :: done) :: r, .next, none⟩
  | .map done key sound :: r => ⟨.map ((key, t) :: done) key sound :: r, .next, none⟩

/-- Takes in one token. -/
def step (p : Partial) (t : Token) : Option Partial :=
  match p.expect, t, p.frames with
  | .value, .leaf v, fs => some (put v fs)
  | .first, .leaf v, fs => some (put v fs)
  | .value, .string s, fs => some (put ((s.map Tree.text).getD .valueless) fs)
  | .first, .string s, fs => some (put ((s.map Tree.text).getD .valueless) fs)
  | .value, .openList, fs => some ⟨.list [] :: fs, .first, none⟩
  | .first, .openList, fs => some ⟨.list [] :: fs, .first, none⟩
  | .value, .openMap, fs => some ⟨.map [] "" true :: fs, .firstKey, none⟩
  | .first, .openMap, fs => some ⟨.map [] "" true :: fs, .firstKey, none⟩
  | .first, .closeList, .list done :: fs => some (put (.list done.reverse) fs)
  | .firstKey, .closeMap, .map done _ sound :: fs => some (put (closeMap done sound) fs)
  | .firstKey, .string s, .map done _ sound :: fs =>
    some ⟨.map done (s.getD "") (sound && s.isSome) :: fs, .colon, none⟩
  | .key, .string s, .map done _ sound :: fs =>
    some ⟨.map done (s.getD "") (sound && s.isSome) :: fs, .colon, none⟩
  | .colon, .colon, fs => some ⟨fs, .value, none⟩
  | .next, .comma, .list done :: fs => some ⟨.list done :: fs, .value, none⟩
  | .next, .comma, .map done key sound :: fs => some ⟨.map done key sound :: fs, .key, none⟩
  | .next, .closeList, .list done :: fs => some (put (.list done.reverse) fs)
  | .next, .closeMap, .map done _ sound :: fs => some (put (closeMap done sound) fs)
  | _, _, _ => none

end Partial

/-- The tree of a JSON text. -/
def read? (s : String) : Option (Tree Float) := do
  let cs := s.toList
  let tokens ← Token.scan cs.length [] cs
  let p ← tokens.foldlM Partial.step Partial.start
  match p.expect, p.frames with
  | .next, [] => p.value
  | _, _ => none

end RanSlicing.Json
