import RanSlicing.Document.Toml.Scalar
import RanSlicing.Document.Toml.Table

/-!
# Reading TOML

A document is read line by line: a header says which table the following values belong to, and a
value stands behind its key and an equals sign. Lists may go on over several lines, tables inside a
value may not.
-/

namespace RanSlicing.Toml

mutual

/-- A value and the rest of the text. `depth` lists and tables may still be opened inside it. -/
def value? (fuel depth : Nat) (cs : List Char) : Option (Tree Float × List Char) :=
  match fuel with
  | 0 => none
  | fuel + 1 =>
    match cs with
    | '"' :: _ => (string? cs).map (fun (s, r) => (.text s, r))
    | '\'' :: _ => (string? cs).map (fun (s, r) => (.text s, r))
    | '[' :: r =>
      match depth with
      | 0 => none
      | depth + 1 => items? fuel depth [] r
    | '\x7b' :: r =>
      match depth with
      | 0 => none
      | depth + 1 =>
        match skipBlanks r with
        | '\x7d' :: r => some (.map [], r)
        | r => pairs? fuel depth [] r
    | cs =>
      let w := word cs
      (scalar? w).map (fun t => (t, cs.drop w.length))

/-- The items of a list up to its end. The last one may have a comma behind it. -/
def items? (fuel depth : Nat) (acc : List (Tree Float)) (cs : List Char) :
    Option (Tree Float × List Char) :=
  match fuel with
  | 0 => none
  | fuel + 1 =>
    match skipSpace (cs.length + 1) cs with
    | ']' :: r => some (.list acc.reverse, r)
    | cs =>
      match value? fuel depth cs with
      | none => none
      | some (t, r) =>
        match skipSpace (r.length + 1) r with
        | ',' :: r => items? fuel depth (t :: acc) r
        | ']' :: r => some (.list (t :: acc).reverse, r)
        | _ => none

/-- The pairs of a table inside a value up to its end. -/
def pairs? (fuel depth : Nat) (acc : Entries) (cs : List Char) : Option (Tree Float × List Char) :=
  match fuel with
  | 0 => none
  | fuel + 1 =>
    match key? cs with
    | some (keys, '=' :: r) =>
      match value? fuel depth (skipBlanks r) with
      | none => none
      | some (t, r) =>
        match acc.insertDotted? keys t, skipBlanks r with
        | some acc, ',' :: r => pairs? fuel depth acc r
        | some acc, '\x7d' :: r => some (.map (entryTrees acc), r)
        | _, _ => none
    | _ => none

end

/-- The part of a document that has been read: the root table and the path of the last header. -/
structure Draft where
  root : Entries
  header : List String

/-- Reads one line, which may be a value over several lines. -/
def line? (d : Draft) (cs : List Char) : Option (Draft × List Char) :=
  let headed? (close : List Char → Option (List Char))
      (open? : Entries → List String → Option Entries) (r : List Char) :
      Option (Draft × List Char) := do
    let (keys, r) ← key? r
    let r ← (close r).bind lineEnd?
    let root ← open? d.root keys
    some (⟨root, keys⟩, r)
  match skipBlanks cs with
  | '[' :: '[' :: r =>
    headed? (fun | ']' :: ']' :: r => some r | _ => none) Entries.append? r
  | '[' :: r => headed? (fun | ']' :: r => some r | _ => none) Entries.define? r
  | cs =>
    match lineEnd? cs with
    | some r => some (d, r)
    | none => do
      let (keys, r) ← key? cs
      let r ← after? '=' r
      let (t, r) ← value? (r.length + 1) (maxDepth - 1) (skipBlanks r)
      let r ← lineEnd? r
      let root ← d.root.insertUnder? d.header keys t
      some (⟨root, d.header⟩, r)

/-- Reads lines up to the end of the text. -/
def lines? (fuel : Nat) (d : Draft) (cs : List Char) : Option Draft :=
  match fuel, cs with
  | _, [] => some d
  | 0, _ => none
  | fuel + 1, cs =>
    match line? d cs with
    | some (d, r) => lines? fuel d r
    | none => none

/-- The document in a text. A mark of the byte order in front of it is passed over. -/
def read? (s : String) : Option (Tree Float) :=
  let cs := match s.toList with
    | c :: r => if c.toNat = 0xFEFF then r else c :: r
    | [] => []
  (lines? (cs.length + 1) ⟨[], []⟩ cs).map (fun d => .map (entryTrees d.root))

end RanSlicing.Toml
