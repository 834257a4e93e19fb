import RanSlicing.Settings.Case

/-!
# Log filter

Which messages of the program are shown. A filter is a list of rules between commas; a rule sets a
level for everything or for the parts of the program whose name starts with a target. Of several rules
that apply to a message the one with the longest target counts, and of these the last one.
-/

namespace RanSlicing

/-- How much is shown; more with every level. -/
inductive LogLevel
  | off
  | error
  | warn
  | info
  | debug
  | trace
  deriving DecidableEq, Repr

namespace LogLevel

/-- How much a level shows. -/
def rank : LogLevel → Nat
  | off => 0
  | error => 1
  | warn => 2
  | info => 3
  | debug => 4
  | trace => 5

/-- Levels by name and by number. -/
def names : List (String × LogLevel) :=
  [("off", off), ("error", error), ("warn", warn), ("info", info), ("debug", debug),
    ("trace", trace), ("0", off), ("1", error), ("2", warn), ("3", info), ("4", debug), ("5", trace)]

/-- Reads a level in any case of letters. -/
def parse? (s : String) : Option LogLevel := names.lookup (lowercase s)

end LogLevel

/-- A rule of a filter. -/
inductive LogRule
  /-- a level for the targets that start with a text -/
  | level (target : String) (level : LogLevel)
  /-- a rule about the inside of a span; the program opens none -/
  | span
  deriving DecidableEq, Repr

/-- The rules of a filter, in order. -/
structure LogFilter where
  rules : List LogRule
  deriving DecidableEq, Repr

namespace LogRule

/-- A character of the name of a target. -/
def isTargetChar (c : Char) : Bool :=
  c.isAlphanum ∨ c = '_' ∨ c = ':' ∨ c = '-' ∨ 0x80 ≤ c.toNat

/-- One part of the subject of a rule, a target or a span in brackets, and the rest. The first
component is the target. -/
def part? (cs : List Char) : Option (Option String × List Char) :=
  match cs with
  | '[' :: r =>
    match r.dropWhile (· ≠ ']') with
    | _ :: rest => some (none, rest)
    | [] => none
  | cs =>
    let name := cs.takeWhile isTargetChar
    if name.isEmpty then none else some (some (String.ofList name), cs.drop name.length)

/-- The level behind the subject of a rule; everything is shown when there is none. -/
def tail? : List Char → Option LogLevel
  | [] => some .trace
  | '=' :: [] => some .trace
  | '=' :: r => LogLevel.parse? (String.ofList r)
  | _ => none

/-- A rule whose subject has one part or two. -/
def ofSubject? (cs : List Char) : Option LogRule :=
  match part? cs with
  | none => none
  | some (first, r) =>
    match tail? r with
    | some l => some (match first with
      | some t => .level t l
      | none => .span)
    | none =>
      match part? r with
      | some (_, r) => (tail? r).map (fun _ => .span)
      | none => none

/-- Reads a rule. -/
def parse? (s : String) : Option LogRule :=
  match LogLevel.parse? s with
  | some l => some (.level "" l)
  | none => ofSubject? s.toList

end LogRule

namespace LogFilter

/-- The texts of rules. -/
def texts (s : String) : List String := (s.splitOn ",").filter (· ≠ "")

/-- The filter of some rules; without any only errors are shown. -/
def ofRules (rules : List LogRule) : LogFilter :=
  ⟨if rules.isEmpty then [.level "" .error] else rules⟩

/-- Reads a filter all of whose rules make sense. -/
def parse? (s : String) : Option LogFilter := ((texts s).mapM LogRule.parse?).map ofRules

/-- Reads a filter and leaves out the rules that make no sense; they are given back. -/
def parseLossy (s : String) : LogFilter × List String :=
  (ofRules ((texts s).filterMap LogRule.parse?),
    (texts s).filter (fun t => (LogRule.parse? t).isNone))

/-- The level at which a target is shown: the longest rule that applies. -/
def level (f : LogFilter) (target : String) : LogLevel :=
  (f.rules.foldl (fun (best : Nat × LogLevel) r =>
    match r with
    | .level t l => if target.startsWith t ∧ best.1 ≤ t.length then (t.length, l) else best
    | .span => best) (0, .off)).2

/-- Whether a message of a target is shown. -/
def shows (f : LogFilter) (target : String) (l : LogLevel) : Bool :=
  l.rank ≤ (f.level target).rank

end LogFilter

end RanSlicing
