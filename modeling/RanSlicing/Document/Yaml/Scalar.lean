import RanSlicing.Document.Yaml.Input
import RanSlicing.Decimal.Numeral

/-!
# YAML scalars

The four ways of writing a scalar, as readers from the place where it starts: plain, in single
quotes, in double quotes and as a block of lines. Each gives the text that the scalar stands for
and the place behind it, or nothing if it is written wrongly.

Except in a block, the end of a line inside a scalar is folded: a single one counts as a space, and
of several the first is dropped.
-/

namespace RanSlicing.Yaml

/-- How a scalar is written, as far as its meaning depends on it. -/
inductive ScalarStyle
  | plain
  | literal
  | other
  deriving DecidableEq, Repr

/-! ## Folding -/

/-- The blanks and line ends between two words. -/
structure Gap where
  /-- blanks before the first line end -/
  blanks : List Char
  /-- the first line end -/
  first : List Char
  /-- the line ends after it -/
  further : List Char
  /-- whether a line ended at all -/
  broken : Bool

namespace Gap

/-- Nothing between two words. -/
def empty : Gap := ⟨[], [], [], false⟩

/-- What a gap contributes to the text around it. -/
def text (g : Gap) : List Char :=
  if g.broken then
    if g.first = ['\n'] then (if g.further.isEmpty then [' '] else g.further)
    else g.first ++ g.further
  else g.blanks

/-- Reads a gap. In a plain scalar a tab before column `limit` of a line is refused. -/
def read? (fuel : Nat) (limit : Nat) (g : Gap) (i : Input) : Option (Gap × Input) :=
  match fuel, i.rest with
  | 0, _ => none
  | _, [] => some (g, i)
  | fuel + 1, c :: _ =>
    if isBlank c then
      if g.broken then
        if c = '\t' ∧ i.column < limit then none else read? fuel limit g (i.skip 1)
      else read? fuel limit { g with blanks := g.blanks ++ [c] } (i.skip 1)
    else if isBreak c then
      if g.broken then
        read? fuel limit { g with further := g.further ++ i.breakText } i.skipBreak
      else read? fuel limit { g with first := i.breakText, broken := true } i.skipBreak
    else some (g, i)

end Gap

/-! ## Plain scalars -/

/-- Characters that end a plain scalar inside brackets. -/
def isFlowIndicator (c : Char) : Bool :=
  c = ',' ∨ c = '[' ∨ c = ']' ∨ c = '\x7b' ∨ c = '\x7d'

/-- The word of a plain scalar at the start of a text. A colon ends it when a blank follows; inside
brackets a colon before an indicator is refused. -/
def plainWord? (flow : Bool) : List Char → Option (List Char)
  | [] => some []
  | c :: r =>
    if isBlankOrBreak c then some []
    else if flow ∧ c = ':' ∧ r.head?.any (fun d => isFlowIndicator d || d = '?') then none
    else if (c = ':' ∧ startsBlank r) ∨ (flow ∧ isFlowIndicator c) then some []
    else (plainWord? flow r).map (c :: ·)

/-- A plain scalar whose text so far is `acc`. Words go on over the gap `g` as long as the next one
is indented by `indent`. The last component says whether the scalar ended after a line end. -/
def plain? (fuel : Nat) (flow : Bool) (indent : Nat) (acc : List Char) (g : Gap) (i : Input) :
    Option (List Char × Bool × Input) :=
  match fuel with
  | 0 => none
  | fuel + 1 =>
    if i.atDocumentMark ∨ i.at? (· = '#') then some (acc, g.broken, i)
    else
      match plainWord? flow i.rest with
      | none => none
      | some [] => some (acc, g.broken, i)
      | some word =>
        let acc := acc ++ g.text ++ word
        let i := i.skip word.length
        if i.at? isBlankOrBreak then
          match Gap.read? (i.rest.length + 1) indent .empty i with
          | none => none
          | some (g, i) =>
            if !flow ∧ i.column < indent then some (acc, g.broken, i)
            else plain? fuel flow indent acc g i
        else some (acc, false, i)

/-! ## Quoted scalars -/

/-- The character of an escape of one letter. -/
def escape? : Char → Option Char
  | '0' => some (Char.ofNat 0)
  | 'a' => some (Char.ofNat 7)
  | 'b' => some (Char.ofNat 8)
  | 't' => some '\t'
  | '\t' => some '\t'
  | 'n' => some '\n'
  | 'v' => some (Char.ofNat 11)
  | 'f' => some (Char.ofNat 12)
  | 'r' => some '\r'
  | 'e' => some (Char.ofNat 27)
  | ' ' => some ' '
  | '"' => some '"'
  | '/' => some '/'
  | '\\' => some '\\'
  | 'N' => some (Char.ofNat 0x85)
  | '_' => some (Char.ofNat 0xA0)
  | 'L' => some (Char.ofNat 0x2028)
  | 'P' => some (Char.ofNat 0x2029)
  | _ => none

/-- Number of hexadecimal digits after an escape that takes some. -/
def escapeDigits? : Char → Option Nat
  | 'x' => some 2
  | 'u' => some 4
  | 'U' => some 8
  | _ => none

/-- An escape after its backslash: its character and its length. -/
def escaped? : List Char → Option (Char × Nat)
  | [] => none
  | c :: r =>
    match escapeDigits? c with
    | none => (escape? c).map (fun e => (e, 1))
    | some n =>
      let digits := r.take n
      if digits.length < n then none
      else
        match Numeral.natOfDigits? 16 digits with
        | some code =>
          if (0xD800 ≤ code ∧ code ≤ 0xDFFF) ∨ 0x10FFFF < code then none
          else some (Char.ofNat code, n + 1)
        | none => none

/-- The word at the start of the inside of quotes, and the place behind it. An escaped line end
ends the word; the last component tells so. -/
def quotedWord? (fuel : Nat) (single : Bool) (acc : List Char) (i : Input) :
    Option (List Char × Bool × Input) :=
  match fuel, i.rest with
  | 0, _ => none
  | _, [] => some (acc.reverse, false, i)
  | fuel + 1, c :: r =>
    if isBlankOrBreak c then some (acc.reverse, false, i)
    else if single then
      if c = '\'' then
        if r.head? = some '\'' then quotedWord? fuel single (c :: acc) (i.skip 2)
        else some (acc.reverse, false, i)
      else quotedWord? fuel single (c :: acc) (i.skip 1)
    else if c = '"' then some (acc.reverse, false, i)
    else if c = '\\' then
      if r.head?.any isBreak then some (acc.reverse, true, (i.skip 1).skipBreak)
      else
        match escaped? r with
        | some (e, n) => quotedWord? fuel single (e :: acc) (i.skip (n + 1))
        | none => none
    else quotedWord? fuel single (c :: acc) (i.skip 1)

/-- The inside of quotes from a place on, and the place behind the closing quote. -/
def quoted? (fuel : Nat) (single : Bool) (acc : List Char) (i : Input) :
    Option (List Char × Input) :=
  match fuel with
  | 0 => none
  | fuel + 1 =>
    if i.atDocumentMark ∨ i.rest.isEmpty then none
    else
      match quotedWord? (i.rest.length + 1) single [] i with
      | none => none
      | some (word, escapedBreak, i) =>
        let acc := acc ++ word
        if i.at? (· = (if single then '\'' else '"')) then some (acc, i.skip 1)
        else
          match Gap.read? (i.rest.length + 1) 0 { Gap.empty with broken := escapedBreak } i with
          | none => none
          | some (g, i) => quoted? fuel single (acc ++ g.text) i

/-! ## Blocks -/

/-- What happens to the line ends behind a block. -/
inductive Chomp
  | strip
  | clip
  | keep
  deriving DecidableEq

/-- The head of a block: its chomping and its indentation, in either order. -/
def blockHead? (i : Input) : Option (Chomp × Option Nat × Input) :=
  let chomp? (i : Input) : Option Chomp × Input :=
    match i.rest with
    | '+' :: _ => (some .keep, i.skip 1)
    | '-' :: _ => (some .strip, i.skip 1)
    | _ => (none, i)
  let digit? (i : Input) : Option (Option Nat × Input) :=
    match i.rest with
    | c :: _ =>
      if c = '0' then none
      else if c.isDigit then some (some (c.toNat - 48), i.skip 1)
      else some (none, i)
    | [] => some (none, i)
  let (before, i) := chomp? i
  match digit? i with
  | none => none
  | some (increment, i) =>
    let (after, i) := if before.isNone ∧ increment.isSome then chomp? i else (none, i)
    let i := (i.skipRun isBlank).skipComment
    if i.rest.isEmpty then some ((before.or after).getD .clip, increment, i)
    else if i.at? isBreak then some ((before.or after).getD .clip, increment, i.skipBreak)
    else none

/-- The empty lines at a place in a block, up to the indentation `indent` (zero when it is not known
yet): their line ends, the widest indentation seen and the place behind them. -/
def blockBreaks? (fuel : Nat) (indent : Nat) (breaks : List Char) (widest : Nat) (i : Input) :
    Option (List Char × Nat × Input) :=
  match fuel with
  | 0 => none
  | fuel + 1 =>
    let spaces := i.run (· = ' ')
    let i := i.skip (if indent = 0 then spaces else min spaces (indent - i.column))
    let widest := max widest i.column
    if (indent = 0 ∨ i.column < indent) ∧ i.at? (· = '\t') then none
    else if i.at? isBreak then
      blockBreaks? fuel indent (breaks ++ i.breakText) widest i.skipBreak
    else some (breaks, widest, i)

/-- The lines of a block that are indented by `indent`. `pending` is the end of the line before, and
`breaks` are the empty lines after it. -/
def blockLines? (fuel : Nat) (literal : Bool) (indent : Nat) (acc pending breaks : List Char)
    (blankBefore : Bool) (i : Input) : Option (List Char × List Char × List Char × Input) :=
  match fuel with
  | 0 => none
  | fuel + 1 =>
    if i.column ≠ indent ∨ i.rest.isEmpty then some (acc, pending, breaks, i)
    else
      let blankHere := i.at? isBlank
      let joined :=
        if !literal ∧ pending = ['\n'] ∧ !blankBefore ∧ !blankHere then
          (if breaks.isEmpty then [' '] else [])
        else pending
      let line := i.rest.takeWhile (fun c => !isBreak c)
      let i := i.skip line.length
      let acc := acc ++ joined ++ breaks ++ line
      let pending := i.breakText
      let i := if i.rest.isEmpty then i else i.skipBreak
      match blockBreaks? (i.rest.length + 1) indent [] 0 i with
      | none => none
      | some (breaks, _, i) => blockLines? fuel literal indent acc pending breaks blankHere i

/-- A block behind its indicator. The indentation of the collection around it is `parent`, negative
at the top. -/
def block? (literal : Bool) (parent : Int) (i : Input) : Option (List Char × Input) := do
  let (chomp, increment, i) ← blockHead? i
  let fuel := i.rest.length + 1
  let known := match increment with
    | some n => (if 0 ≤ parent then parent.toNat + n else n)
    | none => 0
  let (breaks, widest, i) ← blockBreaks? fuel known [] 0 i
  let indent := if known = 0 then max (max widest (parent + 1).toNat) 1 else known
  let (text, pending, breaks, i) ← blockLines? fuel literal indent [] [] breaks false i
  let text := if chomp = .strip then text else text ++ pending
  some (if chomp = .keep then text ++ breaks else text, i)

end RanSlicing.Yaml
