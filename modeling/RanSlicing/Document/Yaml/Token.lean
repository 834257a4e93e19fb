import RanSlicing.Document.Yaml.Scalar

/-!
# YAML tokens

A text is split into tokens from left to right. Indentation becomes structure here: a deeper column
opens a block collection and a shallower one closes it.

Whether a word is a key shows only at the colon behind it. Every place where a key may start is
therefore remembered as a `SimpleKey` with the number of the token that starts there, and at a colon
the marks of a key, and of the mapping that it opens, are put in at that number. A key has to end on
its line and within 1024 characters.
-/

namespace RanSlicing.Yaml

/-- A lexical unit. -/
inductive Token
  | streamEnd
  | version (major minor : Nat)
  | tagHandle (handle expansion : String)
  | documentStart
  | documentEnd
  | blockListStart
  | blockMapStart
  | blockEnd
  | flowListStart
  | flowListEnd
  | flowMapStart
  | flowMapEnd
  | blockEntry
  | flowEntry
  | key
  | value
  | alias (name : String)
  | anchor (name : String)
  | tag (handle suffix : String)
  | scalar (style : ScalarStyle) (text : String)
  deriving DecidableEq, Repr

/-- A place where a key may have started. -/
structure SimpleKey where
  /-- whether it still may -/
  possible : Bool
  /-- a key has to have started there, because the column is that of the block -/
  required : Bool
  /-- number of the token that starts there -/
  token : Nat
  index : Nat
  line : Nat
  column : Nat

/-- No key. -/
def SimpleKey.absent : SimpleKey := ⟨false, false, 0, 0, 0, 0⟩

/-- A text that has been split in part. -/
structure Lexer where
  input : Input
  /-- the tokens so far, the last one first -/
  tokens : List Token
  /-- their number -/
  count : Nat
  /-- indentation of the innermost block, or -1 -/
  indent : Int
  /-- indentations of the blocks around it -/
  outer : List Int
  /-- depth of brackets -/
  flow : Nat
  /-- whether a key may start here -/
  keyAllowed : Bool
  /-- the last place of a key at this depth of brackets -/
  simpleKey : SimpleKey
  /-- and at the depths around it -/
  outerKeys : List SimpleKey

namespace Lexer

/-- The start of a text. -/
def start (cs : List Char) : Lexer := ⟨.start cs, [], 0, -1, [], 0, true, .absent, []⟩

/-- Adds a token. -/
def push (l : Lexer) (t : Token) : Lexer := { l with tokens := t :: l.tokens, count := l.count + 1 }

/-- Puts a token in at a number. -/
def insert (l : Lexer) (number : Nat) (t : Token) : Lexer :=
  let after := l.count - number
  { l with tokens := l.tokens.take after ++ t :: l.tokens.drop after, count := l.count + 1 }

/-! ## Indentation -/

/-- Closes the blocks that are indented deeper than a column. -/
def unroll (l : Lexer) (column : Int) : Lexer :=
  if l.flow = 0 then
    let closed := if column < l.indent then 1 + (l.outer.takeWhile (column < ·)).length else 0
    let tokens := List.replicate closed Token.blockEnd ++ l.tokens
    match closed with
    | 0 => l
    | n + 1 => { l with
        tokens := tokens
        count := l.count + closed
        indent := (l.outer.drop n).head?.getD (-1)
        outer := l.outer.drop (n + 1) }
  else l

/-- Opens a block at a column that is deeper than the innermost one, with its token at `number` if
one is given. -/
def roll (l : Lexer) (column : Nat) (number : Option Nat) (t : Token) : Lexer :=
  if l.flow = 0 ∧ l.indent < column then
    let l := { l with indent := column, outer := l.indent :: l.outer }
    match number with
    | some n => l.insert n t
    | none => l.push t
  else l

/-! ## Keys -/

/-- Whether a place of a key lies too far back. -/
def isStale (l : Lexer) (k : SimpleKey) : Bool :=
  k.possible && (k.line < l.input.line || k.index + 1024 < l.input.index)

/-- Gives up the places of keys that lie too far back, unless a key was required there. -/
def dropStale? (l : Lexer) : Option Lexer :=
  if (l.simpleKey :: l.outerKeys).any (fun k => l.isStale k && k.required) then none
  else
    let check (k : SimpleKey) : SimpleKey := if l.isStale k then { k with possible := false } else k
    some { l with simpleKey := check l.simpleKey, outerKeys := l.outerKeys.map check }

/-- Gives up the last place of a key, unless a key was required there. -/
def dropKey? (l : Lexer) : Option Lexer :=
  if l.simpleKey.possible ∧ l.simpleKey.required then none
  else some { l with simpleKey := { l.simpleKey with possible := false } }

/-- Remembers this place as one of a key, where a key is allowed. -/
def saveKey? (l : Lexer) : Option Lexer :=
  if l.keyAllowed then
    l.dropKey?.map (fun l =>
      let i := l.input
      let required := l.flow = 0 ∧ l.indent = i.column
      { l with simpleKey := ⟨true, required, l.count, i.index, i.line, i.column⟩ })
  else some l

/-! ## Blanks -/

/-- Passes over blanks, comments and line ends. A tab is a blank except where a key may start. At
the start of the text a byte order mark is passed over. -/
def skipBlanks (fuel : Nat) (l : Lexer) : Lexer :=
  match fuel with
  | 0 => l
  | fuel + 1 =>
    let i := l.input
    let i := if i.index = 0 ∧ i.at? (fun c => c.toNat = 0xFEFF) then i.skip 1 else i
    let tabs := 0 < l.flow ∨ !l.keyAllowed
    let i := (i.skipRun (fun c => c = ' ' || (tabs && c = '\t'))).skipComment
    if i.at? isBreak then
      skipBlanks fuel { l with input := i.skipBreak, keyAllowed := l.keyAllowed || l.flow = 0 }
    else { l with input := i }

/-! ## Directives -/

/-- A number of at most nine digits. -/
def versionNumber? (i : Input) : Option (Nat × Input) :=
  let n := i.run Char.isDigit
  if n = 0 ∨ 9 < n then none
  else (Numeral.natOfDigits? 10 (i.rest.take n)).map (fun v => (v, i.skip n))

/-- The handle of a tag. Without a mark at its end it is only the local one, or the start of a
suffix; a directive accepts no such start. -/
def handle? (directive : Bool) (i : Input) : Option (List Char × Input) :=
  if i.at? (· = '!') then
    let n := 1 + (i.skip 1).run isWord
    let name := i.rest.take n
    let i := i.skip n
    if i.at? (· = '!') then some (name ++ ['!'], i.skip 1)
    else if directive ∧ name ≠ ['!'] then none
    else some (name, i)
  else none

/-- Characters of the address of a tag; brackets and commas only where it is delimited. -/
def isTagChar (delimited : Bool) (c : Char) : Bool :=
  isWord c || [';', '/', '?', ':', '@', '&', '=', '+', '$', '.', '%', '!', '~', '*', '\'', '(',
    ')'].contains c || (delimited && (c = ',' || c = '[' || c = ']'))

/-- The octet of an escape in an address. -/
def octet? : List Char → Option Nat
  | '%' :: a :: b :: _ => Numeral.natOfDigits? 16 [a, b]
  | _ => none

/-- A character that is escaped octet by octet, and the length of its escape. An encoding that is
not the shortest stands for the replacement character. -/
def octets? (cs : List Char) : Option (Char × Nat) := do
  let lead ← octet? cs
  let (width, bits, least) ←
    if lead < 0x80 then some (1, lead, 0)
    else if 0xC0 ≤ lead ∧ lead < 0xE0 then some (2, lead - 0xC0, 0x80)
    else if 0xE0 ≤ lead ∧ lead < 0xF0 then some (3, lead - 0xE0, 0x800)
    else if 0xF0 ≤ lead ∧ lead < 0xF8 then some (4, lead - 0xF0, 0x10000)
    else none
  let code ← (List.range (width - 1)).foldlM (fun code k => do
    let o ← octet? (cs.drop (3 * (k + 1)))
    if 0x80 ≤ o ∧ o < 0xC0 then some (code * 64 + (o - 0x80)) else none) bits
  some (if least ≤ code ∧ code.isValidChar then Char.ofNat code else Char.ofNat 0xFFFD, 3 * width)

/-- The address of a tag, or the part of it here. -/
def address? (fuel : Nat) (delimited : Bool) (acc : List Char) (i : Input) :
    Option (List Char × Input) :=
  match fuel, i.rest with
  | fuel + 1, c :: r =>
    if !isTagChar delimited c then some (acc.reverse, i)
    else if c = '%' then
      match octets? (c :: r) with
      | some (d, n) => address? fuel delimited (d :: acc) (i.skip n)
      | none => none
    else address? fuel delimited (c :: acc) (i.skip 1)
  | _, _ => some (acc.reverse, i)

/-- A directive: the version of the format or a handle for tags. -/
def directive? (i : Input) : Option (Token × Input) := do
  let i := i.skip 1
  let n := i.run isWord
  let name := i.rest.take n
  let i := i.skip n
  if n = 0 ∨ !startsBlank i.rest then none
  else
    let i := i.skipRun isBlank
    let (t, i) ←
      if name = ['Y', 'A', 'M', 'L'] then do
        let (major, i) ← versionNumber? i
        if !i.at? (· = '.') then none
        else
          let (minor, i) ← versionNumber? (i.skip 1)
          some (Token.version major minor, i)
      else if name = ['T', 'A', 'G'] then do
        let (handle, i) ← handle? true i
        if !i.at? isBlank then none
        else
          let i := i.skipRun isBlank
          let (address, i) ← address? (i.rest.length + 1) true [] i
          if address.isEmpty ∨ !startsBlank i.rest then none
          else some (Token.tagHandle (String.ofList handle) (String.ofList address), i)
      else none
    let i := (i.skipRun isBlank).skipComment
    if i.rest.isEmpty then some (t, i)
    else if i.at? isBreak then some (t, i.skipBreak)
    else none

/-! ## Anchors and tags -/

/-- The name of an anchor or an alias behind its indicator. -/
def name? (i : Input) : Option (String × Input) :=
  let n := i.run isWord
  let name := i.rest.take n
  let i := i.skip n
  let ends := startsBlank i.rest || i.at? (fun c =>
    ['?', ':', ',', ']', '\x7d', '%', '@', '\x60'].contains c)
  if n = 0 ∨ !ends then none else some (String.ofList name, i)

/-- A tag: an address in angle brackets, or a handle with a suffix. -/
def tag? (flow : Bool) (i : Input) : Option (Token × Input) := do
  let (handle, suffix, i) ← match i.rest with
    | '!' :: '<' :: _ => do
      let (address, i) ← address? (i.rest.length + 1) true [] (i.skip 2)
      if address.isEmpty ∨ !i.at? (· = '>') then none else some ([], address, i.skip 1)
    | _ => do
      let (handle, i) ← handle? false i
      let (address, i) ← address? (i.rest.length + 1) false [] i
      if 1 < handle.length ∧ handle.getLast? = some '!' then
        if address.isEmpty then none else some (handle, address, i)
      else
        let suffix := handle.drop 1 ++ address
        if suffix.isEmpty then some ([], ['!'], i) else some (['!'], suffix, i)
  if startsBlank i.rest ∨ (flow ∧ i.at? (· = ',')) then
    some (.tag (String.ofList handle) (String.ofList suffix), i)
  else none

/-! ## One token -/

/-- Ends all blocks; nothing that comes may be a key of them. -/
def endBlocks? (l : Lexer) : Option Lexer :=
  (l.unroll (-1)).dropKey?.map (fun l => { l with keyAllowed := false })

/-- Passes over an indicator of `n` characters and adds its token. -/
def indicator (l : Lexer) (n : Nat) (t : Token) : Lexer :=
  ({ l with input := l.input.skip n }).push t

/-- Opens brackets. -/
def openFlow? (l : Lexer) (t : Token) : Option Lexer :=
  l.saveKey?.map (fun l =>
    { l.indicator 1 t with
      flow := l.flow + 1
      outerKeys := l.simpleKey :: l.outerKeys
      simpleKey := .absent
      keyAllowed := true })

/-- Closes brackets. -/
def closeFlow? (l : Lexer) (t : Token) : Option Lexer :=
  l.dropKey?.map (fun l =>
    match l.outerKeys with
    | k :: ks => { l.indicator 1 t with
        flow := l.flow - 1, simpleKey := k, outerKeys := ks, keyAllowed := false }
    | [] => { l.indicator 1 t with keyAllowed := false })

/-- An item of a block list. -/
def blockEntry? (l : Lexer) : Option Lexer :=
  if l.flow = 0 ∧ !l.keyAllowed then none
  else (l.roll l.input.column none .blockListStart).dropKey?.map (fun l =>
    { l.indicator 1 .blockEntry with keyAllowed := true })

/-- A key marked as one. -/
def key? (l : Lexer) : Option Lexer :=
  if l.flow = 0 ∧ !l.keyAllowed then none
  else (l.roll l.input.column none .blockMapStart).dropKey?.map (fun l =>
    { l.indicator 1 .key with keyAllowed := l.flow = 0 })

/-- A value, behind the key remembered last or without one. -/
def value? (l : Lexer) : Option Lexer :=
  let k := l.simpleKey
  if k.possible then
    let l := (l.insert k.token .key).roll k.column (some k.token) .blockMapStart
    let l := { l with simpleKey := { k with possible := false }, keyAllowed := false }
    some (l.indicator 1 .value)
  else if l.flow = 0 ∧ !l.keyAllowed then none
  else
    let l := l.roll l.input.column none .blockMapStart
    some { l.indicator 1 .value with keyAllowed := l.flow = 0 }

/-- Adds the token of a part that may be a key. -/
def keyPart? (l : Lexer) (read? : Input → Option (Token × Input)) : Option Lexer := do
  let l ← l.saveKey?
  let (t, i) ← read? l.input
  some ({ l with input := i, keyAllowed := false }.push t)

/-- A scalar in quotes. -/
def quotedToken? (single : Bool) (i : Input) : Option (Token × Input) :=
  (quoted? (i.rest.length + 2) single [] (i.skip 1)).map (fun (cs, i) =>
    (.scalar .other (String.ofList cs), i))

/-- A plain scalar. -/
def plainToken? (l : Lexer) : Option Lexer := do
  let l ← l.saveKey?
  let i := l.input
  let indent := (l.indent + 1).toNat
  let (cs, broken, i) ← plain? (i.rest.length + 2) (0 < l.flow) indent [] .empty i
  some ({ l with input := i, keyAllowed := broken }.push (.scalar .plain (String.ofList cs)))

/-- A block scalar. -/
def blockToken? (l : Lexer) (literal : Bool) : Option Lexer := do
  let l ← l.dropKey?
  let (cs, i) ← block? literal l.indent (l.input.skip 1)
  let style := if literal then ScalarStyle.literal else .other
  some ({ l with input := i, keyAllowed := true }.push (.scalar style (String.ofList cs)))

/-- Characters that start no plain scalar. -/
def isIndicator (c : Char) : Bool :=
  ['-', '?', ':', ',', '[', ']', '\x7b', '\x7d', '#', '&', '*', '!', '|', '>', '\'', '"', '%', '@',
    '\x60'].contains c

/-- The token at a place that is no blank. -/
def token? (l : Lexer) (c : Char) (r : List Char) : Option Lexer :=
  let flow := 0 < l.flow
  if l.input.column = 0 ∧ c = '%' then
    l.endBlocks?.bind (fun l => (directive? l.input).map (fun (t, i) =>
      ({ l with input := i }).push t))
  else if l.input.atDocumentMark then
    l.endBlocks?.map (fun l => l.indicator 3 (if c = '-' then .documentStart else .documentEnd))
  else if c = '[' then l.openFlow? .flowListStart
  else if c = '\x7b' then l.openFlow? .flowMapStart
  else if c = ']' then l.closeFlow? .flowListEnd
  else if c = '\x7d' then l.closeFlow? .flowMapEnd
  else if c = ',' then
    l.dropKey?.map (fun l => { l.indicator 1 .flowEntry with keyAllowed := true })
  else if c = '-' ∧ startsBlank r then l.blockEntry?
  else if c = '?' ∧ (flow ∨ startsBlank r) then l.key?
  else if c = ':' ∧ (flow ∨ startsBlank r) then l.value?
  else if c = '*' then l.keyPart? (fun i => (name? (i.skip 1)).map (fun (n, i) => (.alias n, i)))
  else if c = '&' then l.keyPart? (fun i => (name? (i.skip 1)).map (fun (n, i) => (.anchor n, i)))
  else if c = '!' then l.keyPart? (tag? flow)
  else if c = '|' ∧ !flow then l.blockToken? true
  else if c = '>' ∧ !flow then l.blockToken? false
  else if c = '\'' then l.keyPart? (quotedToken? true)
  else if c = '"' then l.keyPart? (quotedToken? false)
  else if isBlankOrBreak c then none
  else if !isIndicator c ∨ (c = '-' ∧ !r.head?.any isBlank)
      ∨ (!flow ∧ (c = '?' ∨ c = ':') ∧ !startsBlank r) then l.plainToken?
  else none

/-- The end of the text. -/
def finish? (l : Lexer) : Option Lexer := l.endBlocks?.map (fun l => l.push .streamEnd)

/-- The tokens from a place on. Every token but the last takes at least one character. -/
def scan (fuel : Nat) (l : Lexer) : Option (List Token) :=
  match fuel with
  | 0 => none
  | fuel + 1 =>
    match (l.skipBlanks (l.input.rest.length + 1)).dropStale? with
    | none => none
    | some l =>
      let l := l.unroll l.input.column
      match l.input.rest with
      | [] => l.finish?.map (fun l => l.tokens.reverse)
      | c :: r =>
        match l.token? c r with
        | some l => scan fuel l
        | none => none

end Lexer

/-- The tokens of a text. -/
def Token.ofText? (s : String) : Option (List Token) :=
  let cs := s.toList
  if cs.all isAllowed then Lexer.scan (cs.length + 1) (Lexer.start cs) else none

end RanSlicing.Yaml
