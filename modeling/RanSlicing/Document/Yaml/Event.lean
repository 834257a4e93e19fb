import RanSlicing.Document.Yaml.Token

/-!
# YAML events

The tokens of a text are put in order as events: scalars, aliases, and the starts and ends of lists
and maps. Values that are left out become empty plain scalars here, and tags get their full names.

The grammar is followed by a machine that holds the productions it still has to finish on a stack,
so that nesting costs no recursion. A text holds at most one document.
-/

namespace RanSlicing.Yaml

/-- A step through a document. -/
inductive Event
  | scalar (anchor tag : Option String) (style : ScalarStyle) (text : String)
  | alias (name : String)
  | listStart (anchor : Option String)
  | listEnd
  | mapStart (anchor : Option String)
  | mapEnd
  deriving DecidableEq, Repr

/-- A production that is still to be finished. -/
inductive Production
  /-- the end of the document -/
  | documentEnd
  | blockListItem
  /-- an item of a list at the column of the key that it belongs to -/
  | flushListItem
  | blockMapKey
  | blockMapValue
  | flowListItem (first : Bool)
  | pairKey
  | pairValue
  | pairEnd
  | flowMapKey (first : Bool)
  | flowMapValue
  /-- the value that is left out behind a key without a mark -/
  | flowMapNoValue
  deriving DecidableEq, Repr

/-- A document that has been read in part. -/
structure Grammar where
  tokens : List Token
  /-- the production to go on with -/
  next : Production
  /-- the ones to go on with afterwards -/
  stack : List Production
  /-- the events so far, the last one first -/
  events : List Event

/-- Meanings of the handles of tags. -/
abbrev Handles := List (String × String)

/-- The handles that need no directive. -/
def Handles.default : Handles := [("!", "!"), ("!!", "tag:yaml.org,2002:")]

namespace Grammar

/-- Adds an event and goes on with a production. -/
def emit (g : Grammar) (e : Event) (tokens : List Token) (next : Production) : Grammar :=
  { g with tokens := tokens, events := e :: g.events, next := next }

/-- Adds an event and goes on with what is on the stack. -/
def finish (g : Grammar) (e : Event) (tokens : List Token) : Grammar :=
  { g.emit e tokens (g.stack.head?.getD .documentEnd) with stack := g.stack.drop 1 }

/-- A value that is left out. -/
def omitted : Event := .scalar none none .plain ""

/-- The full name of a tag. -/
def tagName? (handles : Handles) (handle suffix : String) : Option String :=
  if handle = "" then some suffix else (handles.lookup handle).map (· ++ suffix)

/-- The anchor and the tag in front of a node, in either order. -/
def properties? (handles : Handles) (tokens : List Token) :
    Option (Option String × Option String × List Token) :=
  match tokens with
  | .anchor a :: .tag h s :: r => (tagName? handles h s).map (fun t => (some a, some t, r))
  | .anchor a :: r => some (some a, none, r)
  | .tag h s :: .anchor a :: r => (tagName? handles h s).map (fun t => (some a, some t, r))
  | .tag h s :: r => (tagName? handles h s).map (fun t => (none, some t, r))
  | r => some (none, none, r)

/-- A node. `then` is what follows it; a block collection may start here if `block` holds, and a
list at the column of its key if `flush` holds. -/
def node? (handles : Handles) (g : Grammar) (tokens : List Token) (block flush : Bool)
    (follow : Production) : Option Grammar :=
  match tokens with
  | .alias n :: r => some (g.emit (.alias n) r follow)
  | tokens =>
    match properties? handles tokens with
    | none => none
    | some (anchor, tag, tokens) =>
      let inside (e : Event) (r : List Token) (p : Production) : Grammar :=
        { g.emit e r p with stack := follow :: g.stack }
      match tokens with
      | .blockEntry :: _ =>
        if flush then some (inside (.listStart anchor) tokens .flushListItem)
        else if anchor.isSome ∨ tag.isSome then
          some (g.emit (.scalar anchor tag .plain "") tokens follow)
        else none
      | .scalar style text :: r => some (g.emit (.scalar anchor tag style text) r follow)
      | .flowListStart :: r => some (inside (.listStart anchor) r (.flowListItem true))
      | .flowMapStart :: r => some (inside (.mapStart anchor) r (.flowMapKey true))
      | t :: r =>
        if block ∧ t = .blockListStart then some (inside (.listStart anchor) r .blockListItem)
        else if block ∧ t = .blockMapStart then some (inside (.mapStart anchor) r .blockMapKey)
        else if anchor.isSome ∨ tag.isSome then
          some (g.emit (.scalar anchor tag .plain "") tokens follow)
        else none
      | [] => none

/-- A node, unless a token of `ends` shows that it is left out. -/
def nodeUnless? (handles : Handles) (g : Grammar) (tokens : List Token) (ends : List Token)
    (block flush : Bool) (follow : Production) : Option Grammar :=
  match tokens with
  | t :: _ =>
    if ends.contains t then some (g.emit omitted tokens follow)
    else node? handles g tokens block flush follow
  | [] => none

/-- Goes on with a production. -/
def step? (handles : Handles) (g : Grammar) : Option Grammar :=
  match g.next, g.tokens with
  | .documentEnd, _ => none
  | .blockListItem, .blockEntry :: r =>
    nodeUnless? handles g r [.blockEntry, .blockEnd] true false .blockListItem
  | .blockListItem, .blockEnd :: r => some (g.finish .listEnd r)
  | .blockListItem, _ => none
  | .flushListItem, .blockEntry :: r =>
    nodeUnless? handles g r [.blockEntry, .key, .value, .blockEnd] true false .flushListItem
  | .flushListItem, r => some (g.finish .listEnd r)
  | .blockMapKey, .key :: r =>
    nodeUnless? handles g r [.key, .value, .blockEnd] true true .blockMapValue
  | .blockMapKey, .blockEnd :: r => some (g.finish .mapEnd r)
  | .blockMapKey, _ => none
  | .blockMapValue, .value :: r =>
    nodeUnless? handles g r [.key, .value, .blockEnd] true true .blockMapKey
  | .blockMapValue, r => some (g.emit omitted r .blockMapKey)
  | .flowListItem _, .flowListEnd :: r => some (g.finish .listEnd r)
  | .flowListItem first, tokens =>
    let rest? := match first, tokens with
      | true, r => some r
      | false, .flowEntry :: r => some r
      | false, _ => none
    match rest? with
    | some (.key :: r) => some (g.emit (.mapStart none) r .pairKey)
    | some (.flowListEnd :: r) => some (g.finish .listEnd r)
    | some r => node? handles g r false false (.flowListItem false)
    | none => none
  | .pairKey, t :: r =>
    if [Token.value, .flowEntry, .flowListEnd].contains t then some (g.emit omitted r .pairValue)
    else node? handles g (t :: r) false false .pairValue
  | .pairKey, [] => none
  | .pairValue, .value :: r =>
    nodeUnless? handles g r [.flowEntry, .flowListEnd] false false .pairEnd
  | .pairValue, r => some (g.emit omitted r .pairEnd)
  | .pairEnd, r => some (g.emit .mapEnd r (.flowListItem false))
  | .flowMapKey _, .flowMapEnd :: r => some (g.finish .mapEnd r)
  | .flowMapKey first, tokens =>
    let rest? := match first, tokens with
      | true, r => some r
      | false, .flowEntry :: r => some r
      | false, _ => none
    match rest? with
    | some (.key :: r) =>
      nodeUnless? handles g r [.value, .flowEntry, .flowMapEnd] false false .flowMapValue
    | some (.flowMapEnd :: r) => some (g.finish .mapEnd r)
    | some r => node? handles g r false false .flowMapNoValue
    | none => none
  | .flowMapValue, .value :: r =>
    nodeUnless? handles g r [.flowEntry, .flowMapEnd] false false (.flowMapKey false)
  | .flowMapValue, r => some (g.emit omitted r (.flowMapKey false))
  | .flowMapNoValue, r => some (g.emit omitted r (.flowMapKey false))

/-- Goes on until the document ends. Between two tokens at most four values are left out. -/
def complete? (handles : Handles) (fuel : Nat) (g : Grammar) : Option Grammar :=
  if g.next = .documentEnd then some g
  else
    match fuel with
    | 0 => none
    | fuel + 1 =>
      match g.step? handles with
      | some g => complete? handles fuel g
      | none => none

end Grammar

/-- The directives in front of a document: the handles that they define and the rest. The version is
given at most once and is 1.1 or 1.2; a handle is defined at most once. -/
def directives? (versioned : Bool) (handles : Handles) : List Token →
    Option (Handles × List Token)
  | .version major minor :: r =>
    if versioned ∨ major ≠ 1 ∨ (minor ≠ 1 ∧ minor ≠ 2) then none else directives? true handles r
  | .tagHandle h e :: r =>
    if (handles.lookup h).isSome then none else directives? versioned ((h, e) :: handles) r
  | r => some (handles, r)

/-- The root of a document and everything in it: its events and the rest. -/
def documentEvents? (handles : Handles) (tokens : List Token) : Option (List Event × List Token) :=
  let g : Grammar := ⟨tokens, .documentEnd, [], []⟩
  match g.node? handles tokens true false .documentEnd with
  | none => none
  | some g => (g.complete? handles (8 * tokens.length + 8)).map (fun g => (g.events.reverse, g.tokens))

/-- Whether nothing but marks of an end is left. -/
def endsHere (tokens : List Token) : Bool :=
  tokens.dropWhile (· = .documentEnd) = [.streamEnd]

/-- The events of a text; an empty text has none. -/
def Event.ofTokens? (tokens : List Token) : Option (List Event) :=
  let checked : List Event × List Token → Option (List Event)
    | (events, rest) => if endsHere rest then some events else none
  match tokens with
  | [.streamEnd] => some []
  | tokens =>
    match directives? false [] tokens with
    | none => none
    | some (handles, .documentStart :: r) =>
      let ends := match r with
        | .version _ _ :: _ => true
        | .tagHandle _ _ :: _ => true
        | .documentStart :: _ => true
        | .documentEnd :: _ => true
        | .streamEnd :: _ => true
        | _ => false
      if ends then checked ([Grammar.omitted], r)
      else (documentEvents? (handles ++ Handles.default) r).bind checked
    | some (_, r) =>
      if r.length = tokens.length then (documentEvents? Handles.default r).bind checked else none

end RanSlicing.Yaml
