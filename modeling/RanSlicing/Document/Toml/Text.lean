import RanSlicing.Decimal.Numeral

/-!
# TOML text

The smallest pieces of TOML over lists of characters: blanks, comments and line ends, strings in
their four styles, and keys. A reader gives what it has read and what is left of the text.
-/

namespace RanSlicing.Toml

/-- Separates words on a line. -/
def isBlank (c : Char) : Bool := c = ' ' ∨ c = '\t'

/-- A character that strings and comments may hold as it is. -/
def isText (c : Char) : Bool := c = '\t' ∨ (0x20 ≤ c.toNat ∧ c.toNat ≠ 0x7F)

/-- A character of a key without quotes. -/
def isWord (c : Char) : Bool := c.isAlphanum ∨ c = '_' ∨ c = '-'

/-- Passes over the blanks of a line. -/
def skipBlanks (cs : List Char) : List Char := cs.dropWhile isBlank

/-- Passes over a comment, up to the end of its line. -/
def skipComment : List Char → List Char
  | '#' :: r => r.dropWhile isText
  | r => r

/-- What follows a line end. -/
def newline? : List Char → Option (List Char)
  | '\n' :: r => some r
  | '\r' :: '\n' :: r => some r
  | _ => none

/-- What follows the rest of a line that holds no more than blanks and a comment. -/
def lineEnd? (cs : List Char) : Option (List Char) :=
  let cs := skipComment (skipBlanks cs)
  if cs.isEmpty then some [] else newline? cs

/-- Passes over blanks, comments and line ends. -/
def skipSpace (fuel : Nat) (cs : List Char) : List Char :=
  match fuel with
  | 0 => cs
  | fuel + 1 =>
    let cs := skipComment (skipBlanks cs)
    match newline? cs with
    | some r => skipSpace fuel r
    | none => cs

/-! ## Strings -/

/-- The character of an escape of one letter. -/
def escapeLetter? : Char → Option Char
  | 'b' => some (Char.ofNat 8)
  | 't' => some '\t'
  | 'n' => some '\n'
  | 'f' => some (Char.ofNat 12)
  | 'r' => some '\r'
  | '"' => some '"'
  | '\\' => some '\\'
  | _ => none

/-- An escape after its backslash. -/
def escape? : List Char → Option (Char × List Char)
  | [] => none
  | c :: r =>
    let width := if c = 'u' then 4 else if c = 'U' then 8 else 0
    if width = 0 then (escapeLetter? c).map (fun e => (e, r))
    else if r.length < width then none
    else
      match Numeral.natOfDigits? 16 (r.take width) with
      | some code => if code.isValidChar then some (Char.ofNat code, r.drop width) else none
      | none => none

/-- What follows a backslash at the end of a line: it takes the line end and all blanks and line
ends after it with it. -/
def foldedBreak? (cs : List Char) : Option (List Char) :=
  (newline? (skipBlanks cs)).map
    (fun r => r.dropWhile (fun c => isBlank c || c = '\n' || c = '\r'))

/-- The inside of a string up to its closing quotes. Only double quotes know escapes. A string of
several lines is closed by three quotes, and up to two more in front of them belong to it. -/
def inside? (fuel : Nat) (quote : Char) (lines : Bool) (acc : List Char) (cs : List Char) :
    Option (String × List Char) :=
  match fuel, cs with
  | 0, _ => none
  | _, [] => none
  | fuel + 1, c :: r =>
    if c = quote then
      if !lines then some (String.ofList acc.reverse, r)
      else
        let quotes := cs.takeWhile (· = quote)
        let rest := cs.drop quotes.length
        if quotes.length < 3 then inside? fuel quote lines (quotes ++ acc) rest
        else if 5 < quotes.length then none
        else some (String.ofList ((quotes.drop 3) ++ acc).reverse, rest)
    else if c = '\\' ∧ quote = '"' then
      match if lines then foldedBreak? r else none with
      | some r => inside? fuel quote lines acc r
      | none =>
        match escape? r with
        | some (e, r) => inside? fuel quote lines (e :: acc) r
        | none => none
    else
      match if lines then newline? cs else none with
      | some r => inside? fuel quote lines ('\n' :: acc) r
      | none => if isText c then inside? fuel quote lines (c :: acc) r else none

/-- A string on one line, from its opening quote on. -/
def lineString? : List Char → Option (String × List Char)
  | c :: r => if c = '"' ∨ c = '\'' then inside? (r.length + 1) c false [] r else none
  | [] => none

/-- A string, from its opening quotes on. A line end right behind three quotes is dropped. -/
def string? (cs : List Char) : Option (String × List Char) :=
  match cs with
  | a :: b :: c :: r =>
    if (a = '"' ∨ a = '\'') ∧ b = a ∧ c = a then
      let r := (newline? r).getD r
      inside? (r.length + 1) a true [] r
    else lineString? cs
  | cs => lineString? cs

/-! ## Keys -/

/-- A key without dots: a word, or a string on one line. -/
def simpleKey? (cs : List Char) : Option (String × List Char) :=
  let word := cs.takeWhile isWord
  if word.isEmpty then lineString? cs
  else some (String.ofList word, cs.drop word.length)

/-- Longest path of keys. -/
def maxDepth : Nat := 80

/-- Keys with dots between them, and the blanks behind them. -/
def keys? (fuel : Nat) (cs : List Char) : Option (List String × List Char) :=
  match fuel with
  | 0 => none
  | fuel + 1 =>
    match simpleKey? (skipBlanks cs) with
    | none => none
    | some (k, r) =>
      match skipBlanks r with
      | '.' :: r => (keys? fuel r).map (fun (ks, r) => (k :: ks, r))
      | r => some ([k], r)

/-- A key, as the path that it names. -/
def key? (cs : List Char) : Option (List String × List Char) :=
  (keys? (cs.length + 1) cs).filter (fun (ks, _) => ks.length < maxDepth)

end RanSlicing.Toml
