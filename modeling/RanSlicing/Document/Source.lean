import RanSlicing.Document.Tree
import RanSlicing.Radio.Quantity

/-!
# Sources

Values are read out of documents of three sorts: trees whose leaves have a kind, documents whose
leaves are bare words, and settings whose leaves convert into each other. A `Source` is anything
that can be asked for a number, a text, a list or a record; decoders are written once, against this
class, and every reading either succeeds or fails as a whole.

A record is read by the names of its fields. Unknown entries are ignored and a known name that
occurs twice is refused; what is left is a `Fields`, in which a decoder looks up one field at a
time and says what a missing one means.
-/

namespace RanSlicing

/-- The entries of a record that bear a known name. -/
abbrev Fields (ν : Type) := List (String × ν)

/-- Documents `ν` with real leaves `α` that values can be read out of. -/
class Source (ν : Type) (α : outParam Type) where
  /-- an unsigned number -/
  nat? : ν → Option Nat
  /-- a signed number -/
  int? : ν → Option Int
  real? : ν → Option α
  bool? : ν → Option Bool
  text? : ν → Option String
  /-- one of the given names -/
  choice? : List String → ν → Option String
  /-- a value that may be spelled as missing -/
  option? : ν → Option (Option ν)
  list? : ν → Option (List ν)
  /-- a record with the given field names -/
  record? : List String → ν → Option (Fields ν)
  /-- a map with arbitrary keys -/
  entries? : ν → Option (List (String × ν))

namespace Source

variable {ν α : Type} [Source ν α] {β : Type}

/-- An unsigned number below a limit. -/
def below? (limit : Nat) (v : ν) : Option Nat := (nat? v).filter (· < limit)

/-- An 8-bit number. -/
def u8? (v : ν) : Option UInt8 := (below? UInt8.size v).map UInt8.ofNat

/-- A 16-bit number. -/
def u16? (v : ν) : Option UInt16 := (below? UInt16.size v).map UInt16.ofNat

/-- A 32-bit number. -/
def u32? (v : ν) : Option UInt32 := (below? UInt32.size v).map UInt32.ofNat

/-- A 64-bit number. -/
def u64? (v : ν) : Option UInt64 := (below? UInt64.size v).map UInt64.ofNat

/-- A signed 32-bit number. -/
def i32? (v : ν) : Option Int32 :=
  ((int? v).filter (fun n => Int32.minValue.toInt ≤ n ∧ n ≤ Int32.maxValue.toInt)).map Int32.ofInt

/-- A value of a bounded quantity. -/
def bounded? (q : Quantity) (v : ν) : Option (Bounded q) :=
  (nat? v).bind (fun n => (Bounded.ofNat q n).toOption)

/-- A value that is spelled by one of the names of a table. -/
def named? (table : List (String × β)) (v : ν) : Option β :=
  (choice? (table.map Prod.fst) v).bind (fun name => table.lookup name)

/-- A list whose items are all read in the same way. -/
def listOf? (read : ν → Option β) (v : ν) : Option (List β) := (list? v).bind (·.mapM read)

/-- A value that may be spelled as missing. -/
def optional? (read : ν → Option β) (v : ν) : Option (Option β) :=
  match option? v with
  | none => none
  | some none => some none
  | some (some w) => (read w).map some

end Source

namespace Fields

variable {ν β : Type}

/-- A field that must be there. -/
def required (fs : Fields ν) (name : String) (read : ν → Option β) : Option β :=
  (fs.lookup name).bind read

/-- A field with a value of its own when it is missing. -/
def withDefault (fs : Fields ν) (name : String) (default : β) (read : ν → Option β) : Option β :=
  match fs.lookup name with
  | none => some default
  | some v => read v

/-- The entries with known names, unless one of these occurs twice. -/
def ofEntries? (names : List String) (entries : List (String × ν)) : Option (Fields ν) :=
  let known := entries.filter (fun e => names.contains e.1)
  if (known.map Prod.fst).Nodup then some known else none

/-- The fields of a record that is written as a list of values in the order of its names. -/
def ofPositions? (names : List String) (values : List ν) : Option (Fields ν) :=
  if values.length ≤ names.length then some (names.zip values) else none

end Fields

end RanSlicing
