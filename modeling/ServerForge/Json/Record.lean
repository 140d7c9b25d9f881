import ServerForge.Json.Skip

/-! Typed contents. A `Codec` reads one type both from a text and from a value that has been
read already; a `Record` describes a structure by its fields, and gives such a codec. A record
may be written as an object or as a list of its fields in order. -/
namespace ServerForge.Json

/-- The two ways to read a type. From a text, `room` bounds the depth that is left. -/
structure Codec (α : Type) where
  read : Nat → Reader α
  ofJson : Json → Except Mismatch α

/-- What the text holds in place of what was expected; lists and objects are not entered. -/
def readFound : Reader Found
  | 'n' :: rest => do
    let ((), rest) ← readIdent ['u', 'l', 'l'] rest
    return (.null, rest)
  | 't' :: rest => do
    let ((), rest) ← readIdent ['r', 'u', 'e'] rest
    return (.bool true, rest)
  | 'f' :: rest => do
    let ((), rest) ← readIdent ['a', 'l', 's', 'e'] rest
    return (.bool false, rest)
  | '-' :: rest => do
    let (n, rest) ← readNumber true rest
    return (.num n, rest)
  | '"' :: rest => do
    let (text, rest) ← readString rest
    return (.str (String.ofList text), rest)
  | '[' :: rest => return (.sequence, '[' :: rest)
  | '\x7b' :: rest => return (.map, '\x7b' :: rest)
  | [] => throw (.atNext .valueExpected [])
  | c :: rest =>
    if Text.isDigit c then do
      let (n, rest) ← readNumber false (c :: rest)
      return (.num n, rest)
    else throw (.atNext .valueExpected (c :: rest))

/-- The fault of a text that does not begin with what was expected. -/
def wrongTypeFault (expected : String) (cs : List Char) : Fault :=
  match cs with
  | [] => ⟨.endInValue, 0⟩
  | cs =>
    match readFound cs with
    | .ok (found, rest) => .before (.mismatch (.wrongType found expected)) rest
    | .error fault => fault

/-- One level deeper, if there is room for it. -/
def enter (room : Nat) (cs : List Char) : Except Fault Nat :=
  match room with
  | 0 => throw (.atNext .tooDeep cs)
  | room + 1 => return room

namespace Codec

def text : Codec String where
  read _ cs :=
    match skipSpace cs with
    | '"' :: rest => do
      let (value, rest) ← readString rest
      return (String.ofList value, rest)
    | rest => throw (wrongTypeFault "a string" rest)
  ofJson
    | .str value => return value
    | v => throw (.wrongType (.of v) "a string")

/-- `null` stands for an absent value. -/
def optional (codec : Codec α) : Codec (Option α) where
  read room cs :=
    match skipSpace cs with
    | 'n' :: rest => do
      let ((), rest) ← readIdent ['u', 'l', 'l'] rest
      return (none, rest)
    | rest => do
      let (value, rest) ← codec.read room rest
      return (some value, rest)
  ofJson
    | .null => return none
    | v => some <$> codec.ofJson v

def list (codec : Codec α) : Codec (List α) where
  read room cs :=
    match skipSpace cs with
    | '[' :: rest => do
      let room ← enter room ('[' :: rest)
      readListBody (codec.read room) rest
    | rest => throw (wrongTypeFault "a sequence" rest)
  ofJson
    | .arr items => items.mapM codec.ofJson
    | v => throw (.wrongType (.of v) "a sequence")

def members : Codec Members where
  read room cs :=
    match skipSpace cs with
    | '\x7b' :: rest => do
      let room ← enter room ('\x7b' :: rest)
      readObjectBody (readValue room) rest
    | rest => throw (wrongTypeFault "a map" rest)
  ofJson
    | .obj members => return members
    | v => throw (.wrongType (.of v) "a map")

def any : Codec Json where
  read room cs := readValue room cs
  ofJson v := return v

end Codec

/-- Whether a field may be left out: never, as a key of an object, or also at the end of a
list. A field left out keeps the value with which the record starts. -/
inductive Presence where
  | required
  | optionalKey
  | optional
  deriving DecidableEq

/-- A field of the structure `σ`: its key, other keys that stand for it, and how a value is
read and put into the structure. -/
structure Field (σ : Type) where
  name : String
  aliases : List String
  presence : Presence
  read : Nat → Reader (σ → σ)
  ofJson : Json → Except Mismatch (σ → σ)

def Field.of (name : String) (aliases : List String) (presence : Presence) (codec : Codec α)
    (set : α → σ → σ) : Field σ where
  name := name
  aliases := aliases
  presence := presence
  read room cs := do
    let (value, rest) ← codec.read room cs
    return (set value, rest)
  ofJson v := set <$> codec.ofJson v

structure Record (σ : Type) where
  name : String
  start : σ
  fields : List (Field σ)

namespace Record

def expected (record : Record σ) : String := "struct " ++ record.name

def field? (record : Record σ) (key : String) : Option (Field σ) :=
  record.fields.find? fun field => field.name == key || field.aliases.contains key

/-- A list holds the fields that may not be left out there. -/
def tooShort (record : Record σ) (length : Nat) : Mismatch :=
  let count := record.fields.length
  .wrongLength length (record.expected ++ " with " ++ Text.numeral count ++
    (if count = 1 then " element" else " elements"))

def missing? (record : Record σ) (seen : List String) : Option Mismatch :=
  (record.fields.find? fun field => field.presence = .required && !seen.contains field.name).map
    fun field => .missingField field.name

/-! ## From a value -/

def ofMembers (record : Record σ) : σ → List String → Members → Except Mismatch σ
  | s, seen, [] =>
    match record.missing? seen with
    | some mismatch => throw mismatch
    | none => return s
  | s, seen, (key, v) :: rest =>
    match record.field? key with
    | none => record.ofMembers s seen rest
    | some field =>
      if seen.contains field.name then throw (.duplicateField field.name)
      else do
        let set ← field.ofJson v
        record.ofMembers (set s) (field.name :: seen) rest

/-- The fields in order; `taken` counts the items taken so far. -/
def ofItems (record : Record σ) (length : Nat) :
    σ → Nat → List (Field σ) → List Json → Except Mismatch σ
  | s, _, [], [] => return s
  | _, _, [], _ :: _ => throw (.wrongLength length "fewer elements in array")
  | s, taken, field :: fields, [] =>
    if field.presence = .optional then record.ofItems length s taken fields []
    else throw (record.tooShort taken)
  | s, taken, field :: fields, v :: rest => do
    let set ← field.ofJson v
    record.ofItems length (set s) (taken + 1) fields rest

def ofJson (record : Record σ) : Json → Except Mismatch σ
  | .obj members => record.ofMembers record.start [] members
  | .arr items => record.ofItems items.length record.start 0 record.fields items
  | v => throw (.wrongType (.of v) record.expected)

/-! ## From a text -/

/-- A fault of the whole object: space and a closing brace that follow count as read. -/
def objectFault (mismatch : Mismatch) (cs : List Char) : Fault :=
  match skipSpace cs with
  | '\x7d' :: rest => .before (.mismatch mismatch) rest
  | rest => .before (.mismatch mismatch) rest

/-- A fault of the whole list: the closing bracket counts as read. -/
def listFault (mismatch : Mismatch) (cs : List Char) : Fault :=
  match skipSpace cs with
  | ']' :: rest => .before (.mismatch mismatch) rest
  | rest => .before (.mismatch mismatch) rest

def readFields (record : Record σ) (room : Nat) :
    Nat → Bool → σ → List String → Reader (σ × List String)
  | 0, _, _, _, _ => throw ⟨.endInObject, 0⟩
  | bound + 1, first, s, seen, cs => do
    match ← nextKey first cs with
    | none => return ((s, seen), cs)
    | some rest =>
      let (key, rest) ← readString rest
      match record.field? (String.ofList key) with
      | none =>
        let ((), rest) ← readColon rest
        let ((), rest) ← skipValue rest
        record.readFields room bound false s seen rest
      | some field =>
        if seen.contains field.name then throw (objectFault (.duplicateField field.name) rest)
        else
          let ((), rest) ← readColon rest
          let (set, rest) ← field.read room rest
          record.readFields room bound false (set s) (field.name :: seen) rest

def readObject (record : Record σ) (room : Nat) : Reader σ := fun cs => do
  let ((s, seen), rest) ← record.readFields room (cs.length + 1) true record.start [] cs
  match record.missing? seen with
  | some mismatch => throw (objectFault mismatch rest)
  | none =>
    let ((), rest) ← closeObject rest
    return (s, rest)

def readInOrder (record : Record σ) (room : Nat) :
    Bool → σ → Nat → List (Field σ) → Reader σ
  | _, s, _, [], cs => return (s, cs)
  | first, s, taken, field :: fields, cs => do
    match ← nextItem first cs with
    | none =>
      if field.presence = .optional then record.readInOrder room first s taken fields cs
      else throw (listFault (record.tooShort taken) cs)
    | some rest =>
      let (set, rest) ← field.read room rest
      record.readInOrder room false (set s) (taken + 1) fields rest

def readList (record : Record σ) (room : Nat) : Reader σ := fun cs => do
  let (s, rest) ← record.readInOrder room true record.start 0 record.fields cs
  let ((), rest) ← closeList rest
  return (s, rest)

def read (record : Record σ) (room : Nat) : Reader σ := fun cs =>
  match skipSpace cs with
  | '\x7b' :: rest => do
    let room ← enter room ('\x7b' :: rest)
    record.readObject room rest
  | '[' :: rest => do
    let room ← enter room ('[' :: rest)
    record.readList room rest
  | rest => throw (wrongTypeFault record.expected rest)

def codec (record : Record σ) : Codec σ := ⟨record.read, record.ofJson⟩

/-- The record written in a whole text. -/
def parse (record : Record σ) (text : String) : Except Fault σ :=
  readWhole (record.read depthLimit) text.toList

end Record

end ServerForge.Json
