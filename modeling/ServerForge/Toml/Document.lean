import ServerForge.Toml.Number
import ServerForge.Toml.Table

/-! Values, statements and whole documents. -/
namespace ServerForge.Toml

/-- A key has fewer parts than this, and values fewer levels. -/
def depthLimit : Nat := 80

def isBare (c : Char) : Bool :=
  ('a' ≤ c && c ≤ 'z') || ('A' ≤ c && c ≤ 'Z') || ('0' ≤ c && c ≤ '9') || c == '-' || c == '_'

/-- One part of a key, bare or quoted. -/
def readKeyPart : Reader String
  | '"' :: rest => (readBasic rest).map fun (cs, rest) => (String.ofList cs, rest)
  | '\x27' :: rest => (readLiteral rest).map fun (cs, rest) => (String.ofList cs, rest)
  | cs =>
    let bare := cs.takeWhile isBare
    if bare.isEmpty then none else some (String.ofList bare, cs.dropWhile isBare)

/-- The parts of a key between dots, with space around each of them. -/
def readKeyParts : Nat → Reader (List String)
  | 0, _ => none
  | bound + 1, cs => do
    let (part, rest) ← readKeyPart (skipSpace cs)
    match skipSpace rest with
    | '.' :: rest =>
      let (parts, rest) ← readKeyParts bound rest
      return (part :: parts, rest)
    | rest => return ([part], rest)

/-- The parts of a key: those before the last, and the last. -/
structure Key where
  path : List String
  last : String

def readKey : Reader Key := fun cs => do
  let (parts, rest) ← readKeyParts (cs.length + 1) cs
  let last ← parts.getLast?
  if parts.length < depthLimit then return (⟨parts.dropLast, last⟩, rest) else none

def readEquals (cs : List Char) : Option (List Char) :=
  match cs with
  | '=' :: rest => some (skipSpace rest)
  | _ => none

/-- From an item of an array on to the array's end. -/
def readArrayItems (value : Reader Value) : Nat → List Char → Option (List Char)
  | 0, _ => none
  | bound + 1, cs => do
    match ← skipBreaks false cs with
    | ']' :: rest => return rest
    | cs =>
      let (_, rest) ← value cs
      match ← skipBreaks false rest with
      | ',' :: rest => readArrayItems value bound rest
      | ']' :: rest => return rest
      | _ => none

/-- From a key of an inline table on to the table's end. -/
def readInlineItems (value : Reader Value) : Nat → Table → List Char → Option (List Char)
  | 0, _, _ => none
  | bound + 1, table, cs => do
    let (key, rest) ← readKey cs
    let (v, rest) ← value (← readEquals rest)
    let table ← table.add key.path key.last v
    match skipSpace rest with
    | ',' :: rest => readInlineItems value bound table rest
    | '\x7d' :: rest => return rest
    | _ => none

/-- A value with fewer than `room` further levels. -/
def readValue (room : Nat) : Reader Value := fun cs =>
  let other (rest : Option (List Char)) : Option (Value × List Char) :=
    rest.map fun rest => (.other, rest)
  match cs with
  | '"' :: _ => (readText cs).map fun (text, rest) => (.text (String.ofList text), rest)
  | '\x27' :: _ => (readText cs).map fun (text, rest) => (.text (String.ofList text), rest)
  | '[' :: rest =>
    match room with
    | 0 => none
    | room + 1 => other (readArrayItems (readValue room) (rest.length + 1) rest)
  | '\x7b' :: rest =>
    match room with
    | 0 => none
    | room + 1 =>
      match skipSpace rest with
      | '\x7d' :: rest => some (.other, rest)
      | rest => other (readInlineItems (readValue room) (rest.length + 1) .empty rest)
  | 't' :: _ => other (readWord ['t', 'r', 'u', 'e'] cs)
  | 'f' :: _ => other (readWord ['f', 'a', 'l', 's', 'e'] cs)
  | 'i' :: _ => other (readSpecial cs)
  | 'n' :: _ => other (readSpecial cs)
  | _ => other (readNumber cs)

inductive Statement where
  | entry (key : Key) (value : Value)
  | table (key : Key)
  | row (key : Key)

/-- A statement without what follows it on its line. -/
def readStatement : Reader Statement
  | '[' :: '[' :: rest => do
    let (key, rest) ← readKey rest
    match rest with
    | ']' :: ']' :: rest => return (.row key, rest)
    | _ => none
  | '[' :: rest => do
    let (key, rest) ← readKey rest
    match rest with
    | ']' :: rest => return (.table key, rest)
    | _ => none
  | cs => do
    let (key, rest) ← readKey cs
    let (value, rest) ← readValue (depthLimit - 1) (← readEquals rest)
    return (.entry key value, rest)

/-- The statements of the lines that follow; a line may be blank or a comment. -/
def readStatements : Nat → List Char → Option (List Statement)
  | 0, _ => none
  | bound + 1, cs =>
    match skipSpace cs with
    | [] => some []
    | '#' :: rest => do readStatements bound (← endLine ('#' :: rest))
    | rest =>
      match newline? rest with
      | some rest => readStatements bound rest
      | none => do
        let (statement, rest) ← readStatement rest
        let statements ← readStatements bound (← endLine rest)
        return statement :: statements

/-- A byte order mark may stand at the start. -/
def statements (text : String) : Option (List Statement) :=
  let cs := match text.toList with
    | '\ufeff' :: rest => rest
    | cs => cs
  readStatements (cs.length + 1) cs

/-- Builds the root table. The entries go to the table of the latest header, at `current`. -/
def build (root : Table) (current : List String) : List Statement → Option Table
  | [] => some root
  | .entry key value :: rest => do
    let root ← Table.within .passed current (Table.add key.path key.last value) root
    build root current rest
  | .table key :: rest => do
    build (← root.define key.path key.last) (key.path ++ [key.last]) rest
  | .row key :: rest => do
    build (← root.addRow key.path key.last) (key.path ++ [key.last]) rest

/-- The root table of a well-formed document. -/
def parse (text : String) : Option Table := do
  build .empty [] (← statements text)

end ServerForge.Toml
