import ServerForge.Json.Printer
import ServerForge.Text.Digit
import ServerForge.Text.Quoted
import ServerForge.Text.Utf8

/-! What can be wrong with a JSON text, and with a value that should be a record. A fault in a
text also says how much of it was still unread; its message gives that place as line and column. -/
namespace ServerForge.Json

/-- What stood where something else was expected. -/
inductive Found where
  | null
  | bool (value : Bool)
  | num (value : Number)
  | str (value : String)
  | sequence
  | map

def Found.of : Json → Found
  | .null => .null
  | .bool value => .bool value
  | .num value => .num value
  | .str value => .str value
  | .arr _ => .sequence
  | .obj _ => .map

def Found.message : Found → String
  | .null => "null"
  | .bool value => "boolean `" ++ String.ofList (boolChars value) ++ "`"
  | .num (.int value) => "integer `" ++ String.ofList (Number.chars (.int value)) ++ "`"
  | .num (.float value) => "floating point `" ++ String.ofList (Decimal.print value) ++ "`"
  | .str value => "string " ++ Text.quoted value
  | .sequence => "sequence"
  | .map => "map"

/-- A value of the wrong shape. -/
inductive Mismatch where
  | wrongType (found : Found) (expected : String)
  | wrongLength (length : Nat) (expected : String)
  | missingField (name : String)
  | duplicateField (name : String)
  | unknownVariant (name : String) (known : List String)

def Mismatch.message : Mismatch → String
  | .wrongType found expected => "invalid type: " ++ found.message ++ ", expected " ++ expected
  | .wrongLength length expected =>
    "invalid length " ++ Text.numeral length ++ ", expected " ++ expected
  | .missingField name => "missing field `" ++ name ++ "`"
  | .duplicateField name => "duplicate field `" ++ name ++ "`"
  | .unknownVariant name known =>
    "unknown variant `" ++ name ++ "`, expected one of " ++
      ", ".intercalate (known.map fun k => "`" ++ k ++ "`")

inductive Cause where
  | endInValue
  | endInList
  | endInObject
  | endInString
  | colonExpected
  | listCommaExpected
  | objectCommaExpected
  | identExpected
  | valueExpected
  | invalidEscape
  | invalidNumber
  | numberOutOfRange
  | loneSurrogate
  | surrogateCutOff
  | controlCharacter
  | keyExpected
  | trailingComma
  | trailingCharacters
  | tooDeep
  | mismatch (mismatch : Mismatch)

def Cause.message : Cause → String
  | .endInValue => "EOF while parsing a value"
  | .endInList => "EOF while parsing a list"
  | .endInObject => "EOF while parsing an object"
  | .endInString => "EOF while parsing a string"
  | .colonExpected => "expected `:`"
  | .listCommaExpected => "expected `,` or `]`"
  | .objectCommaExpected => "expected `,` or `\x7d`"
  | .identExpected => "expected ident"
  | .valueExpected => "expected value"
  | .invalidEscape => "invalid escape"
  | .invalidNumber => "invalid number"
  | .numberOutOfRange => "number out of range"
  | .loneSurrogate => "lone leading surrogate in hex escape"
  | .surrogateCutOff => "unexpected end of hex escape"
  | .controlCharacter => "control character (\\u0000-\\u001F) found while parsing a string"
  | .keyExpected => "key must be a string"
  | .trailingComma => "trailing comma"
  | .trailingCharacters => "trailing characters"
  | .tooDeep => "recursion limit exceeded"
  | .mismatch m => m.message

/-- A cause, and the number of bytes not yet read when it was noticed. -/
structure Fault where
  cause : Cause
  unread : Nat

/-- A fault just before the rest of the text. -/
def Fault.before (cause : Cause) (rest : List Char) : Fault := ⟨cause, Text.byteCount rest⟩

/-- A fault at the next byte, which counts as read; at the end there is none. -/
def Fault.atNext (cause : Cause) (rest : List Char) : Fault := ⟨cause, Text.byteCount rest - 1⟩

/-- A place in a text: lines count from one, and the column counts the bytes before it. -/
structure Position where
  line : Nat
  column : Nat

/-- The place after the first `bytes` bytes, counted on from `position`. -/
def Position.advance (position : Position) : Nat → List Char → Position
  | _, [] => position
  | 0, _ => position
  | bytes, c :: cs =>
    if c = '\n' then advance ⟨position.line + 1, 0⟩ (bytes - 1) cs
    else
      advance ⟨position.line, position.column + min bytes c.utf8Size⟩ (bytes - c.utf8Size) cs

def Fault.position (text : List Char) (fault : Fault) : Position :=
  Position.advance ⟨1, 0⟩ (Text.byteCount text - fault.unread) text

def Fault.message (text : List Char) (fault : Fault) : String :=
  let position := fault.position text
  fault.cause.message ++ " at line " ++ Text.numeral position.line ++
    " column " ++ Text.numeral position.column

end ServerForge.Json
