import ServerForge.Json.Basic
import ServerForge.Decimal.Shortest

/-! The two printed forms of a value: compact, without any space, and indented by two spaces
per level. Both quote a text in the same way, so neither lets a line break out of a text. -/
namespace ServerForge.Json

def hexDigit (n : Nat) : Char := Nat.digitChar (n % 16)

/-- Only the quote, the backslash and the controls below the space are escaped. -/
def escapeChar (c : Char) : List Char :=
  if c = '"' then ['\\', '"']
  else if c = '\\' then ['\\', '\\']
  else if c.toNat < 0x20 then
    if c = '\x08' then ['\\', 'b']
    else if c = '\t' then ['\\', 't']
    else if c = '\n' then ['\\', 'n']
    else if c = '\x0c' then ['\\', 'f']
    else if c = '\r' then ['\\', 'r']
    else ['\\', 'u', '0', '0', hexDigit (c.toNat / 16), hexDigit c.toNat]
  else [c]

def quoteChars (cs : List Char) : List Char := '"' :: cs.flatMap escapeChar ++ ['"']

/-- A text as a string literal. -/
def quote (text : String) : String := String.ofList (quoteChars text.toList)

def Number.chars : Number → List Char
  | .int value =>
    if value < 0 then '-' :: Text.digits value.natAbs else Text.digits value.natAbs
  | .float value => Decimal.print value

def boolChars : Bool → List Char
  | true => ['t', 'r', 'u', 'e']
  | false => ['f', 'a', 'l', 's', 'e']

mutual

def compactChars : Json → List Char
  | .null => ['n', 'u', 'l', 'l']
  | .bool value => boolChars value
  | .num value => value.chars
  | .str value => quoteChars value.toList
  | .arr items => '[' :: compactItems items ++ [']']
  | .obj members => '\x7b' :: compactMembers members ++ ['\x7d']

def compactItems : List Json → List Char
  | [] => []
  | [item] => compactChars item
  | item :: items => compactChars item ++ ',' :: compactItems items

def compactMembers : List (String × Json) → List Char
  | [] => []
  | [(key, value)] => quoteChars key.toList ++ ':' :: compactChars value
  | (key, value) :: members =>
    quoteChars key.toList ++ ':' :: compactChars value ++ ',' :: compactMembers members

end

/-- A line break and the indentation of a level. -/
def lineBreak (level : Nat) : List Char := '\n' :: List.replicate (2 * level) ' '

mutual

/-- Lists and objects put each entry on a line of its own, unless they are empty. -/
def prettyChars (level : Nat) : Json → List Char
  | .null => ['n', 'u', 'l', 'l']
  | .bool value => boolChars value
  | .num value => value.chars
  | .str value => quoteChars value.toList
  | .arr [] => ['[', ']']
  | .arr (item :: items) =>
    '[' :: prettyItems (level + 1) (item :: items) ++ lineBreak level ++ [']']
  | .obj [] => ['\x7b', '\x7d']
  | .obj (member :: members) =>
    '\x7b' :: prettyMembers (level + 1) (member :: members) ++ lineBreak level ++ ['\x7d']

def prettyItems (level : Nat) : List Json → List Char
  | [] => []
  | [item] => lineBreak level ++ prettyChars level item
  | item :: items => lineBreak level ++ prettyChars level item ++ ',' :: prettyItems level items

def prettyMembers (level : Nat) : List (String × Json) → List Char
  | [] => []
  | [(key, value)] =>
    lineBreak level ++ quoteChars key.toList ++ ':' :: ' ' :: prettyChars level value
  | (key, value) :: members =>
    lineBreak level ++ quoteChars key.toList ++ ':' :: ' ' :: prettyChars level value ++
      ',' :: prettyMembers level members

end

def compact (value : Json) : String := String.ofList (compactChars value)

/-- The indented form, for text that already stands at a level of indentation. -/
def prettyAt (level : Nat) (value : Json) : String := String.ofList (prettyChars level value)

def pretty (value : Json) : String := prettyAt 0 value

end ServerForge.Json
