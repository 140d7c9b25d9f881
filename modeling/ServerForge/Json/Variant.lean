import ServerForge.Json.Record

/-! A choice among named variants without contents, written as the name alone or as an object
with that name as its one key and `null` as the value. -/
namespace ServerForge.Json

def chooseVariant (known : List (String × α)) (name : String) : Except Mismatch α :=
  match known.lookup name with
  | some value => return value
  | none => throw (.unknownVariant name (known.map (·.1)))

/-- The variant's name, as a string. -/
def readVariantName (known : List (String × α)) : Reader α := fun cs =>
  match skipSpace cs with
  | '"' :: rest => do
    let (name, rest) ← readString rest
    match chooseVariant known (String.ofList name) with
    | .ok value => return (value, rest)
    | .error mismatch => throw (.before (.mismatch mismatch) rest)
  | rest => throw (wrongTypeFault "variant identifier" rest)

def readUnit : Reader Unit := fun cs =>
  match skipSpace cs with
  | 'n' :: rest => readIdent ['u', 'l', 'l'] rest
  | rest => throw (wrongTypeFault "unit" rest)

def readVariant (known : List (String × α)) : Reader α := fun cs =>
  match skipSpace cs with
  | [] => throw ⟨.endInValue, 0⟩
  | '"' :: rest => readVariantName known ('"' :: rest)
  | '\x7b' :: rest => do
    let (value, rest) ← readVariantName known rest
    let ((), rest) ← readColon rest
    let ((), rest) ← readUnit rest
    match skipSpace rest with
    | [] => throw ⟨.endInObject, 0⟩
    | '\x7d' :: rest => return (value, rest)
    | rest => throw (.before .valueExpected rest)
  | rest => throw (.atNext .valueExpected rest)

end ServerForge.Json
