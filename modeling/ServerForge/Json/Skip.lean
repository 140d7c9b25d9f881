import ServerForge.Json.Reader

/-! Passing over a value that nobody asks for. Only its form is checked: numbers may be out of
range, surrogates may stand alone, and there is no limit on depth. -/
namespace ServerForge.Json

def skipString : Reader Unit
  | [] => throw ⟨.endInString, 0⟩
  | '"' :: rest => return ((), rest)
  | '\\' :: 'u' :: a :: b :: c :: d :: rest =>
    if (hexQuad a b c d).isSome then skipString rest
    else throw (quadFault (a :: b :: c :: d :: rest))
  | '\\' :: 'u' :: rest => throw (quadFault rest)
  | '\\' :: c :: rest =>
    if (simpleEscape c).isSome then skipString rest else throw (.atNext .invalidEscape (c :: rest))
  | ['\\'] => throw ⟨.endInString, 0⟩
  | c :: rest =>
    if c.toNat < 0x20 then throw (.before .controlCharacter (c :: rest)) else skipString rest

def skipExponent : Reader Unit := fun cs =>
  let cs := match cs with
    | '+' :: rest => rest
    | '-' :: rest => rest
    | _ => cs
  if (cs.head?.map Text.isDigit).getD false then return ((), cs.dropWhile Text.isDigit)
  else throw (.atNext .invalidNumber cs)

def skipScale : Reader Unit
  | 'e' :: rest => skipExponent rest
  | 'E' :: rest => skipExponent rest
  | rest => return ((), rest)

def skipFraction : Reader Unit
  | '.' :: rest =>
    if (rest.head?.map Text.isDigit).getD false then skipScale (rest.dropWhile Text.isDigit)
    else throw (.atNext .invalidNumber rest)
  | rest => skipScale rest

/-- A number after its sign. -/
def skipNumber : Reader Unit
  | [] => throw (.atNext .invalidNumber [])
  | c :: rest =>
    if c = '0' then
      if (rest.head?.map Text.isDigit).getD false then throw (.atNext .invalidNumber rest)
      else skipFraction rest
    else if Text.isDigit c then skipFraction (rest.dropWhile Text.isDigit)
    else throw (.atNext .invalidNumber (c :: rest))

/-- From an item on to the end of its list. -/
def skipItems (item : Reader Unit) : Nat → Reader Unit
  | 0, _ => throw ⟨.endInList, 0⟩
  | bound + 1, cs => do
    let ((), rest) ← item cs
    match skipSpace rest with
    | [] => throw ⟨.endInList, 0⟩
    | ',' :: rest => skipItems item bound rest
    | ']' :: rest => return ((), rest)
    | rest => throw (.atNext .listCommaExpected rest)

def skipListBody (item : Reader Unit) : Reader Unit := fun cs =>
  match skipSpace cs with
  | [] => throw ⟨.endInList, 0⟩
  | ']' :: rest => return ((), rest)
  | rest => skipItems item (rest.length + 1) rest

/-- From a key on to the end of its object. -/
def skipMembers (value : Reader Unit) : Nat → Reader Unit
  | 0, _ => throw ⟨.endInObject, 0⟩
  | bound + 1, cs =>
    match skipSpace cs with
    | [] => throw ⟨.endInObject, 0⟩
    | '"' :: rest => do
      let ((), rest) ← skipString rest
      let ((), rest) ← readColon rest
      let ((), rest) ← value rest
      match skipSpace rest with
      | [] => throw ⟨.endInObject, 0⟩
      | ',' :: rest => skipMembers value bound rest
      | '\x7d' :: rest => return ((), rest)
      | rest => throw (.atNext .objectCommaExpected rest)
    | rest => throw (.atNext .keyExpected rest)

def skipObjectBody (value : Reader Unit) : Reader Unit := fun cs =>
  match skipSpace cs with
  | [] => throw ⟨.endInObject, 0⟩
  | '\x7d' :: rest => return ((), rest)
  | rest => skipMembers value (rest.length + 1) rest

/-- Every level takes a character, so the length of the text bounds the depth. -/
def skipNested : Nat → Reader Unit
  | 0, _ => throw ⟨.endInValue, 0⟩
  | bound + 1, cs =>
    match skipSpace cs with
    | [] => throw ⟨.endInValue, 0⟩
    | 'n' :: rest => readIdent ['u', 'l', 'l'] rest
    | 't' :: rest => readIdent ['r', 'u', 'e'] rest
    | 'f' :: rest => readIdent ['a', 'l', 's', 'e'] rest
    | '-' :: rest => skipNumber rest
    | '"' :: rest => skipString rest
    | '[' :: rest => skipListBody (skipNested bound) rest
    | '\x7b' :: rest => skipObjectBody (skipNested bound) rest
    | c :: rest =>
      if Text.isDigit c then skipNumber (c :: rest) else throw (.atNext .valueExpected (c :: rest))

def skipValue : Reader Unit := fun cs => skipNested (cs.length + 1) cs

end ServerForge.Json
