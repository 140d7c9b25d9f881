import ServerForge.Json.Fault

/-! Reading a JSON text from left to right. Each reader takes the rest of the text and gives
what it read with the rest that follows, or the first fault. -/
namespace ServerForge.Json

abbrev Reader (α : Type) := List Char → Except Fault (α × List Char)

def isSpace (c : Char) : Bool := c == ' ' || c == '\t' || c == '\n' || c == '\r'

def skipSpace (cs : List Char) : List Char := cs.dropWhile isSpace

/-! ## Strings -/

def hexQuad (a b c d : Char) : Option Nat := do
  return ((← Text.hexValue? a) * 16 + (← Text.hexValue? b)) * 256 + (← Text.hexValue? c) * 16 + (← Text.hexValue? d)

/-- The fault of four bytes that are not all hexadecimal digits, or not there. -/
def quadFault (rest : List Char) : Fault :=
  if Text.byteCount rest < 4 then ⟨.endInString, 0⟩ else ⟨.invalidEscape, Text.byteCount rest - 4⟩

def isHighSurrogate (n : Nat) : Bool := 0xD800 ≤ n && n ≤ 0xDBFF
def isLowSurrogate (n : Nat) : Bool := 0xDC00 ≤ n && n ≤ 0xDFFF

/-- The character of a pair of surrogates. -/
def surrogatePair (high low : Nat) : Char :=
  Char.ofNat ((high - 0xD800) * 0x400 + (low - 0xDC00) + 0x10000)

/-- The character of a one-letter escape. -/
def simpleEscape (c : Char) : Option Char :=
  if c = '"' then some '"'
  else if c = '\\' then some '\\'
  else if c = '/' then some '/'
  else if c = 'b' then some '\x08'
  else if c = 'f' then some '\x0c'
  else if c = 'n' then some '\n'
  else if c = 'r' then some '\r'
  else if c = 't' then some '\t'
  else none

/-- The fault after a high surrogate that no low one follows. -/
def pairFault : List Char → Fault
  | '\\' :: 'u' :: rest => quadFault rest
  | ['\\'] => ⟨.endInString, 0⟩
  | '\\' :: rest => .atNext .surrogateCutOff rest
  | [] => ⟨.endInString, 0⟩
  | rest => .atNext .surrogateCutOff rest

/-- The rest of a string, after its opening quote. -/
def readString : Reader (List Char)
  | [] => throw ⟨.endInString, 0⟩
  | '"' :: rest => return ([], rest)
  | '\\' :: 'u' :: a :: b :: c :: d :: rest =>
    match hexQuad a b c d with
    | none => throw (quadFault (a :: b :: c :: d :: rest))
    | some n =>
      if isLowSurrogate n then throw (.before .loneSurrogate rest)
      else if isHighSurrogate n then
        match rest with
        | '\\' :: 'u' :: a' :: b' :: c' :: d' :: rest' =>
          match hexQuad a' b' c' d' with
          | none => throw (quadFault (a' :: b' :: c' :: d' :: rest'))
          | some m =>
            if isLowSurrogate m then do
              let (cs, rest) ← readString rest'
              return (surrogatePair n m :: cs, rest)
            else throw (.before .loneSurrogate rest')
        | _ => throw (pairFault rest)
      else do
        let (cs, rest) ← readString rest
        return (Char.ofNat n :: cs, rest)
  | '\\' :: 'u' :: rest => throw (quadFault rest)
  | '\\' :: c :: rest =>
    match simpleEscape c with
    | none => throw (.atNext .invalidEscape (c :: rest))
    | some escaped => do
      let (cs, rest) ← readString rest
      return (escaped :: cs, rest)
  | ['\\'] => throw ⟨.endInString, 0⟩
  | c :: rest =>
    if c.toNat < 0x20 then throw (.before .controlCharacter rest)
    else do
      let (cs, rest) ← readString rest
      return (c :: cs, rest)

/-! ## Numbers -/

/-- Digits are taken into a significand as long as it stays below this bound. -/
def significandBound : Nat := Nat.pow 2 64

/-- Takes digits into a significand; the count is of those that no longer fit. -/
def absorb (significand : Nat) : List Char → Nat × Nat
  | [] => (significand, 0)
  | c :: cs =>
    let next := significand * 10 + Text.digitValue c
    if next < significandBound then absorb next cs else (significand, cs.length + 1)

/-- The number of a significand and a decimal exponent, with its sign. -/
def scaledNumber (negative : Bool) (significand : Nat) (exponent : Int) (rest : List Char) :
    Except Fault Number :=
  match Binary64.ofDecimal? significand exponent with
  | some x => return .float { x with negative := negative }
  | none => throw (.before .numberOutOfRange rest)

/-- An exponent has to stay below this bound. -/
def exponentBound : Nat := Nat.pow 2 31

/-- The digits of an exponent, or the rest after the digit with which it grows out of bounds. -/
def absorbExponent (exponent : Nat) : List Char → Except (List Char) Nat
  | [] => return exponent
  | c :: cs =>
    let next := exponent * 10 + Text.digitValue c
    if next < exponentBound then absorbExponent next cs else throw cs

/-- What follows the exponent mark. -/
def readExponent (negative : Bool) (significand : Nat) (exponent : Int) : Reader Number :=
  fun cs =>
    let (down, cs) := match cs with
      | '+' :: rest => (false, rest)
      | '-' :: rest => (true, rest)
      | _ => (false, cs)
    let digits := cs.takeWhile Text.isDigit
    let rest := cs.dropWhile Text.isDigit
    match digits, rest with
    | [], [] => throw ⟨.endInValue, 0⟩
    | [], rest => throw (.atNext .invalidNumber rest)
    | digits, rest =>
      match absorbExponent 0 digits with
      | .ok shift => do
        let shift : Int := if down then -shift else shift
        return (← scaledNumber negative significand (exponent + shift) rest, rest)
      | .error unused =>
        if significand ≠ 0 ∧ !down then throw (.before .numberOutOfRange (unused ++ rest))
        else return (.float { Binary64.zero with negative := negative }, rest)

/-- What follows the digits of a number: an exponent, or nothing more of it. -/
def readScale (negative : Bool) (significand : Nat) (exponent : Int) : Reader Number
  | 'e' :: rest => readExponent negative significand exponent rest
  | 'E' :: rest => readExponent negative significand exponent rest
  | rest => do return (← scaledNumber negative significand exponent rest, rest)

/-- What follows the decimal point. -/
def readFraction (negative : Bool) (significand : Nat) (exponent : Int) : Reader Number :=
  fun cs =>
    let digits := cs.takeWhile Text.isDigit
    let rest := cs.dropWhile Text.isDigit
    match digits, rest with
    | [], [] => throw ⟨.endInValue, 0⟩
    | [], rest => throw (.atNext .invalidNumber rest)
    | digits, rest =>
      let (significand, unused) := absorb significand digits
      readScale negative significand (exponent - (digits.length - unused : Nat)) rest

/-- A whole number within 64 bits; minus zero and what is below them is rounded. -/
def wholeNumber (negative : Bool) (significand : Nat) (rest : List Char) : Except Fault Number :=
  if negative then
    if 0 < significand ∧ significand ≤ Nat.pow 2 63 then return .int (-significand)
    else scaledNumber true significand 0 rest
  else return .int significand

/-- A number after its sign. -/
def readNumber (negative : Bool) : Reader Number
  | [] => throw ⟨.endInValue, 0⟩
  | c :: cs =>
    if !Text.isDigit c then throw (.atNext .invalidNumber (c :: cs))
    else
      let digits := if c = '0' then [] else cs.takeWhile Text.isDigit
      let rest := if c = '0' then cs else cs.dropWhile Text.isDigit
      if c = '0' ∧ (rest.head?.map Text.isDigit).getD false then throw (.atNext .invalidNumber rest)
      else
        let (significand, unused) := absorb 0 (c :: digits)
        match rest with
        | '.' :: rest => readFraction negative significand unused rest
        | rest =>
          if unused = 0 ∧ rest.head? ≠ some 'e' ∧ rest.head? ≠ some 'E' then do
            return (← wholeNumber negative significand rest, rest)
          else readScale negative significand unused rest

/-! ## Lists and objects -/

/-- The letters of a word after its first. -/
def readIdent : List Char → Reader Unit
  | [], rest => return ((), rest)
  | _ :: _, [] => throw ⟨.endInValue, 0⟩
  | letter :: letters, c :: rest =>
    if c = letter then readIdent letters rest else throw (.atNext .identExpected (c :: rest))

/-- The next item of a list begins at the given rest, or there is none. -/
def nextItem (first : Bool) (cs : List Char) : Except Fault (Option (List Char)) :=
  match skipSpace cs with
  | [] => throw ⟨.endInList, 0⟩
  | ']' :: _ => return none
  | ',' :: rest =>
    if first then return some (',' :: rest)
    else match skipSpace rest with
      | [] => throw ⟨.endInValue, 0⟩
      | ']' :: rest => throw (.atNext .trailingComma (']' :: rest))
      | rest => return some rest
  | rest => if first then return some rest else throw (.atNext .listCommaExpected rest)

/-- The next key of an object begins after its quote at the given rest, or there is none. -/
def nextKey (first : Bool) (cs : List Char) : Except Fault (Option (List Char)) :=
  match skipSpace cs with
  | [] => throw ⟨.endInObject, 0⟩
  | '\x7d' :: _ => return none
  | ',' :: rest =>
    if first then throw (.atNext .keyExpected (',' :: rest))
    else match skipSpace rest with
      | [] => throw ⟨.endInValue, 0⟩
      | '"' :: rest => return some rest
      | '\x7d' :: rest => throw (.atNext .trailingComma ('\x7d' :: rest))
      | rest => throw (.atNext .keyExpected rest)
  | '"' :: rest =>
    if first then return some rest else throw (.atNext .objectCommaExpected ('"' :: rest))
  | rest => throw (.atNext (if first then .keyExpected else .objectCommaExpected) rest)

def readColon : Reader Unit := fun cs =>
  match skipSpace cs with
  | [] => throw ⟨.endInObject, 0⟩
  | ':' :: rest => return ((), rest)
  | rest => throw (.atNext .colonExpected rest)

def closeList : Reader Unit := fun cs =>
  match skipSpace cs with
  | [] => throw ⟨.endInList, 0⟩
  | ']' :: rest => return ((), rest)
  | ',' :: rest =>
    match skipSpace rest with
    | ']' :: rest => throw (.atNext .trailingComma (']' :: rest))
    | rest => throw (.atNext .trailingCharacters rest)
  | rest => throw (.atNext .trailingCharacters rest)

def closeObject : Reader Unit := fun cs =>
  match skipSpace cs with
  | [] => throw ⟨.endInObject, 0⟩
  | '\x7d' :: rest => return ((), rest)
  | ',' :: rest => throw (.atNext .trailingComma (',' :: rest))
  | rest => throw (.atNext .trailingCharacters rest)

/-- The items up to the end of the list. Each one takes at least one character, so the length
of the text bounds their number. -/
def readItems (item : Reader α) : Nat → Bool → Reader (List α)
  | 0, _, _ => throw ⟨.endInList, 0⟩
  | bound + 1, first, cs => do
    match ← nextItem first cs with
    | none => return ([], cs)
    | some rest =>
      let (value, rest) ← item rest
      let (values, rest) ← readItems item bound false rest
      return (value :: values, rest)

/-- A list after its opening bracket. -/
def readListBody (item : Reader α) : Reader (List α) := fun cs => do
  let (values, rest) ← readItems item (cs.length + 1) true cs
  let ((), rest) ← closeList rest
  return (values, rest)

/-- The members up to the end of the object; the last one of a key stays. -/
def readMembers (value : Reader Json) : Nat → Bool → Members → Reader Members
  | 0, _, _, _ => throw ⟨.endInObject, 0⟩
  | bound + 1, first, members, cs => do
    match ← nextKey first cs with
    | none => return (members, cs)
    | some rest =>
      let (key, rest) ← readString rest
      let ((), rest) ← readColon rest
      let (v, rest) ← value rest
      readMembers value bound false (insert (String.ofList key) v members) rest

/-- An object after its opening brace. -/
def readObjectBody (value : Reader Json) : Reader Members := fun cs => do
  let (members, rest) ← readMembers value (cs.length + 1) true [] cs
  let ((), rest) ← closeObject rest
  return (members, rest)

/-! ## Values -/

/-- The number of lists and objects that may stand inside one another. -/
def depthLimit : Nat := 127

/-- A value with at most `room` further lists and objects inside one another. -/
def readValue (room : Nat) : Reader Json := fun cs =>
  match skipSpace cs with
  | [] => throw ⟨.endInValue, 0⟩
  | 'n' :: rest => do
    let ((), rest) ← readIdent ['u', 'l', 'l'] rest
    return (.null, rest)
  | 't' :: rest => do
    let ((), rest) ← readIdent ['r', 'u', 'e'] rest
    return (.bool true, rest)
  | 'f' :: rest => do
    let ((), rest) ← readIdent ['a', 'l', 's', 'e'] rest
    return (.bool false, rest)
  | '-' :: rest => do
    let (n, rest) ← readNumber true rest
    return (.num n, rest)
  | '"' :: rest => do
    let (text, rest) ← readString rest
    return (.str (String.ofList text), rest)
  | '[' :: rest =>
    match room with
    | 0 => throw (.atNext .tooDeep ('[' :: rest))
    | room + 1 => do
      let (items, rest) ← readListBody (readValue room) rest
      return (.arr items, rest)
  | '\x7b' :: rest =>
    match room with
    | 0 => throw (.atNext .tooDeep ('\x7b' :: rest))
    | room + 1 => do
      let (members, rest) ← readObjectBody (readValue room) rest
      return (.obj members, rest)
  | c :: rest =>
    if Text.isDigit c then do
      let (n, rest) ← readNumber false (c :: rest)
      return (.num n, rest)
    else throw (.atNext .valueExpected (c :: rest))

/-- Nothing but space may follow. -/
def finish (cs : List Char) : Except Fault Unit :=
  match skipSpace cs with
  | [] => return ()
  | rest => throw (.atNext .trailingCharacters rest)

/-- A whole text read by `reader`. -/
def readWhole (reader : Reader α) (cs : List Char) : Except Fault α := do
  let (value, rest) ← reader cs
  finish rest
  return value

/-- The value of a whole text. -/
def parse (text : String) : Except Fault Json := readWhole (readValue depthLimit) text.toList

end ServerForge.Json
