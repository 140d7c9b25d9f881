import ServerForge.Decimal.Binary64
import ServerForge.Toml.Text

/-! Numbers, dates and times of a TOML document. Nothing is kept of them; they only have to be
well formed and within range. -/
namespace ServerForge.Toml

def isHexDigit (c : Char) : Bool := (Text.hexValue? c).isSome

def isOctalDigit (c : Char) : Bool := '0' ≤ c && c ≤ '7'

def isBinaryDigit (c : Char) : Bool := c == '0' || c == '1'

/-- One or more digits; a single underscore may stand between two of them. -/
def readDigits (accepts : Char → Bool) : Reader (List Char)
  | [] => none
  | c :: rest => if accepts c then some (more [c] rest) else none
where
  more (taken : List Char) : List Char → List Char × List Char
    | '_' :: c :: rest =>
      if accepts c then more (c :: taken) rest else (taken.reverse, '_' :: c :: rest)
    | c :: rest => if accepts c then more (c :: taken) rest else (taken.reverse, c :: rest)
    | [] => (taken.reverse, [])

def valueOf (base : Nat) (digits : List Char) : Nat :=
  digits.foldl (fun n c => n * base + (Text.hexValue? c).getD 0) 0

/-- Whether there is a minus sign, and what follows the sign. -/
def readSign : List Char → Bool × List Char
  | '+' :: rest => (false, rest)
  | '-' :: rest => (true, rest)
  | cs => (false, cs)

/-- A decimal whole number without leading zeros. -/
def readDecimal : Reader (List Char)
  | '0' :: rest => some (['0'], rest)
  | cs => readDigits Text.isDigit cs

/-- Whole numbers fit into 64 bits with a sign. -/
def wholeInRange (negative : Bool) (n : Nat) : Bool :=
  if negative then n ≤ Nat.pow 2 63 else n < Nat.pow 2 63

def readBased (base : Nat) (accepts : Char → Bool) (cs : List Char) : Option (List Char) := do
  let (digits, rest) ← readDigits accepts cs
  if wholeInRange false (valueOf base digits) then return rest else none

def readInteger (cs : List Char) : Option (List Char) :=
  match cs with
  | '0' :: 'x' :: rest => readBased 16 isHexDigit rest
  | '0' :: 'o' :: rest => readBased 8 isOctalDigit rest
  | '0' :: 'b' :: rest => readBased 2 isBinaryDigit rest
  | cs => do
    let (negative, rest) := readSign cs
    let (digits, rest) ← readDecimal rest
    if wholeInRange negative (valueOf 10 digits) then return rest else none

/-- Whether `digits * 10 ^ exponent` rounds to a finite number. Far out of the range of
exponents this is told without computing the power. -/
def isFinite (digits : List Char) (exponent : Int) : Bool :=
  let digits := digits.dropWhile (· == '0')
  let power := digits.length + exponent
  if digits.isEmpty ∨ power < 300 then true
  else if power > 320 then false
  else
    let n := valueOf 10 digits
    let (num, den) :=
      if exponent ≥ 0 then (n * Nat.pow 10 exponent.toNat, 1)
      else (n, Nat.pow 10 (-exponent).toNat)
    (Binary64.ofRatio? num den).isSome

def readFraction : Reader (List Char)
  | '.' :: rest => readDigits Text.isDigit rest
  | _ => none

def readExponent : Reader Int
  | c :: rest =>
    if c = 'e' ∨ c = 'E' then do
      let (negative, rest) := readSign rest
      let (digits, rest) ← readDigits Text.isDigit rest
      let n : Int := valueOf 10 digits
      return (if negative then -n else n, rest)
    else none
  | [] => none

def readWord (word : List Char) (cs : List Char) : Option (List Char) :=
  if word.isPrefixOf cs then some (cs.drop word.length) else none

def readSpecial (cs : List Char) : Option (List Char) :=
  readWord ['i', 'n', 'f'] cs <|> readWord ['n', 'a', 'n'] cs

/-- A number with a fraction or an exponent or both. Only a positive one can be too large. -/
def readFloat (cs : List Char) : Option (List Char) := do
  let (negative, rest) := readSign cs
  match readSpecial rest with
  | some rest => return rest
  | none =>
    let (whole, rest) ← readDecimal rest
    let (fraction, exponent, rest) ←
      match readFraction rest with
      | some (fraction, rest) =>
        match readExponent rest with
        | some (exponent, rest) => some (fraction, exponent, rest)
        | none => some (fraction, 0, rest)
      | none => (readExponent rest).map fun (exponent, rest) => ([], exponent, rest)
    if negative ∨ isFinite (whole ++ fraction) (exponent - fraction.length) then return rest
    else none

/-! ## Dates and times -/

/-- Exactly `count` digits. -/
def readFixed (count : Nat) (cs : List Char) : Option (Nat × List Char) :=
  let digits := cs.take count
  if digits.length = count ∧ digits.all Text.isDigit then some (valueOf 10 digits, cs.drop count)
  else none

def readMark (mark : Char) : List Char → Option (List Char)
  | c :: rest => if c = mark then some rest else none
  | [] => none

def isLeap (year : Nat) : Bool := year % 4 = 0 && (year % 100 ≠ 0 || year % 400 = 0)

def daysInMonth (year month : Nat) : Nat :=
  if month = 2 then (if isLeap year then 29 else 28)
  else if month = 4 ∨ month = 6 ∨ month = 9 ∨ month = 11 then 30
  else 31

def readDate (cs : List Char) : Option (List Char) := do
  let (year, rest) ← readFixed 4 cs
  let (month, rest) ← readFixed 2 (← readMark '-' rest)
  let (day, rest) ← readFixed 2 (← readMark '-' rest)
  if 1 ≤ month ∧ month ≤ 12 ∧ 1 ≤ day ∧ day ≤ daysInMonth year month then return rest else none

/-- Hours and minutes. -/
def readClock (cs : List Char) : Option (List Char) := do
  let (hour, rest) ← readFixed 2 cs
  let (minute, rest) ← readFixed 2 (← readMark ':' rest)
  if hour < 24 ∧ minute < 60 then return rest else none

/-- The sixtieth second is a leap second. -/
def readTime (cs : List Char) : Option (List Char) := do
  let rest ← readClock cs
  let (second, rest) ← readFixed 2 (← readMark ':' rest)
  if second > 60 then none
  else match rest with
    | '.' :: rest =>
      if (rest.head?.map Text.isDigit).getD false then return rest.dropWhile Text.isDigit else none
    | rest => return rest

def readOffset : List Char → Option (List Char)
  | 'Z' :: rest => some rest
  | 'z' :: rest => some rest
  | '+' :: rest => readClock rest
  | '-' :: rest => readClock rest
  | _ => none

def readTimeOfDate (cs : List Char) : Option (List Char) :=
  match cs with
  | c :: rest =>
    if c = 'T' ∨ c = 't' ∨ c = ' ' then do
      let rest ← readTime rest
      return (readOffset rest).getD rest
    else none
  | [] => none

def readDateTime (cs : List Char) : Option (List Char) :=
  match readDate cs with
  | some rest => some ((readTimeOfDate rest).getD rest)
  | none => readTime cs

/-- A date or a number. -/
def readNumber (cs : List Char) : Option (List Char) :=
  readDateTime cs <|> readFloat cs <|> readInteger cs

end ServerForge.Toml
