import ServerForge.Text.Digit

/-! Space, comments and the four kinds of string of a TOML document. Every reader takes the
rest of the document and gives what follows, or nothing if the document is not well formed. -/
namespace ServerForge.Toml

abbrev Reader (α : Type) := List Char → Option (α × List Char)

def isSpace (c : Char) : Bool := c == ' ' || c == '\t'

def skipSpace (cs : List Char) : List Char := cs.dropWhile isSpace

/-- Tabs and all characters that are no controls. -/
def isPrintable (c : Char) : Bool :=
  c == '\t' || (0x20 ≤ c.toNat && c.toNat ≠ 0x7F)

/-- What follows a line break, which is a line feed with or without a carriage return. -/
def newline? : List Char → Option (List Char)
  | '\n' :: rest => some rest
  | '\r' :: '\n' :: rest => some rest
  | _ => none

def skipComment : List Char → List Char
  | '#' :: rest => rest.dropWhile isPrintable
  | cs => cs

/-- The rest of a line may hold space and a comment only. -/
def endLine (cs : List Char) : Option (List Char) :=
  match skipComment (skipSpace cs) with
  | [] => some []
  | rest => newline? rest

/-- Skips space, line breaks and comments, each of which ends with its line. -/
def skipBreaks (comment : Bool) : List Char → Option (List Char)
  | [] => if comment then none else some []
  | '\n' :: rest => skipBreaks false rest
  | '\r' :: '\n' :: rest => skipBreaks false rest
  | c :: rest =>
    if comment then
      if isPrintable c then skipBreaks true rest else none
    else if isSpace c then skipBreaks false rest
    else if c = '#' then skipBreaks true rest
    else some (c :: rest)

/-- The character of a code point in hexadecimal digits; surrogates are none. -/
def codePoint (digits : List Char) : Option Char := do
  let values ← digits.mapM Text.hexValue?
  let n := values.foldl (fun n value => n * 16 + value) 0
  if h : n.isValidChar then return ⟨n.toUInt32, by
    have small : n < UInt32.size := by rcases h with h | h <;> simp [UInt32.size] <;> omega
    simpa [UInt32.isValidChar, Nat.mod_eq_of_lt small] using h⟩
  else none

def escaped? (c : Char) : Option Char :=
  if c = 'b' then some '\x08'
  else if c = 't' then some '\t'
  else if c = 'n' then some '\n'
  else if c = 'f' then some '\x0c'
  else if c = 'r' then some '\r'
  else if c = '"' then some '"'
  else if c = '\\' then some '\\'
  else none

def andThen (c : Char) (read : Option (List Char × List Char)) : Option (List Char × List Char) :=
  read.map fun (cs, rest) => (c :: cs, rest)

/-- A string with escapes on one line, after its quote. -/
def readBasic : Reader (List Char)
  | [] => none
  | '"' :: rest => some ([], rest)
  | '\\' :: 'u' :: a :: b :: c :: d :: rest => do
    andThen (← codePoint [a, b, c, d]) (readBasic rest)
  | '\\' :: 'U' :: a :: b :: c :: d :: e :: f :: g :: h :: rest => do
    andThen (← codePoint [a, b, c, d, e, f, g, h]) (readBasic rest)
  | '\\' :: c :: rest => do andThen (← escaped? c) (readBasic rest)
  | c :: rest => if isPrintable c ∧ c ≠ '\\' then andThen c (readBasic rest) else none

/-- After the three closing quotes: up to two more of them still belong to the string. -/
def closeQuotes (quote : Char) : List Char → List Char × List Char
  | c :: d :: rest =>
    if c = quote ∧ d = quote then ([quote, quote], rest)
    else if c = quote then ([quote], d :: rest)
    else ([], c :: d :: rest)
  | [c] => if c = quote then ([quote], []) else ([], [c])
  | [] => ([], [])

/-- A string with escapes on several lines. A backslash at the end of a line leaves out all
space up to the next character that is none (`trimming`). -/
def readBasicLines (trimming : Bool) : Reader (List Char)
  | [] => none
  | '"' :: '"' :: '"' :: rest => some (closeQuotes '"' rest)
  | '\\' :: 'u' :: a :: b :: c :: d :: rest => do
    andThen (← codePoint [a, b, c, d]) (readBasicLines false rest)
  | '\\' :: 'U' :: a :: b :: c :: d :: e :: f :: g :: h :: rest => do
    andThen (← codePoint [a, b, c, d, e, f, g, h]) (readBasicLines false rest)
  | '\r' :: '\n' :: rest =>
    if trimming then readBasicLines true rest else andThen '\n' (readBasicLines false rest)
  | '\n' :: rest =>
    if trimming then readBasicLines true rest else andThen '\n' (readBasicLines false rest)
  | '\\' :: c :: rest =>
    if (newline? (skipSpace (c :: rest))).isSome then readBasicLines true (c :: rest)
    else do andThen (← escaped? c) (readBasicLines false rest)
  | c :: rest =>
    if trimming ∧ isSpace c then readBasicLines true rest
    else if isPrintable c ∧ c ≠ '\\' then andThen c (readBasicLines false rest)
    else none

/-- A string without escapes on one line, after its quote. -/
def readLiteral : Reader (List Char)
  | [] => none
  | '\x27' :: rest => some ([], rest)
  | c :: rest => if isPrintable c then andThen c (readLiteral rest) else none

def readLiteralLines : Reader (List Char)
  | [] => none
  | '\x27' :: '\x27' :: '\x27' :: rest => some (closeQuotes '\x27' rest)
  | '\r' :: '\n' :: rest => andThen '\n' (readLiteralLines rest)
  | '\n' :: rest => andThen '\n' (readLiteralLines rest)
  | c :: rest => if isPrintable c then andThen c (readLiteralLines rest) else none

/-- A line break just after the opening quotes does not count. -/
def dropNewline (cs : List Char) : List Char := (newline? cs).getD cs

/-- A string of any kind. -/
def readText : Reader (List Char)
  | '"' :: '"' :: '"' :: rest => readBasicLines false (dropNewline rest)
  | '"' :: rest => readBasic rest
  | '\x27' :: '\x27' :: '\x27' :: rest => readLiteralLines (dropNewline rest)
  | '\x27' :: rest => readLiteral rest
  | _ => none

end ServerForge.Toml
