import ServerForge.Text.Digit

/-! Lines of bytes, and the UTF-8 form of a text. A fault says at which byte the first sequence
begins that is none, and how many bytes of it are at fault, unless the text just ends there. -/
namespace ServerForge.Text

/-- The length in bytes of the UTF-8 form. -/
def byteCount (cs : List Char) : Nat := cs.foldl (fun count c => count + c.utf8Size) 0

/-- Drops a carriage return at the end. -/
def dropReturn (line : List UInt8) : List UInt8 :=
  if line.getLast? = some 13 then line.dropLast else line

/-- The lines of a stream, without the line feeds and the carriage returns before them. What
follows the last line feed is a line too, unless it is empty. -/
def byteLines : List UInt8 → List (List UInt8)
  | [] => []
  | bytes => go [] bytes
where
  go (line : List UInt8) : List UInt8 → List (List UInt8)
    | [] => if line.isEmpty then [] else [line.reverse]
    | b :: rest => if b = 10 then dropReturn line.reverse :: go [] rest else go (b :: line) rest

namespace Utf8

inductive Fault where
  | invalid (length index : Nat)
  | incomplete (index : Nat)
  deriving DecidableEq, Repr

def Fault.message : Fault → String
  | .invalid length index =>
    "invalid utf-8 sequence of " ++ numeral length ++ " bytes from index " ++ numeral index
  | .incomplete index => "incomplete utf-8 byte sequence from index " ++ numeral index

def isContinuation (b : UInt8) : Bool := 0x80 ≤ b && b ≤ 0xBF

/-- The bytes that may follow the first byte of a sequence of three or four. -/
def mayFollow (first second : UInt8) : Bool :=
  if first = 0xE0 then 0xA0 ≤ second && second ≤ 0xBF
  else if first = 0xED then 0x80 ≤ second && second ≤ 0x9F
  else if first = 0xF0 then 0x90 ≤ second && second ≤ 0xBF
  else if first = 0xF4 then 0x80 ≤ second && second ≤ 0x8F
  else isContinuation second

/-- The six low bits of a continuation byte. -/
def low (b : UInt8) : Nat := b.toNat % 64

def decodeFrom (index : Nat) : List UInt8 → Except Fault (List Char)
  | [] => return []
  | a :: rest =>
    if a < 0x80 then (Char.ofNat a.toNat :: ·) <$> decodeFrom (index + 1) rest
    else if 0xC2 ≤ a && a ≤ 0xDF then
      match rest with
      | [] => throw (.incomplete index)
      | b :: rest =>
        if !isContinuation b then throw (.invalid 1 index)
        else (Char.ofNat (a.toNat % 32 * 64 + low b) :: ·) <$> decodeFrom (index + 2) rest
    else if 0xE0 ≤ a && a ≤ 0xEF then
      match rest with
      | [] => throw (.incomplete index)
      | b :: rest =>
        if !mayFollow a b then throw (.invalid 1 index)
        else match rest with
          | [] => throw (.incomplete index)
          | c :: rest =>
            if !isContinuation c then throw (.invalid 2 index)
            else (Char.ofNat ((a.toNat % 16 * 64 + low b) * 64 + low c) :: ·) <$>
              decodeFrom (index + 3) rest
    else if 0xF0 ≤ a && a ≤ 0xF4 then
      match rest with
      | [] => throw (.incomplete index)
      | b :: rest =>
        if !mayFollow a b then throw (.invalid 1 index)
        else match rest with
          | [] => throw (.incomplete index)
          | c :: rest =>
            if !isContinuation c then throw (.invalid 2 index)
            else match rest with
              | [] => throw (.incomplete index)
              | d :: rest =>
                if !isContinuation d then throw (.invalid 3 index)
                else
                  (Char.ofNat (((a.toNat % 8 * 64 + low b) * 64 + low c) * 64 + low d) :: ·) <$>
                    decodeFrom (index + 4) rest
    else throw (.invalid 1 index)

def decode (bytes : List UInt8) : Except Fault (List Char) := decodeFrom 0 bytes

end Utf8

end ServerForge.Text
