import ServerForge.Decimal.Binary64

/-! JSON values. An object is a list of members: the order is the one it prints in, which a
record chooses for itself and `Json.object` makes the order of the keys. -/
namespace ServerForge

inductive Json.Number where
  | int (value : Int)
  | float (value : Binary64)
  deriving DecidableEq

inductive Json where
  | null
  | bool (value : Bool)
  | num (value : Json.Number)
  | str (value : String)
  | arr (items : List Json)
  | obj (members : List (String × Json))
  deriving Inhabited

namespace Json

abbrev Members := List (String × Json)

/-- Puts a member at its key's place, replacing an earlier one of that key. -/
def insert (key : String) (value : Json) : Members → Members
  | [] => [(key, value)]
  | (k, v) :: rest =>
    if key = k then (key, value) :: rest
    else if key < k then (key, value) :: (k, v) :: rest
    else (k, v) :: insert key value rest

def insertAll (members : Members) (into : Members) : Members :=
  members.foldl (fun acc member => insert member.1 member.2 acc) into

/-- An object whose members stand in the order of their keys. -/
def object (members : Members) : Json := .obj (insertAll members [])

def get? (key : String) : Json → Option Json
  | .obj members => members.lookup key
  | _ => none

def isNull : Json → Bool
  | .null => true
  | _ => false

def text? : Json → Option String
  | .str value => some value
  | _ => none

/-- A list of texts. -/
def texts (values : List String) : Json := .arr (values.map .str)

end Json

end ServerForge
