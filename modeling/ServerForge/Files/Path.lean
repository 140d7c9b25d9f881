import ServerForge.Text.Split

/-! Slash-separated paths. A path is kept as it was written; joining never normalizes, and two
paths are compared by their components. -/
namespace ServerForge

structure Path where
  text : String
  deriving DecidableEq, Repr, Inhabited

namespace Path

inductive Component where
  | root
  | current
  | parent
  | name (text : String)
  deriving DecidableEq, Repr

def isAbsolute (path : Path) : Bool := path.text.toList.head? == some '/'

/-- The texts between the slashes, without the root. -/
def pieces (path : Path) : List String :=
  let cs := path.text.toList
  (Text.splitWhere (· == '/') (if path.isAbsolute then cs.drop 1 else cs)).map String.ofList

/-- What a piece stands for; an empty one and a dot stand for nothing. -/
def component? (piece : String) : Option Component :=
  if piece = "" ∨ piece = "." then none
  else if piece = ".." then some .parent
  else some (.name piece)

/-- The pieces with what they stand for. A dot counts only at the very start. -/
def parts (path : Path) : List (String × Option Component) :=
  match path.isAbsolute, path.pieces with
  | false, "." :: rest => (".", some .current) :: rest.map fun piece => (piece, component? piece)
  | _, pieces => pieces.map fun piece => (piece, component? piece)

def start (path : Path) : List Component := if path.isAbsolute then [.root] else []

def components (path : Path) : List Component := path.start ++ path.parts.filterMap (·.2)

/-- Leading parts of the path, as they are written in it. -/
def written (path : Path) (parts : List (String × Option Component)) : Path :=
  ⟨(if path.isAbsolute then "/" else "") ++ "/".intercalate (parts.map (·.1))⟩

/-- The parts up to each one that stands for a component, the longest lead first. -/
def leads : List (String × Option Component) → List (List (String × Option Component))
  | [] => []
  | part :: parts => (leads parts).map (part :: ·) ++ if part.2.isSome then [[part]] else []

/-- An absolute second path replaces the first; else one slash stands between them. -/
def join (base child : Path) : Path :=
  if child.isAbsolute ∨ base.text = "" then child
  else if base.text.toList.getLast? = some '/' then ⟨base.text ++ child.text⟩
  else ⟨base.text ++ "/" ++ child.text⟩

/-- The path and those of the directories that lead to it, the longest first, each as the path
writes it. -/
def ancestry (path : Path) : List Path :=
  match (leads path.parts).map path.written ++ if path.isAbsolute then [⟨"/"⟩] else [] with
  | [] => []
  | _ :: shorter => path :: shorter

/-- The path of the directory that holds this one, unless that is the root or there is none. -/
def parent? (path : Path) : Option Path :=
  match path.ancestry with
  | [] => none
  | [_] => if path.isAbsolute then none else some ⟨""⟩
  | _ :: parent :: _ => some parent

/-- The parts that remain after those of the given components. -/
def afterComponents : List Component → List (String × Option Component) →
    Option (List (String × Option Component))
  | [], parts => some parts
  | _ :: _, [] => none
  | expected :: rest, (_, none) :: parts => afterComponents (expected :: rest) parts
  | expected :: rest, (_, some found) :: parts =>
    if found = expected then afterComponents rest parts else none

def dropEmpty (parts : List (String × Option Component)) : List (String × Option Component) :=
  parts.dropWhile (·.2.isNone)

/-- The path as seen from `base`, if its components begin with those of `base`. What remains
is as written, without the slashes and dots at its ends. -/
def relativeTo? (path base : Path) : Option Path :=
  match base.components with
  | [] =>
    let kept := (dropEmpty path.parts.reverse).reverse
    some ⟨(if path.isAbsolute then "/" else "") ++ "/".intercalate (kept.map (·.1))⟩
  | expected =>
    let inside :=
      if path.isAbsolute then
        if expected.head? = some .root then afterComponents (expected.drop 1) path.parts else none
      else afterComponents expected path.parts
    inside.map fun parts =>
      ⟨"/".intercalate ((dropEmpty (dropEmpty parts).reverse).reverse.map (·.1))⟩

end Path

end ServerForge
