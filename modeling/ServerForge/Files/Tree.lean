import ServerForge.Files.Access
import ServerForge.Lookup
import ServerForge.Text.Utf8

/-! A tree of directories and files without links or permissions. An entry is known by the
names that lead to it from the root; `Tree.find?` is the view that every operation is about. -/
namespace ServerForge.Files

/-- The names that lead from the root to an entry. -/
abbrev Location := List String

inductive Entry where
  | directory
  | file (text : String)
  deriving DecidableEq

/-- The entries other than the root, and the working directory. -/
structure Tree where
  entries : List (Location × Entry)
  here : Location

namespace Tree

/-- The greatest length of a name in bytes. -/
def nameLimit : Nat := 255

/-- A path has to be shorter than this in bytes. -/
def pathLimit : Nat := 4096

def find? (tree : Tree) (location : Location) : Option Entry :=
  if location = [] then some .directory else tree.entries.lookup location

def put (tree : Tree) (location : Location) (entry : Entry) : Tree :=
  { tree with entries := Lookup.replace location entry tree.entries }

@[simp] theorem find?_root (tree : Tree) : tree.find? [] = some .directory := by simp [find?]

theorem find?_put_same (tree : Tree) {location : Location} (entry : Entry) (h : location ≠ []) :
    (tree.put location entry).find? location = some entry := by
  simp [find?, put, h]

theorem find?_put_other (tree : Tree) {location other : Location} (entry : Entry)
    (h : other ≠ location) : (tree.put location entry).find? other = tree.find? other := by
  unfold find? put
  split
  · rfl
  · exact Lookup.lookup_replace_other h entry tree.entries

def byteLength (text : String) : Nat := Text.byteCount text.toList

/-- Goes from a directory into the one that a piece of a path names. -/
def enter (tree : Tree) (location : Location) (piece : String) : Except Fault Location :=
  if piece = "" ∨ piece = "." then return location
  else if piece = ".." then return location.dropLast
  else if byteLength piece > nameLimit then throw .nameTooLong
  else match tree.find? (location ++ [piece]) with
    | none => throw .notFound
    | some (.file _) => throw .notDirectory
    | some .directory => return location ++ [piece]

def walk (tree : Tree) (location : Location) : List String → Except Fault Location
  | [] => return location
  | piece :: pieces => do tree.walk (← tree.enter location piece) pieces

/-- Where a path ends: at a directory that exists, or at a name in one. -/
inductive Target where
  | directory (location : Location)
  | name (location : Location)

/-- Follows all of a path but its last name, which need not exist. -/
def locate (tree : Tree) (path : Path) : Except Fault Target :=
  if path.text.toList.contains '\x00' then throw .nulByte
  else if byteLength path.text ≥ pathLimit then throw .nameTooLong
  else if path.text = "" then throw .notFound
  else
    let start := if path.isAbsolute then [] else tree.here
    let pieces := path.pieces.filter (· != "")
    match pieces.getLast? with
    | none => return .directory start
    | some last =>
      if last = "." ∨ last = ".." then return .directory (← tree.walk start pieces)
      else do
        let location ← tree.walk start pieces.dropLast
        if byteLength last > nameLimit then throw .nameTooLong
        else return .name (location ++ [last])

def endsInSlash (path : Path) : Bool := path.text.toList.getLast? == some '/'

def makeDirectory (tree : Tree) (path : Path) : Except Fault Tree := do
  match ← tree.locate path with
  | .directory _ => throw .alreadyExists
  | .name location =>
    match tree.find? location with
    | some _ => throw .alreadyExists
    | none => return tree.put location .directory

def isDirectory (tree : Tree) (path : Path) : Bool :=
  match tree.locate path with
  | .ok (.directory _) => true
  | .ok (.name location) => tree.find? location == some .directory
  | .error _ => false

/-- Creates the deepest directory that can be created, and tells which ones are still to be
created below it, the deepest first. One that exists already will do. -/
def climb (tree : Tree) : List Path → List Path → Except Fault (Tree × List Path)
  | missing, [] => return (tree, missing)
  | missing, path :: rest =>
    match tree.makeDirectory path with
    | .ok tree => return (tree, missing)
    | .error .notFound => tree.climb (path :: missing) rest
    | .error fault =>
      if fault = .alreadyExists ∧ tree.isDirectory path then return (tree, missing)
      else throw fault

/-- Creates directories one below the other, up to the first that cannot be created. -/
def descend (tree : Tree) : List Path → Except Fault Unit × Tree
  | [] => (.ok (), tree)
  | path :: rest =>
    match tree.makeDirectory path with
    | .ok tree => tree.descend rest
    | .error fault =>
      if fault = .alreadyExists ∧ tree.isDirectory path then tree.descend rest
      else (.error fault, tree)

def makeDirectories (tree : Tree) (path : Path) : Except Fault Unit × Tree :=
  match tree.climb [] path.ancestry with
  | .error fault => (.error fault, tree)
  | .ok (tree, missing) => tree.descend missing

/-- Where a file is written: the place of its name, unless a directory is there. -/
def fileTarget (tree : Tree) (path : Path) : Except Fault Location := do
  match ← tree.locate path with
  | .directory _ => throw .isDirectory
  | .name location =>
    if endsInSlash path ∨ tree.find? location = some .directory then throw .isDirectory
    else return location

def write (tree : Tree) (path : Path) (text : String) : Except Fault Unit × Tree :=
  match tree.fileTarget path with
  | .error fault => (.error fault, tree)
  | .ok location => (.ok (), tree.put location (.file text))

def read (tree : Tree) (path : Path) : Except Fault String := do
  match ← tree.locate path with
  | .directory _ => throw .isDirectory
  | .name location =>
    match tree.find? location with
    | none => throw .notFound
    | some .directory => throw .isDirectory
    | some (.file text) => if endsInSlash path then throw .notDirectory else return text

def openLog (tree : Tree) (path : Path) : Except Fault Unit × Tree :=
  match tree.fileTarget path with
  | .error fault => (.error fault, tree)
  | .ok location =>
    match tree.find? location with
    | some _ => (.ok (), tree)
    | none => (.ok (), tree.put location (.file ""))

end Tree

instance : Access (StateM Tree) where
  makeDirectories path := modifyGet (·.makeDirectories path)
  write path text := modifyGet (·.write path text)
  read path := return (← get).read path
  openLog path := modifyGet (·.openLog path)

end ServerForge.Files
