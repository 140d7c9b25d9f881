import ServerForge.Files.Tree
import ServerForge.Proofs.PathPieces

/-! What the operations on files change in a tree. Where a path leads is known without the tree,
since there are no links: `Path.destination`. Main statements: creating directories adds some of
those that the path leads through and changes nothing else; a write changes the one file that the
path leads to; and what was written is read again, whatever else is added or written elsewhere. -/
namespace ServerForge

open Files

/-- Where a piece of a path leads from a location. -/
def Files.follow (location : Location) (piece : String) : Location :=
  if piece = "" ∨ piece = "." then location
  else if piece = ".." then location.dropLast
  else location ++ [piece]

@[simp] theorem Files.follow_empty (location : Location) : follow location "" = location := rfl

theorem Files.follow_name {location : Location} {piece : String} (nonempty : piece ≠ "")
    (current : piece ≠ ".") (parent : piece ≠ "..") :
    follow location piece = location ++ [piece] := by
  simp [follow, nonempty, current, parent]

namespace Path

/-! ## Where a path leads -/

def origin (path : Path) (here : Location) : Location := if path.isAbsolute then [] else here

def destination (path : Path) (here : Location) : Location :=
  path.pieces.foldl follow (path.origin here)

/-- The location is where some leading pieces of the path lead. -/
def LeadsThrough (path : Path) (here location : Location) : Prop :=
  ∃ lead, lead <+: path.pieces ∧ location = lead.foldl follow (path.origin here)

theorem origin_join (base : Path) {child : Path} (relative : child.isAbsolute = false)
    (here : Location) : (base.join child).origin here = base.origin here := by
  rw [origin, isAbsolute_join base relative, origin]

theorem destination_join (base : Path) {child : Path} (relative : child.isAbsolute = false)
    (here : Location) :
    (base.join child).destination here = child.pieces.foldl follow (base.destination here) := by
  obtain ⟨lead, joined, whole⟩ := pieces_join base relative
  have kept : base.pieces.foldl follow (base.origin here) =
      lead.foldl follow (base.origin here) := by
    rcases whole with whole | whole <;> simp [whole]
  rw [destination, joined, List.foldl_append, origin_join base relative, destination, kept]

/-- Behind the base, a path of one piece only leads to its end. -/
theorem leadsThrough_join {base child : Path} {name : String} {here location : Location}
    (relative : child.isAbsolute = false) (single : child.pieces = [name])
    (through : (base.join child).LeadsThrough here location) :
    base.LeadsThrough here location ∨ location = (base.join child).destination here := by
  obtain ⟨lead, inside, leads⟩ := through
  obtain ⟨front, joined, whole⟩ := pieces_join base relative
  rw [joined, single, List.prefix_concat_iff] at inside
  rcases inside with all | inside
  · right
    rw [leads, all, destination, joined, single]
  · left
    refine ⟨lead, ?_, ?_⟩
    · rcases whole with whole | whole
      · rwa [whole]
      · rw [whole]
        exact inside.trans (List.prefix_append front [""])
    · rw [leads, origin_join base relative]

/-- A path that leads to another leads to a location on the way. -/
theorem leadsThrough_of_mem_ancestry {path ancestor : Path} (member : ancestor ∈ path.ancestry)
    (here : Location) : path.LeadsThrough here (ancestor.destination here) := by
  rcases ancestry_cases member with ⟨absolute, rfl⟩ | ⟨inside, same⟩
  · refine ⟨[], List.nil_prefix, ?_⟩
    rw [origin, absolute]
    rfl
  · refine ⟨ancestor.pieces, inside, ?_⟩
    rw [destination, origin, same, origin]

end Path

namespace Files.Tree

theorem enter_eq_ok {tree : Tree} {location next : Location} {piece : String}
    (entered : tree.enter location piece = .ok next) : next = follow location piece := by
  unfold enter at entered
  unfold follow
  split at entered
  next blank =>
    rw [if_pos blank]
    exact (Except.ok.inj entered).symm
  next named =>
    rw [if_neg named]
    split at entered
    next parent =>
      rw [if_pos parent]
      exact (Except.ok.inj entered).symm
    next other =>
      rw [if_neg other]
      split at entered
      · cases entered
      · split at entered
        · cases entered
        · cases entered
        · exact (Except.ok.inj entered).symm

theorem walk_cons {tree : Tree} {start location : Location} {piece : String}
    {pieces : List String} :
    tree.walk start (piece :: pieces) = .ok location ↔
      ∃ next, tree.enter start piece = .ok next ∧ tree.walk next pieces = .ok location := by
  rw [walk]
  cases tree.enter start piece <;> simp [bind, Except.bind]

theorem walk_eq_ok {tree : Tree} {start location : Location} {pieces : List String}
    (walked : tree.walk start pieces = .ok location) : location = pieces.foldl follow start := by
  induction pieces generalizing start with
  | nil => exact (Except.ok.inj walked).symm
  | cons piece pieces ih =>
    obtain ⟨next, entered, rest⟩ := walk_cons.mp walked
    rw [List.foldl_cons, ← enter_eq_ok entered]
    exact ih rest

theorem foldl_follow_filter (pieces : List String) (location : Location) :
    (pieces.filter (· != "")).foldl follow location = pieces.foldl follow location := by
  rw [List.foldl_filter]
  congr 1
  funext location piece
  by_cases empty : piece = "" <;> simp [empty]

def Target.location : Target → Location
  | .directory location => location
  | .name location => location

/-- Everything that a path can be found to lead to. -/
theorem locate_cases {tree : Tree} {path : Path} {target : Target}
    (located : tree.locate path = .ok target) :
    let pieces := path.pieces.filter (· != "")
    (pieces = [] ∧ target = .directory (path.origin tree.here)) ∨
    (∃ location, tree.walk (path.origin tree.here) pieces = .ok location ∧
      target = .directory location) ∨
    ∃ front last location, pieces = front ++ [last] ∧ last ≠ "." ∧ last ≠ ".." ∧
      byteLength last ≤ nameLimit ∧ tree.walk (path.origin tree.here) front = .ok location ∧
      target = .name (location ++ [last]) := by
  intro pieces
  unfold locate at located
  split at located
  · cases located
  split at located
  · cases located
  split at located
  · cases located
  dsimp only at located
  split at located
  next none =>
    exact .inl ⟨List.getLast?_eq_none_iff.mp none, (Except.ok.inj located).symm⟩
  next last ends =>
    obtain ⟨front, whole⟩ := List.getLast?_eq_some_iff.mp ends
    split at located
    · refine .inr (.inl ?_)
      change Target.directory <$> tree.walk (path.origin tree.here) pieces = .ok target at located
      cases walked : tree.walk (path.origin tree.here) pieces with
      | error fault => simp [walked] at located
      | ok location =>
        rw [walked] at located
        exact ⟨location, rfl, (Except.ok.inj located).symm⟩
    next other =>
      rw [not_or] at other
      rw [whole, List.dropLast_concat] at located
      change (tree.walk (path.origin tree.here) front >>= _) = _ at located
      cases walked : tree.walk (path.origin tree.here) front with
      | error fault => simp [walked, bind, Except.bind] at located
      | ok location =>
        simp only [walked, bind, Except.bind] at located
        split at located
        · cases located
        next short =>
          exact .inr (.inr ⟨front, last, location, whole, other.1, other.2, not_lt.mp short,
            walked, (Except.ok.inj located).symm⟩)

/-- Without links a path leads where its pieces say. -/
theorem locate_eq_ok {tree : Tree} {path : Path} {target : Target}
    (located : tree.locate path = .ok target) :
    target.location = path.destination tree.here := by
  have whole (start : Location) := foldl_follow_filter path.pieces start
  rcases locate_cases located with ⟨none, rfl⟩ | ⟨location, walked, rfl⟩ |
    ⟨front, last, location, pieces, current, parent, _, walked, rfl⟩
  · rw [Path.destination, ← whole, none]
    rfl
  · rw [Path.destination, ← whole, ← walk_eq_ok walked]
    rfl
  · have nonempty : last ≠ "" := by
      have member : last ∈ path.pieces.filter (· != "") := by simp [pieces]
      simpa using (List.mem_filter.mp member).2
    rw [Path.destination, ← whole, pieces, List.foldl_append, ← walk_eq_ok walked]
    exact (follow_name nonempty current parent).symm

/-! ## Changes -/

/-- Between the two trees, directories were added at some locations and files written at some:
the tables say which, and with which texts. Nothing was removed, and no entry became another kind
of entry. -/
structure Changed (directories : Location → Prop) (files : Location → String → Prop)
    (before after : Tree) : Prop where
  here : after.here = before.here
  entries : ∀ location, after.find? location = before.find? location ∨
    (before.find? location = none ∧ after.find? location = some .directory ∧
      directories location) ∨
    ∃ text, before.find? location ≠ some .directory ∧ after.find? location = some (.file text) ∧
      files location text

section
variable {directories : Location → Prop} {files : Location → String → Prop}
  {before after : Tree}

theorem Changed.refl (tree : Tree) : Changed directories files tree tree :=
  ⟨rfl, fun _ => .inl rfl⟩

theorem Changed.trans {middle : Tree} (first : Changed directories files before middle)
    (second : Changed directories files middle after) :
    Changed directories files before after := by
  refine ⟨second.here.trans first.here, fun location => ?_⟩
  rcases second.entries location with kept | ⟨missing, made, allowed⟩ | ⟨text, free, held, allowed⟩
  · rw [kept]
    exact first.entries location
  · rcases first.entries location with same | ⟨_, there, _⟩ | ⟨_, _, there, _⟩
    · exact .inr (.inl ⟨same ▸ missing, made, allowed⟩)
    · simp [there] at missing
    · simp [there] at missing
  · rcases first.entries location with same | ⟨_, there, _⟩ | ⟨_, open_, _, _⟩
    · exact .inr (.inr ⟨text, same ▸ free, held, allowed⟩)
    · exact absurd there free
    · exact .inr (.inr ⟨text, open_, held, allowed⟩)

theorem Changed.imp {directories' : Location → Prop} {files' : Location → String → Prop}
    (changed : Changed directories files before after)
    (made : ∀ location, directories location → directories' location)
    (written : ∀ location text, files location text → files' location text) :
    Changed directories' files' before after := by
  refine ⟨changed.here, fun location => ?_⟩
  rcases changed.entries location with kept | ⟨missing, there, allowed⟩ |
    ⟨text, free, there, allowed⟩
  · exact .inl kept
  · exact .inr (.inl ⟨missing, there, made location allowed⟩)
  · exact .inr (.inr ⟨text, free, there, written location text allowed⟩)

theorem Changed.directory (changed : Changed directories files before after)
    {location : Location} (there : before.find? location = some .directory) :
    after.find? location = some .directory := by
  rcases changed.entries location with kept | ⟨missing, _, _⟩ | ⟨_, free, _, _⟩
  · rw [kept, there]
  · simp [there] at missing
  · exact absurd there free

theorem Changed.enter (changed : Changed directories files before after)
    {location next : Location} {piece : String}
    (entered : before.enter location piece = .ok next) :
    after.enter location piece = .ok next := by
  unfold Tree.enter at entered ⊢
  split at entered
  next blank => rwa [if_pos blank]
  next named =>
    rw [if_neg named]
    split at entered
    next parent => rwa [if_pos parent]
    next other =>
      rw [if_neg other]
      split at entered
      · cases entered
      next short =>
        rw [if_neg short]
        split at entered
        · cases entered
        · cases entered
        next there => rwa [changed.directory there]

theorem Changed.walk (changed : Changed directories files before after)
    {start location : Location} {pieces : List String}
    (walked : before.walk start pieces = .ok location) :
    after.walk start pieces = .ok location := by
  induction pieces generalizing start with
  | nil => exact walked
  | cons piece pieces ih =>
    obtain ⟨next, entered, rest⟩ := walk_cons.mp walked
    exact walk_cons.mpr ⟨next, changed.enter entered, ih rest⟩

/-- Where a path led, it still leads. -/
theorem Changed.locate (changed : Changed directories files before after)
    {path : Path} {target : Target} (located : before.locate path = .ok target) :
    after.locate path = .ok target := by
  have mapped {β : Type} {start : Location} {pieces : List String} {f : Location → Except Fault β}
      {result : β} (run : (before.walk start pieces >>= f) = .ok result) :
      (after.walk start pieces >>= f) = .ok result := by
    cases walked : before.walk start pieces with
    | error fault => simp [walked, bind, Except.bind] at run
    | ok location => rwa [changed.walk walked, ← walked]
  -- Only the walk looks at entries, so that all tests before it come out alike.
  unfold Tree.locate at located ⊢
  rw [changed.here]
  split at located
  · cases located
  next clean =>
    rw [if_neg clean]
    split at located
    · cases located
    next short =>
      rw [if_neg short]
      split at located
      · cases located
      next nonempty =>
        rw [if_neg nonempty]
        dsimp only at located ⊢
        split at located
        next => exact located
        next =>
          split at located
          next dots =>
            rw [if_pos dots]
            exact mapped located
          next other =>
            rw [if_neg other]
            exact mapped located

end

/-- An entry that is put where no directory is changes nothing else. -/
theorem changed_put_file {tree : Tree} {location : Location} (text : String)
    (free : tree.find? location ≠ some .directory) :
    Changed (fun _ => False) (fun place held => place = location ∧ held = text) tree
      (tree.put location (.file text)) := by
  have inside : location ≠ [] := by
    rintro rfl
    exact free (find?_root tree)
  refine ⟨rfl, fun place => ?_⟩
  by_cases same : place = location
  · subst same
    exact .inr (.inr ⟨text, free, find?_put_same tree _ inside, rfl, rfl⟩)
  · exact .inl (find?_put_other tree _ same)

theorem changed_put_directory {tree : Tree} {location : Location}
    (missing : tree.find? location = none) :
    Changed (· = location) (fun _ _ => False) tree (tree.put location .directory) := by
  have inside : location ≠ [] := by
    rintro rfl
    simp at missing
  refine ⟨rfl, fun place => ?_⟩
  by_cases same : place = location
  · subst same
    exact .inr (.inl ⟨missing, find?_put_same tree _ inside, rfl⟩)
  · exact .inl (find?_put_other tree _ same)

/-! ## Directories -/

/-- A directory is created where its path leads, if nothing is there. -/
theorem makeDirectory_eq_ok {tree after : Tree} {path : Path}
    (made : tree.makeDirectory path = .ok after) :
    tree.find? (path.destination tree.here) = none ∧
      after = tree.put (path.destination tree.here) .directory := by
  unfold makeDirectory at made
  cases located : tree.locate path with
  | error fault => simp [located, bind, Except.bind] at made
  | ok target =>
    have leads := locate_eq_ok located
    cases target with
    | directory location => simp [located, bind, Except.bind] at made
    | name location =>
      rw [← leads]
      simp only [located, bind, Except.bind] at made
      split at made
      · cases made
      · exact ⟨by assumption, (Except.ok.inj made).symm⟩

theorem makeDirectory_changed {tree after : Tree} {path : Path}
    (made : tree.makeDirectory path = .ok after) :
    Changed (· = path.destination tree.here) (fun _ _ => False) tree after := by
  obtain ⟨missing, rfl⟩ := makeDirectory_eq_ok made
  exact changed_put_directory missing

section
variable {directories : Location → Prop} {here : Location}

theorem climb_changed {tree after : Tree} (stands : tree.here = here)
    {missing paths left : List Path}
    (allowed : ∀ path ∈ missing ++ paths, directories (path.destination here))
    (climbed : tree.climb missing paths = .ok (after, left)) :
    Changed directories (fun _ _ => False) tree after ∧
      ∀ path ∈ left, directories (path.destination here) := by
  -- On the paths still to be tried; those found missing are carried along with their bound.
  induction paths generalizing missing with
  | nil =>
    cases climbed
    exact ⟨.refl tree, fun path member => allowed path (by simp [member])⟩
  | cons path paths ih =>
    have known : ∀ path ∈ missing, directories (path.destination here) :=
      fun path member => allowed path (by simp [member])
    unfold climb at climbed
    split at climbed
    next made =>
      cases climbed
      refine ⟨(makeDirectory_changed made).imp ?_ (fun _ _ => id), known⟩
      rintro location rfl
      rw [stands]
      exact allowed path (by simp)
    next =>
      refine ih (fun other member => allowed other ?_) climbed
      simp only [List.cons_append, List.mem_cons, List.mem_append] at member ⊢
      tauto
    next =>
      split at climbed
      · cases climbed
        exact ⟨.refl tree, known⟩
      · cases climbed

theorem descend_changed {tree : Tree} (stands : tree.here = here) {paths : List Path}
    (allowed : ∀ path ∈ paths, directories (path.destination here)) :
    Changed directories (fun _ _ => False) tree (tree.descend paths).2 := by
  induction paths generalizing tree with
  | nil => exact .refl tree
  | cons path paths ih =>
    have rest : ∀ path ∈ paths, directories (path.destination here) :=
      fun path member => allowed path (by simp [member])
    unfold descend
    split
    next after made =>
      have step := makeDirectory_changed made
      refine .trans (step.imp ?_ fun _ _ => id) (ih (step.here.trans stands) rest)
      rintro location rfl
      rw [stands]
      exact allowed path (by simp)
    next =>
      split
      · exact ih stands rest
      · exact .refl tree

end

/-- Whether it succeeds or not, creating directories adds some of those on the way. -/
theorem makeDirectories_changed (tree : Tree) (path : Path) :
    Changed (path.LeadsThrough tree.here) (fun _ _ => False) tree
      (tree.makeDirectories path).2 := by
  have allowed : ∀ ancestor ∈ [] ++ path.ancestry,
      path.LeadsThrough tree.here (ancestor.destination tree.here) :=
    fun _ member => Path.leadsThrough_of_mem_ancestry member tree.here
  unfold makeDirectories
  split
  · exact .refl tree
  next after missing climbed =>
    obtain ⟨upwards, left⟩ := climb_changed rfl allowed climbed
    exact upwards.trans (descend_changed upwards.here left)

/-! ## Files -/

/-- A file is written where its path leads, unless a directory is there. -/
theorem fileTarget_eq_ok {tree : Tree} {path : Path} {location : Location}
    (found : tree.fileTarget path = .ok location) :
    location = path.destination tree.here ∧ tree.locate path = .ok (.name location) ∧
      endsInSlash path = false ∧ tree.find? location ≠ some .directory := by
  unfold fileTarget at found
  cases located : tree.locate path with
  | error fault => simp [located, bind, Except.bind] at found
  | ok target =>
    have leads := locate_eq_ok located
    cases target with
    | directory place => simp [located, bind, Except.bind] at found
    | name place =>
      simp only [located, bind, Except.bind] at found
      split at found
      · cases found
      next free =>
        rw [not_or] at free
        cases found
        exact ⟨leads, rfl, by simpa using free.1, free.2⟩

theorem write_cases (tree : Tree) (path : Path) (text : String) :
    (∃ fault, tree.write path text = (.error fault, tree)) ∨
    ∃ location, tree.fileTarget path = .ok location ∧
      tree.write path text = (.ok (), tree.put location (.file text)) := by
  unfold write
  cases tree.fileTarget path with
  | error fault => exact .inl ⟨fault, rfl⟩
  | ok location => exact .inr ⟨location, rfl, rfl⟩

theorem write_changed (tree : Tree) (path : Path) (text : String) :
    Changed (fun _ => False)
      (fun location held => location = path.destination tree.here ∧ held = text) tree
      (tree.write path text).2 := by
  rcases write_cases tree path text with ⟨fault, failed⟩ | ⟨location, found, wrote⟩
  · rw [failed]
    exact .refl tree
  · obtain ⟨rfl, _, _, free⟩ := fileTarget_eq_ok found
    rw [wrote]
    exact changed_put_file text free

/-- What was written is read, as long as only other files change. -/
theorem read_of_write {tree after : Tree} {path : Path} {text : String}
    {directories : Location → Prop} {files : Location → String → Prop}
    (wrote : (tree.write path text).1 = .ok ())
    (later : Changed directories files (tree.write path text).2 after)
    (other : ∀ held, ¬ files (path.destination tree.here) held) :
    after.read path = .ok text := by
  rcases write_cases tree path text with ⟨fault, failed⟩ | ⟨location, found, put⟩
  · simp [failed] at wrote
  · obtain ⟨leads, located, slashless, free⟩ := fileTarget_eq_ok found
    rw [put] at later
    have inside : location ≠ [] := by
      rintro rfl
      exact free (find?_root tree)
    have there := find?_put_same tree (.file text) inside
    have held : after.find? location = some (.file text) := by
      rcases later.entries location with kept | ⟨missing, _, _⟩ | ⟨_, _, _, written⟩
      · rw [kept, there]
      · simp [there] at missing
      · exact absurd written (leads ▸ other _)
    have still := later.locate ((changed_put_file text free).locate located)
    simp [read, still, held, slashless, bind, Except.bind, pure, Except.pure]

end Files.Tree

end ServerForge
