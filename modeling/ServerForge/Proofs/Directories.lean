import ServerForge.Proofs.TreeChanges

/-! Directories that are there. Main statements: where a directory is there, so are all that lead to
it, and creating it again changes nothing; and directories are created with success exactly if the
last of them is there afterwards. -/
namespace ServerForge

open Files

namespace Path

/-! ## Texts of leading paths -/

theorem body_eq_intercalate (path : Path) :
    path.body = ['/'].intercalate (path.pieces.map String.toList) := by
  rw [pieces_eq, List.map_map, show String.toList ∘ String.ofList = id from funext fun cs =>
    String.toList_ofList, List.map_id, Text.intercalate_splitWhere (by simp)]

theorem intercalate_isPrefix {α : Type} (separator : List α) {front whole : List (List α)}
    (inside : front <+: whole) : separator.intercalate front <+: separator.intercalate whole := by
  induction front generalizing whole with
  | nil => simp
  | cons first front ih =>
    obtain ⟨later, rfl⟩ := inside
    cases front with
    | nil =>
      cases later with
      | nil => simp
      | cons second later =>
        rw [List.singleton_append, List.intercalate_cons_cons, List.append_assoc]
        simp
    | cons second front =>
      have rest := ih (List.prefix_append (second :: front) later)
      rw [List.cons_append, List.cons_append, List.intercalate_cons_cons,
        List.intercalate_cons_cons, List.append_assoc, List.append_assoc]
      exact List.prefix_append_right_inj _ |>.mpr (List.prefix_append_right_inj _ |>.mpr rest)

/-- Fewer pieces make a shorter text. -/
theorem text_isPrefix {path ancestor : Path} (inside : ancestor.pieces <+: path.pieces)
    (same : ancestor.isAbsolute = path.isAbsolute) :
    ancestor.text.toList <+: path.text.toList := by
  rw [toList_eq, toList_eq path, rootChars, same, ← rootChars, body_eq_intercalate,
    body_eq_intercalate path]
  exact List.prefix_append_right_inj _ |>.mpr (intercalate_isPrefix _ (inside.map _))

/-- A text that the file system takes for a path. -/
structure Accepted (path : Path) : Prop where
  clean : '\x00' ∉ path.text.toList
  short : Tree.byteLength path.text < Tree.pathLimit
  nonempty : path.text ≠ ""

theorem byteCount_append_le (front rest : List Char) :
    Text.byteCount front ≤ Text.byteCount (front ++ rest) := by
  have grows (cs : List Char) (count : Nat) :
      count ≤ cs.foldl (fun count c => count + c.utf8Size) count := by
    induction cs generalizing count with
    | nil => exact Nat.le_refl count
    | cons c cs ih => exact (Nat.le_add_right count _).trans (ih _)
  rw [Text.byteCount, Text.byteCount, List.foldl_append]
  exact grows rest _

theorem Accepted.of_isPrefix {path ancestor : Path} (accepted : path.Accepted)
    (inside : ancestor.pieces <+: path.pieces) (same : ancestor.isAbsolute = path.isAbsolute) :
    ancestor.Accepted := by
  obtain ⟨rest, whole⟩ := text_isPrefix inside same
  refine ⟨fun nul => accepted.clean ?_, ?_, ?_⟩
  · rw [← whole]
    exact List.mem_append_left _ nul
  · have shorter := byteCount_append_le ancestor.text.toList rest
    rw [whole] at shorter
    exact lt_of_le_of_lt shorter accepted.short
  · intro empty
    -- The empty path has one piece only, which no other relative path begins with.
    have pieces : ancestor.pieces = [""] := by
      rw [pieces_of_unbroken (by simp [empty]), empty]
    have relative : path.isAbsolute = false := by
      rw [← same]
      exact isAbsolute_eq_false (by simp [empty])
    obtain ⟨later, first⟩ := inside
    rw [pieces] at first
    exact accepted.nonempty (text_of_head?_pieces relative (by rw [← first]; rfl))

/-- A piece that is not empty and not a dot or two names an entry. -/
theorem entryName_of_mem {path : Path} {piece : String}
    (member : piece ∈ path.pieces ∧ (piece != "") = true) (current : piece ≠ ".")
    (parent : piece ≠ "..") : EntryName piece :=
  ⟨by simpa using member.2, slash_not_mem_piece member.1, current, parent⟩

/-- The longest path of an ancestry is the path itself. -/
theorem ancestry_eq_cons {path : Path} (named : path.parts.filterMap (·.2) ≠ []) :
    ∃ shorter, path.ancestry = path :: shorter := by
  have leading (parts : List (String × Option Component))
      (some_ : parts.filterMap (·.2) ≠ []) : leads parts ≠ [] := by
    induction parts with
    | nil => exact absurd rfl some_
    | cons part parts ih =>
      obtain ⟨text, component⟩ := part
      cases component with
      | none => simpa [leads] using ih (by simpa using some_)
      | some component => simp [leads]
  obtain ⟨lead, others, shape⟩ := List.exists_cons_of_ne_nil (leading path.parts named)
  unfold ancestry
  rw [shape]
  exact ⟨_, rfl⟩

/-- The entry of a directory is the longest of its ancestry. -/
theorem ancestry_join (base : Path) {name : String} (entry : EntryName name) :
    ∃ shorter, (base.join ⟨name⟩).ancestry = base.join ⟨name⟩ :: shorter := by
  apply ancestry_eq_cons
  intro none
  have listed := components_join base entry
  rw [components, none, List.append_nil, start] at listed
  split at listed
  · have last := congrArg List.getLast? listed
    simp at last
  · simp at listed

end Path

namespace Files.Tree

/-! ## Where a directory is -/

/-- Goes the whole way of a path, through directories only. -/
def reach (tree : Tree) (path : Path) : Except Fault Location :=
  tree.walk (path.origin tree.here) path.pieces

theorem walk_append (tree : Tree) (start : Location) (front later : List String) :
    tree.walk start (front ++ later) =
      tree.walk start front >>= fun location => tree.walk location later := by
  induction front generalizing start with
  | nil => rfl
  | cons piece front ih =>
    rw [List.cons_append, walk, walk]
    cases tree.enter start piece with
    | error fault => rfl
    | ok next => exact ih next

theorem walk_filter (tree : Tree) (start : Location) (pieces : List String) :
    tree.walk start (pieces.filter (· != "")) = tree.walk start pieces := by
  induction pieces generalizing start with
  | nil => rfl
  | cons piece pieces ih =>
    by_cases empty : piece = ""
    · subst empty
      exact ih start
    · rw [List.filter_cons_of_pos (by simpa using empty), walk, walk]
      cases tree.enter start piece with
      | error fault => rfl
      | ok next => exact ih next

theorem reach_eq_ok {tree : Tree} {path : Path} {location : Location}
    (reached : tree.reach path = .ok location) : location = path.destination tree.here :=
  walk_eq_ok reached

/-- An empty piece at the end of a path leads no further. -/
theorem walk_lead (tree : Tree) (start : Location) {pieces lead : List String}
    (whole : pieces = lead ∨ pieces = lead ++ [""]) :
    tree.walk start pieces = tree.walk start lead := by
  rcases whole with rfl | rfl
  · rfl
  · rw [← walk_filter, List.filter_append, ← walk_filter tree _ lead]
    simp

/-- The way of a joined path goes on from where the base leads. -/
theorem reach_join (tree : Tree) (base : Path) {child : Path}
    (relative : child.isAbsolute = false) :
    tree.reach (base.join child) =
      tree.reach base >>= fun location => tree.walk location child.pieces := by
  obtain ⟨lead, joined, whole⟩ := Path.pieces_join base relative
  rw [reach, reach, joined, Path.origin_join base relative, walk_append, walk_lead tree _ whole]

/-- Entering by a name finds a directory there. -/
theorem enter_name {tree : Tree} {location : Location} {name : String}
    (entry : Path.EntryName name) :
    tree.enter location name = .ok (location ++ [name]) ↔
      byteLength name ≤ nameLimit ∧ tree.find? (location ++ [name]) = some .directory := by
  unfold enter
  rw [if_neg (not_or.mpr ⟨entry.nonempty, entry.current⟩), if_neg entry.parent]
  by_cases long : byteLength name > nameLimit
  · rw [if_pos long]
    constructor
    · intro entered
      cases entered
    · intro short
      exact absurd long (not_lt.mpr short.1)
  · rw [if_neg long]
    cases found : tree.find? (location ++ [name]) with
    | none => simp [throw, throwThe, MonadExceptOf.throw]
    | some entry => cases entry <;> simp [throw, throwThe, MonadExceptOf.throw, pure, Except.pure,
        not_lt.mp long]

/-- What a path leads to, once all that is checked before the first step is in order. -/
theorem locate_of_accepted {tree : Tree} {path : Path} (accepted : path.Accepted) :
    tree.locate path =
      match (path.pieces.filter (· != "")).getLast? with
      | none => .ok (.directory (path.origin tree.here))
      | some last =>
        if last = "." ∨ last = ".." then
          Target.directory <$> tree.walk (path.origin tree.here) (path.pieces.filter (· != ""))
        else do
          let location ← tree.walk (path.origin tree.here) (path.pieces.filter (· != "")).dropLast
          if byteLength last > nameLimit then throw .nameTooLong
          else return .name (location ++ [last]) := by
  unfold locate
  rw [if_neg (by simpa using accepted.clean), if_neg (not_le.mpr accepted.short),
    if_neg accepted.nonempty]
  rfl

theorem accepted_of_locate {tree : Tree} {path : Path} {target : Target}
    (located : tree.locate path = .ok target) : path.Accepted := by
  unfold locate at located
  split at located
  · cases located
  next clean =>
    split at located
    · cases located
    next short =>
      split at located
      · cases located
      next nonempty => exact ⟨by simpa using clean, not_le.mp short, nonempty⟩

theorem reach_of_isDirectory {tree : Tree} {path : Path} (there : tree.isDirectory path = true) :
    path.Accepted ∧ tree.reach path = .ok (path.destination tree.here) := by
  unfold isDirectory at there
  cases located : tree.locate path with
  | error fault => simp [located] at there
  | ok target =>
    refine ⟨accepted_of_locate located, ?_⟩
    have reached : ∃ location, tree.reach path = .ok location := by
      rw [reach, ← walk_filter]
      rcases locate_cases located with ⟨none, -⟩ | ⟨location, walked, -⟩ |
        ⟨front, last, location, pieces, current, parent, short, walked, rfl⟩
      · exact ⟨_, by rw [none]; rfl⟩
      · exact ⟨location, walked⟩
      · have member : last ∈ path.pieces.filter (· != "") :=
          pieces ▸ List.mem_append_right front (List.mem_singleton_self last)
        have entry : Path.EntryName last :=
          Path.entryName_of_mem (List.mem_filter.mp member) current parent
        rw [located] at there
        refine ⟨location ++ [last], ?_⟩
        rw [pieces, walk_append, walked]
        have entered := (enter_name entry).mpr ⟨short, by simpa using there⟩
        simp [walk, entered, bind, Except.bind, pure, Except.pure]
    obtain ⟨location, reached⟩ := reached
    rw [reached, reach_eq_ok reached]

theorem isDirectory_of_reach {tree : Tree} {path : Path} (accepted : path.Accepted)
    (reached : tree.reach path = .ok (path.destination tree.here)) :
    tree.isDirectory path = true := by
  rw [reach, ← walk_filter] at reached
  rw [isDirectory, locate_of_accepted accepted]
  cases ends : (path.pieces.filter (· != "")).getLast? with
  | none => rfl
  | some last =>
    by_cases dots : last = "." ∨ last = ".."
    · simp only [if_pos dots, reached]
      rfl
    · obtain ⟨front, pieces⟩ := List.getLast?_eq_some_iff.mp ends
      have entry : Path.EntryName last := Path.entryName_of_mem
        (List.mem_filter.mp (List.mem_of_getLast? ends)) (not_or.mp dots).1 (not_or.mp dots).2
      rw [pieces, walk_append] at reached
      simp only [if_neg dots, pieces, List.dropLast_concat]
      cases walked : tree.walk (path.origin tree.here) front with
      | error fault =>
        rw [walked] at reached
        cases reached
      | ok location =>
        rw [walked] at reached
        obtain ⟨next, entered, -⟩ := walk_cons.mp reached
        obtain rfl := (enter_eq_ok entered).trans
          (follow_name entry.nonempty entry.current entry.parent)
        obtain ⟨short, found⟩ := (enter_name entry).mp entered
        simp only [bind, Except.bind, pure, Except.pure, if_neg (not_lt.mpr short), found]
        rfl

/-- A directory is there if the file system takes the path and the whole way leads through
directories. -/
theorem isDirectory_iff {tree : Tree} {path : Path} :
    tree.isDirectory path = true ↔
      path.Accepted ∧ tree.reach path = .ok (path.destination tree.here) :=
  ⟨reach_of_isDirectory, fun ⟨accepted, reached⟩ => isDirectory_of_reach accepted reached⟩

theorem isDirectory_root (tree : Tree) : tree.isDirectory ⟨"/"⟩ = true := by
  have accepted : (Path.mk "/").Accepted := ⟨by decide, by decide, by decide⟩
  exact isDirectory_iff.mpr ⟨accepted, rfl⟩

/-- All directories that lead to one that is there are there too. -/
theorem isDirectory_of_mem_ancestry {tree : Tree} {path ancestor : Path}
    (there : tree.isDirectory path = true) (member : ancestor ∈ path.ancestry) :
    tree.isDirectory ancestor = true := by
  rcases Path.ancestry_cases member with ⟨-, rfl⟩ | ⟨inside, same⟩
  · exact isDirectory_root tree
  · obtain ⟨accepted, reached⟩ := isDirectory_iff.mp there
    obtain ⟨later, whole⟩ := inside
    have origin : ancestor.origin tree.here = path.origin tree.here := by
      rw [Path.origin, same, Path.origin]
    rw [reach, ← whole, walk_append, ← origin] at reached
    cases walked : tree.walk (ancestor.origin tree.here) ancestor.pieces with
    | error fault =>
      rw [walked] at reached
      cases reached
    | ok location =>
      refine isDirectory_iff.mpr ⟨accepted.of_isPrefix ⟨later, whole⟩ same, ?_⟩
      rw [reach, walked, reach_eq_ok walked]

theorem Changed.isDirectory {directories : Location → Prop} {files : Location → String → Prop}
    {before after : Tree} (changed : Changed directories files before after) {path : Path}
    (there : before.isDirectory path = true) : after.isDirectory path = true := by
  obtain ⟨accepted, reached⟩ := isDirectory_iff.mp there
  refine isDirectory_iff.mpr ⟨accepted, ?_⟩
  rw [reach, changed.here]
  exact changed.walk reached

/-! ## Creating directories -/

/-- One that is there is not created once more. -/
theorem makeDirectory_of_isDirectory {tree : Tree} {path : Path}
    (there : tree.isDirectory path = true) :
    tree.makeDirectory path = .error .alreadyExists := by
  unfold isDirectory at there
  unfold makeDirectory
  split at there
  next location located =>
    rw [located]
    rfl
  next location located =>
    have found : tree.find? location = some .directory := by simpa using there
    rw [located]
    simp only [bind, Except.bind, found]
    rfl
  next => cases there

theorem isDirectory_of_makeDirectory {tree after : Tree} {path : Path}
    (made : tree.makeDirectory path = .ok after) : after.isDirectory path = true := by
  have changed := makeDirectory_changed made
  unfold makeDirectory at made
  cases located : tree.locate path with
  | error fault => simp [located, bind, Except.bind] at made
  | ok target =>
    cases target with
    | directory location => simp [located, bind, Except.bind] at made
    | name location =>
      simp only [located, bind, Except.bind] at made
      split at made
      · cases made
      next missing =>
        cases made
        have inside : location ≠ [] := by
          rintro rfl
          simp at missing
        rw [isDirectory, changed.locate located]
        simp [find?_put_same tree _ inside]

/-- Where the directory is there, nothing is left to create. -/
theorem makeDirectories_of_isDirectory {tree : Tree} {path : Path}
    (there : tree.isDirectory path = true) : tree.makeDirectories path = (.ok (), tree) := by
  unfold makeDirectories
  cases shape : path.ancestry with
  | nil => rfl
  | cons first shorter =>
    have same : first ∈ path.ancestry := by simp [shape]
    have stands := isDirectory_of_mem_ancestry there same
    rw [climb, makeDirectory_of_isDirectory stands]
    simp only [stands, and_self, if_true]
    rfl

/-- Going up, the path that was tried first stays the last of those still to be created. -/
theorem getLast?_of_climb {tree after : Tree} {path : Path} {missing paths left : List Path}
    (climbed : tree.climb (path :: missing) paths = .ok (after, left)) :
    left.getLast? = (path :: missing).getLast? := by
  induction paths generalizing path missing with
  | nil =>
    cases climbed
    rfl
  | cons next paths ih =>
    unfold climb at climbed
    split at climbed
    · cases climbed
      rfl
    · rw [ih climbed, List.getLast?_cons_cons]
    · split at climbed
      · cases climbed
        rfl
      · cases climbed

theorem mem_of_climb {tree after : Tree} {missing paths left : List Path}
    (climbed : tree.climb missing paths = .ok (after, left)) {path : Path} (member : path ∈ left) :
    path ∈ missing ∨ path ∈ paths := by
  induction paths generalizing missing with
  | nil =>
    cases climbed
    exact .inl member
  | cons next paths ih =>
    unfold climb at climbed
    split at climbed
    · cases climbed
      exact .inl member
    · rcases ih climbed with inside | inside
      · rcases List.mem_cons.mp inside with rfl | inside
        · exact .inr (by simp)
        · exact .inl inside
      · exact .inr (List.mem_cons_of_mem _ inside)
    · split at climbed
      · cases climbed
        exact .inl member
      · cases climbed

/-- Either the path is there after going up, or it is left to be created last. -/
theorem climb_reaches {tree after : Tree} {path : Path} {shorter left : List Path}
    (climbed : tree.climb [] (path :: shorter) = .ok (after, left)) :
    (left = [] ∧ after.isDirectory path = true) ∨ left.getLast? = some path := by
  unfold climb at climbed
  split at climbed
  next made =>
    cases climbed
    exact .inl ⟨rfl, isDirectory_of_makeDirectory made⟩
  next =>
    exact .inr (getLast?_of_climb climbed)
  next =>
    split at climbed
    next stands =>
      cases climbed
      exact .inl ⟨rfl, stands.2⟩
    next => cases climbed

/-- Going down with success ends at the last directory; else one of them is not there. -/
theorem descend_reaches (tree : Tree) (paths : List Path) :
    ((tree.descend paths).1 = .ok () ∧
      ∀ path ∈ paths.getLast?, (tree.descend paths).2.isDirectory path = true) ∨
    ∃ fault, (tree.descend paths).1 = .error fault ∧
      ∃ path ∈ paths, (tree.descend paths).2.isDirectory path = false := by
  induction paths generalizing tree with
  | nil => exact .inl ⟨rfl, by simp⟩
  | cons first paths ih =>
    -- From a tree in which the first directory is there, the others decide.
    have onward (next : Tree) (stands : next.isDirectory first = true) :
        ((next.descend paths).1 = .ok () ∧ ∀ path ∈ (first :: paths).getLast?,
          (next.descend paths).2.isDirectory path = true) ∨
        ∃ fault, (next.descend paths).1 = .error fault ∧
          ∃ path ∈ first :: paths, (next.descend paths).2.isDirectory path = false := by
      rcases ih next with ⟨succeeded, last⟩ | ⟨fault, failed, path, member, absent⟩
      · refine .inl ⟨succeeded, fun path ends => ?_⟩
        cases paths with
        | nil =>
          cases ends
          exact stands
        | cons second paths => exact last path (by rwa [List.getLast?_cons_cons] at ends)
      · exact .inr ⟨fault, failed, path, List.mem_cons_of_mem _ member, absent⟩
    unfold descend
    split
    next after made => exact onward after (isDirectory_of_makeDirectory made)
    next fault refused =>
      split
      next stands => exact onward tree stands.2
      next other =>
        refine .inr ⟨fault, rfl, first, by simp, ?_⟩
        by_contra there
        have stands : tree.isDirectory first = true := by simpa using there
        have known := (makeDirectory_of_isDirectory stands).symm.trans refused
        exact other ⟨(Except.error.inj known).symm, stands⟩

/-- Directories are created with success exactly if the last one is there afterwards. -/
theorem makeDirectories_iff {tree : Tree} {path : Path} {shorter : List Path}
    (longest : path.ancestry = path :: shorter) :
    (tree.makeDirectories path).1 = .ok () ↔
      (tree.makeDirectories path).2.isDirectory path = true := by
  by_cases already : tree.isDirectory path = true
  · simp [makeDirectories_of_isDirectory already, already]
  · unfold makeDirectories
    rw [longest]
    cases climbed : tree.climb [] (path :: shorter) with
    | error fault => simpa using already
    | ok result =>
      obtain ⟨middle, left⟩ := result
      dsimp only
      rcases descend_reaches middle left with ⟨succeeded, last⟩ |
        ⟨fault, failed, ancestor, member, absent⟩
      · refine ⟨fun _ => ?_, fun _ => succeeded⟩
        rcases climb_reaches climbed with ⟨rfl, stands⟩ | ends
        · exact stands
        · exact last path ends
      · constructor
        · intro succeeded
          cases failed.symm.trans succeeded
        · intro stands
          have leads : ancestor ∈ path.ancestry := by
            simpa [longest] using mem_of_climb climbed member
          have there := isDirectory_of_mem_ancestry stands leads
          cases absent.symm.trans there

end Files.Tree

end ServerForge
