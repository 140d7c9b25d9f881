import Mathlib.Data.List.Pairwise
import ServerForge.Proofs.Confinement
import ServerForge.Proofs.Directories

/-! The files of a project, each on its own. Main statement: once the directory of the sources is
there, every file is tried; one is refused exactly if a directory is in its place or its path is too
long, and all others hold their texts. -/
namespace ServerForge

open Files

namespace Files.Tree

/-! ## Files in a directory that is there -/

/-- Why a file is refused in a directory that is there. -/
def refusal? (tree : Tree) (path : Path) : Option Fault :=
  if pathLimit ≤ byteLength path.text then some .nameTooLong
  else if tree.find? (path.destination tree.here) = some .directory then some .isDirectory
  else none

/-- A directory stands in the place of the file, or the path is as long as none may be. -/
def Blocked (tree : Tree) (path : Path) : Prop :=
  tree.find? (path.destination tree.here) = some .directory ∨ pathLimit ≤ byteLength path.text

instance (tree : Tree) (path : Path) : Decidable (tree.Blocked path) :=
  inferInstanceAs (Decidable (_ ∨ _))

theorem refusal?_isSome {tree : Tree} {path : Path} :
    (tree.refusal? path).isSome = true ↔ tree.Blocked path := by
  unfold refusal? Blocked
  split
  · simp_all
  · split <;> simp_all

theorem refusal?_eq_none {tree : Tree} {path : Path} :
    tree.refusal? path = none ↔ ¬ tree.Blocked path := by
  rw [← refusal?_isSome, Option.not_isSome_iff_eq_none]

/-- A file that is put elsewhere does not decide on this one. -/
theorem refusal?_put {tree : Tree} {location : Location} (text : String) {path : Path}
    (apart : path.destination tree.here ≠ location) :
    (tree.put location (.file text)).refusal? path = tree.refusal? path := by
  have same : (tree.put location (.file text)).here = tree.here := rfl
  rw [refusal?, refusal?, same, find?_put_other tree _ apart]

/-- The way to a file leads through directories that are there. -/
theorem locate_of_walk {tree : Tree} {path : Path} {front : List String} {name : String}
    {location : Location} (pieces : path.pieces = front ++ [name]) (entry : Path.EntryName name)
    (fits : byteLength name ≤ nameLimit) (clean : '\x00' ∉ path.text.toList)
    (walked : tree.walk (path.origin tree.here) front = .ok location) :
    tree.locate path =
      if pathLimit ≤ byteLength path.text then .error .nameTooLong
      else .ok (.name (path.destination tree.here)) := by
  split
  next long =>
    unfold locate
    rw [if_neg (by simpa using clean), if_pos long]
    rfl
  next short =>
    have nonempty : path.text ≠ "" := by
      intro empty
      have single : path.pieces = [""] := by
        rw [Path.pieces_of_unbroken (by simp [empty]), empty]
      have last := congrArg List.getLast? (pieces.symm.trans single)
      exact entry.nonempty (by simpa using last)
    have kept : path.pieces.filter (· != "") = front.filter (· != "") ++ [name] := by
      rw [pieces, List.filter_append]
      simp [entry.nonempty]
    have located : tree.locate path = .ok (.name (location ++ [name])) := by
      rw [locate_of_accepted ⟨clean, not_le.mp short, nonempty⟩, kept, List.getLast?_concat,
        List.dropLast_concat, walk_filter, walked]
      simp only [if_neg (not_or.mpr ⟨entry.current, entry.parent⟩), bind, Except.bind,
        if_neg (not_lt.mpr fits)]
      rfl
    rw [located, ← locate_eq_ok located]
    rfl

/-! ## Files that are put in their places -/

/-- The tree with texts at some places. -/
def putFiles (tree : Tree) (files : List (Location × String)) : Tree :=
  files.foldl (fun tree file => tree.put file.1 (.file file.2)) tree

theorem here_putFiles (tree : Tree) (files : List (Location × String)) :
    (tree.putFiles files).here = tree.here := by
  induction files generalizing tree with
  | nil => rfl
  | cons file files ih => exact ih _

theorem find?_putFiles_other (tree : Tree) {files : List (Location × String)}
    {location : Location} (other : ∀ file ∈ files, location ≠ file.1) :
    (tree.putFiles files).find? location = tree.find? location := by
  induction files generalizing tree with
  | nil => rfl
  | cons file files ih =>
    have apart := other file (by simp)
    have later := fun next inside => other next (List.mem_cons_of_mem file inside)
    rw [← find?_put_other tree (.file file.2) apart]
    exact ih _ later

theorem find?_putFiles_same (tree : Tree) {files : List (Location × String)}
    (distinct : files.Pairwise fun a b => a.1 ≠ b.1) {location : Location} {text : String}
    (member : (location, text) ∈ files) (inside : location ≠ []) :
    (tree.putFiles files).find? location = some (.file text) := by
  induction files generalizing tree with
  | nil => simp at member
  | cons first files ih =>
    obtain ⟨apart, others⟩ := List.pairwise_cons.mp distinct
    rcases List.mem_cons.mp member with rfl | later
    · rw [← find?_put_same tree (.file text) inside]
      exact find?_putFiles_other _ apart
    · exact ih _ others later

end Files.Tree

/-! ## The files of a project -/

instance (name : String) : Decidable (Path.EntryName name) :=
  decidable_of_iff (name ≠ "" ∧ '/' ∉ name.toList ∧ name ≠ "." ∧ name ≠ "..")
    ⟨fun ⟨nonempty, unbroken, current, parent⟩ => ⟨nonempty, unbroken, current, parent⟩,
      fun entry => ⟨entry.nonempty, entry.unbroken, entry.current, entry.parent⟩⟩

/-- What the path of a text in a bundle looks like. -/
structure Bundle.Placed (path : Path) (inner : List String) (name : String) : Prop where
  pieces : path.pieces = inner ++ [name]
  inner : inner = [] ∨ inner = Bundle.sourceDirectory.pieces
  entry : Path.EntryName name
  fits : Tree.byteLength name ≤ Tree.nameLimit
  clean : '\x00' ∉ path.text.toList
  slashless : path.text.toList.getLast? ≠ some '/'

theorem Bundle.placed_artifact {bundle : Bundle} {artifact : Path × String}
    (member : artifact ∈ bundle.artifacts) : ∃ inner name, Placed artifact.1 inner name := by
  have manifest : Placed ⟨"package.json"⟩ [] "package.json" :=
    ⟨by decide, .inl rfl, by decide, by decide, by decide, by decide⟩
  have source : Placed (sourceDirectory.join ⟨"index.ts"⟩) ["src"] "index.ts" :=
    ⟨by decide, .inr (by decide), by decide, by decide, by decide, by decide⟩
  have readme : Placed ⟨"README.md"⟩ [] "README.md" :=
    ⟨by decide, .inl rfl, by decide, by decide, by decide, by decide⟩
  have build : Placed ⟨"tsconfig.json"⟩ [] "tsconfig.json" :=
    ⟨by decide, .inl rfl, by decide, by decide, by decide, by decide⟩
  have ignore : Placed ⟨".gitignore"⟩ [] ".gitignore" :=
    ⟨by decide, .inl rfl, by decide, by decide, by decide, by decide⟩
  simp only [artifacts, List.mem_cons, List.not_mem_nil, or_false] at member
  rcases member with rfl | rfl | rfl | rfl | rfl
  · exact ⟨_, _, manifest⟩
  · exact ⟨_, _, source⟩
  · exact ⟨_, _, readme⟩
  · exact ⟨_, _, build⟩
  · exact ⟨_, _, ignore⟩

namespace Save

section
variable {root : Path} {tree : Tree} {bundle : Bundle} {artifact : Path × String}

theorem endsInSlash_artifact (member : artifact ∈ bundle.artifacts) :
    Tree.endsInSlash (root.join artifact.1) = false := by
  have relative := bundle.relative_artifacts artifact member
  obtain ⟨inner, name, placed⟩ := Bundle.placed_artifact member
  have visible : artifact.1.text.toList ≠ [] := by
    intro empty
    have single : artifact.1.pieces = [artifact.1.text] :=
      Path.pieces_of_unbroken (by simp [empty])
    rw [String.toList_inj.mp (empty.trans (rfl : "".toList = []).symm)] at single
    have last := congrArg List.getLast? (placed.pieces.symm.trans single)
    exact placed.entry.nonempty (by simpa using last)
  rw [Tree.endsInSlash, Path.toList_join root relative, Path.body_of_relative relative,
    List.getLast?_append_of_ne_nil _ visible]
  simpa using placed.slashless

/-- Where the directory of the sources is there, so is the directory of every file. -/
theorem locate_artifact (there : tree.isDirectory (root.join Bundle.sourceDirectory) = true)
    (member : artifact ∈ bundle.artifacts) :
    tree.locate (root.join artifact.1) =
      if Tree.pathLimit ≤ Tree.byteLength (root.join artifact.1).text then .error .nameTooLong
      else .ok (.name ((root.join artifact.1).destination tree.here)) := by
  have relative := bundle.relative_artifacts artifact member
  obtain ⟨inner, name, placed⟩ := Bundle.placed_artifact member
  obtain ⟨accepted, reached⟩ := Tree.isDirectory_iff.mp there
  have clean : '\x00' ∉ (root.join artifact.1).text.toList := by
    have base := accepted.clean
    rw [Path.toList_join root rfl] at base
    rw [Path.toList_join root relative, Path.body_of_relative relative]
    simp only [List.mem_append, not_or] at base ⊢
    exact ⟨base.1, placed.clean⟩
  obtain ⟨lead, joined, whole⟩ := Path.pieces_join root relative
  have pieces : (root.join artifact.1).pieces = (lead ++ inner) ++ [name] := by
    rw [joined, placed.pieces, List.append_assoc]
  rw [Tree.reach_join tree root rfl] at reached
  cases base : tree.reach root with
  | error fault =>
    rw [base] at reached
    cases reached
  | ok location =>
    rw [base] at reached
    have walked : ∃ last, tree.walk ((root.join artifact.1).origin tree.here) (lead ++ inner) =
        .ok last := by
      rw [Path.origin_join root relative, Tree.walk_append, ← Tree.walk_lead tree _ whole,
        ← Tree.reach, base]
      rcases placed.inner with rfl | rfl
      · exact ⟨location, rfl⟩
      · exact ⟨_, reached⟩
    obtain ⟨last, walked⟩ := walked
    exact Tree.locate_of_walk pieces placed.entry placed.fits clean walked

theorem fileTarget_artifact (there : tree.isDirectory (root.join Bundle.sourceDirectory) = true)
    (member : artifact ∈ bundle.artifacts) :
    tree.fileTarget (root.join artifact.1) =
      match tree.refusal? (root.join artifact.1) with
      | some fault => .error fault
      | none => .ok ((root.join artifact.1).destination tree.here) := by
  unfold Tree.fileTarget Tree.refusal?
  rw [locate_artifact there member]
  split
  · rfl
  · simp only [bind, Except.bind, endsInSlash_artifact member, Bool.false_eq_true, false_or]
    split <;> rfl

theorem write_artifact (there : tree.isDirectory (root.join Bundle.sourceDirectory) = true)
    (member : artifact ∈ bundle.artifacts) :
    tree.write (root.join artifact.1) artifact.2 =
      match tree.refusal? (root.join artifact.1) with
      | some fault => (.error fault, tree)
      | none => (.ok (),
          tree.put ((root.join artifact.1).destination tree.here) (.file artifact.2)) := by
  rw [Tree.write, fileTarget_artifact there member]
  cases tree.refusal? (root.join artifact.1) <;> rfl

end

/-! ## All of them -/

/-- What comes of a write into a directory that is there. -/
def verdict (tree : Tree) (path : Path) : Except Fault Unit :=
  match tree.refusal? path with
  | some fault => .error fault
  | none => .ok ()

/-- The places and the texts of the files that are not refused. -/
def accepted (root : Path) (tree : Tree) (artifacts : List (Path × String)) :
    List (Location × String) :=
  (artifacts.filter fun artifact => (tree.refusal? (root.join artifact.1)).isNone).map
    fun artifact => ((root.join artifact.1).destination tree.here, artifact.2)

section
variable {root : Path} {tree : Tree} {bundle : Bundle}

/-! Nothing but the refusals of the files decides on what comes of them. -/

theorem verdicts_congr {next : Tree} {artifacts : List (Path × String)}
    (alike : ∀ artifact ∈ artifacts,
      next.refusal? (root.join artifact.1) = tree.refusal? (root.join artifact.1)) :
    (artifacts.map fun artifact => (root.join artifact.1, verdict next (root.join artifact.1))) =
      artifacts.map fun artifact => (root.join artifact.1, verdict tree (root.join artifact.1)) :=
  List.map_congr_left fun artifact member => by rw [verdict, verdict, alike artifact member]

theorem accepted_congr {next : Tree} (here : next.here = tree.here)
    {artifacts : List (Path × String)} (alike : ∀ artifact ∈ artifacts,
      next.refusal? (root.join artifact.1) = tree.refusal? (root.join artifact.1)) :
    accepted root next artifacts = accepted root tree artifacts := by
  rw [accepted, accepted, here,
    List.filter_congr fun artifact member => by rw [alike artifact member]]

/-- The writes do not get in each other's way: each comes out as it would in the tree before. -/
theorem writeAll_eq (there : tree.isDirectory (root.join Bundle.sourceDirectory) = true)
    {artifacts : List (Path × String)} (known : ∀ artifact ∈ artifacts, artifact ∈ bundle.artifacts)
    (distinct : artifacts.Pairwise fun a b =>
      (root.join a.1).destination tree.here ≠ (root.join b.1).destination tree.here) :
    writeAll root artifacts tree =
      (artifacts.map fun artifact => (root.join artifact.1, verdict tree (root.join artifact.1)),
        tree.putFiles (accepted root tree artifacts)) := by
  induction artifacts generalizing tree with
  | nil => rfl
  | cons artifact artifacts ih =>
    obtain ⟨apart, others⟩ := List.pairwise_cons.mp distinct
    have listed := known artifact (by simp)
    have later := fun other inside => known other (List.mem_cons_of_mem artifact inside)
    have wrote := write_artifact there listed
    rw [writeAll, wrote]
    cases refused : tree.refusal? (root.join artifact.1) with
    | some fault =>
      dsimp only
      rw [ih there later others]
      simp [accepted, verdict, refused]
    | none =>
      dsimp only
      have free := fun blocked => Tree.refusal?_eq_none.mp refused (.inl blocked)
      have still := (Tree.changed_put_file artifact.2 free).isDirectory there
      have here : (tree.put ((root.join artifact.1).destination tree.here)
          (.file artifact.2)).here = tree.here := rfl
      have alike : ∀ other ∈ artifacts,
          (tree.put ((root.join artifact.1).destination tree.here) (.file artifact.2)).refusal?
            (root.join other.1) = tree.refusal? (root.join other.1) :=
        fun other inside => Tree.refusal?_put artifact.2 (apart other inside).symm
      have placed : accepted root tree (artifact :: artifacts) =
          ((root.join artifact.1).destination tree.here, artifact.2) ::
            accepted root tree artifacts := by
        simp [accepted, refused]
      have kept : accepted root (tree.put ((root.join artifact.1).destination tree.here)
          (.file artifact.2)) artifacts = accepted root tree artifacts :=
        accepted_congr here alike
      rw [ih still later others, verdicts_congr alike, kept, placed, List.map_cons, verdict,
        refused]
      rfl

end

/-! ## What is reported -/

/-- The files that are refused, each with its reason. -/
def refusals (root : Path) (tree : Tree) (artifacts : List (Path × String)) : List (Path × Fault) :=
  artifacts.filterMap fun artifact =>
    (tree.refusal? (root.join artifact.1)).map fun fault => (root.join artifact.1, fault)

theorem paths_refusals (root : Path) (tree : Tree) (artifacts : List (Path × String)) :
    (refusals root tree artifacts).map (·.1) =
      (artifacts.filter fun artifact => tree.Blocked (root.join artifact.1)).map
        fun artifact => root.join artifact.1 := by
  induction artifacts with
  | nil => rfl
  | cons artifact artifacts ih =>
    unfold refusals at ih ⊢
    cases refused : tree.refusal? (root.join artifact.1) with
    | some fault =>
      have blocked : tree.Blocked (root.join artifact.1) := by
        rw [← Tree.refusal?_isSome, refused]
        rfl
      simp [refused, blocked, ih]
    | none => simp [refused, Tree.refusal?_eq_none.mp refused, ih]

theorem refusals_eq_nil {root : Path} {tree : Tree} {artifacts : List (Path × String)} :
    refusals root tree artifacts = [] ↔
      ∀ artifact ∈ artifacts, ¬ tree.Blocked (root.join artifact.1) := by
  rw [← List.map_eq_nil_iff (f := (·.1)), paths_refusals]
  simp

/-- The saved project, or all that was refused. -/
def report (root : Path) (artifacts : List (Path × String)) (failures : List (Path × Fault)) :
    Except Failure SavedProject :=
  if failures = [] then .ok ⟨root, artifacts.map fun artifact => root.join artifact.1⟩
  else .error (.writeFailure root failures)

theorem outcome_verdicts (root : Path) (tree : Tree) (artifacts : List (Path × String)) :
    outcome root (artifacts.map fun artifact =>
        (root.join artifact.1, verdict tree (root.join artifact.1))) =
      report root artifacts (refusals root tree artifacts) := by
  unfold outcome
  generalize collected : List.filterMap _ _ = failures
  have same : failures = refusals root tree artifacts := by
    rw [← collected, List.filterMap_map, refusals]
    apply List.filterMap_congr
    intro artifact member
    simp only [Function.comp_apply, verdict]
    cases tree.refusal? (root.join artifact.1) <;> rfl
  simp only [same, List.isEmpty_iff, List.map_map, report]
  rfl

theorem created_iff {root : Path} {tree : Tree} :
    (tree.makeDirectories (root.join Bundle.sourceDirectory)).1 = .ok () ↔
      (tree.makeDirectories (root.join Bundle.sourceDirectory)).2.isDirectory
        (root.join Bundle.sourceDirectory) = true := by
  have named : Path.EntryName "src" := by decide
  obtain ⟨shorter, longest⟩ := Path.ancestry_join root named
  exact Tree.makeDirectories_iff longest

section
variable {project : String} (entry : Path.EntryName project) (bundle : Bundle) (output : Path)
include entry

theorem run_of_refused {tree : Tree} {fault : Fault}
    (refused : (tree.makeDirectories ((output.join ⟨project⟩).join Bundle.sourceDirectory)).1 =
      .error fault) :
    (run bundle output project : StateM Tree _).run tree =
      let root := output.join ⟨project⟩
      let source := root.join Bundle.sourceDirectory
      (.error (.writeFailure root [(source, fault)]), (tree.makeDirectories source).2) := by
  rw [run_of_entryName entry]
  dsimp only
  cases created : tree.makeDirectories ((output.join ⟨project⟩).join Bundle.sourceDirectory) with
  | mk result made =>
    rw [created] at refused
    cases refused
    rfl

/-- Once the directory of the sources is there, saving is the five writes. -/
theorem run_of_created {tree : Tree}
    (done : (tree.makeDirectories ((output.join ⟨project⟩).join Bundle.sourceDirectory)).1 =
      .ok ()) :
    let root := output.join ⟨project⟩
    let made := (tree.makeDirectories (root.join Bundle.sourceDirectory)).2
    let saved := (run bundle output project : StateM Tree _).run tree
    saved.1 = report root bundle.artifacts (refusals root made bundle.artifacts) ∧
      saved.2 = made.putFiles (accepted root made bundle.artifacts) := by
  have there := created_iff.mp done
  dsimp only
  rw [run_of_entryName entry]
  dsimp only
  cases created : tree.makeDirectories ((output.join ⟨project⟩).join Bundle.sourceDirectory) with
  | mk result made =>
    rw [created] at done there
    cases done
    dsimp only at there ⊢
    rw [writeAll_eq there (fun _ => id) (bundle.destinations_distinct _ _), outcome_verdicts]
    dsimp only
    exact ⟨rfl, rfl⟩

end

/-! ## What is left in the files -/

section
variable {root : Path} {tree : Tree} {bundle : Bundle} {artifact : Path × String}

theorem accepted_distinct (root : Path) (tree : Tree) (bundle : Bundle) :
    (accepted root tree bundle.artifacts).Pairwise fun a b => a.1 ≠ b.1 :=
  List.pairwise_map.mpr ((bundle.destinations_distinct root tree.here).sublist List.filter_sublist)

theorem mem_accepted {file : Location × String} :
    file ∈ accepted root tree bundle.artifacts ↔
      ∃ artifact ∈ bundle.artifacts, ¬ tree.Blocked (root.join artifact.1) ∧
        file = ((root.join artifact.1).destination tree.here, artifact.2) := by
  simp only [accepted, List.mem_map, List.mem_filter, Option.isNone_iff_eq_none,
    Tree.refusal?_eq_none]
  constructor
  · rintro ⟨artifact, ⟨member, free⟩, rfl⟩
    exact ⟨artifact, member, free, rfl⟩
  · rintro ⟨artifact, member, free, rfl⟩
    exact ⟨artifact, ⟨member, free⟩, rfl⟩

theorem destination_ne_nil (member : artifact ∈ bundle.artifacts) {here : Location} :
    (root.join artifact.1).destination here ≠ [] := by
  obtain ⟨inner, name, placed⟩ := Bundle.placed_artifact member
  rw [Bundle.destination_artifact member, placed.pieces]
  simp

theorem find?_accepted (member : artifact ∈ bundle.artifacts)
    (free : ¬ tree.Blocked (root.join artifact.1)) :
    (tree.putFiles (accepted root tree bundle.artifacts)).find?
      ((root.join artifact.1).destination tree.here) = some (.file artifact.2) :=
  Tree.find?_putFiles_same tree (accepted_distinct root tree bundle)
    (mem_accepted.mpr ⟨artifact, member, free, rfl⟩) (destination_ne_nil member)

/-- Where a file is refused nothing changes, nor does it below that place. -/
theorem find?_blocked (member : artifact ∈ bundle.artifacts)
    (blocked : tree.Blocked (root.join artifact.1)) {location : Location}
    (below : (root.join artifact.1).destination tree.here <+: location) :
    (tree.putFiles (accepted root tree bundle.artifacts)).find? location = tree.find? location := by
  apply Tree.find?_putFiles_other
  rintro file inside rfl
  obtain ⟨other, listed, free, rfl⟩ := mem_accepted.mp inside
  have symmetric : Std.Symm fun a b : Path × String =>
      ¬ (root.join a.1).destination tree.here <+: (root.join b.1).destination tree.here ∧
        ¬ (root.join b.1).destination tree.here <+: (root.join a.1).destination tree.here :=
    ⟨fun _ _ => And.symm⟩
  have other : artifact ≠ other := fun same => free (same ▸ blocked)
  exact ((bundle.destinations_apart root tree.here).forall member listed other).1 below

theorem read_artifact (there : tree.isDirectory (root.join Bundle.sourceDirectory) = true)
    (member : artifact ∈ bundle.artifacts)
    (short : Tree.byteLength (root.join artifact.1).text < Tree.pathLimit) {text : String}
    (held : tree.find? ((root.join artifact.1).destination tree.here) = some (.file text)) :
    tree.read (root.join artifact.1) = .ok text := by
  rw [Tree.read, locate_artifact there member, if_neg (not_le.mpr short)]
  simp only [bind, Except.bind, held, endsInSlash_artifact member]
  rfl

theorem isDirectory_accepted (there : tree.isDirectory (root.join Bundle.sourceDirectory) = true) :
    (tree.putFiles (accepted root tree bundle.artifacts)).isDirectory
      (root.join Bundle.sourceDirectory) = true := by
  have changed := (writeAll_changed root bundle.artifacts tree).isDirectory there
  rw [writeAll_eq there (fun _ => id) (bundle.destinations_distinct _ _)] at changed
  dsimp only at changed
  exact changed

theorem held_accepted (there : tree.isDirectory (root.join Bundle.sourceDirectory) = true)
    (member : artifact ∈ bundle.artifacts) (free : ¬ tree.Blocked (root.join artifact.1)) :
    let after := tree.putFiles (accepted root tree bundle.artifacts)
    after.read (root.join artifact.1) = .ok artifact.2 ∧
      after.find? ((root.join artifact.1).destination tree.here) = some (.file artifact.2) := by
  intro after
  have short : Tree.byteLength (root.join artifact.1).text < Tree.pathLimit :=
    not_le.mp fun long => free (.inr long)
  have here : after.here = tree.here := Tree.here_putFiles ..
  have held := find?_accepted member free
  have still : after.isDirectory (root.join Bundle.sourceDirectory) = true :=
    isDirectory_accepted there
  have found : after.find? ((root.join artifact.1).destination after.here) =
      some (.file artifact.2) := by rw [here, held]
  exact ⟨read_artifact still member short found, held⟩

theorem refusals_nodup (root : Path) (tree : Tree) (bundle : Bundle) :
    ((refusals root tree bundle.artifacts).map (·.1)).Nodup := by
  rw [paths_refusals]
  refine List.pairwise_map.mpr (List.Pairwise.sublist List.filter_sublist ?_)
  exact (bundle.destinations_distinct root tree.here).imp fun apart same => apart (by rw [same])

end

/-- Every file of a project was tried in a tree with their directories. Where a directory stands in
the place of a file (or its path is too long for any file) that one is refused, and all that is
there stays as it is; the others hold their texts. The report has all files if none is refused, and
else just those that are, in the order of the project. -/
structure TriesEveryFile (root : Path) (bundle : Bundle) (made : Tree)
    (saved : Except Failure SavedProject × Tree) : Prop where
  written : ∀ artifact ∈ bundle.artifacts, ¬ made.Blocked (root.join artifact.1) →
    saved.2.read (root.join artifact.1) = .ok artifact.2 ∧
      saved.2.find? ((root.join artifact.1).destination made.here) = some (.file artifact.2)
  refused : ∀ artifact ∈ bundle.artifacts, made.Blocked (root.join artifact.1) →
    ∀ location, (root.join artifact.1).destination made.here <+: location →
      saved.2.find? location = made.find? location
  others : ∀ location,
    (∀ artifact ∈ bundle.artifacts, location ≠ (root.join artifact.1).destination made.here) →
      saved.2.find? location = made.find? location
  failed : (refusals root made bundle.artifacts).map (·.1) =
    (bundle.artifacts.filter fun artifact => made.Blocked (root.join artifact.1)).map
      fun artifact => root.join artifact.1
  once : ((refusals root made bundle.artifacts).map (·.1)).Nodup
  told : saved.1 = if refusals root made bundle.artifacts = [] then
      .ok ⟨root, bundle.artifacts.map fun artifact => root.join artifact.1⟩
    else .error (.writeFailure root (refusals root made bundle.artifacts))

theorem triesEveryFile_of_report {root : Path} {bundle : Bundle} {made : Tree}
    {saved : Except Failure SavedProject × Tree}
    (there : made.isDirectory (root.join Bundle.sourceDirectory) = true)
    (reported : saved.1 = report root bundle.artifacts (refusals root made bundle.artifacts))
    (left : saved.2 = made.putFiles (accepted root made bundle.artifacts)) :
    TriesEveryFile root bundle made saved where
  written artifact member free := by
    rw [left]
    exact held_accepted there member free
  refused artifact member blocked location below := by
    rw [left]
    exact find?_blocked member blocked below
  others location elsewhere := by
    rw [left]
    refine Tree.find?_putFiles_other made fun file inside same => ?_
    obtain ⟨artifact, member, -, rfl⟩ := mem_accepted.mp inside
    exact elsewhere artifact member same
  failed := paths_refusals ..
  once := refusals_nodup ..
  told := reported

/-- Saving under the name of an entry first adds directories on the way. Then it comes to one of two
ends. Either the directory of the sources cannot be created; then that is all that is reported, and
no file is another than before. Or it is there, and every file is tried. -/
theorem saving_tries_every_file (bundle : Bundle) (output : Path) {project : String}
    (entry : Path.EntryName project) (tree : Tree) :
    let root := output.join ⟨project⟩
    let source := root.join Bundle.sourceDirectory
    let created := tree.makeDirectories source
    let made := created.2
    let saved := (run bundle output project : StateM Tree _).run tree
    Tree.Changed (OnTheWay output project tree.here) (fun _ _ => False) tree made ∧
    ((∃ fault, created.1 = .error fault ∧ made.isDirectory source = false ∧
        saved = (.error (.writeFailure root [(source, fault)]), made) ∧
        ∀ location text,
          saved.2.find? location = some (.file text) ↔ tree.find? location = some (.file text)) ∨
      (created.1 = .ok () ∧ made.isDirectory source = true ∧
        TriesEveryFile root bundle made saved)) := by
  intro root source created made saved
  have changed : Tree.Changed (OnTheWay output project tree.here) (fun _ _ => False) tree made :=
    makeDirectories_source_changed entry output tree
  have reached : created.1 = .ok () ↔ made.isDirectory source = true := created_iff
  refine ⟨changed, ?_⟩
  cases outcome : created.1 with
  | error fault =>
    have refused : saved = (.error (.writeFailure root [(source, fault)]), made) :=
      run_of_refused entry bundle output outcome
    have absent : made.isDirectory source = false := by
      by_contra there
      cases outcome.symm.trans (reached.mpr (eq_true_of_ne_false there))
    refine .inl ⟨fault, rfl, absent, refused, fun location text => ?_⟩
    rw [refused]
    rcases changed.entries location with kept | ⟨missing, added, -⟩ | ⟨_, _, _, none⟩
    · rw [kept]
    · simp [missing, added]
    · exact none.elim
  | ok =>
    have there := reached.mp outcome
    obtain ⟨reported, left⟩ := run_of_created entry bundle output outcome
    exact .inr ⟨rfl, there, triesEveryFile_of_report there reported left⟩

/-- A project in which a directory has the name of a file. -/
def crowdedTree : Tree where
  entries := [(["work"], .directory), (["work", "out"], .directory),
    (["work", "out", "demo"], .directory), (["work", "out", "demo", "README.md"], .directory),
    (["work", "out", "demo", "README.md", "draft"], .file "kept"),
    (["work", "out", "demo", "package.json"], .file "an older and longer text")]
  here := ["work"]

def plainBundle : Bundle := ⟨"manifest", "source", "readme", "build", "ignored"⟩

theorem saving_leaves_a_directory_alone :
    let saved := (run plainBundle ⟨"out"⟩ "demo" : StateM Tree _).run crowdedTree
    saved.1 = .error (.writeFailure ⟨"out/demo"⟩ [(⟨"out/demo/README.md"⟩, .isDirectory)]) ∧
      saved.2.read ⟨"out/demo/package.json"⟩ = .ok "manifest" ∧
      saved.2.read ⟨"out/demo/src/index.ts"⟩ = .ok "source" ∧
      saved.2.find? ["work", "out", "demo", "README.md", "draft"] = some (.file "kept") := by
  intro saved
  have entry : Path.EntryName "demo" := by decide
  have told := saving_tries_every_file plainBundle ⟨"out"⟩ entry crowdedTree
  extract_lets root source created made at told
  have joined : root = ⟨"out/demo"⟩ := by decide
  have located : root.join ⟨"package.json"⟩ = ⟨"out/demo/package.json"⟩ ∧
      root.join (Bundle.sourceDirectory.join ⟨"index.ts"⟩) = ⟨"out/demo/src/index.ts"⟩ := by
    decide
  have free : ¬ made.Blocked (root.join ⟨"package.json"⟩) ∧
      ¬ made.Blocked (root.join (Bundle.sourceDirectory.join ⟨"index.ts"⟩)) := by decide
  have blocked : made.Blocked (root.join ⟨"README.md"⟩) := by decide
  have below : (root.join ⟨"README.md"⟩).destination made.here <+:
      ["work", "out", "demo", "README.md", "draft"] := by decide
  have kept : made.find? ["work", "out", "demo", "README.md", "draft"] = some (.file "kept") := by
    decide
  have succeeded : created.1 = .ok () := by decide
  have refused : refusals root made plainBundle.artifacts =
      [(⟨"out/demo/README.md"⟩, .isDirectory)] := by decide
  -- what was saved is known from here on by what is told of it, and never computed
  clear_value saved made created root
  rcases told.2 with ⟨fault, failed, -⟩ | ⟨-, -, tried⟩
  · cases succeeded.symm.trans failed
  · have manifest := tried.written _ (.head _) free.1
    have script := tried.written _ (.tail _ (.head _)) free.2
    have readme := tried.refused _ (.tail _ (.tail _ (.head _))) blocked _ below
    have reported := tried.told
    rw [located.1] at manifest
    rw [located.2] at script
    rw [refused, joined] at reported
    exact ⟨reported, manifest.1, script.1, readme.trans kept⟩

end Save

end ServerForge
