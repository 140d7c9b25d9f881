import ServerForge.Proofs.TreeChanges

/-! Where saving a project lands. Main statement: whatever the name of the project and the path of
the output are, and whether saving succeeds or not, only the five files of the project below one
new component of that path are written, and only the directories that lead to them are created. -/
namespace ServerForge

open Files

/-- The texts of a bundle, each with the names that lead from the project to its file. -/
def Bundle.files (bundle : Bundle) : List (Location × String) := [
  (["package.json"], bundle.manifest),
  (["src", "index.ts"], bundle.serverSource),
  (["README.md"], bundle.readme),
  (["tsconfig.json"], bundle.buildConfig),
  ([".gitignore"], bundle.ignoreRules)]

theorem Bundle.pieces_artifacts (bundle : Bundle) :
    bundle.artifacts.map (fun artifact => (artifact.1.pieces, artifact.2)) = bundle.files := by
  have manifest : (Path.mk "package.json").pieces = ["package.json"] := by decide
  have source : (sourceDirectory.join ⟨"index.ts"⟩).pieces = ["src", "index.ts"] := by decide
  have readme : (Path.mk "README.md").pieces = ["README.md"] := by decide
  have build : (Path.mk "tsconfig.json").pieces = ["tsconfig.json"] := by decide
  have ignore : (Path.mk ".gitignore").pieces = [".gitignore"] := by decide
  simp [artifacts, files, manifest, source, readme, build, ignore]

theorem Bundle.relative_artifacts (bundle : Bundle) :
    ∀ artifact ∈ bundle.artifacts, artifact.1.isAbsolute = false := by
  simp only [artifacts, List.forall_mem_cons]
  exact ⟨rfl, rfl, rfl, rfl, rfl, by simp⟩

theorem Bundle.mem_files {bundle : Bundle} {artifact : Path × String}
    (member : artifact ∈ bundle.artifacts) : (artifact.1.pieces, artifact.2) ∈ bundle.files := by
  rw [← pieces_artifacts]
  exact List.mem_map_of_mem member

/-- The names of the files stand for themselves. -/
theorem Bundle.follow_files (bundle : Bundle) (location : Location) :
    ∀ file ∈ bundle.files, file.1.foldl follow location = location ++ file.1 := by
  simp only [files, List.forall_mem_cons]
  refine ⟨?_, ?_, ?_, ?_, ?_, by simp⟩ <;> simp [follow]

theorem Bundle.destination_artifact {bundle : Bundle} {artifact : Path × String}
    (member : artifact ∈ bundle.artifacts) (root : Path) (here : Location) :
    (root.join artifact.1).destination here = root.destination here ++ artifact.1.pieces := by
  rw [Path.destination_join root (bundle.relative_artifacts artifact member)]
  exact bundle.follow_files _ _ (Bundle.mem_files member)

/-- None of the files stands in the place of another or on the way to it. -/
theorem Bundle.destinations_apart (bundle : Bundle) (root : Path) (here : Location) :
    bundle.artifacts.Pairwise fun a b =>
      ¬ (root.join a.1).destination here <+: (root.join b.1).destination here ∧
      ¬ (root.join b.1).destination here <+: (root.join a.1).destination here := by
  have names : (bundle.artifacts.map (·.1.pieces)).Pairwise
      fun a b => ¬ a <+: b ∧ ¬ b <+: a := by
    have listed := congrArg (List.map (·.1)) bundle.pieces_artifacts
    rw [List.map_map] at listed
    change (bundle.artifacts.map
      ((·.1) ∘ fun artifact => (artifact.1.pieces, artifact.2))).Pairwise _
    rw [listed]
    simp [files]
  refine (List.pairwise_map.mp names).imp_of_mem ?_
  intro a b first second apart
  rw [destination_artifact first, destination_artifact second]
  simpa [List.prefix_append_right_inj] using apart

theorem Bundle.destinations_distinct (bundle : Bundle) (root : Path) (here : Location) :
    bundle.artifacts.Pairwise fun a b =>
      (root.join a.1).destination here ≠ (root.join b.1).destination here :=
  (bundle.destinations_apart root here).imp fun apart same => apart.1 (by rw [same])

namespace Save

/-- Texts written below a root, one after the other. -/
def writeAll (root : Path) : List (Path × String) → Tree →
    List (Path × Except Fault Unit) × Tree
  | [], tree => ([], tree)
  | (path, text) :: rest, tree =>
    let (result, written) := tree.write (root.join path) text
    let (results, after) := writeAll root rest written
    ((root.join path, result) :: results, after)

theorem run_bind {σ α β : Type} (x : StateM σ α) (f : α → StateM σ β) (s : σ) :
    (x >>= f).run s = (f (x.run s).1).run (x.run s).2 := rfl

theorem run_makeDirectories (path : Path) (tree : Tree) :
    (Files.makeDirectories path : StateM Tree _).run tree = tree.makeDirectories path := rfl

theorem run_mapM_write (root : Path) (artifacts : List (Path × String)) (tree : Tree) :
    (artifacts.mapM (fun (path, text) => do
      let path := root.join path
      return (path, ← Files.write path text)) : StateM Tree _).run tree =
      writeAll root artifacts tree := by
  induction artifacts generalizing tree with
  | nil => rfl
  | cons artifact artifacts ih =>
    rw [List.mapM_cons, run_bind, run_bind, ih]
    rfl

theorem root_of_entryName {project : String} (entry : Path.EntryName project) (output : Path) :
    root output project = .ok (output.join ⟨project⟩) := by
  rw [root, if_pos (Path.isPlainName_iff.mpr entry)]
  rfl

theorem root_of_other {project : String} (other : ¬ Path.EntryName project) (output : Path) :
    root output project = .error (.invalidProjectName project) := by
  rw [root, if_neg (fun plain => other (Path.isPlainName_iff.mp plain))]
  rfl

theorem run_of_entryName {project : String} (entry : Path.EntryName project) (bundle : Bundle)
    (output : Path) (tree : Tree) :
    (run bundle output project : StateM Tree _).run tree =
      let root := output.join ⟨project⟩
      let source := root.join Bundle.sourceDirectory
      match tree.makeDirectories source with
      | (.error fault, made) => (.error (.writeFailure root [(source, fault)]), made)
      | (.ok (), made) =>
        let written := writeAll root bundle.artifacts made
        (outcome root written.1, written.2) := by
  rw [run, root_of_entryName entry]
  dsimp only
  rw [run_bind, run_makeDirectories]
  cases tree.makeDirectories ((output.join ⟨project⟩).join Bundle.sourceDirectory) with
  | mk result made =>
    cases result with
    | error fault => rfl
    | ok =>
      dsimp only
      rw [run_bind, run_mapM_write]
      rfl

/-! ## Outcomes -/

theorem outcome_cases (root : Path) (results : List (Path × Except Fault Unit)) :
    (∃ files, outcome root results = .ok ⟨root, files⟩) ∨
      ∃ failures, outcome root results = .error (.writeFailure root failures) := by
  unfold outcome
  dsimp only
  split
  · exact .inl ⟨_, rfl⟩
  · exact .inr ⟨_, rfl⟩

/-- Only if every file was written is there a saved project. -/
theorem outcome_eq_ok {root : Path} {results : List (Path × Except Fault Unit)}
    {written : SavedProject} (succeeded : outcome root results = .ok written) :
    ∀ entry ∈ results, entry.2 = .ok () := by
  unfold outcome at succeeded
  dsimp only at succeeded
  split at succeeded
  next none =>
    rw [List.isEmpty_iff, List.filterMap_eq_nil_iff] at none
    rintro ⟨path, _ | _⟩ member
    · simpa using none _ member
    · rfl
  next => cases succeeded

section
variable {World : Type} [Files.Access (StateM World)]

theorem run_of_other {project : String} (other : ¬ Path.EntryName project) (bundle : Bundle)
    (output : Path) (world : World) :
    (run bundle output project : StateM World _).run world =
      (.error (.invalidProjectName project), world) := by
  rw [run, root_of_other other]
  rfl

/-- With the name of an entry, saving either succeeds or reports what could not be written. -/
theorem run_cases {project : String} (entry : Path.EntryName project) (bundle : Bundle)
    (output : Path) (world : World) :
    let saved := (run bundle output project : StateM World _).run world
    (∃ files, saved.1 = .ok ⟨output.join ⟨project⟩, files⟩) ∨
      ∃ failures, saved.1 = .error (.writeFailure (output.join ⟨project⟩) failures) := by
  rw [run, root_of_entryName entry]
  dsimp only
  rw [run_bind]
  cases (Files.makeDirectories ((output.join ⟨project⟩).join Bundle.sourceDirectory) :
      StateM World _).run world with
  | mk result made =>
    cases result with
    | error fault => exact .inr ⟨_, rfl⟩
    | ok =>
      dsimp only
      rw [run_bind]
      exact outcome_cases _ _

end

/-! ## What saving changes -/

/-- The directories that saving may create. -/
def OnTheWay (output : Path) (project : String) (here location : Location) : Prop :=
  output.LeadsThrough here location ∨ location = output.destination here ++ [project] ∨
    location = output.destination here ++ [project, "src"]

/-- The files that saving may write, with their texts. -/
def Fills (bundle : Bundle) (output : Path) (project : String) (here location : Location)
    (text : String) : Prop :=
  ∃ file ∈ bundle.files, location = output.destination here ++ project :: file.1 ∧ text = file.2

theorem writeAll_changed (root : Path) (artifacts : List (Path × String)) (tree : Tree) :
    Tree.Changed (fun _ => False)
      (fun location text => ∃ artifact ∈ artifacts,
        location = (root.join artifact.1).destination tree.here ∧ text = artifact.2)
      tree (writeAll root artifacts tree).2 := by
  induction artifacts generalizing tree with
  | nil => exact .refl tree
  | cons artifact artifacts ih =>
    have first := Tree.write_changed tree (root.join artifact.1) artifact.2
    have rest := ih (tree.write (root.join artifact.1) artifact.2).2
    rw [first.here] at rest
    refine (first.imp (fun _ => id) ?_).trans (rest.imp (fun _ => id) ?_)
    · rintro location text ⟨leads, same⟩
      exact ⟨artifact, by simp, leads, same⟩
    · rintro location text ⟨other, member, leads, same⟩
      exact ⟨other, List.mem_cons_of_mem _ member, leads, same⟩

section
variable {project : String} (entry : Path.EntryName project) (output : Path) (here : Location)
include entry

theorem destination_root :
    (output.join ⟨project⟩).destination here = output.destination here ++ [project] := by
  rw [Path.destination_join output entry.isAbsolute_eq_false, entry.pieces]
  exact follow_name entry.nonempty entry.current entry.parent

theorem destination_source :
    ((output.join ⟨project⟩).join Bundle.sourceDirectory).destination here =
      output.destination here ++ [project, "src"] := by
  have single : Bundle.sourceDirectory.pieces = ["src"] := by decide
  rw [Path.destination_join _ rfl, destination_root entry, single]
  simp [follow]

/-- On the way to the source directory are the way to the output, the project and itself. -/
theorem leadsThrough_source {location : Location}
    (through : ((output.join ⟨project⟩).join Bundle.sourceDirectory).LeadsThrough here location) :
    OnTheWay output project here location := by
  have single : Bundle.sourceDirectory.pieces = ["src"] := by decide
  rcases Path.leadsThrough_join rfl single through with before | last
  · rcases Path.leadsThrough_join entry.isAbsolute_eq_false entry.pieces before with before | last
    · exact .inl before
    · exact .inr (.inl (last.trans (destination_root entry output here)))
  · exact .inr (.inr (last.trans (destination_source entry output here)))

theorem makeDirectories_source_changed (tree : Tree) :
    Tree.Changed (OnTheWay output project tree.here) (fun _ _ => False) tree
      (tree.makeDirectories ((output.join ⟨project⟩).join Bundle.sourceDirectory)).2 :=
  (Tree.makeDirectories_changed tree _).imp
    (fun _ => leadsThrough_source entry output tree.here) (fun _ _ => id)

theorem writeAll_artifacts_changed (bundle : Bundle) (tree : Tree) :
    Tree.Changed (fun _ => False) (Fills bundle output project tree.here) tree
      (writeAll (output.join ⟨project⟩) bundle.artifacts tree).2 := by
  refine (writeAll_changed _ _ tree).imp (fun _ => id) ?_
  rintro location text ⟨artifact, member, leads, same⟩
  refine ⟨_, Bundle.mem_files member, ?_, same⟩
  rw [leads, Bundle.destination_artifact member, destination_root entry, List.append_assoc]
  rfl

end

theorem run_changed (bundle : Bundle) (output : Path) (project : String) (tree : Tree) :
    Tree.Changed (OnTheWay output project tree.here) (Fills bundle output project tree.here) tree
      ((run bundle output project : StateM Tree _).run tree).2 := by
  by_cases entry : Path.EntryName project
  · have created := makeDirectories_source_changed entry output tree
    rw [run_of_entryName entry]
    dsimp only
    split
    next fault made directories =>
      rw [directories] at created
      dsimp only at created ⊢
      exact created.imp (fun _ => id) fun _ _ => False.elim
    next made directories =>
      rw [directories] at created
      dsimp only at created ⊢
      have written := writeAll_artifacts_changed entry output bundle made
      rw [created.here] at written
      exact (created.imp (fun _ => id) fun _ _ => False.elim).trans
        (written.imp (fun _ => False.elim) fun _ _ => id)
  · rw [run_of_other entry]
    exact .refl tree

/-- Saving refuses exactly the names that cannot name an entry of a directory, and then leaves the
tree alone. Any other name becomes one more component of the output's path; below it lie all files
that are written, and on the way to it or to its sources all directories that are created, whether
saving succeeds or not. -/
theorem saving_is_confined (bundle : Bundle) (output : Path) (project : String) (tree : Tree) :
    let base := output.destination tree.here
    let saved := (run bundle output project : StateM Tree _).run tree
    ((∃ name, saved.1 = .error (.invalidProjectName name)) ↔ ¬ Path.EntryName project) ∧
    (∀ name, saved.1 = .error (.invalidProjectName name) → name = project ∧ saved.2 = tree) ∧
    (Path.EntryName project → ∃ root : Path,
      root.components = output.components ++ [.name project] ∧
      root.destination tree.here = base ++ [project] ∧
      ((∃ files, saved.1 = .ok ⟨root, files⟩) ∨
        ∃ failures, saved.1 = .error (.writeFailure root failures))) ∧
    saved.2.here = tree.here ∧
    ∀ location, saved.2.find? location ≠ tree.find? location →
      (∃ file ∈ bundle.files, location = base ++ project :: file.1 ∧
        saved.2.find? location = some (.file file.2)) ∨
      (tree.find? location = none ∧ saved.2.find? location = some .directory ∧
        (output.LeadsThrough tree.here location ∨ location = base ++ [project] ∨
          location = base ++ [project, "src"])) := by
  intro base saved
  have changed := run_changed bundle output project tree
  by_cases entry : Path.EntryName project
  · have reported := run_cases entry bundle output tree
    have accepted (name : String) : saved.1 ≠ .error (.invalidProjectName name) := by
      intro refused
      rcases reported with ⟨files, succeeded⟩ | ⟨failures, failed⟩
      · cases succeeded.symm.trans refused
      · cases failed.symm.trans refused
    refine ⟨⟨fun ⟨name, refused⟩ => absurd refused (accepted name), (absurd entry ·)⟩,
      fun name refused => absurd refused (accepted name), fun _ => ?_, changed.here, ?_⟩
    · exact ⟨output.join ⟨project⟩, Path.components_join output entry,
        destination_root entry output tree.here, reported⟩
    · intro location different
      rcases (changed.entries location).resolve_left different with ⟨missing, made, onWay⟩ |
        ⟨text, _, held, file, member, leads, rfl⟩
      · exact .inr ⟨missing, made, onWay⟩
      · exact .inl ⟨file, member, leads, held⟩
  · have refused : saved = (.error (.invalidProjectName project), tree) :=
      run_of_other entry bundle output tree
    rw [refused]
    refine ⟨⟨fun _ => entry, fun _ => ⟨project, rfl⟩⟩, ?_, fun named => absurd named entry, rfl,
      fun location different => absurd rfl different⟩
    intro name failed
    cases failed
    exact ⟨rfl, rfl⟩

end Save

end ServerForge
