import ServerForge.Command.Recording
import ServerForge.Proofs.CommandStages
import ServerForge.Proofs.SaveRoundTrip

/-! What a dry run promises. It shows a preview of the project and leaves the files alone. Main
statement: a project with the name of an entry is then written as the preview shows it, unless the
files refuse; for any other name the dry run shows a project that is never written. -/
namespace ServerForge

open Files

namespace Command

namespace Recording

/-! ## Operations on the files alone -/

theorem run_onTree {α : Type} (operation : StateM Tree α) (recording : Recording) :
    (onTree operation).run recording =
      ((operation.run recording.tree).1,
        { recording with tree := (operation.run recording.tree).2 }) := rfl

theorem onTree_pure {α : Type} (a : α) : onTree (pure a) = pure a := rfl

theorem onTree_bind {α β : Type} (first : StateM Tree α) (next : α → StateM Tree β) :
    onTree (first >>= next) = onTree first >>= fun a => onTree (next a) := rfl

theorem onTree_mapM {α β : Type} (f : α → StateM Tree β) (items : List α) :
    onTree (items.mapM f) = items.mapM fun item => onTree (f item) := by
  induction items with
  | nil => rfl
  | cons item items ih => simp only [List.mapM_cons, onTree_bind, onTree_pure, ih]

end Recording

/-- Saving neither says nor hears anything. -/
theorem save_onTree (bundle : Bundle) (output : Path) (project : String) :
    (Save.run bundle output project : StateM Recording _) =
      Recording.onTree (Save.run bundle output project) := by
  unfold Save.run
  cases Save.root output project with
  | error failure => rfl
  | ok root =>
    dsimp only
    rw [Recording.onTree_bind]
    congr 1
    funext created
    cases created with
    | error fault => rfl
    | ok =>
      dsimp only
      rw [Recording.onTree_bind, Recording.onTree_mapM]
      rfl

theorem Report.ofFailure_ne {a b : Failure} (apart : a.initial ≠ b.initial) :
    ofFailure a ≠ ofFailure b := by
  intro same
  have messages : a.message = b.message := congrArg Report.message same
  have opens := a.message_opens
  rw [messages] at opens
  exact apart (opens.unique b.message_opens)

namespace Generate

/-- What a dry run shows of a project: where it would go, its files with their sizes in bytes, and
the source in full. -/
structure Preview where
  root : Path
  files : List (Path × Nat)
  source : String

namespace Preview

def of (options : GenerateOptions) (synthesis : Synthesis) : Preview where
  root := options.output.join ⟨options.project⟩
  files := synthesis.bundle.artifacts.map fun (path, text) => (path, text.utf8ByteSize)
  source := synthesis.bundle.serverSource

/-- The preview of a project with its name and the number of its tools. -/
def text (preview : Preview) (project : String) (tools : Nat) : String :=
  "→ Would generate " ++ project ++ " (" ++ Text.numeral tools ++ " tools) in " ++
    preview.root.text ++ "\n" ++
  String.join (preview.files.map fun (path, size) =>
    "  " ++ path.text ++ " (" ++ Text.numeral size ++ " bytes)\n") ++
  String.ofList (List.replicate 40 '─') ++ "\n" ++ preview.source ++ "\n"

theorem preview_eq_text (options : GenerateOptions) (synthesis : Synthesis) :
    preview options synthesis =
      (of options synthesis).text options.project synthesis.operations.length := by
  have lines : (of options synthesis).files.map (fun (path, size) =>
        "  " ++ path.text ++ " (" ++ Text.numeral size ++ " bytes)\n") =
      synthesis.bundle.artifacts.map fun (path, text) =>
        "  " ++ path.text ++ " (" ++ Text.numeral text.utf8ByteSize ++ " bytes)\n" := by
    rw [of, List.map_map]
    rfl
  unfold preview text
  rw [lines, of]

/-- The files are there as the preview lists them, and nothing else has changed but for directories
on the way to them. -/
structure Written (options : GenerateOptions) (preview : Preview) (before after : Tree) : Prop where
  files : ∀ file ∈ preview.files, ∃ text,
    after.read (preview.root.join file.1) = .ok text ∧ text.utf8ByteSize = file.2
  source : after.read (preview.root.join ⟨"src/index.ts"⟩) = .ok preview.source
  here : after.here = before.here
  others : ∀ location,
    (∀ file ∈ preview.files, location ≠ (preview.root.join file.1).destination before.here) →
    after.find? location = before.find? location ∨
      before.find? location = none ∧ after.find? location = some .directory ∧
        Save.OnTheWay options.output options.project before.here location

end Preview

/-- With the name of an entry, saving writes what the preview shows or reports the files that it
could not write. -/
theorem save_previewed {options : GenerateOptions} (entry : Path.EntryName options.project)
    (synthesis : Synthesis) (tree : Tree) :
    let preview := Preview.of options synthesis
    let saved := (Save.run synthesis.bundle options.output options.project :
      StateM Tree _).run tree
    (∃ files, saved.1 = .ok ⟨preview.root, files⟩ ∧ preview.Written options tree saved.2) ∨
      ∃ failures, saved.1 = .error (.writeFailure preview.root failures) := by
  intro preview saved
  rcases Save.run_cases entry synthesis.bundle options.output tree with ⟨files, succeeded⟩ |
    ⟨failures, failed⟩
  · have texts := Save.run_read (Prod.ext succeeded rfl : saved = (.ok _, saved.2))
    have changed := Save.run_changed synthesis.bundle options.output options.project tree
    refine .inl ⟨files, succeeded, ?_, ?_, changed.here, fun location elsewhere => ?_⟩
    · intro file listed
      obtain ⟨artifact, member, rfl⟩ := List.mem_map.mp listed
      exact ⟨artifact.2, texts artifact member, rfl⟩
    · exact texts (⟨"src/index.ts"⟩, synthesis.bundle.serverSource) (.tail _ (.head _))
    · rcases changed.entries location with kept | ⟨missing, made, onWay⟩ |
        ⟨_, _, _, file, member, leads, _⟩
      · exact .inl kept
      · exact .inr ⟨missing, made, onWay⟩
      · refine False.elim ?_
        rw [← Bundle.pieces_artifacts] at member
        obtain ⟨artifact, inside, rfl⟩ := List.mem_map.mp member
        have place := Bundle.destination_artifact inside preview.root tree.here
        have base : preview.root.destination tree.here =
            options.output.destination tree.here ++ [options.project] :=
          Save.destination_root entry options.output tree.here
        rw [base, List.append_assoc] at place
        exact elsewhere _ (List.mem_map_of_mem inside) (leads.trans place.symm)
  · exact .inr ⟨failures, failed⟩

/-! ## Both runs -/

section
variable (config : Config) (options : GenerateOptions) (start : Recording)

/-- Without questions the command shows or writes the project that the options ask for. -/
theorem run_without_questions (silent : options.interactive = false) :
    (run config options : StateM Recording _).run start =
      match outcome config options with
      | .error report => (.error report, start)
      | .ok synthesis => (deliver options synthesis : StateM Recording _).run start := by
  rw [run_eq_stages, synthesize_direct config silent, pure_bind]
  cases outcome config options <;> rfl

theorem run_dry :
    (run config { options with dryRun := true, interactive := false } :
        StateM Recording _).run start =
      match outcome config options with
      | .error report => (.error report, start)
      | .ok synthesis =>
        (.ok (), { start with said := start.said ++ preview options synthesis }) := by
  rw [run_without_questions config _ start rfl]
  change (match outcome config options with
    | .error report => _
    | .ok synthesis => _) = _
  cases outcome config options <;> rfl

theorem run_real :
    (run config { options with dryRun := false, interactive := false } :
        StateM Recording _).run start =
      match outcome config options with
      | .error report => (.error report, start)
      | .ok synthesis =>
        match (Save.run synthesis.bundle options.output options.project :
            StateM Tree _).run start.tree with
        | (.error failure, tree) => (.error (.ofFailure failure), { start with tree })
        | (.ok written, tree) =>
          (.ok (),
            { start with tree, said := start.said ++ summary options synthesis written }) := by
  rw [run_without_questions config _ start rfl]
  change (match outcome config options with
    | .error report => _
    | .ok synthesis => _) = _
  cases outcome config options with
  | error report => rfl
  | ok synthesis =>
    dsimp only
    unfold deliver
    rw [if_neg Bool.false_ne_true, save_onTree, Save.run_bind, Recording.run_onTree]
    cases (Save.run synthesis.bundle options.output options.project : StateM Tree _).run
        start.tree with
    | mk saved tree => cases saved <;> rfl

end

/-- A dry run leaves the files alone, and fails only if nothing would be written. If it succeeds it
shows a preview of the project. For a project with the name of an entry that is what comes to be
written, to the last byte of the source, unless the files refuse. For any other name, which the dry
run does not look at, nothing is written: the name is refused. -/
theorem dry_run_previews_entry_names (config : Config) (options : GenerateOptions)
    (start : Recording) :
    let dry := (run config { options with dryRun := true, interactive := false } :
      StateM Recording _).run start
    let real := (run config { options with dryRun := false, interactive := false } :
      StateM Recording _).run start
    dry.2.tree = start.tree ∧
    (∀ report, dry.1 = .error report → real = (.error report, start)) ∧
    (dry.1 = .ok () → ∃ synthesis, outcome config options = .ok synthesis ∧
      let preview := Preview.of options synthesis
      dry.2.said = start.said ++ preview.text options.project synthesis.operations.length ∧
      preview.files.map (·.1.text) =
        ["package.json", "src/index.ts", "README.md", "tsconfig.json", ".gitignore"] ∧
      (Path.EntryName options.project →
        (real.1 = .ok () ∧ preview.Written options start.tree real.2.tree) ∨
          ∃ failures, real.1 = .error (.ofFailure (.writeFailure preview.root failures))) ∧
      (¬ Path.EntryName options.project →
        real = (.error (.ofFailure (.invalidProjectName options.project)), start))) := by
  intro dry real
  have previewed : dry = _ := run_dry config options start
  have wrote : real = _ := run_real config options start
  cases made : outcome config options with
  | error report =>
    rw [made] at previewed wrote
    rw [previewed, wrote]
    refine ⟨rfl, fun other failed => ?_, fun succeeded => nomatch succeeded⟩
    cases failed
    rfl
  | ok synthesis =>
    rw [made] at previewed wrote
    dsimp only at previewed wrote
    rw [previewed]
    refine ⟨rfl, fun report failed => (nomatch failed), fun _ => ⟨synthesis, rfl, ?_, rfl, ?_, ?_⟩⟩
    · rw [Preview.preview_eq_text]
    · intro entry
      have saved := save_previewed entry synthesis start.tree
      dsimp only at saved
      generalize (Save.run synthesis.bundle options.output options.project : StateM Tree _).run
        start.tree = ran at saved wrote
      obtain ⟨outcome, tree⟩ := ran
      rw [wrote]
      rcases saved with ⟨files, rfl, written⟩ | ⟨failures, rfl⟩
      · exact .inl ⟨rfl, written⟩
      · exact .inr ⟨failures, rfl⟩
    · intro other
      rw [Save.run_of_other other] at wrote
      exact wrote

/-- The directory above the output cannot be the directory of a project. -/
theorem dry_run_of_parent_directory :
    let options : GenerateOptions := ⟨"..", "basic", none, [], [], ⟨"."⟩, false, false⟩
    let start : Recording := ⟨⟨[], []⟩, "", [], none⟩
    let dry := (run .default { options with dryRun := true } : StateM Recording _).run start
    let real := (run .default options : StateM Recording _).run start
    dry.1 = .ok () ∧ real.1 ≠ .ok () ∧
      ∀ root failures, real.1 ≠ .error (.ofFailure (.writeFailure root failures)) := by
  intro options start dry real
  have previewed : dry = _ := run_dry .default options start
  have wrote : real = _ := run_real .default options start
  have made : (outcome .default options).toOption.isSome = true := by decide
  have other : ¬ Path.EntryName options.project := fun entry => entry.parent rfl
  cases synthesized : outcome .default options with
  | error report =>
    rw [synthesized] at made
    cases made
  | ok synthesis =>
    rw [synthesized] at previewed wrote
    dsimp only at previewed wrote
    rw [Save.run_of_other other] at wrote
    dsimp only at wrote
    rw [previewed, wrote]
    refine ⟨rfl, ?_, fun root failures failed => ?_⟩
    · rintro ⟨⟩
    · exact Report.ofFailure_ne (by simp [Failure.initial]) (Except.error.inj failed)

end Generate

end Command

end ServerForge
