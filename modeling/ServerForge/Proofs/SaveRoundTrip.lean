import ServerForge.Proofs.RegistryHistory
import ServerForge.Proofs.ToolAnswers

/-! A project that was saved can be read again. Main statement: after any run of a server, saving a
project that succeeds leaves the five texts of its last generation in its files, changes no entry
of the registry, and leaves the rest of the tree as it was but for directories on the way. -/
namespace ServerForge

open Files

namespace Save

/-- What was written in one go is read again, if every write succeeded and no two of them have the
same place. -/
theorem writeAll_read {root : Path} {artifacts : List (Path × String)} {tree : Tree}
    (distinct : artifacts.Pairwise fun a b =>
      (root.join a.1).destination tree.here ≠ (root.join b.1).destination tree.here)
    (succeeded : ∀ entry ∈ (writeAll root artifacts tree).1, entry.2 = .ok ()) :
    ∀ artifact ∈ artifacts,
      (writeAll root artifacts tree).2.read (root.join artifact.1) = .ok artifact.2 := by
  induction artifacts generalizing tree with
  | nil => simp
  | cons artifact artifacts ih =>
    obtain ⟨apart, others⟩ := List.pairwise_cons.mp distinct
    have here := (Tree.write_changed tree (root.join artifact.1) artifact.2).here
    intro chosen member
    rcases List.mem_cons.mp member with rfl | later
    · -- The first text outlasts the later writes, for they change other places only.
      refine Tree.read_of_write (succeeded _ (List.mem_cons_self ..))
        (writeAll_changed root artifacts _) ?_
      rintro held ⟨other, inside, same, -⟩
      rw [here] at same
      exact apart other inside same
    · rw [← here] at others
      exact ih others (fun entry inside => succeeded entry (List.mem_cons_of_mem _ inside)) chosen
        later

/-- Whatever was saved is there to be read. -/
theorem run_read {bundle : Bundle} {output : Path} {project : String} {tree after : Tree}
    {written : SavedProject}
    (saved : (run bundle output project : StateM Tree _).run tree = (.ok written, after)) :
    ∀ artifact ∈ bundle.artifacts,
      after.read ((output.join ⟨project⟩).join artifact.1) = .ok artifact.2 := by
  by_cases entry : Path.EntryName project
  · rw [run_of_entryName entry] at saved
    dsimp only at saved
    split at saved
    · cases saved
    next made _ =>
      obtain ⟨outcome, rfl⟩ := Prod.mk.inj saved
      exact writeAll_read (bundle.destinations_distinct _ _) (outcome_eq_ok outcome)
  · rw [run_of_other entry] at saved
    cases saved

end Save

namespace Server

/-- A save that succeeds writes what the registry holds of the project, and nothing else. -/
theorem callTool_save_eq_ok {server : Server} {arguments : Json} {project output text : String}
    {tree : Tree} (read : Tool.Call.ofJson .save arguments = .ok (.save project output))
    (succeeded : ((server.callTool Tool.save.name arguments : StateM Tree _).run tree).1.1 =
      .ok ⟨text, false⟩) :
    ∃ bundle written after, server.registry.find? project = some bundle ∧
      (Save.run bundle ⟨output⟩ project : StateM Tree _).run tree = (.ok written, after) ∧
      ((server.callTool Tool.save.name arguments : StateM Tree _).run tree).1.2 = server ∧
      ((server.callTool Tool.save.name arguments : StateM Tree _).run tree).2 = after := by
  rw [run_callTool_of_ok read] at succeeded ⊢
  dsimp only at succeeded ⊢
  have performed := ToolResult.ofOutcome_eq_text (Except.ok.inj succeeded)
  cases held : server.registry.find? project with
  | none =>
    have missing : server.Fails tree (.save project output) (.projectNotFound project) :=
      .notFound held
    cases missing.perform.symm.trans performed
  | some bundle =>
    rw [run_perform_save held] at performed ⊢
    dsimp only at performed ⊢
    cases saved : (Save.run bundle ⟨output⟩ project : StateM Tree _).run tree with
    | mk outcome after =>
      rw [saved] at performed
      cases outcome with
      | error failure => cases performed
      | ok written => exact ⟨bundle, written, after, rfl, saved, rfl, rfl⟩

section
variable {World : Type} [Files.Access (StateM World)]

/-- After any run of a server, a save that succeeds leaves the five texts of the last generation
of the project where they can be read, below the output. It changes neither the server nor any
other file; directories are added only on the way to the sources. -/
theorem save_holds_last_generation (config : Config) (events : List Event) (world : World)
    {arguments : Json} {project output : String}
    (read : Tool.Call.ofJson .save arguments = .ok (.save project output)) (tree : Tree) :
    let server := (((fresh config).steps events : StateM World _).run world).1
    let saved := (server.callTool Tool.save.name arguments : StateM Tree _).run tree
    ∀ text, saved.1.1 = .ok ⟨text, false⟩ →
      ∃ bundle, latest? config project (events.flatMap Event.calls) = some bundle ∧
        (let file (name : String) := saved.2.read (((Path.mk output).join ⟨project⟩).join ⟨name⟩)
        file "package.json" = .ok bundle.manifest ∧
        file "src/index.ts" = .ok bundle.serverSource ∧
        file "README.md" = .ok bundle.readme ∧
        file "tsconfig.json" = .ok bundle.buildConfig ∧
        file ".gitignore" = .ok bundle.ignoreRules) ∧
        saved.1.2 = server ∧ saved.2.here = tree.here ∧
        ∀ location,
          (∀ file ∈ bundle.files,
            location ≠ (Path.mk output).destination tree.here ++ project :: file.1) →
          saved.2.find? location = tree.find? location ∨
            (tree.find? location = none ∧ saved.2.find? location = some .directory ∧
              Save.OnTheWay ⟨output⟩ project tree.here location) := by
  intro server saved text succeeded
  obtain ⟨bundle, written, after, held, run, same, left⟩ := callTool_save_eq_ok read succeeded
  have latest := (steps_find? config events world project).symm.trans held
  have files := Save.run_read run
  have changed := Save.run_changed bundle ⟨output⟩ project tree
  rw [run] at changed
  rw [show saved.2 = after from left]
  refine ⟨bundle, latest, ?_, same, changed.here, ?_⟩
  · simp only [Bundle.artifacts, List.forall_mem_cons] at files
    obtain ⟨manifest, source, readme, build, ignore, -⟩ := files
    exact ⟨manifest, source, readme, build, ignore⟩
  · intro location elsewhere
    rcases changed.entries location with kept | ⟨missing, made, onWay⟩ |
      ⟨_, _, _, file, member, leads, _⟩
    · exact .inl kept
    · exact .inr ⟨missing, made, onWay⟩
    · exact absurd leads (elsewhere file member)

end

/-- An older text of the project, and a file that is not of it. -/
def olderTree : Tree where
  entries := [(["work"], .directory), (["work", "out"], .directory),
    (["work", "out", "alpha"], .directory),
    (["work", "out", "alpha", "README.md"], .file "written by hand"),
    (["work", "out", "notes"], .file "kept")]
  here := ["work"]

def savingAlpha : Json := .obj [("projectName", .str "alpha"), ("outputPath", .str "out/")]

theorem save_replaces_older_text :
    let events := [generation "basic", generation "nosuch"]
    let server := (((fresh .default).steps events : StateM Tree _).run olderTree).1
    let saved := (server.callTool Tool.save.name savingAlpha : StateM Tree _).run olderTree
    ∃ text synthesis, saved.1.1 = .ok ⟨text, false⟩ ∧
      Synthesis.run .default "alpha" "basic" .empty = .ok synthesis ∧
      saved.2.read (((Path.mk "out/").join ⟨"alpha"⟩).join ⟨"README.md"⟩) =
        .ok synthesis.bundle.readme ∧
      saved.2.find? ["work", "out", "notes"] = some (.file "kept") := by
  intro events server saved
  have read : Tool.Call.ofJson .save savingAlpha = .ok (.save "alpha" "out/") := by rfl
  have calls : events.flatMap Event.calls =
    [.generate "alpha" "basic" .empty, .generate "alpha" "nosuch" .empty] := by rfl
  have unknown : Synthesis.run .default "alpha" "nosuch" .empty =
    .error (.unknownCategory "nosuch") := by rfl
  have succeeds : ((Synthesis.run .default "alpha" "basic" .empty).map fun synthesis =>
    ((Save.run synthesis.bundle ⟨"out/"⟩ "alpha" : StateM Tree _).run olderTree).1.isOk).toOption =
      some true := by decide +kernel
  have told := save_holds_last_generation .default events olderTree read olderTree
  extract_lets file at told
  cases made : Synthesis.run .default "alpha" "basic" .empty with
  | error failure =>
    rw [made] at succeeds
    cases succeeds
  | ok synthesis =>
    have last : latest? .default "alpha" (events.flatMap Event.calls) = some synthesis.bundle := by
      simp [calls, latest?, Tool.Call.bundle?, made, unknown, Except.toOption]
    have held : server.registry.find? "alpha" = some synthesis.bundle :=
      (steps_find? .default events olderTree "alpha").trans last
    have ran : saved.1.1 = .ok (.ofOutcome ((Save.run synthesis.bundle ⟨"out/"⟩ "alpha" :
        StateM Tree _).run olderTree |>.1.map (Messages.saved "alpha"))) := by
      rw [show saved = _ from run_callTool_of_ok read olderTree, run_perform_save held]
    rw [made] at succeeds
    simp only [Except.map, Except.toOption, Option.some.injEq] at succeeds
    generalize ((Save.run synthesis.bundle ⟨"out/"⟩ "alpha" : StateM Tree _).run olderTree).1 =
      outcome at ran succeeds
    cases outcome with
    | error failure => cases succeeds
    | ok written =>
      -- what was saved is known from here on by what is told of it, and never computed
      clear_value saved
      obtain ⟨bundle, latest, ⟨-, -, readme, -, -⟩, -, -, frame⟩ := told _ ran
      cases last.symm.trans latest
      refine ⟨_, synthesis, ran, rfl, readme, ?_⟩
      have apart : ∀ file ∈ synthesis.bundle.files, ["work", "out", "notes"] ≠
          (Path.mk "out/").destination olderTree.here ++ "alpha" :: file.1 := by
        have base : (Path.mk "out/").destination olderTree.here = ["work", "out"] := by decide
        simp [base]
      have present : olderTree.find? ["work", "out", "notes"] = some (.file "kept") := by decide
      rcases frame _ apart with kept | ⟨missing, -⟩
      · exact kept.trans present
      · cases missing.symm.trans present

end Server

end ServerForge
