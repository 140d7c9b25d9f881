import ServerForge.Command.Generate
import ServerForge.Proofs.Generation

/-! The command that generates a project, in two stages: it synthesizes the project, and then it
shows or writes it. Only the first stage asks anything, and without questions it is a function of
the options. -/
namespace ServerForge.Command.Generate

variable {m : Type → Type} [Monad m] [Console m]

/-- The project that the options alone ask for. -/
def outcome (config : Config) (options : GenerateOptions) : Except Report Synthesis :=
  (Synthesis.run config options.project options.category (ofOptions options)).mapError .ofFailure

/-- The project that the options ask for, if need be after questions. -/
def synthesize (config : Config) (options : GenerateOptions) : m (Except Report Synthesis) := do
  match Category.ofKey options.category with
  | .error failure => return .error (.ofFailure failure)
  | .ok category =>
    let required ← requirements options category
    return required.bind fun required =>
      (Synthesis.run config options.project category.key required).mapError .ofFailure

/-- Shows a project in a dry run, and else writes it. -/
def deliver [Files.Access m] (options : GenerateOptions) (synthesis : Synthesis) :
    m (Except Report Unit) := do
  if options.dryRun then
    say (preview options synthesis)
    return .ok ()
  else
    match ← Save.run synthesis.bundle options.output options.project with
    | .error failure => return .error (.ofFailure failure)
    | .ok written =>
      say (summary options synthesis written)
      return .ok ()

theorem run_eq_stages [LawfulMonad m] [Files.Access m] (config : Config)
    (options : GenerateOptions) :
    run (m := m) config options = synthesize config options >>= fun
      | .error report => return .error report
      | .ok synthesis => deliver options synthesis := by
  unfold run synthesize
  cases Category.ofKey options.category with
  | error failure => simp only [pure_bind]
  | ok category =>
    simp only [bind_assoc, pure_bind]
    congr 1
    funext required
    cases required with
    | error report => rfl
    | ok required =>
      dsimp only [Except.bind]
      cases Synthesis.run config options.project category.key required with
      | error failure => rfl
      | ok synthesis => rfl

/-- Without questions nothing but the options counts. -/
theorem synthesize_direct [LawfulMonad m] (config : Config) {options : GenerateOptions}
    (direct : options.interactive = false) :
    synthesize (m := m) config options = pure (outcome config options) := by
  unfold synthesize outcome
  cases known : Category.ofKey options.category with
  | error failure =>
    rw [Synthesis.run_of_unknown known]
    rfl
  | ok category =>
    have key : category.key = options.category := Category.ofKey_eq_ok_iff.mp known
    simp only [requirements, direct, Bool.false_eq_true, if_false, pure_bind, key]
    rfl

end ServerForge.Command.Generate
