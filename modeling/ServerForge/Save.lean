import ServerForge.Bundle
import ServerForge.Failure
import ServerForge.Files.Access

/-! Writing a bundle below an output directory. The project's name has to be a plain directory
name, so a project never lands outside of that directory. -/
namespace ServerForge

/-- The files of a project that was written. -/
structure SavedProject where
  root : Path
  files : List Path

namespace Save

/-- A single component that is the whole text. -/
def isPlainName (project : String) : Bool :=
  Path.components ⟨project⟩ == [.name project]

def root (output : Path) (project : String) : Except Failure Path :=
  if isPlainName project then return output.join ⟨project⟩
  else throw (.invalidProjectName project)

/-- The outcome of five writes: all that failed are reported together, in order. -/
def outcome (root : Path) (results : List (Path × Except Files.Fault Unit)) :
    Except Failure SavedProject :=
  let failures := results.filterMap fun
    | (path, .error fault) => some (path, fault)
    | (_, .ok ()) => none
  if failures.isEmpty then return ⟨root, results.map (·.1)⟩
  else throw (.writeFailure root failures)

/-- A write that fails does not keep the others from being tried. -/
def run [Monad m] [Files.Access m] (bundle : Bundle) (output : Path) (project : String) :
    m (Except Failure SavedProject) := do
  match root output project with
  | .error failure => return .error failure
  | .ok root =>
    let source := root.join Bundle.sourceDirectory
    match ← Files.makeDirectories source with
    | .error fault => return .error (.writeFailure root [(source, fault)])
    | .ok () =>
      let results ← bundle.artifacts.mapM fun (path, text) => do
        let path := root.join path
        return (path, ← Files.write path text)
      return outcome root results

end Save

end ServerForge
