import ServerForge.Failure
import ServerForge.Text.Digit

/-! What a command says to its user and hears from them. -/
namespace ServerForge.Command

class Console (m : Type → Type) where
  /-- Writes to the standard output. -/
  say : String → m Unit
  /-- Asks for a text, with the one that is taken for an empty answer; nothing comes back if
  there is nobody to ask. -/
  ask : String → String → m (Option String)
  /-- Takes the lines of the standard input one after another into a state, as long as the
  step wants more. -/
  foldInput : {σ : Type} → σ → (σ → List UInt8 → m (σ × Bool)) → m σ

export Console (say ask foldInput)

/-- Why a command failed: a message, and the causes behind it. -/
structure Report where
  message : String
  causes : List String

namespace Report

def ofFailure (failure : Failure) : Report := ⟨failure.message, []⟩

/-- Several causes are numbered. -/
def causeLines (causes : List String) : List String :=
  match causes with
  | [cause] => ["    " ++ cause]
  | causes => (List.range causes.length).zip causes |>.map fun (i, cause) =>
      "    " ++ Text.numeral i ++ ": " ++ cause

def text (report : Report) : String :=
  "Error: " ++ report.message ++ "\n" ++
    if report.causes.isEmpty then ""
    else "\nCaused by:\n" ++ String.join ((causeLines report.causes).map (· ++ "\n"))

end Report

end ServerForge.Command
