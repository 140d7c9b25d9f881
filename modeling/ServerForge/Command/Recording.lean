import ServerForge.Command.Console
import ServerForge.Files.Tree
import ServerForge.Text.Utf8

/-! Commands on a tree of files, with all that is heard given beforehand and all that is said
kept. -/
namespace ServerForge.Command

/-- `answers` are those that a user gives one after another; nobody answers if there are none. -/
structure Recording where
  tree : Files.Tree
  said : String
  input : List UInt8
  answers : Option (List String)

namespace Recording

/-- An operation on the files alone. -/
def onTree (operation : StateM Files.Tree α) : StateM Recording α := fun recording =>
  let (result, tree) := operation.run recording.tree
  (result, { recording with tree })

instance : Files.Access (StateM Recording) where
  makeDirectories path := onTree (Files.makeDirectories path)
  write path text := onTree (Files.write path text)
  read path := onTree (Files.read path)
  openLog path := onTree (Files.openLog path)

/-- The next answer; an empty one takes the default. -/
def answer (default : String) (recording : Recording) : Option String × Recording :=
  match recording.answers with
  | none => (none, recording)
  | some [] => (none, recording)
  | some (answer :: answers) =>
    (some (if answer = "" then default else answer), { recording with answers := some answers })

def foldLines (step : σ → List UInt8 → StateM Recording (σ × Bool)) :
    σ → List (List UInt8) → StateM Recording σ
  | state, [] => return state
  | state, line :: lines => do
    let (state, more) ← step state line
    if more then foldLines step state lines else return state

instance : Console (StateM Recording) where
  say text := modify fun recording => { recording with said := recording.said ++ text }
  ask _ default := modifyGet (answer default)
  foldInput state step := do foldLines step state (Text.byteLines (← get).input)

end Recording

end ServerForge.Command
