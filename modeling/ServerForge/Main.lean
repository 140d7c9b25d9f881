import ServerForge.Command.Run

/-! The program on the files, the terminal and the environment of the machine it runs on. -/
namespace ServerForge.Machine

/-- The fault that the system means by a number, which may come negated. -/
def faultOfCode (code : UInt32) (details : String) : Files.Fault :=
  let code := min code (0 - code)
  if code = 20 then .notDirectory
  else if code = 21 then .isDirectory
  else if code = 36 then .nameTooLong
  else .other details

/-- The fault that a system call reports. -/
def faultOf : IO.Error → Files.Fault
  | .noFileOrDirectory .. => .notFound
  | .alreadyExists .. => .alreadyExists
  | .inappropriateType _ code details => faultOfCode code details
  | .invalidArgument _ code details => faultOfCode code details
  | error => .other (toString error)

def attempt (action : IO α) : IO (Except Files.Fault α) := do
  match ← action.toBaseIO with
  | .ok value => return .ok value
  | .error error => return .error (faultOf error)

/-- Creates a directory, unless it is there already. -/
def createOne (path : Path) : IO Unit := do
  try IO.FS.createDir path.text
  catch error =>
    if faultOf error = .notFound then throw error
    else
      try IO.FS.createDirAll path.text
      catch _ => throw error

/-- Creates the first of some directories, each of which the next one holds. -/
def createFirst : List Path → IO Unit
  | [] => pure ()
  | path :: holding => do
    try createOne path
    catch error =>
      if faultOf error = .notFound then
        createFirst holding
        createOne path
      else throw error

instance : Files.Access IO where
  makeDirectories path := attempt (createFirst path.ancestry)
  write path text := attempt (IO.FS.writeFile path.text text)
  read path := attempt (IO.FS.readFile path.text)
  openLog path := attempt (IO.FS.withFile path.text .append fun _ => pure ())

def askUser (prompt default : String) : IO (Option String) := do
  let stdin ← IO.getStdin
  if !(← stdin.isTty) then return none
  let stderr ← IO.getStderr
  stderr.putStr (prompt ++ (if default = "" then "" else " [" ++ default ++ "]") ++ ": ")
  stderr.flush
  let line ← stdin.getLine
  let typed := String.ofList (line.toList.takeWhile fun c => c != '\n' && c != '\r')
  return some (if typed = "" then default else typed)

/-- The bytes up to the next line feed, and whether there was one. -/
partial def nextLine (stream : IO.FS.Stream) (taken : List UInt8) : IO (List UInt8 × Bool) := do
  let bytes ← stream.read 1
  match bytes.toList with
  | [] => return (taken.reverse, false)
  | b :: _ => if b = 10 then return (taken.reverse, true) else nextLine stream (b :: taken)

partial def foldStream (stream : IO.FS.Stream) (step : σ → List UInt8 → IO (σ × Bool))
    (state : σ) : IO σ := do
  let (line, ended) ← nextLine stream []
  if line.isEmpty && !ended then return state
  let (state, more) ← step state (if ended then Text.dropReturn line else line)
  if more && ended then foldStream stream step state else return state

instance : Command.Console IO where
  say text := do
    let stdout ← IO.getStdout
    stdout.putStr text
    stdout.flush
  ask := askUser
  foldInput state step := do foldStream (← IO.getStdin) step state

end ServerForge.Machine

def main (arguments : List String) : IO UInt32 := do
  let environment : ServerForge.Command.Environment :=
    ⟨← IO.getEnv "MCPGEN_CONFIG", ← IO.getEnv "MCPGEN_LOG_FILE"⟩
  let exit ← (ServerForge.Command.main environment arguments : IO ServerForge.Command.Exit)
  match exit.report with
  | some report => IO.eprint report.text
  | none => if exit.code = 2 then IO.eprint ServerForge.Command.usage
  return exit.code.toUInt32
