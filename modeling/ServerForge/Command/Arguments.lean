import ServerForge.Files.Path

/-! The arguments of the command line. Options are looked up exactly; a value follows its
option or is attached to it, and short options may share one dash. The general options are
understood at every level of the command. -/
namespace ServerForge.Command

/-- Why no command is run. -/
inductive Stop where
  | usage
  | help
  | version (command : String)
  deriving DecidableEq

inductive Arity where
  | flag
  | text
  | texts
  /-- A text that may not be empty. -/
  | path
  | help
  | version
  deriving DecidableEq

structure OptionSpec where
  long : String
  short : Option Char
  arity : Arity

def OptionSpec.takesValue (spec : OptionSpec) : Bool :=
  spec.arity == .text || spec.arity == .texts || spec.arity == .path

/-- What one level of the command was given: options with their values, and operands. -/
structure Level where
  options : List (String × String)
  operands : List String

namespace Level

def empty : Level := ⟨[], []⟩

def has (level : Level) (long : String) : Bool := level.options.any (·.1 == long)

def values (level : Level) (long : String) : List String :=
  (level.options.filter (·.1 == long)).map (·.2)

def value? (level : Level) (long : String) : Option String := (level.values long).head?

end Level

/-- The options, the number of operands and the names of the commands of one level. -/
structure Grammar where
  name : String
  options : List OptionSpec
  operands : Nat
  commands : List String

namespace Grammar

/-- Notes an option. Only an option for several texts may be given more than once. -/
def note (grammar : Grammar) (level : Level) (spec : OptionSpec) (value : String) :
    Except Stop Level :=
  match spec.arity with
  | .help => throw .help
  | .version => throw (.version grammar.name)
  | arity =>
    if arity ≠ .texts ∧ level.has spec.long then throw .usage
    else if arity = .path ∧ value = "" then throw .usage
    else return { level with options := level.options ++ [(spec.long, value)] }

/-- A long option without its dashes, with the value after the equals sign if there is one. -/
def splitLong (cs : List Char) : String × Option String :=
  match cs.dropWhile (· != '=') with
  | [] => (String.ofList cs, none)
  | _ :: value => (String.ofList (cs.takeWhile (· != '=')), some (String.ofList value))

/-- A long option; it may still wait for its value. -/
def readLong (grammar : Grammar) (level : Level) (cs : List Char) :
    Except Stop (Level × Option OptionSpec) :=
  let (long, attached) := splitLong cs
  match grammar.options.find? (·.long == long), attached with
  | none, _ => throw .usage
  | some spec, some value =>
    if spec.takesValue then return (← grammar.note level spec value, none) else throw .usage
  | some spec, none =>
    if spec.takesValue then return (level, some spec)
    else return (← grammar.note level spec "", none)

/-- Short options behind one dash; the rest after one that takes a value is that value. -/
def readShort (grammar : Grammar) (level : Level) :
    List Char → Except Stop (Level × Option OptionSpec)
  | [] => return (level, none)
  | c :: cs =>
    match grammar.options.find? (·.short == some c) with
    | none => throw .usage
    | some spec =>
      if spec.takesValue then
        match cs with
        | [] => return (level, some spec)
        | '=' :: value => return (← grammar.note level spec (String.ofList value), none)
        | value => return (← grammar.note level spec (String.ofList value), none)
      else do readShort grammar (← grammar.note level spec "") cs

def addOperand (grammar : Grammar) (level : Level) (operand : String) : Except Stop Level :=
  if level.operands.length < grammar.operands then
    return { level with operands := level.operands ++ [operand] }
  else throw .usage

/-- The arguments up to the name of a command, which comes back with the arguments after it.
`waiting` is an option that still has no value, and `plain` says that only operands follow. -/
def read (grammar : Grammar) (waiting : Option OptionSpec) (plain : Bool) (level : Level) :
    List String → Except Stop (Level × Option (String × List String))
  | [] => if waiting.isSome then throw .usage else return (level, none)
  | argument :: rest =>
    if plain then do
      grammar.read none true (← grammar.addOperand level argument) rest
    else
      match argument.toList, waiting with
      | '-' :: _ :: _, some _ => throw .usage
      | ['-', '-'], none => grammar.read none true level rest
      | '-' :: '-' :: cs, none => do
        let (level, waiting) ← grammar.readLong level cs
        grammar.read waiting false level rest
      | '-' :: c :: cs, none => do
        let (level, waiting) ← grammar.readShort level (c :: cs)
        grammar.read waiting false level rest
      | _, some spec => do grammar.read none false (← grammar.note level spec argument) rest
      | _, none =>
        if grammar.commands.contains argument then return (level, some (argument, rest))
        else do grammar.read none false (← grammar.addOperand level argument) rest

end Grammar

/-! ## The commands -/

/-- Settings from the environment, for options that are not given. -/
structure Environment where
  config : Option String
  logFile : Option String

structure GenerateOptions where
  project : String
  category : String
  purpose : Option String
  tools : List String
  dependencies : List String
  output : Path
  dryRun : Bool
  interactive : Bool

/-- What the program is asked to do. -/
inductive Action where
  | serve
  | status
  | templates
  | questions (category : String)
  | generate (options : GenerateOptions)

structure Invocation where
  config : Option Path
  logFile : Option Path
  action : Action

def programName : String := "mcpgen"

def generalOptions : List OptionSpec := [
  ⟨"verbose", some 'v', .flag⟩,
  ⟨"config", some 'c', .path⟩,
  ⟨"log-file", none, .path⟩,
  ⟨"help", some 'h', .help⟩,
  ⟨"version", some 'V', .version⟩]

def generateOptions : List OptionSpec := [
  ⟨"category", some 't', .text⟩,
  ⟨"purpose", some 'p', .text⟩,
  ⟨"tool", none, .texts⟩,
  ⟨"dependency", none, .texts⟩,
  ⟨"output", some 'o', .path⟩,
  ⟨"dry-run", none, .flag⟩,
  ⟨"interactive", some 'i', .flag⟩]

def rootGrammar : Grammar :=
  ⟨programName, generalOptions, 0, ["mcp", "templates", "questions", "generate", "help"]⟩

def serverGrammar : Grammar :=
  ⟨programName ++ "-mcp", generalOptions, 0, ["stdio", "status", "help"]⟩

/-- The grammar of a command that has no further commands. -/
def leafGrammar (name : String) (options : List OptionSpec) (operands : Nat) : Grammar :=
  ⟨programName ++ "-" ++ name, generalOptions ++ options, operands, []⟩

/-- Reads the arguments of a command that has no further commands. -/
def readLeaf (grammar : Grammar) (arguments : List String) : Except Stop Level := do
  let (level, _) ← grammar.read none false .empty arguments
  if level.operands.length < grammar.operands then throw .usage else return level

def GenerateOptions.ofLevel (level : Level) : GenerateOptions where
  project := (level.operands.head?).getD ""
  category := (level.value? "category").getD "basic"
  purpose := level.value? "purpose"
  tools := level.values "tool"
  dependencies := level.values "dependency"
  output := ⟨(level.value? "output").getD "."⟩
  dryRun := level.has "dry-run"
  interactive := level.has "interactive"

/-- Every command by the names that lead to it. -/
def commandNames : List (List String) :=
  [] :: rootGrammar.commands.map ([·]) ++ serverGrammar.commands.map (["mcp", ·])

/-- Help is given for the command that the operands lead to, if there is one. -/
def readHelp (leading operands : List String) : Stop :=
  if commandNames.contains (leading ++ operands) then .help else .usage

/-- One line on how to call the program. -/
def usage : String :=
  "Usage: " ++ programName ++ " [options] <" ++ "|".intercalate rootGrammar.commands ++ ">\n"

/-- A general option: the innermost level that has it counts, then the environment. At a level
without the option, an empty setting in the environment is refused. -/
def general (levels : List Level) (long : String) (setting : Option String) :
    Except Stop (Option Path) :=
  if setting = some "" ∧ levels.any (!·.has long) then throw .usage
  else return (((levels.reverse.findSome? (·.value? long)).or setting).map Path.mk)

def invocation (environment : Environment) (levels : List Level) (action : Action) :
    Except Stop Invocation := do
  let config ← general levels "config" environment.config
  let logFile ← general levels "log-file" environment.logFile
  return ⟨config, logFile, action⟩

def Invocation.read (environment : Environment) (arguments : List String) :
    Except Stop Invocation := do
  let (root, chosen) ← rootGrammar.read none false .empty arguments
  match chosen with
  | some ("mcp", rest) =>
    let (server, chosen) ← serverGrammar.read none false .empty rest
    match chosen with
    | some ("stdio", rest) =>
      let level ← readLeaf (leafGrammar "mcp-stdio" [] 0) rest
      invocation environment [root, server, level] .serve
    | some ("status", rest) =>
      let level ← readLeaf (leafGrammar "mcp-status" [] 0) rest
      invocation environment [root, server, level] .status
    | some (_, rest) => throw (readHelp ["mcp"] rest)
    | none => throw .usage
  | some ("templates", rest) =>
    let level ← readLeaf (leafGrammar "templates" [] 0) rest
    invocation environment [root, level] .templates
  | some ("questions", rest) =>
    let level ← readLeaf (leafGrammar "questions" [] 1) rest
    invocation environment [root, level] (.questions ((level.operands.head?).getD ""))
  | some ("generate", rest) =>
    let level ← readLeaf (leafGrammar "generate" generateOptions 1) rest
    invocation environment [root, level] (.generate (.ofLevel level))
  | some (_, rest) => throw (readHelp [] rest)
  | none => throw .usage

end ServerForge.Command
