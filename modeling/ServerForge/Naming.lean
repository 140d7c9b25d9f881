import ServerForge.Text.Split
import ServerForge.Unicode.Alphabetic
import ServerForge.Unicode.Number
import ServerForge.Unicode.Uppercase

/-! Names in generated code. A text becomes an identifier by cutting it at everything that is
not a letter or a number and starting each remaining segment in upper case. -/
namespace ServerForge.Naming

def isAlphanumeric (c : Char) : Bool := Unicode.isAlphabetic c || Unicode.isNumeric c

/-- The longest runs of letters and numbers, in order. -/
def segments (cs : List Char) : List (List Char) :=
  (Text.splitWhere (fun c => !isAlphanumeric c) cs).filter (!·.isEmpty)

/-- A first letter whose upper case would bring in a combining mark stays as written. -/
def capitalize : List Char → List Char
  | [] => []
  | c :: cs =>
    let upper := Unicode.upperCase c
    if upper.all isAlphanumeric then upper ++ cs else c :: cs

def identifierChars (cs : List Char) : List Char := (segments cs).flatMap capitalize

def identifier (text : String) : String := String.ofList (identifierChars text.toList)

/-- The method that carries out an operation. -/
def handlerName (operation : String) : String := "handle" ++ identifier operation

/-- The class of a project; a name may not start with a number, so one is kept off the front. -/
def className (project : String) : String :=
  let base := identifier project
  let base := if (base.toList.head?.map Unicode.isNumeric).getD false then "Mcp" ++ base else base
  base ++ "Server"

end ServerForge.Naming
