import ServerForge.Json.Record

/-! Requests and responses of JSON-RPC 2.0. -/
namespace ServerForge.Rpc

structure Request where
  id : Option Json
  method : String
  params : Option Json

/-- The version has to be given as a text, but any text will do. -/
def requestRecord : Json.Record Request where
  name := "JsonRpcRequest"
  start := ⟨none, "", none⟩
  fields := [
    .of "jsonrpc" [] .required .text fun _ r => r,
    .of "id" [] .optionalKey (.optional .any) fun id r => { r with id },
    .of "method" [] .required .text fun method r => { r with method },
    .of "params" [] .optionalKey (.optional .any) fun params r => { r with params }]

inductive Code where
  | parseError
  | methodNotFound
  | invalidParams
  | internalError
  deriving DecidableEq

def Code.value : Code → Int
  | .parseError => -32700
  | .methodNotFound => -32601
  | .invalidParams => -32602
  | .internalError => -32603

structure Error where
  code : Code
  message : String

def Error.toJson (error : Error) : Json :=
  .obj [("code", .num (.int error.code.value)), ("message", .str error.message)]

structure Response where
  id : Option Json
  outcome : Except Error Json

def Response.toJson (response : Response) : Json :=
  .obj [
    ("jsonrpc", .str "2.0"),
    ("id", response.id.getD .null),
    match response.outcome with
    | .ok result => ("result", result)
    | .error error => ("error", error.toJson)]

end ServerForge.Rpc
