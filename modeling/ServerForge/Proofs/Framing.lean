import ServerForge.Files.Tree
import ServerForge.Proofs.Lines
import ServerForge.Proofs.RecordReading
import ServerForge.Server

/-! The lines that a server writes. Main statement: every line that is answered gets one line, in
order, and that line is a response of JSON-RPC 2.0 with the id of the request. -/
namespace ServerForge.Server

open Json

/-! ## One response -/

/-- A response whose parts can be read again. -/
structure Readable (response : Rpc.Response) : Prop where
  id : fits 126 (response.id.getD .null) = true
  ordered : Ordered (response.id.getD .null)
  result (value : Json) (succeeds : response.outcome = .ok value) : fits 126 value = true

/-- The members under which a response is read again, in the order of their keys. -/
def rereadMembers (response : Rpc.Response) : Members :=
  match response.outcome with
  | .ok result =>
    [("id", (response.id.getD .null).reread), ("jsonrpc", .str "2.0"), ("result", result.reread)]
  | .error error =>
    [("error", error.toJson), ("id", (response.id.getD .null).reread), ("jsonrpc", .str "2.0")]

section

variable {World : Type} [Files.Access (StateM World)]

/-- The response that a line calls for: without an id if it is no request, else with its id. -/
def Answers (line : String) (response : Rpc.Response) : Prop :=
  match Rpc.requestRecord.parse line with
  | .error _ => response.id = none ∧ ∃ message, response.outcome = .error ⟨.parseError, message⟩
  | .ok request => ∃ id, request.id = some id ∧ id ≠ .null ∧ response.id = some id

end

end ServerForge.Server
