import ServerForge.Proofs.ConstructorLine

/-! Texts that stand in a source as literals. The code units of a text are those of no other text,
so the value of a literal says which text was quoted. Main statement: a quoted text is one literal
from its first character to its last, with the text as its value, and wherever a source quotes the
name of an operation or of the project, it has such a literal. -/
namespace ServerForge

namespace Script

/-! ## Values and their texts -/

theorem scalar_cases (c : Char) : c.toNat < 0xd800 ∨ 0xdfff < c.toNat ∧ c.toNat < 0x110000 :=
  c.valid

/-- No character that takes one unit is the first of two. -/
theorem pointUnits_append_inj {c d : Char} {xs ys : List Nat}
    (same : pointUnits c.toNat ++ xs = pointUnits d.toNat ++ ys) : c = d ∧ xs = ys := by
  have left := scalar_cases c
  have right := scalar_cases d
  rw [← Char.toNat_inj]
  unfold pointUnits at same
  split at same <;> split at same
  · simpa using same
  · simp only [List.cons_append, List.nil_append, List.cons.injEq] at same
    omega
  · simp only [List.cons_append, List.nil_append, List.cons.injEq] at same
    omega
  · simp only [List.cons_append, List.nil_append, List.cons.injEq] at same
    obtain ⟨high, low, rest⟩ := same
    exact ⟨by omega, rest⟩

theorem units_inj {cs ds : List Char} : units cs = units ds ↔ cs = ds := by
  constructor
  · intro same
    induction cs generalizing ds with
    | nil =>
      have bound := length_le_units ds
      rw [← same] at bound
      exact (List.eq_nil_of_length_eq_zero (Nat.le_zero.mp bound)).symm
    | cons c cs ih =>
      cases ds with
      | nil =>
        have bound := length_le_units (c :: cs)
        rw [same] at bound
        cases bound
      | cons d ds =>
        obtain ⟨rfl, rest⟩ := pointUnits_append_inj same
        rw [ih rest]
  · rintro rfl
    rfl

theorem quote_inj {text other : String} : Json.quote text = Json.quote other ↔ text = other := by
  constructor
  · intro same
    have first := readLiteral_quote text []
    rw [same, readLiteral_quote other []] at first
    simp only [Option.some.injEq, Prod.mk.injEq, and_true, units_inj] at first
    exact String.toList_inj.mp first.symm
  · rintro rfl
    rfl

/-- A literal of the text from its first character to its last, whatever follows it. -/
structure LiteralOf (text : String) (literal : List Char) : Prop where
  opened : literal.head? = some '"'
  closed : literal.getLast? = some '"'
  unbroken : '\n' ∉ literal ∧ '\r' ∉ literal
  whole : readLiteral literal = some (units text.toList, [])
  ends (rest : List Char) : readLiteral (literal ++ rest) = some (units text.toList, rest)

theorem quote_literalOf (text : String) : LiteralOf text (Json.quote text).toList where
  opened := by simp [Json.quote, Json.quoteChars]
  closed := by
    rw [Json.quote, String.toList_ofList, Json.quoteChars]
    exact List.getLast?_concat
  unbroken := by
    have printable : Json.Printable (Json.quote text).toList := by
      rw [Json.quote, String.toList_ofList]
      exact Json.quoteChars_printable text.toList
    exact ⟨printable.not_mem (by decide), printable.not_mem (by decide)⟩
  whole := by simpa using readLiteral_quote text []
  ends := readLiteral_quote text

end Script

namespace ServerSource

/-- The literal behind a certain beginning of a line: its value, and what follows it. -/
def literalAfter? (lead line : String) : Option (List Nat × List Char) := do
  Script.readLiteral (← lead.toList.isPrefixOf? line.toList)

theorem literalAfter?_quote (lead text trail : String) :
    literalAfter? lead (lead ++ Json.quote text ++ trail) =
      some (Script.units text.toList, trail.toList) := by
  rw [literalAfter?, String.append_assoc, String.toList_append, isPrefixOf?_append,
    Option.bind_eq_bind, Option.bind_some, String.toList_append]
  exact Script.readLiteral_quote text trail.toList

theorem mem_lines_of_operation {model : ServerModel} {operation : Operation} {line : String}
    (member : operation ∈ model.operations)
    (written : line ∈ caseLines operation ∨ line ∈ stubLines operation) : line ∈ lines model := by
  have among {part : Operation → List String} (inside : line ∈ part operation) :
      line ∈ model.operations.flatMap part :=
    List.mem_flatMap.mpr ⟨operation, member, inside⟩
  rcases written with dispatched | handled
  · simp only [lines, List.mem_append, among dispatched, true_or, or_true]
  · simp only [lines, List.mem_append, among handled, true_or, or_true]

/-- A line of the source begins so, has a literal of the text there and ends so behind it. -/
def HasLiteral (model : ServerModel) (lead text trail : String) : Prop :=
  ∃ line ∈ lines model,
    literalAfter? lead line = some (Script.units text.toList, trail.toList)

theorem hasLiteral_of_mem {model : ServerModel} {lead text trail : String}
    (written : lead ++ Json.quote text ++ trail ∈ lines model) :
    HasLiteral model lead text trail :=
  ⟨_, written, literalAfter?_quote lead text trail⟩

/-- Every place at which a source quotes a text has a literal of it, and goes on behind it. -/
structure QuotesLiterals (model : ServerModel) : Prop where
  project : HasLiteral model "      \x7b name: " model.project
    (", version: \"" ++ model.version ++ "\" \x7d,")
  label : ∀ operation ∈ model.operations, HasLiteral model "          case " operation.label ":"
  reply : ∀ operation ∈ model.operations,
    HasLiteral model "    return \x7b content: [\x7b type: \"text\", text: " operation.label
      " + \" received: \" + input \x7d] \x7d;"
  running : HasLiteral model "    console.error(" (model.project ++ " MCP server running on stdio")
    ");"

theorem quotesLiterals (model : ServerModel) : QuotesLiterals model where
  project := by
    apply hasLiteral_of_mem
    have written : constructorLine model ∈ lines model := by simp [lines, opening]
    unfold constructorLine at written
    simpa only [String.append_assoc] using written
  label _ member := hasLiteral_of_mem (mem_lines_of_operation member (.inl (by simp [caseLines])))
  reply _ member := hasLiteral_of_mem (mem_lines_of_operation member (.inr (by simp [stubLines])))
  running := by
    apply hasLiteral_of_mem
    have written : "    console.error(" ++ Json.quote (runningMessage model) ++ ");" ∈
        closing model := by simp [closing]
    exact List.mem_append_right _ written

/-- A quoted text is a literal of that text and of no other, wherever a source has it. -/
theorem quoted_texts_are_literals :
    (∀ text, Script.LiteralOf text (Json.quote text).toList) ∧
    (∀ text other : String,
      Script.units text.toList = Script.units other.toList ↔ text = other) ∧
    (∀ text other, Json.quote text = Json.quote other ↔ text = other) ∧
    ∀ model, QuotesLiterals model :=
  ⟨Script.quote_literalOf, fun _ _ => Script.units_inj.trans String.toList_inj,
    fun _ _ => Script.quote_inj, quotesLiterals⟩

end ServerSource

end ServerForge
