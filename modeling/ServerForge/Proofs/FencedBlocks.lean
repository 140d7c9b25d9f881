import ServerForge.Proofs.PrintedRows

/-! JSON in a text, between a line that announces it and a fence of backticks. Main statement: an
indented value that is put between the two is all that is found there, and found up to its end. -/
namespace ServerForge.Text

/-- The row announces JSON. -/
def opensJson (row : List Char) : Bool := row == ['`', '`', '`', 'j', 's', 'o', 'n']

/-- The row ends what a fence holds: three backticks come first on it. -/
def closesFence (row : List Char) : Bool := ['`', '`', '`'].isPrefixOf (trimStart row)

/-- The rows between the fences of JSON. `open?` holds the rows after a fence that is still open. -/
def jsonBlocks (open? : Option (List (List Char))) :
    List (List Char) → List (List (List Char))
  | [] => []
  | row :: rows =>
    match open? with
    | none => jsonBlocks (if opensJson row then some [] else none) rows
    | some block =>
      if closesFence row then block :: jsonBlocks none rows
      else jsonBlocks (some (block ++ [row])) rows

/-- The texts between the fences of JSON. -/
def jsonTexts (text : String) : List String :=
  (jsonBlocks none (rows text.toList)).map fun block => String.ofList (['\n'].intercalate block)

theorem jsonBlocks_before {before : List (List Char)}
    (silent : ∀ row ∈ before, opensJson row = false) (after : List (List Char)) :
    jsonBlocks none (before ++ after) = jsonBlocks none after := by
  induction before with
  | nil => rfl
  | cons row before ih =>
    have first := silent row (by simp)
    rw [List.cons_append, jsonBlocks, first, if_neg Bool.false_ne_true]
    exact ih fun other member => silent other (by simp [member])

theorem jsonBlocks_inside {inside : List (List Char)}
    (closed : ∀ row ∈ inside, closesFence row = false) (block after : List (List Char)) :
    jsonBlocks (some block) (inside ++ after) = jsonBlocks (some (block ++ inside)) after := by
  induction inside generalizing block with
  | nil => rw [List.nil_append, List.append_nil]
  | cons row inside ih =>
    have first := closed row (by simp)
    rw [List.cons_append, jsonBlocks, first, if_neg Bool.false_ne_true,
      ih fun other member => closed other (by simp [member]), List.append_assoc,
      List.singleton_append]

theorem FenceRow.closesFence_eq_false {row : List Char} (inner : FenceRow row) :
    closesFence row = false := by
  obtain ⟨c, rest, begins, other⟩ := inner.begins
  simp [closesFence, begins, List.isPrefixOf, Ne.symm other]

/-- A part of a text that holds JSON, and nothing else between its fences. -/
structure ShowsJson (part lead json rest : String) : Prop where
  shape : part = lead ++ "\n```json\n" ++ json ++ "\n```\n" ++ rest
  only : jsonTexts part = [json]
  unbroken : ∀ row ∈ rows json.toList, ¬ ['`', '`', '`'] <+: trimStart row

theorem showsJson {lead json rest : String} (fenceable : Fenceable json.toList)
    (before : ∀ row ∈ rows lead.toList, opensJson row = false)
    (after : ∀ row ∈ rows rest.toList, opensJson row = false) :
    ShowsJson (lead ++ "\n```json\n" ++ json ++ "\n```\n" ++ rest) lead json rest := by
  have inside : ∀ row ∈ rows json.toList, closesFence row = false := fun row member =>
    (fenceable row member).closesFence_eq_false
  refine ⟨rfl, ?_, fun row member starts => ?_⟩
  · have split : rows (lead ++ "\n```json\n" ++ json ++ "\n```\n" ++ rest).toList =
        rows lead.toList ++ "```json".toList ::
          (rows json.toList ++ "```".toList :: rows rest.toList) := by
      have opening : "\n```json\n".toList = '\n' :: ("```json".toList ++ ['\n']) := by decide
      have closing : "\n```\n".toList = '\n' :: ("```".toList ++ ['\n']) := by decide
      have announced : rows "```json".toList = ["```json".toList] := by decide
      have fence : rows "```".toList = ["```".toList] := by decide
      simp only [String.toList_append, opening, closing, List.append_assoc, List.cons_append,
        List.nil_append, rows_append_feed, announced, fence]
    have none_after : jsonBlocks none (rows rest.toList) = [] := by
      have silent := jsonBlocks_before after []
      rwa [List.append_nil] at silent
    have found :
        jsonBlocks none (rows (lead ++ "\n```json\n" ++ json ++ "\n```\n" ++ rest).toList) =
          [rows json.toList] := by
      rw [split, jsonBlocks_before before]
      change jsonBlocks (some []) (rows json.toList ++ _) = _
      rw [jsonBlocks_inside inside]
      change (_ :: jsonBlocks none _) = _
      rw [none_after, List.nil_append]
    have joined : ['\n'].intercalate (rows json.toList) = json.toList :=
      intercalate_splitWhere (by simp) json.toList
    rw [jsonTexts, found, List.map_singleton, joined, String.ofList_toList]
  · have closes : closesFence row = true := List.isPrefixOf_iff_prefix.mpr starts
    rw [inside row member] at closes
    cases closes

example : jsonTexts "A\n\n```json\n[\n  1\n]\n  ````\nB\n```json\n2" = ["[\n  1\n]"] := by decide

end ServerForge.Text
