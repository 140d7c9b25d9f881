import ServerForge.Proofs.HandlerCollisions
import ServerForge.Proofs.PrintedRows

/-! Values that stand deeper in a text. The indented form of a value is moved to a deeper level by
putting space before every line of it but the first, since no text in it breaks a line and no line
of it is empty. Main statement: the list of tools in a generated source, moved to its level in this
way, is read back as one object for each operation. -/
namespace ServerForge

namespace Text

/-! ## Lines that are set in -/

/-- The lines of a text with an indentation before each but the first, and none before those that
are empty. -/
def indentFollowing (indent : List Char) (text : String) : String :=
  match lines text with
  | [] => ""
  | first :: others => String.ofList <| first ++ others.flatMap fun line =>
      '\n' :: if line.isEmpty then line else indent ++ line

/-- The text with an indentation after every line feed. -/
def indentFeeds (indent cs : List Char) : List Char :=
  cs.flatMap fun c => if c = '\n' then '\n' :: indent else [c]

@[simp] theorem indentFeeds_nil (indent : List Char) : indentFeeds indent [] = [] := rfl

@[simp] theorem indentFeeds_cons_feed (indent cs : List Char) :
    indentFeeds indent ('\n' :: cs) = '\n' :: indent ++ indentFeeds indent cs := by
  simp [indentFeeds]

@[simp] theorem indentFeeds_cons_other (indent : List Char) {c : Char} (other : c ≠ '\n')
    (cs : List Char) : indentFeeds indent (c :: cs) = c :: indentFeeds indent cs := by
  simp [indentFeeds, other]

@[simp] theorem indentFeeds_append (indent before after : List Char) :
    indentFeeds indent (before ++ after) = indentFeeds indent before ++ indentFeeds indent after :=
  List.flatMap_append

theorem indentFeeds_of_unbroken (indent : List Char) {cs : List Char} (unbroken : '\n' ∉ cs) :
    indentFeeds indent cs = cs := by
  have kept : ∀ c ∈ cs, (if c = '\n' then '\n' :: indent else [c]) = [c] := by
    intro c member
    apply if_neg
    rintro rfl
    exact unbroken member
  rw [indentFeeds, List.flatMap_congr kept, List.flatMap_singleton']

/-- The indentation stands where the rows after the first begin. -/
theorem indentFeeds_eq (indent cs : List Char) : ∃ first others, rows cs = first :: others ∧
    indentFeeds indent cs = first ++ others.flatMap fun row => '\n' :: (indent ++ row) := by
  induction cs with
  | nil => exact ⟨[], [], rfl, rfl⟩
  | cons c cs ih =>
    obtain ⟨first, others, split, moved⟩ := ih
    unfold rows at split ⊢
    by_cases feed : c = '\n'
    · subst feed
      refine ⟨[], first :: others, by simp [splitWhere, split], ?_⟩
      simp [moved]
    · refine ⟨c :: first, others, by simp [splitWhere, feed, split], ?_⟩
      rw [List.cons_append, ← moved]
      simp [indentFeeds, feed]

/-- No line of the text is empty or holds a control character. -/
def Filled (cs : List Char) : Prop := ∀ row ∈ rows cs, row ≠ [] ∧ Json.Printable row

theorem Fenceable.filled {cs : List Char} (fenceable : Fenceable cs) : Filled cs :=
  fun row member => ⟨(fenceable row member).ne_nil, (fenceable row member).printable⟩

theorem lines_of_filled {text : String} (filled : Filled text.toList) :
    lines text = rows text.toList := by
  have whole : ∀ row ∈ rows text.toList, Whole row := fun row member => by
    have printable := (filled row member).2
    exact ⟨printable.not_mem (by decide), fun last =>
      printable.not_mem (by decide) (List.mem_of_getLast? last)⟩
  obtain ⟨start, last, split⟩ : ∃ start last, rows text.toList = start ++ [last] := by
    simpa using (List.eq_nil_or_concat (rows text.toList)).resolve_left (splitWhere_ne_nil _ _)
  have nonempty : last ≠ [] := (filled last (by simp [split])).1
  have starts := map_withoutReturn fun row member =>
    whole row (by rw [split]; exact List.mem_append_left _ member)
  simp [lines, split, starts, nonempty]

/-- In such a text every line but the first is set in. -/
theorem indentFollowing_of_filled (indent : List Char) {text : String}
    (filled : Filled text.toList) :
    indentFollowing indent text = String.ofList (indentFeeds indent text.toList) := by
  obtain ⟨first, others, split, moved⟩ := indentFeeds_eq indent text.toList
  have kept : ∀ row ∈ others, ('\n' :: if row.isEmpty then row else indent ++ row) =
      '\n' :: (indent ++ row) := by
    intro row member
    have nonempty : row ≠ [] := (filled row (by simp [split, member])).1
    simp [nonempty]
  rw [indentFollowing, lines_of_filled filled, split, moved]
  simp only [List.flatMap_congr kept]

end Text

namespace Json

/-! ## Values that are moved -/

theorem indentFeeds_lineBreak (shift level : Nat) :
    Text.indentFeeds (List.replicate (2 * shift) ' ') (lineBreak level) =
      lineBreak (level + shift) := by
  have space : '\n' ∉ List.replicate (2 * level) ' ' := fun member =>
    absurd (List.eq_of_mem_replicate member) (by decide)
  rw [lineBreak, Text.indentFeeds_cons_feed, Text.indentFeeds_of_unbroken _ space, List.cons_append,
    List.replicate_append_replicate, lineBreak, Nat.mul_add, Nat.add_comm]

theorem indentFeeds_printable (indent : List Char) {cs : List Char} (printable : Printable cs) :
    Text.indentFeeds indent cs = cs :=
  Text.indentFeeds_of_unbroken indent (printable.not_mem (by decide))

mutual

theorem indentFeeds_printed (shift level : Nat) : ∀ v : Json,
    Text.indentFeeds (List.replicate (2 * shift) ' ') (printed .indented level v) =
      printed .indented (level + shift) v
  | .null | .bool true | .bool false | .arr [] | .obj [] => by
    simp only [printed]
    exact indentFeeds_printable _ (by simp [boolChars])
  | .num n => by
    simp only [printed]
    exact indentFeeds_printable _ n.chars_printable
  | .str value => by
    simp only [printed]
    exact indentFeeds_printable _ (quoteChars_printable value.toList)
  | .arr (item :: items) => by
    have first := indentFeeds_printed shift (level + 1) item
    have others := indentFeeds_printedItems shift (level + 1) items
    have opened := indentFeeds_lineBreak shift (level + 1)
    have closed := indentFeeds_lineBreak shift level
    rw [Nat.add_right_comm] at first others opened
    simp [printed, first, others, opened, closed]
  | .obj ((key, value) :: members) => by
    have first := indentFeeds_printed shift (level + 1) value
    have others := indentFeeds_printedMembers shift (level + 1) members
    have named := indentFeeds_printable (List.replicate (2 * shift) ' ')
      (quoteChars_printable key.toList)
    have opened := indentFeeds_lineBreak shift (level + 1)
    have closed := indentFeeds_lineBreak shift level
    rw [Nat.add_right_comm] at first others opened
    simp [printed, first, others, named, opened, closed]

theorem indentFeeds_printedItems (shift level : Nat) : ∀ items : List Json,
    Text.indentFeeds (List.replicate (2 * shift) ' ') (printedItems .indented level items) =
      printedItems .indented (level + shift) items
  | [] => rfl
  | item :: items => by
    have first := indentFeeds_printed shift level item
    have others := indentFeeds_printedItems shift level items
    simp [printedItems, first, others, indentFeeds_lineBreak]

theorem indentFeeds_printedMembers (shift level : Nat) : ∀ members : List (String × Json),
    Text.indentFeeds (List.replicate (2 * shift) ' ') (printedMembers .indented level members) =
      printedMembers .indented (level + shift) members
  | [] => rfl
  | (key, value) :: members => by
    have first := indentFeeds_printed shift level value
    have others := indentFeeds_printedMembers shift level members
    have named := indentFeeds_printable (List.replicate (2 * shift) ' ')
      (quoteChars_printable key.toList)
    simp [printedMembers, first, others, named, indentFeeds_lineBreak]

end

/-- What is set in by the space of some levels is the indented form so much deeper. -/
theorem indentFollowing_prettyAt (shift level : Nat) (v : Json) :
    Text.indentFollowing (List.replicate (2 * shift) ' ') (prettyAt level v) =
      prettyAt (level + shift) v := by
  have chars (depth : Nat) : (prettyAt depth v).toList = printed .indented depth v := by
    rw [prettyAt, String.toList_ofList, prettyChars_eq]
  have filled : Text.Filled (prettyAt level v).toList :=
    chars level ▸ (printed_fenceable level v).filled
  rw [Text.indentFollowing_of_filled _ filled, chars, indentFeeds_printed, prettyAt, prettyChars_eq]

theorem parse_prettyAt (level : Nat) {v : Json} (fitting : fits depthLimit v = true) :
    parse (prettyAt level v) = .ok v.reread :=
  parse_of_printed (by rw [prettyAt, String.toList_ofList, prettyChars_eq]) fitting

end Json

/-! ## The list of tools -/

/-- The tool that a server advertises for an operation: an object with one required text. -/
def Operation.tool (label : String) : Json := .object [
  ("name", .str label),
  ("description", .str ("Generated tool: " ++ label)),
  ("inputSchema", .object [
    ("type", .str "object"),
    ("properties", .object [
      ("input", .object [
        ("type", .str "string"),
        ("description", .str ("Input for " ++ label ++ " operation"))])]),
    ("required", .arr [.str "input"])])]

theorem Operation.reread_descriptor (operation : Operation) :
    operation.descriptor.reread = tool operation.label := rfl

namespace ServerSource

/-- The descriptors as a value on its own. -/
def toolList (model : ServerModel) : Json := .arr (model.operations.map Operation.descriptor)

theorem toolList_fits (model : ServerModel) :
    Json.fits Json.depthLimit (toolList model) = true := by
  apply List.all_eq_true.mpr
  intro item member
  obtain ⟨operation, -, rfl⟩ := List.mem_map.mp member
  rfl

theorem reread_toolList (model : ServerModel) :
    (toolList model).reread = .arr (model.labels.map Operation.tool) := by
  have items (operations : List Operation) :
      Json.rereadItems (operations.map Operation.descriptor) =
        operations.map fun operation => Operation.tool operation.label := by
    induction operations with
    | nil => rfl
    | cons operation operations ih =>
      rw [List.map_cons, Json.rereadItems, operation.reread_descriptor, ih, List.map_cons]
  rw [toolList, Json.reread, items, ServerModel.labels, List.map_map]
  rfl

/-- The descriptors as they stand in a source. -/
def toolText (model : ServerModel) : String :=
  Text.indentFollowing "      ".toList (toolList model).pretty

theorem toolText_eq (model : ServerModel) : toolText model = (toolList model).prettyAt 3 := by
  have indent : "      ".toList = List.replicate (2 * 3) ' ' := by decide
  rw [toolText, indent, Json.pretty, Json.indentFollowing_prettyAt]

theorem render_toolText (model : ServerModel) : ∃ after,
    render model = String.join ((opening model).map (· ++ "\n")) ++ "      tools: " ++
      toolText model ++ ",\n" ++ after := by
  refine ⟨String.join ((switchOpening ++ model.operations.flatMap caseLines ++ switchClosing ++
    model.operations.flatMap stubLines ++ closing model).map (· ++ "\n")), ?_⟩
  rw [toolText_eq, ← String.toList_inj, render, lines]
  simp [toolsLine, toolList]

/-- The tools in a source, set in line by line after they are printed, are read in their place and
on their own as one tool for each operation, just as they are before that. -/
theorem tools_are_read_in_place {labels : List String}
    (distinct : (labels.map Naming.handlerName).Nodup) (project version : String) :
    ∃ model, ServerModel.build project version labels = .ok model ∧
      Json.parse (toolText model) = .ok (.arr (labels.map Operation.tool)) ∧
      Json.parse (toolList model).pretty = Json.parse (toolText model) ∧
      ∃ after, render model = String.join ((opening model).map (· ++ "\n")) ++ "      tools: " ++
          toolText model ++ ",\n" ++ after ∧
        Json.readValue Json.depthLimit (toolText model ++ ",\n" ++ after).toList =
          .ok (.arr (labels.map Operation.tool), (",\n" ++ after).toList) := by
  obtain ⟨model, built⟩ := ServerModel.build_isOk_iff.mpr distinct
  obtain ⟨-, -, operations⟩ := ServerModel.build_eq_ok built
  have fitting := toolList_fits model
  have listed : model.labels = labels := by
    rw [ServerModel.labels, operations, List.map_map]
    exact List.map_id _
  have tools : (toolList model).reread = .arr (labels.map Operation.tool) := by
    rw [reread_toolList, listed]
  have alone : Json.parse (toolText model) = .ok (.arr (labels.map Operation.tool)) := by
    rw [toolText_eq, Json.parse_prettyAt 3 fitting, tools]
  refine ⟨model, built, alone, by rw [alone, Json.parse_pretty fitting, tools], ?_⟩
  obtain ⟨after, source⟩ := render_toolText model
  refine ⟨after, source, ?_⟩
  have ends : Json.NumberEnds (",\n" ++ after).toList := by
    intro c head
    obtain rfl : ',' = c := by simpa using head
    decide
  have read := Json.readValue_printed .indented Json.depthLimit 3 (toolList model) _ fitting ends
  rw [tools, ← Json.prettyChars_eq] at read
  rw [String.append_assoc, String.toList_append, toolText_eq, Json.prettyAt, String.toList_ofList]
  exact read

/-- Names with a quote, ends of lines, a backslash and a brace. -/
theorem tools_are_read_in_place_escaped :
    (["a\"b\r\n", "\\ \x7d,"].map Naming.handlerName).Nodup ∧ ∃ model,
      ServerModel.build "demo" "1.0.0" ["a\"b\r\n", "\\ \x7d,"] = .ok model ∧
      Json.parse (toolText model) =
        .ok (.arr (["a\"b\r\n", "\\ \x7d,"].map Operation.tool)) := by
  have distinct : (["a\"b\r\n", "\\ \x7d,"].map Naming.handlerName).Nodup := by decide +kernel
  obtain ⟨model, built, alone, -⟩ := tools_are_read_in_place distinct "demo" "1.0.0"
  exact ⟨distinct, model, built, alone⟩

end ServerSource

end ServerForge
