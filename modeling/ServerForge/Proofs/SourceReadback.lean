import ServerForge.Proofs.Generation
import ServerForge.Proofs.SourceLines

/-! The operations of a generated source, read back from its lines. The advertised operations, the
dispatched ones and the handlers are written in three places; main statement: each of them lists
exactly the operations of the synthesis, whatever characters their names are made of. -/
namespace ServerForge.ServerSource

/-! ## Readers of lines -/

/-- The text without every `c` at its end. -/
def dropEnd (c : Char) (cs : List Char) : List Char := (cs.reverse.dropWhile (· == c)).reverse

/-- The label of each `case`, with the statement on the line after it. -/
def dispatched : List (List Char) → List (Option String × String)
  | [] => []
  | line :: rest =>
    match Text.after? "case ".toList line with
    | none => dispatched rest
    | some label =>
      (Json.literal? (dropEnd ':' label), String.ofList (Text.trimmed (rest.headD []))) ::
        dispatched rest

/-- The names in the list of tools. -/
def advertised (lines : List (List Char)) : List (Option String) :=
  (lines.filterMap (Text.after? "\"name\": ".toList)).map fun name =>
    Json.literal? (dropEnd ',' name)

/-- What is declared private and asynchronous. -/
def handlers (lines : List (List Char)) : List String :=
  (lines.filterMap (Text.after? "private async ".toList)).map String.ofList

theorem dropEnd_quote (c : Char) (text : String) (other : c ≠ '"') :
    dropEnd c ((Json.quote text).toList ++ [c]) = (Json.quote text).toList := by
  simp [dropEnd, Json.quote, Json.quoteChars, Ne.symm other]

/-- No line of the list has a certain beginning. -/
def Unmarked (start : List Char) (lines : List (List Char)) : Prop :=
  ∀ line ∈ lines, Text.after? start line = none

theorem dispatched_append_of_unmarked {before : List (List Char)}
    (unmarked : Unmarked "case ".toList before) (after : List (List Char)) :
    dispatched (before ++ after) = dispatched after := by
  induction before with
  | nil => rfl
  | cons line before ih =>
    rw [List.cons_append, dispatched, unmarked line (by simp)]
    exact ih fun other member => unmarked other (by simp [member])

theorem filterMap_of_unmarked {start : List Char} {lines : List (List Char)}
    (unmarked : Unmarked start lines) : lines.filterMap (Text.after? start) = [] :=
  List.filterMap_eq_nil_iff.mpr unmarked

/-! ## Every part of a source, read -/

theorem Plain.unmarked_list {lines : List String} (plain : ∀ line ∈ lines, Plain line.toList)
    {start : List Char} (marker : start ∈ markers) : Unmarked start (lines.map String.toList) := by
  intro line member
  obtain ⟨text, inside, rfl⟩ := List.mem_map.mp member
  exact (plain text inside).unmarked start marker

theorem Unmarked.append {start : List Char} {before after : List (List Char)}
    (first : Unmarked start before) (second : Unmarked start after) :
    Unmarked start (before ++ after) := by
  intro line member
  exact (List.mem_append.mp member).elim (first line) (second line)

/-- Lines that are plain or carry another marker are not taken for carrying this one. -/
theorem unmarked_of_other {lines : List String} {start other : List Char}
    (only : ∀ line ∈ lines, OnlyFor other line)
    (marker : start ∈ markers) (different : start ≠ other) :
    Unmarked start (lines.map String.toList) := by
  intro line member
  obtain ⟨text, inside, rfl⟩ := List.mem_map.mp member
  rcases only text inside with plain | ⟨content, marked⟩
  · exact plain.unmarked start marker
  · exact marked.others start marker different

theorem caseLines_only (labels : List String) :
    ∀ line ∈ (labels.map Operation.of).flatMap caseLines, OnlyFor "case ".toList line := by
  intro line member
  simp only [List.flatMap_map, List.mem_flatMap] at member
  obtain ⟨label, _, inside⟩ := member
  simp only [caseLines, List.mem_cons, List.not_mem_nil, or_false] at inside
  rcases inside with rfl | rfl
  · exact .inr ⟨_, labelLine_marked label⟩
  · exact .inl (returnLine_plain label)

theorem stubLines_only (labels : List String) :
    ∀ line ∈ (labels.map Operation.of).flatMap stubLines,
      OnlyFor "private async ".toList line := by
  intro line member
  simp only [List.flatMap_map, List.mem_flatMap] at member
  obtain ⟨label, _, inside⟩ := member
  have body := stubBody_plain (Operation.of label)
  simp only [stubLines, List.mem_cons, List.not_mem_nil, or_false] at inside body
  rcases inside with rfl | rfl | rfl | rfl | rfl
  · exact .inl (body _ (by simp))
  · exact .inr ⟨_, signatureLine_marked label⟩
  · exact .inl (body _ (by simp))
  · exact .inl (body _ (by simp))
  · exact .inl (body _ (by simp))

theorem toolsLines_only (model : ServerModel) :
    ∀ line ∈ toolsLines model, OnlyFor "\"name\": ".toList line := by
  apply toolsLines_all
  · intro line member
    have around : line ∈ ["        \x7b", "        \x7d", "        \x7d,"] ++
      ["      tools: [],", "      tools: [", "      ],"] := member
    exact .inl ((List.mem_append.mp around).elim (braces_plain line) (brackets_plain line))
  · exact fun operation => .inr ⟨_, nameLine_marked operation⟩
  · exact fun operation line member => .inl (detailLines_plain operation line member)

theorem OnlyFor.whole {start : List Char} {line : String} (only : OnlyFor start line) :
    Text.Whole line.toList :=
  only.elim (·.whole) fun ⟨_, marked⟩ => marked.whole

theorem readLines_whole {model : ServerModel} {labels : List String}
    (operations : model.operations = labels.map Operation.of)
    (unbroken : '\n' ∉ model.version.toList) :
    ∀ line ∈ readLines model, Text.Whole line.toList := by
  intro line member
  simp only [readLines, operations, List.mem_append] at member
  rcases member with (((((inside | inside) | inside) | inside) | inside) | inside) | inside
  · exact (opening_plain unbroken line inside).whole
  · exact (toolsLines_only model line inside).whole
  · exact (switchOpening_plain line inside).whole
  · exact (caseLines_only labels line inside).whole
  · exact (switchClosing_plain line inside).whole
  · exact (stubLines_only labels line inside).whole
  · exact (closing_plain model line inside).whole

theorem lines_render {model : ServerModel} {labels : List String}
    (operations : model.operations = labels.map Operation.of)
    (unbroken : '\n' ∉ model.version.toList) :
    Text.lines (render model) = (readLines model).map String.toList := by
  apply Text.lines_of_flatMap_feed (render_toList model)
  intro line member
  obtain ⟨text, inside, rfl⟩ := List.mem_map.mp member
  exact readLines_whole operations unbroken text inside

/-- The statement with which a `case` hands over to a handler. -/
def returnStatement (operation : String) : String :=
  "return await this." ++ Naming.handlerName operation ++ "(args);"

theorem trimmed_returnLine (operation : String) :
    String.ofList (Text.trimmed ("            return await this." ++ Naming.handlerName operation ++
      "(args);").toList) = returnStatement operation := by
  have ends : Unicode.isBlank ';' = false := by decide
  have lead : Text.trimStart "            return await this.".toList =
      "return await this.".toList := by decide
  have visible : Text.trimStart "            return await this.".toList ≠ [] := by
    rw [lead]
    simp
  have trimmed := Text.trimmed_append visible ends
    ((Naming.handlerName operation).toList ++ "(args)".toList)
  rw [lead] at trimmed
  rw [← String.toList_inj, String.toList_ofList]
  unfold returnStatement
  simpa using trimmed

theorem dispatched_caseLines (labels : List String) (after : List (List Char)) :
    dispatched (((labels.map Operation.of).flatMap caseLines).map String.toList ++ after) =
      labels.map (fun label => (some label, returnStatement label)) ++ dispatched after := by
  induction labels with
  | nil => rfl
  | cons label labels ih =>
    have found := (labelLine_marked label).found
    have skipped := (returnLine_plain label).unmarked _ caseMarker_mem
    have shape : caseLines (Operation.of label) =
        ["          case " ++ Json.quote label ++ ":",
          "            return await this." ++ Naming.handlerName label ++ "(args);"] := rfl
    rw [List.map_cons, List.flatMap_cons, List.map_append, List.append_assoc, shape]
    simp only [List.map_cons, List.map_nil, List.cons_append, List.nil_append]
    rw [dispatched, found]
    simp only [List.headD_cons]
    rw [dispatched, skipped]
    simp only
    rw [ih, dropEnd_quote ':' label (by decide), Json.literal?_quote, trimmed_returnLine]

theorem contents_descriptorLines (label : String) (brace : String) (plain : Plain brace.toList) :
    ((descriptorLines (Operation.of label) ++ [brace]).map String.toList).filterMap
      (Text.after? "\"name\": ".toList) = [(Json.quote label).toList ++ [',']] := by
  have details := Plain.unmarked_list (detailLines_plain (Operation.of label)) nameMarker_mem
  have closed : [brace.toList].filterMap (Text.after? "\"name\": ".toList) = [] :=
    List.filterMap_cons_none (plain.unmarked _ nameMarker_mem)
  rw [descriptorLines, List.cons_append, List.cons_append, List.map_cons, List.map_cons,
    List.map_append, List.filterMap_cons_none ((braces_plain _ (by simp)).unmarked _ nameMarker_mem),
    List.filterMap_cons_some (nameLine_marked (Operation.of label)).found, List.filterMap_append,
    filterMap_of_unmarked details, List.map_cons, List.map_nil, closed]
  rfl

theorem contents_toolLines (labels : List String) :
    ((toolLines (labels.map Operation.of)).map String.toList).filterMap
      (Text.after? "\"name\": ".toList) = labels.map fun label =>
        (Json.quote label).toList ++ [','] := by
  induction labels with
  | nil => rfl
  | cons label labels ih =>
    cases labels with
    | nil => exact contents_descriptorLines label "        \x7d" (braces_plain _ (by simp))
    | cons next labels =>
      have head := contents_descriptorLines label "        \x7d," (braces_plain _ (by simp))
      have split : toolLines ((label :: next :: labels).map Operation.of) =
          descriptorLines (Operation.of label) ++ ["        \x7d,"] ++
            toolLines ((next :: labels).map Operation.of) := by
        simp [toolLines]
      rw [split, List.map_append, List.filterMap_append, head, ih]
      rfl

theorem contents_toolsLines {model : ServerModel} {labels : List String}
    (operations : model.operations = labels.map Operation.of) :
    ((toolsLines model).map String.toList).filterMap (Text.after? "\"name\": ".toList) =
      labels.map fun label => (Json.quote label).toList ++ [','] := by
  have unmarked : ∀ line ∈ ["      tools: [],", "      tools: [", "      ],"],
      Text.after? "\"name\": ".toList line.toList = none :=
    fun line member => (brackets_plain line member).unmarked _ nameMarker_mem
  unfold toolsLines
  rw [operations]
  cases labels with
  | nil => exact List.filterMap_cons_none (unmarked "      tools: []," (by simp))
  | cons label labels =>
    have inside := contents_toolLines (label :: labels)
    simp only [List.map_cons] at inside ⊢
    rw [List.filterMap_cons_none (unmarked "      tools: [" (by simp)), List.map_append,
      List.filterMap_append, inside, List.map_cons, List.map_nil,
      List.filterMap_cons_none (unmarked "      ]," (by simp)), List.filterMap_nil,
      List.append_nil]

theorem contents_stubLines (labels : List String) :
    (((labels.map Operation.of).flatMap stubLines).map String.toList).filterMap
      (Text.after? "private async ".toList) = labels.map fun label =>
        (Naming.handlerName label).toList ++
          "(args: Record<string, unknown> | undefined) \x7b".toList := by
  induction labels with
  | nil => rfl
  | cons label labels ih =>
    have found := (signatureLine_marked label).found
    have body := fun line member =>
      (stubBody_plain (Operation.of label) line member).unmarked _ handlerMarker_mem
    rw [List.map_cons, List.flatMap_cons, List.map_append, List.filterMap_append, ih]
    have handler : (Operation.of label).handler = Naming.handlerName label := rfl
    simp only [stubLines, List.map_cons, List.map_nil, handler]
    rw [List.filterMap_cons_none (body "" (by simp)), List.filterMap_cons_some found,
      List.filterMap_cons_none (body "    const input = String(args?.input ?? \"\");" (by simp)),
      List.filterMap_cons_none (body _ (by simp)),
      List.filterMap_cons_none (body "  \x7d" (by simp))]
    rfl

/-! ## The whole source -/

section
variable {model : ServerModel} {labels : List String}

theorem dispatched_readLines (operations : model.operations = labels.map Operation.of)
    (unbroken : '\n' ∉ model.version.toList) :
    dispatched ((readLines model).map String.toList) =
      labels.map fun label => (some label, returnStatement label) := by
  have before : Unmarked "case ".toList
      ((opening model ++ toolsLines model ++ switchOpening).map String.toList) := by
    rw [List.map_append, List.map_append]
    exact ((Plain.unmarked_list (opening_plain unbroken) caseMarker_mem).append
      (unmarked_of_other (toolsLines_only model) caseMarker_mem (by simp))).append
      (Plain.unmarked_list switchOpening_plain caseMarker_mem)
  have after : Unmarked "case ".toList
      ((switchClosing ++ (labels.map Operation.of).flatMap stubLines ++ closing model).map
        String.toList) := by
    rw [List.map_append, List.map_append]
    exact ((Plain.unmarked_list switchClosing_plain caseMarker_mem).append
      (unmarked_of_other (stubLines_only labels) caseMarker_mem (by simp))).append
      (Plain.unmarked_list (closing_plain model) caseMarker_mem)
  have nothing := dispatched_append_of_unmarked after []
  rw [List.append_nil] at nothing
  have parts : readLines model = (opening model ++ toolsLines model ++ switchOpening) ++
      ((labels.map Operation.of).flatMap caseLines ++
        (switchClosing ++ (labels.map Operation.of).flatMap stubLines ++ closing model)) := by
    simp only [readLines, operations, List.append_assoc]
  rw [parts, List.map_append, dispatched_append_of_unmarked before, List.map_append,
    dispatched_caseLines, nothing, dispatched, List.append_nil]

theorem advertised_readLines (operations : model.operations = labels.map Operation.of)
    (unbroken : '\n' ∉ model.version.toList) :
    advertised ((readLines model).map String.toList) = labels.map some := by
  have opened := filterMap_of_unmarked (Plain.unmarked_list (opening_plain unbroken) nameMarker_mem)
  have switched := filterMap_of_unmarked (Plain.unmarked_list switchOpening_plain nameMarker_mem)
  have cases := filterMap_of_unmarked
    (unmarked_of_other (caseLines_only labels) nameMarker_mem (by simp))
  have left := filterMap_of_unmarked (Plain.unmarked_list switchClosing_plain nameMarker_mem)
  have stubs := filterMap_of_unmarked
    (unmarked_of_other (stubLines_only labels) nameMarker_mem (by simp))
  have closed := filterMap_of_unmarked (Plain.unmarked_list (closing_plain model) nameMarker_mem)
  have names := contents_toolsLines operations
  simp only [advertised, readLines, operations, List.map_append, List.filterMap_append, opened,
    names, switched, cases, left, stubs, closed, List.nil_append, List.append_nil, List.map_map]
  apply List.map_congr_left
  intro label _
  rw [Function.comp_apply, dropEnd_quote ',' label (by decide), Json.literal?_quote]

theorem handlers_readLines (operations : model.operations = labels.map Operation.of)
    (unbroken : '\n' ∉ model.version.toList) :
    handlers ((readLines model).map String.toList) = labels.map fun label =>
      Naming.handlerName label ++ "(args: Record<string, unknown> | undefined) \x7b" := by
  have opened :=
    filterMap_of_unmarked (Plain.unmarked_list (opening_plain unbroken) handlerMarker_mem)
  have tools := filterMap_of_unmarked
    (unmarked_of_other (toolsLines_only model) handlerMarker_mem (by simp))
  have switched := filterMap_of_unmarked (Plain.unmarked_list switchOpening_plain handlerMarker_mem)
  have cases := filterMap_of_unmarked
    (unmarked_of_other (caseLines_only labels) handlerMarker_mem (by simp))
  have left := filterMap_of_unmarked (Plain.unmarked_list switchClosing_plain handlerMarker_mem)
  have closed := filterMap_of_unmarked (Plain.unmarked_list (closing_plain model) handlerMarker_mem)
  have stubs := contents_stubLines labels
  simp only [handlers, readLines, operations, List.map_append, List.filterMap_append, opened,
    tools, switched, cases, left, stubs, closed, List.nil_append, List.append_nil, List.map_map]
  apply List.map_congr_left
  intro label _
  rw [Function.comp_apply, ← String.toList_inj, String.toList_ofList, String.toList_append]

end

/-- The lines of a source dispatch, advertise and carry out exactly the given operations. -/
structure Lists (source : String) (operations : List String) : Prop where
  dispatched : dispatched (Text.lines source) = operations.map fun operation =>
    (some operation, "return await this." ++ Naming.handlerName operation ++ "(args);")
  advertised : advertised (Text.lines source) = operations.map some
  handlers : handlers (Text.lines source) = operations.map fun operation =>
    Naming.handlerName operation ++ "(args: Record<string, unknown> | undefined) \x7b"

/-- This holds whatever the project and the operations are called. -/
theorem source_lists_operations {config : Config} {project categoryKey : String}
    {requirements : Requirements} {synthesis : Synthesis}
    (made : Synthesis.run config project categoryKey requirements = .ok synthesis)
    (unbroken : '\n' ∉ config.serverVersion.toList) :
    Lists synthesis.bundle.serverSource synthesis.operations := by
  obtain ⟨category, model, _, built, rfl⟩ := Synthesis.run_eq_ok made
  obtain ⟨_, version, operations⟩ := ServerModel.build_eq_ok built
  rw [← version] at unbroken
  have read := lines_render operations unbroken
  constructor
  · rw [read]
    exact dispatched_readLines operations unbroken
  · rw [read]
    exact advertised_readLines operations unbroken
  · rw [read]
    exact handlers_readLines operations unbroken

/-- Two operations whose names hold quotes, a line break, a label and template braces. -/
def trickyNames : Requirements where
  purpose := none
  operations := some ["case \"a\":\n  private async b(", "\x7b\x7b name \x7d\x7d\\"]
  config := none
  dependencies := none

theorem source_lists_operations_tricky : ∃ synthesis,
    Synthesis.run Config.default "say \"hi\"\n" "custom" trickyNames = .ok synthesis ∧
      '\n' ∉ Config.default.serverVersion.toList ∧
      Lists synthesis.bundle.serverSource synthesis.operations := by
  have succeeds :
      (Synthesis.run Config.default "say \"hi\"\n" "custom" trickyNames).isOk = true := by
    decide +kernel
  have unbroken : '\n' ∉ Config.default.serverVersion.toList := by decide
  cases made : Synthesis.run Config.default "say \"hi\"\n" "custom" trickyNames with
  | error failure => simp [made, Except.isOk, Except.toBool] at succeeds
  | ok synthesis => exact ⟨synthesis, rfl, unbroken, source_lists_operations made unbroken⟩

end ServerForge.ServerSource
