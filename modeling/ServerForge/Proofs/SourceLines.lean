import ServerForge.Proofs.Identifiers
import ServerForge.Proofs.Lines
import ServerForge.Proofs.Literals
import ServerForge.ServerSource

/-! The lines of a generated source, one by one. A line is plain, or it carries an operation after
one of three markers. Main statement: the source is these lines and no others, because no name that
is spliced into one of them can break it. -/
namespace ServerForge.ServerSource

/-! ## Lines that carry no operation -/

/-- The beginnings that the readers look for. -/
def markers : List (List Char) := [
  ['c', 'a', 's', 'e', ' '], ['"', 'n', 'a', 'm', 'e', '"', ':', ' '],
  ['p', 'r', 'i', 'v', 'a', 't', 'e', ' ', 'a', 's', 'y', 'n', 'c', ' ']]

/-- A line of its own that no reader takes for one of theirs. -/
structure Plain (line : List Char) : Prop where
  whole : Text.Whole line
  unmarked : ∀ start ∈ markers, Text.after? start line = none

instance (line : List Char) : Decidable (Text.Whole line) := inferInstanceAs (Decidable (_ ∧ _))

instance (line : List Char) : Decidable (Plain line) :=
  decidable_of_iff (Text.Whole line ∧ ∀ start ∈ markers, Text.after? start line = none)
    ⟨fun h => ⟨h.1, h.2⟩, fun h => ⟨h.whole, h.unmarked⟩⟩

/-- What holds of the characters of some lines holds of the lines. -/
theorem forall_ofList {P : List Char → Prop} (lines : List (List Char))
    (all : ∀ line ∈ lines, P line) : ∀ line ∈ lines.map String.ofList, P line.toList := by
  simpa using all

/-- The two ends of a line between which any text without a line feed may stand. -/
def frames (lead trail : List Char) : Bool :=
  !lead.contains '\n' && !trail.contains '\n' && (trail.getLast?.map (· != '\r')).getD false

theorem whole_of_frames {lead trail inner : List Char} (frame : frames lead trail = true)
    (unbroken : '\n' ∉ inner) : Text.Whole (lead ++ inner ++ trail) := by
  simp only [frames, Bool.and_eq_true, Bool.not_eq_true', List.contains_eq_mem,
    decide_eq_false_iff_not] at frame
  obtain ⟨⟨noLead, noTrail⟩, ending⟩ := frame
  cases last : trail.getLast? with
  | none => simp [last] at ending
  | some c =>
    refine ⟨by simp [noLead, unbroken, noTrail], ?_⟩
    simp only [last, Option.map_some, Option.getD_some, bne_iff_ne] at ending
    simp [List.getLast?_append, last, ending]

theorem whole_spliced (lead trail : List Char) (frame : frames lead trail = true) {inner : String}
    (unbroken : '\n' ∉ inner.toList) :
    Text.Whole (String.ofList lead ++ inner ++ String.ofList trail).toList := by
  simpa only [String.toList_append, String.toList_ofList] using whole_of_frames frame unbroken

theorem after?_spliced_eq_none (start lead trail : List Char)
    (apart : Text.clash start lead = true) (inner : String) :
    Text.after? (String.ofList start).toList
      (String.ofList lead ++ inner ++ String.ofList trail).toList = none := by
  simp only [String.toList_append, String.toList_ofList, List.append_assoc]
  exact Text.after?_eq_none apart _

/-- The beginning of a line is a marker, and its end is not blank. -/
def opens (start lead trail : List Char) : Bool :=
  Text.trimStart lead == start && start != [] &&
    (trail.getLast?.map (!Unicode.isBlank ·)).getD false

theorem after?_spliced_eq_some (start lead trail : List Char)
    (marked : opens start lead trail = true) (inner : String) :
    Text.after? (String.ofList start).toList
      (String.ofList lead ++ inner ++ String.ofList trail).toList =
        some (inner.toList ++ trail) := by
  simp only [opens, Bool.and_eq_true, beq_iff_eq, bne_iff_ne] at marked
  obtain ⟨⟨begins, visible⟩, ending⟩ := marked
  rcases List.eq_nil_or_concat trail with empty | ⟨rest, c, split⟩
  · simp [empty] at ending
  · have ends : Unicode.isBlank c = false := by simpa [split] using ending
    simp only [String.toList_append, String.toList_ofList, split, List.concat_eq_append]
    rw [List.append_assoc, ← List.append_assoc inner.toList]
    exact Text.after?_eq_some begins visible ends _

/-- Whether a line with this beginning is none of those that the readers look for. -/
def unlike (lead : List Char) : Bool := markers.all fun start => Text.clash start lead

theorem plain_spliced (lead trail : List Char) (frame : frames lead trail = true)
    (other : unlike lead = true) {inner : String} (unbroken : '\n' ∉ inner.toList) :
    Plain (String.ofList lead ++ inner ++ String.ofList trail).toList := by
  refine ⟨whole_spliced lead trail frame unbroken, fun start member => ?_⟩
  have apart := List.all_eq_true.mp other start member
  simpa only [String.toList_ofList] using after?_spliced_eq_none start lead trail apart inner

/-- A literal without its closing quote. -/
def unclosed (text : String) : String :=
  String.ofList ('"' :: text.toList.flatMap Json.escapeChar)

theorem quote_eq_append (text : String) : Json.quote text = unclosed text ++ "\"" := by
  rw [← String.toList_inj]
  simp [Json.quote, Json.quoteChars, unclosed]

theorem quote_unbroken (text : String) : '\n' ∉ (Json.quote text).toList := by
  rw [Json.quote, String.toList_ofList]
  exact (Json.quoteChars_printable _).not_mem (by decide)

theorem unclosed_unbroken (text : String) : '\n' ∉ (unclosed text).toList := by
  have unbroken := quote_unbroken text
  rw [quote_eq_append, String.toList_append] at unbroken
  exact fun member => unbroken (List.mem_append_left _ member)

theorem className_unbroken (model : ServerModel) : '\n' ∉ model.className.toList :=
  (Naming.className_alphanumeric model.project).not_mem (Naming.mark_not_alphanumeric (by decide))

theorem importLine_plain : ∀ entry ∈ imports, Plain (importLine entry).toList := by
  intro entry member
  have inner : '\n' ∉ (entry.1 ++ " \x7d from \"" ++ entry.2).toList := by
    revert entry
    decide
  unfold importLine
  have shape : "import \x7b " ++ entry.1 ++ " \x7d from \"" ++ entry.2 ++ "\";" =
      "import \x7b " ++ (entry.1 ++ " \x7d from \"" ++ entry.2) ++ "\";" := by
    simp only [String.append_assoc]
  rw [shape]
  exact plain_spliced _ _ (by decide) (by decide) inner

theorem constructorLine_plain {model : ServerModel} (unbroken : '\n' ∉ model.version.toList) :
    Plain (constructorLine model).toList := by
  have inner : '\n' ∉ (Json.quote model.project ++ ", version: \"" ++ model.version).toList := by
    simp [quote_unbroken, unbroken]
  unfold constructorLine
  have shape : "      \x7b name: " ++ Json.quote model.project ++ ", version: \"" ++
      model.version ++ "\" \x7d," = "      \x7b name: " ++
        (Json.quote model.project ++ ", version: \"" ++ model.version) ++ "\" \x7d," := by
    simp only [String.append_assoc]
  rw [shape]
  exact plain_spliced _ _ (by decide) (by decide) inner

theorem opening_plain {model : ServerModel} (unbroken : '\n' ∉ model.version.toList) :
    ∀ line ∈ opening model, Plain line.toList := by
  have classLine : Plain ("class " ++ model.className ++ " \x7b").toList :=
    plain_spliced _ _ (by decide) (by decide) (className_unbroken model)
  have fixed : ∀ line ∈ ["#!/usr/bin/env node", "", "  private server: Server;",
      "  constructor() \x7b", "    this.server = new Server(",
      "      \x7b capabilities: \x7b tools: \x7b\x7d \x7d \x7d", "    );",
      "    this.setupHandlers();", "  \x7d", "  private setupHandlers() \x7b",
      "    this.server.setRequestHandler(ListToolsRequestSchema, async () => (\x7b"],
      Plain line.toList :=
    forall_ofList [_, _, _, _, _, _, _, _, _, _, _] (by decide)
  intro line member
  have constructor := constructorLine_plain unbroken
  simp only [opening, List.mem_append, List.mem_cons, List.not_mem_nil, or_false, List.mem_map]
    at member fixed
  grind [importLine_plain]

theorem switchOpening_plain : ∀ line ∈ switchOpening, Plain line.toList :=
  forall_ofList [_, _, _, _, _, _] (by decide)

theorem switchClosing_plain : ∀ line ∈ switchClosing, Plain line.toList :=
  forall_ofList [_, _, _, _, _, _, _, _, _, _, _] (by decide)

theorem closing_plain (model : ServerModel) : ∀ line ∈ closing model, Plain line.toList := by
  have running : Plain ("    console.error(" ++ Json.quote (runningMessage model) ++ ");").toList :=
    plain_spliced _ _ (by decide) (by decide)
      (quote_unbroken (runningMessage model))
  have made : Plain ("  const server = new " ++ model.className ++ "();").toList :=
    plain_spliced _ _ (by decide) (by decide) (className_unbroken model)
  have fixed : ∀ line ∈ ["", "  async run() \x7b",
      "    const transport = new StdioServerTransport();",
      "    await this.server.connect(transport);", "  \x7d", "\x7d", "async function main() \x7b",
      "  await server.run();", "main().catch(console.error);"], Plain line.toList :=
    forall_ofList [_, _, _, _, _, _, _, _, _] (by decide)
  intro line member
  simp only [closing, List.mem_cons, List.not_mem_nil, or_false] at member fixed
  grind

/-! ## Lines that carry an operation -/

theorem handlerName_unbroken (operation : String) : '\n' ∉ (Naming.handlerName operation).toList :=
  (Naming.handlerName_alphanumeric operation).not_mem (Naming.mark_not_alphanumeric (by decide))

def nameLine (operation : Operation) : String :=
  "          \"name\": " ++ Json.quote operation.label ++ ","

/-- What follows the name of an advertised operation, but for the last line. -/
def detailLines (operation : Operation) : List String := [
  "          \"description\": " ++ Json.quote ("Generated tool: " ++ operation.label) ++ ",",
  "          \"inputSchema\": \x7b",
  "            \"type\": \"object\",",
  "            \"properties\": \x7b",
  "              \"input\": \x7b",
  "                \"type\": \"string\",",
  "                \"description\": " ++
    Json.quote ("Input for " ++ operation.label ++ " operation"),
  "              \x7d",
  "            \x7d,",
  "            \"required\": [",
  "              \"input\"",
  "            ]",
  "          \x7d"]

/-- The lines of an advertised operation that are the same for all. -/
def detailFrame : List String := [
  "          \"inputSchema\": \x7b", "            \"type\": \"object\",",
  "            \"properties\": \x7b", "              \"input\": \x7b",
  "                \"type\": \"string\",", "              \x7d", "            \x7d,",
  "            \"required\": [", "              \"input\"", "            ]", "          \x7d"]

theorem detailLines_all {P : String → Prop} (frame : ∀ line ∈ detailFrame, P line)
    (described : ∀ text, P ("          \"description\": " ++ Json.quote text ++ ","))
    (input : ∀ text, P ("                \"description\": " ++ Json.quote text))
    (operation : Operation) : ∀ line ∈ detailLines operation, P line := by
  intro line member
  simp only [detailFrame, detailLines, List.mem_cons, List.not_mem_nil, or_false] at member frame
  grind

def descriptorLines (operation : Operation) : List String :=
  "        \x7b" :: nameLine operation :: detailLines operation

/-- A comma after every advertised operation but the last. -/
def toolLines : List Operation → List String
  | [] => []
  | [operation] => descriptorLines operation ++ ["        \x7d"]
  | operation :: operations =>
    descriptorLines operation ++ ["        \x7d,"] ++ toolLines operations

set_option maxRecDepth 4000 in
theorem prettyChars_descriptor (operation : Operation) :
    Json.lineBreak 4 ++ Json.prettyChars 4 operation.descriptor =
      (descriptorLines operation ++ ["        \x7d"]).flatMap fun line => '\n' :: line.toList := by
  unfold descriptorLines nameLine detailLines
  simp [Operation.descriptor, Json.prettyChars, Json.prettyMembers,
    Json.prettyItems, Json.lineBreak, Json.quote, Json.quoteChars, Json.escapeChar,
    List.replicate]

theorem prettyItems_descriptors (operation : Operation) (operations : List Operation) :
    Json.prettyItems 4 ((operation :: operations).map Operation.descriptor) =
      (toolLines (operation :: operations)).flatMap fun line => '\n' :: line.toList := by
  induction operations generalizing operation with
  | nil => simpa [Json.prettyItems, toolLines] using prettyChars_descriptor operation
  | cons next operations ih =>
    have comma : (descriptorLines operation ++ ["        \x7d,"]).flatMap
        (fun line => '\n' :: line.toList) =
        (descriptorLines operation ++ ["        \x7d"]).flatMap
          (fun line => '\n' :: line.toList) ++ [','] := by
      simp
    have rest := ih next
    rw [toolLines, List.flatMap_append, ← rest, comma, ← prettyChars_descriptor operation]
    · simp [Json.prettyItems]
    · simp

/-- The lines on which all advertised operations stand. -/
def toolsLines (model : ServerModel) : List String :=
  match model.operations with
  | [] => ["      tools: [],"]
  | operations => "      tools: [" :: (toolLines operations ++ ["      ],"])

/-- What holds of the lines of every operation and of those around them holds of all lines. -/
theorem toolsLines_all {P : String → Prop}
    (around : ∀ line ∈ ["        \x7b", "        \x7d", "        \x7d,", "      tools: [],",
      "      tools: [", "      ],"], P line)
    (name : ∀ operation, P (nameLine operation))
    (details : ∀ operation, ∀ line ∈ detailLines operation, P line) (model : ServerModel) :
    ∀ line ∈ toolsLines model, P line := by
  simp only [List.forall_mem_cons] at around
  obtain ⟨opened, last, next, none, first, close, _⟩ := around
  have descriptor : ∀ operation, ∀ line ∈ descriptorLines operation, P line := fun operation =>
    List.forall_mem_cons.mpr ⟨opened, List.forall_mem_cons.mpr ⟨name operation, details operation⟩⟩
  have each : ∀ operations, ∀ line ∈ toolLines operations, P line := by
    intro operations
    induction operations using toolLines.induct with
    | case1 => simp [toolLines]
    | case2 operation =>
      rw [toolLines, List.forall_mem_append]
      exact ⟨descriptor operation, List.forall_mem_singleton.mpr last⟩
    | case3 operation operations more ih =>
      rw [toolLines, List.forall_mem_append, List.forall_mem_append]
      · exact ⟨⟨descriptor operation, List.forall_mem_singleton.mpr next⟩, ih⟩
      · exact more
  unfold toolsLines
  split
  · exact List.forall_mem_singleton.mpr none
  · rw [List.forall_mem_cons, List.forall_mem_append]
    exact ⟨first, each _, List.forall_mem_singleton.mpr close⟩

theorem toolsLine_toList (model : ServerModel) :
    (toolsLine model).toList ++ ['\n'] =
      (toolsLines model).flatMap fun line => line.toList ++ ['\n'] := by
  unfold toolsLine toolsLines
  cases operations : model.operations with
  | nil => simp [Json.prettyAt, Json.prettyChars]
  | cons operation rest =>
    have items := prettyItems_descriptors operation rest
    have moved := Text.feeds_before_eq_after "      tools: [".toList
      ((toolLines (operation :: rest) ++ ["      ],"]).map String.toList)
    rw [← List.map_cons (f := String.toList), List.flatMap_map, List.flatMap_map] at moved
    rw [← moved, List.flatMap_append, ← items]
    simp [Json.prettyAt, Json.prettyChars, Json.lineBreak, List.replicate]

/-- The lines of a source, those of the advertised operations one by one. -/
def readLines (model : ServerModel) : List String :=
  opening model ++ toolsLines model ++ switchOpening ++ model.operations.flatMap caseLines ++
    switchClosing ++ model.operations.flatMap stubLines ++ closing model

theorem render_toList (model : ServerModel) :
    (render model).toList = ((readLines model).map String.toList).flatMap (· ++ ['\n']) := by
  have feed : ∀ texts : List String, (texts.map (· ++ "\n")).flatMap String.toList =
      texts.flatMap fun line => line.toList ++ ['\n'] := by
    intro texts
    rw [List.flatMap_map]
    congr 1
    funext line
    simp
  rw [render, String.toList_join, feed, List.flatMap_map]
  simp only [lines, readLines, List.flatMap_append, List.flatMap_singleton, toolsLine_toList]

/-! ## What each reader finds on them -/

/-- A line of its own that one reader takes for its own and the others leave. -/
structure Marked (start : List Char) (line : String) (content : List Char) : Prop where
  whole : Text.Whole line.toList
  found : Text.after? start line.toList = some content
  others : ∀ other ∈ markers, other ≠ start → Text.after? other line.toList = none

/-- A line that no reader takes for its own, but for one at most. -/
def OnlyFor (start : List Char) (line : String) : Prop :=
  Plain line.toList ∨ ∃ content, Marked start line content

theorem marked_spliced (start lead trail : List Char) (frame : frames lead trail = true)
    (marked : opens start lead trail = true)
    (apart : (markers.all fun other => other == start || Text.clash other lead) = true)
    {inner : String} (unbroken : '\n' ∉ inner.toList) :
    Marked start (String.ofList lead ++ inner ++ String.ofList trail) (inner.toList ++ trail) where
  whole := whole_spliced lead trail frame unbroken
  found := by
    simpa only [String.toList_ofList] using after?_spliced_eq_some start lead trail marked inner
  others := by
    intro other member different
    have clash := List.all_eq_true.mp apart other member
    simp only [Bool.or_eq_true, beq_iff_eq, different, false_or] at clash
    simpa only [String.toList_ofList] using after?_spliced_eq_none other lead trail clash inner

theorem caseMarker_mem : "case ".toList ∈ markers := by simp [markers]

theorem nameMarker_mem : "\"name\": ".toList ∈ markers := by simp [markers]

theorem handlerMarker_mem : "private async ".toList ∈ markers := by simp [markers]

theorem nameLine_marked (operation : Operation) :
    Marked "\"name\": ".toList (nameLine operation)
      ((Json.quote operation.label).toList ++ [',']) := by
  unfold nameLine
  simp only [String.reduceToList]
  exact marked_spliced _ _ [','] (by decide) (by decide) (by decide)
    (quote_unbroken operation.label)

theorem detailLines_plain (operation : Operation) :
    ∀ line ∈ detailLines operation, Plain line.toList := by
  apply detailLines_all
  · exact forall_ofList [_, _, _, _, _, _, _, _, _, _, _] (by decide)
  · exact fun text =>
      plain_spliced _ _ (by decide) (by decide) (quote_unbroken text)
  · intro text
    rw [quote_eq_append, ← String.append_assoc]
    exact plain_spliced _ _ (by decide) (by decide) (unclosed_unbroken text)

/-- The lines before and after an advertised operation. -/
theorem braces_plain : ∀ line ∈ ["        \x7b", "        \x7d", "        \x7d,"],
    Plain line.toList :=
  forall_ofList [_, _, _] (by decide)

/-- The lines before and after all of them. -/
theorem brackets_plain : ∀ line ∈ ["      tools: [],", "      tools: [", "      ],"],
    Plain line.toList :=
  forall_ofList [_, _, _] (by decide)

theorem labelLine_marked (label : String) :
    Marked "case ".toList ("          case " ++ Json.quote label ++ ":")
      ((Json.quote label).toList ++ [':']) := by
  simp only [String.reduceToList]
  exact marked_spliced _ _ [':'] (by decide) (by decide) (by decide)
    (quote_unbroken label)

theorem returnLine_plain (operation : String) :
    Plain ("            return await this." ++ Naming.handlerName operation ++ "(args);").toList :=
  plain_spliced _ _ (by decide) (by decide) (handlerName_unbroken operation)

theorem signatureLine_marked (operation : String) :
    Marked "private async ".toList ("  private async " ++ Naming.handlerName operation ++
        "(args: Record<string, unknown> | undefined) \x7b")
      ((Naming.handlerName operation).toList ++
        "(args: Record<string, unknown> | undefined) \x7b".toList) := by
  simp only [String.reduceToList]
  exact marked_spliced _ _ _ (by decide) (by decide) (by decide)
    (handlerName_unbroken operation)

theorem stubBody_plain (operation : Operation) : ∀ line ∈ ["",
    "    const input = String(args?.input ?? \"\");",
    "    return \x7b content: [\x7b type: \"text\", text: " ++ Json.quote operation.label ++
      " + \" received: \" + input \x7d] \x7d;",
    "  \x7d"], Plain line.toList := by
  have reply : Plain ("    return \x7b content: [\x7b type: \"text\", text: " ++
      Json.quote operation.label ++ " + \" received: \" + input \x7d] \x7d;").toList :=
    plain_spliced _ _ (by decide) (by decide) (quote_unbroken operation.label)
  have fixed : ∀ line ∈ ["", "    const input = String(args?.input ?? \"\");", "  \x7d"],
      Plain line.toList :=
    forall_ofList [_, _, _] (by decide)
  intro line member
  simp only [List.mem_cons, List.not_mem_nil, or_false] at member fixed
  grind

end ServerForge.ServerSource
