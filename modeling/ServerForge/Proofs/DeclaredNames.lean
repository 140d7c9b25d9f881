import ServerForge.Proofs.ConstructorLine
import ServerForge.Proofs.ScriptIdentifiers

/-! The names that a generated source declares, at its outermost level and in its class. Main
statement: the members of the class never clash, and the outermost names do so exactly if the
project is called by nothing but separators, since the class is then called like an import. -/
namespace ServerForge.ServerSource

/-! ## Readers of declarations -/

def endsName (c : Char) : Bool := [' ', '(', ':', '=', ';'].contains c

/-- The name at the front of a text. -/
def nameAt (cs : List Char) : String := String.ofList (cs.takeWhile (!endsName ·))

/-- What stands before a name that is declared. -/
def declarators : List (List Char) :=
  ["class ".toList, "function ".toList, "async function ".toList, "const ".toList, "let ".toList,
    "var ".toList]

/-- The names between the braces of an import. -/
def importedNames (clause : List Char) : List String :=
  Text.splitList (String.ofList (clause.takeWhile (· != '\x7d')))

/-- The names that a line declares if it stands at the outermost level. -/
def boundNames (line : List Char) : List String :=
  match "import \x7b ".toList.isPrefixOf? line with
  | some clause => importedNames clause
  | none => declarators.filterMap fun start => (start.isPrefixOf? line).map nameAt

def moduleNames (lines : List (List Char)) : List String := lines.flatMap boundNames

/-- The lines from the one that opens the class to the one that closes it. -/
def classBody (lines : List (List Char)) : List (List Char) :=
  ((lines.dropWhile fun line => !"class ".toList.isPrefixOf line).drop 1).takeWhile
    (· != ['\x7d'])

def skipWord (word cs : List Char) : List Char := (word.isPrefixOf? cs).getD cs

/-- The member of a class that begins on a line, at the first level of depth. -/
def memberName? : List Char → Option String
  | ' ' :: ' ' :: c :: cs =>
    if c = ' ' ∨ c = '\x7d' then none
    else some (nameAt (skipWord "async ".toList (skipWord "private ".toList (c :: cs))))
  | _ => none

def memberNames (lines : List (List Char)) : List String :=
  (classBody lines).filterMap memberName?

/-! ## Lines below the outermost level -/

/-- An empty line, or one that is set in. -/
def Inner (line : List Char) : Prop := line.head?.getD ' ' = ' '

/-- A line below the level of the members. -/
def Deep (line : List Char) : Prop := line.take 3 = [' ', ' ', ' ']

instance (line : List Char) : Decidable (Inner line) := inferInstanceAs (Decidable (_ = _))

instance (line : List Char) : Decidable (Deep line) := inferInstanceAs (Decidable (_ = _))

theorem boundNames_of_inner {line : List Char} (inner : Inner line) : boundNames line = [] := by
  cases line with
  | nil => simp [boundNames, declarators]
  | cons c cs =>
    obtain rfl : c = ' ' := inner
    simp [boundNames, declarators]

theorem memberName?_of_deep {line : List Char} (deep : Deep line) : memberName? line = none := by
  match line, deep with
  | a :: b :: c :: cs, deep =>
    simp only [Deep, List.take_succ_cons, List.take_zero, List.cons.injEq, and_true] at deep
    obtain ⟨rfl, rfl, rfl⟩ := deep
    simp [memberName?]

theorem Deep.inner {line : List Char} (deep : Deep line) : Inner line := by
  match line, deep with
  | a :: b :: c :: cs, deep =>
    simp only [Deep, List.take_succ_cons, List.take_zero, List.cons.injEq, and_true] at deep
    simp [Inner, deep.1]

theorem moduleNames_skip {line : List Char} (deep : Deep line) (before after : List (List Char)) :
    moduleNames (before ++ line :: after) = moduleNames (before ++ after) := by
  simp only [moduleNames, List.flatMap_append, List.flatMap_cons,
    boundNames_of_inner deep.inner, List.nil_append]

/-- A line below the members neither opens nor closes the class. -/
theorem memberNames_skip {line : List Char} (deep : Deep line) (before after : List (List Char)) :
    memberNames (before ++ line :: after) = memberNames (before ++ after) := by
  have opens : (!"class ".toList.isPrefixOf line) = true := by
    match line, deep with
    | a :: b :: c :: cs, deep =>
      obtain rfl : a = ' ' := by simpa [Inner] using deep.inner
      simp [List.isPrefixOf]
  have closes : (line != ['\x7d']) = true := by
    rw [bne_iff_ne]
    rintro rfl
    exact absurd deep (by decide)
  unfold memberNames classBody
  rw [List.dropWhile_append, List.dropWhile_append]
  cases rest : before.dropWhile fun line => !"class ".toList.isPrefixOf line with
  | nil =>
    simp only [List.isEmpty_nil, if_true]
    rw [List.dropWhile_cons, if_pos opens]
  | cons first rest =>
    simp only [List.isEmpty_cons, Bool.false_eq_true, if_false, List.cons_append,
      List.drop_succ_cons, List.drop_zero, List.takeWhile_append]
    split
    next =>
      rw [List.takeWhile_cons, if_pos closes, List.filterMap_append,
        List.filterMap_cons_none (memberName?_of_deep deep), ← List.filterMap_append]
    next => rfl

theorem deep_append {lead : List Char} (deep : Deep lead) (rest : List Char) :
    Deep (lead ++ rest) := by
  have long : 3 ≤ lead.length := by
    have taken := congrArg List.length deep
    simp only [List.length_take, List.length_cons, List.length_nil] at taken
    omega
  rw [Deep, List.take_append_of_le_length long]
  exact deep

theorem deep_ofList_append (lead : List Char) (deep : Deep lead) (rest : String) :
    Deep (String.ofList lead ++ rest).toList := by
  simpa using deep_append deep rest.toList

theorem deep_spliced (lead : List Char) (deep : Deep lead) (inner trail : String) :
    Deep (String.ofList lead ++ inner ++ trail).toList := by
  rw [String.append_assoc]
  exact deep_ofList_append lead deep _

theorem constructorLine_deep (model : ServerModel) : Deep (constructorLine model).toList := by
  unfold constructorLine
  simp only [String.append_assoc]
  exact deep_ofList_append _ (by decide) _

theorem toolsLines_deep (model : ServerModel) : ∀ line ∈ toolsLines model, Deep line.toList := by
  apply toolsLines_all
  · exact forall_ofList [_, _, _, _, _, _] (by decide)
  · exact fun operation => deep_spliced _ (by decide) _ _
  · apply detailLines_all
    · exact forall_ofList [_, _, _, _, _, _, _, _, _, _, _] (by decide)
    · exact fun text => deep_spliced _ (by decide) _ _
    · exact fun text => deep_ofList_append _ (by decide) _

theorem caseLines_deep (operation : Operation) :
    ∀ line ∈ caseLines operation, Deep line.toList := by
  have label : Deep ("          case " ++ Json.quote operation.label ++ ":").toList :=
    deep_spliced _ (by decide) _ _
  have statement : Deep ("            return await this." ++ operation.handler ++
      "(args);").toList :=
    deep_spliced _ (by decide) _ _
  intro line member
  simp only [caseLines, List.mem_cons, List.not_mem_nil, or_false] at member
  grind

/-! ## Members of the class -/

/-- A list of lines below the outermost level with the members that begin on them. -/
structure Declares (lines : List String) (members : List String) : Prop where
  inner : ∀ line ∈ lines, Inner line.toList
  members : (lines.map String.toList).filterMap memberName? = members

theorem Declares.append {before after first last} (head : Declares before first)
    (tail : Declares after last) : Declares (before ++ after) (first ++ last) where
  inner := List.forall_mem_append.mpr ⟨head.inner, tail.inner⟩
  members := by rw [List.map_append, List.filterMap_append, head.members, tail.members]

theorem declares_deep {lines : List String} (deep : ∀ line ∈ lines, Deep line.toList) :
    Declares lines [] where
  inner line member := (deep line member).inner
  members := by
    rw [List.filterMap_eq_nil_iff]
    intro line member
    obtain ⟨text, inside, rfl⟩ := List.mem_map.mp member
    exact memberName?_of_deep (deep text inside)

theorem declares_flatMap {α : Type} {f : α → List String} {g : α → List String} {items : List α}
    (each : ∀ item ∈ items, Declares (f item) (g item)) :
    Declares (items.flatMap f) (items.flatMap g) := by
  induction items with
  | nil => exact ⟨by simp, rfl⟩
  | cons item items ih =>
    rw [List.flatMap_cons, List.flatMap_cons]
    exact (each item (by simp)).append (ih fun other member => each other (by simp [member]))

theorem declares_ofList (lines : List (List Char)) (members : List String)
    (inner : ∀ line ∈ lines, Inner line) (found : lines.filterMap memberName? = members) :
    Declares (lines.map String.ofList) members where
  inner := forall_ofList lines inner
  members := by simpa using found

/-- The lines of the class before the advertised operations. -/
def classOpening (model : ServerModel) : List String :=
  ["  private server: Server;", "", "  constructor() \x7b", "    this.server = new Server("] ++
    [constructorLine model] ++
    ["      \x7b capabilities: \x7b tools: \x7b\x7d \x7d \x7d", "    );",
    "    this.setupHandlers();", "  \x7d", "", "  private setupHandlers() \x7b",
    "    this.server.setRequestHandler(ListToolsRequestSchema, async () => (\x7b"]

theorem classOpening_declares (model : ServerModel) :
    Declares (classOpening model) ["server", "constructor", "setupHandlers"] := by
  have first : Declares ["  private server: Server;", "", "  constructor() \x7b",
      "    this.server = new Server("] ["server", "constructor"] :=
    declares_ofList [_, _, _, _] _ (by decide) (by decide)
  have arguments : Declares [constructorLine model] [] :=
    declares_deep (List.forall_mem_singleton.mpr (constructorLine_deep model))
  have last : Declares ["      \x7b capabilities: \x7b tools: \x7b\x7d \x7d \x7d", "    );",
      "    this.setupHandlers();", "  \x7d", "", "  private setupHandlers() \x7b",
      "    this.server.setRequestHandler(ListToolsRequestSchema, async () => (\x7b"]
      ["setupHandlers"] :=
    declares_ofList [_, _, _, _, _, _, _] _ (by decide) (by decide)
  exact (first.append arguments).append last

theorem switchOpening_declares : Declares switchOpening [] :=
  declares_ofList [_, _, _, _, _, _] _ (by decide) (by decide)

theorem switchClosing_declares : Declares switchClosing [] :=
  declares_ofList [_, _, _, _, _, _, _, _, _, _, _] _ (by decide) (by decide)

theorem nameAt_append {name : List Char} (all : Naming.Alphanumeric name) {c : Char}
    (ends : endsName c = true) (rest : List Char) :
    nameAt (name ++ c :: rest) = String.ofList name := by
  have kept : ∀ d ∈ name, (!endsName d) = true := by
    intro d member
    have known := all d member
    rw [Bool.not_eq_true', ← Bool.not_eq_true, endsName, List.contains_iff_mem]
    intro delimiter
    have marked : [' ', '(', ':', '=', ';'] ⊆ Naming.marks := by decide
    simp [Naming.mark_not_alphanumeric (marked delimiter)] at known
  rw [nameAt, List.takeWhile_append_of_pos kept, List.takeWhile_cons_of_neg (by simp [ends]),
    List.append_nil]

theorem memberName?_signature (operation : String) :
    memberName? ("  private async " ++ Naming.handlerName operation ++
      "(args: Record<string, unknown> | undefined) \x7b").toList =
        some (Naming.handlerName operation) := by
  have name := nameAt_append (Naming.handlerName_alphanumeric operation) (c := '(') rfl
  simp [memberName?, skipWord, name]

theorem stubLines_declares (label : String) :
    Declares (stubLines (Operation.of label)) [Naming.handlerName label] := by
  have before : Declares [""] [] := declares_ofList [_] _ (by decide) (by decide)
  have signature : Declares ["  private async " ++ Naming.handlerName label ++
      "(args: Record<string, unknown> | undefined) \x7b"] [Naming.handlerName label] :=
    ⟨List.forall_mem_singleton.mpr (by simp [Inner]), by simp only [List.map_cons, List.map_nil,
      List.filterMap_cons_some (memberName?_signature label), List.filterMap_nil]⟩
  have input : Declares ["    const input = String(args?.input ?? \"\");"] [] :=
    declares_ofList [_] _ (by decide) (by decide)
  have reply : Declares ["    return \x7b content: [\x7b type: \"text\", text: " ++
      Json.quote label ++ " + \" received: \" + input \x7d] \x7d;"] [] :=
    declares_deep (List.forall_mem_singleton.mpr (deep_spliced _ (by decide) _ _))
  have after : Declares ["  \x7d"] [] :=
    declares_ofList [_] _ (by decide) (by decide)
  exact (((before.append signature).append input).append reply).append after

/-- The lines of the class after the handlers. -/
def classClosing (model : ServerModel) : List String :=
  ["", "  async run() \x7b", "    const transport = new StdioServerTransport();",
    "    await this.server.connect(transport);"] ++
  ["    console.error(" ++ Json.quote (runningMessage model) ++ ");"] ++ ["  \x7d"]

theorem classClosing_declares (model : ServerModel) : Declares (classClosing model) ["run"] := by
  have first : Declares ["", "  async run() \x7b",
      "    const transport = new StdioServerTransport();",
      "    await this.server.connect(transport);"] ["run"] :=
    declares_ofList [_, _, _, _] _ (by decide) (by decide)
  have running : Declares ["    console.error(" ++ Json.quote (runningMessage model) ++ ");"] [] :=
    declares_deep (List.forall_mem_singleton.mpr (deep_spliced _ (by decide) _ _))
  have last : Declares ["  \x7d"] [] :=
    declares_ofList [_] _ (by decide) (by decide)
  exact (first.append running).append last

/-- The members of the class of a server. -/
def classMembers (labels : List String) : List String :=
  ["server", "constructor", "setupHandlers"] ++ labels.map Naming.handlerName ++ ["run"]

/-- All lines of the class. -/
def classLines (model : ServerModel) : List String :=
  classOpening model ++ toolsLines model ++ switchOpening ++ model.operations.flatMap caseLines ++
    switchClosing ++ model.operations.flatMap stubLines ++ classClosing model

theorem classLines_declares {model : ServerModel} {labels : List String}
    (operations : model.operations = labels.map Operation.of) :
    Declares (classLines model) (classMembers labels) := by
  have tools := declares_deep (toolsLines_deep model)
  have cases : Declares (model.operations.flatMap caseLines) [] :=
    declares_deep fun line member => by
      obtain ⟨operation, _, inside⟩ := List.mem_flatMap.mp member
      exact caseLines_deep operation line inside
  have stubs : Declares (model.operations.flatMap stubLines) (labels.map Naming.handlerName) := by
    rw [operations, List.flatMap_map, ← List.flatMap_singleton' (labels.map Naming.handlerName),
      List.flatMap_map]
    exact declares_flatMap fun label _ => stubLines_declares label
  have whole := ((((((classOpening_declares model).append tools).append
    switchOpening_declares).append cases).append switchClosing_declares).append stubs).append
      (classClosing_declares model)
  simpa only [classLines, classMembers, List.append_nil] using whole

/-! ## The whole source -/

theorem names_ofList (lines : List (List Char)) {names : List String}
    (found : moduleNames lines = names) :
    moduleNames ((lines.map String.ofList).map String.toList) = names := by
  simpa using found

/-- The lines before the class. -/
def header : List String := ["#!/usr/bin/env node", ""] ++ imports.map importLine ++ [""]

def classLine (model : ServerModel) : String := "class " ++ model.className ++ " \x7b"

/-- The lines from the end of the class on. -/
def footer (model : ServerModel) : List String :=
  ["\x7d", "", "async function main() \x7b"] ++
  ["  const server = new " ++ model.className ++ "();"] ++
  ["  await server.run();", "\x7d", "", "main().catch(console.error);"]

theorem readLines_eq_class (model : ServerModel) :
    readLines model = header ++ classLine model :: (classLines model ++ footer model) := by
  have opened : opening model = header ++ classLine model :: classOpening model := rfl
  have closed : closing model = classClosing model ++ footer model := rfl
  simp only [readLines, opened, closed, classLines, List.append_assoc, List.cons_append]

/-- The names that every source imports. -/
def importedByAll : List String :=
  ["Server", "StdioServerTransport", "CallToolRequestSchema", "ListToolsRequestSchema"]

/-- The names at the outermost level of a server. -/
def outermostNames (project : String) : List String :=
  importedByAll ++ [Naming.className project, "main"]

theorem boundNames_importLine {entry : String × String} (inside : '\x7d' ∉ entry.1.toList) :
    boundNames (importLine entry).toList =
      Text.splitList (String.ofList (entry.1.toList ++ [' '])) := by
  have shape : (importLine entry).toList =
      "import \x7b ".toList ++ (entry.1.toList ++ ' ' :: '\x7d' :: (" from \"".toList ++
        (entry.2.toList ++ "\";".toList))) := by
    unfold importLine
    simp
  rw [shape, boundNames, isPrefixOf?_append]
  simp only [importedNames, Text.takeWhile_append_of_not_mem inside]
  rfl

theorem header_names : moduleNames (header.map String.toList) = importedByAll := by
  have each : ∀ entry ∈ imports, boundNames (importLine entry).toList =
      Text.splitList (String.ofList (entry.1.toList ++ [' '])) :=
    fun entry member => boundNames_importLine (by
      revert entry
      simp [imports])
  have split : imports.flatMap (fun entry =>
      Text.splitList (String.ofList (entry.1.toList ++ [' ']))) = importedByAll := by
    decide
  have fixed : ∀ line ∈ ["#!/usr/bin/env node", ""], boundNames line.toList = [] :=
    @forall_ofList (fun line => boundNames line = []) [_, _] (by decide)
  have first : (["#!/usr/bin/env node", ""].map String.toList).flatMap boundNames = [] := by
    rwa [List.flatMap_map, List.flatMap_eq_nil_iff]
  have last : ([""].map String.toList).flatMap boundNames = [] := by
    rw [List.flatMap_map, List.flatMap_eq_nil_iff]
    exact fun line member => fixed line (by simp_all)
  rw [moduleNames, header, List.map_append, List.map_append, List.flatMap_append,
    List.flatMap_append, first, last, List.flatMap_map, List.flatMap_map, List.flatMap_def,
    List.map_congr_left each, ← List.flatMap_def, split]
  rfl

/-- The class of a project is declared on the line that opens it. -/
theorem classLine_names (model : ServerModel) :
    boundNames (classLine model).toList = [model.className] := by
  have name := nameAt_append (Naming.className_alphanumeric model.project) (c := ' ') rfl ['\x7b']
  rw [String.ofList_toList] at name
  simp [boundNames, declarators, classLine, ServerModel.className, name]

theorem footer_names (model : ServerModel) :
    moduleNames ((footer model).map String.toList) = ["main"] := by
  have first : moduleNames (["\x7d", "", "async function main() \x7b"].map String.toList) =
      ["main"] :=
    names_ofList [_, _, _] (by decide)
  have made : boundNames ("  const server = new " ++ model.className ++ "();").toList = [] :=
    boundNames_of_inner (by simp [Inner])
  have last : moduleNames (["  await server.run();", "\x7d", "",
      "main().catch(console.error);"].map String.toList) = [] :=
    names_ofList [_, _, _, _] (by decide)
  rw [moduleNames] at first last ⊢
  rw [footer, List.map_append, List.map_append, List.flatMap_append, List.flatMap_append, first,
    last, List.map_singleton, List.flatMap_singleton, made]
  rfl

theorem moduleNames_readLines {model : ServerModel} {labels : List String}
    (operations : model.operations = labels.map Operation.of) :
    moduleNames ((readLines model).map String.toList) = outermostNames model.project := by
  have inside : moduleNames ((classLines model).map String.toList) = [] := by
    rw [moduleNames, List.flatMap_eq_nil_iff]
    intro line member
    obtain ⟨text, within, rfl⟩ := List.mem_map.mp member
    exact boundNames_of_inner ((classLines_declares operations).inner text within)
  have around := header_names
  have last := footer_names model
  rw [moduleNames] at inside around last ⊢
  rw [readLines_eq_class, List.map_append, List.flatMap_append, around, List.map_cons,
    List.flatMap_cons, classLine_names, List.map_append, List.flatMap_append, inside, last]
  rfl

/-- No class begins before that of the project. -/
theorem header_classless : ∀ line ∈ header.map String.toList,
    (!"class ".toList.isPrefixOf line) = true := by
  have fixed : ∀ line ∈ ["#!/usr/bin/env node", ""],
      (!"class ".toList.isPrefixOf line.toList) = true :=
    @forall_ofList (fun line => (!"class ".toList.isPrefixOf line) = true) [_, _]
      (by decide)
  have imported : ∀ entry, (!"class ".toList.isPrefixOf (importLine entry).toList) = true := by
    intro entry
    unfold importLine
    simp [List.isPrefixOf]
  intro line member
  simp only [header, List.map_append, List.map_map, List.mem_append, List.mem_map, List.mem_cons,
    List.not_mem_nil, or_false] at member fixed
  grind

theorem classBody_readLines {model : ServerModel} {labels : List String}
    (operations : model.operations = labels.map Operation.of) :
    classBody ((readLines model).map String.toList) = (classLines model).map String.toList := by
  have opens : (!"class ".toList.isPrefixOf (classLine model).toList) = false := by
    simp [classLine]
  have within : ['\x7d'] ∉ (classLines model).map String.toList := by
    intro member
    obtain ⟨text, inside, same⟩ := List.mem_map.mp member
    have first := (classLines_declares operations).inner text inside
    simp [same, Inner] at first
  have closes : (footer model).map String.toList =
      ['\x7d'] :: ((footer model).map String.toList).drop 1 := by
    simp [footer]
  rw [classBody, readLines_eq_class, List.map_append,
    List.dropWhile_append_of_pos header_classless, List.map_cons,
    List.dropWhile_cons_of_neg (by rw [opens]; decide), List.drop_succ_cons, List.drop_zero,
    List.map_append, Text.takeWhile_append_of_not_mem within, closes,
    List.takeWhile_cons_of_neg (by simp), List.append_nil]

theorem memberNames_readLines {model : ServerModel} {labels : List String}
    (operations : model.operations = labels.map Operation.of) :
    memberNames ((readLines model).map String.toList) = classMembers labels := by
  rw [memberNames, classBody_readLines operations, (classLines_declares operations).members]

/-- A source declares these names outside the lines that the version stands on. -/
def DeclaresAround (model : ServerModel) (outermost members : List String) : Prop :=
  ∃ before after, Text.lines (render model) = before ++
      (Text.rows (constructorLine model).toList).map Text.withoutReturn ++ after ∧
    moduleNames (before ++ after) = outermost ∧ memberNames (before ++ after) = members

theorem declaresAround_render {model : ServerModel} {labels : List String}
    (operations : model.operations = labels.map Operation.of) :
    DeclaresAround model (outermostNames model.project) (classMembers labels) := by
  obtain ⟨before, after, split, around⟩ := lines_render_around operations
  have names := moduleNames_readLines operations
  have members := memberNames_readLines operations
  have deep := constructorLine_deep model
  rw [split, List.map_append, List.map_cons] at names members
  rw [moduleNames_skip deep] at names
  rw [memberNames_skip deep] at members
  exact ⟨_, _, around, names, members⟩

end ServerForge.ServerSource

namespace ServerForge

/-! ## Clashes -/

namespace Naming

theorem className_last (project : String) : (className project).toList.getLast? = some 'r' := by
  unfold className
  simp [List.getLast?_append]

theorem className_eq_server_iff (project : String) :
    className project = "Server" ↔ ∀ c ∈ project.toList, isAlphanumeric c = false := by
  cases first : project.toList.find? isAlphanumeric with
  | none =>
    have separators : ∀ c ∈ project.toList, isAlphanumeric c = false := by simpa using first
    exact ⟨fun _ => separators, fun _ => className_of_none first⟩
  | some c =>
    obtain ⟨d, ds, rest, chars, _⟩ := identifierChars_eq_cons first
    have member : c ∈ project.toList := List.mem_of_find?_eq_some first
    have known : isAlphanumeric c = true := List.find?_some first
    constructor
    · intro same
      have lengths := congrArg (fun name => name.toList.length) same
      simp only [className, identifier, chars, String.toList_append, List.length_append] at lengths
      split at lengths
      · simp at lengths
      · simp at lengths
    · intro separators
      simp [separators c member] at known

theorem handlerName_first (operation : String) :
    (handlerName operation).toList.head? = some 'h' := by
  simp [handlerName]

end Naming

namespace ServerSource

/-- Of the other names, `Server` is the only one that ends as the name of a class does. -/
theorem outermostNames_nodup_iff (project : String) :
    (outermostNames project).Nodup ↔ ∃ c ∈ project.toList, Naming.isAlphanumeric c = true := by
  have endings : ∀ name ∈ ["StdioServerTransport", "CallToolRequestSchema",
      "ListToolsRequestSchema", "main"], name.toList.getLast? ≠ some 'r' :=
    @forall_ofList (fun name => name.getLast? ≠ some 'r') [_, _, _, _] (by decide)
  have others : ∀ name ∈ ["StdioServerTransport", "CallToolRequestSchema",
      "ListToolsRequestSchema", "main"], name ≠ Naming.className project := by
    rintro name member rfl
    exact endings _ member (Naming.className_last project)
  have server := Naming.className_eq_server_iff project
  simp only [List.forall_mem_cons] at others
  obtain ⟨transport, call, list, main, _⟩ := others
  constructor
  · intro nodup
    refine Decidable.byContradiction fun none => ?_
    have same := server.mpr fun c member => by
      rw [← Bool.not_eq_true]
      exact fun known => none ⟨c, member, known⟩
    rw [outermostNames, same] at nodup
    exact absurd nodup (by decide)
  · rintro ⟨c, member, known⟩
    have different : "Server" ≠ Naming.className project := by
      intro same
      simp [server.mp same.symm c member] at known
    have fixed : (importedByAll ++ ["main"]).Nodup := by decide
    simp [outermostNames, importedByAll] at fixed ⊢
    grind

theorem classMembers_nodup {labels : List String}
    (distinct : (labels.map Naming.handlerName).Nodup) :
    (classMembers labels).Nodup := by
  have beginnings : ∀ name ∈ ["server", "constructor", "setupHandlers", "run"],
      name.toList.head? ≠ some 'h' :=
    @forall_ofList (fun name => name.head? ≠ some 'h') [_, _, _, _] (by decide)
  have others : ∀ name ∈ ["server", "constructor", "setupHandlers", "run"],
      name ∉ labels.map Naming.handlerName := by
    intro name member handler
    obtain ⟨label, _, rfl⟩ := List.mem_map.mp handler
    exact beginnings _ member (Naming.handlerName_first label)
  have fixed : ["server", "constructor", "setupHandlers"].Nodup := by decide
  rw [classMembers, List.nodup_append, List.nodup_append]
  refine ⟨⟨fixed, distinct, ?_⟩, by decide, ?_⟩
  · rintro name member _ handler rfl
    exact others name (List.mem_append_left ["run"] member) handler
  · intro name member last inside
    rw [List.mem_singleton.mp inside]
    rintro rfl
    rcases List.mem_append.mp member with first | handler
    · exact absurd first (by decide)
    · exact others _ (by simp) handler

/-- Two members never have one name, whatever the operations are, and two outermost names only if
the project has no letter or number to be called by. -/
theorem declared_names_distinct_iff {project version : String} {labels : List String}
    {model : ServerModel} (built : ServerModel.build project version labels = .ok model) :
    DeclaresAround model (outermostNames project) (classMembers labels) ∧
    ((outermostNames project).Nodup ↔ ∃ c ∈ project.toList, Naming.isAlphanumeric c = true) ∧
    (classMembers labels).Nodup := by
  obtain ⟨rfl, _, operations⟩ := ServerModel.build_eq_ok built
  have distinct : (labels.map Naming.handlerName).Nodup := by
    have handlers := model.distinct
    rw [operations, List.map_map] at handlers
    exact handlers
  exact ⟨declaresAround_render operations, outermostNames_nodup_iff model.project,
    classMembers_nodup distinct⟩

theorem declared_names_distinct_accented : ∃ model,
    ServerModel.build " é! " "1.0\n\x7d" ["run", "server"] = .ok model ∧
      DeclaresAround model (outermostNames " é! ") (classMembers ["run", "server"]) ∧
      (outermostNames " é! ").Nodup ∧ (classMembers ["run", "server"]).Nodup := by
  have succeeds : (ServerModel.build " é! " "1.0\n\x7d" ["run", "server"]).isOk = true := by
    decide
  cases built : ServerModel.build " é! " "1.0\n\x7d" ["run", "server"] with
  | error failure => simp [built, Except.isOk, Except.toBool] at succeeds
  | ok model =>
    obtain ⟨declares, distinct, apart⟩ := declared_names_distinct_iff built
    have letter : Naming.isAlphanumeric 'é' = true := by decide
    exact ⟨model, rfl, declares, distinct.mpr ⟨'é', by decide, letter⟩, apart⟩

/-- A project of separators alone gives its class the name of an import. -/
theorem declared_names_of_separators : ¬ ∀ project labels model,
    ServerModel.build project "1.0.0" labels = .ok model →
      (moduleNames (Text.lines (render model))).Nodup := by
  intro all
  have built : ServerModel.build "---" "1.0.0" [] = .ok ⟨"---", "1.0.0", [], List.nodup_nil⟩ := rfl
  have operations := (ServerModel.build_eq_ok built).2.2
  have distinct := all _ _ _ built
  rw [lines_render operations (by decide), moduleNames_readLines operations,
    outermostNames_nodup_iff] at distinct
  obtain ⟨c, member, known⟩ := distinct
  have dash : Naming.isAlphanumeric '-' = false := Naming.mark_not_alphanumeric (by decide)
  have only : c = '-' := by simpa using member
  simp [only, dash] at known

end ServerSource

end ServerForge
