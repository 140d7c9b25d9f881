import ServerForge.Proofs.ConstructorLine
import ServerForge.Proofs.ManifestReading

/-! The packages that a generated server imports from, and those that its manifest depends on. Main
statement: every import is covered exactly if the protocol's own SDK is among the dependencies,
either as the SDK package of the configuration or because it was asked for. -/
namespace ServerForge

namespace ServerSource

/-! ## Readers of imports -/

/-- The package of a module: the first part of its path, together with the second one if the first
is a scope. -/
def packageOf (path : String) : String :=
  let parts := Text.splitWhere (· == '/') path.toList
  let taken := if path.toList.head? = some '@' then 2 else 1
  String.ofList (['/'].intercalate (parts.take taken))

def importMarker : List Char := ['i', 'm', 'p', 'o', 'r', 't', ' ']

/-- The module of an import clause. -/
def moduleOf? (clause : List Char) : Option String :=
  Json.literal? (dropEnd ';' (clause.dropWhile (· != '"')))

/-- The module of each import, `none` where none can be read. -/
def importedModules (lines : List (List Char)) : List (Option String) :=
  (lines.filterMap (Text.after? importMarker)).map moduleOf?

/-! ## Lines that import nothing -/

/-- A line that the reader leaves. -/
def Inert (line : List Char) : Prop := Text.after? importMarker line = none

instance (line : List Char) : Decidable (Inert line) := inferInstanceAs (Decidable (_ = _))

theorem inert_append (lead : List Char) (apart : Text.clash importMarker lead = true)
    (rest : String) : Inert (String.ofList lead ++ rest).toList := by
  simpa [Inert] using Text.after?_eq_none apart rest.toList

theorem inert_spliced (lead : List Char) (apart : Text.clash importMarker lead = true)
    (inner trail : String) : Inert (String.ofList lead ++ inner ++ trail).toList := by
  rw [String.append_assoc]
  exact inert_append lead apart _

theorem constructorLine_inert (model : ServerModel) : Inert (constructorLine model).toList := by
  unfold constructorLine
  simp only [String.append_assoc]
  exact inert_append _ (by decide) _

/-- The lines between the imports and the advertised operations. -/
def openingRest (model : ServerModel) : List String := (opening model).drop 5

theorem opening_eq (model : ServerModel) :
    opening model = ["#!/usr/bin/env node", ""] ++ imports.map importLine ++ openingRest model :=
  rfl

theorem openingRest_inert (model : ServerModel) :
    ∀ line ∈ openingRest model, Inert line.toList := by
  have classLine : Inert ("class " ++ model.className ++ " \x7b").toList :=
    inert_spliced _ (by decide) _ _
  have arguments := constructorLine_inert model
  have fixed : ∀ line ∈ ["", "  private server: Server;",
      "  constructor() \x7b", "    this.server = new Server(",
      "      \x7b capabilities: \x7b tools: \x7b\x7d \x7d \x7d", "    );",
      "    this.setupHandlers();", "  \x7d", "  private setupHandlers() \x7b",
      "    this.server.setRequestHandler(ListToolsRequestSchema, async () => (\x7b"],
      Inert line.toList :=
    forall_ofList [_, _, _, _, _, _, _, _, _, _] (by decide)
  intro line member
  simp only [openingRest, opening, imports, List.map_cons, List.map_nil, List.cons_append,
    List.nil_append, List.drop_succ_cons, List.drop_zero, List.mem_cons, List.not_mem_nil,
    or_false] at member fixed
  grind

theorem toolsLines_inert (model : ServerModel) :
    ∀ line ∈ toolsLines model, Inert line.toList := by
  apply toolsLines_all
  · exact forall_ofList [_, _, _, _, _, _] (by decide)
  · exact fun operation => inert_spliced _ (by decide) _ _
  · apply detailLines_all
    · exact forall_ofList [_, _, _, _, _, _, _, _, _, _, _] (by decide)
    · exact fun text => inert_spliced _ (by decide) _ _
    · exact fun text => inert_append _ (by decide) _

theorem switchOpening_inert : ∀ line ∈ switchOpening, Inert line.toList :=
  forall_ofList [_, _, _, _, _, _] (by decide)

theorem caseLines_inert (operation : Operation) :
    ∀ line ∈ caseLines operation, Inert line.toList := by
  have label : Inert ("          case " ++ Json.quote operation.label ++ ":").toList :=
    inert_spliced _ (by decide) _ _
  have statement : Inert ("            return await this." ++ operation.handler ++
      "(args);").toList :=
    inert_spliced _ (by decide) _ _
  intro line member
  simp only [caseLines, List.mem_cons, List.not_mem_nil, or_false] at member
  grind

theorem switchClosing_inert : ∀ line ∈ switchClosing, Inert line.toList :=
  forall_ofList [_, _, _, _, _, _, _, _, _, _, _] (by decide)

theorem stubLines_inert (operation : Operation) :
    ∀ line ∈ stubLines operation, Inert line.toList := by
  have signature : Inert ("  private async " ++ operation.handler ++
      "(args: Record<string, unknown> | undefined) \x7b").toList :=
    inert_spliced _ (by decide) _ _
  have reply : Inert ("    return \x7b content: [\x7b type: \"text\", text: " ++
      Json.quote operation.label ++ " + \" received: \" + input \x7d] \x7d;").toList :=
    inert_spliced _ (by decide) _ _
  have fixed : ∀ line ∈ ["", "    const input = String(args?.input ?? \"\");", "  \x7d"],
      Inert line.toList :=
    forall_ofList [_, _, _] (by decide)
  intro line member
  simp only [stubLines, List.mem_cons, List.not_mem_nil, or_false] at member fixed
  grind

theorem closing_inert (model : ServerModel) : ∀ line ∈ closing model, Inert line.toList := by
  have running : Inert ("    console.error(" ++ Json.quote (runningMessage model) ++ ");").toList :=
    inert_spliced _ (by decide) _ _
  have made : Inert ("  const server = new " ++ model.className ++ "();").toList :=
    inert_spliced _ (by decide) _ _
  have fixed : ∀ line ∈ ["", "  async run() \x7b",
      "    const transport = new StdioServerTransport();",
      "    await this.server.connect(transport);", "  \x7d", "\x7d", "async function main() \x7b",
      "  await server.run();", "main().catch(console.error);"], Inert line.toList :=
    forall_ofList [_, _, _, _, _, _, _, _, _] (by decide)
  intro line member
  simp only [closing, List.mem_cons, List.not_mem_nil, or_false] at member fixed
  grind

theorem readLines_eq_imports (model : ServerModel) : ∃ rest, (∀ line ∈ rest, Inert line.toList) ∧
    readLines model = ["#!/usr/bin/env node", ""] ++ imports.map importLine ++ rest := by
  refine ⟨openingRest model ++ toolsLines model ++ switchOpening ++
    model.operations.flatMap caseLines ++ switchClosing ++ model.operations.flatMap stubLines ++
    closing model, ?_, by simp only [readLines, opening_eq, List.append_assoc]⟩
  intro line member
  simp only [List.mem_append, List.mem_flatMap] at member
  grind [openingRest_inert, toolsLines_inert, switchOpening_inert, caseLines_inert,
    switchClosing_inert, stubLines_inert, closing_inert]

/-! ## The imports of a source -/

theorem importedModules_append (before after : List (List Char)) :
    importedModules (before ++ after) = importedModules before ++ importedModules after := by
  simp [importedModules]

theorem importedModules_of_inert {lines : List String}
    (inert : ∀ line ∈ lines, Inert line.toList) :
    importedModules (lines.map String.toList) = [] := by
  rw [importedModules, List.filterMap_eq_nil_iff.mpr, List.map_nil]
  intro line member
  obtain ⟨text, inside, rfl⟩ := List.mem_map.mp member
  exact inert text inside

theorem importLine_quote : ∀ entry ∈ imports,
    '"' ∉ entry.1.toList ∧ entry.2.toList.flatMap Json.escapeChar = entry.2.toList := by
  simp [imports, Json.escapeChar]

theorem importLine_toList {entry : String × String} (member : entry ∈ imports) :
    (importLine entry).toList = importMarker ++ ((['\x7b', ' '] ++ entry.1.toList ++
      " \x7d from ".toList ++ (Json.quote entry.2).toList) ++ [';']) := by
  unfold importLine importMarker
  simp [Json.quote, Json.quoteChars, (importLine_quote entry member).2]

theorem importedModules_importLine {entry : String × String} (member : entry ∈ imports) :
    importedModules [(importLine entry).toList] = [some entry.2] := by
  have found : Text.after? importMarker (importLine entry).toList =
      some (['\x7b', ' '] ++ entry.1.toList ++ " \x7d from ".toList ++
        ((Json.quote entry.2).toList ++ [';'])) := by
    have begins : Text.trimStart importMarker = importMarker := by decide
    rw [importLine_toList member,
      Text.after?_eq_some begins (by decide) (show Unicode.isBlank ';' = false by decide)]
    simp only [List.append_assoc]
  have unquoted : '"' ∉ ['\x7b', ' '] ++ entry.1.toList ++ " \x7d from ".toList := by
    simp [(importLine_quote entry member).1]
  have quoted : ((Json.quote entry.2).toList ++ [';']).dropWhile (· != '"') =
      (Json.quote entry.2).toList ++ [';'] := by
    simp [Json.quote, Json.quoteChars]
  rw [importedModules, List.filterMap_cons_some found, List.filterMap_nil, List.map_cons,
    List.map_nil, moduleOf?, Text.dropWhile_append_of_not_mem unquoted, quoted,
    dropEnd_quote ';' _ (by decide), Json.literal?_quote]

theorem importedModules_imports {entries : List (String × String)} (subset : entries ⊆ imports) :
    importedModules ((entries.map importLine).map String.toList) =
      entries.map fun entry => some entry.2 := by
  induction entries with
  | nil => rfl
  | cons entry entries ih =>
    obtain ⟨member, subset⟩ := List.cons_subset.mp subset
    rw [List.map_cons, List.map_cons, List.map_cons, ← ih subset,
      ← List.singleton_append, importedModules_append, importedModules_importLine member]
    rfl

theorem importedModules_readLines (model : ServerModel) :
    importedModules ((readLines model).map String.toList) =
      imports.map fun entry => some entry.2 := by
  obtain ⟨rest, inert, split⟩ := readLines_eq_imports model
  have head : importedModules (["#!/usr/bin/env node", ""].map String.toList) = [] :=
    importedModules_of_inert (forall_ofList [_, _] (by decide))
  rw [split, List.map_append, List.map_append, importedModules_append, importedModules_append,
    head, importedModules_imports (List.Subset.refl _), importedModules_of_inert inert,
    List.nil_append, List.append_nil]

/-- The lines that a version adds if line feeds are in it. -/
def addedLines (version : String) : List (List Char) :=
  ((Text.rows (version.toList ++ '"' :: " \x7d,".toList)).drop 1).map Text.withoutReturn

theorem addedLines_of_unbroken {version : String} (unbroken : '\n' ∉ version.toList) :
    addedLines version = [] := by
  have fixed : '\n' ∉ '"' :: " \x7d,".toList := by
    simp only [String.reduceToList]
    decide
  rw [addedLines, Text.rows_of_unbroken]
  · rfl
  · exact fun member => (List.mem_append.mp member).elim unbroken fixed

theorem importedModules_constructorLine (model : ServerModel) :
    importedModules ((Text.rows (constructorLine model).toList).map Text.withoutReturn) =
      importedModules (addedLines model.version) := by
  have lead : '\n' ∉ "      \x7b name: ".toList ++
      ((Json.quote model.project).toList ++ ", version: ".toList) ++ ['"'] := by
    simp [quote_unbroken]
  obtain ⟨first, others, rows, longer⟩ :=
    Text.rows_append lead (model.version.toList ++ '"' :: " \x7d,".toList)
  have inert : Text.after? importMarker (Text.withoutReturn ("      \x7b name: ".toList ++
      ((Json.quote model.project).toList ++ (", version: ".toList ++ '"' :: first)))) = none := by
    rw [Text.withoutReturn_append _ (by simp)]
    exact Text.after?_eq_none (by decide) _
  rw [constructorLine_toList]
  simp only [List.append_assoc, List.cons_append, List.nil_append] at longer ⊢
  rw [longer, addedLines, rows, List.map_cons, importedModules, List.filterMap_cons_none inert]
  rfl

/-- Line feeds in the version may add imports, but they hide none. -/
theorem mem_importedModules_render {model : ServerModel} {labels : List String}
    (operations : model.operations = labels.map Operation.of) {path : Option String} :
    path ∈ importedModules (Text.lines (render model)) ↔
      path ∈ imports.map (fun entry => some entry.2) ∨
        path ∈ importedModules (addedLines model.version) := by
  obtain ⟨before, after, split, around⟩ := lines_render_around operations
  have inert : importedModules [(constructorLine model).toList] = [] :=
    @importedModules_of_inert [constructorLine model]
      (List.forall_mem_singleton.mpr (constructorLine_inert model))
  have read := importedModules_readLines model
  rw [split, List.map_append, List.map_cons, ← List.singleton_append, importedModules_append,
    importedModules_append, inert, List.nil_append] at read
  rw [around, importedModules_append, importedModules_append, importedModules_constructorLine,
    ← read, List.mem_append, List.mem_append, List.mem_append, or_right_comm]

/-- The SDK that the modules of the imports belong to. -/
def protocolPackage : String := "@modelcontextprotocol/sdk"

theorem packageOf_imports : ∀ entry ∈ imports, packageOf entry.2 = protocolPackage := by
  simp [imports, packageOf, Text.splitWhere, protocolPackage]

end ServerSource

/-! ## Imports and dependencies -/

/-- Every import of the source is from a package that the manifest depends on. -/
def Bundle.Covered (bundle : Bundle) : Prop :=
  ∃ packages, Manifest.dependencyKeys? bundle.manifest = some packages ∧
    ∀ path ∈ ServerSource.importedModules (Text.lines bundle.serverSource),
      ∃ module, path = some module ∧ ServerSource.packageOf module ∈ packages

namespace Synthesis

/-- The packages that a generation is to depend on. -/
def Installs (config : Config) (requirements : Requirements) (package : String) : Prop :=
  package = config.sdkPackage ∨ package ∈ requirements.dependencyList

theorem installs_imports_iff (config : Config) (requirements : Requirements) :
    (∀ path ∈ imports.map fun entry => some entry.2, ∃ module, path = some module ∧
      Installs config requirements (ServerSource.packageOf module)) ↔
        Installs config requirements ServerSource.protocolPackage := by
  simp only [List.forall_mem_map, Option.some.injEq, exists_eq_left']
  constructor
  · intro all
    have first := all ("Server", "@modelcontextprotocol/sdk/server/index.js") (by simp [imports])
    rwa [ServerSource.packageOf_imports _ (by simp [imports])] at first
  · intro installed entry member
    rwa [ServerSource.packageOf_imports entry member]

theorem covered_iff_installs {config : Config} {project categoryKey : String}
    {requirements : Requirements} {synthesis : Synthesis}
    (made : run config project categoryKey requirements = .ok synthesis) :
    synthesis.bundle.Covered ↔
      (∀ path ∈ imports.map fun entry => some entry.2, ∃ module, path = some module ∧
        Installs config requirements (ServerSource.packageOf module)) ∧
      ∀ path ∈ ServerSource.importedModules (ServerSource.addedLines config.serverVersion),
        ∃ module, path = some module ∧
          Installs config requirements (ServerSource.packageOf module) := by
  obtain ⟨category, model, _, built, rfl⟩ := run_eq_ok made
  obtain ⟨_, version, operations⟩ := ServerModel.build_eq_ok built
  obtain ⟨packages, keys, names⟩ := Manifest.dependencyKeys?_render project requirements config
  have read := @ServerSource.mem_importedModules_render model _ operations
  rw [version] at read
  simp only [Bundle.Covered, keys, Option.some.injEq, exists_eq_left', read, or_imp, forall_and,
    names, Installs]

/-- The imports are always from one package, whatever the configured one is, and from those that
a version with line feeds in it may add. -/
theorem bundle_covered_iff {config : Config} {project categoryKey : String}
    {requirements : Requirements} {synthesis : Synthesis}
    (made : run config project categoryKey requirements = .ok synthesis) :
    synthesis.bundle.Covered ↔ Installs config requirements ServerSource.protocolPackage ∧
      ∀ path ∈ ServerSource.importedModules (ServerSource.addedLines config.serverVersion),
        ∃ module, path = some module ∧
          Installs config requirements (ServerSource.packageOf module) := by
  rw [covered_iff_installs made, installs_imports_iff]

/-- The defaults, but for another SDK package. -/
def otherPackage : Config := { Config.default with sdkPackage := "@acme/sdk" }

/-- A request for the package that the imports are from, after another one. -/
def asksForProtocol : Requirements :=
  { Requirements.empty with dependencies := some ["zod", "@modelcontextprotocol/sdk"] }

theorem bundle_covered_requested : ∃ synthesis,
    run otherPackage "demo" "custom" asksForProtocol = .ok synthesis ∧
      synthesis.bundle.Covered := by
  have succeeds : (run otherPackage "demo" "custom" asksForProtocol).isOk = true := by
    decide
  have unbroken : '\n' ∉ otherPackage.serverVersion.toList := by decide
  cases made : run otherPackage "demo" "custom" asksForProtocol with
  | error failure => simp [made, Except.isOk, Except.toBool] at succeeds
  | ok synthesis =>
    refine ⟨synthesis, rfl, (bundle_covered_iff made).mpr ⟨.inr (by decide), ?_⟩⟩
    rw [ServerSource.addedLines_of_unbroken unbroken]
    simp [ServerSource.importedModules]

/-- Without such a request, nothing installs what another configuration imports. -/
theorem bundle_not_covered : ¬ ∀ config project categoryKey requirements synthesis,
    run config project categoryKey requirements = .ok synthesis → synthesis.bundle.Covered := by
  intro all
  have succeeds : (run otherPackage "demo" "custom" .empty).isOk = true := by decide
  cases made : run otherPackage "demo" "custom" .empty with
  | error failure => simp [made, Except.isOk, Except.toBool] at succeeds
  | ok synthesis =>
    have installs := (covered_iff_installs made).mp (all _ _ _ _ _ made)
    rcases (installs_imports_iff _ _).mp installs.1 with configured | requested
    · exact absurd configured (by decide)
    · exact absurd requested (by decide)

end Synthesis

end ServerForge
