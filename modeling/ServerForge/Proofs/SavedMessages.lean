import ServerForge.Messages
import ServerForge.Proofs.ReadmeSections
import ServerForge.Proofs.Regeneration
import ServerForge.Proofs.RelativePaths

/-! What a user is told of a project that was saved. Main statement: wherever the project went, the
message lists its files by their paths below its directory, and shows the entry for a client as
JSON that is read as it was meant. -/
namespace ServerForge

namespace Text

/-! ## Rows below a heading -/

/-- The rows that follow a heading, up to the next empty one. -/
def rowsBelow (heading text : String) : List String :=
  ((((rows text.toList).dropWhile (· != heading.toList)).drop 1).takeWhile (· != [])).map
    String.ofList

theorem rows_append_line (before after : String) :
    rows (before ++ "\n" ++ after).toList = rows before.toList ++ rows after.toList := by
  have feed : "\n".toList = ['\n'] := rfl
  rw [String.toList_append, String.toList_append, feed, List.append_assoc, List.singleton_append,
    rows_append_feed]

/-- The rows of texts that follow each other with a line feed between them. -/
theorem rows_intercalate {texts : List String} (nonempty : texts ≠ []) :
    rows ("\n".intercalate texts).toList = texts.flatMap fun text => rows text.toList := by
  induction texts with
  | nil => exact absurd rfl nonempty
  | cons text texts ih =>
    cases texts with
    | nil => simp
    | cons second rest =>
      rw [String.intercalate_cons_cons, List.flatMap_cons, ← ih (List.cons_ne_nil _ _),
        rows_append_line]

theorem flatMap_rows_of_unbroken {lines : List String}
    (unbroken : ∀ line ∈ lines, '\n' ∉ line.toList) :
    (lines.flatMap fun line => rows line.toList) = lines.map String.toList := by
  induction lines with
  | nil => rfl
  | cons line lines ih =>
    rw [List.flatMap_cons, rows_of_unbroken (unbroken line (by simp)), List.map_cons,
      List.singleton_append, ih fun other member => unbroken other (by simp [member])]

/-- The rows of a text behind the start of a row, if the start breaks none. -/
theorem forall_rows_append {start : String} (unbroken : '\n' ∉ start.toList) {text : String}
    {p : List Char → Prop} (first : ∀ row, p (start.toList ++ row))
    (others : ∀ row ∈ (rows text.toList).tail, p row) :
    ∀ row ∈ rows (start ++ text).toList, p row := by
  obtain ⟨row, rest, split, longer⟩ := rows_append unbroken text.toList
  rw [split] at others
  rw [String.toList_append, longer]
  exact List.forall_mem_cons.mpr ⟨first row, others⟩

/-- Below a heading that comes nowhere before stand the lines that were put there. -/
theorem rowsBelow_intercalate {before lines after : List String} {heading : String}
    (silent : ∀ text ∈ before, ∀ row ∈ rows text.toList, row ≠ heading.toList)
    (head : '\n' ∉ heading.toList) (unbroken : ∀ line ∈ lines, '\n' ∉ line.toList ∧ line ≠ "")
    (rest : String) :
    rowsBelow heading ("\n".intercalate (before ++ heading :: lines ++ "" :: after) ++ "\n" ++
      rest) = lines := by
  have split : rows ("\n".intercalate (before ++ heading :: lines ++ "" :: after) ++ "\n" ++
      rest).toList = (before.flatMap fun text => rows text.toList) ++ heading.toList ::
        (lines.map String.toList ++
          [] :: ((after.flatMap fun text => rows text.toList) ++ rows rest.toList)) := by
    rw [rows_append_line, rows_intercalate (by simp), List.flatMap_append, List.flatMap_append,
      List.flatMap_cons, List.flatMap_cons, rows_of_unbroken head,
      flatMap_rows_of_unbroken fun line member => (unbroken line member).1]
    simp [rows, splitWhere]
  rw [rowsBelow, split, List.dropWhile_append_of_pos fun row member => ?silent,
    List.dropWhile_cons_of_neg (by simp), List.drop_succ_cons, List.drop_zero,
    List.takeWhile_append_of_pos fun row member => ?visible, List.takeWhile_cons_of_neg (by simp),
    List.append_nil, List.map_map]
  · simp [Function.comp_def]
  case silent =>
    obtain ⟨text, listed, inside⟩ := List.mem_flatMap.mp member
    simpa using silent text listed row inside
  case visible =>
    obtain ⟨line, listed, rfl⟩ := List.mem_map.mp member
    simpa using (unbroken line listed).2

end Text

namespace Messages

/-! ## The layout of the message -/

def filesHeading : String := "**Files Created:**"

/-- The files of every project, as they are seen from its directory. -/
def projectFiles : List String :=
  ["package.json", "src/index.ts", "README.md", "tsconfig.json", ".gitignore"]

def linesBeforeFiles (location : String) : List String :=
  ["💾 MCP Server Saved Successfully!", "", "**Location:** " ++ location, ""]

def linesAfterFiles (location : String) : List String :=
  ["", "**Setup Instructions:**", "```bash", "cd " ++ location, "npm install", "npm run build",
    "npm start", "```", "", "**Add to Claude Desktop:**",
    "Add this to your Claude Desktop MCP configuration:"]

/-- The message up to the entry for a client, with a line for each of the files. -/
def savedLead (location : String) (files : List String) : String :=
  "\n".intercalate (linesBeforeFiles location ++ filesHeading :: files.map ("- ✅ " ++ ·) ++
    linesAfterFiles location)

/-- A directory whose path breaks no row that then looks like one of the message's own. -/
def Unmistakable (location : String) : Prop :=
  ∀ row ∈ (Text.rows location.toList).tail,
    row ≠ filesHeading.toList ∧ Text.opensJson row = false

theorem unmistakable_of_unbroken {location : String} (unbroken : '\n' ∉ location.toList) :
    Unmistakable location := by
  rw [Unmistakable, Text.rows_of_unbroken unbroken]
  simp

/-- The program to start stands in the directory where the project is built. -/
theorem entryPoint_eq (root : Path) : entryPoint root = root.join ⟨"build/index.js"⟩ := by
  have build : (Path.mk "build").isAbsolute = false := by decide
  have index : (Path.mk "index.js").isAbsolute = false := by decide
  have whole : (Path.mk "build/index.js").isAbsolute = false := by decide
  have chars := Path.toList_join root build
  rw [Path.body_of_relative build] at chars
  have slash : (root.join ⟨"build"⟩).separator = ['/'] := by
    have last : (root.join ⟨"build"⟩).text.toList.getLast? = some 'd' := by
      rw [chars, show (Path.mk "build").text.toList = ['b', 'u', 'i', 'l', 'd'] from by decide]
      simp
    have nonempty : (root.join ⟨"build"⟩).text ≠ "" := fun empty => by
      rw [empty] at last
      cases last
    simp [Path.separator, nonempty, last]
  have same : (entryPoint root).text = (root.join ⟨"build/index.js"⟩).text := by
    apply String.toList_inj.mp
    rw [entryPoint, Path.toList_join _ index, chars, slash, Path.toList_join root whole,
      Path.body_of_relative index, Path.body_of_relative whole]
    simp only [List.append_assoc]
    rfl
  exact congrArg Path.mk same

/-- From the directory of a project each of its files is seen by its path in the project. -/
theorem files_seen (bundle : Bundle) (root : Path) :
    ((bundle.artifacts.map fun artifact => root.join artifact.1).map fun file =>
      ((file.relativeTo? root).getD file).text) = projectFiles := by
  have names : ∀ artifact ∈ bundle.artifacts, ∀ piece ∈ artifact.1.pieces,
      Path.EntryName piece := by
    intro artifact member
    have listed : ∀ file ∈ bundle.files, ∀ piece ∈ file.1, Path.EntryName piece := by
      simp only [Bundle.files, List.forall_mem_cons]
      decide
    exact listed _ (Bundle.mem_files member)
  have seen : ∀ artifact ∈ bundle.artifacts,
      (((root.join artifact.1).relativeTo? root).getD (root.join artifact.1)).text =
        artifact.1.text := by
    intro artifact member
    rw [Path.relativeTo?_join root (bundle.relative_artifacts artifact member)
      (names artifact member), Option.getD_some]
  rw [List.map_map]
  exact (List.map_congr_left seen).trans rfl

theorem saved_eq (bundle : Bundle) (project : String) (root : Path) :
    saved project ⟨root, bundle.artifacts.map fun artifact => root.join artifact.1⟩ =
      savedLead root.text projectFiles ++ "\n```json\n" ++
        (Readme.clientEntry project (root.join ⟨"build/index.js"⟩).text).pretty ++ "\n```\n" ++
        "\nYour MCP server is ready to use! 🎉" := by
  have listed : (bundle.artifacts.map fun artifact => root.join artifact.1).map (savedFile root) =
      projectFiles.map ("- ✅ " ++ ·) := by
    rw [← files_seen bundle root, List.map_map]
    rfl
  -- both sides are cut at their line feeds, after which they are the same
  unfold saved savedLead joined linesBeforeFiles linesAfterFiles filesHeading projectFiles at *
  rw [listed, entryPoint_eq]
  simp only [List.map_cons, List.map_nil, List.cons_append, List.nil_append,
    String.intercalate_cons_cons, String.intercalate_singleton, ← String.append_assoc]
  simp [String.append_assoc]

/-! ## What is read in it -/

section

variable {location : String} (plain : Unmistakable location)
include plain

theorem linesBeforeFiles_silent : ∀ text ∈ linesBeforeFiles location,
    ∀ row ∈ Text.rows text.toList, row ≠ filesHeading.toList ∧ Text.opensJson row = false := by
  have located : ∀ row ∈ Text.rows ("**Location:** " ++ location).toList,
      row ≠ filesHeading.toList ∧ Text.opensJson row = false := by
    refine Text.forall_rows_append (by decide) (fun row => ⟨?_, ?_⟩) plain
    · simp [filesHeading]
    · simp [Text.opensJson]
  simp only [linesBeforeFiles, List.forall_mem_cons]
  exact ⟨by decide, by decide, located, by decide, by simp⟩

theorem linesAfterFiles_silent : ∀ text ∈ linesAfterFiles location,
    ∀ row ∈ Text.rows text.toList, Text.opensJson row = false := by
  have entered : ∀ row ∈ Text.rows ("cd " ++ location).toList, Text.opensJson row = false := by
    refine Text.forall_rows_append (by decide) (fun row => ?_) fun row member =>
      (plain row member).2
    simp [Text.opensJson]
  simp only [linesAfterFiles, List.forall_mem_cons]
  exact ⟨by decide, by decide, by decide, entered, by decide, by decide, by decide, by decide,
    by decide, by decide, by decide, by simp⟩

theorem savedLead_silent : ∀ row ∈ Text.rows (savedLead location projectFiles).toList,
    Text.opensJson row = false := by
  rw [savedLead, Text.rows_intercalate (by simp [linesBeforeFiles])]
  intro row member
  obtain ⟨text, listed, inside⟩ := List.mem_flatMap.mp member
  rcases List.mem_append.mp listed with before | after
  · rcases List.mem_append.mp before with first | file
    · exact (linesBeforeFiles_silent plain text first row inside).2
    · have files : ∀ text ∈ filesHeading :: projectFiles.map ("- ✅ " ++ ·),
          ∀ row ∈ Text.rows text.toList, Text.opensJson row = false := by decide
      exact files text file row inside
  · exact linesAfterFiles_silent plain text after row inside

theorem rowsBelow_savedLead (rest : String) :
    Text.rowsBelow filesHeading (savedLead location projectFiles ++ "\n" ++ rest) =
      projectFiles.map ("- ✅ " ++ ·) :=
  Text.rowsBelow_intercalate
    (fun text listed row inside => (linesBeforeFiles_silent plain text listed row inside).1)
    (by decide) (by decide) rest

end

/-- The entry with which a client starts the server of a project that was saved. -/
def savedEntry (project : String) (root : Path) : Json :=
  .obj [(project, .object [("command", .str "node"),
    ("args", Json.texts [(root.join ⟨"build/index.js"⟩).text])])]

/-- The message on a project lists its five files, as they are seen from its directory, and shows
the entry that starts it. Both are found in the message, unless the path of the directory breaks a
row that looks like one of the message's own. -/
theorem saved_lists_files_and_entry {bundle : Bundle} {output : Path} {project : String}
    {tree after : Files.Tree} {written : SavedProject}
    (success : (Save.run bundle output project : StateM Files.Tree _).run tree =
      (.ok written, after)) :
    written.root = output.join ⟨project⟩ ∧ ∃ json,
      saved project written = savedLead written.root.text projectFiles ++ "\n```json\n" ++ json ++
        "\n```\n" ++ "\nYour MCP server is ready to use! 🎉" ∧
      (∀ row ∈ Text.rows json.toList, ¬ ['`', '`', '`'] <+: Text.trimStart row) ∧
      Json.parse json = .ok (savedEntry project written.root) ∧
      (Unmistakable written.root.text →
        Text.rowsBelow filesHeading (saved project written) = projectFiles.map ("- ✅ " ++ ·) ∧
        Text.jsonTexts (saved project written) = [json]) := by
  obtain ⟨-, -, -, -, same, -⟩ := Save.run_eq_ok_iff.mp success
  subst same
  have shape := saved_eq bundle project (output.join ⟨project⟩)
  have fenceable := Readme.pretty_fenceable
    (Readme.clientEntry project ((output.join ⟨project⟩).join ⟨"build/index.js"⟩).text)
  refine ⟨rfl, _, shape, ?_, Readme.parse_clientEntry _ _, fun plain => ⟨?_, ?_⟩⟩
  · intro row member starts
    have closes : Text.closesFence row = true := List.isPrefixOf_iff_prefix.mpr starts
    rw [(fenceable row member).closesFence_eq_false] at closes
    cases closes
  · have opening : "\n```json\n" = "\n" ++ "```json\n" := by decide
    have below := rowsBelow_savedLead plain ("```json\n" ++
      (Readme.clientEntry project ((output.join ⟨project⟩).join ⟨"build/index.js"⟩).text).pretty ++
      "\n```\n" ++ "\nYour MCP server is ready to use! 🎉")
    rw [shape, opening]
    simpa only [String.append_assoc] using below
  · rw [shape]
    exact (Text.showsJson fenceable (savedLead_silent plain) (by decide)).only

/-- A name with a line feed and a quotation mark in it, saved below a path that is not normal. -/
theorem broken_name_is_listed :
    let outcome := (Save.run Save.plainBundle ⟨"./out/../out//"⟩ "a\n\"b" :
      StateM Files.Tree _).run Save.sparseTree
    ∃ written json, outcome.1 = .ok written ∧ written.root = ⟨"./out/../out//a\n\"b"⟩ ∧
      Text.rowsBelow filesHeading (saved "a\n\"b" written) =
        ["- ✅ package.json", "- ✅ src/index.ts", "- ✅ README.md", "- ✅ tsconfig.json",
          "- ✅ .gitignore"] ∧
      Text.jsonTexts (saved "a\n\"b" written) = [json] ∧
      Json.parse json = .ok (.obj [("a\n\"b", .object [("command", .str "node"),
        ("args", Json.texts ["./out/../out//a\n\"b/build/index.js"])])]) := by
  intro outcome
  have succeeds : outcome.1.isOk = true := by decide +kernel
  have told (written : SavedProject) (success : outcome = (.ok written, outcome.2)) :=
    saved_lists_files_and_entry success
  -- what is left of the tree is of no interest, so the outcome is never computed again
  clear_value outcome
  obtain ⟨result, after⟩ := outcome
  cases result with
  | error failure => cases succeeds
  | ok written =>
    obtain ⟨root, json, -, -, parsed, found⟩ := told written rfl
    have joined : (Path.mk "./out/../out//").join ⟨"a\n\"b"⟩ = ⟨"./out/../out//a\n\"b"⟩ := by decide
    rw [joined] at root
    have plain : Unmistakable written.root.text := by
      rw [root]
      unfold Unmistakable
      decide
    have entry : (written.root.join ⟨"build/index.js"⟩).text =
        "./out/../out//a\n\"b/build/index.js" := by
      rw [root]
      decide
    rw [savedEntry, entry] at parsed
    obtain ⟨files, block⟩ := found plain
    exact ⟨written, json, rfl, root, files.trans (by decide), block, parsed⟩

end Messages

end ServerForge
