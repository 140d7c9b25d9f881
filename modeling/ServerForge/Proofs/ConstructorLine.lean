import ServerForge.Proofs.Generation
import ServerForge.Proofs.ScriptStrings
import ServerForge.Proofs.SourceReadback

/-! The line of a generated source that passes the name and the version of the project on. Main
statement: the name is a literal of the project's name, whatever that is; the version is a literal
of the configured version exactly if that needs no escape. -/
namespace ServerForge.ServerSource

/-! ## The fields of the line -/

def callLine : String := "    this.server = new Server("

/-- What stands on the row after the call of the constructor. -/
def argumentRow (source : String) : List Char :=
  (((Text.rows source.toList).dropWhile (· != callLine.toList)).drop 1).headD []

/-- The value of the field for the name, and what follows it. -/
def nameField? (row : List Char) : Option (List Nat × List Char) := do
  Script.readLiteral (← "      \x7b name: ".toList.isPrefixOf? row)

/-- The values of the two fields, if the row holds two literals as fields and nothing else. -/
def fields? (row : List Char) : Option (List Nat × List Nat) := do
  let (name, rest) ← nameField? row
  let (version, last) ← Script.readLiteral (← ", version: ".toList.isPrefixOf? rest)
  if last = " \x7d,".toList then some (name, version) else none

@[simp] theorem nil_isPrefixOf? (line : List Char) : [].isPrefixOf? line = some line := rfl

@[simp] theorem cons_isPrefixOf?_nil (c : Char) (before : List Char) :
    (c :: before).isPrefixOf? [] = none := rfl

@[simp] theorem cons_isPrefixOf?_cons (c d : Char) (before line : List Char) :
    (c :: before).isPrefixOf? (d :: line) =
      if c == d then before.isPrefixOf? line else none := rfl

theorem isPrefixOf?_append (before after : List Char) :
    before.isPrefixOf? (before ++ after) = some after := by
  induction before with
  | nil => rfl
  | cons c before ih => simp [ih]

/-- The lines up to the call of the constructor. -/
def beforeCall (model : ServerModel) : List String :=
  ["#!/usr/bin/env node", ""] ++ imports.map importLine ++
    ["", "class " ++ model.className ++ " \x7b", "  private server: Server;", "",
      "  constructor() \x7b"]

/-- A line that does not reach the depth of the statements. -/
def Shallow (line : List Char) : Prop := '\n' ∉ line ∧ (line.drop 2).head? ≠ some ' '

instance (line : List Char) : Decidable (Shallow line) := inferInstanceAs (Decidable (_ ∧ _))

theorem Shallow.ne_callLine {line : String} (shallow : Shallow line.toList) : line ≠ callLine := by
  rintro rfl
  exact shallow.2 (by simp [callLine])

theorem importLine_shallow : ∀ entry ∈ imports, Shallow (importLine entry).toList := by
  intro entry member
  refine ⟨(importLine_plain entry member).whole.1, ?_⟩
  unfold importLine
  simp [String.toList_append]

theorem beforeCall_shallow (model : ServerModel) :
    ∀ line ∈ beforeCall model, Shallow line.toList := by
  have fixed : ∀ line ∈ ["#!/usr/bin/env node", "", "  private server: Server;",
      "  constructor() \x7b"], Shallow line.toList :=
    forall_ofList [_, _, _, _] (by decide)
  have classLine : Shallow ("class " ++ model.className ++ " \x7b").toList := by
    simp [Shallow, className_unbroken]
  intro line member
  simp only [beforeCall, List.mem_append, List.mem_cons, List.not_mem_nil, or_false,
    List.mem_map] at member fixed
  grind [importLine_shallow]

/-- The version stands on this line only. -/
theorem readLines_eq (model : ServerModel) : ∃ after, ∀ version,
    readLines { model with version } =
      beforeCall model ++ callLine :: constructorLine { model with version } :: after := by
  have opened : ∀ version, opening { model with version } = beforeCall model ++
      callLine :: constructorLine { model with version } :: (opening model).drop 12 :=
    fun _ => rfl
  refine ⟨(opening model).drop 12 ++ toolsLines model ++ switchOpening ++
    model.operations.flatMap caseLines ++ switchClosing ++ model.operations.flatMap stubLines ++
    closing model, fun version => ?_⟩
  rw [readLines, opened]
  simp only [List.append_assoc, List.cons_append]
  rfl

/-- Whatever is in the version, the lines around it are read as they were written. -/
theorem lines_render_around {model : ServerModel} {labels : List String}
    (operations : model.operations = labels.map Operation.of) : ∃ before after,
    readLines model = before ++ constructorLine model :: after ∧
      Text.lines (render model) = before.map String.toList ++
        (Text.rows (constructorLine model).toList).map Text.withoutReturn ++
          after.map String.toList := by
  obtain ⟨after, split⟩ := readLines_eq model
  have own : readLines model = _ := split model.version
  -- Without a version no line holds a feed, and the others are the same.
  have whole := @readLines_whole { model with version := "" } labels operations (by simp)
  rw [split] at whole
  refine ⟨beforeCall model ++ [callLine], after, by rw [own]; simp, ?_⟩
  apply Text.lines_around
  · rw [render_toList, own]
    simp
  · intro line member
    simp only [← List.map_append, List.mem_map] at member
    obtain ⟨text, inside, rfl⟩ := member
    apply whole text
    simp only [List.mem_append, List.mem_cons, List.not_mem_nil, or_false] at inside ⊢
    grind

theorem constructorLine_toList (model : ServerModel) : (constructorLine model).toList =
    ("      \x7b name: ".toList ++ ((Json.quote model.project).toList ++ ", version: ".toList)) ++
      '"' :: (model.version.toList ++ '"' :: " \x7d,".toList) := by
  have opened : ", version: \"".toList = ", version: ".toList ++ ['"'] := by
    simp only [String.reduceToList, List.cons_append, List.nil_append]
  have closed : "\" \x7d,".toList = '"' :: " \x7d,".toList := by simp only [String.reduceToList]
  unfold constructorLine
  simp only [String.toList_append, List.append_assoc, opened, closed, List.cons_append,
    List.nil_append]

theorem rows_render (model : ServerModel) : ∃ after,
    Text.rows (render model).toList = (beforeCall model).map String.toList ++
      callLine.toList :: (Text.rows (constructorLine model).toList ++ after) := by
  obtain ⟨after, split⟩ := readLines_eq model
  have unbroken : ∀ line ∈ (beforeCall model ++ [callLine]).map String.toList, '\n' ∉ line := by
    intro line member
    obtain ⟨text, inside, rfl⟩ := List.mem_map.mp member
    rcases List.mem_append.mp inside with before | call
    · exact (beforeCall_shallow model text before).1
    · rw [List.mem_singleton.mp call]
      decide
  have pieces := Text.rows_flatMap_feed_append _ unbroken
    ((constructorLine model).toList ++ '\n' :: (after.map String.toList).flatMap (· ++ ['\n']))
  rw [Text.rows_append_feed] at pieces
  refine ⟨Text.rows ((after.map String.toList).flatMap (· ++ ['\n'])), ?_⟩
  rw [render_toList, show readLines model = _ from split model.version]
  simpa using pieces

/-- The version ends the row early if a line feed is in it. -/
def versionPart (version : String) : List Char :=
  (version.toList ++ '"' :: " \x7d,".toList).takeWhile (· != '\n')

theorem argumentRow_render (model : ServerModel) : argumentRow (render model) =
    "      \x7b name: ".toList ++ ((Json.quote model.project).toList ++
      (", version: ".toList ++ '"' :: versionPart model.version)) := by
  obtain ⟨after, rows⟩ := rows_render model
  obtain ⟨others, first⟩ := Text.rows_eq_cons (constructorLine model).toList
  have skipped : callLine.toList ∉ (beforeCall model).map String.toList := by
    intro member
    obtain ⟨text, inside, same⟩ := List.mem_map.mp member
    exact (beforeCall_shallow model text inside).ne_callLine (String.toList_inj.mp same)
  have lead : '\n' ∉ "      \x7b name: ".toList ++ ((Json.quote model.project).toList ++
      ", version: ".toList) := by
    simp [quote_unbroken]
  rw [argumentRow, rows, Text.dropWhile_append_of_not_mem skipped, first, constructorLine_toList,
    Text.takeWhile_append_of_not_mem lead, versionPart]
  simp only [List.dropWhile_cons, bne_self_eq_false, Bool.false_eq_true, if_false,
    List.drop_succ_cons, List.drop_zero, List.cons_append, List.headD_cons, List.append_assoc,
    List.takeWhile_cons, show ('"' != '\n') = true from rfl, if_true]

/-! ## Literals of the name and the version -/

theorem nameField?_render (model : ServerModel) : nameField? (argumentRow (render model)) =
    some (Script.units model.project.toList,
      ", version: ".toList ++ '"' :: versionPart model.version) := by
  simp only [argumentRow_render, nameField?, isPrefixOf?_append, bind, Option.bind_some,
    Script.readLiteral_quote]

theorem fields?_render (model : ServerModel) (value : List Nat) :
    fields? (argumentRow (render model)) = some (Script.units model.project.toList, value) ↔
      Script.readUnits 0 (versionPart model.version) = some (value, " \x7d,".toList) := by
  have read : fields? (argumentRow (render model)) =
      (Script.readUnits 0 (versionPart model.version)).bind fun version =>
        if version.2 = " \x7d,".toList then
          some (Script.units model.project.toList, version.1) else none := by
    rw [fields?, nameField?_render]
    simp only [bind, Option.bind_some, isPrefixOf?_append, Script.readLiteral]
  rw [read, Option.bind_eq_some_iff]
  constructor
  · rintro ⟨⟨version, last⟩, found, chosen⟩
    split at chosen
    next closed =>
      cases chosen
      rw [found, ← closed]
    next => cases chosen
  · intro found
    exact ⟨_, found, if_pos rfl⟩

theorem versionPart_of_unbroken {version : String} (unbroken : '\n' ∉ version.toList) :
    versionPart version = version.toList ++ '"' :: " \x7d,".toList := by
  rw [versionPart, Text.takeWhile_append_of_not_mem unbroken]
  simp only [String.reduceToList]
  rfl

/-- A row that ends early has too few units left for the version. -/
theorem versionPart_of_readUnits {version : String}
    (read : Script.readUnits 0 (versionPart version) =
      some (Script.units version.toList, " \x7d,".toList)) :
    versionPart version = version.toList ++ '"' :: " \x7d,".toList := by
  have bound := Script.readUnits_length read
  obtain ⟨lost, whole⟩ : versionPart version <+: version.toList ++ '"' :: " \x7d,".toList :=
    List.takeWhile_prefix _
  have total := congrArg (fun cs => (Script.units cs).length) whole
  have left := Script.length_le_units lost
  have quote : (Script.pointUnits '"'.toNat).length = 1 := rfl
  simp only [Script.units_append, Script.units_cons, List.length_append, quote,
    List.drop_zero] at total bound
  have none : lost = [] := List.eq_nil_of_length_eq_zero (by omega)
  rw [← whole, none, List.append_nil]

/-- The version is read as it is exactly if nothing in it needs an escape. -/
theorem readUnits_versionPart (version : String) :
    Script.readUnits 0 (versionPart version) =
        some (Script.units version.toList, " \x7d,".toList) ↔
      ∀ c ∈ version.toList, Script.isRaw c = true := by
  constructor
  · intro read
    have whole := versionPart_of_readUnits read
    rw [whole] at read
    obtain ⟨body, split, raw⟩ := Script.raw_of_readUnits read (by
      simp only [Script.units_append, Script.units_cons, List.length_append]
      have quote : (Script.pointUnits '"'.toNat).length = 1 := rfl
      omega)
    rw [List.append_cancel_right split]
    exact raw
  · intro raw
    have unbroken : '\n' ∉ version.toList := fun member => absurd (raw _ member) (by decide)
    rw [versionPart_of_unbroken unbroken, Script.readUnits_of_raw raw]

/-- The project can be called anything, but the configured version has to be free of quotes,
backslashes and ends of lines. -/
theorem constructor_literals_iff {project version : String} {labels : List String}
    {model : ServerModel} (built : ServerModel.build project version labels = .ok model) :
    (∃ rest, nameField? (argumentRow (render model)) =
      some (Script.units project.toList, rest)) ∧
    (fields? (argumentRow (render model)) =
        some (Script.units project.toList, Script.units version.toList) ↔
      ∀ c ∈ version.toList, Script.isRaw c = true) := by
  obtain ⟨rfl, rfl, _⟩ := ServerModel.build_eq_ok built
  exact ⟨⟨_, nameField?_render model⟩,
    (fields?_render model _).trans (readUnits_versionPart model.version)⟩

/-- A project name with quotes, a brace and a line feed, and a version with the other quotes. -/
theorem constructor_literals_tricky : ∃ model,
    ServerModel.build "\" \x7d,\n" "2.0-rc'1`" ["run"] = .ok model ∧
      fields? (argumentRow (render model)) =
        some (Script.units "\" \x7d,\n".toList, Script.units "2.0-rc'1`".toList) := by
  have succeeds : (ServerModel.build "\" \x7d,\n" "2.0-rc'1`" ["run"]).isOk = true := by
    decide
  have raw : ∀ c ∈ "2.0-rc'1`".toList, Script.isRaw c = true := by simp [Script.isRaw]
  cases built : ServerModel.build "\" \x7d,\n" "2.0-rc'1`" ["run"] with
  | error failure => simp [built, Except.isOk, Except.toBool] at succeeds
  | ok model => exact ⟨model, rfl, (constructor_literals_iff built).2.mpr raw⟩

/-- A quote in the version ends the literal early. -/
theorem constructor_literals_quoted : ¬ ∀ project version labels model,
    ServerModel.build project version labels = .ok model →
      fields? (argumentRow (render model)) =
        some (Script.units project.toList, Script.units version.toList) := by
  intro all
  have read := all "demo" "1\"2" [] ⟨"demo", "1\"2", [], List.nodup_nil⟩ rfl
  have raw := (readUnits_versionPart _).mp ((fields?_render _ _).mp read) '"' (by decide)
  exact absurd raw (by decide)

end ServerForge.ServerSource
