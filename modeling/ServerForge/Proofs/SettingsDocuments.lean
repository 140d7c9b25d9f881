import Mathlib.Data.List.Nodup
import ServerForge.Config
import ServerForge.Lookup
import ServerForge.Proofs.TomlStrings

/-! Documents that give settings line by line. Main statement: such a document, with its lines in
any order, is refused just if one of the settings that may not be blank is given a blank value, and
then for the first of them in their own order; otherwise the settings it gives take the place of
their defaults. -/
namespace ServerForge

namespace Toml

/-! ## Lines -/

/-- A name that is a key as it stands. -/
structure BareKey (name : String) : Prop where
  nonempty : name.toList ≠ []
  bare : ∀ c ∈ name.toList, isBare c = true

instance (name : String) : Decidable (BareKey name) :=
  decidable_of_iff (name.toList ≠ [] ∧ name.toList.all isBare = true)
    ⟨fun ⟨nonempty, bare⟩ => ⟨nonempty, List.all_eq_true.mp bare⟩,
      fun ⟨nonempty, bare⟩ => ⟨nonempty, List.all_eq_true.mpr bare⟩⟩

/-- Text that gives each key its string on a line of its own. The last line need not be ended. -/
inductive Spelled : List (String × String) → String → Prop where
  | nil : Spelled [] ""
  | last {name value literal : String} (stands : IsBasicString value literal) :
      Spelled [(name, value)] (name ++ " = " ++ literal)
  | cons {name value literal text : String} {entries : List (String × String)}
      (stands : IsBasicString value literal) (others : Spelled entries text) :
      Spelled ((name, value) :: entries) (name ++ " = " ++ literal ++ "\n" ++ text)

def entryOf (entry : String × String) : Statement := .entry ⟨[], entry.1⟩ (.text entry.2)

theorem skipSpace_visible {c : Char} (visible : isSpace c = false) (cs : List Char) :
    skipSpace (c :: cs) = c :: cs := by
  rw [skipSpace, List.dropWhile_cons_of_neg (by simp [visible])]

/-- A bare key begins with none of the characters that mean something else. -/
theorem isBare_other {c d : Char} (bare : isBare c = true) (other : isBare d = false) : c ≠ d := by
  rintro rfl
  rw [bare] at other
  cases other

section
variable {name value literal : String} (key : BareKey name) {rest : List Char}
include key

theorem readKey_bare (bound : Nat) :
    readKeyParts (bound + 1) (name.toList ++ ' ' :: '=' :: rest) = some ([name], '=' :: rest) := by
  obtain ⟨c, cs, chars⟩ := List.exists_cons_of_ne_nil key.nonempty
  have first : isBare c = true := key.bare c (by simp [chars])
  have unquoted : c ≠ '"' := isBare_other first (by decide)
  have unlettered : c ≠ '\x27' := isBare_other first (by decide)
  have visible : isSpace c = false := by
    have space : c ≠ ' ' := isBare_other first (by decide)
    have tab : c ≠ '\t' := isBare_other first (by decide)
    simp [isSpace, space, tab]
  have taken : (name.toList ++ ' ' :: '=' :: rest).takeWhile isBare = name.toList := by
    rw [List.takeWhile_append_of_pos key.bare, List.takeWhile_cons_of_neg (by decide),
      List.append_nil]
  have dropped : (name.toList ++ ' ' :: '=' :: rest).dropWhile isBare = ' ' :: '=' :: rest := by
    rw [List.dropWhile_append_of_pos key.bare, List.dropWhile_cons_of_neg (by decide)]
  have part : readKeyPart (name.toList ++ ' ' :: '=' :: rest) =
      some (name, ' ' :: '=' :: rest) := by
    have nonempty : name.toList.isEmpty = false := by simp [chars]
    rw [readKeyPart]
    · simp only [taken, dropped, nonempty, Bool.false_eq_true, if_false, String.ofList_toList]
    · intro more same
      simp_all
    · intro more same
      simp_all
  have skipped : skipSpace (name.toList ++ ' ' :: '=' :: rest) =
      name.toList ++ ' ' :: '=' :: rest := by
    rw [chars]
    exact skipSpace_visible visible _
  rw [readKeyParts, skipped, part]
  rfl

theorem readStatement_line (stands : IsBasicString value literal)
    (apart : rest.head? ≠ some '"') :
    readStatement ((name ++ " = " ++ literal).toList ++ rest) =
      some (entryOf (name, value), rest) := by
  have text : (name ++ " = " ++ literal).toList ++ rest =
      name.toList ++ ' ' :: '=' :: (' ' :: (literal.toList ++ rest)) := by
    have middle : " = ".toList = [' ', '=', ' '] := rfl
    simp [String.toList_append, middle]
  have keyRead : readKey (name.toList ++ ' ' :: '=' :: (' ' :: (literal.toList ++ rest))) =
      some (⟨[], name⟩, '=' :: ' ' :: (literal.toList ++ rest)) := by
    rw [readKey, readKey_bare key]
    rfl
  have equals : readEquals ('=' :: ' ' :: (literal.toList ++ rest)) =
      some (literal.toList ++ rest) := by
    obtain ⟨inner, -, written⟩ := stands
    rw [written]
    rfl
  obtain ⟨c, cs, chars⟩ := List.exists_cons_of_ne_nil key.nonempty
  have bracket : c ≠ '[' := isBare_other (key.bare c (by simp [chars])) (by decide)
  rw [text, readStatement]
  · rw [keyRead]
    simp only [Option.bind_eq_bind, Option.bind_some, equals,
      readValue_basicString stands (depthLimit - 1) apart]
    rfl
  · intro more same
    simp_all
  · intro more same
    simp_all

/-- A line is read as its statement, whether it is ended by a feed or by the document. -/
theorem readStatements_line (stands : IsBasicString value literal) {ended after : List Char}
    (ends : ended = [] ∧ after = [] ∨ ended = '\n' :: after) (bound : Nat) :
    readStatements (bound + 1) ((name ++ " = " ++ literal).toList ++ ended) =
      (readStatements bound after).map (entryOf (name, value) :: ·) := by
  have apart : ended.head? ≠ some '"' := by
    rcases ends with ⟨rfl, -⟩ | rfl <;> simp
  have line : endLine ended = some after := by
    rcases ends with ⟨rfl, rfl⟩ | rfl <;> rfl
  have read := readStatement_line key stands apart
  obtain ⟨c, cs, chars⟩ := List.exists_cons_of_ne_nil key.nonempty
  have first : isBare c = true := key.bare c (by simp [chars])
  have space : c ≠ ' ' := isBare_other first (by decide)
  have tab : c ≠ '\t' := isBare_other first (by decide)
  have comment : c ≠ '#' := isBare_other first (by decide)
  have feed : c ≠ '\n' := isBare_other first (by decide)
  have carriage : c ≠ '\r' := isBare_other first (by decide)
  obtain ⟨more, text⟩ : ∃ more, (name ++ " = " ++ literal).toList ++ ended = c :: more := by
    simp [String.toList_append, chars]
  rw [text] at read ⊢
  have unbroken : newline? (c :: more) = none := by
    unfold newline?
    split <;> simp_all
  rw [readStatements, skipSpace_visible (by simp [isSpace, space, tab])]
  split
  next nothing => cases nothing
  next same => simp_all
  next =>
    simp only [unbroken, read, Option.bind_eq_bind, Option.bind_some, line]
    cases readStatements bound after <;> rfl

end

theorem readStatements_spelled {entries : List (String × String)} {text : String}
    (spelled : Spelled entries text) (keys : ∀ entry ∈ entries, BareKey entry.1) {bound : Nat}
    (enough : text.toList.length < bound) :
    readStatements bound text.toList = some (entries.map entryOf) := by
  induction spelled generalizing bound with
  | nil =>
    obtain ⟨bound, rfl⟩ := Nat.exists_eq_add_one.mpr enough
    rfl
  | @last name value literal stands =>
    have key : BareKey name := keys (name, value) (by simp)
    obtain ⟨bound, rfl⟩ : ∃ more, bound = more + 2 := by
      refine ⟨bound - 2, ?_⟩
      have length : 0 < name.toList.length := List.length_pos_of_ne_nil key.nonempty
      simp only [String.toList_append, List.length_append] at enough
      omega
    have read := readStatements_line key stands (.inl ⟨rfl, rfl⟩) (bound + 1)
    rw [List.append_nil] at read
    rw [read]
    rfl
  | @cons name value literal text entries stands others ih =>
    obtain ⟨bound, rfl⟩ := Nat.exists_eq_add_one.mpr (Nat.zero_lt_of_lt enough)
    have key : BareKey name := keys (name, value) (by simp)
    have split : (name ++ " = " ++ literal ++ "\n" ++ text).toList =
        (name ++ " = " ++ literal).toList ++ '\n' :: text.toList := by
      have feed : "\n".toList = ['\n'] := rfl
      simp [String.toList_append, feed]
    rw [split, List.length_append, List.length_cons] at enough
    rw [split, readStatements_line key stands (.inr rfl),
      ih (fun entry member => keys entry (by simp [member])) (by omega)]
    rfl

/-! ## Tables -/

def itemOf (entry : String × String) : String × Item := (entry.1, .value (.text entry.2))

theorem set_fresh {key : String} {items : Items} (fresh : key ∉ items.map (·.1)) (item : Item) :
    Table.set key item items = items ++ [(key, item)] := by
  induction items with
  | nil => rfl
  | cons first items ih =>
    rw [List.map_cons, List.mem_cons, not_or] at fresh
    rw [Table.set, if_neg (Ne.symm fresh.1), ih fresh.2]
    rfl

/-- Each entry of a new key goes to the end of the root table. -/
theorem build_entries {entries : List (String × String)} {items : Items}
    (distinct : (items.map (·.1) ++ entries.map (·.1)).Nodup) :
    build ⟨.header, items⟩ [] (entries.map entryOf) =
      some ⟨.header, items ++ entries.map itemOf⟩ := by
  induction entries generalizing items with
  | nil => rw [List.map_nil, build, List.map_nil, List.append_nil]
  | cons entry entries ih =>
    have fresh : entry.1 ∉ items.map (·.1) := fun member =>
      (List.nodup_append.mp distinct).2.2 _ member entry.1 (by simp) rfl
    have absent : items.lookup entry.1 = none := by
      refine List.lookup_eq_none_iff.mpr fun item member => bne_iff_ne.mpr fun same => ?_
      exact fresh (List.mem_map.mpr ⟨item, member, same.symm⟩)
    have added : Table.within .passed [] (Table.add [] entry.1 (.text entry.2))
        ⟨.header, items⟩ = some ⟨.header, items ++ [itemOf entry]⟩ := by
      simp [Table.within, Table.add, absent, set_fresh fresh, itemOf]
    have regrouped : ((items ++ [itemOf entry]).map (·.1) ++ entries.map (·.1)).Nodup := by
      simpa [itemOf] using distinct
    rw [List.map_cons, entryOf, build, added]
    simp only [Option.bind_eq_bind, Option.bind_some]
    rw [ih regrouped, List.append_assoc]
    rfl

/-- The first character is that of a key, so it is no byte order mark. -/
theorem head?_ne_mark {entries : List (String × String)} {text : String}
    (spelled : Spelled entries text) (keys : ∀ entry ∈ entries, BareKey entry.1) :
    text.toList.head? ≠ some '\ufeff' := by
  have begins {name : String} (key : BareKey name) (rest : List Char) :
      (name.toList ++ rest).head? ≠ some '\ufeff' := by
    obtain ⟨c, cs, chars⟩ := List.exists_cons_of_ne_nil key.nonempty
    have other : c ≠ '\ufeff' := isBare_other (key.bare c (by simp [chars])) (by decide)
    simpa [chars] using other
  cases spelled with
  | nil => simp
  | @last name value literal stands =>
    simp only [String.toList_append, List.append_assoc]
    exact begins (keys (name, value) (by simp)) _
  | @cons name value literal text entries stands others =>
    simp only [String.toList_append, List.append_assoc]
    exact begins (keys (name, value) (by simp)) _

theorem parse_spelled {entries : List (String × String)} {text : String}
    (spelled : Spelled entries text) (keys : ∀ entry ∈ entries, BareKey entry.1)
    (distinct : (entries.map (·.1)).Nodup) :
    parse text = some ⟨.header, entries.map itemOf⟩ := by
  have read : statements text = some (entries.map entryOf) := by
    have unmarked := head?_ne_mark spelled keys
    unfold statements
    split
    next rest marked => simp [marked] at unmarked
    next => exact readStatements_spelled spelled keys (Nat.lt_succ_self _)
  rw [parse, read]
  exact build_entries (by simpa using distinct)

end Toml

namespace Config

/-! ## Settings -/

/-- The settings that are given take the place of the defaults. -/
def overridden (given : String → Option String) : Config where
  generatorName := (given "generator_name").getD default.generatorName
  serverVersion := (given "server_version").getD default.serverVersion
  sdkPackage := (given "sdk_package").getD default.sdkPackage
  sdkVersion := (given "sdk_version").getD default.sdkVersion
  nodeTypesVersion := (given "node_types_version").getD default.nodeTypesVersion
  typescriptVersion := (given "typescript_version").getD default.typescriptVersion

def names : List String := [
  "generator_name", "server_version", "sdk_package", "sdk_version", "node_types_version",
  "typescript_version"]

/-- The settings that may not be blank, in their order. -/
def essentialNames : List String := [
  "generator_name", "server_version", "sdk_package", "sdk_version"]

theorem bareKey_of_mem_names : ∀ name ∈ names, Toml.BareKey name := by decide

/-- One setting is taken from a table. -/
def take (table : Toml.Table) (c : Config) (setter : String × (String → Config → Config)) :
    Option Config :=
  match table.items.lookup setter.1 with
  | none => some c
  | some (.value (.text value)) => some (setter.2 value c)
  | some _ => none

theorem ofTable_eq (table : Toml.Table) (c : Config) :
    ofTable table c = setters.foldlM (take table) c := rfl

theorem take_eq {table : Toml.Table} {given : Option String} {name : String}
    (held : table.items.lookup name = given.map fun value => .value (.text value))
    {set : String → Config → Config} {c : Config} {a : String} (kept : set a c = c) :
    take table c (name, set) = some (set (given.getD a) c) := by
  rw [take, held]
  cases given with
  | none => exact congrArg some kept.symm
  | some value => rfl

theorem ofTable_overridden (table : Toml.Table) {given : String → Option String}
    (held : ∀ name, table.items.lookup name =
      (given name).map fun value => .value (.text value)) :
    ofTable table default = some (overridden given) := by
  rw [ofTable_eq, setters]
  simp only [List.foldlM_cons, List.foldlM_nil, Option.bind_eq_bind, Option.pure_def]
  rw [take_eq (held _) (a := default.generatorName) rfl, Option.bind_some,
    take_eq (held _) (a := default.serverVersion) rfl, Option.bind_some,
    take_eq (held _) (a := default.sdkPackage) rfl, Option.bind_some,
    take_eq (held _) (a := default.sdkVersion) rfl, Option.bind_some,
    take_eq (held _) (a := default.nodeTypesVersion) rfl, Option.bind_some,
    take_eq (held _) (a := default.typescriptVersion) rfl, Option.bind_some]
  rfl

/-- No default is blank, so only a value that is given can be. -/
theorem validate_overridden (given : String → Option String) :
    (overridden given).validate =
      match essentialNames.find? fun name => (given name).any Text.isBlank with
      | some name => .error (.config (name ++ " must not be empty"))
      | none => .ok (overridden given) := by
  have blank (name : String) {fallback : String} (visible : Text.isBlank fallback = false) :
      Text.isBlank ((given name).getD fallback) = (given name).any Text.isBlank := by
    cases given name with
    | none => exact visible
    | some value => rfl
  have first : Text.isBlank default.generatorName = false := by decide
  have second : Text.isBlank default.serverVersion = false := by decide
  have third : Text.isBlank default.sdkPackage = false := by decide
  have fourth : Text.isBlank default.sdkVersion = false := by decide
  unfold validate essentials essentialNames overridden
  simp only [List.find?_cons, List.find?_nil, blank _ first, blank _ second, blank _ third,
    blank _ fourth]
  cases (given "generator_name").any Text.isBlank with
  | true => rfl
  | false =>
  cases (given "server_version").any Text.isBlank with
  | true => rfl
  | false =>
  cases (given "sdk_package").any Text.isBlank with
  | true => rfl
  | false =>
  cases (given "sdk_version").any Text.isBlank with
  | true => rfl
  | false => rfl

theorem ofToml_spelled {entries : List (String × String)} {text : String}
    (known : ∀ entry ∈ entries, entry.1 ∈ names) (distinct : (entries.map (·.1)).Nodup)
    (spelled : Toml.Spelled entries text) :
    ofToml text =
      match essentialNames.find? fun name => (entries.lookup name).any Text.isBlank with
      | some name => .error (.config (name ++ " must not be empty"))
      | none => .ok (overridden fun name => entries.lookup name) := by
  have keys : ∀ entry ∈ entries, Toml.BareKey entry.1 := fun entry member =>
    bareKey_of_mem_names entry.1 (known entry member)
  have held (name : String) : (entries.map Toml.itemOf).lookup name =
      (entries.lookup name).map fun value => .value (.text value) :=
    Lookup.lookup_map_value (fun value => Toml.Item.value (.text value)) entries name
  rw [ofToml, Toml.parse_spelled spelled keys distinct, Option.bind_some,
    ofTable_overridden ⟨.header, entries.map Toml.itemOf⟩ held]
  exact validate_overridden _

/-- A setting is given a blank value. -/
def GivenBlank (entries : List (String × String)) (name : String) : Prop :=
  ∃ value, (name, value) ∈ entries ∧ Text.isBlank value = true

theorem any_isBlank_iff {entries : List (String × String)}
    (distinct : (entries.map (·.1)).Nodup) {name : String} :
    (entries.lookup name).any Text.isBlank = true ↔ GivenBlank entries name := by
  rw [Option.any_eq_true]
  exact exists_congr fun value => and_congr_left' (Lookup.lookup_eq_some_iff_mem distinct)

/-- Settings that are given line by line, in whatever order, are accepted unless one that may not be
blank is; they take the place of the defaults, or else the first blank one is named. -/
theorem settings_are_read_in_any_order {entries : List (String × String)} {text : String}
    (known : ∀ entry ∈ entries, entry.1 ∈ names) (distinct : (entries.map (·.1)).Nodup)
    (spelled : Toml.Spelled entries text) :
    ((∃ c, ofToml text = .ok c) ↔ ∀ name ∈ essentialNames, ¬ GivenBlank entries name) ∧
    (∀ c, ofToml text = .ok c → c = overridden fun name => entries.lookup name) ∧
    (∀ before name after, essentialNames = before ++ name :: after → GivenBlank entries name →
      (∀ earlier ∈ before, ¬ GivenBlank entries earlier) →
      ofToml text = .error (.config (name ++ " must not be empty"))) ∧
    ∀ others reordered, others.Perm entries → Toml.Spelled others reordered →
      ofToml reordered = ofToml text := by
  have outcome := ofToml_spelled known distinct spelled
  refine ⟨?_, ?_, ?_, ?_⟩
  · rw [outcome]
    cases found : essentialNames.find? fun name => (entries.lookup name).any Text.isBlank with
    | none =>
      refine iff_of_true ⟨_, rfl⟩ fun name essential blank => ?_
      exact List.find?_eq_none.mp found name essential ((any_isBlank_iff distinct).mpr blank)
    | some name =>
      have blank := List.find?_some found
      refine iff_of_false nofun fun none => ?_
      exact none name (List.mem_of_find?_eq_some found) ((any_isBlank_iff distinct).mp blank)
  · intro c read
    rw [outcome] at read
    split at read
    · cases read
    · exact (Except.ok.inj read).symm
  · intro before name after listed blank earliest
    have found : essentialNames.find? (fun name => (entries.lookup name).any Text.isBlank) =
        some name := by
      refine List.find?_eq_some_iff_append.mpr
        ⟨(any_isBlank_iff distinct).mpr blank, before, after, listed, fun earlier member => ?_⟩
      rw [Bool.not_eq_true', ← Bool.not_eq_true, any_isBlank_iff distinct]
      exact earliest earlier member
    rw [outcome, found]
  · intro others reordered perm respelled
    have distinct' : (others.map (·.1)).Nodup := (perm.map (·.1)).nodup_iff.mpr distinct
    have known' : ∀ entry ∈ others, entry.1 ∈ names := fun entry member =>
      known entry (perm.mem_iff.mp member)
    have same (name : String) : others.lookup name = entries.lookup name :=
      Lookup.lookup_perm distinct perm name
    rw [outcome, ofToml_spelled known' distinct' respelled]
    simp only [same]

/-- A quote, a delete character and a line feed are escaped; of two blank values the one that is
checked first is named, though it is given last. -/
theorem settings_are_read_escaped :
    ofToml "sdk_version = \"^1\\\"\\u007f\\u000a\"\ngenerator_name = \"forge\"" =
      .ok { default with generatorName := "forge", sdkVersion := "^1\"\x7f\n" } ∧
    ofToml "sdk_version = \"\"\nserver_version = \" \"\n" =
      .error (.config "server_version must not be empty") := by
  have quoted (value : String) := Toml.isBasicString_basicString value
  constructor
  · have spelled : Toml.Spelled [("sdk_version", "^1\"\x7f\n"), ("generator_name", "forge")] _ :=
      .cons (quoted _) (.last (quoted _))
    have shape : "sdk_version = \"^1\\\"\\u007f\\u000a\"\ngenerator_name = \"forge\"" =
        "sdk_version" ++ " = " ++ Toml.basicString "^1\"\x7f\n" ++ "\n" ++
          ("generator_name" ++ " = " ++ Toml.basicString "forge") := by decide
    rw [← shape] at spelled
    obtain ⟨accepted, values, -, -⟩ :=
      settings_are_read_in_any_order (by decide) (by decide) spelled
    obtain ⟨c, read⟩ := accepted.mpr <| by
      rintro name - ⟨value, member, blank⟩
      simp only [List.mem_cons, Prod.mk.injEq, List.not_mem_nil, or_false] at member
      rcases member with ⟨-, rfl⟩ | ⟨-, rfl⟩ <;> exact absurd blank (by decide)
    rw [read, values c read]
    rfl
  · have spelled : Toml.Spelled [("sdk_version", ""), ("server_version", " ")] _ :=
      .cons (quoted _) (.cons (quoted _) .nil)
    have shape : "sdk_version = \"\"\nserver_version = \" \"\n" =
        "sdk_version" ++ " = " ++ Toml.basicString "" ++ "\n" ++
          ("server_version" ++ " = " ++ Toml.basicString " " ++ "\n" ++ "") := by decide
    rw [← shape] at spelled
    obtain ⟨-, -, refused, -⟩ :=
      settings_are_read_in_any_order (by decide) (by decide) spelled
    refine refused ["generator_name"] "server_version" ["sdk_package", "sdk_version"] rfl
      ⟨" ", by simp, by decide⟩ ?_
    unfold GivenBlank
    simp

end Config

end ServerForge
