import ServerForge.Manifest
import ServerForge.Proofs.Rereading

/-! What a reader of a package manifest finds in it. Main statement: the dependencies are the SDK
package of the configuration and the packages that were asked for, and no others. -/
namespace ServerForge

namespace Json

/-! ## Members of objects -/

theorem lookup_cons_if (key other : String) (value : Json) (members : Members) :
    List.lookup other ((key, value) :: members) =
      if other = key then some value else members.lookup other := by
  rw [List.lookup_cons]
  by_cases same : other = key
  · simp [same]
  · rw [beq_eq_false_iff_ne.mpr same, if_neg same]

theorem lookup_insert (key other : String) (value : Json) (members : Members) :
    (insert key value members).lookup other =
      if other = key then some value else members.lookup other := by
  induction members with
  | nil => rw [insert, lookup_cons_if]
  | cons member members ih =>
    obtain ⟨k, v⟩ := member
    unfold insert
    split
    next same =>
      rw [lookup_cons_if, lookup_cons_if]
      grind
    next different =>
    split
    next => rw [lookup_cons_if]
    next =>
      rw [lookup_cons_if, lookup_cons_if, ih]
      grind

def keys (members : Members) : List String := members.map (·.1)

theorem mem_keys_insert {key other : String} {value : Json} {members : Members} :
    other ∈ keys (insert key value members) ↔ other = key ∨ other ∈ keys members := by
  induction members with
  | nil => simp [keys, insert]
  | cons member members ih =>
    obtain ⟨k, v⟩ := member
    simp only [keys, List.map_cons, List.mem_cons] at ih ⊢
    unfold insert
    split
    next same => simp [same]
    split
    next => simp
    next =>
      simp only [List.map_cons, List.mem_cons, ih]
      grind

theorem mem_keys_insertAll {other : String} {members into : Members} :
    other ∈ keys (insertAll members into) ↔ other ∈ keys members ∨ other ∈ keys into := by
  induction members generalizing into with
  | nil => simp [insertAll, keys]
  | cons member members ih =>
    have step : insertAll (member :: members) into =
        insertAll members (insert member.1 member.2 into) := rfl
    rw [step, ih, mem_keys_insert]
    simp only [keys, List.map_cons, List.mem_cons]
    grind

theorem keys_rereadMembers (members : Members) : keys (rereadMembers members) = keys members := by
  induction members with
  | nil => rfl
  | cons member members ih =>
    simp only [keys] at ih
    simp [rereadMembers, keys, ih]

/-- A line feed after the text makes no difference. -/
theorem readWhole_pretty_feed (gather : Members → Members) {v : Json}
    (fitting : fits depthLimit v = true) :
    readWhole (readValueWith gather depthLimit) (v.pretty ++ "\n").toList =
      .ok (rereadWith gather v) := by
  have ends : NumberEnds ['\n'] := by simp [NumberEnds, Text.isDigit]
  have read := readValueWith_printed .indented gather depthLimit 0 v ['\n'] fitting ends
  have text : (v.pretty ++ "\n").toList = printed .indented 0 v ++ ['\n'] := by
    rw [String.toList_append, pretty, prettyAt, String.toList_ofList, prettyChars_eq]
    rfl
  unfold readWhole
  rw [text, read]
  rfl

theorem parse_pretty_feed {v : Json} (fitting : fits depthLimit v = true) :
    parse (v.pretty ++ "\n") = .ok v.reread := by
  rw [parse, ← readValueWith_insertAll, readWhole_pretty_feed _ fitting, rereadWith_insertAll]

end Json

namespace Manifest

/-! ## Dependencies -/

/-- The packages that the text of a manifest lists as dependencies. -/
def dependencyKeys? (manifest : String) : Option (List String) := do
  match ← (← (Json.parse manifest).toOption).get? "dependencies" with
  | .obj members => return Json.keys members
  | _ => none

theorem mem_demand {package version name : String} {packages : List (String × String)} :
    name ∈ (demand package version packages).map (·.1) ↔
      name = package ∨ name ∈ packages.map (·.1) := by
  induction packages with
  | nil => simp [demand]
  | cons entry packages ih =>
    obtain ⟨first, old⟩ := entry
    unfold demand
    split
    next same => simp [same]
    next =>
      simp only [List.map_cons, List.mem_cons, ih]
      grind

theorem mem_dependencies {requirements : Requirements} {config : Config} {name : String} :
    name ∈ (dependencies requirements config).map (·.1) ↔
      name = config.sdkPackage ∨ name ∈ requirements.dependencyList := by
  have folded : ∀ (asked : List String) (packages : List (String × String)),
      name ∈ (asked.foldl (fun packages package => demand package unpinned packages)
          packages).map (·.1) ↔ name ∈ packages.map (·.1) ∨ name ∈ asked := by
    intro asked
    induction asked with
    | nil => simp
    | cons package asked ih =>
      intro packages
      rw [List.foldl_cons, ih, mem_demand]
      grind
  rw [dependencies, folded]
  simp

theorem versions_fits (room : Nat) (packages : List (String × String)) :
    (versions packages).fits (room + 1) = true := by
  simp [versions, Json.fits]

theorem reread_versions (packages : List (String × String)) : ∃ members,
    (versions packages).reread = .obj members ∧
      ∀ name, name ∈ Json.keys members ↔ name ∈ packages.map (·.1) := by
  refine ⟨_, by rw [versions, Json.reread, Json.object], fun name => ?_⟩
  rw [Json.mem_keys_insertAll, Json.keys_rereadMembers]
  simp [Json.keys]

theorem toJson_fits (project : String) (requirements : Requirements) (config : Config) :
    (toJson project requirements config).fits Json.depthLimit = true := by
  simp [toJson, Json.depthLimit, Json.fits, versions_fits]

/-- Whatever the project is called, the manifest asks for what the generation is to depend on. -/
theorem dependencyKeys?_render (project : String) (requirements : Requirements) (config : Config) :
    ∃ keys, dependencyKeys? (render project requirements config) = some keys ∧
      ∀ name, name ∈ keys ↔ name = config.sdkPackage ∨ name ∈ requirements.dependencyList := by
  obtain ⟨members, shape, names⟩ := reread_versions (dependencies requirements config)
  have parsed := Json.parse_pretty_feed (toJson_fits project requirements config)
  have found : (toJson project requirements config).reread.get? "dependencies" =
      some (.obj members) := by
    rw [← shape]
    simp [toJson, Json.reread, Json.rereadMembers, Json.object, Json.get?, Json.insertAll,
      Json.lookup_insert]
  refine ⟨Json.keys members, ?_, fun name => (names name).trans mem_dependencies⟩
  simp only [dependencyKeys?, render, parsed, Except.toOption, bind, Option.bind_some, found]
  rfl

end Manifest

end ServerForge
