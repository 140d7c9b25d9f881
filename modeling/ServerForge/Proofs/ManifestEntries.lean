import ServerForge.Proofs.RecordValues

/-! What a package manifest says of the project and of each dependency. Main statement: read as it
is written, the manifest lists the SDK package and then the other packages that were asked for, each
once and in the order in which they were first named; and reading it in the order of the keys finds
the same versions. -/
namespace ServerForge

namespace Json

mutual

/-- Floating-point numbers apart, every value is read back as it is written. -/
theorem rereadWith_id : ∀ v : Json, floatless v = true → rereadWith id v = v
  | .null, _ | .bool _, _ | .str _, _ | .num (.int _), _ => rfl
  | .arr items, exact => by rw [rereadWith, rereadItemsWith_id items (by rwa [floatless] at exact)]
  | .obj members, exact => by
    rw [rereadWith, rereadMembersWith_id members (by rwa [floatless] at exact), id]

theorem rereadItemsWith_id :
    ∀ items : List Json, floatlessItems items = true → rereadItemsWith id items = items
  | [], _ => rfl
  | item :: items, exact => by
    rw [floatlessItems, Bool.and_eq_true] at exact
    rw [rereadItemsWith, rereadWith_id item exact.1, rereadItemsWith_id items exact.2]

theorem rereadMembersWith_id : ∀ members : List (String × Json),
    floatlessMembers members = true → rereadMembersWith id members = members
  | [], _ => rfl
  | (key, value) :: members, exact => by
    rw [floatlessMembers, Bool.and_eq_true] at exact
    rw [rereadMembersWith, rereadWith_id value exact.1, rereadMembersWith_id members exact.2]

end

theorem lookup_rereadMembers (key : String) (members : Members) :
    (rereadMembers members).lookup key = (members.lookup key).map reread := by
  induction members with
  | nil => rfl
  | cons member members ih =>
    obtain ⟨name, value⟩ := member
    rw [rereadMembers, lookup_cons_if, lookup_cons_if, ih]
    split <;> rfl

theorem get?_reread {members : Members} (distinct : (keys members).Nodup) (key : String) :
    (reread (.obj members)).get? key = (members.lookup key).map reread := by
  rw [reread, get?_object (by rwa [keys_rereadMembers]), lookup_rereadMembers]

theorem parseWritten_pretty_feed {v : Json} (fitting : fits depthLimit v = true)
    (exact : floatless v = true) : parseWritten (v.pretty ++ "\n") = .ok v := by
  rw [parseWritten, readWhole_pretty_feed id fitting, rereadWith_id v exact]

end Json

namespace Manifest

/-! ## Packages in the order in which they are named -/

/-- A package that is listed already keeps its place; any other one comes last. -/
theorem demand_listed (package version : String) (versionOf : String → String)
    {names : List String} (distinct : names.Nodup) :
    demand package version (names.map fun name => (name, versionOf name)) =
      (if package ∈ names then names else names ++ [package]).map
        fun name => (name, if name = package then version else versionOf name) := by
  induction names with
  | nil => simp [demand]
  | cons first names ih =>
    obtain ⟨fresh, distinct⟩ := List.nodup_cons.mp distinct
    rw [List.map_cons, demand]
    by_cases same : first = package
    · subst same
      have others : (names.map fun name => (name, versionOf name)) =
          names.map fun name => (name, if name = first then version else versionOf name) :=
        List.map_congr_left fun name member => by
          have other : name ≠ first := fun same => fresh (same ▸ member)
          rw [if_neg other]
      simp [others]
    · rw [if_neg same, ih distinct]
      simp only [List.mem_cons, Ne.symm same, false_or]
      split <;> simp [same]

/-- The names in the order in which they occur first, behind those that are listed already. -/
def firstNamed (names asked : List String) : List String :=
  names ++ (asked.filter (· ∉ names)).eraseDups

theorem firstNamed_cons (names : List String) (package : String) (asked : List String) :
    firstNamed names (package :: asked) =
      firstNamed (if package ∈ names then names else names ++ [package]) asked := by
  unfold firstNamed
  by_cases listed : package ∈ names
  · simp [listed]
  · have apart : (asked.filter (· ∉ names)).filter (fun name => !name == package) =
        asked.filter (· ∉ names ++ [package]) := by
      rw [List.filter_filter]
      refine List.filter_congr fun name _ => ?_
      rw [Bool.eq_iff_iff]
      simp [and_comm]
    rw [if_neg listed, List.filter_cons_of_pos (by simpa using listed), List.eraseDups_cons, apart,
      List.append_assoc]
    rfl

theorem demands_listed (asked : List String) (versionOf : String → String) {names : List String}
    (distinct : names.Nodup) :
    (firstNamed names asked).Nodup ∧
      asked.foldl (fun packages package => demand package unpinned packages)
          (names.map fun name => (name, versionOf name)) =
        (firstNamed names asked).map
          fun name => (name, if name ∈ asked then unpinned else versionOf name) := by
  induction asked generalizing names versionOf with
  | nil => simpa [firstNamed] using distinct
  | cons package asked ih =>
    have further : (if package ∈ names then names else names ++ [package]).Nodup := by
      split
      next => exact distinct
      next fresh => exact List.nodup_append.mpr ⟨distinct, by simp, by grind⟩
    obtain ⟨apart, listed⟩ := ih (fun name => if name = package then unpinned else versionOf name)
      further
    rw [firstNamed_cons, List.foldl_cons, demand_listed package unpinned versionOf distinct]
    refine ⟨apart, listed.trans (List.map_congr_left fun name _ => ?_)⟩
    simp only [List.mem_cons]
    grind

section
variable (project : String) (requirements : Requirements) (config : Config)

/-- The SDK package, then the others that were asked for, each where it was named first. -/
def packageNames : List String :=
  config.sdkPackage ::
    (requirements.dependencyList.filter (· ≠ config.sdkPackage)).eraseDups

/-- The version that a package is listed with. -/
def versionOf (package : String) : String :=
  if package ∈ requirements.dependencyList then unpinned else config.sdkVersion

theorem dependencies_listed :
    (packageNames requirements config).Nodup ∧
      dependencies requirements config = (packageNames requirements config).map
        fun package => (package, versionOf requirements config package) := by
  have single : [config.sdkPackage].Nodup := by simp
  have listed := demands_listed requirements.dependencyList (fun _ => config.sdkVersion) single
  have names : firstNamed [config.sdkPackage] requirements.dependencyList =
      packageNames requirements config := by
    simp [firstNamed, packageNames]
  rw [names] at listed
  exact listed

example : packageNames { Requirements.empty with dependencies := some ["b", "sdk", "a", "b"] }
    { Config.default with sdkPackage := "sdk" } = ["sdk", "b", "a"] := by decide

/-! ## The text -/

theorem versions_floatless (packages : List (String × String)) :
    (versions packages).floatless = true := by
  rw [versions, Json.floatless]
  induction packages with
  | nil => rfl
  | cons entry packages ih => rw [List.map_cons, Json.floatlessMembers, ih]; rfl

theorem toJson_floatless : (toJson project requirements config).floatless = true := by
  simp [toJson, Json.floatless, Json.floatlessMembers, versions_floatless]

theorem versions_reread (packages : List (String × String)) :
    (versions packages).reread =
      .object (packages.map fun (package, version) => (package, .str version)) := by
  have exact := versions_floatless packages
  rw [versions, Json.floatless] at exact
  rw [versions, Json.reread, Json.rereadMembers_eq_self _ exact]
  intro member listed _
  obtain ⟨entry, -, rfl⟩ := List.mem_map.mp listed
  rfl

theorem reread_get? (key : String) :
    (toJson project requirements config).reread.get? key =
      ((toJson project requirements config).get? key).map Json.reread := by
  rw [toJson, Json.get?_reread]
  · rfl
  · simp [Json.keys]

theorem lookup_listed {names : List String} (value : String → Json) (name : String) :
    (names.map fun name => (name, value name)).lookup name =
      if name ∈ names then some (value name) else none := by
  induction names with
  | nil => rfl
  | cons first names ih =>
    rw [List.map_cons, Json.lookup_cons_if, ih]
    grind

end

/-- What a manifest says of the project itself. -/
structure Describes (manifest : Json) (project : String) (config : Config) : Prop where
  name : manifest.get? "name" = some (.str project)
  version : manifest.get? "version" = some (.str config.serverVersion)
  description : manifest.get? "description" = some (.str ("Generated MCP server: " ++ project))

/-- The manifest gives the project's name, the version of the configuration and a description. As
it is written, its dependencies are the SDK package and then the other packages that were asked for,
each once and in the order in which they were first named: what was asked for is unpinned, also if
it is the SDK, which else has the version of the configuration. A reader that puts members in the
order of their keys finds the same versions. -/
theorem manifest_lists_what_was_asked_for (project : String) (requirements : Requirements)
    (config : Config) :
    let requested := requirements.dependencyList
    let packages := config.sdkPackage :: (requested.filter (· ≠ config.sdkPackage)).eraseDups
    let version := fun package => if package ∈ requested then "latest" else config.sdkVersion
    let text := render project requirements config
    packages.Nodup ∧
    (∃ manifest, Json.parseWritten text = .ok manifest ∧ Describes manifest project config ∧
      manifest.get? "dependencies" =
        some (.obj (packages.map fun package => (package, .str (version package))))) ∧
    ∃ manifest members, Json.parse text = .ok manifest ∧ Describes manifest project config ∧
      manifest.get? "dependencies" = some (.obj members) ∧
      ∀ package, members.lookup package =
        if package ∈ packages then some (.str (version package)) else none := by
  intro requested packages version text
  obtain ⟨distinct, listed⟩ := dependencies_listed requirements config
  have fitting := toJson_fits project requirements config
  have written := Json.parseWritten_pretty_feed fitting
    (toJson_floatless project requirements config)
  have parsed := Json.parse_pretty_feed fitting
  have entries : (dependencies requirements config).map
        (fun (package, version) => (package, Json.str version)) =
      packages.map fun package => (package, .str (version package)) := by
    rw [listed, List.map_map]
    rfl
  have found : (toJson project requirements config).reread.get? "dependencies" =
      some (.object (packages.map fun package => (package, .str (version package)))) := by
    rw [reread_get?, ← entries, ← versions_reread]
    rfl
  have keys : Json.keys (packages.map fun package => (package, .str (version package))) =
      packages := by
    rw [Json.keys, List.map_map]
    exact List.map_id' packages
  refine ⟨distinct, ⟨_, written, ⟨rfl, rfl, rfl⟩, ?_⟩, ⟨_, _, parsed, ?_, found, fun package => ?_⟩⟩
  · rw [← entries]
    rfl
  · constructor <;> rw [reread_get?] <;> rfl
  · rw [Json.lookup_insertAll (keys.symm ▸ distinct), lookup_listed, List.lookup_nil,
      Option.or_none]

end Manifest

end ServerForge
