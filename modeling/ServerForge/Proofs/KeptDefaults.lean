import ServerForge.Command.Recording
import ServerForge.Proofs.CommandStages
import ServerForge.Proofs.ListedTexts
import ServerForge.Proofs.ManifestEntries
import ServerForge.Proofs.OfflineAgreement

/-! What comes of a command that asks for everything and hears nothing but empty answers. Main
statement: it works with the tools and dependencies that are found in the offered texts, which are
the ones of the options exactly if each of them can be a member of a list with commas; so keeping
the defaults makes no difference for such options, and for any others a project would be made. -/
namespace ServerForge

namespace Requirements

/-- A purpose counts as it is after trimming, and not at all if it is blank. -/
theorem purposeText_trimmed {a b : Requirements} (same : b.purpose =
    if Text.isBlank (a.purpose.getD "") then none else some (Text.trim (a.purpose.getD ""))) :
    b.purposeText = a.purposeText := by
  rw [purposeText, purposeText, same]
  cases a.purpose with
  | none => rfl
  | some text =>
    rw [Option.getD_some, Option.map_some]
    by_cases blank : Text.isBlank text = true
    · rw [if_pos blank, Option.map_none, Text.trim_eq_empty_iff.mpr blank]
      rfl
    · simp [blank, Text.trim_trim]

end Requirements

namespace Manifest

theorem versions_injective {a b : List (String × String)} (same : versions a = versions b) :
    a = b := by
  have members := Json.obj.inj same
  refine List.map_injective_iff.mpr (fun first second equal => ?_) members
  obtain ⟨name, version⟩ := Prod.mk.inj equal
  exact Prod.ext name (Json.str.inj version)

/-- Nothing of the requirements but the packages is in a manifest. -/
theorem render_eq_iff {a b : Requirements} {project : String} {config : Config} :
    render project a config = render project b config ↔
      dependencies a config = dependencies b config := by
  constructor
  · intro same
    have parsed (r : Requirements) :
        Json.parseWritten (render project r config) = .ok (toJson project r config) :=
      Json.parseWritten_pretty_feed (toJson_fits project r config)
        (toJson_floatless project r config)
    have values := Except.ok.inj ((parsed a).symm.trans ((congrArg Json.parseWritten same).trans
      (parsed b)))
    simp only [toJson, Json.obj.injEq, List.cons.injEq, Prod.mk.injEq, true_and, and_true] at values
    exact versions_injective values
  · intro packages
    rw [render, render, toJson, toJson, packages]

end Manifest

/-- A synthesis does not tell operations that are asked for from those of the category, nor one list
of dependencies from another that comes to the same packages. -/
theorem Synthesis.run_resolved {a b : Requirements} {category : Category} {config : Config}
    (purpose : a.purposeText = b.purposeText)
    (operations : resolve category a = resolve category b) (settings : a.config = b.config)
    (packages : Manifest.dependencies a config = Manifest.dependencies b config)
    (project : String) :
    run config project category.key a = run config project category.key b := by
  have readme (model : ServerModel) :
      Readme.render model category a config = Readme.render model category b config := by
    have alike : Requirements.Alike { a with operations := none, dependencies := none }
        { b with operations := none, dependencies := none } := ⟨purpose, rfl, settings, rfl⟩
    exact Readme.render_alike alike model category config
  simp only [run, Category.ofKey_key, bind, Except.bind, operations,
    Manifest.render_eq_iff.mpr packages, readme]

namespace Command.Generate

/-! ## The offered texts -/

/-- The options as they are read back from the texts that are offered for the answers. -/
def reread (options : GenerateOptions) : GenerateOptions := {
  options with
  tools := options.tools.flatMap Text.splitList
  dependencies := options.dependencies.flatMap Text.splitList
  interactive := false }

theorem resolve_nonEmpty (category : Category) (purpose : Option String) (tools : List String)
    (config : Option Json.Members) (dependencies : Option (List String)) :
    Synthesis.resolve category ⟨purpose, nonEmpty tools, config, dependencies⟩ =
      if tools.isEmpty then category.defaultOperations else tools := by
  cases tools <;> rfl

theorem defaultOperations_reread (category : Category) :
    category.defaultOperations.flatMap Text.splitList = category.defaultOperations := by
  cases category <;> decide

theorem resolve_offered (options : GenerateOptions) (category : Category) :
    Synthesis.resolve category (ofAnswers (offered options category)) =
      Synthesis.resolve category (ofOptions (reread options)) := by
  rw [ofAnswers, ofOptions, resolve_nonEmpty, resolve_nonEmpty, offered, Text.splitList_intercalate,
    reread]
  cases options.tools with
  | nil =>
    rw [List.isEmpty_nil, if_pos rfl, defaultOperations_reread]
    cases category.defaultOperations <;> rfl
  | cons tool tools => rfl

theorem dependencyList_nonEmpty (purpose : Option String) (operations : Option (List String))
    (config : Option Json.Members) (dependencies : List String) :
    Requirements.dependencyList ⟨purpose, operations, config, nonEmpty dependencies⟩ =
      dependencies := by
  cases dependencies <;> rfl

theorem run_offered (config : Config) (options : GenerateOptions) (category : Category) :
    Synthesis.run config options.project category.key (ofAnswers (offered options category)) =
      Synthesis.run config options.project category.key (ofOptions (reread options)) := by
  have dependencies : (ofAnswers (offered options category)).dependencyList =
      (ofOptions (reread options)).dependencyList := by
    rw [ofAnswers, ofOptions, dependencyList_nonEmpty, dependencyList_nonEmpty, offered,
      Text.splitList_intercalate]
    rfl
  have packages : Manifest.dependencies (ofAnswers (offered options category)) config =
      Manifest.dependencies (ofOptions (reread options)) config := by
    rw [Manifest.dependencies, Manifest.dependencies, dependencies]
  exact Synthesis.run_resolved (Requirements.purposeText_trimmed rfl)
    (resolve_offered options category) rfl packages options.project

/-- Three empty answers take the three texts that were offered. -/
theorem askAll_kept (options : GenerateOptions) (category : Category) (start : Recording)
    (more : List String) :
    ((askAll options category : StateM Recording _).run
        { start with answers := some ("" :: "" :: "" :: more) }).1 =
      .ok (ofAnswers (offered options category)) := by
  rfl

theorem synthesize_silent (config : Config) (options : GenerateOptions) (start : Recording) :
    ((synthesize config { options with interactive := false } : StateM Recording _).run start).1 =
      outcome config options := by
  have silent : ({ options with interactive := false } : GenerateOptions).interactive = false := rfl
  rw [synthesize_direct config silent]
  rfl

theorem synthesize_kept (config : Config) (options : GenerateOptions) (start : Recording)
    (more : List String) :
    ((synthesize config { options with interactive := true } : StateM Recording _).run
        { start with answers := some ("" :: "" :: "" :: more) }).1 =
      outcome config (reread options) := by
  unfold synthesize outcome
  cases known : Category.ofKey options.category with
  | error failure =>
    have refused : Category.ofKey (reread options).category = .error failure := known
    rw [Synthesis.run_of_unknown refused]
    rfl
  | ok category =>
    have key : category.key = options.category := Category.ofKey_eq_ok_iff.mp known
    dsimp only
    have offer := run_offered config options category
    rw [key] at offer
    rw [requirements, if_pos rfl, Save.run_bind, askAll_kept, Except.bind, key]
    exact congrArg (Except.mapError Report.ofFailure) offer

/-! ## When it makes no difference -/

theorem resolve_reread_iff {options : GenerateOptions} {category : Category} :
    Synthesis.resolve category (ofOptions (reread options)) =
        Synthesis.resolve category (ofOptions options) ↔
      ∀ tool ∈ options.tools, Text.Listable tool := by
  rw [ofOptions, ofOptions, resolve_nonEmpty, resolve_nonEmpty, reread]
  constructor
  · intro same tool asked
    have given : options.tools.isEmpty = false := by
      simpa using List.ne_nil_of_mem asked
    rw [given, if_neg Bool.false_ne_true] at same
    rw [← same] at asked
    split at asked
    · exact Text.flatMap_splitList_eq_self_iff.mp (defaultOperations_reread category) tool asked
    · obtain ⟨origin, -, listed⟩ := List.mem_flatMap.mp asked
      exact Text.listable_of_mem_splitList listed
  · intro listable
    rw [Text.flatMap_splitList_eq_self_iff.mpr listable]

/-- An SDK package that could not be a member of a list is the only one that can hide a difference,
and only while it is unpinned anyway. -/
theorem dependencies_reread_iff {options : GenerateOptions} {config : Config}
    (apart : Text.Listable config.sdkPackage ∨ config.sdkVersion ≠ Manifest.unpinned) :
    Manifest.dependencies (ofOptions (reread options)) config =
        Manifest.dependencies (ofOptions options) config ↔
      ∀ package ∈ options.dependencies, Text.Listable package := by
  have direct : (ofOptions options).dependencyList = options.dependencies :=
    dependencyList_nonEmpty _ _ _ _
  have again : (ofOptions (reread options)).dependencyList =
      options.dependencies.flatMap Text.splitList := dependencyList_nonEmpty _ _ _ _
  constructor
  · intro same package asked
    by_contra unlistable
    have unread : package ∉ options.dependencies.flatMap Text.splitList := fun member => by
      obtain ⟨origin, -, listed⟩ := List.mem_flatMap.mp member
      exact unlistable (Text.listable_of_mem_splitList listed)
    have named :
        package ∈ (Manifest.dependencies (ofOptions (reread options)) config).map (·.1) := by
      rw [same, Manifest.mem_dependencies, direct]
      exact .inr asked
    rw [Manifest.mem_dependencies, again] at named
    obtain rfl := named.resolve_right unread
    rw [(Manifest.dependencies_listed _ config).2,
      (Manifest.dependencies_listed _ config).2] at same
    have first := (List.cons.inj same).1
    have versions := (Prod.mk.inj first).2
    rw [Manifest.versionOf, Manifest.versionOf, again, direct, if_neg unread, if_pos asked]
      at versions
    exact apart.elim unlistable (absurd versions)
  · intro listable
    rw [Manifest.dependencies, Manifest.dependencies, again, direct,
      Text.flatMap_splitList_eq_self_iff.mpr listable]

theorem outcome_eq_ok_iff {config : Config} {options : GenerateOptions} {made : Synthesis} :
    outcome config options = .ok made ↔
      Synthesis.run config options.project options.category (ofOptions options) = .ok made := by
  unfold outcome
  cases Synthesis.run config options.project options.category (ofOptions options) <;>
    simp [Except.mapError]

/-- Two projects of the same options differ by their operations or by the packages that they
depend on. -/
theorem outcome_reread_iff {config : Config} {options : GenerateOptions} {made : Synthesis}
    (direct : outcome config options = .ok made) :
    outcome config (reread options) = outcome config options ↔
      (∀ tool ∈ options.tools, Text.Listable tool) ∧
        Manifest.dependencies (ofOptions (reread options)) config =
          Manifest.dependencies (ofOptions options) config := by
  obtain ⟨category, model, known, -, shape⟩ := Synthesis.run_eq_ok (outcome_eq_ok_iff.mp direct)
  constructor
  · intro same
    obtain ⟨found, remodel, again, -, reshape⟩ :=
      Synthesis.run_eq_ok (outcome_eq_ok_iff.mp (same.trans direct))
    cases known.symm.trans again
    have parts := shape.symm.trans reshape
    simp only [Synthesis.mk.injEq, Bundle.mk.injEq] at parts
    obtain ⟨-, operations, manifest, -⟩ := parts
    exact ⟨resolve_reread_iff.mp operations.symm, Manifest.render_eq_iff.mp manifest.symm⟩
  · rintro ⟨listable, packages⟩
    have key : category.key = options.category := Category.ofKey_eq_ok_iff.mp known
    have same : Synthesis.run config options.project category.key (ofOptions (reread options)) =
        Synthesis.run config options.project category.key (ofOptions options) :=
      Synthesis.run_resolved (a := ofOptions (reread options)) (b := ofOptions options) rfl
        (resolve_reread_iff.mpr listable) rfl packages options.project
    rw [key] at same
    exact congrArg (Except.mapError Report.ofFailure) same

/-- A user who keeps all defaults gets what the options ask for after their tools and dependencies
were joined with commas and split again. That is the project that the options ask for themselves, or
the failure, if each tool and each dependency has a character, no comma and no blanks at its ends.
Of options that make a project it is so only if each tool is like that and the packages stay the
same: each dependency too is like that then, unless it is the SDK package, unpinned by the
configuration, that is not. -/
theorem kept_defaults_make_no_difference_iff (config : Config) (options : GenerateOptions)
    (start : Recording) (more : List String) :
    let asked := ((synthesize config { options with interactive := true } :
      StateM Recording _).run { start with answers := some ("" :: "" :: "" :: more) }).1
    let direct (options : GenerateOptions) :=
      ((synthesize config { options with interactive := false } : StateM Recording _).run start).1
    let again := {
      options with
      tools := options.tools.flatMap Text.splitList
      dependencies := options.dependencies.flatMap Text.splitList }
    asked = direct again ∧
    ((∀ text ∈ options.tools ++ options.dependencies, Text.Listable text) →
      asked = direct options) ∧
    ∀ made, direct options = .ok made →
      (asked = direct options ↔ (∀ tool ∈ options.tools, Text.Listable tool) ∧
        Manifest.dependencies (ofOptions again) config =
          Manifest.dependencies (ofOptions options) config) ∧
      (Text.Listable config.sdkPackage ∨ config.sdkVersion ≠ "latest" →
        (asked = direct options ↔
          ∀ text ∈ options.tools ++ options.dependencies, Text.Listable text)) := by
  intro asked direct again
  have kept : asked = outcome config (reread options) := synthesize_kept config options start more
  have alone (options : GenerateOptions) : direct options = outcome config options :=
    synthesize_silent config options start
  rw [kept, alone options, alone again]
  refine ⟨rfl, fun listable => ?_, fun made direct => ⟨outcome_reread_iff direct, fun apart => ?_⟩⟩
  · have tools : options.tools.flatMap Text.splitList = options.tools :=
      Text.flatMap_splitList_eq_self_iff.mpr fun tool asked => listable tool (by simp [asked])
    have dependencies : options.dependencies.flatMap Text.splitList = options.dependencies :=
      Text.flatMap_splitList_eq_self_iff.mpr fun package asked => listable package (by simp [asked])
    rw [reread, tools, dependencies]
    rfl
  · rw [outcome_reread_iff direct, dependencies_reread_iff apart, List.forall_mem_append]

/-- One tool with a comma in its name is offered as two. -/
theorem kept_default_with_comma :
    let options : GenerateOptions := ⟨"demo", "custom", none, ["a,b"], [], ⟨"."⟩, true, false⟩
    let start : Recording := ⟨⟨[], []⟩, "", [], some ["", "", ""]⟩
    ((synthesize .default { options with interactive := true } : StateM Recording _).run start).1 ≠
      ((synthesize .default options : StateM Recording _).run start).1 := by
  intro options start same
  have kept := synthesize_kept .default options start []
  have alone := synthesize_silent .default options start
  have again := kept.symm.trans (same.trans alone)
  have asked : (outcome .default (reread options)).toOption.map (·.operations) =
    some ["a", "b"] := by decide
  have direct : (outcome .default options).toOption.map (·.operations) = some ["a,b"] := by decide
  rw [again, direct] at asked
  exact absurd asked (by decide)

end Command.Generate

end ServerForge
