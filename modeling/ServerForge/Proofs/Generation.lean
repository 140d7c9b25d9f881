import Mathlib.Data.List.Nodup
import ServerForge.Synthesis

/-! What a successful generation is made of, and why others fail. -/
namespace ServerForge

/-- The collision that is found is the first one: up to the operation that repeats a handler, all
handlers are distinct. -/
theorem Operation.collision?_eq_some_iff {earlier operations : List Operation}
    {first second : Operation} (apart : (earlier.map (·.handler)).Nodup) :
    collision? earlier operations = some (first, second) ↔
      ∃ before after, operations = before ++ second :: after ∧ first ∈ earlier ++ before ∧
        first.handler = second.handler ∧ ((earlier ++ before).map (·.handler)).Nodup := by
  induction operations generalizing earlier with
  | nil => simp [collision?]
  | cons operation rest ih =>
    rw [collision?]
    cases found : earlier.find? (·.handler == operation.handler) with
    | some held =>
      have member : held ∈ earlier := List.mem_of_find?_eq_some found
      have same : held.handler = operation.handler := by simpa using List.find?_some found
      dsimp only
      constructor
      · rintro ⟨⟩
        exact ⟨[], rest, rfl, by simpa using member, same, by simpa using apart⟩
      · rintro ⟨_ | ⟨other, before⟩, after, listed, chosen, equal, distinct⟩
        · obtain ⟨rfl, rfl⟩ := List.cons.inj listed
          rw [List.append_nil] at chosen
          rw [List.inj_on_of_nodup_map apart member chosen (same.trans equal.symm)]
        · obtain ⟨rfl, -⟩ := List.cons.inj listed
          have unique := List.inj_on_of_nodup_map distinct (List.mem_append_left _ member)
            (List.mem_append_right _ (List.mem_cons_self ..)) same
          rw [List.map_append, List.nodup_append] at distinct
          exact absurd same (distinct.2.2 _ (List.mem_map_of_mem member) _ (by simp))
    | none =>
      have unused : ∀ other ∈ earlier, other.handler ≠ operation.handler := by
        simpa using found
      have moved (before : List Operation) :
          (operation :: earlier ++ before).Perm (earlier ++ operation :: before) :=
        List.perm_middle.symm
      dsimp only
      rw [ih (by simpa [apart] using unused)]
      constructor
      · rintro ⟨before, after, rfl, chosen, equal, distinct⟩
        exact ⟨operation :: before, after, rfl, (moved before).mem_iff.mp chosen, equal,
          ((moved before).map _).nodup_iff.mp distinct⟩
      · rintro ⟨_ | ⟨other, before⟩, after, listed, chosen, equal, distinct⟩
        · obtain ⟨rfl, rfl⟩ := List.cons.inj listed
          rw [List.append_nil] at chosen
          exact absurd equal (unused first chosen)
        · obtain ⟨rfl, rfl⟩ := List.cons.inj listed
          exact ⟨before, after, rfl, (moved before).mem_iff.mpr chosen, equal,
            ((moved before).map _).nodup_iff.mpr distinct⟩

theorem ServerModel.build_eq_ok {project version : String} {labels : List String}
    {model : ServerModel} (built : build project version labels = .ok model) :
    model.project = project ∧ model.version = version ∧
      model.operations = labels.map Operation.of := by
  unfold build at built
  dsimp only at built
  split at built
  · cases built
  · cases built
    exact ⟨rfl, rfl, rfl⟩

/-- A server is refused only because of the first operation whose handler an earlier one has. -/
theorem ServerModel.build_eq_error_iff {project version : String} {labels : List String}
    {failure : Failure} :
    build project version labels = .error failure ↔
      ∃ before second after, labels = before ++ second :: after ∧ ∃ first ∈ before,
        Naming.handlerName first = Naming.handlerName second ∧
        (before.map Naming.handlerName).Nodup ∧
        failure = .operationCollision first second (Naming.handlerName second) := by
  have refused : build project version labels = .error failure ↔
      ∃ first second, Operation.collision? [] (labels.map Operation.of) = some (first, second) ∧
        failure = .operationCollision first.label second.label second.handler := by
    unfold build
    dsimp only
    split
    next first second found =>
      constructor
      · rintro ⟨⟩
        exact ⟨first, second, found, rfl⟩
      · rintro ⟨_, _, same, rfl⟩
        cases found.symm.trans same
        rfl
    next found =>
      constructor
      · rintro ⟨⟩
      · rintro ⟨_, _, same, -⟩
        cases found.symm.trans same
  have fresh : (([] : List Operation).map (·.handler)).Nodup := List.nodup_nil
  have handlers (labels : List String) :
      (labels.map Operation.of).map (·.handler) = labels.map Naming.handlerName := by
    rw [List.map_map]
    rfl
  rw [refused]
  constructor
  · rintro ⟨_, _, found, rfl⟩
    obtain ⟨_, _, listed, chosen, equal, distinct⟩ :=
      (Operation.collision?_eq_some_iff fresh).mp found
    obtain ⟨before, rest, rfl, rfl, later⟩ := List.map_eq_append_iff.mp listed
    obtain ⟨second, after, rfl, rfl, -⟩ := List.map_eq_cons_iff.mp later
    obtain ⟨first, member, rfl⟩ := List.mem_map.mp chosen
    rw [List.nil_append, handlers] at distinct
    exact ⟨before, second, after, rfl, first, member, equal, distinct, rfl⟩
  · rintro ⟨before, second, after, rfl, first, member, equal, distinct, rfl⟩
    rw [← handlers] at distinct
    exact ⟨.of first, .of second, (Operation.collision?_eq_some_iff fresh).mpr
      ⟨before.map .of, after.map .of, by simp, List.mem_map_of_mem member, equal, distinct⟩, rfl⟩

theorem Synthesis.run_of_unknown {categoryKey : String} {failure : Failure}
    (unknown : Category.ofKey categoryKey = .error failure) (config : Config) (project : String)
    (requirements : Requirements) :
    run config project categoryKey requirements = .error failure := by
  rw [run, unknown]
  rfl

/-- A synthesis comes from a known category and a model of the operations it resolves to. -/
theorem Synthesis.run_eq_ok {config : Config} {project categoryKey : String}
    {requirements : Requirements} {synthesis : Synthesis}
    (made : run config project categoryKey requirements = .ok synthesis) :
    ∃ category model, Category.ofKey categoryKey = .ok category ∧
      ServerModel.build project config.serverVersion (resolve category requirements) = .ok model ∧
      synthesis = ⟨category, resolve category requirements, {
        manifest := Manifest.render project requirements config
        serverSource := ServerSource.render model
        readme := Readme.render model category requirements config
        buildConfig := Manifest.buildConfig
        ignoreRules := Manifest.ignoreRules }⟩ := by
  unfold run at made
  cases known : Category.ofKey categoryKey with
  | error failure => simp [known, bind, Except.bind] at made
  | ok category =>
    cases built : ServerModel.build project config.serverVersion
        (resolve category requirements) with
    | error failure => simp [known, built, bind, Except.bind] at made
    | ok model =>
      simp only [known, built, bind, Except.bind, pure, Except.pure, Except.ok.injEq] at made
      exact ⟨category, model, rfl, built, made.symm⟩

/-- The category is looked up first, then a handler that two operations share is reported. -/
theorem Synthesis.run_eq_error_iff {config : Config} {project categoryKey : String}
    {requirements : Requirements} {failure : Failure} :
    run config project categoryKey requirements = .error failure ↔
      (categoryKey ∉ Category.keys ∧ failure = .unknownCategory categoryKey) ∨
        ∃ category : Category, category.key = categoryKey ∧
          ServerModel.build project config.serverVersion (resolve category requirements) =
            .error failure := by
  rw [← Category.ofKey_eq_error_iff]
  simp only [← Category.ofKey_eq_ok_iff]
  unfold run
  cases known : Category.ofKey categoryKey with
  | error other => simp [bind, Except.bind]
  | ok category =>
    cases built : ServerModel.build project config.serverVersion
        (resolve category requirements) with
    | error other => simp [built, bind, Except.bind]
    | ok model => simp [built, bind, Except.bind, pure, Except.pure]

end ServerForge
