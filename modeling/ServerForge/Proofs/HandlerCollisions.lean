import ServerForge.Lookup
import ServerForge.Proofs.Generation

/-! Which operations make up a server. Main statement: a list of operations is refused exactly if
two of them share a handler, and what is reported is the first entry whose handler is taken, with
the one entry that took it. A single pass that keeps a map of the handlers comes to the same. -/
namespace ServerForge

/-! ## What is built -/

theorem ServerModel.build_isOk_iff {project version : String} {labels : List String} :
    (∃ model, build project version labels = .ok model) ↔
      (labels.map Naming.handlerName).Nodup := by
  constructor
  · rintro ⟨model, built⟩
    obtain ⟨-, -, operations⟩ := build_eq_ok built
    have distinct := model.distinct
    rw [operations, List.map_map] at distinct
    exact distinct
  · intro distinct
    cases built : build project version labels with
    | ok model => exact ⟨model, rfl⟩
    | error failure =>
      obtain ⟨before, second, after, rfl, first, member, same, -, -⟩ :=
        build_eq_error_iff.mp built
      rw [List.map_append, List.nodup_append] at distinct
      exact absurd same (distinct.2.2 _ (List.mem_map_of_mem member) _ (by simp))

/-! ## A pass with a map -/

/-- What a pass over the labels keeps: the label that took each handler, and the operations. -/
structure HandlerScan where
  taken : List (String × String)
  operations : List Operation

namespace HandlerScan

def start : HandlerScan := ⟨[], []⟩

/-- A label takes its handler, whichever label had it; if one had, the pass ends. -/
def step (scan : HandlerScan) (label : String) : Except Failure HandlerScan :=
  let handler := Naming.handlerName label
  match scan.taken.lookup handler with
  | some first => throw (.operationCollision first label handler)
  | none => return ⟨Lookup.replace handler label scan.taken, scan.operations ++ [.of label]⟩

def run (labels : List String) : Except Failure (List Operation) :=
  (·.operations) <$> labels.foldlM step start

/-- The map holds the handlers of the labels passed and no others, each with its label. -/
structure Invariant (passed : List String) (scan : HandlerScan) : Prop where
  operations : scan.operations = passed.map Operation.of
  taken (handler label : String) : scan.taken.lookup handler = some label ↔
    label ∈ passed ∧ Naming.handlerName label = handler
  distinct : (passed.map Naming.handlerName).Nodup

theorem start_invariant : Invariant [] start where
  operations := rfl
  taken handler label := by simp [start]
  distinct := List.nodup_nil

variable {passed : List String} {scan : HandlerScan}

theorem Invariant.lookup_eq_none (valid : Invariant passed scan) {handler : String} :
    scan.taken.lookup handler = none ↔ ∀ label ∈ passed, Naming.handlerName label ≠ handler := by
  rw [Option.eq_none_iff_forall_ne_some]
  constructor
  · intro missing label member same
    exact missing label ((valid.taken handler label).mpr ⟨member, same⟩)
  · intro unused label found
    obtain ⟨member, same⟩ := (valid.taken handler label).mp found
    exact unused label member same

theorem Invariant.concat (valid : Invariant passed scan) {label : String}
    (unused : ∀ other ∈ passed, Naming.handlerName other ≠ Naming.handlerName label) :
    Invariant (passed ++ [label]) ⟨Lookup.replace (Naming.handlerName label) label scan.taken,
      scan.operations ++ [.of label]⟩ where
  operations := by rw [valid.operations, List.map_append, List.map_singleton]
  taken handler other := by
    rw [List.mem_append, List.mem_singleton]
    by_cases same : handler = Naming.handlerName label
    · subst same
      rw [Lookup.lookup_replace_same, Option.some.injEq]
      constructor
      · rintro rfl
        exact ⟨.inr rfl, rfl⟩
      · rintro ⟨member | rfl, equal⟩
        · exact absurd equal (unused other member)
        · rfl
    · rw [Lookup.lookup_replace_other same, valid.taken]
      constructor
      · rintro ⟨member, equal⟩
        exact ⟨.inl member, equal⟩
      · rintro ⟨member | rfl, equal⟩
        · exact ⟨member, equal⟩
        · exact absurd equal.symm same
  distinct := by
    rw [List.map_append, List.map_singleton, List.nodup_append]
    refine ⟨valid.distinct, List.nodup_singleton _, ?_⟩
    intro handler member other last
    obtain ⟨earlier, inside, rfl⟩ := List.mem_map.mp member
    rw [List.mem_singleton.mp last]
    exact unused earlier inside

/-- The next label collides with the one that has its handler, or extends what the map holds. -/
theorem step_cases (valid : Invariant passed scan) (label : String) :
    (∃ first ∈ passed, Naming.handlerName first = Naming.handlerName label ∧
      scan.step label = .error (.operationCollision first label (Naming.handlerName label))) ∨
    ∃ next, scan.step label = .ok next ∧ Invariant (passed ++ [label]) next := by
  cases found : scan.taken.lookup (Naming.handlerName label) with
  | some first =>
    obtain ⟨member, same⟩ := (valid.taken _ first).mp found
    refine .inl ⟨first, member, same, ?_⟩
    simp only [step, found]
    rfl
  | none =>
    refine .inr ⟨_, ?_, valid.concat (valid.lookup_eq_none.mp found)⟩
    simp only [step, found]
    rfl

/-- A pass comes to its end, or to the first label whose handler is taken. -/
theorem foldlM_cases (valid : Invariant passed scan) (labels : List String) :
    (∃ last, labels.foldlM step scan = .ok last ∧ Invariant (passed ++ labels) last) ∨
    ∃ before second after, labels = before ++ second :: after ∧ ∃ first ∈ passed ++ before,
      Naming.handlerName first = Naming.handlerName second ∧
      ((passed ++ before).map Naming.handlerName).Nodup ∧
      labels.foldlM step scan =
        .error (.operationCollision first second (Naming.handlerName second)) := by
  induction labels generalizing passed scan with
  | nil => exact .inl ⟨scan, rfl, by simpa using valid⟩
  | cons label labels ih =>
    rw [List.foldlM_cons]
    rcases step_cases valid label with ⟨first, member, same, stopped⟩ | ⟨next, stepped, kept⟩
    · refine .inr ⟨[], label, labels, rfl, first, by simpa using member, same,
        by simpa using valid.distinct, ?_⟩
      rw [stopped]
      rfl
    · have moved (rest : List String) : passed ++ [label] ++ rest = passed ++ label :: rest := by
        rw [List.append_assoc, List.singleton_append]
      rw [stepped]
      rcases ih kept with ⟨last, ended, valid⟩ |
        ⟨before, second, after, rfl, first, member, same, distinct, stopped⟩
      · rw [moved] at valid
        exact .inl ⟨last, ended, valid⟩
      · rw [moved] at member distinct
        exact .inr ⟨label :: before, second, after, rfl, first, member, same, distinct, stopped⟩

/-- The pass finds what a search through all earlier operations finds. -/
theorem run_eq_build (project version : String) (labels : List String) :
    run labels = (·.operations) <$> ServerModel.build project version labels := by
  unfold run
  rcases foldlM_cases start_invariant labels with ⟨last, ended, valid⟩ |
    ⟨before, second, after, listed, first, member, same, distinct, stopped⟩
  · obtain ⟨model, built⟩ := ServerModel.build_isOk_iff.mpr valid.distinct
    obtain ⟨-, -, operations⟩ := ServerModel.build_eq_ok built
    rw [List.nil_append] at built
    rw [ended, built]
    exact congrArg Except.ok (valid.operations.trans operations.symm)
  · rw [stopped, ServerModel.build_eq_error_iff.mpr
      ⟨before, second, after, listed, first, member, same, distinct, rfl⟩]
    rfl

end HandlerScan

namespace ServerModel

/-! ## What a server lists and dispatches -/

/-- A list that the form of a model holds. -/
def listed (model : ServerModel) (list : String) : List Json :=
  match model.toJson.get? list with
  | some (.arr items) => items
  | _ => []

/-- The operations that the server advertises. -/
def descriptorNames (model : ServerModel) : List String :=
  (model.listed "descriptors").filterMap fun descriptor =>
    (descriptor.get? "name").bind Json.text?

/-- The branches of the dispatcher, each as its label and the method that it routes to. -/
def routes (model : ServerModel) : List (String × String) :=
  (model.listed "dispatch").filterMap fun branch => do
    let label ← (branch.get? "label").bind Json.text?
    let handler ← (branch.get? "handler").bind Json.text?
    return (label, handler)

theorem descriptorNames_eq (model : ServerModel) : model.descriptorNames = model.labels := by
  change (model.operations.map Operation.descriptor).filterMap _ = _
  rw [List.filterMap_map]
  exact congrFun (List.filterMap_eq_map (f := Operation.label)) model.operations

theorem routes_eq (model : ServerModel) :
    model.routes = model.operations.map fun operation => (operation.label, operation.handler) := by
  change (model.operations.map Operation.branch).filterMap _ = _
  rw [List.filterMap_map]
  exact congrFun (List.filterMap_eq_map
    (f := fun operation : Operation => (operation.label, operation.handler))) model.operations

/-! ## What is refused -/

/-- The entry at this place has the handler of an earlier one. -/
def RepeatsAt (labels : List String) (j : Nat) : Prop :=
  ∃ i < j, ∃ first second, labels[i]? = some first ∧ labels[j]? = some second ∧
    Naming.handlerName first = Naming.handlerName second

/-- Where all handlers are distinct, one that is held twice is held in one place. -/
theorem eq_of_handlerName_eq {labels : List String}
    (distinct : (labels.map Naming.handlerName).Nodup) {i j : Nat} {first second : String}
    (atFirst : labels[i]? = some first) (atSecond : labels[j]? = some second)
    (same : Naming.handlerName first = Naming.handlerName second) : i = j := by
  have bound : i < (labels.map Naming.handlerName).length := by
    rw [List.length_map]
    exact (List.getElem?_eq_some_iff.mp atFirst).1
  apply (List.getElem?_inj bound distinct).mp
  rw [List.getElem?_map, List.getElem?_map, atFirst, atSecond, Option.map_some, Option.map_some,
    same]

/-- What is reported of a list that is refused: its first entry whose handler is taken, with the
one entry before it that has this handler. -/
theorem exists_first_repeat {project version : String} {labels : List String} {failure : Failure}
    (refused : build project version labels = .error failure) :
    ∃ j second, labels[j]? = some second ∧ RepeatsAt labels j ∧ (∀ k < j, ¬ RepeatsAt labels k) ∧
      ∃ i < j, ∃ first, labels[i]? = some first ∧
        Naming.handlerName first = Naming.handlerName second ∧
        (∀ k < j, ∀ other, labels[k]? = some other →
          Naming.handlerName other = Naming.handlerName second → k = i) ∧
        failure = .operationCollision first second (Naming.handlerName second) := by
  obtain ⟨before, second, after, rfl, first, member, same, distinct, rfl⟩ :=
    build_eq_error_iff.mp refused
  have earlier {k : Nat} (inside : k < before.length) :
      (before ++ second :: after)[k]? = before[k]? := List.getElem?_append_left inside
  obtain ⟨i, bound, atFirst⟩ := List.mem_iff_getElem.mp member
  have atFirst : before[i]? = some first := List.getElem?_eq_some_iff.mpr ⟨bound, atFirst⟩
  have atSecond : (before ++ second :: after)[before.length]? = some second := by
    rw [List.getElem?_append_right (Nat.le_refl _), Nat.sub_self]
    rfl
  refine ⟨before.length, second, atSecond,
    ⟨i, bound, first, second, by rw [earlier bound, atFirst], atSecond, same⟩, ?_,
    i, bound, first, by rw [earlier bound, atFirst], same, ?_, rfl⟩
  · rintro k inside ⟨l, below, a, b, atA, atB, equal⟩
    rw [earlier (Nat.lt_trans below inside)] at atA
    rw [earlier inside] at atB
    exact Nat.ne_of_lt below (eq_of_handlerName_eq distinct atA atB equal)
  · intro k inside other atOther equal
    rw [earlier inside] at atOther
    exact eq_of_handlerName_eq distinct atOther atFirst (equal.trans same.symm)

/-- A server is built exactly from operations that share no handler. It then lists and dispatches
just these, and routes each to its own handler; else the first entry whose handler is taken is
reported with the one entry that took it. A pass with a map of the handlers decides no other way. -/
theorem build_refuses_first_repeat (project version : String) (labels : List String) :
    let built := build project version labels
    ((∃ model, built = .ok model) ↔ (labels.map Naming.handlerName).Nodup) ∧
    (∀ model, built = .ok model →
      model.descriptorNames = labels ∧ model.routes.map (·.1) = labels ∧ labels.Nodup ∧
      ∀ name, (model.routes.filter (·.1 = name)).length ≤ 1 ∧
        ∀ route ∈ model.routes, route.1 = name → route.2 = Naming.handlerName name) ∧
    (∀ failure, built = .error failure →
      ∃ j second, labels[j]? = some second ∧ RepeatsAt labels j ∧
        (∀ k < j, ¬ RepeatsAt labels k) ∧
        ∃ i < j, ∃ first, labels[i]? = some first ∧
          Naming.handlerName first = Naming.handlerName second ∧
          (∀ k < j, ∀ other, labels[k]? = some other →
            Naming.handlerName other = Naming.handlerName second → k = i) ∧
          failure = .operationCollision first second (Naming.handlerName second)) ∧
    HandlerScan.run labels = (·.operations) <$> built := by
  intro built
  refine ⟨build_isOk_iff, ?_, fun failure => exists_first_repeat,
    HandlerScan.run_eq_build project version labels⟩
  intro model success
  obtain ⟨-, -, operations⟩ := build_eq_ok success
  have distinct : labels.Nodup := .of_map _ (build_isOk_iff.mp ⟨model, success⟩)
  have routes : model.routes = labels.map fun label => (label, Naming.handlerName label) := by
    rw [routes_eq, operations, List.map_map]
    rfl
  have listed : model.labels = labels := by
    rw [ServerModel.labels, operations, List.map_map]
    exact List.map_id _
  refine ⟨(descriptorNames_eq model).trans listed, ?_, distinct, fun name => ⟨?_, ?_⟩⟩
  · rw [routes, List.map_map]
    exact List.map_id _
  · rw [routes, List.filter_map, List.length_map, ← List.countP_eq_length_filter]
    exact List.nodup_iff_count_le_one.mp distinct name
  · intro route member same
    rw [routes] at member
    obtain ⟨label, -, rfl⟩ := List.mem_map.mp member
    rw [← show label = name from same]

end ServerModel

end ServerForge
