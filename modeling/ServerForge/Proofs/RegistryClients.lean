import Mathlib.Data.List.Basic
import ServerForge.SharedRegistry

/-! What the clients of a registry see of each other. Main statement: in whatever order they take
their steps, and through whatever clones of a handle, every bundle that is put under a name comes
back exactly once, from the put that replaces it or from a last get; a get has the bundle that was
put last; and whoever holds a bundle keeps it as it was. -/
namespace ServerForge.SharedMemory

variable {memory next : SharedMemory} {registry : Nat} {project : String} {reference : BundleRef}
  {bundle : Bundle}

/-! ## What a step does -/

/-- What clients find under a name. -/
def current? (memory : SharedMemory) (registry : Nat) (project : String) : Option Bundle :=
  (memory.find? registry project).bind memory.content?

/-- The bundle that a step puts under a name, if that is what it does. -/
def Step.given? (registry : Nat) (project : String) (step : Step) : Option Bundle :=
  match step.action with
  | .put name bundle =>
    if step.handle.registry = registry ∧ name = project then some bundle else none
  | .get _ => none

/-- Whatever stands in a registry leads to a bundle. -/
def Valid (memory : SharedMemory) : Prop :=
  ∀ registry project reference, memory.find? registry project = some reference →
    ∃ bundle, memory.content? reference = some bundle

theorem empty_valid : Valid empty := fun _ _ _ found => nomatch found

/-- The memory only grows, so what was in it can be read from then on. -/
theorem content?_of_prefix (grown : memory.bundles <+: next.bundles)
    (held : memory.content? reference = some bundle) : next.content? reference = some bundle := by
  obtain ⟨added, grown⟩ := grown
  obtain ⟨bound, -⟩ := List.getElem?_eq_some_iff.mp held
  rw [content?, ← grown, List.getElem?_append_left bound]
  exact held

theorem find?_put (memory : SharedMemory) (handle : RegistryHandle) (name : String)
    (bundle : Bundle) (registry : Nat) (project : String) :
    (memory.put handle name bundle).2.find? registry project =
      if handle.registry = registry ∧ name = project then some ⟨memory.bundles.length⟩
      else memory.find? registry project := by
  unfold find? entries put
  by_cases reached : handle.registry = registry
  · subst reached
    rw [Lookup.lookup_replace_same, Option.getD_some]
    by_cases same : name = project
    · simp [same]
    · rw [Lookup.lookup_replace_other (Ne.symm same)]
      simp [same, entries]
  · rw [Lookup.lookup_replace_other (Ne.symm reached)]
    simp [reached]

theorem content?_put (memory : SharedMemory) (handle : RegistryHandle) (name : String)
    (bundle : Bundle) :
    (memory.put handle name bundle).2.content? ⟨memory.bundles.length⟩ = some bundle := by
  simp [content?, put]

theorem bundles_step (memory : SharedMemory) (step : Step) :
    memory.bundles <+: (memory.step step).2.bundles := by
  unfold SharedMemory.step
  split
  · exact List.prefix_append _ _
  · exact List.prefix_rfl

/-- All that a step can do to a name: nothing, or the new bundle takes the place of the old one,
which is the answer. -/
theorem step_cases (memory : SharedMemory) (step : Step) (registry : Nat) (project : String) :
    (step.given? registry project = none ∧
      (memory.step step).2.find? registry project = memory.find? registry project) ∨
    ∃ bundle reference, step.given? registry project = some bundle ∧
      (memory.step step).1 = .replaced (memory.find? registry project) ∧
      (memory.step step).2.find? registry project = some reference ∧
      (memory.step step).2.content? reference = some bundle := by
  obtain ⟨handle, action⟩ := step
  cases action with
  | get name => exact .inl ⟨rfl, rfl⟩
  | put name bundle =>
    have found := find?_put memory handle name bundle registry project
    by_cases here : handle.registry = registry ∧ name = project
    · rw [if_pos here] at found
      refine .inr ⟨bundle, _, if_pos here, ?_, found, content?_put memory handle name bundle⟩
      obtain ⟨rfl, rfl⟩ := here
      rfl
    · rw [if_neg here] at found
      exact .inl ⟨if_neg here, found⟩

theorem step_valid (valid : memory.Valid) (step : Step) : (memory.step step).2.Valid := by
  intro registry project reference found
  rcases step_cases memory step registry project with ⟨-, kept⟩ | ⟨bundle, new, -, -, placed, held⟩
  · obtain ⟨bundle, held⟩ := valid registry project reference (kept.symm.trans found)
    exact ⟨bundle, content?_of_prefix (bundles_step memory step) held⟩
  · cases placed.symm.trans found
    exact ⟨bundle, held⟩

/-- What is found under a name stays until another bundle is put there. -/
theorem current?_step (valid : memory.Valid) (step : Step) (registry : Nat) (project : String) :
    (memory.step step).2.current? registry project =
      (step.given? registry project).or (memory.current? registry project) := by
  unfold current?
  rcases step_cases memory step registry project with ⟨idle, kept⟩ | ⟨bundle, new, put, -, placed,
    held⟩
  · rw [idle, kept, Option.none_or]
    cases found : memory.find? registry project with
    | none => rfl
    | some reference =>
      obtain ⟨bundle, held⟩ := valid registry project reference found
      rw [Option.bind_some, Option.bind_some, held,
        content?_of_prefix (bundles_step memory step) held]
  · rw [put, placed, Option.bind_some, held, Option.some_or]

/-! ## Runs -/

theorem run_cons (memory : SharedMemory) (step : Step) (steps : List Step) :
    memory.run (step :: steps) =
      ((step, (memory.step step).1) :: ((memory.step step).2.run steps).1,
        ((memory.step step).2.run steps).2) := rfl

theorem bundles_run (memory : SharedMemory) (steps : List Step) :
    memory.bundles <+: (memory.run steps).2.bundles := by
  induction steps generalizing memory with
  | nil => exact List.prefix_rfl
  | cons step steps ih => exact (bundles_step memory step).trans (ih _)

theorem run_valid (valid : memory.Valid) (steps : List Step) : (memory.run steps).2.Valid := by
  induction steps generalizing memory with
  | nil => exact valid
  | cons step steps ih => exact ih (step_valid valid step)

theorem run_append (memory : SharedMemory) (before after : List Step) :
    memory.run (before ++ after) =
      ((memory.run before).1 ++ ((memory.run before).2.run after).1,
        ((memory.run before).2.run after).2) := by
  induction before generalizing memory with
  | nil => rfl
  | cons step before ih =>
    rw [List.cons_append, run_cons, run_cons, ih]
    rfl

theorem length_run (memory : SharedMemory) (steps : List Step) :
    (memory.run steps).1.length = steps.length := by
  induction steps generalizing memory with
  | nil => rfl
  | cons step steps ih => exact congrArg (· + 1) (ih _)

/-- The bundles that steps put under a name, through whatever handles. -/
def given (registry : Nat) (project : String) (steps : List Step) : List Bundle :=
  steps.filterMap (·.given? registry project)

theorem given_cons (registry : Nat) (project : String) (step : Step) (steps : List Step) :
    given registry project (step :: steps) =
      (step.given? registry project).toList ++ given registry project steps := by
  rw [given, List.filterMap_cons]
  cases step.given? registry project <;> rfl

/-- What the puts under a name answered. -/
def replaced (registry : Nat) (project : String) (log : List (Step × Answer)) : List BundleRef :=
  log.filterMap fun
    | (step, .replaced previous) => if (step.given? registry project).isSome then previous else none
    | (_, .fetched _) => none

theorem current?_run (valid : memory.Valid) (steps : List Step) (registry : Nat)
    (project : String) :
    (memory.run steps).2.current? registry project =
      (given registry project steps).getLast?.or (memory.current? registry project) := by
  induction steps generalizing memory with
  | nil => rfl
  | cons step steps ih =>
    have first : (step.given? registry project).toList.getLast? = step.given? registry project := by
      cases step.given? registry project <;> rfl
    rw [run_cons, ih (step_valid valid step), current?_step valid, given_cons, List.getLast?_append,
      first, Option.or_assoc]

/-- The answer of the first step, as far as it belongs to a name. -/
theorem replaced_cons (registry : Nat) (project : String) (entry : Step × Answer)
    (log : List (Step × Answer)) :
    replaced registry project (entry :: log) =
      replaced registry project [entry] ++ replaced registry project log :=
  List.filterMap_append (l := [entry])

/-- One step moves what was under a name into its answer, or leaves it there. -/
theorem step_accounts (valid : memory.Valid) (step : Step) (registry : Nat) (project : String) :
    let next := (memory.step step).2
    let answered := replaced registry project [(step, (memory.step step).1)]
    (∀ reference ∈ answered, ∃ bundle, next.content? reference = some bundle) ∧
    (answered ++ (next.find? registry project).toList).map next.content? =
      (memory.find? registry project).toList.map memory.content? ++
        (step.given? registry project).toList.map some := by
  dsimp only
  have grown := bundles_step memory step
  have same : (memory.find? registry project).toList.map (memory.step step).2.content? =
      (memory.find? registry project).toList.map memory.content? := by
    refine List.map_congr_left fun reference member => ?_
    obtain ⟨bundle, held⟩ := valid registry project reference (Option.mem_toList.mp member)
    rw [held, content?_of_prefix grown held]
  rcases step_cases memory step registry project with ⟨idle, kept⟩ | ⟨bundle, new, put, answered,
    placed, held⟩
  · have unanswered : replaced registry project [(step, (memory.step step).1)] = [] := by
      unfold replaced
      cases (memory.step step).1 <;> simp [idle]
    rw [unanswered, kept, idle]
    simpa using same
  · have moved : replaced registry project [(step, (memory.step step).1)] =
        (memory.find? registry project).toList := by
      rw [answered]
      unfold replaced
      cases memory.find? registry project <;> simp [put]
    rw [moved, placed, put, List.map_append, same]
    refine ⟨fun reference member => ?_, by simp [held]⟩
    obtain ⟨old, held⟩ := valid registry project reference (Option.mem_toList.mp member)
    exact ⟨old, content?_of_prefix grown held⟩

theorem run_accounts (valid : memory.Valid) (steps : List Step) (registry : Nat)
    (project : String) :
    let last := (memory.run steps).2
    (replaced registry project (memory.run steps).1 ++
        (last.find? registry project).toList).map last.content? =
      (memory.find? registry project).toList.map memory.content? ++
        (given registry project steps).map some := by
  induction steps generalizing memory with
  | nil => simp [run, replaced, given]
  | cons step steps ih =>
    obtain ⟨held, first⟩ := step_accounts valid step registry project
    have later := ih (step_valid valid step)
    have grown := bundles_run (memory.step step).2 steps
    rw [run_cons]
    dsimp only at held first later ⊢
    -- What the first step answered is read in the last memory as in the one right after it.
    have kept : (replaced registry project [(step, (memory.step step).1)]).map
          ((memory.step step).2.run steps).2.content? =
        (replaced registry project [(step, (memory.step step).1)]).map
          (memory.step step).2.content? := by
      refine List.map_congr_left fun reference member => ?_
      obtain ⟨bundle, there⟩ := held reference member
      rw [there, content?_of_prefix grown there]
    rw [replaced_cons, List.append_assoc, List.map_append, later, kept, given_cons, List.map_append,
      ← List.append_assoc, ← List.append_assoc, ← first, List.map_append]

/-- The answer that a step gets in the middle of a run. -/
theorem log_run (memory : SharedMemory) (before : List Step) (step : Step) (after : List Step) :
    (memory.run (before ++ step :: after)).1[before.length]? =
      some (step, ((memory.run before).2.step step).1) := by
  rw [run_append, ← length_run memory before, List.getElem?_append_right (Nat.le_refl _),
    Nat.sub_self]
  rfl

/-- A get finds just what is current. -/
theorem get_spec (valid : memory.Valid) (handle : RegistryHandle) (project : String) :
    match memory.current? handle.registry project with
    | none => memory.get handle project = .error (.projectNotFound project)
    | some bundle => ∃ reference, memory.get handle project = .ok reference ∧
        memory.content? reference = some bundle := by
  unfold current? get
  cases found : memory.find? handle.registry project with
  | none => rfl
  | some reference =>
    obtain ⟨bundle, held⟩ := valid handle.registry project reference found
    rw [Option.bind_some, held]
    exact ⟨reference, rfl, held⟩

/-! ## A registry that is held alone -/

/-- Whoever looks under the names of a registry finds what a registry held alone would have. -/
def Shows (memory : SharedMemory) (registry : Nat) (alone : Registry) : Prop :=
  ∀ project, memory.current? registry project = alone.find? project

/-- What a step makes of a registry that is held alone. -/
def Step.apply (registry : Nat) (alone : Registry) (step : Step) : Registry :=
  match step.action with
  | .put project bundle =>
    if step.handle.registry = registry then alone.put project bundle else alone
  | .get _ => alone

theorem step_shows (valid : memory.Valid) {alone : Registry} (alike : memory.Shows registry alone)
    (step : Step) : (memory.step step).2.Shows registry (step.apply registry alone) := by
  intro project
  rw [current?_step valid, alike project]
  obtain ⟨handle, action⟩ := step
  cases action with
  | get name => rfl
  | put name bundle =>
    unfold Step.given? Step.apply
    by_cases reached : handle.registry = registry
    · by_cases same : name = project
      · subst same
        simp [reached]
      · simp [reached, same, Registry.find?_put_other alone bundle (Ne.symm same)]
    · simp [reached]

/-- Sharing adds nothing: each registry is what the puts that reach it make of one held alone. -/
theorem run_shows (valid : memory.Valid) {alone : Registry} (alike : memory.Shows registry alone)
    (steps : List Step) :
    (memory.run steps).2.Shows registry (steps.foldl (Step.apply registry) alone) := by
  induction steps generalizing memory alone with
  | nil => exact alike
  | cons step steps ih => exact ih (step_valid valid step) (step_shows valid alike step)

/-! ## All clients together -/

/-- Clients take their steps in any order, through any handles on any registries. Of the bundles put
under a name of a registry each one comes back once and in order: replaced by the next put, or last
from a get. A get through any clone has the bundle of the last put before it, and refuses a name
without one; the bundle stays as it was fetched, and so does all else in the memory. -/
theorem clients_lose_no_bundle (steps : List Step) (registry : Nat) (project : String) :
    let ran := empty.run steps
    (∀ handle : RegistryHandle, handle.registry = registry →
      (replaced registry project ran.1 ++ (ran.2.get handle project).toOption.toList).map
        ran.2.content? = (given registry project steps).map some) ∧
    (∀ before (handle : RegistryHandle) after, handle.registry = registry →
      steps = before ++ ⟨handle, .get project⟩ :: after →
      ∃ found, ran.1[before.length]? = some (⟨handle, .get project⟩, .fetched found) ∧
        match (given registry project before).getLast? with
        | none => found = .error (.projectNotFound project)
        | some bundle => ∃ reference, found = .ok reference ∧ ∀ later, later <+: after →
            (empty.run (before ++ ⟨handle, .get project⟩ :: later)).2.content? reference =
              some bundle) ∧
    ∀ before after, steps = before ++ after → ∀ reference bundle,
      (empty.run before).2.content? reference = some bundle →
        ran.2.content? reference = some bundle := by
  have stays (before after : List Step) (reference : BundleRef) (bundle : Bundle)
      (held : (empty.run before).2.content? reference = some bundle) :
      (empty.run (before ++ after)).2.content? reference = some bundle := by
    rw [run_append]
    exact content?_of_prefix (bundles_run _ after) held
  refine ⟨?_, ?_, ?_⟩
  · rintro handle rfl
    have fetched : ((empty.run steps).2.get handle project).toOption =
        (empty.run steps).2.find? handle.registry project := by
      unfold get
      cases (empty.run steps).2.find? handle.registry project <;> rfl
    rw [fetched]
    exact run_accounts empty_valid steps handle.registry project
  · rintro before handle after rfl rfl
    refine ⟨_, log_run empty before ⟨handle, .get project⟩ after, ?_⟩
    have current := current?_run empty_valid before handle.registry project
    have nothing : empty.current? handle.registry project = none := rfl
    rw [nothing, Option.or_none] at current
    have answered := get_spec (run_valid empty_valid before) handle project
    rw [current] at answered
    cases last : (given handle.registry project before).getLast? with
    | none => simpa only [last] using answered
    | some bundle =>
      rw [last] at answered
      obtain ⟨reference, found, held⟩ := answered
      exact ⟨reference, found, fun later _ => stays before _ reference bundle held⟩
  · rintro before after rfl
    exact stays before after

example : let demo : Bundle := ⟨"m", "s", "r", "b", "i"⟩
    let handle : RegistryHandle := ⟨0⟩
    let ran := empty.run [⟨handle, .put "a" demo⟩, ⟨⟨1⟩, .put "a" { demo with readme := "x" }⟩,
      ⟨handle.clone, .put "a" { demo with readme := "y" }⟩]
    (replaced 0 "a" ran.1).map ran.2.content? = [some demo] ∧ replaced 1 "a" ran.1 = [] := by
  decide

end ServerForge.SharedMemory
