import ServerForge.Proofs.ProjectFiles

/-! The files of a project, written in any order. Each write takes effect on the one tree at some
moment, and its result is kept at the place of its file; once all have come back, they are reported
in the order of the project. Main statement: every order comes to the same report and to the same
entries as one write after the other does. -/
namespace ServerForge.Save

open Files

/-- The tree, and the results of the writes that took effect, each at the place of its file. -/
structure Underway where
  tree : Tree
  results : List (Option (Except Fault Unit))

def started (artifacts : List (Path × String)) (tree : Tree) : Underway :=
  ⟨tree, artifacts.map fun _ => none⟩

section
variable (root : Path) (artifacts : List (Path × String))

/-- The write at one place takes effect. One that did so before is not made again. -/
def advance (place : Nat) (state : Underway) : Underway :=
  match artifacts[place]?, state.results[place]? with
  | some artifact, some none =>
    let (result, tree) := state.tree.write (root.join artifact.1) artifact.2
    ⟨tree, state.results.set place (some result)⟩
  | _, _ => state

def execute : List Nat → Underway → Underway
  | [], state => state
  | place :: order, state => execute order (advance root artifacts place state)

/-- The report once the last result is there. -/
def Underway.report? (state : Underway) : Option (Except Failure SavedProject) :=
  (state.results.mapM id).map fun results =>
    outcome root ((artifacts.map fun artifact => root.join artifact.1).zip results)

end

/-- Saving, with the writes taking effect in some order. -/
def runInOrder (order : List Nat) (bundle : Bundle) (output : Path) (project : String)
    (tree : Tree) : Option (Except Failure SavedProject) × Tree :=
  match Save.root output project with
  | .error failure => (some (.error failure), tree)
  | .ok root =>
    let source := root.join Bundle.sourceDirectory
    match tree.makeDirectories source with
    | (.error fault, made) => (some (.error (.writeFailure root [(source, fault)])), made)
    | (.ok (), made) =>
      let last := execute root bundle.artifacts order (started bundle.artifacts made)
      (last.report? root bundle.artifacts, last.tree)

/-! ## What every order keeps to -/

/-- After the writes at some places: each has the result that it would have had in the tree before,
the files of those that were not refused are in their places, and all else is as it was. -/
structure Reached (root : Path) (bundle : Bundle) (made : Tree) (done : List Nat)
    (state : Underway) : Prop where
  here : state.tree.here = made.here
  there : state.tree.isDirectory (root.join Bundle.sourceDirectory) = true
  results : ∀ place, state.results[place]? = bundle.artifacts[place]?.map fun artifact =>
    if place ∈ done then some (verdict made (root.join artifact.1)) else none
  written : ∀ place ∈ done, ∀ artifact, bundle.artifacts[place]? = some artifact →
    ¬ made.Blocked (root.join artifact.1) →
      state.tree.find? ((root.join artifact.1).destination made.here) = some (.file artifact.2)
  kept : ∀ location, (∀ place ∈ done, ∀ artifact, bundle.artifacts[place]? = some artifact →
    ¬ made.Blocked (root.join artifact.1) →
      location ≠ (root.join artifact.1).destination made.here) →
    state.tree.find? location = made.find? location

section
variable {root : Path} {bundle : Bundle} {made : Tree}

theorem started_reached (there : made.isDirectory (root.join Bundle.sourceDirectory) = true) :
    Reached root bundle made [] (started bundle.artifacts made) where
  here := rfl
  there := there
  results place := by simp only [started, List.getElem?_map, List.not_mem_nil, if_false]
  written := by simp
  kept := fun _ _ => rfl

/-- Only which of the files were tried matters. -/
theorem Reached.of_same {done later : List Nat} {state : Underway}
    (valid : Reached root bundle made done state)
    (same : ∀ place artifact, bundle.artifacts[place]? = some artifact →
      (place ∈ later ↔ place ∈ done)) : Reached root bundle made later state where
  here := valid.here
  there := valid.there
  results place := by
    rw [valid.results place]
    cases listed : bundle.artifacts[place]? with
    | none => rfl
    | some artifact => simp only [Option.map_some, same place artifact listed]
  written place member artifact listed free :=
    valid.written place ((same place artifact listed).mp member) artifact listed free
  kept location apart := valid.kept location fun place member artifact listed free =>
    apart place ((same place artifact listed).mpr member) artifact listed free

/-- Files at different places have different locations. -/
theorem destination_ne (root : Path) {place other : Nat} {artifact next : Path × String}
    (listed : bundle.artifacts[place]? = some artifact)
    (after : bundle.artifacts[other]? = some next) (apart : place ≠ other) (here : Location) :
    (root.join artifact.1).destination here ≠ (root.join next.1).destination here := by
  obtain ⟨bound, rfl⟩ := List.getElem?_eq_some_iff.mp listed
  obtain ⟨limit, rfl⟩ := List.getElem?_eq_some_iff.mp after
  have distinct := List.pairwise_iff_getElem.mp (bundle.destinations_distinct root here)
  rcases Nat.lt_or_gt_of_ne apart with before | later
  · exact distinct place other bound limit before
  · exact (distinct other place limit bound later).symm

/-- A write of a file that was not tried comes out as in the tree before all of them. -/
theorem write_of_fresh {done : List Nat} {state : Underway}
    (valid : Reached root bundle made done state) {place : Nat} {artifact : Path × String}
    (listed : bundle.artifacts[place]? = some artifact) (fresh : place ∉ done) :
    state.tree.write (root.join artifact.1) artifact.2 =
      (verdict made (root.join artifact.1),
        if made.Blocked (root.join artifact.1) then state.tree
        else state.tree.put ((root.join artifact.1).destination made.here) (.file artifact.2)) := by
  have untouched : state.tree.find? ((root.join artifact.1).destination made.here) =
      made.find? ((root.join artifact.1).destination made.here) :=
    valid.kept _ fun other tried next after _ =>
      destination_ne root listed after (fun same => fresh (same ▸ tried)) made.here
  have same : state.tree.refusal? (root.join artifact.1) =
      made.refusal? (root.join artifact.1) := by
    rw [Tree.refusal?, Tree.refusal?, valid.here, untouched]
  rw [write_artifact valid.there (List.mem_of_getElem? listed), same, valid.here, verdict]
  cases refused : made.refusal? (root.join artifact.1) with
  | none => rw [if_neg (Tree.refusal?_eq_none.mp refused)]
  | some fault =>
    have blocked : made.Blocked (root.join artifact.1) := by
      rw [← Tree.refusal?_isSome, refused]
      rfl
    rw [if_pos blocked]

theorem write_reached {done : List Nat} {state : Underway}
    (valid : Reached root bundle made done state) {place : Nat} {artifact : Path × String}
    (listed : bundle.artifacts[place]? = some artifact) (fresh : place ∉ done) :
    let (result, tree) := state.tree.write (root.join artifact.1) artifact.2
    Reached root bundle made (place :: done) ⟨tree, state.results.set place (some result)⟩ := by
  have still := (Tree.write_changed state.tree (root.join artifact.1) artifact.2).isDirectory
    valid.there
  rw [write_of_fresh valid listed fresh] at still ⊢
  refine ⟨?_, still, fun other => ?_, fun other tried next after free => ?_,
    fun location apart => ?_⟩
  · split <;> exact valid.here
  · by_cases same : other = place
    · subst same
      rw [List.getElem?_set_self', valid.results other, listed]
      simp
    · rw [List.getElem?_set_ne (Ne.symm same), valid.results other]
      simp [same]
  · rcases List.mem_cons.mp tried with rfl | before
    · cases listed.symm.trans after
      rw [if_neg free]
      exact Tree.find?_put_same _ _ (destination_ne_nil (List.mem_of_getElem? listed))
    · have old := valid.written other before next after free
      have apart := destination_ne root after listed (fun same => fresh (same ▸ before)) made.here
      split
      · exact old
      · rwa [Tree.find?_put_other _ _ apart]
  · have old := valid.kept location fun other before => apart other (List.mem_cons_of_mem _ before)
    split
    next => exact old
    next free =>
      have elsewhere := apart place List.mem_cons_self artifact listed free
      rwa [Tree.find?_put_other _ _ elsewhere]

theorem advance_reached {done : List Nat} {state : Underway}
    (valid : Reached root bundle made done state) (place : Nat) :
    Reached root bundle made (place :: done) (advance root bundle.artifacts place state) := by
  have stutter (same : ∀ artifact, bundle.artifacts[place]? = some artifact → place ∈ done) :
      Reached root bundle made (place :: done) state := by
    refine valid.of_same fun other artifact listed => ?_
    rw [List.mem_cons, or_iff_right_of_imp]
    rintro rfl
    exact same artifact listed
  unfold advance
  rw [valid.results place]
  cases listed : bundle.artifacts[place]? with
  | none => exact stutter (by simp [listed])
  | some artifact =>
    by_cases old : place ∈ done
    · simp only [Option.map_some, old, if_true]
      exact stutter fun _ _ => old
    · simp only [Option.map_some, old, if_false]
      exact write_reached valid listed old

theorem execute_reached {done : List Nat} {state : Underway}
    (valid : Reached root bundle made done state) (order : List Nat) :
    Reached root bundle made (order.reverse ++ done)
      (execute root bundle.artifacts order state) := by
  induction order generalizing done state with
  | nil => exact valid
  | cons place order ih =>
    rw [List.reverse_cons, List.append_assoc]
    exact ih (advance_reached valid place)

/-! ## All of the writes -/

variable {state : Underway} {done : List Nat}

theorem mapM_id_some {α : Type} (values : List α) : (values.map some).mapM id = some values := by
  induction values with
  | nil => rfl
  | cons value values ih =>
    rw [List.map_cons, List.mapM_cons, ih]
    rfl

theorem Reached.report? (valid : Reached root bundle made done state)
    (all : ∀ place < bundle.artifacts.length, place ∈ done) :
    state.report? root bundle.artifacts =
      some (report root bundle.artifacts (refusals root made bundle.artifacts)) := by
  have results : state.results =
      (bundle.artifacts.map fun artifact => verdict made (root.join artifact.1)).map some := by
    refine List.ext_getElem? fun place => ?_
    rw [valid.results place, List.map_map, List.getElem?_map]
    cases listed : bundle.artifacts[place]? with
    | none => rfl
    | some artifact =>
      obtain ⟨bound, -⟩ := List.getElem?_eq_some_iff.mp listed
      simp [all place bound]
  have collected : state.results.mapM id =
      some (bundle.artifacts.map fun artifact => verdict made (root.join artifact.1)) := by
    rw [results, mapM_id_some]
  rw [Underway.report?, collected, Option.map_some, List.zip_map', outcome_verdicts]

theorem Reached.find? (valid : Reached root bundle made done state)
    (all : ∀ place < bundle.artifacts.length, place ∈ done) (location : Location) :
    state.tree.find? location =
      (made.putFiles (accepted root made bundle.artifacts)).find? location := by
  by_cases written : ∃ artifact ∈ bundle.artifacts, ¬ made.Blocked (root.join artifact.1) ∧
      location = (root.join artifact.1).destination made.here
  · obtain ⟨artifact, member, free, rfl⟩ := written
    obtain ⟨place, bound, rfl⟩ := List.getElem_of_mem member
    rw [find?_accepted member free]
    exact valid.written place (all place bound) _ (List.getElem?_eq_getElem bound) free
  · have elsewhere : ∀ file ∈ accepted root made bundle.artifacts, location ≠ file.1 := by
      intro file inside same
      obtain ⟨artifact, member, free, rfl⟩ := mem_accepted.mp inside
      exact written ⟨artifact, member, free, same⟩
    rw [Tree.find?_putFiles_other made elsewhere]
    exact valid.kept location fun place _ artifact listed free same =>
      written ⟨artifact, List.mem_of_getElem? listed, free, same⟩

end

section
variable {project : String} {order : List Nat} {bundle : Bundle} {output : Path} {tree made : Tree}

theorem runInOrder_of_other (other : ¬ Path.EntryName project) :
    runInOrder order bundle output project tree =
      (some (.error (.invalidProjectName project)), tree) := by
  rw [runInOrder, root_of_other other]

theorem runInOrder_of_refused (entry : Path.EntryName project) {fault : Fault}
    (refused : tree.makeDirectories ((output.join ⟨project⟩).join Bundle.sourceDirectory) =
      (.error fault, made)) :
    runInOrder order bundle output project tree =
      let root := output.join ⟨project⟩
      (some (.error (.writeFailure root [(root.join Bundle.sourceDirectory, fault)])), made) := by
  rw [runInOrder, root_of_entryName entry]
  dsimp only
  rw [refused]

theorem runInOrder_of_created (entry : Path.EntryName project)
    (created : tree.makeDirectories ((output.join ⟨project⟩).join Bundle.sourceDirectory) =
      (.ok (), made)) :
    runInOrder order bundle output project tree =
      let root := output.join ⟨project⟩
      let last := execute root bundle.artifacts order (started bundle.artifacts made)
      (last.report? root bundle.artifacts, last.tree) := by
  rw [runInOrder, root_of_entryName entry]
  dsimp only
  rw [created]

end

/-- In whatever order the writes take effect: once each of them did, what is reported is what one
write after the other reports, with the files or the failures in the same order, and each location
of the tree holds the same. -/
theorem write_order_is_irrelevant (bundle : Bundle) (output : Path) (project : String)
    (tree : Tree) {order : List Nat}
    (all : ∀ place < bundle.artifacts.length, place ∈ order) :
    let saved := (run bundle output project : StateM Tree _).run tree
    let reordered := runInOrder order bundle output project tree
    reordered.1 = some saved.1 ∧ reordered.2.here = saved.2.here ∧
      ∀ location, reordered.2.find? location = saved.2.find? location := by
  dsimp only
  by_cases entry : Path.EntryName project
  · cases outcome : tree.makeDirectories ((output.join ⟨project⟩).join Bundle.sourceDirectory) with
    | mk result made =>
      cases result with
      | error fault =>
        rw [runInOrder_of_refused entry outcome,
          run_of_refused entry bundle output (congrArg Prod.fst outcome)]
        dsimp only
        rw [outcome]
        exact ⟨rfl, rfl, fun _ => rfl⟩
      | ok =>
        have there := created_iff.mp (congrArg Prod.fst outcome)
        obtain ⟨reported, left⟩ := run_of_created entry bundle output (congrArg Prod.fst outcome)
        rw [outcome] at there reported left
        dsimp only at there reported left
        have begun : Reached _ bundle made [] (started bundle.artifacts made) :=
          started_reached there
        have last := execute_reached begun order
        have every : ∀ place < bundle.artifacts.length, place ∈ order.reverse ++ [] := by
          simpa using all
        rw [runInOrder_of_created entry outcome, reported, left]
        exact ⟨last.report? every, last.here.trans (Tree.here_putFiles ..).symm, last.find? every⟩
  · rw [runInOrder_of_other entry, run_of_other entry]
    exact ⟨rfl, rfl, fun _ => rfl⟩

/-- A project in which directories have the names of two files. -/
def obstructedTree : Tree where
  entries := [(["work"], .directory), (["work", "out"], .directory),
    (["work", "out", "demo"], .directory), (["work", "out", "demo", "README.md"], .directory),
    (["work", "out", "demo", "package.json"], .directory)]
  here := ["work"]

theorem failures_keep_their_order :
    let order := [4, 2, 0, 3, 1]
    let reordered := runInOrder order plainBundle ⟨"out"⟩ "demo" obstructedTree
    (∀ place < plainBundle.artifacts.length, place ∈ order) ∧
      reordered.1 = some (.error (.writeFailure ⟨"out/demo"⟩
        [(⟨"out/demo/package.json"⟩, .isDirectory), (⟨"out/demo/README.md"⟩, .isDirectory)])) ∧
      reordered.2.find? ["work", "out", "demo", "src", "index.ts"] = some (.file "source") := by
  intro order reordered
  have all : ∀ place < plainBundle.artifacts.length, place ∈ order := by decide
  have entry : Path.EntryName "demo" := by decide
  have joined : (Path.mk "out").join ⟨"demo"⟩ = ⟨"out/demo"⟩ := by decide
  have done : (obstructedTree.makeDirectories
      (((Path.mk "out").join ⟨"demo"⟩).join Bundle.sourceDirectory)).1 = .ok () := by
    decide
  obtain ⟨reported, left⟩ := run_of_created entry plainBundle ⟨"out"⟩ done
  obtain ⟨same, -, alike⟩ := write_order_is_irrelevant plainBundle ⟨"out"⟩ "demo" obstructedTree all
  rw [joined] at reported left
  have refused : refusals ⟨"out/demo"⟩ (obstructedTree.makeDirectories
      ((Path.mk "out/demo").join Bundle.sourceDirectory)).2 plainBundle.artifacts =
        [(⟨"out/demo/package.json"⟩, .isDirectory), (⟨"out/demo/README.md"⟩, .isDirectory)] := by
    decide
  have written : ((obstructedTree.makeDirectories
      ((Path.mk "out/demo").join Bundle.sourceDirectory)).2.putFiles (accepted ⟨"out/demo"⟩
        (obstructedTree.makeDirectories ((Path.mk "out/demo").join Bundle.sourceDirectory)).2
        plainBundle.artifacts)).find? ["work", "out", "demo", "src", "index.ts"] =
          some (.file "source") := by decide
  rw [refused, report, if_neg (by simp)] at reported
  rw [reported] at same
  rw [← left, ← alike] at written
  exact ⟨all, same, written⟩

end ServerForge.Save
