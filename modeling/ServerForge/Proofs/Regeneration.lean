import ServerForge.Proofs.ProjectFiles
import ServerForge.Proofs.SaveRoundTrip

/-! Saving a project again. Main statement: after a project was saved with success, saving any other
one in its place comes to the very tree that it alone would have come to. -/
namespace ServerForge

open Files

namespace Files.Tree

/-! ## The later files win -/

theorem eq_of_entries {first second : Tree} (entries : first.entries = second.entries)
    (here : first.here = second.here) : first = second := by
  cases first
  cases second
  exact (mk.injEq ..).mpr ⟨entries, here⟩

/-- The files come first in the tree, and what had their names is gone. -/
theorem entries_putFiles (tree : Tree) {files : List (Location × String)}
    (distinct : (files.map (·.1)).Nodup) :
    (tree.putFiles files).entries =
      (files.map fun file => (file.1, Entry.file file.2)).reverse ++
        tree.entries.filter fun entry => entry.1 ∉ files.map (·.1) := by
  induction files generalizing tree with
  | nil => simp [putFiles]
  | cons file files ih =>
    obtain ⟨apart, others⟩ := List.nodup_cons.mp distinct
    have rest : (tree.putFiles (file :: files)).entries =
        ((tree.put file.1 (.file file.2)).putFiles files).entries := rfl
    have left : tree.entries.filter
        (fun entry => decide (entry.1 ∉ files.map (·.1)) && entry.1 != file.1) =
        tree.entries.filter fun entry => decide (entry.1 ∉ (file :: files).map (·.1)) :=
      List.filter_congr fun entry _ => by
        rw [List.map_cons, Bool.eq_iff_iff]
        simp only [Bool.and_eq_true, decide_eq_true_eq, bne_iff_ne, List.mem_cons, not_or]
        exact and_comm
    rw [rest, ih _ others, put, Lookup.replace, List.filter_cons_of_pos (by simpa using apart),
      List.filter_filter, left]
    simp

/-- Files of the same places replace each other, whatever is in them. -/
theorem putFiles_putFiles (tree : Tree) {older newer : List (Location × String)}
    (same : older.map (·.1) = newer.map (·.1)) (distinct : (newer.map (·.1)).Nodup) :
    (tree.putFiles older).putFiles newer = tree.putFiles newer := by
  refine eq_of_entries ?_ (by simp only [here_putFiles])
  have replaced : (older.map fun file => (file.1, Entry.file file.2)).reverse.filter
      (fun entry => entry.1 ∉ newer.map (·.1)) = [] := by
    rw [List.filter_eq_nil_iff, ← same]
    intro entry member free
    obtain ⟨file, inside, rfl⟩ := List.mem_map.mp (List.mem_reverse.mp member)
    exact of_decide_eq_true free (List.mem_map_of_mem inside)
  rw [entries_putFiles _ distinct, entries_putFiles tree (same ▸ distinct),
    entries_putFiles tree distinct, List.filter_append, replaced, List.filter_filter, same]
  simp

/-- No file becomes a directory. -/
theorem directory_of_putFiles {tree : Tree} {files : List (Location × String)}
    {location : Location} (there : (tree.putFiles files).find? location = some .directory) :
    tree.find? location = some .directory := by
  induction files generalizing tree with
  | nil => exact there
  | cons file files ih =>
    have kept : (tree.put file.1 (.file file.2)).find? location = some .directory := ih there
    by_cases same : location = file.1
    · by_cases top : location = []
      · rw [top, find?_root]
      · rw [same, find?_put_same tree _ (same ▸ top)] at kept
        cases kept
    · rwa [find?_put_other tree _ same] at kept

theorem blocked_of_putFiles {tree : Tree} {files : List (Location × String)} {path : Path}
    (blocked : (tree.putFiles files).Blocked path) : tree.Blocked path := by
  rw [Blocked, here_putFiles] at blocked
  exact blocked.imp_left directory_of_putFiles

end Files.Tree

/-- The files of every project are the same. -/
theorem Bundle.map_artifacts {α : Type} (first second : Bundle) (f : Path → α) :
    (first.artifacts.map fun artifact => f artifact.1) =
      second.artifacts.map fun artifact => f artifact.1 := rfl

namespace Save

/-! ## What success comes from -/

/-- The places of all files of a project, with their texts. -/
def placedFiles (root : Path) (here : Location) (bundle : Bundle) : List (Location × String) :=
  bundle.artifacts.map fun artifact => ((root.join artifact.1).destination here, artifact.2)

theorem places_placedFiles (root : Path) (here : Location) (first second : Bundle) :
    (placedFiles root here first).map (·.1) = (placedFiles root here second).map (·.1) := by
  simp only [placedFiles, List.map_map, Function.comp_def]
  exact Bundle.map_artifacts first second fun path => (root.join path).destination here

theorem placedFiles_distinct (root : Path) (here : Location) (bundle : Bundle) :
    ((placedFiles root here bundle).map (·.1)).Nodup := by
  simp only [placedFiles, List.map_map, Function.comp_def]
  exact List.pairwise_map.mpr (bundle.destinations_distinct root here)

theorem accepted_of_free {root : Path} {tree : Tree} {bundle : Bundle}
    (free : ∀ artifact ∈ bundle.artifacts, ¬ tree.Blocked (root.join artifact.1)) :
    accepted root tree bundle.artifacts = placedFiles root tree.here bundle := by
  have all : bundle.artifacts.filter
      (fun artifact => (tree.refusal? (root.join artifact.1)).isNone) = bundle.artifacts :=
    List.filter_eq_self.mpr fun artifact member => by
      rw [Tree.refusal?_eq_none.mpr (free artifact member)]
      rfl
  rw [accepted, all, placedFiles]

/-- Saving succeeds exactly if the name is one, the directories are there and no file is refused;
and then it is known what it leaves. -/
theorem run_eq_ok_iff {bundle : Bundle} {output : Path} {project : String} {tree after : Tree}
    {written : SavedProject} :
    (run bundle output project : StateM Tree _).run tree = (.ok written, after) ↔
      Path.EntryName project ∧ ∃ made : Tree,
        tree.makeDirectories ((output.join ⟨project⟩).join Bundle.sourceDirectory) =
          (.ok (), made) ∧
        (∀ artifact ∈ bundle.artifacts,
          ¬ made.Blocked ((output.join ⟨project⟩).join artifact.1)) ∧
        written = ⟨output.join ⟨project⟩,
          bundle.artifacts.map fun artifact => (output.join ⟨project⟩).join artifact.1⟩ ∧
        after = made.putFiles (placedFiles (output.join ⟨project⟩) made.here bundle) := by
  constructor
  · intro saved
    by_cases entry : Path.EntryName project
    · cases outcome :
          tree.makeDirectories ((output.join ⟨project⟩).join Bundle.sourceDirectory) with
      | mk result made =>
        cases result with
        | error fault =>
          rw [run_of_refused entry bundle output (congrArg Prod.fst outcome)] at saved
          cases saved
        | ok =>
          obtain ⟨reported, left⟩ := run_of_created entry bundle output (congrArg Prod.fst outcome)
          rw [saved, outcome] at reported left
          dsimp only at reported left
          unfold report at reported
          split at reported
          next none =>
            have free := refusals_eq_nil.mp none
            rw [accepted_of_free free] at left
            exact ⟨entry, made, rfl, free, Except.ok.inj reported, left⟩
          next => cases reported
    · rw [run_of_other entry] at saved
      cases saved
  · rintro ⟨entry, made, created, free, same, left⟩
    obtain ⟨reported, remaining⟩ := run_of_created entry bundle output (congrArg Prod.fst created)
    rw [created] at reported remaining
    dsimp only at reported remaining
    rw [report, if_pos (refusals_eq_nil.mpr free), ← same] at reported
    rw [accepted_of_free free, ← left] at remaining
    exact Prod.ext reported remaining

/-- A project in the place of one that was saved comes out as it would have without that one. -/
theorem run_after_saved {first : Bundle} (second : Bundle) {output : Path} {project : String}
    {tree after : Tree} {written : SavedProject}
    (saved : (run first output project : StateM Tree _).run tree = (.ok written, after)) :
    ∃ again : Tree,
      (run second output project : StateM Tree _).run after = (.ok written, again) ∧
      (run second output project : StateM Tree _).run tree = (.ok written, again) := by
  obtain ⟨entry, made, created, free, same, left⟩ := run_eq_ok_iff.mp saved
  generalize joined : output.join ⟨project⟩ = root at created free same left
  have unblocked : ∀ artifact ∈ second.artifacts, ¬ made.Blocked (root.join artifact.1) := by
    have paths : first.artifacts.map (·.1) = second.artifacts.map (·.1) :=
      Bundle.map_artifacts first second id
    have each : ∀ path ∈ first.artifacts.map (·.1), ¬ made.Blocked (root.join path) := by
      simpa only [List.forall_mem_map] using free
    rw [paths] at each
    simpa only [List.forall_mem_map] using each
  have still : after.isDirectory (root.join Bundle.sourceDirectory) = true := by
    have there := created_iff.mp (congrArg Prod.fst created)
    rw [created] at there
    rw [left, ← accepted_of_free free]
    exact isDirectory_accepted there
  have here : after.here = made.here := by rw [left, Tree.here_putFiles]
  have reported : written = ⟨root, second.artifacts.map fun artifact => root.join artifact.1⟩ := by
    rw [same, Bundle.map_artifacts first second root.join]
  have unrefused : ∀ artifact ∈ second.artifacts, ¬ after.Blocked (root.join artifact.1) := by
    intro artifact member blocked
    rw [left] at blocked
    exact unblocked artifact member (Tree.blocked_of_putFiles blocked)
  have replaced : made.putFiles (placedFiles root made.here second) =
      after.putFiles (placedFiles root after.here second) := by
    rw [here, left, Tree.putFiles_putFiles made (places_placedFiles ..) (placedFiles_distinct ..)]
  refine ⟨made.putFiles (placedFiles root made.here second), run_eq_ok_iff.mpr ?_,
    run_eq_ok_iff.mpr ?_⟩
  · rw [joined]
    exact ⟨entry, after, Tree.makeDirectories_of_isDirectory still, unrefused, reported, replaced⟩
  · rw [joined]
    exact ⟨entry, made, created, unblocked, reported, rfl⟩

/-- After a project was saved, saving one in its place succeeds too and reports the same root and
files. It leaves the tree that it would have left without the project before, which holds the texts
of the later one; and saving the same project once more changes nothing. -/
theorem resaving_replaces_all (first second : Bundle) (output : Path) (project : String)
    {tree after : Tree} {written : SavedProject}
    (saved : (run first output project : StateM Tree _).run tree = (.ok written, after)) :
    (∃ again : Tree,
      (run second output project : StateM Tree _).run after = (.ok written, again) ∧
      (run second output project : StateM Tree _).run tree = (.ok written, again) ∧
      ∀ artifact ∈ second.artifacts,
        again.read ((output.join ⟨project⟩).join artifact.1) = .ok artifact.2) ∧
    (run first output project : StateM Tree _).run after = (.ok written, after) := by
  obtain ⟨again, later, alone⟩ := run_after_saved second saved
  obtain ⟨last, repeated, once⟩ := run_after_saved first saved
  have unchanged : last = after := (Prod.mk.inj (once.symm.trans saved)).2
  exact ⟨⟨again, later, alone, run_read alone⟩, unchanged ▸ repeated⟩

/-- A place for projects in which there is none. -/
def sparseTree : Tree where
  entries := [(["work"], .directory), (["work", "out"], .directory)]
  here := ["work"]

/-- Texts that are longer than those of `plainBundle`. -/
def wordyBundle : Bundle :=
  ⟨"a long manifest", "a long source", "a long readme", "a long build", "a long list"⟩

theorem shorter_texts_replace_longer :
    let before := (run wordyBundle ⟨"out"⟩ "demo" : StateM Tree _).run sparseTree
    let after := (run plainBundle ⟨"out"⟩ "demo" : StateM Tree _).run before.2
    before.1.isOk = true ∧ after = (run plainBundle ⟨"out"⟩ "demo" : StateM Tree _).run sparseTree ∧
      after.2.read (((Path.mk "out").join ⟨"demo"⟩).join ⟨"README.md"⟩) = .ok "readme" := by
  intro before after
  have succeeds : before.1.isOk = true := by decide +kernel
  have told (written : SavedProject) (saved : before = (.ok written, before.2)) :=
    resaving_replaces_all wordyBundle plainBundle ⟨"out"⟩ "demo" saved
  -- what was saved first is known from here on by what is told of it, and never computed
  clear_value before
  obtain ⟨outcome, left⟩ := before
  cases outcome with
  | error failure => cases succeeds
  | ok written =>
    obtain ⟨⟨again, later, alone, texts⟩, -⟩ := told written rfl
    have readme := texts (⟨"README.md"⟩, "readme") (.tail _ (.tail _ (.head _)))
    refine ⟨rfl, later.trans alone.symm, ?_⟩
    rw [show after = (.ok written, again) from later]
    exact readme

end Save

end ServerForge
