/-! Association lists with one entry per key. -/
namespace ServerForge.Lookup

variable {κ α : Type} [BEq κ] [LawfulBEq κ]

/-- Gives a key its value; an earlier entry of that key is left out. -/
def replace (key : κ) (value : α) (entries : List (κ × α)) : List (κ × α) :=
  (key, value) :: entries.filter (·.1 != key)

@[simp] theorem lookup_replace_same (key : κ) (value : α) (entries : List (κ × α)) :
    (replace key value entries).lookup key = some value := by
  simp [replace]

theorem lookup_filter {p : κ → Bool} {key : κ} (kept : p key = true) (entries : List (κ × α)) :
    (entries.filter fun entry => p entry.1).lookup key = entries.lookup key := by
  induction entries with
  | nil => rfl
  | cons entry entries ih =>
    obtain ⟨name, old⟩ := entry
    rw [List.lookup_cons, List.filter_cons]
    by_cases same : key = name
    · subst same
      rw [if_pos kept, List.lookup_cons]
      simp
    · rw [beq_eq_false_iff_ne.mpr same]
      split
      · rw [List.lookup_cons, beq_eq_false_iff_ne.mpr same, ih]
      · exact ih

theorem lookup_filter_other {key other : κ} (h : other ≠ key) (entries : List (κ × α)) :
    (entries.filter (·.1 != key)).lookup other = entries.lookup other :=
  lookup_filter (p := (· != key)) (bne_iff_ne.mpr h) entries

theorem lookup_replace_other {key other : κ} (h : other ≠ key) (value : α)
    (entries : List (κ × α)) :
    (replace key value entries).lookup other = entries.lookup other := by
  rw [replace, List.lookup_cons, beq_eq_false_iff_ne.mpr h]
  exact lookup_filter_other h entries

omit [LawfulBEq κ] in
theorem lookup_map_value {β : Type} (f : α → β) (entries : List (κ × α)) (key : κ) :
    (entries.map fun entry => (entry.1, f entry.2)).lookup key = (entries.lookup key).map f := by
  induction entries with
  | nil => rfl
  | cons entry entries ih =>
    rw [List.map_cons, List.lookup_cons, List.lookup_cons, ih]
    split <;> rfl

/-- If no key occurs twice, what is found under a key is what stands beside it. -/
theorem lookup_eq_some_iff_mem {entries : List (κ × α)} (distinct : (entries.map (·.1)).Nodup)
    {key : κ} {value : α} : entries.lookup key = some value ↔ (key, value) ∈ entries := by
  induction entries with
  | nil => simp
  | cons entry entries ih =>
    obtain ⟨name, held⟩ := entry
    obtain ⟨fresh, distinct⟩ := List.nodup_cons.mp distinct
    rw [List.lookup_cons, List.mem_cons, Prod.mk.injEq]
    by_cases same : key = name
    · subst same
      have absent : (key, value) ∉ entries := fun member =>
        fresh (List.mem_map.mpr ⟨_, member, rfl⟩)
      simp [absent, eq_comm]
    · rw [beq_eq_false_iff_ne.mpr same, ih distinct]
      simp [same]

/-- The order of the entries does not matter either. -/
theorem lookup_perm {entries others : List (κ × α)} (distinct : (entries.map (·.1)).Nodup)
    (perm : others.Perm entries) (key : κ) : others.lookup key = entries.lookup key := by
  apply Option.ext
  intro value
  rw [lookup_eq_some_iff_mem distinct,
    lookup_eq_some_iff_mem ((perm.map (·.1)).nodup_iff.mpr distinct), perm.mem_iff]

end ServerForge.Lookup
