import ServerForge.Proofs.Directories

/-! Paths as seen from a directory. Main statement: whatever the path of a directory looks like, the
entries below it are seen from there by the path that was joined to it. -/
namespace ServerForge.Path

/-! ## The parts of a joined path -/

/-- Each piece with what it stands for, away from the start of a path. -/
def tagged (pieces : List String) : List (String × Option Component) :=
  pieces.map fun piece => (piece, component? piece)

theorem tagged_append (front later : List String) :
    tagged (front ++ later) = tagged front ++ tagged later :=
  List.map_append

theorem map_tagged (pieces : List String) : (tagged pieces).map (·.1) = pieces := by
  simp [tagged, Function.comp_def]

/-- An empty piece at the end stands for nothing. -/
theorem filterMap_tagged {pieces lead : List String}
    (origin : pieces = lead ∨ pieces = lead ++ [""]) :
    (tagged lead).filterMap (·.2) = (tagged pieces).filterMap (·.2) := by
  rcases origin with rfl | rfl
  · rfl
  · rw [tagged_append, List.filterMap_append]
    exact (List.append_nil _).symm

theorem parts_of_dotted {path : Path} {rest : List String} (relative : path.isAbsolute = false)
    (dotted : path.pieces = "." :: rest) : path.parts = (".", some .current) :: tagged rest := by
  rw [parts, relative, dotted]
  rfl

theorem parts_of_undotted {path : Path}
    (undotted : ¬ (path.isAbsolute = false ∧ path.pieces.head? = some ".")) :
    path.parts = tagged path.pieces := by
  unfold parts
  split
  next rest relative pieces => exact absurd ⟨relative, by rw [pieces]; rfl⟩ undotted
  next => rfl

/-- The parts of what is joined follow parts that stand for the components of the base. -/
theorem parts_join (base : Path) {child : Path} (relative : child.isAbsolute = false)
    (undotted : child.pieces.head? ≠ some ".") :
    ∃ front, (base.join child).parts = front ++ tagged child.pieces ∧
      front.filterMap (·.2) = base.parts.filterMap (·.2) := by
  have absolute := isAbsolute_join base relative
  obtain ⟨lead, joined, origin⟩ := pieces_join base relative
  by_cases dotted : base.isAbsolute = false ∧ lead.head? = some "."
  · obtain ⟨rooted, first⟩ := dotted
    obtain ⟨rest, rfl⟩ := List.head?_eq_some_iff.mp first
    refine ⟨(".", some .current) :: tagged rest, ?_, ?_⟩
    · have shape : (base.join child).pieces = "." :: (rest ++ child.pieces) := joined
      rw [parts_of_dotted (absolute.trans rooted) shape, tagged_append, List.cons_append]
    · have behind : ∃ pieces, base.pieces = "." :: pieces ∧
          (pieces = rest ∨ pieces = rest ++ [""]) := by
        rcases origin with whole | whole
        · exact ⟨rest, whole, .inl rfl⟩
        · exact ⟨rest ++ [""], whole, .inr rfl⟩
      obtain ⟨pieces, whole, origin⟩ := behind
      rw [parts_of_dotted rooted whole, List.filterMap_cons, List.filterMap_cons,
        filterMap_tagged origin]
  · refine ⟨tagged lead, ?_, ?_⟩
    · rw [parts_of_undotted, joined, tagged_append]
      rw [absolute, joined]
      cases lead with
      | nil => exact fun both => undotted both.2
      | cons first rest => exact dotted
    · rw [parts_of_undotted, filterMap_tagged origin]
      rintro ⟨rooted, first⟩
      apply dotted
      refine ⟨rooted, ?_⟩
      rcases lead with _ | ⟨piece, rest⟩ <;> rcases origin with whole | whole <;>
        simp_all

/-! ## What remains of it -/

/-- After the components of the front there remains what follows it, behind parts that stand for
nothing. -/
theorem afterComponents_append (front later : List (String × Option Component)) :
    ∃ gap, afterComponents (front.filterMap (·.2)) (front ++ later) = some (gap ++ later) ∧
      ∀ part ∈ gap, part.2.isNone = true := by
  induction front with
  | nil => exact ⟨[], by simp [afterComponents], by simp⟩
  | cons part front ih =>
    obtain ⟨text, component⟩ := part
    cases component with
    | some component =>
      obtain ⟨gap, after, empty⟩ := ih
      refine ⟨gap, ?_, empty⟩
      simpa [afterComponents] using after
    | none =>
      cases left : front.filterMap (·.2) with
      | nil =>
        -- nothing is expected any more, so all of the front is the gap
        refine ⟨(text, none) :: front, by simp [left, afterComponents], ?_⟩
        simpa [List.filterMap_eq_nil_iff] using left
      | cons expected rest =>
        obtain ⟨gap, after, empty⟩ := ih
        rw [left] at after
        refine ⟨gap, ?_, empty⟩
        simpa [left, afterComponents] using after

theorem dropEmpty_of_named {parts : List (String × Option Component)}
    (named : ∀ part ∈ parts, part.2.isNone = false) : dropEmpty parts = parts := by
  cases parts with
  | nil => rfl
  | cons part parts => simp [dropEmpty, named part (by simp)]

theorem dropEmpty_reverse_of_named {parts : List (String × Option Component)}
    (named : ∀ part ∈ parts, part.2.isNone = false) : (dropEmpty parts.reverse).reverse = parts := by
  rw [dropEmpty_of_named fun part member => named part (List.mem_reverse.mp member),
    List.reverse_reverse]

/-- Nothing but empty parts is dropped from the ends. -/
theorem trimmed_append {gap parts : List (String × Option Component)}
    (empty : ∀ part ∈ gap, part.2.isNone = true)
    (named : ∀ part ∈ parts, part.2.isNone = false) :
    (dropEmpty (dropEmpty (gap ++ parts)).reverse).reverse = parts := by
  have front : dropEmpty (gap ++ parts) = parts := by
    rw [dropEmpty, List.dropWhile_append_of_pos empty]
    exact dropEmpty_of_named named
  rw [front, dropEmpty_reverse_of_named named]

theorem isNone_of_mem_tagged {pieces : List String}
    (names : ∀ piece ∈ pieces, EntryName piece) :
    ∀ part ∈ tagged pieces, part.2.isNone = false := by
  intro part member
  obtain ⟨piece, listed, rfl⟩ := List.mem_map.mp member
  have entry := names piece listed
  simp [component?_name entry.nonempty entry.current entry.parent]

theorem text_of_pieces {path : Path} (relative : path.isAbsolute = false) :
    "/".intercalate path.pieces = path.text := by
  apply String.toList_inj.mp
  rw [String.toList_intercalate, ← body_of_relative relative, body_eq_intercalate]
  rfl

/-- Only the empty text is a path without a component. -/
theorem components_ne_nil {path : Path} (visible : path.text ≠ "") : path.components ≠ [] := by
  rw [components_eq]
  intro none
  simp only [List.append_eq_nil_iff, List.filterMap_eq_nil_iff] at none
  obtain ⟨⟨unrooted, undotted⟩, blank⟩ := none
  have relative : path.isAbsolute = false := by
    by_contra rooted
    simp [start, rooted] at unrooted
  cases pieces : path.pieces with
  | nil => exact visible ((text_of_pieces relative).symm.trans (by rw [pieces]; rfl))
  | cons first rest =>
    have silent := blank first (by simp [pieces])
    have other : first ≠ "." := by
      rintro rfl
      simp [relative, pieces] at undotted
    have missing : first = "" := by
      by_contra nonempty
      by_cases parent : first = ".."
      · simp [parent, component?] at silent
      · simp [component?_name nonempty other parent] at silent
    exact visible (text_of_head?_pieces relative (by rw [pieces, missing]; rfl))

/-- From a path that is not empty, what is seen comes after its components. -/
theorem relativeTo?_of_visible {path base : Path} (visible : base.text ≠ "")
    (same : path.isAbsolute = base.isAbsolute) :
    path.relativeTo? base =
      (afterComponents (base.parts.filterMap (·.2)) path.parts).map fun parts =>
        ⟨"/".intercalate ((dropEmpty (dropEmpty parts).reverse).reverse.map (·.1))⟩ := by
  have some_ := components_ne_nil visible
  unfold relativeTo?
  split
  next none => exact absurd none some_
  next expected _ =>
    rw [same]
    cases rooted : base.isAbsolute with
    | true => simp [components, start, rooted]
    | false => simp [components, start, rooted]

/-- What is joined to a path, by names only, is what is seen of the joined path from there. -/
theorem relativeTo?_join (base : Path) {child : Path} (relative : child.isAbsolute = false)
    (names : ∀ piece ∈ child.pieces, EntryName piece) :
    (base.join child).relativeTo? base = some child := by
  have undotted : child.pieces.head? ≠ some "." := fun dotted =>
    (names "." (List.mem_of_mem_head? dotted)).current rfl
  have named := isNone_of_mem_tagged names
  have shown : (⟨"/".intercalate ((tagged child.pieces).map (·.1))⟩ : Path) = child := by
    rw [map_tagged, text_of_pieces relative]
  by_cases absent : base.text = ""
  · have joined : base.join child = child := if_pos (.inr absent)
    have parts : child.parts = tagged child.pieces :=
      parts_of_undotted fun both => undotted both.2
    have none : base.components = [] := by
      obtain ⟨text⟩ := base
      subst absent
      rfl
    have seen : child.relativeTo? base =
        some ⟨"/".intercalate ((dropEmpty child.parts.reverse).reverse.map (·.1))⟩ := by
      unfold relativeTo?
      rw [none, relative]
      simp
    rw [joined, seen, parts, dropEmpty_reverse_of_named named, shown]
  · obtain ⟨front, parts, known⟩ := parts_join base relative undotted
    obtain ⟨gap, after, empty⟩ := afterComponents_append front (tagged child.pieces)
    rw [relativeTo?_of_visible absent (isAbsolute_join base relative), parts, ← known, after,
      Option.map_some, trimmed_append empty named, shown]

example : ((Path.mk "./a//../").join ⟨"src/index.ts"⟩).relativeTo? ⟨"./a//../"⟩ =
    some ⟨"src/index.ts"⟩ := by decide

end ServerForge.Path
