import Mathlib.Data.List.Infix
import ServerForge.Save

/-! Paths by their pieces, the texts between the slashes. Main statements: what is joined to a path
stands behind its pieces and its components; every path that leads to another one is a prefix of
it; and a project's name is plain exactly if it can name an entry of a directory. -/
namespace ServerForge.Path

/-! ## Pieces -/

/-- The characters that are cut into pieces. -/
def body (path : Path) : List Char :=
  if path.isAbsolute then path.text.toList.drop 1 else path.text.toList

theorem pieces_eq (path : Path) :
    path.pieces = (Text.splitWhere (· == '/') path.body).map String.ofList := rfl

def rootChars (path : Path) : List Char := if path.isAbsolute then ['/'] else []

theorem toList_eq (path : Path) : path.text.toList = path.rootChars ++ path.body := by
  by_cases absolute : path.isAbsolute = true
  · rw [rootChars, body, if_pos absolute, if_pos absolute]
    have first : path.text.toList.head? = some '/' := by simpa [isAbsolute] using absolute
    obtain ⟨rest, chars⟩ := List.head?_eq_some_iff.mp first
    simp [chars]
  · rw [rootChars, body, if_neg absolute, if_neg absolute, List.nil_append]

theorem body_of_relative {path : Path} (relative : path.isAbsolute = false) :
    path.body = path.text.toList := by
  simp [body, relative]

theorem isAbsolute_eq_false {path : Path} (unbroken : '/' ∉ path.text.toList) :
    path.isAbsolute = false := by
  apply beq_eq_false_iff_ne.mpr
  intro slash
  exact unbroken (List.mem_of_mem_head? slash)

theorem slash_not_mem_piece {path : Path} {piece : String} (member : piece ∈ path.pieces) :
    '/' ∉ piece.toList := by
  rw [pieces_eq] at member
  obtain ⟨cs, split, rfl⟩ := List.mem_map.mp member
  intro slash
  rw [String.toList_ofList] at slash
  simpa using Text.not_separator_of_mem_splitWhere split slash

theorem pieces_of_unbroken {path : Path} (unbroken : '/' ∉ path.text.toList) :
    path.pieces = [path.text] := by
  rw [pieces_eq, body_of_relative (isAbsolute_eq_false unbroken), Text.splitWhere_of_none]
  · simp
  · intro c member
    exact beq_eq_false_iff_ne.mpr fun slash => unbroken (slash ▸ member)

/-- Only the empty text begins with an empty piece without being absolute. -/
theorem text_of_head?_pieces {path : Path} (relative : path.isAbsolute = false)
    (empty : path.pieces.head? = some "") : path.text = "" := by
  rw [pieces_eq, body_of_relative relative] at empty
  have first : path.text.toList.head? ≠ some '/' := by simpa [isAbsolute] using relative
  cases chars : path.text.toList with
  | nil => exact String.toList_inj.mp chars
  | cons c cs =>
    rw [chars] at empty first
    have other : c ≠ '/' := by simpa using first
    cases pieces : Text.splitWhere (· == '/') cs with
    | nil => exact absurd pieces (Text.splitWhere_ne_nil _ cs)
    | cons piece rest =>
      simp [Text.splitWhere, other, pieces] at empty

/-! ## Joined paths -/

/-- What stands between a path and what is joined to it. -/
def separator (base : Path) : List Char :=
  if base.text = "" ∨ base.text.toList.getLast? = some '/' then [] else ['/']

theorem toList_join (base : Path) {child : Path} (relative : child.isAbsolute = false) :
    (base.join child).text.toList = base.text.toList ++ base.separator ++ child.body := by
  rw [body_of_relative relative]
  unfold join separator
  by_cases empty : base.text = ""
  · simp [empty]
  · by_cases slashed : base.text.toList.getLast? = some '/' <;>
      simp [empty, relative, slashed, String.toList_append]

theorem isAbsolute_join (base : Path) {child : Path} (relative : child.isAbsolute = false) :
    (base.join child).isAbsolute = base.isAbsolute := by
  by_cases empty : base.text = ""
  · have absent : base.isAbsolute = false := by simp [isAbsolute, empty]
    rw [join, if_pos (.inr empty), relative, absent]
  · have chars : base.text.toList ≠ [] := fun nil => empty (String.toList_inj.mp nil)
    rw [isAbsolute, toList_join base relative, List.append_assoc,
      List.head?_append_of_ne_nil _ chars, isAbsolute]

theorem body_join (base : Path) {child : Path} (relative : child.isAbsolute = false) :
    (base.join child).body = base.body ++ base.separator ++ child.body := by
  have chars := toList_join base relative
  rw [toList_eq, toList_eq base, rootChars, isAbsolute_join base relative, ← rootChars,
    List.append_assoc, List.append_assoc] at chars
  rw [List.append_cancel_left chars, List.append_assoc]

/-- Without a separator there is nothing between the two but the root or a slash. -/
theorem body_of_separator {base : Path} (bare : base.separator = []) :
    base.body = [] ∨ ∃ front, base.body = front ++ ['/'] := by
  rcases List.eq_nil_or_concat base.body with empty | ⟨front, last, ends⟩
  · exact .inl empty
  · rw [List.concat_eq_append] at ends
    have chars : base.text.toList = base.rootChars ++ front ++ [last] := by
      rw [toList_eq, ends, List.append_assoc]
    have nonempty : base.text ≠ "" := by
      intro empty
      simp [empty] at chars
    have slash : last = '/' := by
      simpa [separator, nonempty, chars] using bare
    exact .inr ⟨front, by rw [ends, slash]⟩

/-- What is joined to a path stands behind its pieces; a slash at the end of the path adds none. -/
theorem pieces_join (base : Path) {child : Path} (relative : child.isAbsolute = false) :
    ∃ lead, (base.join child).pieces = lead ++ child.pieces ∧
      (base.pieces = lead ∨ base.pieces = lead ++ [""]) := by
  have cut (front after : List Char) :
      (Text.splitWhere (· == '/') (front ++ '/' :: after)).map String.ofList =
        (Text.splitWhere (· == '/') front).map String.ofList ++
          (Text.splitWhere (· == '/') after).map String.ofList := by
    rw [Text.splitWhere_append rfl, List.map_append]
  have bodies := body_join base relative
  by_cases bare : base.separator = []
  · rw [bare, List.append_nil] at bodies
    rcases body_of_separator bare with empty | ⟨front, ends⟩
    · refine ⟨[], ?_, .inr ?_⟩
      · rw [pieces_eq, bodies, empty]
        rfl
      · rw [pieces_eq, empty]
        rfl
    · refine ⟨(Text.splitWhere (· == '/') front).map String.ofList, ?_, .inr ?_⟩
      · rw [pieces_eq, bodies, ends, List.append_assoc, List.singleton_append, cut]
        rfl
      · rw [pieces_eq, ends, cut]
        rfl
  · have slash : base.separator = ['/'] := by
      unfold separator at bare ⊢
      split at bare
      · exact absurd rfl bare
      · rename_i other
        rw [if_neg other]
    refine ⟨base.pieces, ?_, .inl rfl⟩
    rw [pieces_eq, bodies, slash, List.append_assoc, List.singleton_append, cut]
    rfl

/-! ## Paths that lead to another -/

theorem map_parts (path : Path) : path.parts.map (·.1) = path.pieces := by
  unfold parts
  split
  next rest _ pieces => simp [pieces, Function.comp_def]
  next => simp [Function.comp_def]

theorem leads_isPrefix {parts lead : List (String × Option Component)}
    (member : lead ∈ leads parts) : lead <+: parts ∧ lead ≠ [] := by
  induction parts generalizing lead with
  | nil => simp [leads] at member
  | cons part parts ih =>
    rw [leads, List.mem_append] at member
    rcases member with longer | last
    · obtain ⟨inner, inside, rfl⟩ := List.mem_map.mp longer
      exact ⟨List.prefix_cons_inj part |>.mpr (ih inside).1, by simp⟩
    · split at last
      · rw [List.mem_singleton] at last
        subst last
        exact ⟨⟨parts, rfl⟩, by simp⟩
      · simp at last

theorem component?_empty : component? "" = none := rfl

/-- An empty path has nothing that leads to it. -/
theorem leads_of_empty {path : Path} (empty : path.text = "") : leads path.parts = [] := by
  obtain ⟨text⟩ := path
  subst empty
  rfl

/-- Leading pieces are the pieces of the path that is written with them. -/
theorem pieces_written {path : Path} {lead : List (String × Option Component)}
    (member : lead ∈ leads path.parts) :
    (path.written lead).pieces = lead.map (·.1) ∧
      (path.written lead).isAbsolute = path.isAbsolute := by
  obtain ⟨inside, nonempty⟩ := leads_isPrefix member
  have known : ∀ piece ∈ lead.map (·.1), '/' ∉ piece.toList := by
    intro piece chosen
    have listed : piece ∈ path.pieces := map_parts path ▸ (inside.map _).subset chosen
    exact slash_not_mem_piece listed
  have chars : (path.written lead).text.toList =
      path.rootChars ++ ['/'].intercalate (lead.map (·.1.toList)) := by
    have slash : "/".toList = ['/'] := rfl
    unfold written rootChars
    split <;> simp [String.toList_append, String.toList_intercalate, slash, Function.comp_def]
  have absolute : (path.written lead).isAbsolute = path.isAbsolute := by
    by_cases rooted : path.isAbsolute = true
    · rw [isAbsolute, chars, rootChars, if_pos rooted, rooted]
      rfl
    · -- The first piece is not empty, for nothing leads to the empty path.
      obtain ⟨first, rest, rfl⟩ := List.exists_cons_of_ne_nil nonempty
      have head : path.pieces.head? = some first.1 := by
        rw [← map_parts]
        obtain ⟨others, whole⟩ := inside
        rw [← whole]
        rfl
      have visible : first.1.toList ≠ [] := by
        intro blank
        rw [String.toList_inj.mp (blank.trans (rfl : "".toList = []).symm)] at head
        have empty := text_of_head?_pieces (by simpa using rooted) head
        rw [leads_of_empty empty] at member
        simp at member
      obtain ⟨c, cs, spelled⟩ := List.exists_cons_of_ne_nil visible
      have other : c ≠ '/' := by
        rintro rfl
        exact known first.1 (by simp) (by simp [spelled])
      have unrooted : path.isAbsolute = false := by simpa using rooted
      rw [isAbsolute, chars, rootChars, unrooted]
      cases rest <;> simp [spelled, other]
  have bodies : (path.written lead).body = ['/'].intercalate (lead.map (·.1.toList)) := by
    rw [toList_eq, rootChars, absolute, ← rootChars] at chars
    exact List.append_cancel_left chars
  refine ⟨?_, absolute⟩
  rw [pieces_eq, bodies, Text.splitWhere_intercalate rfl (by simpa using nonempty)]
  · simp [Function.comp_def]
  · intro cs chosen d letter
    obtain ⟨part, taken, rfl⟩ := List.mem_map.mp chosen
    apply beq_eq_false_iff_ne.mpr
    rintro rfl
    exact known part.1 (List.mem_map_of_mem taken) letter

/-- A path that leads to another is the root, or has leading pieces of it. -/
theorem ancestry_cases {path ancestor : Path} (member : ancestor ∈ path.ancestry) :
    path.isAbsolute = true ∧ ancestor = ⟨"/"⟩ ∨
      ancestor.pieces <+: path.pieces ∧ ancestor.isAbsolute = path.isAbsolute := by
  have listed : ancestor = path ∨ ancestor ∈ (leads path.parts).map path.written ++
      if path.isAbsolute then [⟨"/"⟩] else [] := by
    unfold ancestry at member
    split at member
    · simp at member
    · rename_i shorter whole
      rcases List.mem_cons.mp member with same | later
      · exact .inl same
      · exact .inr (by rw [whole]; exact List.mem_cons_of_mem _ later)
  rcases listed with rfl | listed
  · exact .inr ⟨List.prefix_rfl, rfl⟩
  · rcases List.mem_append.mp listed with written | root
    · obtain ⟨lead, chosen, rfl⟩ := List.mem_map.mp written
      obtain ⟨pieces, absolute⟩ := pieces_written chosen
      refine .inr ⟨?_, absolute⟩
      rw [pieces, ← map_parts]
      exact (leads_isPrefix chosen).1.map _
    · split at root
      · exact .inl ⟨by assumption, List.mem_singleton.mp root⟩
      · simp at root

/-! ## Components -/

theorem component?_eq_name {piece name : String} (found : component? piece = some (.name name)) :
    piece = name ∧ name ≠ "" ∧ name ≠ "." ∧ name ≠ ".." := by
  unfold component? at found
  split at found
  · cases found
  · split at found
    · cases found
    · simp_all

theorem component?_name {name : String} (nonempty : name ≠ "") (other : name ≠ ".")
    (inside : name ≠ "..") : component? name = some (.name name) := by
  simp [component?, nonempty, other, inside]

/-- Every piece stands for its component on its own, but for a dot at the very start. -/
theorem components_eq (path : Path) :
    path.components = path.start ++
      (if path.isAbsolute = false ∧ path.pieces.head? = some "." then [.current] else []) ++
      path.pieces.filterMap component? := by
  have dot : component? "." = none := rfl
  rw [components, List.append_assoc]
  congr 1
  unfold parts
  split
  next rest relative pieces =>
    simp [relative, pieces, dot, List.filterMap_map]
  next pieces others =>
    have undotted : ¬ (path.isAbsolute = false ∧ path.pieces.head? = some ".") := by
      rintro ⟨relative, first⟩
      obtain ⟨rest, whole⟩ := List.head?_eq_some_iff.mp first
      exact others rest relative whole
    rw [if_neg undotted]
    simp [List.filterMap_map]

/-- A text that can name an entry of a directory. -/
structure EntryName (name : String) : Prop where
  nonempty : name ≠ ""
  unbroken : '/' ∉ name.toList
  current : name ≠ "."
  parent : name ≠ ".."

theorem EntryName.isAbsolute_eq_false {name : String} (entry : EntryName name) :
    (Path.mk name).isAbsolute = false :=
  Path.isAbsolute_eq_false entry.unbroken

theorem EntryName.pieces {name : String} (entry : EntryName name) :
    (Path.mk name).pieces = [name] :=
  pieces_of_unbroken entry.unbroken

theorem isPlainName_iff {project : String} :
    Save.isPlainName project = true ↔ EntryName project := by
  unfold Save.isPlainName
  rw [beq_iff_eq, components_eq]
  constructor
  · intro single
    have relative : (Path.mk project).isAbsolute = false := by
      by_contra rooted
      have absolute : (Path.mk project).isAbsolute = true := by simpa using rooted
      simp [start, absolute] at single
    have undotted : ¬ (Path.mk project).pieces.head? = some "." := by
      intro dotted
      simp [start, relative, dotted] at single
    simp only [start, relative, undotted, Bool.false_eq_true, if_false, and_false,
      List.nil_append] at single
    obtain ⟨piece, member, found⟩ :=
      List.mem_filterMap.mp (single ▸ List.mem_singleton_self (Component.name project))
    obtain ⟨rfl, nonempty, current, parent⟩ := component?_eq_name found
    exact ⟨nonempty, slash_not_mem_piece member, current, parent⟩
  · intro entry
    have named := component?_name entry.nonempty entry.current entry.parent
    simp [start, entry.isAbsolute_eq_false, entry.pieces, entry.current, named]

/-- The name of an entry that is joined to a path becomes its last component. -/
theorem components_join (base : Path) {name : String} (entry : EntryName name) :
    (base.join ⟨name⟩).components = base.components ++ [.name name] := by
  have current := entry.current
  have named := component?_name entry.nonempty current entry.parent
  have absolute := isAbsolute_join base entry.isAbsolute_eq_false
  obtain ⟨lead, joined, origin⟩ := pieces_join base entry.isAbsolute_eq_false
  rw [entry.pieces] at joined
  have starts : (base.join ⟨name⟩).start = base.start := by rw [start, absolute, start]
  have firsts : (base.join ⟨name⟩).pieces.head? = some "." ↔
      base.pieces.head? = some "." := by
    rw [joined]
    rcases lead with _ | ⟨first, rest⟩
    · have blank : base.pieces.head? ≠ some "." := by
        rcases origin with whole | whole <;> simp [whole]
      simp [current, blank]
    · rcases origin with whole | whole <;> simp [whole]
  have kept : base.pieces.filterMap component? = lead.filterMap component? := by
    rcases origin with whole | whole <;> simp [whole, component?_empty]
  rw [components_eq, components_eq base, starts, absolute, kept]
  simp only [firsts]
  simp [joined, named]

end ServerForge.Path
