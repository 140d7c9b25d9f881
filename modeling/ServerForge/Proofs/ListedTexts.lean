import Mathlib.Data.List.Basic
import Mathlib.Data.List.DropRight
import ServerForge.Proofs.Lines

/-! Lists in one text, with commas between the members. Which text stands for which list is told by
two laws: a comma cuts a text into two that are read on their own, and blanks around a member do not
count. So a list that is joined is read member by member, and is found again if each member alone
is. -/
namespace ServerForge.Text

/-- What stands between two commas makes up one member, or none if it is blank. -/
def memberOf (piece : List Char) : List String :=
  [String.ofList (trimmed piece)].filter (· != "")

theorem splitList_eq (text : String) :
    splitList text = (splitWhere (· == ',') text.toList).flatMap memberOf := by
  rw [splitList]
  induction splitWhere (· == ',') text.toList with
  | nil => rfl
  | cons piece pieces ih =>
    rw [List.flatMap_cons, ← ih, memberOf, ← List.filter_append]
    rfl

/-! ## Commas and blanks -/

theorem splitList_comma (a b : String) :
    splitList (a ++ "," ++ b) = splitList a ++ splitList b := by
  have comma : (a ++ "," ++ b).toList = a.toList ++ ',' :: b.toList := by
    simp [String.toList_append]
  rw [splitList_eq, splitList_eq, splitList_eq, comma, splitWhere_append rfl, List.flatMap_append]

/-- A blank in front of a text belongs to its first member, where it does not count. -/
theorem splitList_blank_cons {c : Char} (blank : Unicode.isBlank c = true) (noComma : c ≠ ',')
    (cs : List Char) : splitList (String.ofList (c :: cs)) = splitList (String.ofList cs) := by
  have skipped (piece : List Char) : memberOf (c :: piece) = memberOf piece := by
    simp [memberOf, trimmed, trimStart, blank]
  have within : ((c == ',') = true) = False := by simpa using noComma
  rw [splitList_eq, splitList_eq, String.toList_ofList, String.toList_ofList, splitWhere]
  simp only [within, if_false]
  cases pieces : splitWhere (· == ',') cs with
  | nil => exact absurd pieces (splitWhere_ne_nil _ cs)
  | cons first rest => rw [List.flatMap_cons, List.flatMap_cons, skipped]

theorem splitList_comma_blank (a b : String) :
    splitList (a ++ ", " ++ b) = splitList a ++ splitList b := by
  have parted : a ++ ", " ++ b = a ++ "," ++ String.ofList (' ' :: b.toList) := by
    rw [← String.toList_inj]
    simp [String.toList_append]
  rw [parted, splitList_comma, splitList_blank_cons (by decide) (by decide), String.ofList_toList]

theorem splitList_intercalate (texts : List String) :
    splitList (", ".intercalate texts) = texts.flatMap splitList := by
  induction texts with
  | nil => decide
  | cons text texts ih =>
    cases texts with
    | nil => simp
    | cons second rest =>
      rw [String.intercalate_cons_cons, splitList_comma_blank, ih,
        List.flatMap_cons (x := text)]

/-! ## Texts that stand for themselves -/

/-- What can be a member: a text with something in it, without commas and without blanks at its
ends. -/
structure Listable (text : String) : Prop where
  nonempty : text ≠ ""
  noComma : ',' ∉ text.toList
  trimmed : trim text = text

theorem splitList_listable {text : String} (listable : Listable text) :
    splitList text = [text] := by
  have whole : splitWhere (· == ',') text.toList = [text.toList] :=
    splitWhere_of_none fun c member => beq_eq_false_iff_ne.mpr fun comma =>
      listable.noComma (comma ▸ member)
  have self : String.ofList (Text.trimmed text.toList) = text := listable.trimmed
  rw [splitList_eq, whole, List.flatMap_singleton, memberOf, self]
  simpa using listable.nonempty

theorem trimmed_trimmed (cs : List Char) : trimmed (trimmed cs) = trimmed cs := by
  have front : trimStart (trimmed cs) = trimmed cs := by
    refine List.dropWhile_eq_self_iff.mpr fun nonempty => ?_
    have begins : trimmed cs <+: trimStart cs := trimEnd_begins _
    rw [begins.getElem nonempty]
    exact List.dropWhile_eq_self_iff.mp (List.dropWhile_idempotent _ cs) _
  rw [trimmed, front]
  exact List.rdropWhile_idempotent _ _

theorem trim_trim (text : String) : trim (trim text) = trim text := by
  rw [trim, trim, String.toList_ofList]
  exact congrArg String.ofList (trimmed_trimmed text.toList)

theorem trim_eq_empty_iff {text : String} : trim text = "" ↔ isBlank text = true := by
  constructor
  · intro nothing
    have none : trimEnd (trimStart text.toList) = [] := by
      simpa [trim, ← String.toList_inj] using nothing
    have front : trimStart text.toList = [] := by
      have blanks : ∀ c ∈ trimStart text.toList, Unicode.isBlank c = true := fun c member => by
        have all := List.dropWhile_eq_nil_iff.mp (List.reverse_eq_nil_iff.mp none)
        exact all c (List.mem_reverse.mpr member)
      have nothing_left := List.dropWhile_eq_nil_iff.mpr blanks
      exact (List.dropWhile_idempotent _ text.toList).symm.trans nothing_left
    exact List.all_eq_true.mpr (List.dropWhile_eq_nil_iff.mp front)
  · intro blank
    have front : trimStart text.toList = [] :=
      List.dropWhile_eq_nil_iff.mpr (List.all_eq_true.mp blank)
    rw [trim, front]
    rfl

theorem listable_of_mem_splitList {text member : String} (listed : member ∈ splitList text) :
    Listable member := by
  rw [splitList_eq] at listed
  obtain ⟨piece, split, inside⟩ := List.mem_flatMap.mp listed
  obtain ⟨found, nonempty⟩ := List.mem_filter.mp inside
  cases List.mem_singleton.mp found
  refine ⟨by simpa using nonempty, fun comma => ?_, ?_⟩
  · rw [String.toList_ofList] at comma
    have around : ',' ∈ piece := (trimEnd_begins _).subset comma |> (List.dropWhile_suffix _).subset
    exact absurd (not_separator_of_mem_splitWhere split around) (by decide)
  · rw [trim, String.toList_ofList]
    exact congrArg String.ofList (trimmed_trimmed piece)

/-- A list is found again in the joined text just if each of its members can be one. -/
theorem flatMap_splitList_eq_self_iff {texts : List String} :
    texts.flatMap splitList = texts ↔ ∀ text ∈ texts, Listable text := by
  constructor
  · intro same text member
    rw [← same] at member
    obtain ⟨origin, -, listed⟩ := List.mem_flatMap.mp member
    exact listable_of_mem_splitList listed
  · intro listable
    calc texts.flatMap splitList = texts.flatMap ([·]) :=
          List.flatMap_congr fun text member => splitList_listable (listable text member)
      _ = texts := List.flatMap_singleton' texts

/-- Trimming leaves a text as it is just if neither its first character nor its last is blank. -/
theorem trim_eq_self_iff {text : String} :
    trim text = text ↔ (∀ c ∈ text.toList.head?, Unicode.isBlank c = false) ∧
      ∀ c ∈ text.toList.getLast?, Unicode.isBlank c = false := by
  have self : trim text = text ↔ trimmed text.toList = text.toList := by
    rw [← String.toList_inj, trim, String.toList_ofList]
    rfl
  rw [self]
  constructor
  · intro same
    have front : trimStart text.toList = text.toList := by
      -- trimming at the end takes away no more characters than there were
      have suffix : trimStart text.toList <:+ text.toList := List.dropWhile_suffix _
      refine suffix.eq_of_length_le ?_
      calc text.toList.length = (trimmed text.toList).length := by rw [same]
        _ ≤ (trimStart text.toList).length := (trimEnd_begins _).length_le
    have back : trimEnd text.toList = text.toList := by
      rwa [trimmed, front] at same
    refine ⟨fun c first => ?_, fun c last => ?_⟩
    · obtain ⟨rest, chars⟩ := List.head?_eq_some_iff.mp first
      rw [chars] at front
      exact eq_false_of_ne_true (List.dropWhile_eq_self_iff.mp front (Nat.zero_lt_succ _))
    · obtain ⟨front, chars⟩ := List.getLast?_eq_some_iff.mp last
      rw [chars] at back
      simpa using List.rdropWhile_eq_self_iff.mp back (by simp)
  · rintro ⟨first, last⟩
    have front : trimStart text.toList = text.toList := by
      refine List.dropWhile_eq_self_iff.mpr fun nonempty => ?_
      obtain ⟨c, rest, chars⟩ := List.exists_cons_of_length_pos nonempty
      have visible := first c (by simp [chars])
      simp [chars, visible]
    rw [trimmed, front]
    refine List.rdropWhile_eq_self_iff.mpr fun nonempty => ?_
    simpa using last _ (List.getLast?_eq_some_getLast nonempty)

/-- A joined list is read back as it was exactly if each of its members has something in it, no
comma, and no blank at either end; and a comma between two texts keeps their members apart. -/
theorem joined_lists_are_read_back :
    (∀ texts : List String, splitList (", ".intercalate texts) = texts ↔
      ∀ text ∈ texts, text ≠ "" ∧ ',' ∉ text.toList ∧
        (∀ c ∈ text.toList.head?, Unicode.isBlank c = false) ∧
        ∀ c ∈ text.toList.getLast?, Unicode.isBlank c = false) ∧
    ∀ a b : String, splitList (a ++ "," ++ b) = splitList a ++ splitList b := by
  refine ⟨fun texts => ?_, splitList_comma⟩
  rw [splitList_intercalate, flatMap_splitList_eq_self_iff]
  refine forall₂_congr fun text _ => ?_
  constructor
  · rintro ⟨nonempty, noComma, trimmed⟩
    exact ⟨nonempty, noComma, trim_eq_self_iff.mp trimmed⟩
  · rintro ⟨nonempty, noComma, ends⟩
    exact ⟨nonempty, noComma, trim_eq_self_iff.mpr ends⟩

example : splitList "query, insert,,  schema " = ["query", "insert", "schema"] := by decide

end ServerForge.Text
