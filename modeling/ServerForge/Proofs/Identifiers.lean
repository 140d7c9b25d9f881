import ServerForge.Naming

/-! What identifiers are made of: letters and numbers only, whatever the text they come from. -/
namespace ServerForge

namespace Naming

/-- Every character is a letter or a number. -/
def Alphanumeric (cs : List Char) : Prop := ∀ c ∈ cs, isAlphanumeric c = true

theorem Alphanumeric.not_mem {cs : List Char} (all : Alphanumeric cs) {c : Char}
    (other : isAlphanumeric c = false) : c ∉ cs :=
  fun member => by simp [all c member] at other

theorem segments_alphanumeric {cs segment : List Char} (member : segment ∈ segments cs) :
    Alphanumeric segment := by
  intro c inside
  have piece := (List.mem_filter.mp member).1
  simpa using Text.not_separator_of_mem_splitWhere piece inside

theorem capitalize_alphanumeric {cs : List Char} (all : Alphanumeric cs) :
    Alphanumeric (capitalize cs) := by
  cases cs with
  | nil => exact all
  | cons c cs =>
    simp only [capitalize]
    split
    next upper =>
      intro d member
      rcases List.mem_append.mp member with first | rest
      · exact List.all_eq_true.mp upper d first
      · exact all d (by simp [rest])
    next => exact all

theorem identifierChars_alphanumeric (cs : List Char) : Alphanumeric (identifierChars cs) := by
  intro c member
  obtain ⟨segment, inside, atSegment⟩ := List.mem_flatMap.mp member
  exact capitalize_alphanumeric (segments_alphanumeric inside) c atSegment

theorem identifier_alphanumeric (text : String) : Alphanumeric (identifier text).toList := by
  simpa [identifier] using identifierChars_alphanumeric text.toList

theorem handlerName_alphanumeric (operation : String) :
    Alphanumeric (handlerName operation).toList := by
  rw [handlerName, String.toList_append]
  intro c member
  rcases List.mem_append.mp member with verb | rest
  · have every : "handle".toList.all isAlphanumeric = true := rfl
    exact List.all_eq_true.mp every c verb
  · exact identifier_alphanumeric operation c rest

theorem className_alphanumeric (project : String) : Alphanumeric (className project).toList := by
  have fixed : ("Mcp".toList ++ "Server".toList).all isAlphanumeric = true := rfl
  rw [List.all_eq_true] at fixed
  intro c member
  simp only [className, String.toList_append, List.mem_append] at member
  rcases member with base | suffix
  · split at base
    · rw [String.toList_append] at base
      rcases List.mem_append.mp base with lead | rest
      · exact fixed c (List.mem_append_left _ lead)
      · exact identifier_alphanumeric project c rest
    · exact identifier_alphanumeric project c base
  · exact fixed c (List.mem_append_right _ suffix)

/-- Marks that stand before, after and between names. -/
def marks : List Char := ['\n', ' ', '$', '(', '-', '.', ':', ';', '=', '_']

set_option maxRecDepth 10000 in
theorem mark_not_alphanumeric {c : Char} (mark : c ∈ marks) : isAlphanumeric c = false := by
  have all : marks.all (!isAlphanumeric ·) = true := by decide
  simpa using List.all_eq_true.mp all c mark

end Naming

end ServerForge
