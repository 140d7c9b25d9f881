import ServerForge.Proofs.ScriptIdentifiers
import ServerForge.Proofs.Separators

/-! Texts that are identifiers already. Upper case never changes what upper case has made, over the
whole of its tables. Main statement: an identifier is made of letters and numbers, the first of
which is its own capital, and the texts of this kind are their own identifiers. -/
namespace ServerForge.Unicode

/-- The code points that have another upper case. -/
def lowerCodes : List Nat := upperRuns.flatMap CaseRun.sources ++ upperExpansions.map (·.1)

/-- The code points that occur in such an upper case. -/
def upperCodes : List Nat := upperRuns.flatMap CaseRun.targets ++ upperExpansions.flatMap (·.2)

theorem upperCodes_apart : apart (singles upperCodes) (singles lowerCodes) = true := by
  decide +kernel

theorem upperCodes_known :
    within (singles upperCodes) (idStartRanges ++ idExtendRanges ++ strayRanges) = true := by
  decide +kernel

theorem toNat_ofNat_upper {n : Nat} (upper : n ∈ upperCodes) : (Char.ofNat n).toNat = n :=
  toNat_ofNat (covers_of_within upperCodes_known (covers_singles.mpr upper))

theorem upperCase_of_not_lower {c : Char} (other : c.toNat ∉ lowerCodes) : upperCase c = [c] := by
  rw [lowerCodes, List.mem_append, not_or] at other
  obtain ⟨noRun, noExpansion⟩ := other
  have unexpanded : upperExpansions.lookup c.toNat = none := by
    rw [List.lookup_eq_none_iff]
    intro entry member
    exact bne_iff_ne.mpr fun same => noExpansion (List.mem_map.mpr ⟨entry, member, same.symm⟩)
  have unmapped : upperRuns.findSome? (·.map? c.toNat) = none := by
    rw [List.findSome?_eq_none_iff]
    intro run member
    cases mapped : run.map? c.toNat with
    | none => rfl
    | some m =>
      have source := (CaseRun.mem_of_map? mapped).1
      exact absurd (List.mem_flatMap.mpr ⟨run, member, source⟩) noRun
  simp only [upperCase, unexpanded, unmapped]
  rfl

theorem upperCase_self_or_upper (c : Char) :
    upperCase c = [c] ∨ ∀ d ∈ upperCase c, d.toNat ∈ upperCodes := by
  unfold upperCase
  split
  next expansion found =>
    obtain ⟨before, after, entries, -⟩ := List.lookup_eq_some_iff.mp found
    right
    intro d member
    obtain ⟨n, inside, rfl⟩ := List.mem_map.mp member
    have upper : n ∈ upperCodes := List.mem_append_right _
      (List.mem_flatMap.mpr ⟨(c.toNat, expansion), by simp [entries], inside⟩)
    rwa [toNat_ofNat_upper upper]
  next =>
    cases mapped : upperRuns.findSome? (·.map? c.toNat) with
    | none => exact .inl rfl
    | some n =>
      obtain ⟨run, member, maps⟩ := List.exists_of_findSome?_eq_some mapped
      have upper : n ∈ upperCodes := List.mem_append_left _
        (List.mem_flatMap.mpr ⟨run, member, (CaseRun.mem_of_map? maps).2⟩)
      right
      intro d inside
      rw [List.mem_singleton.mp inside]
      exact (toNat_ofNat_upper upper).symm ▸ upper

/-- One step is enough: what upper case has made is upper case. -/
theorem upperCase_of_mem_upperCase {c d : Char} (member : d ∈ upperCase c) : upperCase d = [d] := by
  rcases upperCase_self_or_upper c with same | upper
  · rw [same, List.mem_singleton] at member
    rw [member, same]
  · apply upperCase_of_not_lower
    have apart := not_covers_of_apart upperCodes_apart (covers_singles.mpr (upper d member))
    rw [← covers_singles, apart]
    exact Bool.false_ne_true

end ServerForge.Unicode

namespace ServerForge.Naming

/-- What a segment begins with in place of its first character: the whole upper case of it, unless
a mark is in that. -/
def capital (c : Char) : List Char :=
  if (Unicode.upperCase c).all isAlphanumeric then Unicode.upperCase c else [c]

theorem capitalize_eq_append (c : Char) (cs : List Char) :
    capitalize (c :: cs) = capital c ++ cs := by
  rw [capitalize, capital]
  split <;> rfl

theorem capital_ne_nil (c : Char) : capital c ≠ [] := by
  obtain ⟨d, ds, split, -⟩ := capitalize_cons c []
  rw [capitalize_eq_append, List.append_nil] at split
  simp [split]

theorem capital_of_mem_capital {c d : Char} (member : d ∈ capital c) : capital d = [d] := by
  unfold capital at member
  split at member
  next =>
    have settled := Unicode.upperCase_of_mem_upperCase member
    rw [capital, settled]
    exact ite_self _
  next marked =>
    rw [List.mem_singleton.mp member]
    exact if_neg marked

/-- Letters and numbers, of which the first is its own capital. -/
def Capitalized (cs : List Char) : Prop :=
  Alphanumeric cs ∧ ∀ c ∈ cs.head?, capital c = [c]

theorem capitalize_of_capitalized {cs : List Char} (capitalized : Capitalized cs) :
    capitalize cs = cs := by
  cases cs with
  | nil => rfl
  | cons c cs =>
    rw [capitalize_eq_append, capitalized.2 c rfl]
    rfl

theorem identifierChars_capitalized (cs : List Char) : Capitalized (identifierChars cs) := by
  refine ⟨identifierChars_alphanumeric cs, ?_⟩
  cases first : cs.find? isAlphanumeric with
  | none => simp [identifierChars_eq_nil first]
  | some c =>
    obtain ⟨part, others, pieces⟩ := segments_eq_cons first
    obtain ⟨d, ds, made⟩ := List.exists_cons_of_ne_nil (capital_ne_nil c)
    have settled : capital d = [d] := capital_of_mem_capital (c := c) (by simp [made])
    simpa [identifierChars, pieces, capitalize_eq_append, made] using settled

theorem identifierChars_eq_self_iff {cs : List Char} :
    identifierChars cs = cs ↔ Capitalized cs := by
  constructor
  · intro same
    exact same ▸ identifierChars_capitalized cs
  · intro capitalized
    rw [identifierChars_of_alphanumeric capitalized.1, capitalize_of_capitalized capitalized]

/-- An identifier is made of letters and numbers and begins with the whole capital of the first one
in its text. It is its own identifier, as is any text whose first letter is its own capital. -/
theorem identifiers_are_settled (text : String) :
    Alphanumeric (identifier text).toList ∧
    identifier (identifier text) = identifier text ∧
    (identifier text = text ↔ Capitalized text.toList) ∧
    ∀ c ∈ text.toList.find? isAlphanumeric, capital c <+: (identifier text).toList := by
  have chars : (identifier text).toList = identifierChars text.toList := String.toList_ofList
  have settled := identifierChars_eq_self_iff.mpr (identifierChars_capitalized text.toList)
  refine ⟨identifier_alphanumeric text, ?_, ?_, ?_⟩
  · rw [identifier, chars, settled, identifier]
  · rw [← String.toList_inj, chars, identifierChars_eq_self_iff]
  · intro c first
    obtain ⟨part, others, pieces⟩ := segments_eq_cons first
    rw [chars, identifierChars, pieces, List.flatMap_cons, capitalize_eq_append, List.append_assoc]
    exact List.prefix_append _ _

/-- The capital of a sharp s is two characters, and that of this iota would have marks in it. -/
theorem identifiers_are_settled_expanded :
    identifier (identifier "straße-ΐ") = identifier "straße-ΐ" ∧
    'ß' ∈ "-ßa".toList.find? isAlphanumeric ∧ capital 'ß' <+: (identifier "-ßa").toList := by
  have dash : isAlphanumeric '-' = false := mark_not_alphanumeric (by decide)
  have first : 'ß' ∈ ['-', 'ß', 'a'].find? isAlphanumeric := by
    rw [List.find?_cons_of_neg (by simp [dash]), List.find?_cons_of_pos (by decide)]
    rfl
  exact ⟨(identifiers_are_settled "straße-ΐ").2.1, first,
    (identifiers_are_settled "-ßa").2.2.2 'ß' first⟩

set_option maxRecDepth 10000 in
example : identifier "-ßa" = "SSa" ∧ identifier "ΐ-op" = "ΐOp" := by decide

end ServerForge.Naming
