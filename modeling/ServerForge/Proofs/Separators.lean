import ServerForge.Proofs.Identifiers

/-! How a text is separated does not show in the names made from it. Main statements: two texts
have the same segments exactly if one becomes the other by exchanging, adding and dropping
separators, and then all their names are the same. -/
namespace ServerForge.Naming

/-! ## Segments -/

theorem alphanumeric_nil : Alphanumeric [] := by simp [Alphanumeric]

theorem segments_append_cons {c : Char} (separator : isAlphanumeric c = false)
    (before after : List Char) :
    segments (before ++ c :: after) = segments before ++ segments after := by
  rw [segments, Text.splitWhere_append (by simp [separator]), List.filter_append]
  rfl

theorem segments_cons_separator {c : Char} (separator : isAlphanumeric c = false)
    (cs : List Char) : segments (c :: cs) = segments cs :=
  segments_append_cons separator [] cs

theorem segments_of_alphanumeric {cs : List Char} (all : Alphanumeric cs) (nonempty : cs ≠ []) :
    segments cs = [cs] := by
  have whole : Text.splitWhere (fun c => !isAlphanumeric c) cs = [cs] :=
    Text.splitWhere_of_none fun c member => by simp [all c member]
  simp [segments, whole, nonempty]

/-- Separators only, and at least one. -/
def Separates (s : List Char) : Prop := s ≠ [] ∧ ∀ c ∈ s, isAlphanumeric c = false

instance (s : List Char) : Decidable (Separates s) :=
  decidable_of_iff (s ≠ [] ∧ s.all (!isAlphanumeric ·) = true) (by simp [Separates])

theorem segments_separators_append {s : List Char}
    (separators : ∀ c ∈ s, isAlphanumeric c = false) (cs : List Char) :
    segments (s ++ cs) = segments cs := by
  induction s with
  | nil => rfl
  | cons c s ih =>
    rw [List.cons_append, segments_cons_separator (separators c (by simp))]
    exact ih fun d member => separators d (by simp [member])

theorem segments_around {s : List Char} (separates : Separates s) (before after : List Char) :
    segments (before ++ s ++ after) = segments before ++ segments after := by
  obtain ⟨nonempty, separators⟩ := separates
  cases s with
  | nil => exact absurd rfl nonempty
  | cons c s =>
    obtain ⟨first, others⟩ := List.forall_mem_cons.mp separators
    rw [List.append_assoc, List.cons_append, segments_append_cons first,
      segments_separators_append others]

/-! ## Texts with other separators -/

/-- The second text is the first one with other separators: some exchanged for others, or some
more or fewer at either end. -/
inductive Respaced : List Char → List Char → Prop
  | exchanged (before after : List Char) {s t : List Char} (old : Separates s)
      (new : Separates t) : Respaced (before ++ s ++ after) (before ++ t ++ after)
  | preceded (cs : List Char) {s : List Char} (separates : Separates s) : Respaced cs (s ++ cs)
  | followed (cs : List Char) {s : List Char} (separates : Separates s) : Respaced cs (cs ++ s)
  | symm {cs ds : List Char} : Respaced cs ds → Respaced ds cs
  | trans {cs ds es : List Char} : Respaced cs ds → Respaced ds es → Respaced cs es

theorem Respaced.segments_eq {cs ds : List Char} (respaced : Respaced cs ds) :
    segments cs = segments ds := by
  induction respaced with
  | exchanged before after old new => rw [segments_around old, segments_around new]
  | preceded cs separates => rw [segments_separators_append separates.2]
  | followed cs separates =>
    have ended := segments_around separates cs []
    rw [List.append_nil] at ended
    rw [ended]
    exact (List.append_nil _).symm
  | symm _ ih => exact ih.symm
  | trans _ _ first second => exact first.trans second

theorem separates_of_marks {s : List Char} (nonempty : s ≠ []) (among : s ⊆ marks) : Separates s :=
  ⟨nonempty, fun _ member => mark_not_alphanumeric (among member)⟩

theorem separates_dash : Separates ['-'] := separates_of_marks (by simp) (by decide)

theorem Respaced.refl (cs : List Char) : Respaced cs cs :=
  (preceded cs separates_dash).trans (preceded cs separates_dash).symm

/-- Behind a separator, separators at the front of a text are some in the middle. -/
theorem Respaced.behind {cs ds : List Char} (respaced : Respaced cs ds) (before : List Char) :
    Respaced (before ++ '-' :: cs) (before ++ '-' :: ds) := by
  induction respaced with
  | exchanged first after old new =>
    simpa using exchanged (before ++ '-' :: first) after old new
  | preceded cs separates =>
    have longer : Separates ('-' :: _) :=
      ⟨by simp, List.forall_mem_cons.mpr ⟨separates_dash.2 '-' (by simp), separates.2⟩⟩
    simpa using exchanged before cs separates_dash longer
  | followed cs separates => simpa using followed (before ++ '-' :: cs) separates
  | symm _ ih => exact ih.symm
  | trans _ _ first second => exact first.trans second

/-- A part before a dash is the first segment of all, unless it is empty. -/
theorem respaced_part {part : List Char} (all : Alphanumeric part) (pieces : List (List Char)) :
    Respaced (part ++ '-' :: ['-'].intercalate pieces)
      (['-'].intercalate (segments part ++ pieces)) := by
  cases part with
  | nil => exact (Respaced.preceded _ separates_dash).symm
  | cons c part =>
    rw [segments_of_alphanumeric all (by simp)]
    cases pieces with
    | nil => simpa using (Respaced.followed (c :: part) separates_dash).symm
    | cons piece pieces =>
      rw [List.singleton_append, List.intercalate_cons_cons, List.append_assoc]
      exact .refl _

/-- Any text is one of its segments with a dash between them. The induction is on what follows a
part of the first segment. -/
theorem respaced_intercalate {part : List Char} (all : Alphanumeric part) (cs : List Char) :
    Respaced (part ++ cs) (['-'].intercalate (segments (part ++ cs))) := by
  induction cs generalizing part with
  | nil =>
    rw [List.append_nil]
    cases part with
    | nil => exact .refl []
    | cons c part =>
      rw [segments_of_alphanumeric all (by simp)]
      simpa using Respaced.refl (c :: part)
  | cons c cs ih =>
    by_cases letter : isAlphanumeric c = true
    · have longer : Alphanumeric (part ++ [c]) := by
        intro d member
        rcases List.mem_append.mp member with inside | last
        · exact all d inside
        · exact List.mem_singleton.mp last ▸ letter
      simpa using ih longer
    · have separator : isAlphanumeric c = false := Bool.eq_false_iff.mpr letter
      have separates : Separates [c] := ⟨by simp, by simpa using separator⟩
      have dashed : Respaced (part ++ c :: cs) (part ++ '-' :: cs) := by
        simpa using Respaced.exchanged part cs separates separates_dash
      have rest : Respaced cs (['-'].intercalate (segments cs)) := ih alphanumeric_nil
      rw [segments_append_cons separator]
      exact dashed.trans ((rest.behind part).trans (respaced_part all (segments cs)))

/-- Nothing else than the segments is kept. -/
theorem respaced_iff {cs ds : List Char} : Respaced cs ds ↔ segments cs = segments ds := by
  constructor
  · exact Respaced.segments_eq
  · intro same
    have first : Respaced cs (['-'].intercalate (segments cs)) :=
      respaced_intercalate alphanumeric_nil cs
    have second : Respaced ds (['-'].intercalate (segments ds)) :=
      respaced_intercalate alphanumeric_nil ds
    exact first.trans (same ▸ second.symm)

instance (cs ds : List Char) : Decidable (Respaced cs ds) := decidable_of_iff _ respaced_iff.symm

/-! ## Names -/

theorem identifierChars_around {s : List Char} (separates : Separates s)
    (before after : List Char) :
    identifierChars (before ++ s ++ after) = identifierChars before ++ identifierChars after := by
  rw [identifierChars, segments_around separates, List.flatMap_append]
  rfl

theorem identifierChars_of_alphanumeric {cs : List Char} (all : Alphanumeric cs) :
    identifierChars cs = capitalize cs := by
  cases cs with
  | nil => rfl
  | cons c cs =>
    rw [identifierChars, segments_of_alphanumeric all (by simp), List.flatMap_singleton]

theorem identifier_of_respaced {text other : String}
    (respaced : Respaced text.toList other.toList) : identifier text = identifier other := by
  rw [identifier, identifierChars, respaced.segments_eq, identifier, identifierChars]

/-- An identifier is that of the text before a separator and that of the text after it, whichever
the separator is; without one, the text is capitalized. So texts that differ in their separators
only have the same identifier, and their handlers and classes are the same too. -/
theorem separators_are_interchangeable :
    (∀ part : String, Alphanumeric part.toList →
      identifier part = String.ofList (capitalize part.toList)) ∧
    (∀ before s after : String, Separates s.toList →
      identifier (before ++ s ++ after) = identifier before ++ identifier after) ∧
    ∀ text other : String, Respaced text.toList other.toList →
      identifier text = identifier other ∧ handlerName text = handlerName other ∧
        className text = className other := by
  refine ⟨fun part all => ?_, fun before s after separates => ?_, fun text other respaced => ?_⟩
  · rw [identifier, identifierChars_of_alphanumeric all]
  · simp only [identifier, String.toList_append, identifierChars_around separates,
      String.ofList_append]
  · have same := identifier_of_respaced respaced
    exact ⟨same, by rw [handlerName, same, handlerName], by rw [className, same, className]⟩

/-- Two dashes or a dot, and separators at both ends or at none. -/
theorem separators_are_interchangeable_mixed :
    (Alphanumeric "my".toList ∧ identifier "my" = String.ofList (capitalize "my".toList)) ∧
    (Separates "--".toList ∧
      identifier ("my" ++ "--" ++ "tools") = identifier "my" ++ identifier "tools") ∧
    Respaced "my.tools".toList "_my--tools ".toList ∧
      identifier "my.tools" = identifier "_my--tools " ∧
      handlerName "my.tools" = handlerName "_my--tools " ∧
      className "my.tools" = className "_my--tools " := by
  have part : Alphanumeric "my".toList := List.all_eq_true.mp (by decide)
  have separates : Separates "--".toList := separates_of_marks (by decide) (by decide)
  have respaced : Respaced "my.tools".toList "_my--tools ".toList := by
    have dot : Separates ".".toList := separates_of_marks (by decide) (by decide)
    have bar : Separates "_".toList := separates_of_marks (by decide) (by decide)
    have blank : Separates " ".toList := separates_of_marks (by decide) (by decide)
    have dashes := Respaced.exchanged "my".toList "tools".toList dot separates
    exact dashes.trans ((Respaced.preceded _ bar).trans (.followed _ blank))
  exact ⟨⟨part, separators_are_interchangeable.1 _ part⟩,
    ⟨separates, separators_are_interchangeable.2.1 _ _ _ separates⟩,
    respaced, separators_are_interchangeable.2.2 _ _ respaced⟩

end ServerForge.Naming
