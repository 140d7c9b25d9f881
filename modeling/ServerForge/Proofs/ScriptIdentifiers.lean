import ServerForge.Proofs.IdentifierRanges
import ServerForge.Proofs.Identifiers

/-! Which names can be declared in a script. Main statement: the name of a handler is an identifier
exactly if the operation holds no stray, and the name of a class if, besides, the first letter or
number of the project is one that can begin a name. -/
namespace ServerForge

theorem Text.flatten_splitWhere (p : Char → Bool) (cs : List Char) :
    (splitWhere p cs).flatten = cs.filter (!p ·) := by
  induction cs with
  | nil => rfl
  | cons c cs ih =>
    unfold splitWhere
    by_cases separator : p c = true
    · simp [separator, ih]
    · rw [if_neg separator]
      cases pieces : splitWhere p cs with
      | nil => exact absurd pieces (splitWhere_ne_nil p cs)
      | cons piece rest =>
        rw [pieces] at ih
        simp only [List.flatten_cons] at ih
        simp [separator, ← ih]

namespace Script

def startsIdentifier (c : Char) : Bool := c == '$' || c == '_' || Unicode.isIdStart c

/-- The last two are the joiners without a width. -/
def continuesIdentifier (c : Char) : Bool :=
  c == '$' || c == '_' || Unicode.isIdContinue c || c == '\u200c' || c == '\u200d'

def isIdentifier (name : String) : Bool :=
  match name.toList with
  | [] => false
  | c :: cs => startsIdentifier c && cs.all continuesIdentifier

theorem isIdentifier_of_toList {name : String} {c : Char} {cs : List Char}
    (chars : name.toList = c :: cs) :
    isIdentifier name = (startsIdentifier c && cs.all continuesIdentifier) := by
  unfold isIdentifier
  rw [chars]

theorem startsIdentifier_iff {c : Char} (known : Naming.isAlphanumeric c = true) :
    startsIdentifier c = true ↔ Unicode.isIdStart c = true := by
  have unmarked : c ∉ Naming.marks := fun mark => by
    simp [Naming.mark_not_alphanumeric mark] at known
  have notDollar : c ≠ '$' := by
    rintro rfl
    exact unmarked (by decide)
  have notUnderscore : c ≠ '_' := by
    rintro rfl
    exact unmarked (by decide)
  simp [startsIdentifier, notDollar, notUnderscore]

theorem continuesIdentifier_iff {c : Char} (known : Naming.isAlphanumeric c = true) :
    continuesIdentifier c = true ↔ Unicode.isStray c = false := by
  have others : ['$', '_', '\u200c', '\u200d'].all (!Unicode.isStray ·) = true := by
    decide
  simp only [List.all_eq_true, Bool.not_eq_true'] at others
  constructor
  · intro continues
    simp only [continuesIdentifier, Bool.or_eq_true, beq_iff_eq] at continues
    rcases continues with (((same | same) | continues) | same) | same
    · exact others c (by simp [same])
    · exact others c (by simp [same])
    · exact Unicode.isStray_of_isIdContinue continues
    · exact others c (by simp [same])
    · exact others c (by simp [same])
  · intro other
    cases continues : Unicode.isIdContinue c with
    | true => simp [continuesIdentifier, continues]
    | false =>
      have stray := (Unicode.isStray_iff c).mpr ⟨known, continues⟩
      simp [stray] at other

end Script

namespace Naming

/-- A character that can begin a name, that a number's prefix is put before, or that becomes a
letter. -/
def leads (c : Char) : Bool :=
  Unicode.isNumeric c || Unicode.isIdStart c || c == Unicode.iotaMark

/-- No character of the text is a stray. -/
def Unstrayed (cs : List Char) : Prop := ∀ c ∈ cs, Unicode.isStray c = false

@[simp] theorem unstrayed_nil : Unstrayed [] := by simp [Unstrayed]

@[simp] theorem unstrayed_cons {c : Char} {cs : List Char} :
    Unstrayed (c :: cs) ↔ Unicode.isStray c = false ∧ Unstrayed cs := by simp [Unstrayed]

@[simp] theorem unstrayed_append {before after : List Char} :
    Unstrayed (before ++ after) ↔ Unstrayed before ∧ Unstrayed after := by
  simp only [Unstrayed, List.mem_append]
  exact ⟨fun all => ⟨fun c member => all c (.inl member), fun c member => all c (.inr member)⟩,
    fun both c member => member.elim (both.1 c) (both.2 c)⟩

theorem flatten_segments (cs : List Char) : (segments cs).flatten = cs.filter isAlphanumeric := by
  have nonempty : ∀ pieces : List (List Char),
      (pieces.filter (!·.isEmpty)).flatten = pieces.flatten := by
    intro pieces
    induction pieces with
    | nil => rfl
    | cons piece pieces ih => cases piece <;> simp [ih]
  rw [segments, nonempty, Text.flatten_splitWhere]
  simp

/-- A character becomes others at the start of a name: none of them is a stray unless it is one
itself, and a name can begin with the first of them if it can with the character. -/
structure Begins (c d : Char) (ds : List Char) : Prop where
  strays : Unstrayed (d :: ds) ↔ Unicode.isStray c = false
  leading : Unicode.isStray c = false →
    (Unicode.isNumeric d || Unicode.isIdStart d) = leads c

theorem begins_self {c : Char} (other : c ≠ Unicode.iotaMark) : Begins c c [] where
  strays := by simp
  leading := fun _ => by simp [leads, other]

theorem begins_upperCase {c d : Char} {ds : List Char} (upper : Unicode.upperCase c = d :: ds) :
    Begins c d ds := by
  rcases Unicode.upperCase_cases c with ⟨_, _, same, start, first, others⟩ |
    ⟨_, same, stray, first⟩ | ⟨rfl, same⟩ | ⟨other, same⟩
  all_goals
    rw [upper] at same
    cases same
  · have unstrayed : Unstrayed (d :: ds) := unstrayed_cons.mpr
      ⟨Unicode.isStray_of_isIdStart first,
        fun e member => Unicode.isStray_of_isIdContinue (others e member)⟩
    exact ⟨iff_of_true unstrayed (Unicode.isStray_of_isIdStart start),
      fun _ => by simp [leads, start, first]⟩
  · exact ⟨by simp [stray, first], fun other => by simp [stray] at other⟩
  · have mark : Unicode.isStray Unicode.iotaMark = false := by decide
    have letter : Unicode.isStray Unicode.iotaLetter = false := by decide
    have first : Unicode.isIdStart Unicode.iotaLetter = true := by decide
    exact ⟨by simp [mark, letter], fun _ => by simp [leads, first]⟩
  · exact begins_self other

theorem capitalize_cons (c : Char) (cs : List Char) :
    ∃ d ds, capitalize (c :: cs) = d :: ds ++ cs ∧ Begins c d ds := by
  by_cases used : (Unicode.upperCase c).all isAlphanumeric = true
  · cases upper : Unicode.upperCase c with
    | nil =>
      rcases Unicode.upperCase_cases c with ⟨_, _, same, _⟩ | ⟨_, same, _⟩ | ⟨_, same⟩ | ⟨_, same⟩
      all_goals simp [upper] at same
    | cons d ds =>
      rw [upper] at used
      exact ⟨d, ds, by simp only [capitalize, upper, used, if_true], begins_upperCase upper⟩
  · refine ⟨c, [], by simp only [capitalize, used]; rfl, begins_self ?_⟩
    rintro rfl
    exact used (by decide)

theorem unstrayed_capitalize (segment : List Char) :
    Unstrayed (capitalize segment) ↔ Unstrayed segment := by
  cases segment with
  | nil => simp [capitalize]
  | cons c cs =>
    obtain ⟨d, ds, split, begins⟩ := capitalize_cons c cs
    rw [split, unstrayed_append, begins.strays, unstrayed_cons]

theorem unstrayed_identifierChars (cs : List Char) :
    Unstrayed (identifierChars cs) ↔ Unstrayed cs := by
  have letters : Unstrayed (segments cs).flatten ↔ Unstrayed cs := by
    rw [flatten_segments]
    constructor
    · intro all c member
      cases stray : Unicode.isStray c with
      | false => rfl
      | true =>
        have known := ((Unicode.isStray_iff c).mp stray).1
        exact stray ▸ all c (List.mem_filter.mpr ⟨member, known⟩)
    · intro all c member
      exact all c (List.mem_filter.mp member).1
  rw [← letters, identifierChars]
  induction segments cs with
  | nil => simp
  | cons segment rest ih =>
    simp only [List.flatMap_cons, List.flatten_cons, unstrayed_append, unstrayed_capitalize, ih]

theorem identifierChars_eq_nil {cs : List Char} (none : cs.find? isAlphanumeric = none) :
    identifierChars cs = [] := by
  have empty : (segments cs).flatten = [] := by
    rw [flatten_segments, List.filter_eq_nil_iff]
    simpa using none
  rw [List.flatten_eq_nil_iff] at empty
  rw [identifierChars, List.flatMap_eq_nil_iff]
  intro segment member
  rw [empty segment member, capitalize]

theorem className_of_none {project : String}
    (none : project.toList.find? isAlphanumeric = none) : className project = "Server" := by
  have empty := identifierChars_eq_nil none
  rw [← String.toList_inj]
  simp [className, identifier, empty]

/-- The first letter or number of a text begins its first segment. -/
theorem segments_eq_cons {cs : List Char} {c : Char} (first : cs.find? isAlphanumeric = some c) :
    ∃ part others, segments cs = (c :: part) :: others := by
  have letters := flatten_segments cs
  rw [← List.head?_filter, ← letters] at first
  cases pieces : segments cs with
  | nil =>
    rw [pieces] at first
    cases first
  | cons segment others =>
    have whole : segment ≠ [] := by
      have member : segment ∈ segments cs := by simp [pieces]
      simpa using (List.mem_filter.mp member).2
    cases segment with
    | nil => exact absurd rfl whole
    | cons e part =>
      rw [pieces] at first
      cases first
      exact ⟨part, others, rfl⟩

/-- The first letter or number of a text decides what its identifier begins with. -/
theorem identifierChars_eq_cons {cs : List Char} {c : Char}
    (first : cs.find? isAlphanumeric = some c) :
    ∃ d ds rest, identifierChars cs = d :: rest ∧ Begins c d ds := by
  obtain ⟨part, others, pieces⟩ := segments_eq_cons first
  obtain ⟨d, ds, split, begins⟩ := capitalize_cons c part
  exact ⟨d, ds, _, by rw [identifierChars, pieces, List.flatMap_cons, split]; rfl, begins⟩

theorem all_continue_iff {cs : List Char} (all : Alphanumeric cs) :
    cs.all Script.continuesIdentifier = true ↔ Unstrayed cs := by
  rw [List.all_eq_true]
  exact forall₂_congr fun c member => Script.continuesIdentifier_iff (all c member)

theorem isIdentifier_handlerName (operation : String) :
    Script.isIdentifier (handlerName operation) = true ↔ Unstrayed operation.toList := by
  have chars : (handlerName operation).toList =
      'h' :: (['a', 'n', 'd', 'l', 'e'] ++ (identifier operation).toList) := by
    simp [handlerName]
  have verb : Script.startsIdentifier 'h' = true := by decide
  have rest : ['a', 'n', 'd', 'l', 'e'].all Script.continuesIdentifier = true := by decide
  rw [Script.isIdentifier_of_toList chars, verb, Bool.true_and, List.all_append, rest,
    Bool.true_and, all_continue_iff (identifier_alphanumeric operation), identifier,
    String.toList_ofList, unstrayed_identifierChars]

theorem isIdentifier_className (project : String) :
    Script.isIdentifier (className project) = true ↔ Unstrayed project.toList ∧
      ∀ c ∈ project.toList.find? isAlphanumeric, leads c = true := by
  have base : (identifier project).toList = identifierChars project.toList := by simp [identifier]
  have suffix : "Server".toList.all Script.continuesIdentifier = true := by decide
  have unstrayed := unstrayed_identifierChars project.toList
  cases first : project.toList.find? isAlphanumeric with
  | none =>
    have empty := identifierChars_eq_nil first
    have fixed := className_of_none first
    have valid : Script.isIdentifier "Server" = true := by decide
    simp only [fixed, valid, true_iff]
    exact ⟨unstrayed.mp (by simp [empty]), by simp⟩
  | some c =>
    obtain ⟨d, ds, rest, chars, begins⟩ := identifierChars_eq_cons first
    have member : c ∈ project.toList := List.mem_of_find?_eq_some first
    rw [chars] at unstrayed base
    have all : Alphanumeric (d :: rest) := chars ▸ identifierChars_alphanumeric project.toList
    have leading : Unstrayed (d :: rest) →
        (Unicode.isNumeric d || Unicode.isIdStart d) = leads c :=
      fun all => begins.leading (unstrayed.mp all c member)
    simp only [← unstrayed, Option.mem_def, Option.some.injEq, forall_eq']
    cases number : Unicode.isNumeric d with
    | true =>
      have shape : (className project).toList =
          'M' :: (['c', 'p'] ++ (d :: rest) ++ "Server".toList) := by
        simp [className, base, number]
      have opens : Script.startsIdentifier 'M' = true := by decide
      have lead : ['c', 'p'].all Script.continuesIdentifier = true := by decide
      rw [Script.isIdentifier_of_toList shape, opens, Bool.true_and, List.all_append,
        List.all_append, lead, suffix, Bool.true_and, Bool.and_true, all_continue_iff all]
      refine ⟨fun valid => ⟨valid, ?_⟩, And.left⟩
      rw [← leading valid, number, Bool.true_or]
    | false =>
      have shape : (className project).toList = d :: (rest ++ "Server".toList) := by
        simp [className, base, number]
      rw [Script.isIdentifier_of_toList shape, List.all_append, suffix, Bool.and_true,
        Bool.and_eq_true, Script.startsIdentifier_iff (all d (by simp)),
        all_continue_iff fun e inside => all e (by simp [inside])]
      rw [number, Bool.false_or] at leading
      constructor
      · rintro ⟨start, valid⟩
        have whole : Unstrayed (d :: rest) :=
          unstrayed_cons.mpr ⟨Unicode.isStray_of_isIdStart start, valid⟩
        exact ⟨whole, (leading whole).symm.trans start⟩
      · rintro ⟨whole, leads⟩
        exact ⟨(leading whole).trans leads, (unstrayed_cons.mp whole).2⟩

/-- Handlers and classes of generated servers can be declared under their names exactly if no
stray gets into them and a class is not to begin with a mark. -/
theorem names_are_identifiers_iff (operation project : String) :
    (Script.isIdentifier (handlerName operation) = true ↔
      ∀ c ∈ operation.toList, Unicode.isStray c = false) ∧
    (Script.isIdentifier (className project) = true ↔
      (∀ c ∈ project.toList, Unicode.isStray c = false) ∧
        ∀ c ∈ project.toList.find? isAlphanumeric, leads c = true) :=
  ⟨isIdentifier_handlerName operation, isIdentifier_className project⟩

/-- A raised two is a number and may not stand in an identifier. -/
theorem names_with_raised_two : ¬ ∀ operation project : String,
    Script.isIdentifier (handlerName operation) = true ∧
      Script.isIdentifier (className project) = true := by
  intro all
  have unstrayed := (isIdentifier_handlerName "x²").mp (all "x²" "x²").1
  exact absurd (unstrayed '²' (by decide)) (by decide)

end Naming

end ServerForge
