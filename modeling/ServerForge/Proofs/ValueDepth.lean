import ServerForge.Proofs.ReadValues

/-! How much room a value takes. Main statement: the indented form of a value in order, without
floating-point numbers, is read as that value in any room that is not less than its depth. -/
namespace ServerForge.Json

mutual

/-- How many lists and objects stand inside one another. -/
def depth : Json → Nat
  | .arr items => depthItems items + 1
  | .obj members => depthMembers members + 1
  | _ => 0

def depthItems : List Json → Nat
  | [] => 0
  | item :: items => max (depth item) (depthItems items)

def depthMembers : List (String × Json) → Nat
  | [] => 0
  | (_, value) :: members => max (depth value) (depthMembers members)

end

mutual

/-- Whether every number in the value is one of those that reading gives. -/
def inRange : Json → Bool
  | .num n => n.inRange
  | .arr items => inRangeItems items
  | .obj members => inRangeMembers members
  | _ => true

def inRangeItems : List Json → Bool
  | [] => true
  | item :: items => inRange item && inRangeItems items

def inRangeMembers : List (String × Json) → Bool
  | [] => true
  | (_, value) :: members => inRange value && inRangeMembers members

end

mutual

theorem fits_iff : ∀ (room : Nat) (v : Json),
    fits room v = true ↔ v.depth ≤ room ∧ v.inRange = true
  | room, .null | room, .bool _ | room, .str _ => by cases room <;> simp [fits, depth, inRange]
  | room, .num n => by cases room <;> simp [fits, depth, inRange]
  | 0, .arr items => by simp [fits, depth]
  | 0, .obj members => by simp [fits, depth]
  | room + 1, .arr items => by
    rw [fits, allFit_iff room items, depth, inRange, Nat.add_le_add_iff_right]
  | room + 1, .obj members => by
    rw [fits, allMembersFit_iff room members, depth, inRange, Nat.add_le_add_iff_right]

theorem allFit_iff : ∀ (room : Nat) (items : List Json),
    items.all (fits room) = true ↔ depthItems items ≤ room ∧ inRangeItems items = true
  | _, [] => by simp [depthItems, inRangeItems]
  | room, item :: items => by
    rw [List.all_cons, Bool.and_eq_true, fits_iff room item, allFit_iff room items, depthItems,
      inRangeItems, Bool.and_eq_true, Nat.max_le, and_and_and_comm]

theorem allMembersFit_iff : ∀ (room : Nat) (members : List (String × Json)),
    (members.all fun member => fits room member.2) = true ↔
      depthMembers members ≤ room ∧ inRangeMembers members = true
  | _, [] => by simp [depthMembers, inRangeMembers]
  | room, (key, value) :: members => by
    rw [List.all_cons, Bool.and_eq_true, fits_iff room value, allMembersFit_iff room members,
      depthMembers, inRangeMembers, Bool.and_eq_true, Nat.max_le, and_and_and_comm]

end

theorem read_pretty {v : Json} (ordered : Ordered v) (inRange : v.inRange = true)
    (exact : v.floatless = true) {room : Nat} (enough : v.depth ≤ room) :
    readWhole (readValue room) v.pretty.toList = .ok v := by
  have read := readValue_printed .indented room 0 v [] ((fits_iff room v).mpr ⟨enough, inRange⟩)
    numberEnds_nil
  rw [List.append_nil, reread_eq_self ordered exact] at read
  rw [pretty, prettyAt, String.toList_ofList, prettyChars_eq, readWhole, read]
  rfl

end ServerForge.Json
