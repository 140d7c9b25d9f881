import ServerForge.Json.Basic

/-! The value with the members of every object in the order of their keys. -/
namespace ServerForge.Json

mutual

def sorted : Json → Json
  | .arr items => .arr (sortedItems items)
  | .obj members => .obj (sortedMembers members)
  | value => value

def sortedItems : List Json → List Json
  | [] => []
  | item :: items => sorted item :: sortedItems items

/-- The last member of a key stays. -/
def sortedMembers : List (String × Json) → Members
  | [] => []
  | (key, value) :: members =>
    let rest := sortedMembers members
    if (rest.lookup key).isSome then rest else insert key (sorted value) rest

end

end ServerForge.Json
