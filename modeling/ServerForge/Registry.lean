import ServerForge.Bundle
import ServerForge.Failure
import ServerForge.Lookup

/-! The latest bundle of each project. -/
namespace ServerForge

structure Registry where
  entries : List (String × Bundle)

namespace Registry

def empty : Registry := ⟨[]⟩

def find? (registry : Registry) (project : String) : Option Bundle :=
  registry.entries.lookup project

def get (registry : Registry) (project : String) : Except Failure Bundle :=
  match registry.find? project with
  | some bundle => return bundle
  | none => throw (.projectNotFound project)

/-- The registry with the new bundle; `find?` on the old one tells which it replaces. -/
def put (registry : Registry) (project : String) (bundle : Bundle) : Registry :=
  ⟨Lookup.replace project bundle registry.entries⟩

@[simp] theorem find?_empty (project : String) : empty.find? project = none := rfl

@[simp] theorem find?_put_same (registry : Registry) (project : String) (bundle : Bundle) :
    (registry.put project bundle).find? project = some bundle := by
  simp [find?, put]

@[simp] theorem find?_put_other (registry : Registry) {project other : String} (bundle : Bundle)
    (h : other ≠ project) : (registry.put project bundle).find? other = registry.find? other :=
  Lookup.lookup_replace_other h bundle registry.entries

@[simp] theorem get_put_same (registry : Registry) (project : String) (bundle : Bundle) :
    (registry.put project bundle).get project = .ok bundle := by
  rw [get, find?_put_same]
  rfl

end Registry

end ServerForge
