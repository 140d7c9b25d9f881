import ServerForge.Registry

/-! Registries in the hands of many clients. A handle tells which registry it reaches, and a clone
of it reaches the same one. A registry holds references; the bundle behind a reference is put into
the memory once, and no step writes there again. Each step is a whole, for the lock of a registry
lets nobody else in before it is done. -/
namespace ServerForge

/-- The place of a bundle in the memory. -/
structure BundleRef where
  place : Nat
  deriving DecidableEq, Repr

structure RegistryHandle where
  registry : Nat
  deriving DecidableEq, Repr

/-- Only the way to the registry is copied. -/
def RegistryHandle.clone (handle : RegistryHandle) : RegistryHandle := ⟨handle.registry⟩

@[simp] theorem RegistryHandle.clone_registry (handle : RegistryHandle) :
    handle.clone.registry = handle.registry := rfl

/-- What all clients share. A registry that is not listed is empty. -/
structure SharedMemory where
  bundles : List Bundle
  registries : List (Nat × List (String × BundleRef))

namespace SharedMemory

def empty : SharedMemory := ⟨[], []⟩

def content? (memory : SharedMemory) (reference : BundleRef) : Option Bundle :=
  memory.bundles[reference.place]?

def entries (memory : SharedMemory) (registry : Nat) : List (String × BundleRef) :=
  (memory.registries.lookup registry).getD []

def find? (memory : SharedMemory) (registry : Nat) (project : String) : Option BundleRef :=
  (memory.entries registry).lookup project

/-- The reference that is replaced, and the memory with the new bundle and a reference to it. -/
def put (memory : SharedMemory) (handle : RegistryHandle) (project : String) (bundle : Bundle) :
    Option BundleRef × SharedMemory :=
  (memory.find? handle.registry project, {
    bundles := memory.bundles ++ [bundle]
    registries := Lookup.replace handle.registry
      (Lookup.replace project ⟨memory.bundles.length⟩ (memory.entries handle.registry))
      memory.registries })

def get (memory : SharedMemory) (handle : RegistryHandle) (project : String) :
    Except Failure BundleRef :=
  match memory.find? handle.registry project with
  | some reference => return reference
  | none => throw (.projectNotFound project)

inductive Action where
  | put (project : String) (bundle : Bundle)
  | get (project : String)

inductive Answer where
  | replaced (previous : Option BundleRef)
  | fetched (found : Except Failure BundleRef)

/-- What a client does next, and through which handle. -/
structure Step where
  handle : RegistryHandle
  action : Action

def step (memory : SharedMemory) (step : Step) : Answer × SharedMemory :=
  match step.action with
  | .put project bundle =>
    let (previous, memory) := memory.put step.handle project bundle
    (.replaced previous, memory)
  | .get project => (.fetched (memory.get step.handle project), memory)

/-- The steps of all clients, in the order in which they take the lock, with their answers. -/
def run (memory : SharedMemory) : List Step → List (Step × Answer) × SharedMemory
  | [] => ([], memory)
  | step :: steps =>
    let (answer, next) := memory.step step
    let (log, last) := next.run steps
    ((step, answer) :: log, last)

end SharedMemory

end ServerForge
