import ServerForge.Files.Path

/-! The texts of a generated project and where they go. -/
namespace ServerForge

structure Bundle where
  manifest : String
  serverSource : String
  readme : String
  buildConfig : String
  ignoreRules : String
  deriving DecidableEq

namespace Bundle

def sourceDirectory : Path := ⟨"src"⟩

/-- Each text with its path relative to the project. -/
def artifacts (bundle : Bundle) : List (Path × String) := [
  (⟨"package.json"⟩, bundle.manifest),
  (sourceDirectory.join ⟨"index.ts"⟩, bundle.serverSource),
  (⟨"README.md"⟩, bundle.readme),
  (⟨"tsconfig.json"⟩, bundle.buildConfig),
  (⟨".gitignore"⟩, bundle.ignoreRules)]

end Bundle

end ServerForge
