import ServerForge.Bundle
import ServerForge.Manifest
import ServerForge.Readme
import ServerForge.ServerSource

/-! From a category and requirements to the texts of a project. -/
namespace ServerForge

/-- The outcome of one generation; the operations are in the order of the generated code. -/
structure Synthesis where
  category : Category
  operations : List String
  bundle : Bundle

namespace Synthesis

/-- The operations asked for, or else those of the category. -/
def resolve (category : Category) (requirements : Requirements) : List String :=
  requirements.operationOverride.getD category.defaultOperations

/-- The category is looked up before anything else is done. -/
def run (config : Config) (project categoryKey : String) (requirements : Requirements) :
    Except Failure Synthesis := do
  let category ← Category.ofKey categoryKey
  let operations := resolve category requirements
  let model ← ServerModel.build project config.serverVersion operations
  return {
    category
    operations
    bundle := {
      manifest := Manifest.render project requirements config
      serverSource := ServerSource.render model
      readme := Readme.render model category requirements config
      buildConfig := Manifest.buildConfig
      ignoreRules := Manifest.ignoreRules } }

end Synthesis

end ServerForge
