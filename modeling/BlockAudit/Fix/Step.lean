import BlockAudit.Text.Basic

/-!
# Steps of the automatic fix

The ten steps in the order in which they are applied. The derivation of the block's names comes before
them and counts as the first step, so their numbers begin at two.
-/

namespace BlockAudit

/-- One step of the automatic fix. -/
inductive FixStep
  | keywords
  | legacyAssetPaths
  | exampleAttribute
  | assetLists
  | configBlockName
  | registration
  | renderConfigInclude
  | styleStart
  | renderNamespace
  | wrapperClassesJoin
  deriving DecidableEq, Repr

namespace FixStep

/-- The steps in the order of application. -/
def all : List FixStep :=
  [keywords, legacyAssetPaths, exampleAttribute, assetLists, configBlockName, registration,
    renderConfigInclude, styleStart, renderNamespace, wrapperClassesJoin]

/-- The number of a step. -/
def number : FixStep → Nat
  | keywords => 2
  | legacyAssetPaths => 3
  | exampleAttribute => 4
  | assetLists => 5
  | configBlockName => 6
  | registration => 7
  | renderConfigInclude => 8
  | styleStart => 9
  | renderNamespace => 10
  | wrapperClassesJoin => 11

/-- The name of a step in reports. -/
def name : FixStep → Text
  | keywords => "Keywords"
  | legacyAssetPaths => "LegacyAssetPaths"
  | exampleAttribute => "ExampleAttribute"
  | assetLists => "AssetLists"
  | configBlockName => "ConfigBlockName"
  | registration => "Registration"
  | renderConfigInclude => "RenderConfigInclude"
  | styleStart => "StylePrefix"
  | renderNamespace => "RenderNamespace"
  | wrapperClassesJoin => "WrapperClassesJoin"

/-- The step with the given name. -/
def ofName? (name : Text) : Option FixStep := all.find? (·.name == name)

end FixStep

/-- A step that changed a bundle, and the change in words. -/
structure AppliedFix where
  step : FixStep
  description : Text
  deriving DecidableEq

end BlockAudit
