import BlockAudit.Bundle
import BlockAudit.Fix.Metadata
import BlockAudit.Fix.Sources
import BlockAudit.Fix.Step

/-!
# The automatic fix

The ten steps are applied to a bundle one after the other, each to what the steps before it left. The
block's names are derived once, before the first step. A step that changes nothing is not recorded.
-/

namespace BlockAudit

/-- The result of one step: the changed bundle and the change in words, if the step changes it. -/
def FixStep.apply (step : FixStep) (name : BlockName) (c : Conventions) (b : Bundle) :
    Option (Bundle × Text) :=
  let onMetadata (change : Option (Json.Fields × Text)) : Option (Bundle × Text) :=
    change.map fun (metadata, words) => ({ b with metadata }, words)
  match step with
  | .keywords => onMetadata (Fix.keywords c b.metadata)
  | .legacyAssetPaths => onMetadata (Fix.legacyAssetPaths b.metadata)
  | .exampleAttribute => onMetadata (Fix.exampleAttribute b.metadata)
  | .assetLists => onMetadata (Fix.assetLists name c b.metadata)
  | .configBlockName =>
    (Fix.configBlockName name b.config).map fun (source, words) =>
      ({ b with config := source }, words)
  | .registration =>
    (Fix.registration name c b.registration).map fun (source, words) =>
      ({ b with registration := source }, words)
  | .renderConfigInclude =>
    (Fix.renderConfigInclude b.render).map fun (source, words) =>
      ({ b with render := source }, words)
  | .styleStart =>
    (Fix.styleStart name c b.style).map fun (source, words) =>
      ({ b with style := source }, words)
  | .renderNamespace =>
    (Fix.renderNamespace name c b.render).map fun (source, words) =>
      ({ b with render := source }, words)
  | .wrapperClassesJoin =>
    (Fix.wrapperClassesJoin b.render).map fun (source, words) =>
      ({ b with render := source }, words)

/-- A fixed bundle and the steps that changed it. -/
structure Fixed where
  bundle : Bundle
  applied : List AppliedFix

/-- Applies steps one after the other. -/
def Bundle.applySteps (name : BlockName) (c : Conventions) : List FixStep → Bundle → Fixed
  | [], b => ⟨b, []⟩
  | step :: steps, b =>
    match step.apply name c b with
    | none => Bundle.applySteps name c steps b
    | some (changed, words) =>
      let rest := Bundle.applySteps name c steps changed
      ⟨rest.bundle, ⟨step, words⟩ :: rest.applied⟩

/-- Applies the ten steps. -/
def Bundle.fix (b : Bundle) (c : Conventions) : Fixed :=
  Bundle.applySteps (b.name c) c FixStep.all b

end BlockAudit
