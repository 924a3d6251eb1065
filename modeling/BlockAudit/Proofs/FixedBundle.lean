import BlockAudit.Fix
import BlockAudit.Proofs.FixedNames
import BlockAudit.Proofs.FixedRender

/-!
# The fixed bundle

The ten steps run one after the other, yet every step reads and writes one file. The fixed bundle is
therefore described file by file, with the name of the block as it was before the first step.
-/

namespace BlockAudit

variable {name : BlockName} {c : Conventions} {b : Bundle} {steps : List FixStep}

/-- The bundle after one step, changed or not. -/
def FixStep.result (step : FixStep) (name : BlockName) (c : Conventions) (b : Bundle) : Bundle :=
  Fix.leaves b (step.apply name c b)

lemma bundle_applySteps (b : Bundle) :
    (Bundle.applySteps name c steps b).bundle =
      steps.foldl (fun b step => step.result name c b) b := by
  induction steps generalizing b with
  | nil => rfl
  | cons step steps ih =>
    rw [Bundle.applySteps, List.foldl_cons, FixStep.result]
    cases step.apply name c b with
    | none => exact ih b
    | some change => exact ih change.1

lemma applySteps_append (first second : List FixStep) (b : Bundle) :
    Bundle.applySteps name c (first ++ second) b =
      let before := Bundle.applySteps name c first b
      let after := Bundle.applySteps name c second before.bundle
      ⟨after.bundle, before.applied ++ after.applied⟩ := by
  induction first generalizing b with
  | nil => rfl
  | cons step first ih =>
    rw [List.cons_append, Bundle.applySteps, Bundle.applySteps]
    cases step.apply name c b with
    | none => exact ih b
    | some change =>
      dsimp only
      rw [ih]
      rfl

lemma applied_applySteps_eq_nil :
    (Bundle.applySteps name c steps b).applied = [] ↔
      ∀ step ∈ steps, step.apply name c b = none := by
  induction steps with
  | nil => simp [Bundle.applySteps]
  | cons step steps ih =>
    rw [Bundle.applySteps, List.forall_mem_cons]
    cases step.apply name c b with
    | none => simp [ih]
    | some change => simp

lemma bundle_of_applied_eq_nil (h : (Bundle.applySteps name c steps b).applied = []) :
    (Bundle.applySteps name c steps b).bundle = b := by
  rw [applied_applySteps_eq_nil] at h
  rw [bundle_applySteps]
  induction steps with
  | nil => rfl
  | cons step steps ih =>
    obtain ⟨hstep, hsteps⟩ := List.forall_mem_cons.1 h
    rw [List.foldl_cons, FixStep.result, hstep]
    exact ih hsteps

namespace Fix

/-- The style sheet after its fix. -/
def fixStyle (name : BlockName) (c : Conventions) (source : Text) : Text :=
  leaves source (styleStart name c source)

lemma occurs_selectorStart_fixStyle {source : Text} :
    Text.occurs c.selectorStart (fixStyle name c source) = false ↔
      Text.occurs c.selectorStart source = false ∧ name.slug = [] := by
  have hrule : Text.occurs c.selectorStart
      (emptyStyleRule (name.cssClass c) ++ source) = true := by
    have hstart : emptyStyleRule (name.cssClass c) ++ source = c.selectorStart ++
        (name.slug ++ (" \x7b\n  /* Block styles */\n\x7d\n\n" ++ source)) := by
      simp only [emptyStyleRule, BlockName.cssClass, Conventions.selectorStart, List.append_assoc,
        List.cons_append, List.nil_append]
    rw [hstart]
    exact Text.occurs_self_append _ _
  unfold fixStyle styleStart
  cases hsource : Text.occurs c.selectorStart source with
  | true => simp [hsource]
  | false =>
    cases hslug : name.slug with
    | nil => simp [hsource]
    | cons d slug => simpa using hrule

end Fix

lemma leaves_map {α β : Type} (put : α → β) (old : α) (change : Option (α × Text)) :
    Fix.leaves (put old) (change.map fun (new, words) => (put new, words)) =
      put (Fix.leaves old change) := by
  cases change <;> rfl

/-- Every step leaves all files but one as they are. -/
lemma result_eq (step : FixStep) (b : Bundle) :
    step.result name c b = match step with
      | .keywords => { b with metadata := Fix.leaves b.metadata (Fix.keywords c b.metadata) }
      | .legacyAssetPaths =>
        { b with metadata := Fix.leaves b.metadata (Fix.legacyAssetPaths b.metadata) }
      | .exampleAttribute =>
        { b with metadata := Fix.leaves b.metadata (Fix.exampleAttribute b.metadata) }
      | .assetLists =>
        { b with metadata := Fix.leaves b.metadata (Fix.assetLists name c b.metadata) }
      | .configBlockName => { b with config := Fix.fixConfig name b.config }
      | .registration => { b with registration := Fix.fixRegistration name c b.registration }
      | .renderConfigInclude =>
        { b with render := Fix.leaves b.render (Fix.renderConfigInclude b.render) }
      | .styleStart => { b with style := Fix.fixStyle name c b.style }
      | .renderNamespace =>
        { b with render := Fix.leaves b.render (Fix.renderNamespace name c b.render) }
      | .wrapperClassesJoin => { b with render := Fix.joinWrapperClasses b.render } := by
  have hmetadata (change : Option (Json.Fields × Text)) :=
    leaves_map (fun metadata => { b with metadata }) b.metadata change
  have hconfig (change : Option (Text × Text)) :=
    leaves_map (fun source => { b with config := source }) b.config change
  have hregistration (change : Option (Text × Text)) :=
    leaves_map (fun source => { b with registration := source }) b.registration change
  have hrender (change : Option (Text × Text)) :=
    leaves_map (fun source => { b with render := source }) b.render change
  have hstyle (change : Option (Text × Text)) :=
    leaves_map (fun source => { b with style := source }) b.style change
  cases step with
  | keywords => exact hmetadata _
  | legacyAssetPaths => exact hmetadata _
  | exampleAttribute => exact hmetadata _
  | assetLists => exact hmetadata _
  | configBlockName => exact hconfig _
  | registration =>
    rw [← Fix.leaves_registration]
    exact hregistration _
  | renderConfigInclude => exact hrender _
  | styleStart => exact hstyle _
  | renderNamespace => exact hrender _
  | wrapperClassesJoin =>
    rw [← Fix.leaves_wrapperClassesJoin]
    exact hrender _

/-- The files of the fixed bundle. -/
theorem bundle_fix (b : Bundle) (c : Conventions) :
    (b.fix c).bundle =
      { metadata := Fix.fixMetadata (b.name c) c b.metadata
        config := Fix.fixConfig (b.name c) b.config
        registration := Fix.fixRegistration (b.name c) c b.registration
        render := Fix.fixRender (b.name c) c b.render
        editorScript := b.editorScript
        sharedScript := b.sharedScript
        style := Fix.fixStyle (b.name c) c b.style } := by
  unfold Bundle.fix
  rw [bundle_applySteps]
  simp only [FixStep.all, List.foldl_cons, List.foldl_nil, result_eq]
  rfl

lemma identifier_fix (b : Bundle) (c : Conventions) : (b.fix c).bundle.identifier = b.identifier := by
  have hname : ("name" : Text) ∉ Fix.fixedKeys := by decide
  unfold Bundle.identifier Json.Fields.string?
  rw [bundle_fix]
  dsimp only
  rw [Fix.get?_fixMetadata_of_notMem hname]

lemma name_fix (b : Bundle) (c : Conventions) : (b.fix c).bundle.name c = b.name c := by
  unfold Bundle.name
  rw [identifier_fix]

end BlockAudit
