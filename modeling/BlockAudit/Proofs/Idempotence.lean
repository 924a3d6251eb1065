import BlockAudit.Proofs.FixedBundle
import BlockAudit.Proofs.RegistrationDirs
import BlockAudit.Proofs.RenderSettles

/-!
# Fixing twice

Eight of the ten steps leave nothing to do for a second fix, whatever the bundle and the conventions.
The replacement of directories may bring a legacy directory in again, and an inserted namespace need
not be read as one; these are the only ways in which a second fix changes a bundle.
-/

namespace BlockAudit

variable {name : BlockName} {c : Conventions} {b : Bundle}

/-- A second fix changes nothing and records nothing. -/
def Bundle.Settles (b : Bundle) (c : Conventions) : Prop :=
  ((b.fix c).bundle.fix c).bundle = (b.fix c).bundle ∧ ((b.fix c).bundle.fix c).applied = []

lemma settles_iff_apply :
    b.Settles c ↔ ∀ step : FixStep, step.apply (b.name c) c (b.fix c).bundle = none := by
  have happlied : ((b.fix c).bundle.fix c).applied = [] ↔
      ∀ step ∈ FixStep.all, step.apply (b.name c) c (b.fix c).bundle = none := by
    rw [← name_fix b c]
    exact applied_applySteps_eq_nil
  have hmem (step : FixStep) : step ∈ FixStep.all := by cases step <;> decide
  constructor
  · rintro ⟨-, h⟩ step
    exact happlied.1 h step (hmem step)
  · intro h
    have hnil := happlied.2 fun step _ => h step
    exact ⟨bundle_of_applied_eq_nil hnil, hnil⟩

lemma styleStart_fixStyle (source : Text) :
    Fix.styleStart name c (Fix.fixStyle name c source) = none := by
  cases hfixed : Text.occurs c.selectorStart (Fix.fixStyle name c source) with
  | true =>
    unfold Fix.styleStart
    rw [hfixed, Bool.or_true]
    rfl
  | false =>
    obtain ⟨-, hslug⟩ := Fix.occurs_selectorStart_fixStyle.1 hfixed
    unfold Fix.styleStart
    rw [hslug]
    rfl

/-- Of the steps on a fixed bundle only two may have something to do. -/
lemma apply_fix_eq_none {step : FixStep} (hregistration : step ≠ .registration)
    (hnamespace : step ≠ .renderNamespace) :
    step.apply (b.name c) c (b.fix c).bundle = none := by
  rw [bundle_fix]
  cases step with
  | keywords => simp only [FixStep.apply, Fix.keywords_fixMetadata, Option.map_none]
  | legacyAssetPaths => simp only [FixStep.apply, Fix.legacyAssetPaths_fixMetadata, Option.map_none]
  | exampleAttribute => simp only [FixStep.apply, Fix.exampleAttribute_fixMetadata, Option.map_none]
  | assetLists => simp only [FixStep.apply, Fix.assetLists_fixMetadata, Option.map_none]
  | configBlockName => simp only [FixStep.apply, Fix.configBlockName_fixConfig, Option.map_none]
  | registration => exact absurd rfl hregistration
  | renderConfigInclude =>
    simp only [FixStep.apply, Fix.renderConfigInclude_fixRender, Option.map_none]
  | styleStart => simp only [FixStep.apply, styleStart_fixStyle, Option.map_none]
  | renderNamespace => exact absurd rfl hnamespace
  | wrapperClassesJoin =>
    simp only [FixStep.apply, Fix.wrapperClassesJoin_fixRender, Option.map_none]

lemma settles_iff :
    b.Settles c ↔
      Fix.registration (b.name c) c (Fix.fixRegistration (b.name c) c b.registration) = none ∧
        Fix.renderNamespace (b.name c) c (Fix.fixRender (b.name c) c b.render) = none := by
  have hregistration : FixStep.registration.apply (b.name c) c (b.fix c).bundle = none ↔
      Fix.registration (b.name c) c (Fix.fixRegistration (b.name c) c b.registration) = none := by
    rw [bundle_fix]
    exact Option.map_eq_none_iff
  have hnamespace : FixStep.renderNamespace.apply (b.name c) c (b.fix c).bundle = none ↔
      Fix.renderNamespace (b.name c) c (Fix.fixRender (b.name c) c b.render) = none := by
    rw [bundle_fix]
    exact Option.map_eq_none_iff
  rw [settles_iff_apply, ← hregistration, ← hnamespace]
  constructor
  · intro h
    exact ⟨h .registration, h .renderNamespace⟩
  · rintro ⟨hregistration, hnamespace⟩ step
    by_cases hr : step = .registration
    · rw [hr, hregistration]
    by_cases hn : step = .renderNamespace
    · rw [hn, hnamespace]
    exact apply_fix_eq_none hr hn

/-- The exact condition under which a second fix has nothing to do, for all conventions and, spelled out,
for the default ones. -/
theorem fix_settles_iff (b : Bundle) (c : Conventions) :
    (b.Settles c ↔
      Fix.fixRegistration (b.name c) c (Fix.fixRegistration (b.name c) c b.registration) =
        Fix.fixRegistration (b.name c) c b.registration ∧
      Fix.NamespaceRecognized (b.name c) c b.render) ∧
    (b.Settles {} ↔
      Text.occurs "/blocks/blocks/cm-" (Fix.unnamed (b.name {}) b.registration) = false) := by
  have hall (c : Conventions) : b.Settles c ↔
      Fix.fixRegistration (b.name c) c (Fix.fixRegistration (b.name c) c b.registration) =
        Fix.fixRegistration (b.name c) c b.registration ∧
      Fix.NamespaceRecognized (b.name c) c b.render := by
    rw [settles_iff, Fix.registration_eq_none_iff, Fix.renderNamespace_fixRender_eq_none_iff]
  refine ⟨hall c, ?_⟩
  have hnamespace : Fix.NamespaceRecognized (b.name {}) {} b.render :=
    Fix.namespaceRecognized_of_head (d := 'C') rfl (by decide) (by decide)
  rw [hall, Fix.fixRegistration_default_settles_iff]
  exact and_iff_left hnamespace

/-- A registration that refers to a legacy directory inside a directory of the same name. -/
def nestedRegistration : Bundle where
  config := []
  registration := "$styles = '/blocks/blocks/cm-demo/centralized.css';"
  render := []
  editorScript := []
  sharedScript := []
  style := []
  metadata := [("name", .string "cm/demo")]

/-- The first fix turns `/blocks/blocks/cm-` into `/blocks/cm-blocks/cm-`, which has a legacy directory
in it again. -/
theorem not_settles_nestedRegistration : ¬ ∀ (b : Bundle) (c : Conventions), b.Settles c := by
  intro h
  have hchanged : ((nestedRegistration.fix {}).bundle.fix {}).bundle.registration ≠
      (nestedRegistration.fix {}).bundle.registration := by decide +kernel
  exact hchanged (congrArg (fun b : Bundle => b.registration) (h nestedRegistration {}).1)

end BlockAudit
