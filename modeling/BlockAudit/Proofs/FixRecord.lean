import BlockAudit.Proofs.CompliantBlocks
import BlockAudit.Proofs.ExcerptedRender
import BlockAudit.Proofs.Idempotence
import BlockAudit.Proofs.RunOutcomes
import BlockAudit.Proofs.StoredBlocks

/-!
# The record of a fix

A fix records the steps that changed what they were given, in the order of their numbers. Three steps
edit the render callback, one after the other, but no change is taken back by a later one: a bundle that
comes out of the fix as it went in was not changed in between. For eight of the steps this holds because
they leave themselves nothing to do. Of the others, one edits a file of its own, and the namespace brings
in letters that no step takes out again.
-/

namespace BlockAudit

variable {name : BlockName} {c : Conventions} {b : Bundle}

/-! ### Steps that change nothing -/

namespace Fix

open Json

variable {metadata : Fields} {source : Text}

lemma keywords_of_leaves (h : leaves metadata (keywords c metadata) = metadata) :
    keywords c metadata = none := by
  have hvalue := get?_keywords_self c metadata
  rw [h] at hvalue
  exact keywords_eq_none (keywordLeads_of_withKeyword hvalue)

lemma legacyAssetPaths_of_leaves (h : leaves metadata (legacyAssetPaths metadata) = metadata) :
    legacyAssetPaths metadata = none := by
  rw [leaves_legacyAssetPaths] at h
  have hmoves : ∀ path ∈ legacyPaths, path.current ≠ path.legacy := by decide
  refine legacyAssetPaths_eq_none fun path hpath hlegacy => ?_
  have hmoved : (replaceLegacy metadata legacyPaths).1.get? path.key = some (.string path.current) := by
    rw [get?_replaceLegacy pairwise_legacyPaths hpath, if_pos hlegacy]
  rw [h] at hmoved
  rw [Fields.string?, hmoved] at hlegacy
  exact hmoves path hpath (Option.some.inj hlegacy)

lemma exampleAttribute_of_leaves (h : leaves metadata (exampleAttribute metadata) = metadata) :
    exampleAttribute metadata = none := by
  have hvalue : (leaves metadata (exampleAttribute metadata)).get? "attributes" =
      withExample (metadata.get? "attributes") := get?_attributes_exampleAttribute
  rw [h] at hvalue
  exact exampleAttribute_eq_none (exampleSettled_of_withExample hvalue)

lemma assetLists_of_leaves (h : leaves metadata (assetLists name c metadata) = metadata) :
    assetLists name c metadata = none := by
  refine assetLists_eq_none ?_
  cases hslug : name.slug.isEmpty with
  | true => exact .inl rfl
  | false =>
    right
    intro entry hentry
    have hlist : ∃ items, entry.2 = .array items := by
      unfold assetListsOf at hentry
      simp only [List.mem_cons, List.not_mem_nil, or_false] at hentry
      rcases hentry with rfl | rfl | rfl <;> exact ⟨_, rfl⟩
    obtain ⟨items, hitems⟩ := hlist
    have hvalue : (leaves metadata (assetLists name c metadata)).get? entry.1 =
        withList name (.array items) (metadata.get? entry.1) := by
      rw [← hitems]
      exact get?_leaves_assetLists hentry
    rw [h] at hvalue
    rw [hvalue]
    exact isScalar_withList hslug _

lemma ifChanged_of_leaves {changed words : Text}
    (h : leaves source (ifChanged source changed words) = source) :
    ifChanged source changed words = none := by
  unfold ifChanged at h ⊢
  split at h
  · next heq => exact if_pos heq
  · next hne => exact absurd h hne

lemma configBlockName_of_leaves (h : leaves source (configBlockName name source) = source) :
    configBlockName name source = none := by
  unfold configBlockName at h ⊢
  split at h
  · next hsafe =>
    rw [if_pos hsafe]
    exact ifChanged_of_leaves h
  · next hunsafe => exact if_neg hunsafe

lemma renderConfigInclude_of_leaves (h : leaves source (renderConfigInclude source) = source) :
    renderConfigInclude source = none := by
  cases hchange : renderConfigInclude source with
  | none => rfl
  | some change =>
    have hincludes := includesConfig_renderConfigInclude hchange
    rw [hchange] at h
    have hnew : change.1 = source := h
    rw [hnew] at hincludes
    exact hchange.symm.trans (renderConfigInclude_eq_none_iff.2 (.inl hincludes))

lemma styleStart_of_leaves (h : leaves source (styleStart name c source) = source) :
    styleStart name c source = none := by
  have hnone : styleStart name c (leaves source (styleStart name c source)) = none :=
    styleStart_fixStyle source
  rwa [h] at hnone

/-- A namespace brings in an `n`. -/
lemma count_renderNamespace_lt {new words : Text}
    (h : renderNamespace name c source = some (new, words)) : source.count 'n' < new.count 'n' := by
  obtain ⟨head, ws, rest, -, -, rfl, rfl⟩ := renderNamespace_eq_some h
  have hlines : 0 < (namespaceLines (name.phpNamespace c)).count 'n' := by
    rw [List.count_pos_iff, namespaceLines_eq]
    exact List.mem_append_left _ (by decide)
  simp only [List.count_append]
  omega

lemma renderNamespace_of_leaves (h : leaves source (renderNamespace name c source) = source) :
    renderNamespace name c source = none := by
  cases hchange : renderNamespace name c source with
  | none => rfl
  | some change =>
    have hmore := count_renderNamespace_lt hchange
    rw [hchange] at h
    have hnew : change.1 = source := h
    rw [hnew] at hmore
    exact absurd hmore (lt_irrefl _)

/-- Nothing takes a new namespace out of the render callback again. -/
lemma renderNamespace_of_fixRender (hinclude : renderConfigInclude source = none)
    (h : fixRender name c source = source) : renderNamespace name c source = none := by
  cases hchange : renderNamespace name c source with
  | none => rfl
  | some change =>
    have hmore := count_renderNamespace_lt hchange
    have hjoined : joinWrapperClasses change.1 = source := by
      rwa [fixRender, hinclude, leaves_none, hchange] at h
    have hcount : (joinWrapperClasses change.1).count 'n' = change.1.count 'n' :=
      count_joinWrapperClasses (by decide) (by decide) (by decide)
    rw [hjoined] at hcount
    omega

end Fix

/-- A step answers with a bundle only if it changes the one that it is given. -/
lemma result_eq_self_iff {step : FixStep} :
    step.result name c b = b ↔ step.apply name c b = none := by
  constructor
  · intro h
    rw [result_eq] at h
    cases step with
    | keywords =>
      exact Option.map_eq_none_iff.2 (Fix.keywords_of_leaves (congrArg Bundle.metadata h))
    | legacyAssetPaths =>
      exact Option.map_eq_none_iff.2 (Fix.legacyAssetPaths_of_leaves (congrArg Bundle.metadata h))
    | exampleAttribute =>
      exact Option.map_eq_none_iff.2 (Fix.exampleAttribute_of_leaves (congrArg Bundle.metadata h))
    | assetLists =>
      exact Option.map_eq_none_iff.2 (Fix.assetLists_of_leaves (congrArg Bundle.metadata h))
    | configBlockName =>
      exact Option.map_eq_none_iff.2
        (Fix.configBlockName_of_leaves (congrArg (fun b : Bundle => b.config) h))
    | registration =>
      exact Option.map_eq_none_iff.2
        (Fix.registration_eq_none_iff.2 (congrArg (fun b : Bundle => b.registration) h))
    | renderConfigInclude =>
      exact Option.map_eq_none_iff.2
        (Fix.renderConfigInclude_of_leaves (congrArg (fun b : Bundle => b.render) h))
    | styleStart =>
      exact Option.map_eq_none_iff.2
        (Fix.styleStart_of_leaves (congrArg (fun b : Bundle => b.style) h))
    | renderNamespace =>
      exact Option.map_eq_none_iff.2
        (Fix.renderNamespace_of_leaves (congrArg (fun b : Bundle => b.render) h))
    | wrapperClassesJoin =>
      exact Option.map_eq_none_iff.2
        (Fix.ifChanged_of_leaves (Fix.leaves_wrapperClassesJoin.trans
          (congrArg (fun b : Bundle => b.render) h)))
  · intro h
    rw [FixStep.result, h, Fix.leaves_none]

/-! ### The record -/

/-- The bundle that a step of the fix is given. -/
def Bundle.given (b : Bundle) (c : Conventions) (step : FixStep) : Bundle :=
  (Bundle.applySteps (b.name c) c (FixStep.all.takeWhile (· ≠ step)) b).bundle

lemma sublist_applied (steps : List FixStep) (b : Bundle) :
    ((Bundle.applySteps name c steps b).applied.map AppliedFix.step).Sublist steps := by
  induction steps generalizing b with
  | nil => exact .slnil
  | cons step steps ih =>
    rw [Bundle.applySteps]
    cases step.apply name c b with
    | none => exact (ih b).cons step
    | some change => exact (ih change.1).cons_cons step

lemma numbers_applied (b : Bundle) (c : Conventions) :
    ((b.fix c).applied.map fun fix => fix.step.number).Pairwise (· < ·) := by
  have hall : (FixStep.all.map FixStep.number).Pairwise (· < ·) := by decide
  have hrecorded : ((b.fix c).applied.map AppliedFix.step).Sublist FixStep.all := sublist_applied _ b
  have hnumbers := hall.sublist (hrecorded.map FixStep.number)
  rwa [List.map_map] at hnumbers

lemma mem_applied_iff {step : FixStep} :
    step ∈ (b.fix c).applied.map AppliedFix.step ↔
      step.apply (b.name c) c (b.given c step) ≠ none := by
  obtain ⟨later, hall⟩ : ∃ later, FixStep.all = FixStep.all.takeWhile (· ≠ step) ++ step :: later := by
    cases step <;> exact ⟨_, rfl⟩
  have hearlier : step ∉ FixStep.all.takeWhile (· ≠ step) := fun h => by
    simpa using List.mem_takeWhile_imp h
  have hlater : step ∉ later := by
    have hnodup : FixStep.all.Nodup := by decide
    rw [hall] at hnodup
    exact (List.nodup_cons.1 (List.nodup_append.1 hnodup).2.1).1
  -- A step occurs once, so that neither the steps before it nor those after it record it.
  have hbefore : step ∉
      (Bundle.applySteps (b.name c) c (FixStep.all.takeWhile (· ≠ step)) b).applied.map
        AppliedFix.step :=
    fun h => hearlier ((sublist_applied _ b).subset h)
  have hafter (b' : Bundle) :
      step ∉ (Bundle.applySteps (b.name c) c later b').applied.map AppliedFix.step :=
    fun h => hlater ((sublist_applied _ b').subset h)
  have hrecord : (b.fix c).applied =
      (Bundle.applySteps (b.name c) c (FixStep.all.takeWhile (· ≠ step)) b).applied ++
        (Bundle.applySteps (b.name c) c (step :: later) (b.given c step)).applied := by
    rw [Bundle.fix, hall, applySteps_append, ← hall]
    rfl
  rw [hrecord, List.map_append, List.mem_append, or_iff_right hbefore, Bundle.applySteps]
  cases step.apply (b.name c) c (b.given c step) with
  | none => exact iff_of_false (hafter _) fun h => h rfl
  | some change => exact iff_of_true List.mem_cons_self (Option.some_ne_none change)

lemma applied_fix_eq_nil_iff : (b.fix c).applied = [] ↔ (b.fix c).bundle = b := by
  constructor
  · exact bundle_of_applied_eq_nil
  · intro h
    refine applied_applySteps_eq_nil.2 fun step _ => ?_
    -- The bundle is a fixed one, and a fixed bundle leaves eight of the steps nothing to do.
    have hdone {step : FixStep} (hregistration : step ≠ .registration)
        (hnamespace : step ≠ .renderNamespace) : step.apply (b.name c) c b = none := by
      have hnone := apply_fix_eq_none (b := b) (c := c) hregistration hnamespace
      rwa [h] at hnone
    rw [bundle_fix] at h
    by_cases hregistration : step = .registration
    · rw [hregistration]
      exact Option.map_eq_none_iff.2
        (Fix.registration_eq_none_iff.2 (congrArg (fun b : Bundle => b.registration) h))
    by_cases hnamespace : step = .renderNamespace
    · have hinclude : FixStep.renderConfigInclude.apply (b.name c) c b = none :=
        hdone (by decide) (by decide)
      rw [hnamespace]
      exact Option.map_eq_none_iff.2
        (Fix.renderNamespace_of_fixRender (Option.map_eq_none_iff.1 hinclude)
          (congrArg (fun b : Bundle => b.render) h))
    · exact hdone hregistration hnamespace

/-! ### Runs and commands -/

namespace Audit

variable {a : Audit} {now : Timestamp} {o : Outcome}

lemma applied_fixed_eq_nil_iff : (a.fixed b).applied = [] ↔ (a.fixed b).bundle = b := by
  rw [fixed]
  split
  · exact applied_fix_eq_nil_iff
  · exact iff_of_true rfl rfl

/-- Without a change the violations after the fix are those before it. -/
lemma fixes_ne_nil {input : Text} (h : (a.outcome now b input).report.status = .fixed) :
    (a.outcome now b input).report.fixes ≠ [] := by
  intro hnone
  have hsame : (a.fixed b).bundle = b := applied_fixed_eq_nil_iff.1 hnone
  have hstatus : Status.judge (b.violations a.conventions)
      ((a.fixed b).bundle.violations a.conventions) = .fixed := h
  rw [hsame, Status.judge] at hstatus
  cases hviolations : (b.violations a.conventions).isEmpty <;> simp [hviolations] at hstatus

lemma exists_outcome_of_run {response : Text} (h : (a.run now response).result = .ok o) :
    ∃ b, a.outcome now b response = o := by
  have hends := ends_run a now response
  generalize a.run now response = r at h hends
  cases hends with
  | succeeded => exact ⟨_, Except.ok.inj h⟩
  | _ => cases h

end Audit

namespace Command

/-- The ending of a validation that writes its block back. -/
def writtenBack (s : Surroundings) (args : List Text) (dir : Text) (o : Outcome) : Ending :=
  match o.bundle.writeFiles dir s.tree s.disk with
  | (tree, .error e) => .failure tree e.message
  | (tree, .ok ()) =>
    { output := reportText args o.report
      notices := "✓ Applied " ++ Text.ofNat o.report.fixes.length ++ " fix(es) to " ++ dir ++ ['\n']
      tree }

variable {s : Surroundings} {args : List Text} {dir : Text} {o : Outcome}

lemma fixes_eq_nil_iff (hload : Bundle.load s.tree dir = .ok b)
    (haudit : validateBlock s args dir = .ok o) : o.report.fixes = [] ↔ o.bundle = b := by
  obtain ⟨b', settings, hload', -, rfl, -⟩ := validateBlock_eq_ok_iff.1 haudit
  obtain rfl : b = b' := Except.ok.inj (hload.symm.trans hload')
  exact Audit.applied_fixed_eq_nil_iff

lemma validate_fix_eq (htarget : target? args = some dir) (hfix : hasFlag args "--fix" = true)
    (hload : Bundle.load s.tree dir = .ok b) (haudit : validateBlock s args dir = .ok o) :
    validate s args =
      if o.bundle = b then { output := reportText args o.report, tree := s.tree }
      else writtenBack s args dir o := by
  have hwrites : hasFlag args "--fix" = true ∧ (!o.report.fixes.isEmpty) = true ↔ ¬ o.bundle = b := by
    rw [← fixes_eq_nil_iff hload haudit, Bool.not_eq_true', List.isEmpty_eq_false_iff]
    exact and_iff_right hfix
  rw [validate, htarget]
  dsimp only
  rw [haudit]
  dsimp only
  rw [if_congr hwrites rfl rfl, ite_not]
  rfl

end Command

/-- The record of a fix says what the fix did. The numbers of the recorded steps increase, a step is
recorded exactly when it changed the bundle that it was given, and nothing is recorded exactly when the
bundle came out as it went in. So a report of violations that were all fixed lists a step, and a
validation with a fix writes the block exactly when it is not the one that was loaded. -/
theorem applied_records_changes :
    (∀ (b : Bundle) (c : Conventions),
      ((b.fix c).applied.map fun fix => fix.step.number).Pairwise (· < ·) ∧
        (∀ step, step ∈ (b.fix c).applied.map AppliedFix.step ↔
          step.result (b.name c) c (b.given c step) ≠ b.given c step) ∧
        ((b.fix c).applied = [] ↔ (b.fix c).bundle = b)) ∧
      (∀ (a : Audit) (now : Timestamp) (o : Outcome),
        ((∃ response, (a.run now response).result = .ok o) ∨
          ∃ b, (a.runBundle now b).result = .ok o) →
        o.report.status = .fixed → o.report.fixes ≠ []) ∧
      ∀ (s : Surroundings) (args : List Text) (dir : Text) (b : Bundle) (o : Outcome),
        Command.target? args = some dir → Command.hasFlag args "--fix" = true →
        Bundle.load s.tree dir = .ok b → Command.validateBlock s args dir = .ok o →
        Command.validate s args =
          if o.bundle = b then { output := Command.reportText args o.report, tree := s.tree }
          else Command.writtenBack s args dir o := by
  refine ⟨fun b c => ⟨numbers_applied b c, fun step => ?_, applied_fix_eq_nil_iff⟩, ?_,
    fun s args dir b o => Command.validate_fix_eq⟩
  · rw [mem_applied_iff]
    exact not_congr result_eq_self_iff.symm
  · rintro a now o (⟨response, hrun⟩ | ⟨b, hrun⟩) hstatus
    · obtain ⟨b, rfl⟩ := Audit.exists_outcome_of_run hrun
      exact Audit.fixes_ne_nil hstatus
    · obtain ⟨rfl, -⟩ := Audit.judge_eq_ok_iff.1 hrun
      exact Audit.fixes_ne_nil hstatus

/-- A compliant block without its keywords. -/
def unlabelled : Bundle :=
  let labelled := compliantBundle (.derive "cm/demo" {}) {}
  { labelled with metadata := labelled.metadata.filter fun field => field.1 ≠ ("keywords" : Text) }

/-- The keywords are added, and the block is written back. -/
theorem applied_records_changes_unlabelled :
    let s : Surroundings :=
      { tree := (unlabelled.writeFiles "d" {}).1, directory := "/", input := .empty
        now := .ofNanoseconds 0 }
    let args : List Text := ["d", "--fix"]
    ∃ o, Command.validateBlock s args "d" = .ok o ∧ o.report.status = .fixed ∧
      o.report.fixes ≠ [] ∧ o.bundle ≠ unlabelled ∧
      Command.validate s args = Command.writtenBack s args "d" o := by
  intro s args
  have hwritten : (unlabelled.writeFiles "d" {}).2 = .ok () := by decide +kernel
  have hload : Bundle.load s.tree "d" = .ok unlabelled :=
    (Bundle.load_writeFiles_eq_ok_iff (Prod.ext rfl hwritten)).2 (by decide +kernel)
  have hdefault : Settings.loadOrDefault s.tree s.directory = .ok {} := by decide +kernel
  have hpolicy : (Command.validating {} args).policy ≠ .strict := by decide
  have hbefore : (unlabelled.violations {}).isEmpty = false := by decide +kernel
  have hafter : ((unlabelled.fix {}).bundle.violations {}).isEmpty = true := by decide +kernel
  obtain ⟨o, haudit, hrun, hstatus⟩ : ∃ o, Command.validateBlock s args "d" = .ok o ∧
      ((Command.validating {} args).runBundle s.now unlabelled).result = .ok o ∧
      o.report.status = Status.judge (unlabelled.violations {})
        ((unlabelled.fix {}).bundle.violations {}) :=
    ⟨_, Command.validateBlock_eq_ok_iff.2 ⟨_, _, hload, hdefault, rfl, (absurd · hpolicy)⟩,
      Audit.judge_eq_ok_iff.2 ⟨rfl, (absurd · hpolicy)⟩, rfl⟩
  rw [Status.judge, hbefore, hafter] at hstatus
  obtain ⟨-, hfixed, hvalidated⟩ := applied_records_changes
  have hfixes := hfixed (Command.validating {} args) s.now o (.inr ⟨unlabelled, hrun⟩) hstatus
  have hchanged : o.bundle ≠ unlabelled :=
    fun h => hfixes ((Command.fixes_eq_nil_iff hload haudit).2 h)
  have hending := hvalidated s args "d" unlabelled o rfl rfl hload haudit
  rw [if_neg hchanged] at hending
  exact ⟨o, haudit, hstatus, hfixes, hchanged, hending⟩

end BlockAudit
