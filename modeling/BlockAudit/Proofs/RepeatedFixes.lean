import BlockAudit.Proofs.Idempotence
import BlockAudit.Proofs.RegisteredNames

/-!
# Fixing again and again

From the second fix on, under the default conventions, only the registration can still change. A
directory that is replaced loses its `/blocks`, and the replacement never makes a new one, whatever
stands around it. The names in the calls are the same after every fix. So the number of occurrences of
`/blocks` falls with every change, and the fixes come to an end.
-/

namespace BlockAudit

namespace Fix

open Reader

/-! ### The measure -/

/-- What every directory that is replaced starts with. -/
def blocksStart : Text := "/blocks"

lemma occurrences_append_slash (x y : Text) :
    Text.occurrences blocksStart (x ++ '/' :: y) =
      Text.occurrences blocksStart x + Text.occurrences blocksStart ('/' :: y) := by
  have hword : blocksStart = '/' :: "blocks" := rfl
  rw [hword]
  exact Text.occurrences_append_head (by decide) x y

lemma occurrences_append_of_noSlash {x : Text} (hx : '/' ∉ x) (y : Text) :
    Text.occurrences blocksStart (x ++ y) = Text.occurrences blocksStart y :=
  Text.occurrences_append_of_notMem hx y

/-- What both directories end with. -/
lemma occurrences_classes (t : Text) :
    Text.occurrences blocksStart ('/' :: ("cm-" ++ t)) = Text.occurrences blocksStart t := by
  have hstart : Text.startsWith blocksStart ('/' :: ("cm-" ++ t)) = false := rfl
  rw [Text.occurrences, hstart, occurrences_append_of_noSlash (by decide)]
  exact Nat.zero_add _

lemma occurrences_legacyBlocks (x t : Text) :
    Text.occurrences blocksStart (x ++ (legacyBlocks ++ t)) =
      Text.occurrences blocksStart x + 1 + Text.occurrences blocksStart t := by
  have hshape : legacyBlocks ++ t = '/' :: ("blocks" ++ '/' :: ("cm-" ++ t)) := rfl
  have hstart : Text.startsWith blocksStart ('/' :: ("blocks" ++ '/' :: ("cm-" ++ t))) = true := rfl
  rw [hshape, occurrences_append_slash, Text.occurrences, hstart,
    occurrences_append_of_noSlash (by decide), occurrences_classes, if_pos rfl]
  omega

lemma occurrences_currentBlocks (x t : Text) :
    Text.occurrences blocksStart (x ++ (currentBlocks ++ t)) =
      Text.occurrences blocksStart x + Text.occurrences blocksStart t := by
  have hshape : currentBlocks ++ t = '/' :: ("cm-blocks" ++ '/' :: ("cm-" ++ t)) := rfl
  have hstart : Text.startsWith blocksStart ('/' :: ("cm-blocks" ++ '/' :: ("cm-" ++ t))) = false :=
    rfl
  rw [hshape, occurrences_append_slash, Text.occurrences, hstart,
    occurrences_append_of_noSlash (by decide), occurrences_classes, if_neg Bool.false_ne_true]
  omega

/-- Replacing directories changes nothing or leaves less of what it looks for. -/
lemma moveDirs_lowers (s : Text) :
    moveDirs s = s ∨ Text.occurrences blocksStart (moveDirs s) < Text.occurrences blocksStart s := by
  refine replaceAll_induction currentBlocks consumes_legacyBlocks
    (motive := fun s s' =>
      s' = s ∨ Text.occurrences blocksStart s' < Text.occurrences blocksStart s)
    (fun _ _ => .inl rfl) (fun x m t _ hmt _ ih => ?_) s
  obtain rfl : m = legacyBlocks := List.append_cancel_right (word_eq_some_iff.1 hmt)
  right
  rw [occurrences_currentBlocks, occurrences_legacyBlocks]
  rcases ih with heq | hlt
  · rw [heq]
    omega
  · omega

/-! ### Names in calls -/

/-- The number of calls that register a block. -/
def calls (s : Text) : Nat := (Php.registerCall.matched.hits s).length

lemma calls_moveDirs (s : Text) : calls (moveDirs s) = calls s := by
  have hhits := hits_relocate (c := {}) (by decide) s
  unfold calls
  exact (congrArg List.length hhits).trans (List.length_map _)

/-- Every call adds what its content holds. -/
lemma occurrences_callsWith (content s : Text) :
    Text.occurrences blocksStart (callsWith content s) =
      Text.occurrences blocksStart (callsWith [] s) +
        calls s * Text.occurrences blocksStart content := by
  have hcall (x content t : Text) : Text.occurrences blocksStart (x ++ (callWith content ++ t)) =
      Text.occurrences blocksStart (x ++ "register_block_type(") +
        Text.occurrences blocksStart content + Text.occurrences blocksStart t := by
    have hquote (x y : Text) : Text.occurrences blocksStart (x ++ '\'' :: y) =
        Text.occurrences blocksStart x + Text.occurrences blocksStart y :=
      Text.occurrences_barrier (by decide) (by decide) x y
    rw [callWith_append, List.nil_append, ← List.append_assoc, hquote, hquote]
    omega
  refine replaceAll_induction (callWith content) Php.consumes_registerCall
    (motive := fun s s' => Text.occurrences blocksStart s' =
      Text.occurrences blocksStart (callsWith [] s) + calls s * Text.occurrences blocksStart content)
    (fun s hs => ?_) (fun x m t hm hmt hx ih => ?_) s
  · have hnone : Php.registerCall.matched.hits s = [] := by
      have h := hits_of_misses hs
      rwa [List.append_nil, hits_nil] at h
    have hcopied : callsWith [] s = s := replaceAll_eq_self hs
    rw [hcopied, calls, hnone]
    simp
  · have hempty : callsWith [] (x ++ (m ++ t)) = x ++ (callWith [] ++ callsWith [] t) := by
      unfold callsWith
      rw [replaceAll_of_misses hx, replaceAll_match hm hmt]
    have hcalls : calls (x ++ (m ++ t)) = calls t + 1 := by
      unfold calls
      rw [hits_of_misses hx, hits_match hm hmt, List.length_cons]
    have hnil : Text.occurrences blocksStart [] = 0 := rfl
    rw [hempty, hcalls, hcall, hcall, ih, hnil, Nat.add_mul]
    omega

/-- With the same names in the calls, replacing directories changes nothing or leaves less of what it
looks for. -/
lemma callsWith_moveDirs_lowers (content s : Text) :
    callsWith content (moveDirs s) = callsWith content s ∨
      Text.occurrences blocksStart (callsWith content (moveDirs s)) <
        Text.occurrences blocksStart (callsWith content s) := by
  have hempty : Free Php.isQuote [] := by decide
  have hnil : moveDirs [] = [] := replaceAll_nil
  have hunnamed := moveDirs_lowers (callsWith [] s)
  rw [moveDirs_callsWith, hnil] at hunnamed
  rcases hunnamed with heq | hlt
  · left
    have hcalls := congrArg (callsWith content) heq
    rwa [callsWith_callsWith hempty, callsWith_callsWith hempty] at hcalls
  · right
    rw [occurrences_callsWith, occurrences_callsWith content s, calls_moveDirs]
    omega

/-- Fixing a fixed registration changes nothing or leaves less of `/blocks` in it. -/
lemma fixRegistration_lowers (name : BlockName) (source : Text) :
    fixRegistration name {} (fixRegistration name {} source) = fixRegistration name {} source ∨
      Text.occurrences blocksStart (fixRegistration name {} (fixRegistration name {} source)) <
        Text.occurrences blocksStart (fixRegistration name {} source) := by
  simp only [fixRegistration_default]
  cases hsafe : name.isLiteralSafe with
  | false => exact moveDirs_lowers (moveDirs source)
  | true =>
    have hmoved := free_moveDirs (free_identifier hsafe)
    simp only [↓reduceIte]
    -- What the first fix leaves in the calls is written over, and then written once more.
    rw [moveDirs_callsWith _ source, moveDirs_callsWith, moveDirs_callsWith,
      callsWith_callsWith (free_moveDirs hmoved)]
    exact callsWith_moveDirs_lowers (moveDirs name.identifier) (moveDirs source)

end Fix

/-! ### The recorded steps -/

variable {name : BlockName} {c : Conventions} {b : Bundle}

/-- No step but its own looks at the registration. -/
lemma apply_registration_of_ne {step : FixStep} (h : step ≠ .registration) (source : Text) :
    step.apply name c { b with registration := source } = none ↔ step.apply name c b = none := by
  cases step with
  | registration => exact absurd rfl h
  | _ => simp only [FixStep.apply, Option.map_eq_none_iff]

/-- What a fix records when only the registration can change. -/
lemma applied_of_others (h : ∀ step : FixStep, step ≠ .registration → step.apply name c b = none) :
    (Bundle.applySteps name c FixStep.all b).applied.map AppliedFix.step =
      if Fix.fixRegistration name c b.registration = b.registration then [] else [.registration] := by
  have hsteps : FixStep.all = [.keywords, .legacyAssetPaths, .exampleAttribute, .assetLists,
      .configBlockName] ++ .registration :: [.renderConfigInclude, .styleStart, .renderNamespace,
        .wrapperClassesJoin] := rfl
  have hbefore : ∀ step ∈ [FixStep.keywords, .legacyAssetPaths, .exampleAttribute, .assetLists,
      .configBlockName], step ≠ .registration := by decide
  have hafter : ∀ step ∈ [FixStep.renderConfigInclude, .styleStart, .renderNamespace,
      .wrapperClassesJoin], step ≠ .registration := by decide
  have hfirst := applied_applySteps_eq_nil.2 fun step hstep => h step (hbefore step hstep)
  rw [hsteps, applySteps_append]
  dsimp only
  rw [hfirst, bundle_of_applied_eq_nil hfirst, List.nil_append, Bundle.applySteps, FixStep.apply]
  cases hchange : Fix.registration name c b.registration with
  | none =>
    have hnone := applied_applySteps_eq_nil.2 fun step hstep => h step (hafter step hstep)
    rw [if_pos (Fix.registration_eq_none_iff.1 hchange), Option.map_none, hnone, List.map_nil]
  | some change =>
    have hne : Fix.fixRegistration name c b.registration ≠ b.registration := by
      intro heq
      rw [Fix.registration_eq_none_iff.2 heq] at hchange
      exact absurd hchange (by simp)
    have hnone := applied_applySteps_eq_nil.2 fun step hstep =>
      (apply_registration_of_ne (hafter step hstep) change.1).2 (h step (hafter step hstep))
    rw [if_neg hne, Option.map_some, List.map_cons, hnone, List.map_nil]

/-- What a second fix records. -/
lemma applied_fix_fix (b : Bundle) :
    ((b.fix {}).bundle.fix {}).applied.map AppliedFix.step =
      if Fix.fixRegistration (b.name {}) {} (b.fix {}).bundle.registration =
        (b.fix {}).bundle.registration then [] else [.registration] := by
  have hnamespace : FixStep.renderNamespace.apply (b.name {}) {} (b.fix {}).bundle = none := by
    have hrecognized : Fix.NamespaceRecognized (b.name {}) {} b.render :=
      Fix.namespaceRecognized_of_head (d := 'C') rfl (by decide) (by decide)
    have hnone := Fix.renderNamespace_fixRender_eq_none_iff.2 hrecognized
    rw [bundle_fix]
    simp only [FixStep.apply, hnone, Option.map_none]
  rw [← name_fix b {}] at hnamespace ⊢
  refine applied_of_others fun step hstep => ?_
  by_cases hn : step = .renderNamespace
  · rw [hn, hnamespace]
  · rw [name_fix]
    exact apply_fix_eq_none hstep hn

/-! ### The end of all fixes -/

/-- The bundle after the given number of fixes under the default conventions. -/
def Bundle.fixedTimes (b : Bundle) : Nat → Bundle
  | 0 => b
  | n + 1 => ((b.fixedTimes n).fix {}).bundle

/-- A fix after the first one records nothing, or it records a change of the registration that lowers
the number of occurrences of `/blocks` in it. -/
lemma fix_fixedTimes (b : Bundle) (n : Nat) :
    ((b.fixedTimes (n + 1)).fix {}).applied = [] ∨
      (((b.fixedTimes (n + 1)).fix {}).applied.map AppliedFix.step = [.registration] ∧
        Text.occurrences "/blocks" (b.fixedTimes (n + 2)).registration <
          Text.occurrences "/blocks" (b.fixedTimes (n + 1)).registration) := by
  have hregistration (b : Bundle) : (b.fix {}).bundle.registration =
      Fix.fixRegistration (b.name {}) {} b.registration := by rw [bundle_fix]
  have hrecorded := applied_fix_fix (b.fixedTimes n)
  have hlowers := Fix.fixRegistration_lowers ((b.fixedTimes n).name {}) (b.fixedTimes n).registration
  have hagain : (b.fixedTimes (n + 2)).registration =
      Fix.fixRegistration ((b.fixedTimes n).name {}) {} (b.fixedTimes (n + 1)).registration := by
    rw [Bundle.fixedTimes, hregistration, Bundle.fixedTimes, name_fix]
  rw [← hregistration] at hlowers
  change _ ∨ _ ∧ Text.occurrences Fix.blocksStart (b.fixedTimes (n + 2)).registration < _
  rw [hagain]
  split at hrecorded
  · exact .inl (List.map_eq_nil_iff.1 hrecorded)
  · next hne => exact .inr ⟨hrecorded, hlowers.resolve_left hne⟩

/-- However often a bundle is fixed under the default conventions, there is an end to it: after one fix
more than `/blocks` occurs in the registration at the latest. -/
theorem fixedTimes_settles (b : Bundle) :
    (∃ n, n ≤ 1 + Text.occurrences "/blocks" (b.fixedTimes 1).registration ∧
      ((b.fixedTimes n).fix {}).applied = []) ∧
    ∀ n, ((b.fixedTimes (n + 1)).fix {}).applied = [] ∨
      (((b.fixedTimes (n + 1)).fix {}).applied.map AppliedFix.step = [.registration] ∧
        Text.occurrences "/blocks" (b.fixedTimes (n + 2)).registration <
          Text.occurrences "/blocks" (b.fixedTimes (n + 1)).registration) := by
  have hdescent (n : Nat) : (∃ k, k ≤ n ∧ ((b.fixedTimes k).fix {}).applied = []) ∨
      Text.occurrences "/blocks" (b.fixedTimes (n + 1)).registration + n ≤
        Text.occurrences "/blocks" (b.fixedTimes 1).registration := by
    induction n with
    | zero => exact .inr (Nat.le_refl _)
    | succ n ih =>
      rcases ih with ⟨k, hk, hdone⟩ | hle
      · exact .inl ⟨k, by omega, hdone⟩
      · rcases fix_fixedTimes b n with hdone | ⟨-, hlt⟩
        · exact .inl ⟨n + 1, Nat.le_refl _, hdone⟩
        · right
          have hnext : Text.occurrences "/blocks" (b.fixedTimes (n + 1 + 1)).registration <
              Text.occurrences "/blocks" (b.fixedTimes (n + 1)).registration := hlt
          omega
  refine ⟨?_, fix_fixedTimes b⟩
  apply (hdescent _).resolve_right
  omega

end BlockAudit
