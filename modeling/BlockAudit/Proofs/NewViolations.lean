import BlockAudit.Proofs.PlainLiterals
import BlockAudit.Proofs.Unresolved

/-!
# Violations that a fix brings in

Thirteen of the twenty-six rules cannot be broken by a fix. The other thirteen look at text that a fix
writes over: the literals with the block's name, the directories of the registration, and the class of
the configuration in the render callback. A fix brings in a violation exactly where it writes over the
text that such a rule looks for, and so never when the literals that it writes over hold names alone.
-/

namespace BlockAudit

variable {c : Conventions} {b : Bundle}

/-- Every violation of the fixed bundle was one of the bundle before. -/
def Bundle.FixAddsNone (b : Bundle) (c : Conventions) : Prop :=
  ∀ code ∈ (b.fix c).bundle.codes c, code ∈ b.codes c

lemma fixAddsNone_iff :
    b.FixAddsNone c ↔
      ∀ rule : Rule, rule.holds b c = true → rule.holds (b.fix c).bundle c = true := by
  constructor
  · intro h rule hrule
    cases hfixed : rule.holds (b.fix c).bundle c with
    | true => rfl
    | false =>
      have hbefore := h rule.code (Rule.code_mem_codes.2 hfixed)
      rw [Rule.code_mem_codes, hrule] at hbefore
      exact absurd hbefore (by simp)
  · intro h code hcode
    unfold Bundle.codes Bundle.violations at hcode
    simp only [List.map_map, List.mem_map, List.mem_filter, Function.comp_apply] at hcode
    obtain ⟨rule, ⟨-, hfixed⟩, rfl⟩ := hcode
    refine Rule.code_mem_codes.2 ?_
    cases hrule : rule.holds b c with
    | false => rfl
    | true =>
      rw [h rule hrule] at hfixed
      exact absurd hfixed (by simp)

/-! ### Rules that a fix cannot break -/

namespace Fix

open Json

lemma exampleType?_of_unresolved {metadata : Fields}
    (h : ExampleUnresolved (metadata.get? "attributes")) :
    (Rule.exampleType? metadata == some "boolean") = false := by
  have hkept : metadata.get? "attributes" = withExample (metadata.get? "attributes") := by
    cases hget : metadata.get? "attributes" with
    | none => exact absurd h (by rw [hget]; exact id)
    | some value =>
      rw [hget] at h
      cases value with
      | null => exact absurd h id
      | object attributes =>
        obtain ⟨flag, hflag, -⟩ := h
        unfold withExample
        simp only [hflag, Option.isSome_some, ↓reduceIte]
      | _ => rfl
  exact (exampleType?_withExample hkept).2 h

lemma mentions_of_unresolved {slug asset : Text} {value : Option Json}
    (h : AssetUnresolved slug asset value) : mentions asset value = false := by
  cases value with
  | none => rfl
  | some value =>
    cases value with
    | array items => exact mentions_array.2 h
    | _ => rfl

end Fix

/-- The rules that hold of a fixed bundle whenever they held before. -/
def Rule.kept : List Rule :=
  unfixed ++ [keyword, exampleAttribute, sharedStyleAsset, sharedScriptAsset, renderInclude, classStart]

lemma holds_kept_fix {rule : Rule} (hrule : rule ∈ Rule.kept) (h : rule.holds b c = true) :
    rule.holds (b.fix c).bundle c = true := by
  rcases List.mem_append.1 hrule with hunfixed | hfixed
  · rw [holds_unfixed_fix hunfixed, h]
  · rw [← Bool.not_eq_false]
    intro hbroken
    rw [← Bool.not_eq_false] at h
    simp only [List.mem_cons, List.not_mem_nil, or_false] at hfixed
    rcases hfixed with rfl | rfl | rfl | rfl | rfl | rfl
    · rw [holds_keyword_fix] at hbroken
      exact absurd hbroken (by simp)
    · exact h (Fix.exampleType?_of_unresolved (holds_exampleAttribute_fix.1 hbroken))
    · exact h (Fix.mentions_of_unresolved (holds_sharedStyleAsset_fix.1 hbroken))
    · exact h (Fix.mentions_of_unresolved (holds_sharedScriptAsset_fix.1 hbroken))
    · exact h (holds_renderInclude_fix.1 hbroken).1
    · exact h (holds_classStart_fix.1 hbroken).1

/-! ### Rules about text that is written over -/

namespace Fix

/-- The configuration keeps its class and its functions when the block's name is written into it. -/
structure KeepsConfig (b : Bundle) (c : Conventions) : Prop where
  configClass : Rule.declaresClass b.config ((b.name c).configClass c) = true →
    Rule.declaresClass (fixConfig (b.name c) b.config) ((b.name c).configClass c) = true
  configMethod : ∀ method : ConfigMethod, method.functionName ∈ Php.definedFunctions b.config →
    method.functionName ∈ Php.definedFunctions (fixConfig (b.name c) b.config)

/-- The registration keeps what it calls when names and directories are written into it. -/
structure KeepsRegistration (b : Bundle) (c : Conventions) : Prop where
  configInclude : Php.includesConfig b.registration = true →
    Php.includesConfig (fixRegistration (b.name c) c b.registration) = true
  localizedConfig : Text.occurs "wp_localize_script" b.registration = true →
    Text.occurs "wp_localize_script" (fixRegistration (b.name c) c b.registration) = true
  fileTimes : Text.occurs "filemtime(" b.registration = true →
    Text.occurs "filemtime(" (fixRegistration (b.name c) c b.registration) = true

/-- The render callback keeps its call of the configuration's class. -/
def KeepsClass (b : Bundle) (c : Conventions) : Prop :=
  Text.occurs ((b.name c).configClass c ++ "::") b.render = true →
    Text.occurs ((b.name c).configClass c ++ "::") (fixRender (b.name c) c b.render) = true

end Fix

lemma fixAddsNone_iff_keeps :
    b.FixAddsNone c ↔
      Fix.KeepsConfig b c ∧ Fix.KeepsRegistration b c ∧ Fix.KeepsClass b c := by
  have hname := name_fix b c
  rw [fixAddsNone_iff]
  constructor
  · intro h
    have hclass := h .configClass
    have hmethod (method : ConfigMethod) := h (.configMethod method)
    have hinclude := h .registrationInclude
    have hlocalized := h .localizedConfig
    have htimes := h .fileTimes
    have hrender := h .renderClass
    simp only [Rule.holds, hname, List.contains_iff_mem] at hclass hmethod hrender
    rw [bundle_fix] at hclass hinclude hlocalized htimes hrender
    refine ⟨⟨hclass, fun method => ?_⟩, ⟨hinclude, hlocalized, htimes⟩, hrender⟩
    have hfunction := hmethod method
    rwa [bundle_fix] at hfunction
  · rintro ⟨⟨hclass, hmethod⟩, ⟨hinclude, hlocalized, htimes⟩, hrender⟩ rule hrule
    cases rule with
    | configClass =>
      simp only [Rule.holds, hname] at hrule ⊢
      rw [bundle_fix]
      exact hclass hrule
    | configMethod method =>
      simp only [Rule.holds, List.contains_iff_mem] at hrule ⊢
      rw [bundle_fix]
      exact hmethod method hrule
    | registrationInclude =>
      rw [bundle_fix]
      exact hinclude hrule
    | localizedConfig =>
      rw [bundle_fix]
      exact hlocalized hrule
    | fileTimes =>
      rw [bundle_fix]
      exact htimes hrule
    | renderClass =>
      simp only [Rule.holds, hname] at hrule ⊢
      rw [bundle_fix]
      exact hrender hrule
    | _ => exact holds_kept_fix (by decide) hrule

/-! ### The class of the configuration in the render callback -/

namespace Fix

open Reader

/-- A word that no edit of the render callback can cut: it has no white space, no slash and no round
brackets, and it has a colon. -/
structure Uncut (w : Text) : Prop where
  blank : ∀ d ∈ w, Text.isBlank d = false
  slash : '/' ∉ w
  opening : '(' ∉ w
  closing : ')' ∉ w
  colon : ':' ∈ w

variable {w source : Text} {name : BlockName}

lemma Uncut.newline (hw : Uncut w) : '\n' ∉ w := by
  intro h
  have hblank := hw.blank _ h
  exact absurd hblank (by decide)

lemma Uncut.occurs_append_blanks (hw : Uncut w) (x : Text) {ws : Text} (hws : IsBlanks ws) :
    Text.occurs w (x ++ ws) = Text.occurs w x := by
  cases ws with
  | nil => rw [List.append_nil]
  | cons d ws =>
    have hd : d ∉ w := by
      intro h
      have hblank := hws d List.mem_cons_self
      rw [hw.blank d h] at hblank
      exact Bool.noConfusion hblank
    have hrest : Text.occurs w ws = false := by
      refine Text.occurs_eq_false hw.colon fun h => ?_
      have hblank := hws ':' (List.mem_cons_of_mem _ h)
      exact absurd hblank (by decide)
    rw [Text.occurs_barrier hd, hrest, Bool.or_false]

lemma Uncut.occurs_renderConfigInclude (hw : Uncut w) {new words : Text}
    (h : renderConfigInclude source = some (new, words)) (hsource : Text.occurs w source = true) :
    Text.occurs w new = true := by
  obtain ⟨head, tail, -, htail, rfl, rfl⟩ := renderConfigInclude_eq_some h
  rw [Text.occurs_barrier hw.newline]
  rcases htail with rfl | ⟨rest, rfl⟩
  · rw [List.append_nil] at hsource
    rw [hsource, Bool.true_or]
  · rw [Text.occurs_barrier hw.newline] at hsource ⊢
    rcases Bool.or_eq_true_iff.1 hsource with h | h
    · rw [h, Bool.true_or]
    · rw [h, Bool.or_true, Bool.or_true]

lemma Uncut.occurs_renderNamespace (hw : Uncut w) {new words : Text}
    (h : renderNamespace name c source = some (new, words)) (hsource : Text.occurs w source = true) :
    Text.occurs w new = true := by
  obtain ⟨head, ws, rest, -, hws, rfl, rfl⟩ := renderNamespace_eq_some h
  have hcomment (x : Text) : x ++ (ws ++ ("/**" ++ rest)) = (x ++ ws) ++ '/' :: ("**" ++ rest) := by
    simp
  have hlines (z : Text) : ∃ y, namespaceLines (name.phpNamespace c) ++ z = '\n' :: y := ⟨_, rfl⟩
  rw [hcomment, Text.occurs_barrier hw.slash, hw.occurs_append_blanks head hws] at hsource
  rcases Bool.or_eq_true_iff.1 hsource with hhead | hrest
  · obtain ⟨y, hy⟩ := hlines (ws ++ ("/**" ++ rest))
    rw [hy, Text.occurs_barrier hw.newline, hhead, Bool.true_or]
  · rw [← List.append_assoc, hcomment, Text.occurs_barrier hw.slash, hrest, Bool.or_true]

lemma Uncut.occurs_joinWrapperClasses (hw : Uncut w) (source : Text) :
    Text.occurs w (joinWrapperClasses source) = Text.occurs w source := by
  refine observe_replaceAll _ Php.consumes_rawWrapperClasses (Text.occurs w) ?_ source
  intro x m t t' hread ht
  obtain ⟨ws, ws', hws, hws', hm⟩ := Php.rawWrapperClasses_eq_some hread
  have hbetween (mid y : Text) (hmid : ':' ∉ mid) :
      Text.occurs w ((x ++ "esc_attr") ++ '(' :: (mid ++ ')' :: y)) =
        (Text.occurs w (x ++ "esc_attr") || Text.occurs w y) := by
    rw [Text.occurs_barrier hw.opening, Text.occurs_barrier hw.closing,
      Text.occurs_eq_false hw.colon hmid, Bool.false_or]
  have hraw : x ++ (m ++ t) =
      (x ++ "esc_attr") ++ '(' :: ((ws ++ ("$wrapper_classes" ++ ws')) ++ ')' :: t) := by
    rw [hm]
    simp
  have hjoined : x ++ (joinedWrapperClasses ++ t') =
      (x ++ "esc_attr") ++ '(' :: (" implode( ' ', $wrapper_classes ) " ++ ')' :: t') := by
    have hwords : joinedWrapperClasses =
        "esc_attr" ++ '(' :: (" implode( ' ', $wrapper_classes ) " ++ [')']) := by decide
    rw [hwords]
    simp only [List.append_assoc, List.cons_append, List.nil_append]
  have hblanks : ':' ∉ ws ++ ("$wrapper_classes" ++ ws') := by
    simp only [List.mem_append, not_or]
    exact ⟨hws.notMem (by decide), by decide, hws'.notMem (by decide)⟩
  have himplode : ':' ∉ (" implode( ' ', $wrapper_classes ) " : Text) := by decide
  rw [hraw, hjoined, hbetween _ _ hblanks, hbetween _ _ himplode, ht]

lemma Uncut.occurs_fixRender (hw : Uncut w) (hsource : Text.occurs w source = true) :
    Text.occurs w (fixRender name c source) = true := by
  have hinclude : Text.occurs w (leaves source (renderConfigInclude source)) = true := by
    cases hchange : renderConfigInclude source with
    | none => exact hsource
    | some change => exact hw.occurs_renderConfigInclude hchange hsource
  unfold fixRender
  dsimp only
  rw [hw.occurs_joinWrapperClasses]
  cases hchange : renderNamespace name c (leaves source (renderConfigInclude source)) with
  | none => exact hinclude
  | some change => exact hw.occurs_renderNamespace hchange hinclude

lemma PlainLiterals.keepsConfig (h : PlainLiterals b) (c : Conventions) : KeepsConfig b c := by
  refine ⟨fun hclass => ?_, fun method hmethod => ?_⟩
  · exact declaresClass_fixConfig (fun m hm => h.entries m hm "class" (by decide)) hclass
  · exact mem_definedFunctions_fixConfig (fun m hm => h.entries m hm "function" (by decide)) hmethod

lemma PlainLiterals.keepsRegistration (h : PlainLiterals b) : KeepsRegistration b {} :=
  ⟨h.includesConfig, h.occurs (by decide), h.occurs (by decide)⟩

lemma keepsClass_of_uncut (h : Uncut ((b.name c).configClass c ++ "::")) : KeepsClass b c :=
  fun hsource => h.occurs_fixRender hsource

end Fix

/-- The exact condition under which a fix brings in no violation: what it writes over is not what the
configuration, the registration and the render callback are searched for. Of the render callback this
is so for every class name that no edit can cut; of the other two it is so under the default
conventions when no literal that is written over has in it what a rule looks for. -/
theorem fixAddsNone_exact (b : Bundle) (c : Conventions) :
    (b.FixAddsNone c ↔
      Fix.KeepsConfig b c ∧ Fix.KeepsRegistration b c ∧ Fix.KeepsClass b c) ∧
    (Fix.Uncut ((b.name c).configClass c ++ "::") →
      (b.FixAddsNone c ↔ Fix.KeepsConfig b c ∧ Fix.KeepsRegistration b c)) ∧
    (Fix.PlainLiterals b → Fix.Uncut ((b.name {}).configClass {} ++ "::") → b.FixAddsNone {}) := by
  refine ⟨fixAddsNone_iff_keeps, fun hclass => ?_, fun hplain hclass => ?_⟩
  · rw [fixAddsNone_iff_keeps]
    have hkeeps := Fix.keepsClass_of_uncut hclass
    constructor
    · rintro ⟨hconfig, hregistration, -⟩
      exact ⟨hconfig, hregistration⟩
    · rintro ⟨hconfig, hregistration⟩
      exact ⟨hconfig, hregistration, hkeeps⟩
  · apply fixAddsNone_iff_keeps.2
    exact ⟨hplain.keepsConfig {}, hplain.keepsRegistration, Fix.keepsClass_of_uncut hclass⟩

/-- A configuration that defines a function inside the literal of the block's name. -/
def functionInLiteral : Bundle where
  config := "<?php\n'BLOCK_NAME' => ' function get_defaults() '"
  registration := []
  render := []
  editorScript := []
  sharedScript := []
  style := []
  metadata := [("name", .string "cm/demo")]

/-- The fix writes the block's name over the function, which is then missing. -/
theorem not_fixAddsNone_functionInLiteral :
    ¬ ∀ (b : Bundle) (c : Conventions), b.FixAddsNone c := by
  intro h
  have hadded : (Rule.configMethod .defaults).code ∈ (functionInLiteral.fix {}).bundle.codes {} ∧
      (Rule.configMethod .defaults).code ∉ functionInLiteral.codes {} := by decide +kernel
  exact hadded.2 (h functionInLiteral {} _ hadded.1)

end BlockAudit
