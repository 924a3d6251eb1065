import BlockAudit.Proofs.FixedBundle
import BlockAudit.Rule

/-!
# What a fix leaves unresolved

Some violations cannot be fixed: a value of an unexpected kind is not overwritten, a block without a
slug has no names to write, and a source without an opening tag has no place for a statement. For
every rule that a fix is meant to satisfy, the bundles are described that break it afterwards.
-/

namespace BlockAudit

variable {c : Conventions} {b : Bundle}

/-! ### Codes of violations -/

/-- The codes under which the broken rules of a bundle are reported. -/
def Bundle.codes (b : Bundle) (c : Conventions) : List Text := (b.violations c).map Violation.code

lemma Rule.mem_all (rule : Rule) : rule ∈ Rule.all := by
  cases rule with
  | configMethod method => cases method <;> decide
  | _ => decide

lemma Rule.code_injective {rule other : Rule} (h : rule.code = other.code) : rule = other := by
  have hall : ∀ rule ∈ Rule.all, ∀ other ∈ Rule.all, rule.code = other.code → rule = other := by
    decide +kernel
  exact hall rule (mem_all rule) other (mem_all other) h

lemma Rule.code_mem_map {rules : List Rule} {rule : Rule} {name : BlockName} :
    rule.code ∈ (rules.map fun other => other.violation name c).map Violation.code ↔ rule ∈ rules := by
  simp only [List.map_map, List.mem_map, Function.comp_apply, Rule.violation]
  constructor
  · rintro ⟨other, hother, hcode⟩
    rwa [← Rule.code_injective hcode]
  · intro h
    exact ⟨rule, h, rfl⟩

lemma Rule.code_mem_codes {rule : Rule} : rule.code ∈ b.codes c ↔ rule.holds b c = false := by
  unfold Bundle.codes Bundle.violations
  rw [Rule.code_mem_map, List.mem_filter, Bool.not_eq_true']
  exact and_iff_right (mem_all rule)

/-! ### Metadata -/

namespace Fix

open Json

/-- The attributes of a block in a state that the fix does not repair. -/
def ExampleUnresolved : Option Json → Prop
  | none | some .null => False
  | some (.object attributes) =>
    ∃ flag, Fields.get? attributes "isExample" = some flag ∧
      flag.field? "type" ≠ some (.string "boolean")
  | some _ => True

/-- An asset reference in a state that the fix does not repair. -/
def AssetUnresolved (slug asset : Text) : Option Json → Prop
  | none | some .null => True
  | some (.array items) => ∀ s, Json.string s ∈ items → Text.occurs asset s = false
  | some _ => slug = []

lemma exampleType?_of_flag {metadata : Fields} {attributes flag : Json}
    (hget : metadata.get? "attributes" = some attributes)
    (hflag : attributes.field? "isExample" = some flag) :
    (Rule.exampleType? metadata == some "boolean") = false ↔
      flag.field? "type" ≠ some (.string "boolean") := by
  unfold Rule.exampleType?
  simp only [hget, hflag, Option.bind_eq_bind, Option.bind_some]
  cases flag.field? "type" with
  | none => simp
  | some type => cases type <;> simp [Json.string?]

lemma exampleType?_of_set {metadata attributes : Fields} (hget : metadata.get? "attributes" =
    some (.object (Fields.set attributes "isExample" exampleFlag))) :
    (Rule.exampleType? metadata == some "boolean") = true := by
  have hfield : (Json.object (Fields.set attributes "isExample" exampleFlag)).field? "isExample" =
      some exampleFlag := Fields.get?_set_self
  have hboolean : exampleFlag.field? "type" = some (.string "boolean") := rfl
  rw [← Bool.not_eq_false, exampleType?_of_flag hget hfield]
  exact not_not_intro hboolean

lemma exampleType?_withExample {metadata : Fields} {value : Option Json}
    (h : metadata.get? "attributes" = withExample value) :
    (Rule.exampleType? metadata == some "boolean") = false ↔ ExampleUnresolved value := by
  cases value with
  | none => simpa [ExampleUnresolved] using exampleType?_of_set h
  | some value =>
    cases value with
    | null => simpa [ExampleUnresolved] using exampleType?_of_set h
    | object attributes =>
      unfold withExample at h
      cases hflag : Fields.get? attributes "isExample" with
      | none =>
        simp only [hflag, Option.isSome_none, Bool.false_eq_true, ↓reduceIte] at h
        have hfalse : ¬ ExampleUnresolved (some (.object attributes)) := by
          rintro ⟨flag, hsome, -⟩
          rw [hflag] at hsome
          exact absurd hsome (by simp)
        simp only [exampleType?_of_set h, hfalse, Bool.true_eq_false]
      | some flag =>
        simp only [hflag, Option.isSome_some, ↓reduceIte] at h
        rw [exampleType?_of_flag h hflag]
        constructor
        · intro hne
          exact ⟨flag, hflag, hne⟩
        · rintro ⟨other, hother, hne⟩
          obtain rfl := Option.some.inj (hflag.symm.trans hother)
          exact hne
    | _ =>
      unfold Rule.exampleType?
      rw [h]
      exact iff_of_true rfl trivial

/-- The value is a list with a text that mentions `asset`. -/
def mentions (asset : Text) (value : Option Json) : Bool :=
  (value.bind Json.array?).any fun items => items.any fun item => item.string?.any (Text.occurs asset)

lemma mentions_array {asset : Text} {items : List Json} :
    mentions asset (some (.array items)) = false ↔
      ∀ s, Json.string s ∈ items → Text.occurs asset s = false := by
  unfold mentions
  simp only [Option.bind_some, Json.array?, Option.any_some, List.any_eq_false]
  constructor
  · intro h s hs
    simpa [Json.string?] using h (.string s) hs
  · intro h item hitem
    cases item with
    | string s => simpa [Json.string?] using h s hitem
    | _ => simp [Json.string?]

/-- A list stays as it is, and any other value but null becomes a list unless the slug is empty. -/
lemma mentions_withList {name : BlockName} {asset : Text} {list : Json}
    (hlist : mentions asset (some list) = true) (value : Option Json) :
    mentions asset (withList name list value) = false ↔ AssetUnresolved name.slug asset value := by
  have hscalar (hvalue : isScalar value = true) (hmentions : mentions asset value = false) :
      mentions asset (withList name list value) = false ↔ name.slug = [] := by
    unfold withList
    rw [if_pos hvalue]
    cases name.slug with
    | nil => simpa using hmentions
    | cons d slug => simpa using hlist
  have hkept (hvalue : isScalar value = false) : withList name list value = value := by
    unfold withList
    rw [hvalue]
    simp
  cases value with
  | none =>
    rw [hkept rfl]
    exact iff_of_true rfl trivial
  | some value =>
    cases value with
    | null =>
      rw [hkept rfl]
      exact iff_of_true rfl trivial
    | array items =>
      rw [hkept rfl]
      exact mentions_array
    | _ => exact hscalar rfl rfl

lemma assetUnresolved_withPath {slug asset : Text} (path : LegacyPath) (value : Option Json) :
    AssetUnresolved slug asset (withPath path value) ↔ AssetUnresolved slug asset value := by
  unfold withPath
  split
  · next h =>
    obtain ⟨v, rfl, hv⟩ := Option.bind_eq_some_iff.1 h
    cases v with
    | string s => exact Iff.rfl
    | _ => simp [Json.string?] at hv
  · exact Iff.rfl

end Fix

/-! ### Rules that a fix satisfies -/

lemma holds_keyword_fix : Rule.keyword.holds (b.fix c).bundle c = true := by
  obtain ⟨others, -, hget⟩ := Fix.keywordLeads_fixMetadata (b.name c) c b.metadata
  rw [bundle_fix]
  unfold Rule.holds Rule.listsText
  dsimp only
  rw [hget]
  simp [Json.array?, Json.string?]

lemma holds_exampleAttribute_fix :
    Rule.exampleAttribute.holds (b.fix c).bundle c = false ↔
      Fix.ExampleUnresolved (b.metadata.get? "attributes") := by
  rw [bundle_fix]
  exact Fix.exampleType?_withExample Fix.get?_attributes_fixMetadata

lemma Fix.mentions_handle (name : BlockName) (c : Conventions) (asset : Text) (items : List Json) :
    Fix.mentions asset (some (.array (.string (name.handle c asset) :: items))) = true := by
  have hoccurs : Text.occurs asset (name.handle c asset) = true := by
    refine Text.occurs_append_right _ ?_
    have h := Text.occurs_self_append asset []
    rwa [List.append_nil] at h
  simp [Fix.mentions, Json.array?, Json.string?, hoccurs]

lemma holds_sharedStyleAsset_fix :
    Rule.sharedStyleAsset.holds (b.fix c).bundle c = false ↔
      Fix.AssetUnresolved (b.name c).slug "centralized-css" (b.metadata.get? "editorStyle") := by
  rw [bundle_fix, ← Fix.assetUnresolved_withPath Fix.legacyStyle]
  change Fix.mentions _ (Json.Fields.get? _ "editorStyle") = false ↔ _
  rw [Fix.get?_editorStyle_fixMetadata]
  exact Fix.mentions_withList (Fix.mentions_handle _ _ _ _) _

lemma holds_sharedScriptAsset_fix :
    Rule.sharedScriptAsset.holds (b.fix c).bundle c = false ↔
      Fix.AssetUnresolved (b.name c).slug "centralized-js" (b.metadata.get? "viewScript") := by
  have hlist : (("viewScript" : Text), Json.array [.string ((b.name c).handle c "centralized-js")]) ∈
      Fix.assetListsOf (b.name c) c := List.mem_cons_of_mem _ List.mem_cons_self
  rw [bundle_fix]
  change Fix.mentions _ (Json.Fields.get? _ "viewScript") = false ↔ _
  rw [Fix.get?_list_fixMetadata hlist (by decide) (by decide) (by decide)]
  exact Fix.mentions_withList (Fix.mentions_handle _ _ _ _) _

lemma holds_renderInclude_fix :
    Rule.renderInclude.holds (b.fix c).bundle c = false ↔
      Php.includesConfig b.render = false ∧ Text.occurs Php.openTag b.render = false := by
  rw [bundle_fix]
  exact Fix.includesConfig_fixRender

lemma holds_classStart_fix :
    Rule.classStart.holds (b.fix c).bundle c = false ↔
      Text.occurs c.selectorStart b.style = false ∧ (b.name c).slug = [] := by
  rw [bundle_fix]
  exact Fix.occurs_selectorStart_fixStyle

/-- The rules about keys and files that no fix writes to. -/
def Rule.unfixed : List Rule :=
  [nameInNamespace, titleStart, category, wrappedEditorScript, editorConfig, noSharedRegistration,
    sharedConfig]

lemma holds_unfixed_fix {rule : Rule} (h : rule ∈ Rule.unfixed) :
    rule.holds (b.fix c).bundle c = rule.holds b c := by
  have hkeys : ("name" : Text) ∉ Fix.fixedKeys ∧ ("title" : Text) ∉ Fix.fixedKeys ∧
      ("category" : Text) ∉ Fix.fixedKeys := by decide
  have hname := name_fix b c
  have hstring {key : Text} (hkey : key ∉ Fix.fixedKeys) :
      (b.fix c).bundle.metadata.string? key = b.metadata.string? key := by
    rw [bundle_fix]
    unfold Json.Fields.string?
    dsimp only
    rw [Fix.get?_fixMetadata_of_notMem hkey]
  have heditor : (b.fix c).bundle.editorScript = b.editorScript := by rw [bundle_fix]
  have hshared : (b.fix c).bundle.sharedScript = b.sharedScript := by rw [bundle_fix]
  simp only [Rule.unfixed, List.mem_cons, List.not_mem_nil, or_false] at h
  rcases h with rfl | rfl | rfl | rfl | rfl | rfl | rfl
  · simp only [Rule.holds, hstring hkeys.1]
  · simp only [Rule.holds, hstring hkeys.2.1]
  · simp only [Rule.holds, hstring hkeys.2.2]
  · simp only [Rule.holds, heditor]
  · simp only [Rule.holds, heditor, hname]
  · simp only [Rule.holds, hshared]
  · simp only [Rule.holds, hshared, hname]

/-- The violations of a fixed bundle, for every rule that a fix is meant to satisfy and for every rule
that no fix is about. -/
theorem codes_fix (b : Bundle) (c : Conventions) :
    let codes := (b.fix c).bundle.codes c
    let slug := (b.name c).slug
    "SSOT004".toList ∉ codes ∧
    ("SSOT005".toList ∈ codes ↔ Fix.ExampleUnresolved (b.metadata.get? "attributes")) ∧
    ("SSOT006".toList ∈ codes ↔
      Fix.AssetUnresolved slug "centralized-css" (b.metadata.get? "editorStyle")) ∧
    ("SSOT007".toList ∈ codes ↔
      Fix.AssetUnresolved slug "centralized-js" (b.metadata.get? "viewScript")) ∧
    ("SSOT024".toList ∈ codes ↔
      Php.includesConfig b.render = false ∧ Text.occurs "<?php" b.render = false) ∧
    ("SSOT026".toList ∈ codes ↔
      Text.occurs ('.' :: c.classStart) b.style = false ∧ slug = []) ∧
    ∀ code ∈ ["SSOT001", "SSOT002", "SSOT003", "SSOT020", "SSOT021", "SSOT022", "SSOT023"],
      code.toList ∈ codes ↔ code.toList ∈ b.codes c := by
  have hcodes : Rule.keyword.code = "SSOT004".toList ∧ Rule.exampleAttribute.code = "SSOT005".toList ∧
      Rule.sharedStyleAsset.code = "SSOT006".toList ∧
      Rule.sharedScriptAsset.code = "SSOT007".toList ∧
      Rule.renderInclude.code = "SSOT024".toList ∧ Rule.classStart.code = "SSOT026".toList ∧
      Rule.unfixed.map Rule.code = ["SSOT001", "SSOT002", "SSOT003", "SSOT020", "SSOT021", "SSOT022",
        "SSOT023"].map String.toList := by decide +kernel
  obtain ⟨hkeyword, hexample, hstyle, hscript, hinclude, hclass, hunfixed⟩ := hcodes
  refine ⟨?_, ?_, ?_, ?_, ?_, ?_, ?_⟩
  · rw [← hkeyword, Rule.code_mem_codes, holds_keyword_fix]
    simp
  · rw [← hexample, Rule.code_mem_codes, holds_exampleAttribute_fix]
  · rw [← hstyle, Rule.code_mem_codes, holds_sharedStyleAsset_fix]
  · rw [← hscript, Rule.code_mem_codes, holds_sharedScriptAsset_fix]
  · rw [← hinclude, Rule.code_mem_codes, holds_renderInclude_fix]
    rfl
  · rw [← hclass, Rule.code_mem_codes, holds_classStart_fix]
    rfl
  · intro code hcode
    have hmem : code.toList ∈ Rule.unfixed.map Rule.code := by
      rw [hunfixed]
      exact List.mem_map_of_mem hcode
    obtain ⟨rule, hrule, heq⟩ := List.mem_map.1 hmem
    rw [← heq, Rule.code_mem_codes, Rule.code_mem_codes, holds_unfixed_fix hrule]

end BlockAudit
