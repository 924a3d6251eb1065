import BlockAudit.Proofs.Declarations
import BlockAudit.Proofs.LeadingComments

/-!
# Names that a block can have

The rules prescribe names that are derived from the block's name, and look for them in the sources. Two
kinds of names can never be found: a class whose name is not one word, and a global variable in which
the registration of blocks is mentioned, which the shared script must not mention. For every other name
in the namespace there is a bundle that keeps all rules.
-/

namespace BlockAudit

variable {name : BlockName} {c : Conventions} {b : Bundle}

/-! ### What a bundle without violations tells about its name -/

lemma violations_eq_nil_iff : b.violations c = [] ↔ ∀ rule : Rule, rule.holds b c = true := by
  unfold Bundle.violations
  rw [List.map_eq_nil_iff, List.filter_eq_nil_iff]
  constructor
  · intro h rule
    simpa using h rule (Rule.mem_all rule)
  · intro h rule _
    simp [h rule]

namespace Rule

lemma mem_of_followedBy {first second : Text} {words : List Text}
    (h : followedBy first second words = true) : second ∈ words := by
  induction words with
  | nil => exact absurd h (by simp [followedBy])
  | cons a words ih =>
    cases words with
    | nil => exact absurd h (by simp [followedBy])
    | cons d words =>
      rw [followedBy, Bool.or_eq_true, Bool.and_eq_true] at h
      rcases h with ⟨-, hsecond⟩ | hrest
      · rw [← beq_iff_eq.1 hsecond]
        exact List.mem_cons_of_mem a List.mem_cons_self
      · exact List.mem_cons_of_mem a (ih hrest)

/-- A class that is declared has one word as its name. -/
lemma separates_of_declaresClass {source className : Text}
    (h : declaresClass source className = true) : ∀ ch ∈ className, separates ch = false :=
  Text.of_mem_splitWhere (List.mem_of_mem_filter (mem_of_followedBy h))

lemma separates_eq_false_iff {ch : Char} :
    separates ch = false ↔ Text.isAlphanumeric ch = true ∨ ch = '_' := by
  unfold separates
  rw [Bool.not_eq_false', Bool.or_eq_true, beq_iff_eq]

end Rule

/-! ### A bundle without violations -/

/-- The definitions of all functions that a configuration has to define. -/
def functionDefinitions : Text :=
  ConfigMethod.all.flatMap fun method => "function " ++ method.functionName ++ "(); "

/-- A bundle with all that the rules ask for, and with nothing else. -/
def compliantBundle (name : BlockName) (c : Conventions) : Bundle where
  metadata := [
    ("name", .string name.identifier),
    ("title", .string c.titleStart),
    ("category", .string c.category),
    ("keywords", .array [.string c.keyword]),
    ("attributes", .object [("isExample", Fix.exampleFlag)]),
    ("editorStyle", .array [.string "centralized-css"]),
    ("viewScript", .array [.string "centralized-js"])]
  config := functionDefinitions ++ '\'' :: ("class " ++ name.configClass c)
  registration := "require __DIR__ . '/config.php'; wp_localize_script(filemtime());"
  render := Fix.configRequire ++ '*' :: (name.configClass c ++ "::")
  editorScript := "(function() " ++ name.jsGlobal c
  sharedScript := name.jsGlobal c
  style := c.selectorStart

namespace Rule

lemma sourceWords_of_word {w : Text} (hw : w ≠ []) (h : ∀ ch ∈ w, separates ch = false) :
    sourceWords w = [w] := by
  rw [sourceWords_eq, Text.splitWhere_of_forall h]
  simp [hw]

lemma declaresClass_append (x : Text) {className : Text} (hname : className ≠ [])
    (h : ∀ ch ∈ className, separates ch = false) :
    declaresClass (x ++ '\'' :: ("class " ++ className)) className = true := by
  have hclass : sourceWords ("class " ++ className) = ["class".toList, className] := by
    have hshape : ("class " : Text) ++ className = "class" ++ ' ' :: className := rfl
    rw [hshape, sourceWords_barrier (by decide), sourceWords_of_word hname h]
    rfl
  unfold declaresClass
  rw [sourceWords_barrier (by decide), hclass]
  exact followedBy_append_right _ (by simp [followedBy])

end Rule

lemma configClass_ne_nil (name : BlockName) (c : Conventions) : name.configClass c ≠ [] := by
  unfold BlockName.configClass
  rw [Text.joinWith_append]
  simp

lemma definedFunctions_functionDefinitions (method : ConfigMethod) :
    method.functionName ∈ Php.definedFunctions functionDefinitions := by
  have hall : ConfigMethod.all.map ConfigMethod.functionName =
      Php.definedFunctions functionDefinitions := by decide +kernel
  have hmem : method ∈ ConfigMethod.all := by cases method <;> decide
  rw [← hall]
  exact List.mem_map_of_mem hmem

lemma isWrapped_function (s : Text) : Script.isWrapped ("(function() " ++ s) = true := by
  have hcode : Script.BeginsWithCode ("(function() " ++ s) :=
    Script.beginsWithCode_cons (by decide : Text.isBlank '(' = false) (by decide) _
  rw [Script.isWrapped, Script.skipComments_eq_self hcode]
  rfl

lemma holds_compliantBundle (hname : BlockName.derive name.identifier c = name)
    (hspace : c.nameStart <+: name.identifier)
    (hclass : ∀ ch ∈ name.configClass c, Rule.separates ch = false)
    (hglobal : ¬ "registerBlockType".toList <:+: name.jsGlobal c) (rule : Rule) :
    rule.holds (compliantBundle name c) c = true := by
  have hderived : (compliantBundle name c).name c = name := hname
  have hself (w : Text) : Text.occurs w w = true := Text.occurs_iff.2 (List.infix_refl w)
  cases rule with
  | nameInNamespace => exact Text.startsWith_iff.2 hspace
  | titleStart => exact Text.startsWith_iff.2 (List.prefix_refl _)
  | category => exact beq_self_eq_true _
  | keyword =>
    have hlists : Rule.keyword.holds (compliantBundle name c) c =
        ((some c.keyword == some c.keyword) || false) := rfl
    rw [hlists, beq_self_eq_true, Bool.true_or]
  | exampleAttribute => rfl
  | sharedStyleAsset => rfl
  | sharedScriptAsset => rfl
  | configClass =>
    simp only [Rule.holds, hderived]
    exact Rule.declaresClass_append _ (configClass_ne_nil name c) hclass
  | configMethod method =>
    have hdefined : Php.definedFunctions (compliantBundle name c).config =
        Php.definedFunctions functionDefinitions ++ Php.definedFunctions ("class " ++ name.configClass c) :=
      Php.definedFunctions_barrier (by decide) _ _
    simp only [Rule.holds, hdefined, List.contains_eq_mem, decide_eq_true_eq]
    exact List.mem_append_left _ (definedFunctions_functionDefinitions method)
  | registrationInclude => rfl
  | localizedConfig => rfl
  | fileTimes => rfl
  | wrappedEditorScript => exact isWrapped_function _
  | editorConfig =>
    simp only [Rule.holds, hderived]
    exact Text.occurs_append_right _ (hself _)
  | noSharedRegistration =>
    simp only [Rule.holds, Bool.not_eq_true']
    rw [Bool.eq_false_iff]
    exact fun h => hglobal (Text.occurs_iff.1 h)
  | sharedConfig =>
    simp only [Rule.holds, hderived]
    exact hself _
  | renderInclude =>
    have hrequire : Php.includesConfig Fix.configRequire = true := by decide
    simp only [Rule.holds, compliantBundle, Php.includesConfig_barrier Php.outsideInclude_star,
      hrequire, Bool.true_or]
  | renderClass =>
    simp only [Rule.holds, hderived]
    exact Text.occurs_append_right _ (Text.occurs_append_right ['*'] (hself _))
  | classStart => exact hself _

/-- Exactly the names in the namespace whose class is one word and whose global variable does not
mention the registration of blocks are names of a bundle without violations; a class that is not one
word is reported for every bundle. -/
theorem exists_compliant_iff (c : Conventions) (identifier : Text) :
    let name := BlockName.derive identifier c
    ((∃ b : Bundle, b.metadata.keys.Nodup ∧
        b.metadata.get? "name" = some (.string identifier) ∧ b.violations c = []) ↔
      c.nameStart <+: identifier ∧
        (∀ ch ∈ name.configClass c, Text.isAlphanumeric ch = true ∨ ch = '_') ∧
        ¬ "registerBlockType".toList <:+: name.jsGlobal c) ∧
    ∀ b : Bundle, (∃ ch ∈ (b.name c).configClass c, Text.isAlphanumeric ch = false ∧ ch ≠ '_') →
      "SSOT008".toList ∈ b.codes c := by
  intro name
  refine ⟨⟨?_, ?_⟩, ?_⟩
  · rintro ⟨b, -, hget, hnone⟩
    have hholds := violations_eq_nil_iff.1 hnone
    have hstring : b.metadata.string? "name" = some identifier := by
      rw [Json.Fields.string?, hget]
      rfl
    have hname : b.name c = name := by
      unfold Bundle.name Bundle.identifier
      rw [hstring]
      rfl
    refine ⟨?_, ?_, ?_⟩
    · have hspace := hholds .nameInNamespace
      rw [Rule.holds, hstring] at hspace
      exact Text.startsWith_iff.1 hspace
    · have hclass := hholds .configClass
      rw [Rule.holds, hname] at hclass
      exact fun ch hch => Rule.separates_eq_false_iff.1 (Rule.separates_of_declaresClass hclass ch hch)
    · intro hmentions
      have hshared := hholds .sharedConfig
      have hnot := hholds .noSharedRegistration
      rw [Rule.holds, hname] at hshared
      rw [Rule.holds, Text.occurs_trans (Text.occurs_iff.2 hmentions) hshared] at hnot
      exact absurd hnot (by simp)
  · rintro ⟨hspace, hclass, hglobal⟩
    have hword : ∀ ch ∈ name.configClass c, Rule.separates ch = false :=
      fun ch hch => Rule.separates_eq_false_iff.2 (hclass ch hch)
    refine ⟨compliantBundle name c, ?_, rfl, violations_eq_nil_iff.2 fun rule => ?_⟩
    · change ["name".toList, "title", "category", "keywords", "attributes", "editorStyle",
        "viewScript"].Nodup
      decide
    · exact holds_compliantBundle rfl hspace hword hglobal rule
  · rintro b ⟨ch, hch, halphanumeric, hunderscore⟩
    have hcode : Rule.configClass.code = "SSOT008".toList := by decide +kernel
    rw [← hcode, Rule.code_mem_codes, Bool.eq_false_iff]
    intro hdeclares
    rcases Rule.separates_eq_false_iff.1 (Rule.separates_of_declaresClass hdeclares ch hch) with h | h
    · rw [halphanumeric] at h
      exact Bool.noConfusion h
    · exact hunderscore h

/-- A hyphen in the namespace stays in the name of the class. -/
example : '-' ∈ (BlockName.derive "my-ns/demo" { blockNamespace := "my-ns" }).configClass
    { blockNamespace := "my-ns" } := by decide

end BlockAudit
