import BlockAudit.Proofs.RenderSettles

/-!
# What the fixes of the render callback insert

Two of the three fixes of the render callback insert one text each, at a place that is described by what
comes first in the source: the line of the first opening tag, and the first documentation comment after
that tag. The third one replaces wrapper classes that are escaped as they are, and leaves none of them.
-/

namespace BlockAudit

namespace Fix

open Reader Php

variable {name : BlockName} {c : Conventions} {source : Text}

/-- The second source is the first one with every text of some that escape raw wrapper classes joined, and
all else in it as it was. -/
def JoinsClasses (source new : Text) : Prop :=
  ∃ pieces : List (Piece Text), (∀ m, .hit m ∈ pieces → IsRawClasses m) ∧
    source = pieces.flatMap Piece.text ∧
    new = (pieces.map (Piece.put joinedWrapperClasses)).flatMap Piece.text

lemma joinsClasses_joinWrapperClasses (source : Text) :
    JoinsClasses source (joinWrapperClasses source) := by
  refine ⟨rawWrapperClasses.matched.scan none source, fun m hm => ?_, ?_, ?_⟩
  · obtain ⟨t, ht⟩ := exists_of_mem_scan consumes_rawWrapperClasses hm
    exact isRawClasses_of_rawWrapperClasses ht
  · exact (flatMap_text_scan consumes_rawWrapperClasses source).symm
  · exact (flatMap_text_put joinedWrapperClasses source).symm

lemma not_infix_joinWrapperClasses {m : Text} (hm : IsRawClasses m) :
    ¬ m <:+: joinWrapperClasses source := by
  rintro ⟨x, t, heq⟩
  have hne : m ≠ [] := by
    obtain ⟨ws, ws', -, -, rfl⟩ := hm
    exact List.append_ne_nil_of_left_ne_nil (by decide) _
  have hsuffix : m ++ t <:+ joinWrapperClasses source := ⟨x, by rw [← heq, List.append_assoc]⟩
  have hnone := misses_joinWrapperClasses source (m ++ t) (by simp [hne]) hsuffix
  rw [List.append_nil, hm.read t] at hnone
  exact absurd hnone (by simp)

lemma leaves_of_iff {α : Type} {old : α} {change : Option (α × Text)} {due : Prop} [Decidable due]
    {Changed : α → Prop} (hnone : change = none ↔ ¬ due)
    (hsome : ∀ new words, change = some (new, words) → Changed new) :
    if due then Changed (leaves old change) else leaves old change = old := by
  by_cases h : due
  · rw [if_pos h]
    cases hchange : change with
    | none => exact absurd h (hnone.1 hchange)
    | some pair => exact hsome pair.1 pair.2 hchange
  · rw [if_neg h, hnone.2 h, leaves_none]

/-- The configuration is loaded on a line of its own if it was not and there is an opening tag. After that
a namespace is declared in front of the documentation comment if there is one and none was declared.
Nothing else is inserted. After that raw wrapper classes are joined, and there are none left. In the end the
configuration is loaded if it was at the beginning, or if its loading was inserted. -/
theorem render_insertions (name : BlockName) (c : Conventions) (source : Text) :
    let loaded := leaves source (renderConfigInclude source)
    let declared := leaves loaded (renderNamespace name c loaded)
    let joined := leaves declared (wrapperClassesJoin declared)
    (if includesConfig source = false ∧ Text.occurs openTag source = true then
        LoadsBehindTag source loaded
      else loaded = source) ∧
    (if name.slug ≠ [] ∧ declaresNamespace loaded = false ∧ hasDocComment loaded = true then
        DeclaresBeforeComment (name.phpNamespace c) loaded declared
      else declared = loaded) ∧
    (JoinsClasses declared joined ∧ ∀ m, IsRawClasses m → ¬ m <:+: joined) ∧
    (includesConfig joined = true ↔
      includesConfig source = true ∨
        includesConfig source = false ∧ Text.occurs openTag source = true) := by
  intro loaded declared joined
  have hjoined : joined = joinWrapperClasses declared := leaves_wrapperClassesJoin
  refine ⟨?_, ?_, ?_, ?_⟩
  · apply leaves_of_iff
    · rw [renderConfigInclude_eq_none_iff, not_and_or, Bool.not_eq_false, Bool.not_eq_true]
    · intro new words hchange
      exact loadsBehindTag_of_renderConfigInclude hchange
  · apply leaves_of_iff
    · rw [renderNamespace_eq_none_iff, not_and_or, not_and_or, ne_eq, not_not, List.isEmpty_iff,
        Bool.not_eq_false, Bool.not_eq_true]
    · intro new words hchange
      exact declaresBeforeComment_of_renderNamespace hchange
  · rw [hjoined]
    exact ⟨joinsClasses_joinWrapperClasses declared, fun m hm => not_infix_joinWrapperClasses hm⟩
  · have hfixed : joined = fixRender name c source := hjoined
    rw [hfixed, ← Bool.not_eq_false, includesConfig_fixRender, not_and_or, Bool.not_eq_false,
      Bool.not_eq_false]
    cases includesConfig source with
    | true => simp
    | false => simp

/-- The line of the opening tag may be the line of the comment. -/
example :
    fixRender (.derive "cm/demo" {}) {} "<?php /** doc */ echo esc_attr( $wrapper_classes );\n" =
      ("<?php\n\nnamespace CompuMatter\\Blocks\\Demo;\n /** doc */ echo " ++
        "esc_attr( implode( ' ', $wrapper_classes ) );\nrequire_once __DIR__ . '/config.php';\n" : Text) := by
  decide +kernel

end Fix

end BlockAudit
