import BlockAudit.Proofs.RenderSettles

/-!
# Namespaces that are declared already

A declaration of a namespace counts where it begins a line, with white space in front of it that may
cross lines. A documentation comment counts wherever it stands after the opening tag. A source that
declares a namespace behind its opening tag, on the line of the tag, is therefore given another one when
a comment follows.
-/

namespace BlockAudit

namespace Text

lemma occurs_cons_append {d : Char} {x : Text} (hx : d ∉ x) (v y : Text) :
    occurs (d :: v) (x ++ y) = occurs (d :: v) y := by
  rw [occurs_eq_occursIn, occurs_eq_occursIn]
  apply Reader.occursIn_append_of_none
  intro e he s
  have hde : d ≠ e := fun h => hx (h ▸ he)
  exact if_neg hde

end Text

namespace Php

/-- A character that the name of a namespace may begin with. -/
def isNamespaceStart (d : Char) : Bool := Text.isAsciiLetter d || d == '_' || d == '\\'

lemma isBlank_of_isNamespaceStart {d : Char} (h : isNamespaceStart d = true) :
    Text.isBlank d = false := by
  have hrange : (65 ≤ d.toNat ∧ d.toNat ≤ 90) ∨ (97 ≤ d.toNat ∧ d.toNat ≤ 122) ∨
      d = '_' ∨ d = '\\' := by
    simpa [isNamespaceStart, Text.isAsciiLetter, Char.le_def, UInt32.le_iff_toNat_le, or_assoc]
      using h
  rcases hrange with hupper | hlower | rfl | rfl
  · simp only [Text.isBlank, Bool.or_eq_false_iff, Bool.and_eq_false_iff, decide_eq_false_iff_not,
      beq_eq_false_iff_ne]
    omega
  · simp only [Text.isBlank, Bool.or_eq_false_iff, Bool.and_eq_false_iff, decide_eq_false_iff_not,
      beq_eq_false_iff_ne]
    omega
  · decide
  · decide

/-- A source that declares a namespace, with white space between the opening tag and the declaration. -/
def declaring (ws phpNamespace rest : Text) : Text :=
  openTag ++ (ws ++ ("namespace " ++ (phpNamespace ++ ';' :: rest)))

end Php

namespace Fix

open Reader Php

variable {name : BlockName} {c : Conventions}

/-- In the middle of a line a declaration is recognized in the lines that follow. -/
lemma declaresFrom_false_iff {s : Text} : declaresFrom false s = true ↔
    ∃ x y, s = x ++ '\n' :: y ∧ declaresNamespace y = true := by
  constructor
  · intro h
    induction s with
    | nil => exact absurd h (by decide)
    | cons d s ih =>
      by_cases hd : d = '\n'
      · rw [hd] at h ⊢
        exact ⟨[], s, rfl, h⟩
      · have hrest : declaresFrom false s = true := by
          rwa [← List.singleton_append, declaresFrom_append] at h
          simpa using Ne.symm hd
        obtain ⟨x, y, rfl, hy⟩ := ih hrest
        exact ⟨d :: x, y, rfl, hy⟩
  · rintro ⟨x, y, rfl, hy⟩
    exact declaresFrom_newline false x hy

lemma declaresNamespace_declaring {ws : Text} (hws : IsBlanks ws) {d : Char}
    (hd : isNamespaceStart d = true) (more rest : Text) :
    declaresNamespace (declaring ws (d :: more) rest) = true ↔
      '\n' ∈ ws ∨ declaresFrom false (d :: more ++ ';' :: rest) = true := by
  have htag (y : Text) : declaresNamespace (openTag ++ y) = declaresFrom false y :=
    declaresFrom_append (x := "?php") (by decide) y
  unfold declaring
  rw [htag]
  by_cases hline : '\n' ∈ ws
  · obtain ⟨x, z, rfl⟩ := List.append_of_mem hline
    have hz : IsBlanks z := fun e he => hws e (List.mem_append_right x (List.mem_cons_of_mem _ he))
    have hread :=
      isSome_namespaceDeclaration hz (isBlank_of_isNamespaceStart hd) hd (more ++ ';' :: rest)
    refine iff_of_true ?_ (.inl hline)
    rw [List.append_assoc, List.cons_append, List.cons_append]
    exact declaresFrom_newline false x (declaresFrom_of_isSome hread)
  · rw [declaresFrom_append hline, declaresFrom_append (by decide)]
    simp [hline]

lemma hasDocComment_declaring {ws : Text} (hws : IsBlanks ws) (phpNamespace rest : Text) :
    hasDocComment (declaring ws phpNamespace rest) =
      Text.occurs "/**" (phpNamespace ++ ';' :: rest) := by
  have hcut (y : Text) : Text.cut? openTag (openTag ++ y) = some ([], y) :=
    Text.cut?_eq_some_iff.2 ⟨rfl, fun _ _ _ => Nat.zero_le _⟩
  unfold hasDocComment declaring
  rw [hcut]
  have hslash : '/' ∉ ws := hws.notMem (by decide)
  exact (Text.occurs_cons_append hslash _ _).trans (Text.occurs_cons_append (by decide) _ _)

/-- A declared namespace is left alone exactly in these cases: the block has no slug, there is a line
break in front of the declaration, another one begins a line further down, or there is no comment. -/
theorem renderNamespace_declaring_iff {ws : Text} (hws : IsBlanks ws) {d : Char}
    (hd : isNamespaceStart d = true) (more rest : Text) :
    renderNamespace name c (declaring ws (d :: more) rest) = none ↔
      name.slug = [] ∨ '\n' ∈ ws ∨
        (∃ x y, d :: more ++ ';' :: rest = x ++ '\n' :: y ∧ declaresNamespace y = true) ∨
        Text.occurs "/**" (d :: more ++ ';' :: rest) = false := by
  rw [renderNamespace_eq_none_iff, declaresNamespace_declaring hws hd, declaresFrom_false_iff,
    hasDocComment_declaring hws, List.isEmpty_iff, or_assoc]

/-- A declaration on a line of its own is left alone, and the same one behind the opening tag is not. -/
theorem renderNamespace_declaring_demo :
    let name : BlockName := .derive "cm/demo" {}
    let onNextLine := declaring "\n" "Acme\\Demo" "\n/** doc */"
    let onSameLine := declaring " " "Acme\\Demo" "\n/** doc */"
    IsBlanks "\n" ∧ IsBlanks " " ∧ isNamespaceStart 'A' = true ∧
      renderNamespace name {} onNextLine = none ∧
      renderNamespace name {} onSameLine ≠ none := by
  intro name onNextLine onSameLine
  have hfeed : IsBlanks "\n" := by decide
  have hspace : IsBlanks " " := by decide
  have hletter : isNamespaceStart 'A' = true := by decide
  refine ⟨hfeed, hspace, hletter, ?_, ?_⟩
  · apply (renderNamespace_declaring_iff hfeed hletter "cme\\Demo" "\n/** doc */").2
    exact .inr (.inl List.mem_cons_self)
  · intro hnone
    rcases (renderNamespace_declaring_iff hspace hletter "cme\\Demo" "\n/** doc */").1 hnone with
      hslug | hbreak | hbelow | hcomment
    · exact absurd hslug (by decide)
    · exact absurd hbreak (by decide)
    · exact absurd (declaresFrom_false_iff.2 hbelow) (by decide)
    · exact absurd hcomment (by decide)

/-- A source that has a namespace may be given another one. -/
theorem not_renderNamespace_declaring_kept :
    ¬ ∀ (name : BlockName) (c : Conventions) (ws phpNamespace rest : Text),
      ws ≠ [] → IsBlanks ws → (∃ d more, phpNamespace = d :: more ∧ isNamespaceStart d = true) →
      renderNamespace name c (declaring ws phpNamespace rest) = none := by
  intro h
  have hkept := h (.derive "cm/demo" {}) {} " " "Acme\\Demo" "\n/** doc */" (by decide) (by decide)
    ⟨'A', "cme\\Demo", rfl, by decide⟩
  have hinserted : (renderNamespace (.derive "cm/demo" {}) {}
      (declaring " " "Acme\\Demo" "\n/** doc */")).map Prod.fst =
        some ("<?php namespace Acme\\Demo;\n\n" ++
          "namespace CompuMatter\\Blocks\\Demo;\n\n/** doc */" : Text) := by
    decide +kernel
  rw [hkept] at hinserted
  exact absurd hinserted (by simp)

end Fix

end BlockAudit
