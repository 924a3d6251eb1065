import BlockAudit.Proofs.FixedNames

/-!
# Entries of the configuration

The fix of the configuration writes the block's name into every entry that a scan finds. A scan of the
fixed configuration finds these entries and no others, with the texts around them as they were.

The value of an entry is taken to end at the first quote of either kind. A literal without quotes in it is
replaced as a whole. One with the other quote in it, such as a double quote between single ones, is
not: what follows that quote stays behind, and the closing quote with it.
-/

namespace BlockAudit

deriving instance DecidableEq for Piece

namespace Reader

variable {read : Reader} {x y s t : Text} {pieces : List (Piece Text)}

/-- A scan finds one match in the text, and it begins behind `x`. -/
def SoleMatch (read : Reader) (x s : Text) : Prop :=
  ∃ m t : Text, read.matched.scan none s = x.map .gap ++ .hit m :: t.map .gap

/-- A scan reads a match off the start of a text, or passes its first character. -/
lemma scan_cases (hread : Consumes read) (c : Char) (s : Text) :
    read.matched.scan none (c :: s) = .gap c :: read.matched.scan none s ∨
      ∃ m t, c :: s = m ++ t ∧ read (c :: s) = some t ∧
        read.matched.scan none (c :: s) = .hit m :: read.matched.scan none t := by
  cases hc : read (c :: s) with
  | none => exact .inl (scan_cons hc)
  | some t =>
    obtain ⟨m, hm, hs⟩ := hread _ _ hc
    refine .inr ⟨m, t, hs, rfl, ?_⟩
    rw [hs] at hc ⊢
    exact scan_match hm hc

lemma exists_of_scan_hit (hread : Consumes read) {m : Text}
    (h : read.matched.scan none s = .hit m :: pieces) :
    ∃ t, s = m ++ t ∧ read s = some t ∧ read.matched.scan none t = pieces := by
  cases s with
  | nil =>
    rw [Pattern.scan] at h
    exact absurd h (by simp)
  | cons c s =>
    rcases scan_cases hread c s with hgap | ⟨m', t, hs, ht, hhit⟩
    · rw [hgap] at h
      exact absurd h (by simp)
    · rw [hhit] at h
      obtain ⟨hm, hpieces⟩ := List.cons.inj h
      obtain rfl := Piece.hit.inj hm
      exact ⟨t, hs, ht, hpieces⟩

lemma exists_of_scan_gaps (hread : Consumes read)
    (h : read.matched.scan none s = x.map .gap ++ pieces) :
    ∃ y, s = x ++ y ∧ read.matched.scan none y = pieces := by
  induction x generalizing s with
  | nil => exact ⟨s, rfl, h⟩
  | cons c x ih =>
    cases s with
    | nil =>
      rw [Pattern.scan] at h
      exact absurd h (by simp)
    | cons d s =>
      rcases scan_cases hread d s with hgap | ⟨m, t, -, -, hhit⟩
      · rw [hgap, List.map_cons, List.cons_append] at h
        obtain ⟨hd, hrest⟩ := List.cons.inj h
        obtain rfl := Piece.gap.inj hd
        obtain ⟨y, rfl, hy⟩ := ih hrest
        exact ⟨y, rfl, hy⟩
      · rw [hhit] at h
        exact absurd h (by simp)

lemma eq_of_scan_gaps (hread : Consumes read) (h : read.matched.scan none t = x.map .gap) : t = x := by
  obtain ⟨y, rfl, hy⟩ := exists_of_scan_gaps hread (h.trans (List.append_nil _).symm)
  cases y with
  | nil => exact List.append_nil x
  | cons c y =>
    rcases scan_cases hread c y with hgap | ⟨m, t, -, -, hhit⟩
    · exact absurd (hgap.symm.trans hy) (by simp)
    · exact absurd (hhit.symm.trans hy) (by simp)

/-- Of a text with one match everything in front of the match and behind it is kept. -/
lemma SoleMatch.replaceAll_eq (hread : Consumes read) (h : SoleMatch read x (x ++ y))
    (hy : read y = some t) (replacement : Text) :
    read.replaceAll replacement (x ++ y) = x ++ (replacement ++ t) := by
  obtain ⟨m, rest, hscan⟩ := h
  obtain ⟨y', hxy, hrest⟩ := exists_of_scan_gaps hread hscan
  obtain rfl := List.append_cancel_left hxy
  obtain ⟨t', -, ht', htail⟩ := exists_of_scan_hit hread hrest
  obtain rfl : t = t' := Option.some.inj (hy.symm.trans ht')
  obtain rfl := eq_of_scan_gaps hread htail
  simp only [replaceAll, Pattern.replaceAll, hscan, List.flatMap_append, List.flatMap_map,
    List.flatMap_cons, List.flatMap_singleton']

end Reader

namespace Php

open Reader

/-- What is left of a literal between two quotes `q` when it is taken to end at the first quote of either
kind. -/
def remnant (q : Char) (content : Text) : Text :=
  ((content ++ [q]).dropWhile fun c => !isQuote c).tail

lemma exists_remnant {q : Char} (hq : isQuote q = true) (content : Text) :
    ∃ value q', Free isQuote value ∧ isQuote q' = true ∧
      content ++ [q] = value ++ q' :: remnant q content := by
  obtain ⟨value, q', rest, hvalue, hq', heq⟩ := exists_first_quote content hq []
  have hpass : ∀ c ∈ value, (!isQuote c) = true := fun c hc => by rw [hvalue c hc, Bool.not_false]
  have hstop : (!isQuote q') = false := by rw [hq', Bool.not_true]
  have hremnant : remnant q content = rest := by
    rw [remnant, heq, List.dropWhile_append_of_pos hpass, List.dropWhile_cons, hstop]
    rfl
  exact ⟨value, q', hvalue, hq', by rw [hremnant, heq]⟩

lemma remnant_eq_nil_iff {q : Char} (hq : isQuote q = true) (content : Text) :
    remnant q content = [] ↔ Free isQuote content := by
  constructor
  · intro hnil
    obtain ⟨value, q', hvalue, -, heq⟩ := exists_remnant hq content
    rw [hnil] at heq
    rwa [(List.append_inj' heq rfl).1]
  · intro hfree
    have hpass : ∀ c ∈ content, (!isQuote c) = true := fun c hc => by rw [hfree c hc, Bool.not_false]
    have hstop : (!isQuote q) = false := by rw [hq, Bool.not_true]
    rw [remnant, List.dropWhile_append_of_pos hpass, List.dropWhile_cons, hstop]
    rfl

/-- A literal is read up to the first quote in it, and its remnant is not. -/
lemma quoted_literal {q : Char} (hq : isQuote q = true) (content t : Text) :
    quoted (q :: (content ++ q :: t)) = some (remnant q content ++ t) := by
  obtain ⟨value, q', hvalue, hq', heq⟩ := exists_remnant hq content
  have hsplit : content ++ q :: t = value ++ q' :: (remnant q content ++ t) := by
    rw [← List.singleton_append, ← List.append_assoc, heq, List.append_assoc, List.cons_append]
  rw [hsplit, quoted_append hq hq' hvalue]

lemma blockNameEntry_literal {q : Char} (hq : isQuote q = true) (content t : Text) :
    blockNameEntry ("'BLOCK_NAME' => " ++ q :: (content ++ q :: t)) =
      some (remnant q content ++ t) := by
  have hread := quoted_literal hq content t
  rw [blockNameEntry_eq]
  rcases of_decide_eq_true hq with rfl | rfl
  · exact hread
  · exact hread

end Php

namespace Fix

open Reader Php

variable {name : BlockName}

/-- A scan of the fixed configuration finds as many entries as there were, each with the block's name
between single quotes, and the texts before, between and after them are the old ones. A name that would
need escapes is not written. -/
theorem entries_fixConfig (name : BlockName) (source : Text) :
    if name.isLiteralSafe then
      blockNameEntry.matched.hits (fixConfig name source) =
          List.replicate (blockNameEntry.matched.hits source).length
            ("'BLOCK_NAME' => '" ++ name.identifier ++ ['\'']) ∧
        blockNameEntry.matched.gaps (fixConfig name source) = blockNameEntry.matched.gaps source
    else fixConfig name source = source := by
  rw [fixConfig_eq]
  cases hsafe : name.isLiteralSafe with
  | false => rfl
  | true =>
    have hscan := scan_entryWith (free_identifier hsafe) source
    exact ⟨Pattern.hits_of_scan_put hscan, Pattern.gaps_of_scan_put hscan⟩

/-- A text with an entry in it, whose value is a literal between two quotes `q`. -/
def withLiteral (before : Text) (q : Char) (content after : Text) : Text :=
  before ++ ("'BLOCK_NAME' => " ++ q :: (content ++ q :: after))

/-- The entry of a configuration that has no other is replaced, and the remnant of its literal is kept. So
the literal is replaced as a whole exactly when there is no quote of either kind in it. -/
theorem fixConfig_withLiteral {q : Char} {content before after : Text}
    (hsafe : name.isLiteralSafe = true) (hq : q = '\'' ∨ q = '"')
    (hsole : SoleMatch blockNameEntry before (withLiteral before q content after)) :
    let fixed := fixConfig name (withLiteral before q content after)
    let entry := "'BLOCK_NAME' => '" ++ name.identifier ++ ['\'']
    fixed = before ++ (entry ++ (remnant q content ++ after)) ∧
      (fixed = before ++ (entry ++ after) ↔ '\'' ∉ content ∧ '"' ∉ content) := by
  intro fixed entry
  have hquote : isQuote q = true := decide_eq_true hq
  have hfixed : fixed = before ++ (entry ++ (remnant q content ++ after)) := by
    have hread := blockNameEntry_literal hquote content after
    change fixConfig name _ = _
    rw [fixConfig_eq, if_pos hsafe]
    exact hsole.replaceAll_eq consumes_blockNameEntry hread entry
  have hfree : Free isQuote content ↔ '\'' ∉ content ∧ '"' ∉ content := by
    constructor
    · intro h
      exact ⟨fun hmem => absurd (h _ hmem) (by decide), fun hmem => absurd (h _ hmem) (by decide)⟩
    · rintro ⟨hsingle, hdouble⟩ c hc
      refine decide_eq_false ?_
      rintro (rfl | rfl)
      · exact hsingle hc
      · exact hdouble hc
  refine ⟨hfixed, ?_⟩
  rw [hfixed, List.append_cancel_left_eq, List.append_cancel_left_eq, ← hfree,
    ← remnant_eq_nil_iff hquote]
  exact List.append_left_eq_self

/-- The literal `'demo'` is replaced as a whole. Of `'my "demo"'` the last six characters are kept. -/
theorem fixConfig_withLiteral_demo :
    let name : BlockName := .derive "cm/demo" {}
    let before : Text := "<?php return array( "
    let after : Text := ", 'X' => 1 );"
    let entry : Text := "'BLOCK_NAME' => 'cm/demo'"
    name.isLiteralSafe = true ∧
      SoleMatch blockNameEntry before (withLiteral before '\'' "demo" after) ∧
      fixConfig name (withLiteral before '\'' "demo" after) = before ++ (entry ++ after) ∧
      SoleMatch blockNameEntry before (withLiteral before '\'' "my \"demo\"" after) ∧
      fixConfig name (withLiteral before '\'' "my \"demo\"" after) =
        before ++ (entry ++ ("demo\"'" ++ after)) := by
  intro name before after entry
  have hsafe : name.isLiteralSafe = true := by decide
  have hwhole : SoleMatch blockNameEntry before (withLiteral before '\'' "demo" after) :=
    ⟨"'BLOCK_NAME' => 'demo'", after, by decide +kernel⟩
  have hpart : SoleMatch blockNameEntry before (withLiteral before '\'' "my \"demo\"" after) :=
    ⟨"'BLOCK_NAME' => 'my \"", "demo\"'" ++ after, by decide +kernel⟩
  exact ⟨hsafe, hwhole, (fixConfig_withLiteral hsafe (.inl rfl) hwhole).1, hpart,
    (fixConfig_withLiteral hsafe (.inl rfl) hpart).1⟩

/-- A double quote between single ones ends the value, and the rest of the literal is left behind. -/
theorem not_fixConfig_withLiteral_whole :
    ¬ ∀ (name : BlockName) (q : Char) (content before after : Text), name.isLiteralSafe = true →
      (q = '\'' ∨ q = '"') → q ∉ content → '\\' ∉ content →
      SoleMatch blockNameEntry before (withLiteral before q content after) →
      fixConfig name (withLiteral before q content after) =
        before ++ ("'BLOCK_NAME' => '" ++ name.identifier ++ ['\''] ++ after) := by
  intro h
  have hfixed := h (.derive "cm/demo" {}) '\'' "my \"demo\"" "<?php return array( " ", 'X' => 1 );"
    (by decide) (.inl rfl) (by decide) (by decide)
    ⟨"'BLOCK_NAME' => 'my \"", "demo\"', 'X' => 1 );", by decide +kernel⟩
  revert hfixed
  decide +kernel

end Fix

end BlockAudit
