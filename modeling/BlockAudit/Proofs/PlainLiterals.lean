import BlockAudit.Proofs.Declarations
import BlockAudit.Proofs.RegistrationDirs

/-!
# Literals without code

The fix of the configuration and the fix of the registration write over the literals that hold the
block's name. What the rules look for in these sources stays where it is as long as it does not begin in
such a literal.
-/

namespace BlockAudit

namespace Text

lemma occurs_eq_false_of_infix {w part s : Text} (hpart : part <:+: s) (h : occurs w s = false) :
    occurs w part = false := by
  rw [← Bool.not_eq_true, occurs_iff] at h ⊢
  exact fun hw => h (hw.trans hpart)

end Text

namespace Php

open Reader

variable {m t : Text}

lemma quoted_eq_some {s : Text} (h : quoted s = some t) :
    ∃ q content q', isQuote q = true ∧ Free isQuote content ∧ isQuote q' = true ∧
      s = q :: (content ++ q' :: t) := by
  unfold quoted at h
  simp only [seq_cons, seq_nil, Option.bind_eq_some_iff, Option.some.injEq] at h
  obtain ⟨s₁, h₁, s₂, h₂, s₃, h₃, rfl⟩ := h
  obtain ⟨q, hq, rfl⟩ := one_eq_some_iff.1 h₁
  obtain ⟨content, hcontent, rfl⟩ := many_eq_some h₂
  obtain ⟨q', hq', rfl⟩ := one_eq_some_iff.1 h₃
  have hfree : Free isQuote content := by
    intro c hc
    have h := hcontent c hc
    simp only [decide_eq_true_eq] at h
    simp [isQuote, h.1, h.2]
  exact ⟨q, content, q', hq, hfree, hq', rfl⟩

/-- The text is an entry of the configuration: the key and the content stand between quotes. -/
def IsEntry (m arrow content : Text) : Prop :=
  ∃ q₁ q₂ q₃ q₄, (isQuote q₁ = true ∧ isQuote q₂ = true ∧ isQuote q₃ = true ∧ isQuote q₄ = true) ∧
    m = q₁ :: ("BLOCK_NAME" ++ q₂ :: (arrow ++ q₃ :: (content ++ [q₄])))

/-- The text is a call that registers a block, up to the quote behind the block's name. -/
def IsCall (m inner : Text) : Prop :=
  ∃ q, isQuote q = true ∧ m = "register_block_type(" ++ (inner ++ [q])

lemma isEntry_of_blockNameEntry (h : blockNameEntry (m ++ t) = some t) :
    ∃ arrow content, Free isQuote arrow ∧ Free isQuote content ∧ IsEntry m arrow content := by
  unfold blockNameEntry at h
  simp only [seq_cons, seq_nil, Option.bind_eq_some_iff, Option.some.injEq] at h
  obtain ⟨s₁, h₁, s₂, h₂, s₃, h₃, s₄, h₄, s₅, h₅, s₆, h₆, s₇, h₇, rfl⟩ := h
  obtain ⟨q₁, hq₁, hm⟩ := one_eq_some_iff.1 h₁
  obtain ⟨q₂, hq₂, rfl⟩ := one_eq_some_iff.1 h₃
  obtain ⟨ws, hws, rfl⟩ := blanks_eq_some h₄
  obtain ⟨ws', hws', rfl⟩ := blanks_eq_some h₆
  obtain ⟨q₃, content, q₄, hq₃, hcontent, hq₄, rfl⟩ := quoted_eq_some h₇
  have harrow : Free isQuote (ws ++ (("=>" : Text) ++ ws')) :=
    (free_isQuote_blanks hws).append (Free.append (by decide) (free_isQuote_blanks hws'))
  have hparts : m ++ s₇ = q₁ :: (("BLOCK_NAME" : Text) ++ q₂ :: ((ws ++ (("=>" : Text) ++ ws')) ++
      q₃ :: (content ++ [q₄]))) ++ s₇ := by
    rw [hm, word_eq_some_iff.1 h₂, word_eq_some_iff.1 h₅]
    simp only [List.append_assoc, List.cons_append, List.nil_append]
  exact ⟨_, content, harrow, hcontent, q₁, q₂, q₃, q₄, ⟨hq₁, hq₂, hq₃, hq₄⟩,
    List.append_cancel_right hparts⟩

lemma isCall_of_registerCall (h : registerCall (m ++ t) = some t) :
    ∃ inner, IsCall m inner ∧
      ∃ ws q content, IsBlanks ws ∧ isQuote q = true ∧ Free isQuote content ∧
        inner = ws ++ q :: content := by
  rw [registerCall_eq, Option.bind_eq_some_iff] at h
  obtain ⟨s₁, h₁, h⟩ := h
  obtain ⟨s₂, h₂, hquoted⟩ := Option.bind_eq_some_iff.1 h
  obtain ⟨ws, hws, rfl⟩ := blanks_eq_some h₂
  obtain ⟨q, content, q', hq, hcontent, hq', rfl⟩ := quoted_eq_some hquoted
  have hparts : m ++ t =
      ("register_block_type(" : Text) ++ ((ws ++ q :: content) ++ [q']) ++ t := by
    rw [word_eq_some_iff.1 h₁]
    simp only [List.append_assoc, List.cons_append, List.nil_append]
  exact ⟨ws ++ q :: content, ⟨q', hq', List.append_cancel_right hparts⟩, ws, q, content, hws, hq,
    hcontent, rfl⟩

lemma IsEntry.infix_arrow {arrow content : Text} (h : IsEntry m arrow content) : arrow <:+: m := by
  obtain ⟨q₁, q₂, q₃, q₄, -, rfl⟩ := h
  exact ⟨q₁ :: ("BLOCK_NAME" ++ [q₂]), q₃ :: (content ++ [q₄]), by simp⟩

lemma IsEntry.infix_content {arrow content : Text} (h : IsEntry m arrow content) :
    content <:+: m := by
  obtain ⟨q₁, q₂, q₃, q₄, -, rfl⟩ := h
  exact ⟨q₁ :: ("BLOCK_NAME" ++ q₂ :: (arrow ++ [q₃])), [q₄], by simp⟩

lemma IsEntry.append {arrow content : Text} (h : IsEntry m arrow content) (x t : Text) :
    ∃ q₁ q₂ q₃ q₄,
      (isQuote q₁ = true ∧ isQuote q₂ = true ∧ isQuote q₃ = true ∧ isQuote q₄ = true) ∧
      x ++ (m ++ t) = x ++ q₁ :: ("BLOCK_NAME" ++ q₂ :: (arrow ++ q₃ :: (content ++ q₄ :: t))) := by
  obtain ⟨q₁, q₂, q₃, q₄, hq, rfl⟩ := h
  refine ⟨q₁, q₂, q₃, q₄, hq, ?_⟩
  simp only [List.append_assoc, List.cons_append, List.nil_append]

lemma definedFunctions_entry {arrow content : Text} (h : IsEntry m arrow content) (x t : Text) :
    definedFunctions (x ++ (m ++ t)) =
      definedFunctions x ++
        (definedFunctions arrow ++ (definedFunctions content ++ definedFunctions t)) := by
  obtain ⟨q₁, q₂, q₃, q₄, ⟨hq₁, hq₂, hq₃, hq₄⟩, heq⟩ := h.append x t
  have hkey : definedFunctions "BLOCK_NAME" = [] := definedFunctions_eq_nil (by decide)
  rw [heq, definedFunctions_barrier hq₁, definedFunctions_barrier hq₂,
    definedFunctions_barrier hq₃, definedFunctions_barrier hq₄, hkey, List.nil_append]

lemma separates_of_isQuote {q : Char} (hq : isQuote q = true) : Rule.separates q = true := by
  rcases of_decide_eq_true hq with rfl | rfl <;> decide

lemma sourceWords_entry {arrow content : Text} (h : IsEntry m arrow content) (x t : Text) :
    Rule.sourceWords (x ++ (m ++ t)) = Rule.sourceWords x ++ ("BLOCK_NAME" : Text) ::
      ((Rule.sourceWords arrow ++ Rule.sourceWords content) ++ Rule.sourceWords t) := by
  obtain ⟨q₁, q₂, q₃, q₄, ⟨hq₁, hq₂, hq₃, hq₄⟩, heq⟩ := h.append x t
  have hkey : Rule.sourceWords "BLOCK_NAME" = [("BLOCK_NAME" : Text)] := by decide
  rw [heq, Rule.sourceWords_barrier (separates_of_isQuote hq₁),
    Rule.sourceWords_barrier (separates_of_isQuote hq₂),
    Rule.sourceWords_barrier (separates_of_isQuote hq₃),
    Rule.sourceWords_barrier (separates_of_isQuote hq₄), hkey, List.append_assoc]
  rfl

lemma occurs_call {inner w : Text} (h : IsCall m inner) (hb : 'b' ∉ w) (hw : Free isQuote w)
    (x t : Text) :
    Text.occurs w (x ++ (m ++ t)) = (Text.occurs w (x ++ "register_") ||
      (Text.occurs w ("lock_type(" ++ inner) || Text.occurs w t)) := by
  obtain ⟨q, hq, rfl⟩ := h
  have hquote : q ∉ w := notMem_of_isQuote hq hw
  have hwords : ("register_block_type(" : Text) = "register_" ++ 'b' :: "lock_type(" := rfl
  have hparts : x ++ (("register_block_type(" : Text) ++ (inner ++ [q]) ++ t) =
      (x ++ "register_") ++ 'b' :: (("lock_type(" ++ inner) ++ q :: t) := by
    rw [hwords]
    simp only [List.append_assoc, List.cons_append, List.nil_append]
  rw [hparts, Text.occurs_barrier hb, Text.occurs_barrier hquote]

/-- The statement that loads the configuration stands before a call, or begins in it or behind it. -/
lemma includesConfig_call {inner : Text} (h : IsCall m inner) (x t : Text) :
    ∃ q, isQuote q = true ∧ includesConfig (x ++ (m ++ t)) =
      (includesConfig (x ++ "regi") || includesConfig (("ter_block_type(" ++ inner) ++ q :: t)) := by
  obtain ⟨q, hq, rfl⟩ := h
  have hwords : ("register_block_type(" : Text) = "regi" ++ 's' :: "ter_block_type(" := rfl
  have hparts : x ++ (("register_block_type(" : Text) ++ (inner ++ [q]) ++ t) =
      (x ++ "regi") ++ 's' :: (("ter_block_type(" ++ inner) ++ q :: t) := by
    rw [hwords]
    simp only [List.append_assoc, List.cons_append, List.nil_append]
  exact ⟨q, hq, by rw [hparts, includesConfig_barrier outsideInclude_s]⟩

/-- No statement begins in a text without its first words when a quote follows the text. -/
lemma includesConfig_behind {u : Text} {q : Char} (hq : isQuote q = true)
    (hrequire : Text.occurs "require" u = false) (hinclude : Text.occurs "include" u = false)
    (t : Text) : includesConfig (u ++ q :: t) = includesConfig t := by
  have hnone {w : Text} (hw : Free isQuote w) {v : Text} (hv : Text.occurs w v = false) :
      word w (v ++ q :: t) = none := by
    rw [stops_word_of_isQuote hq hw]
    cases hread : word w v with
    | none => rfl
    | some rest =>
      rw [word_eq_some_iff.1 hread, Text.occurs_self_append] at hv
      exact Bool.noConfusion hv
  have hfails {v : Text} (hr : Text.occurs "require" v = false)
      (hi : Text.occurs "include" v = false) : configInclude (v ++ q :: t) = none := by
    unfold configInclude
    rw [seq_cons, either, hnone (by decide) hr, hnone (by decide) hi]
    rfl
  unfold includesConfig
  induction u with
  | nil =>
    have hquote := hfails hrequire hinclude
    rw [List.nil_append] at hquote ⊢
    rw [occursIn, hquote]
    rfl
  | cons c u ih =>
    have hhere := hfails hrequire hinclude
    rw [Text.occurs, Bool.or_eq_false_iff] at hrequire hinclude
    rw [List.cons_append] at hhere ⊢
    rw [occursIn, hhere, ih hrequire.2 hinclude.2]
    rfl

end Php

namespace Fix

open Reader

variable {name : BlockName} {source : Text}

/-! ### The configuration -/

lemma isEntry_entryWith (content : Text) : Php.IsEntry (entryWith content) " => " content := by
  have hquote : Php.isQuote '\'' = true := by decide
  have hentry := entryWith_append content []
  rw [List.append_nil] at hentry
  exact ⟨'\'', '\'', '\'', '\'', ⟨hquote, hquote, hquote, hquote⟩, hentry⟩

lemma mem_definedFunctions_fixConfig {function : Text}
    (hs : ∀ m ∈ Php.blockNameEntry.matched.hits source, Text.occurs "function" m = false)
    (h : function ∈ Php.definedFunctions source) :
    function ∈ Php.definedFunctions (fixConfig name source) := by
  rw [fixConfig_eq]
  split
  · refine kept_replaceAll (entryWith name.identifier) Php.consumes_blockNameEntry
      (fun s => function ∈ Php.definedFunctions s) (fun m => Text.occurs "function" m = false)
      (fun x m t t' hm hplain ht h => ?_) hs h
    obtain ⟨arrow, content, -, -, hentry⟩ := Php.isEntry_of_blockNameEntry hm
    have harrow : Php.definedFunctions arrow = [] :=
      Php.definedFunctions_eq_nil (Text.occurs_eq_false_of_infix hentry.infix_arrow hplain)
    have hcontent : Php.definedFunctions content = [] :=
      Php.definedFunctions_eq_nil (Text.occurs_eq_false_of_infix hentry.infix_content hplain)
    rw [Php.definedFunctions_entry hentry, harrow, hcontent, List.nil_append, List.nil_append,
      List.mem_append] at h
    rw [Php.definedFunctions_entry (isEntry_entryWith _)]
    simp only [List.mem_append]
    rcases h with hx | h
    · exact .inl hx
    · exact .inr (.inr (.inr (ht h)))
  · exact h

lemma declaresClass_fixConfig {className : Text}
    (hs : ∀ m ∈ Php.blockNameEntry.matched.hits source, Text.occurs "class" m = false)
    (h : Rule.declaresClass source className = true) :
    Rule.declaresClass (fixConfig name source) className = true := by
  rw [fixConfig_eq]
  split
  · refine kept_replaceAll (entryWith name.identifier) Php.consumes_blockNameEntry
      (fun s => Rule.declaresClass s className = true) (fun m => Text.occurs "class" m = false)
      (fun x m t t' hm hplain ht h => ?_) hs h
    obtain ⟨arrow, content, -, -, hentry⟩ := Php.isEntry_of_blockNameEntry hm
    have hinside : ("class" : Text) ∉
        ("BLOCK_NAME" : Text) :: (Rule.sourceWords arrow ++ Rule.sourceWords content) := by
      intro hmem
      rcases List.mem_cons.1 hmem with hkey | hmem
      · exact absurd hkey (by decide)
      · rcases List.mem_append.1 hmem with hmem | hmem
        · have hoccurs := Rule.occurs_of_mem_sourceWords hmem
          rw [Text.occurs_eq_false_of_infix hentry.infix_arrow hplain] at hoccurs
          exact Bool.noConfusion hoccurs
        · have hoccurs := Rule.occurs_of_mem_sourceWords hmem
          rw [Text.occurs_eq_false_of_infix hentry.infix_content hplain] at hoccurs
          exact Bool.noConfusion hoccurs
    unfold Rule.declaresClass at h ht ⊢
    rw [Php.sourceWords_entry hentry] at h
    rw [Php.sourceWords_entry (isEntry_entryWith _)]
    -- The class is declared up to the key of the entry or behind the entry.
    rcases Rule.followedBy_cases h with hbefore | hafter
    · rw [List.append_cons]
      exact Rule.followedBy_append_left _ hbefore
    · rw [← List.cons_append] at hafter
      have hrest := ht (Rule.followedBy_of_notMem hinside hafter)
      rw [← List.cons_append, ← List.append_assoc]
      exact Rule.followedBy_append_right _ hrest
  · exact h

/-! ### The registration -/

lemma isCall_callWith (content : Text) : Php.IsCall (callWith content) ('\'' :: content) := by
  have hcall := callWith_append content []
  rw [List.append_nil, List.nil_append] at hcall
  exact ⟨'\'', by decide, hcall⟩

lemma occurs_callsWith {w : Text} (hb : 'b' ∉ w) (hw : Free Php.isQuote w) (content : Text)
    (hs : ∀ m ∈ Php.registerCall.matched.hits source, Text.occurs w m = false)
    (h : Text.occurs w source = true) : Text.occurs w (callsWith content source) = true := by
  refine kept_replaceAll (callWith content) Php.consumes_registerCall
    (fun s => Text.occurs w s = true) (fun m => Text.occurs w m = false)
    (fun x m t t' hm hplain ht h => ?_) hs h
  obtain ⟨inner, hcall, -⟩ := Php.isCall_of_registerCall hm
  have hinside : Text.occurs w ("lock_type(" ++ inner) = false := by
    obtain ⟨q, -, rfl⟩ := hcall
    refine Text.occurs_eq_false_of_infix ?_ hplain
    exact ⟨"register_b", [q], rfl⟩
  rw [Php.occurs_call hcall hb hw, hinside, Bool.false_or, Bool.or_eq_true] at h
  rw [Php.occurs_call (isCall_callWith content) hb hw, Bool.or_eq_true, Bool.or_eq_true]
  rcases h with hbefore | hafter
  · exact .inl hbefore
  · exact .inr (.inr (ht hafter))

lemma includesConfig_callsWith (content : Text)
    (hs : ∀ m ∈ Php.registerCall.matched.hits source,
      Text.occurs "require" m = false ∧ Text.occurs "include" m = false)
    (h : Php.includesConfig source = true) :
    Php.includesConfig (callsWith content source) = true := by
  refine kept_replaceAll (callWith content) Php.consumes_registerCall
    (fun s => Php.includesConfig s = true)
    (fun m => Text.occurs "require" m = false ∧ Text.occurs "include" m = false)
    (fun x m t t' hm hplain ht h => ?_) hs h
  obtain ⟨inner, hcall, -⟩ := Php.isCall_of_registerCall hm
  obtain ⟨q, hq, hold⟩ := Php.includesConfig_call hcall x t
  obtain ⟨q', -, hnew⟩ := Php.includesConfig_call (isCall_callWith content) x t'
  have hinner : ("ter_block_type(" : Text) ++ inner <:+: m := by
    obtain ⟨q, -, rfl⟩ := hcall
    exact ⟨"regis", [q], rfl⟩
  have hrequire := Text.occurs_eq_false_of_infix hinner hplain.1
  have hinclude := Text.occurs_eq_false_of_infix hinner hplain.2
  rw [hold, Php.includesConfig_behind hq hrequire hinclude, Bool.or_eq_true] at h
  rw [hnew, Bool.or_eq_true]
  rcases h with hbefore | hafter
  · exact .inl hbefore
  · right
    rw [List.append_cons]
    exact occursIn_append_right _ (ht hafter)

lemma occurs_moveDirs {w : Text} (hslash : '/' ∉ w) (hdash : '-' ∉ w)
    (hlegacy : Text.occurs w "blocks/cm" = false) (hcurrent : Text.occurs w "cm-blocks/cm" = false)
    (s : Text) : Text.occurs w (moveDirs s) = Text.occurs w s := by
  refine observe_replaceAll currentBlocks consumes_legacyBlocks (Text.occurs w)
    (fun x m t t' hm ht => ?_) s
  obtain rfl : m = legacyBlocks := List.append_cancel_right (word_eq_some_iff.1 hm)
  have hold : x ++ (legacyBlocks ++ t) = x ++ '/' :: ("blocks/cm" ++ '-' :: t) := rfl
  have hnew : x ++ (currentBlocks ++ t') = x ++ '/' :: ("cm-blocks/cm" ++ '-' :: t') := rfl
  rw [hold, hnew, Text.occurs_barrier hslash, Text.occurs_barrier hdash, Text.occurs_barrier hslash,
    Text.occurs_barrier hdash, hlegacy, hcurrent, ht]

lemma includesConfig_moveDirs (s : Text) :
    Php.includesConfig (moveDirs s) = Php.includesConfig s := by
  have hdash : Php.OutsideInclude '-' := ⟨by decide, by decide, by decide⟩
  refine observe_replaceAll currentBlocks consumes_legacyBlocks Php.includesConfig
    (fun x m t t' hm ht => ?_) s
  obtain rfl : m = legacyBlocks := List.append_cancel_right (word_eq_some_iff.1 hm)
  have hold : x ++ (legacyBlocks ++ t) =
      (x ++ "/block") ++ 's' :: ("/cm" ++ '-' :: t) := by
    rw [List.append_assoc]
    rfl
  have hnew : x ++ (currentBlocks ++ t') =
      (x ++ "/cm") ++ '-' :: ("block" ++ 's' :: ("/cm" ++ '-' :: t')) := by
    rw [List.append_assoc]
    rfl
  have hblock : Php.includesConfig "block" = false := by decide
  rw [hold, hnew, Php.includesConfig_barrier Php.outsideInclude_s, Php.includesConfig_barrier hdash,
    Php.includesConfig_barrier hdash, Php.includesConfig_barrier Php.outsideInclude_s,
    Php.includesConfig_barrier hdash, Php.includesConfig_append x (by decide),
    Php.includesConfig_append x (by decide), hblock, ht, Bool.false_or]

/-! ### Bundles -/

/-- What rules look for in the configuration begins with one of these words. -/
def configWords : List Text := ["class", "function"]

/-- The words that rules look for in the registration. -/
def calledWords : List Text := ["wp_localize_script", "filemtime("]

/-- What rules look for in the registration begins with one of these words. -/
def registrationWords : List Text := "require" :: "include" :: calledWords

/-- No text that the fixes write over has in it what a rule looks for. -/
structure PlainLiterals (b : Bundle) : Prop where
  entries : ∀ m ∈ Php.blockNameEntry.matched.hits b.config,
    ∀ w ∈ configWords, Text.occurs w m = false
  calls : ∀ m ∈ Php.registerCall.matched.hits b.registration,
    ∀ w ∈ registrationWords, Text.occurs w m = false

variable {b : Bundle}

lemma PlainLiterals.includesConfig (h : PlainLiterals b)
    (hinclude : Php.includesConfig b.registration = true) :
    Php.includesConfig (fixRegistration name {} b.registration) = true := by
  rw [fixRegistration_default, includesConfig_moveDirs]
  split
  · refine includesConfig_callsWith name.identifier (fun m hm => ?_) hinclude
    exact ⟨h.calls m hm "require" (by decide), h.calls m hm "include" (by decide)⟩
  · exact hinclude

lemma PlainLiterals.occurs (h : PlainLiterals b) {w : Text} (hw : w ∈ calledWords)
    (hword : Text.occurs w b.registration = true) :
    Text.occurs w (fixRegistration name {} b.registration) = true := by
  have hchars : ∀ w ∈ calledWords, 'b' ∉ w ∧ Free Php.isQuote w ∧ '/' ∉ w ∧ '-' ∉ w := by decide
  have hdirs : ∀ w ∈ calledWords,
      Text.occurs w "blocks/cm" = false ∧ Text.occurs w "cm-blocks/cm" = false := by decide
  obtain ⟨hb, hquote, hslash, hdash⟩ := hchars w hw
  rw [fixRegistration_default, occurs_moveDirs hslash hdash (hdirs w hw).1 (hdirs w hw).2]
  split
  · refine occurs_callsWith hb hquote name.identifier (fun m hm => ?_) hword
    exact h.calls m hm w (List.mem_cons_of_mem _ (List.mem_cons_of_mem _ hw))
  · exact hword

end Fix

end BlockAudit
