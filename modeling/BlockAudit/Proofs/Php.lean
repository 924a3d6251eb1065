import BlockAudit.Pattern.Php
import BlockAudit.Proofs.Occurrence
import BlockAudit.Proofs.Replace

/-!
# Forms of words in PHP sources

What the readers of PHP sources do with text that is inserted or replaced. The loading of the
configuration and the declaration of a namespace are searched for between characters that neither of
them has; the matches that a fix replaces are taken apart into their words and their white space.
-/

namespace BlockAudit

namespace Reader

/-- The text is white space throughout. -/
def IsBlanks (s : Text) : Prop := ∀ c ∈ s, Text.isBlank c = true

instance (s : Text) : Decidable (IsBlanks s) :=
  List.decidableBAll (fun c => Text.isBlank c = true) s

lemma blanks_eq_some {s t : Text} (h : blanks s = some t) : ∃ ws, IsBlanks ws ∧ s = ws ++ t :=
  many_eq_some h

lemma blanks_append {ws : Text} (hws : IsBlanks ws) (s : Text) : blanks (ws ++ s) = blanks s := by
  unfold blanks many
  rw [List.dropWhile_append_of_pos hws]

lemma blanks_cons {c : Char} (hc : Text.isBlank c = false) (s : Text) :
    blanks (c :: s) = some (c :: s) := by
  simp [blanks, many, hc]

lemma IsBlanks.notMem {ws : Text} (hws : IsBlanks ws) {c : Char} (hc : Text.isBlank c = false) :
    c ∉ ws := by
  intro hmem
  rw [hws c hmem] at hc
  exact Bool.noConfusion hc

lemma occursIn_append_right {read : Reader} (x : Text) {y : Text} (h : occursIn read y = true) :
    occursIn read (x ++ y) = true := by
  induction x with
  | nil => exact h
  | cons c x ih => simp [occursIn, ih]

lemma occursIn_of_isSome {read : Reader} {s : Text} (h : (read s).isSome = true) :
    occursIn read s = true := by
  cases s with
  | nil => exact h
  | cons c s => simp [occursIn, h]

lemma occursIn_append_of_none {read : Reader} {x : Text} (y : Text)
    (h : ∀ c ∈ x, ∀ s, read (c :: s) = none) : occursIn read (x ++ y) = occursIn read y := by
  induction x with
  | nil => rfl
  | cons c x ih =>
    have hc : read (c :: (x ++ y)) = none := h c List.mem_cons_self _
    have hrest := ih fun d hd => h d (List.mem_cons_of_mem _ hd)
    rw [List.cons_append, occursIn, hc, hrest]
    rfl

lemma drops_quoted : Drops quoted := by
  refine drops_seq fun read hread => ?_
  simp only [List.mem_cons, List.not_mem_nil, or_false] at hread
  rcases hread with rfl | rfl | rfl
  · exact drops_one _
  · exact drops_many _
  · exact drops_one _

end Reader

namespace Php

open Reader

/-- A single or a double quote. -/
def isQuote (c : Char) : Bool := c = '\'' ∨ c = '"'

lemma quoteMark_eq : quoteMark = one isQuote := rfl

lemma isBlank_of_isQuote {c : Char} (h : isQuote c = true) : Text.isBlank c = false := by
  rcases of_decide_eq_true h with rfl | rfl <;> decide

lemma notMem_of_isQuote {q : Char} (hq : isQuote q = true) {w : Text} (hw : Free isQuote w) :
    q ∉ w := by
  intro hmem
  rw [hw q hmem] at hq
  exact Bool.noConfusion hq

lemma free_isQuote_blanks {ws : Text} (hws : IsBlanks ws) : Free isQuote ws := by
  intro d hd
  rw [Bool.eq_false_iff]
  intro hquote
  have hblank := isBlank_of_isQuote hquote
  rw [hws d hd] at hblank
  exact Bool.noConfusion hblank

lemma stops_word_of_isQuote {q : Char} (hq : isQuote q = true) {w : Text} (hw : Free isQuote w) :
    Stops (word w) q := stops_word (notMem_of_isQuote hq hw)

/-! ### Matches and their parts -/

lemma consumes_rawWrapperClasses : Consumes rawWrapperClasses := by
  intro s t h
  refine exists_of_seq_word (by decide) ?_ h
  intro read hread
  simp only [List.mem_cons, List.not_mem_nil, or_false] at hread
  rcases hread with rfl | rfl | rfl | rfl
  · exact drops_many _
  · exact drops_word _
  · exact drops_many _
  · exact drops_word _

lemma consumes_registerCall : Consumes registerCall := by
  intro s t h
  refine exists_of_seq_word (by decide) ?_ h
  intro read hread
  simp only [List.mem_cons, List.not_mem_nil, or_false] at hread
  rcases hread with rfl | rfl
  · exact drops_many _
  · exact drops_quoted

lemma consumes_blockNameEntry : Consumes blockNameEntry := by
  intro s t h
  unfold blockNameEntry at h
  rw [seq_cons, Option.bind_eq_some_iff] at h
  obtain ⟨rest, hrest, h⟩ := h
  obtain ⟨c, -, rfl⟩ := one_eq_some_iff.1 hrest
  have hdrops : t <:+ rest := by
    refine drops_seq ?_ rest t h
    intro read hread
    simp only [List.mem_cons, List.not_mem_nil, or_false] at hread
    rcases hread with rfl | rfl | rfl | rfl | rfl | rfl
    · exact drops_word _
    · exact drops_one _
    · exact drops_many _
    · exact drops_word _
    · exact drops_many _
    · exact drops_quoted
  obtain ⟨m, rfl⟩ := hdrops
  exact ⟨c :: m, by simp, rfl⟩

lemma rawWrapperClasses_eq_some {s t : Text} (h : rawWrapperClasses s = some t) :
    ∃ ws ws', IsBlanks ws ∧ IsBlanks ws' ∧
      s = "esc_attr(" ++ (ws ++ ("$wrapper_classes" ++ (ws' ++ (')' :: t)))) := by
  unfold rawWrapperClasses at h
  simp only [seq_cons, Option.bind_eq_some_iff, seq_nil, Option.some.injEq] at h
  obtain ⟨s₁, h₁, s₂, h₂, s₃, h₃, s₄, h₄, s₅, h₅, rfl⟩ := h
  obtain ⟨ws, hws, rfl⟩ := blanks_eq_some h₂
  obtain ⟨ws', hws', rfl⟩ := blanks_eq_some h₄
  refine ⟨ws, ws', hws, hws', ?_⟩
  rw [word_eq_some_iff.1 h₁, word_eq_some_iff.1 h₃, word_eq_some_iff.1 h₅]
  rfl

/-- The text escapes wrapper classes that are not joined. -/
def IsRawClasses (m : Text) : Prop :=
  ∃ ws ws', IsBlanks ws ∧ IsBlanks ws' ∧
    m = "esc_attr(" ++ (ws ++ ("$wrapper_classes" ++ (ws' ++ [')'])))

lemma isRawClasses_of_rawWrapperClasses {m t : Text} (h : rawWrapperClasses (m ++ t) = some t) :
    IsRawClasses m := by
  obtain ⟨ws, ws', hws, hws', heq⟩ := rawWrapperClasses_eq_some h
  refine ⟨ws, ws', hws, hws', List.append_cancel_right (heq.trans ?_)⟩
  simp only [List.append_assoc, List.singleton_append]

lemma IsRawClasses.read {m : Text} (h : IsRawClasses m) (t : Text) :
    rawWrapperClasses (m ++ t) = some t := by
  obtain ⟨ws, ws', hws, hws', rfl⟩ := h
  have hclasses (s : Text) : blanks (ws ++ ("$wrapper_classes" ++ s)) = some ("$wrapper_classes" ++ s) := by
    rw [blanks_append hws]
    exact blanks_cons (by decide) _
  have hclose : blanks (ws' ++ ')' :: t) = some (')' :: t) := by
    rw [blanks_append hws']
    exact blanks_cons (by decide) t
  simp only [List.append_assoc, List.singleton_append]
  unfold rawWrapperClasses
  rw [seq_cons, word_append, Option.bind_some, seq_cons, hclasses, Option.bind_some, seq_cons, word_append,
    Option.bind_some, seq_cons, hclose]
  rfl

/-! ### Loading the configuration -/

/-- The words of the statement that loads the configuration. -/
def includeWords : List Text :=
  ["require", "include", "_once", "(", "__DIR__", ".", "/config.php", "plugin_dir_path(", "__FILE__",
    ")", "config.php"]

/-- Neither white space nor a quote, and in none of the words that load the configuration. -/
structure OutsideInclude (d : Char) : Prop where
  blank : Text.isBlank d = false
  quote : isQuote d = false
  words : ∀ w ∈ includeWords, d ∉ w

lemma stops_configInclude {d : Char} (hd : OutsideInclude d) : Stops configInclude d := by
  have hword {w : Text} (hw : w ∈ includeWords) : Stops (word w) d := stops_word (hd.words w hw)
  have hblanks : Stops blanks d := stops_many hd.blank
  have hmark : Stops quoteMark d := stops_one hd.quote
  refine stops_seq ?_
  simp only [List.forall_mem_cons, List.not_mem_nil, IsEmpty.forall_iff, implies_true, and_true]
  refine ⟨stops_either (hword (by decide)) (hword (by decide)), stops_maybe (hword (by decide)),
    hblanks, stops_maybe (hword (by decide)), hblanks, stops_either (stops_seq ?_) (stops_seq ?_)⟩
  · simp only [List.forall_mem_cons, List.not_mem_nil, IsEmpty.forall_iff, implies_true, and_true]
    exact ⟨hword (by decide), hblanks, hword (by decide), hblanks, hmark, hword (by decide), hmark⟩
  · simp only [List.forall_mem_cons, List.not_mem_nil, IsEmpty.forall_iff, implies_true, and_true]
    exact ⟨hword (by decide), hblanks, hword (by decide), hblanks, hword (by decide), hblanks,
      hword (by decide), hblanks, hmark, hword (by decide), hmark⟩

lemma outsideInclude_s : OutsideInclude 's' := ⟨by decide, by decide, by decide⟩

lemma outsideInclude_star : OutsideInclude '*' := ⟨by decide, by decide, by decide⟩

lemma includesConfig_barrier {d : Char} (hd : OutsideInclude d) (x y : Text) :
    includesConfig (x ++ d :: y) = (includesConfig x || includesConfig y) :=
  occursIn_barrier (stops_configInclude hd) x y

/-- The quote at its end completes the loading of the configuration. -/
lemma endsAt_configInclude : EndsAt configInclude isQuote := by
  have hword (w : Text) : Passes (word w) isQuote ∧ Drops (word w) :=
    ⟨passes_word w isQuote, drops_word w⟩
  have hblanks : Passes blanks isQuote ∧ Drops blanks := ⟨passes_many _ _, drops_many _⟩
  have hmark : Passes quoteMark isQuote ∧ Drops quoteMark := ⟨passes_one _ _, drops_one _⟩
  have hlast : EndsAt quoteMark isQuote := endsAt_one isQuote
  have hdir := endsAt_seq [word "__DIR__", blanks, word ".", blanks, quoteMark, word "/config.php"] (by
      simp only [List.forall_mem_cons, List.not_mem_nil, IsEmpty.forall_iff, implies_true, and_true]
      exact ⟨hword _, hblanks, hword _, hblanks, hmark, hword _⟩) hlast
  have hplugin := endsAt_seq [word "plugin_dir_path(", blanks, word "__FILE__", blanks,
    word ")", blanks, word ".", blanks, quoteMark, word "config.php"] (by
      simp only [List.forall_mem_cons, List.not_mem_nil, IsEmpty.forall_iff, implies_true, and_true]
      exact ⟨hword _, hblanks, hword _, hblanks, hword _, hblanks, hword _, hblanks, hmark,
        hword _⟩) hlast
  refine endsAt_seq [either (word "require") (word "include"), maybe (word "_once"), blanks,
    maybe (word "("), blanks] ?_ (endsAt_either hdir hplugin)
  simp only [List.forall_mem_cons, List.not_mem_nil, IsEmpty.forall_iff, implies_true, and_true]
  exact ⟨⟨passes_either_word (by decide) (by decide), drops_either (drops_word _) (drops_word _)⟩,
    ⟨passes_maybe_word (by decide), drops_maybe (drops_word _)⟩, hblanks,
    ⟨passes_maybe_word (by decide), drops_maybe (drops_word _)⟩, hblanks⟩

lemma includesConfig_append (x : Text) {u : Text} (hu : Free isQuote u) :
    includesConfig (x ++ u) = includesConfig x :=
  occursIn_append_free endsAt_configInclude x hu

lemma configInclude_cons {c : Char} (hc : c ≠ 'r' ∧ c ≠ 'i') (s : Text) :
    configInclude (c :: s) = none := by
  have hrequire : word "require" (c :: s) = none := by
    simp [word, Text.after?, hc.1.symm]
  have hinclude : word "include" (c :: s) = none := by
    simp [word, Text.after?, hc.2.symm]
  unfold configInclude
  rw [seq_cons, either, hrequire, hinclude]
  rfl

lemma includesConfig_append_left {x : Text} (y : Text) (hx : 'r' ∉ x ∧ 'i' ∉ x) :
    includesConfig (x ++ y) = includesConfig y :=
  occursIn_append_of_none y fun _ hc s =>
    configInclude_cons ⟨fun h => hx.1 (h ▸ hc), fun h => hx.2 (h ▸ hc)⟩ s

end Php

end BlockAudit
