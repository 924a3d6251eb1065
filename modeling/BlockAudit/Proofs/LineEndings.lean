import BlockAudit.Proofs.Replace
import BlockAudit.Proofs.Trim

/-!
# Line endings

A text in which a carriage return and a line feed end a line is turned into one whose lines end in line
feeds alone. Only carriage returns are taken out, each in front of a line feed, so that two parts of a
text are turned separately wherever no such pair is torn apart. Trimming tears none apart, and turning a
text of whole lines is the same as taking the ending of each line off and putting a line feed there.
-/

namespace BlockAudit

namespace Text

/-- The text with a line feed in the place of every pair of a carriage return and a line feed. -/
def unixLines (s : Text) : Text := replace ['\r', '\n'] ['\n'] s

@[simp] lemma unixLines_nil : unixLines [] = [] := Reader.replaceAll_nil

/-- A carriage return is left out when a line feed follows; every other character stays. -/
lemma unixLines_cons (c : Char) (s : Text) :
    unixLines (c :: s) = if c = '\r' ∧ s.head? = some '\n' then unixLines s else c :: unixLines s := by
  have hgap {c : Char} {s : Text} (h : ¬(c = '\r' ∧ s.head? = some '\n')) :
      unixLines (c :: s) = c :: unixLines s := by
    refine Reader.replaceAll_cons ?_
    cases hread : Reader.word ['\r', '\n'] (c :: s) with
    | none => rfl
    | some t =>
      obtain ⟨rfl, rfl⟩ := List.cons.inj (Reader.word_eq_some_iff.1 hread)
      exact absurd ⟨rfl, rfl⟩ h
  by_cases h : c = '\r' ∧ s.head? = some '\n'
  · obtain ⟨rfl, hs⟩ := h
    obtain ⟨t, rfl⟩ := List.head?_eq_some_iff.1 hs
    have hpair : unixLines ('\r' :: '\n' :: t) = '\n' :: unixLines t :=
      Reader.replaceAll_match (m := ['\r', '\n']) (by simp) (Reader.word_append _ _)
    rw [if_pos ⟨rfl, rfl⟩, hpair, hgap fun hreturn => absurd hreturn.1 (by decide)]
  · rw [if_neg h, hgap h]

lemma unixLines_singleton (c : Char) : unixLines [c] = [c] := by simp [unixLines_cons]

lemma unixLines_pair : unixLines ['\r', '\n'] = ['\n'] := by simp [unixLines_cons]

/-- Two parts are turned separately unless a line feed follows a carriage return between them. -/
lemma unixLines_append {x y : Text} (h : x.getLast? = some '\r' → y.head? ≠ some '\n') :
    unixLines (x ++ y) = unixLines x ++ unixLines y := by
  induction x with
  | nil => simp
  | cons c x ih =>
    rw [List.cons_append, unixLines_cons, unixLines_cons]
    cases x with
    | nil =>
      have hc : ¬(c = '\r' ∧ y.head? = some '\n') := fun hcy => h (by simp [hcy.1]) hcy.2
      simp [hc]
    | cons d x =>
      have hrest := ih (by simpa using h)
      rw [hrest]
      by_cases hc : c = '\r' ∧ d = '\n'
      · simp [hc.1, hc.2]
      · simp [hc]

lemma unixLines_of_notMem {s : Text} (h : '\n' ∉ s) : unixLines s = s := by
  induction s with
  | nil => exact unixLines_nil
  | cons c s ih =>
    have hs : '\n' ∉ s := fun hmem => h (List.mem_cons_of_mem c hmem)
    have hhead : s.head? ≠ some '\n' := fun hhead => hs (List.mem_of_mem_head? hhead)
    rw [unixLines_cons, if_neg (fun hc => hhead hc.2), ih hs]

/-! ### Trimming -/

lemma trimStart_unixLines (s : Text) : trimStart (unixLines s) = unixLines (trimStart s) := by
  induction s with
  | nil => simp [trimStart]
  | cons c s ih =>
    cases hc : isBlank c with
    | true =>
      rw [trimStart_cons_blank hc, ← ih, unixLines_cons]
      split
      · rfl
      · exact trimStart_cons_blank hc _
    | false =>
      have hreturn : ¬(c = '\r' ∧ s.head? = some '\n') := by
        rintro ⟨rfl, -⟩
        exact absurd hc (by decide)
      rw [trimStart_cons hc, unixLines_cons, if_neg hreturn, trimStart_cons hc]

/-- Whether the carriage return in front of the last line feed stands or not, it is trimmed away. -/
lemma trimEnd_unixLines_concat {c : Char} (hc : isBlank c = true) (s : Text) :
    trimEnd (unixLines (s ++ [c])) = trimEnd (unixLines s) := by
  by_cases h : s.getLast? = some '\r' → c ≠ '\n'
  · rw [unixLines_append (by simpa using h), unixLines_singleton, trimEnd_concat_blank hc]
  · obtain ⟨hs, hfeed⟩ := by simpa only [Classical.not_imp, not_not] using h
    obtain ⟨t, rfl⟩ := List.getLast?_eq_some_iff.1 hs
    subst hfeed
    rw [List.append_assoc, List.singleton_append, unixLines_append (by simp), unixLines_pair,
      unixLines_append (by simp), unixLines_singleton, trimEnd_concat_blank (by decide),
      trimEnd_concat_blank (by decide)]

lemma trimEnd_unixLines (s : Text) : trimEnd (unixLines s) = unixLines (trimEnd s) := by
  induction s using List.reverseRecOn with
  | nil => simp [trimEnd]
  | append_singleton s c ih =>
    cases hc : isBlank c with
    | true => rw [trimEnd_unixLines_concat hc, ih, trimEnd_concat_blank hc]
    | false =>
      have hfeed : c ≠ '\n' := by
        rintro rfl
        exact absurd hc (by decide)
      rw [trimEnd_concat hc, unixLines_append (by simpa using fun _ => hfeed), unixLines_singleton,
        trimEnd_concat hc]

lemma trim_unixLines (s : Text) : trim (unixLines s) = unixLines (trim s) := by
  rw [trim, trim, trimStart_unixLines, trimEnd_unixLines]

/-! ### Lines without their endings -/

lemma before?_eq_some_iff {word s before : Text} :
    before? word s = some before ↔ s = before ++ word := by
  rw [before?, Option.map_eq_some_iff]
  constructor
  · rintro ⟨r, hr, rfl⟩
    have hs := congrArg List.reverse (after?_eq_some_iff.1 hr)
    simpa using hs
  · rintro rfl
    refine ⟨before.reverse, after?_eq_some_iff.2 ?_, List.reverse_reverse _⟩
    exact List.reverse_append

lemma chomp_of_notMem {line : Text} (h : '\n' ∉ line) : chomp line = line := by
  cases hbody : before? ['\n'] line with
  | none => rw [chomp, hbody]
  | some body =>
    rw [before?_eq_some_iff.1 hbody] at h
    simp at h

lemma chomp_concat (s : Text) : chomp (s ++ ['\n']) = (before? ['\r'] s).getD s := by
  rw [chomp, before?_eq_some_iff.2 rfl]

lemma chomp_concat_newline {part : Text} (hpart : '\n' ∉ part) :
    chomp (part ++ ['\n']) ++ ['\n'] = unixLines (part ++ ['\n']) := by
  rw [chomp_concat]
  cases hreturn : before? ['\r'] part with
  | none =>
    have hlast : part.getLast? ≠ some '\r' := by
      intro hlast
      obtain ⟨t, rfl⟩ := List.getLast?_eq_some_iff.1 hlast
      rw [before?_eq_some_iff.2 rfl] at hreturn
      exact absurd hreturn (by simp)
    rw [unixLines_append fun h => absurd h hlast, unixLines_of_notMem hpart, unixLines_singleton,
      Option.getD_none]
  | some text =>
    obtain rfl := before?_eq_some_iff.1 hreturn
    have htext : '\n' ∉ text := fun hmem => hpart (List.mem_append_left _ hmem)
    rw [List.append_assoc, List.singleton_append, unixLines_append (by simp),
      unixLines_of_notMem htext, unixLines_pair, Option.getD_some]

lemma trim_chomp (line : Text) : trim (chomp line) = trim line := by
  cases hbody : before? ['\n'] line with
  | none => rw [chomp, hbody]
  | some body =>
    obtain rfl := before?_eq_some_iff.1 hbody
    rw [chomp_concat, trim_concat_blank (by decide)]
    cases hreturn : before? ['\r'] body with
    | none => rfl
    | some text =>
      obtain rfl := before?_eq_some_iff.1 hreturn
      rw [trim_concat_blank (by decide), Option.getD_some]

/-! ### Lists of lines -/

/-- Consecutive lines of a text: each has one line feed, at its end, and only the last may lack it. -/
def AreLines : List Text → Prop
  | [] => True
  | line :: lines =>
    (∃ part, '\n' ∉ part ∧ (line = part ++ ['\n'] ∨ line = part ∧ lines = [])) ∧ AreLines lines

lemma areLines_fullLines (s : Text) : AreLines (fullLines s) := by
  induction s with
  | nil => trivial
  | cons c s ih =>
    rw [fullLines]
    by_cases hc : c = '\n'
    · rw [if_pos hc, hc]
      exact ⟨⟨[], by simp, .inl rfl⟩, ih⟩
    · rw [if_neg hc]
      cases hlines : fullLines s with
      | nil => exact ⟨⟨[c], by simpa using Ne.symm hc, .inr ⟨rfl, rfl⟩⟩, trivial⟩
      | cons line lines =>
        rw [hlines] at ih
        obtain ⟨⟨part, hpart, hline⟩, hrest⟩ := ih
        have hpart' : '\n' ∉ c :: part := by simp [Ne.symm hc, hpart]
        refine ⟨⟨c :: part, hpart', ?_⟩, hrest⟩
        rcases hline with rfl | ⟨rfl, hlast⟩
        · exact .inl rfl
        · exact .inr ⟨rfl, hlast⟩

lemma AreLines.of_suffix {lines rest : List Text} (h : AreLines lines) (hrest : rest <:+ lines) :
    AreLines rest := by
  obtain ⟨before, rfl⟩ := hrest
  induction before with
  | nil => exact h
  | cons line before ih => exact ih h.2

lemma AreLines.exists_part {lines : List Text} (h : AreLines lines) {line : Text}
    (hline : line ∈ lines) : ∃ part, '\n' ∉ part ∧ (line = part ++ ['\n'] ∨ line = part) := by
  obtain ⟨before, after, rfl⟩ := List.append_of_mem hline
  obtain ⟨⟨part, hpart, hends⟩, -⟩ := h.of_suffix (List.suffix_append before (line :: after))
  exact ⟨part, hpart, hends.imp_right And.left⟩

lemma AreLines.takeWhile {lines : List Text} (h : AreLines lines) (p : Text → Bool) :
    AreLines (lines.takeWhile p) := by
  induction lines with
  | nil => trivial
  | cons line lines ih =>
    obtain ⟨⟨part, hpart, hline⟩, hrest⟩ := h
    by_cases hp : p line = true
    · rw [List.takeWhile_cons_of_pos hp]
      refine ⟨⟨part, hpart, ?_⟩, ih hrest⟩
      rcases hline with hline | ⟨hline, rfl⟩
      · exact .inl hline
      · exact .inr ⟨hline, rfl⟩
    · rw [List.takeWhile_cons_of_neg hp]
      trivial

/-- A line feed in the place of the ending of every line: the text is turned, and its last line ended if
it was not. -/
lemma flatMap_chomp {lines : List Text} (h : AreLines lines) :
    lines.flatMap (fun line => chomp line ++ ['\n']) = unixLines lines.flatten ∨
      lines.flatMap (fun line => chomp line ++ ['\n']) = unixLines lines.flatten ++ ['\n'] := by
  induction lines with
  | nil => simp
  | cons line lines ih =>
    obtain ⟨⟨part, hpart, hline⟩, hrest⟩ := h
    rcases hline with rfl | ⟨rfl, rfl⟩
    · have hsplit : unixLines (part ++ ['\n'] ++ lines.flatten) =
          unixLines (part ++ ['\n']) ++ unixLines lines.flatten :=
        unixLines_append (by simp)
      rw [List.flatMap_cons, List.flatten_cons, chomp_concat_newline hpart, hsplit, List.append_assoc]
      rcases ih hrest with hlines | hlines
      · exact .inl (by rw [hlines])
      · exact .inr (by rw [hlines])
    · right
      simp [chomp_of_notMem hpart, unixLines_of_notMem hpart]

/-- Whether the last line is ended or not cannot be told behind trimming. -/
lemma trim_flatMap_chomp {lines : List Text} (h : AreLines lines) :
    trim (lines.flatMap fun line => chomp line ++ ['\n']) = unixLines (trim lines.flatten) := by
  rcases flatMap_chomp h with hlines | hlines
  · rw [hlines, trim_unixLines]
  · rw [hlines, trim_concat_blank (by decide), trim_unixLines]

end Text

end BlockAudit
