import BlockAudit.Proofs.LineEndings
import BlockAudit.Proofs.Occurrence

/-!
# Carriage returns in front of line feeds

A text whose lines end in line feeds is turned into one whose lines end in a carriage return and a line
feed. Each line feed becomes two characters of white space, wherever it stands, so the text is turned part
by part, and trimming it, cutting it into lines and looking for a word without line ends in it come to
the same before and after.
-/

namespace BlockAudit

namespace Text

variable {word s line : Text} {c : Char}

/-- The text with a pair of a carriage return and a line feed in the place of every line feed. -/
def dosLines (s : Text) : Text := replace ['\n'] ['\r', '\n'] s

@[simp] lemma dosLines_nil : dosLines [] = [] := Reader.replaceAll_nil

@[simp] lemma dosLines_feed (s : Text) : dosLines ('\n' :: s) = '\r' :: '\n' :: dosLines s :=
  Reader.replaceAll_match (m := ['\n']) (by simp) (Reader.word_append _ _)

lemma dosLines_cons (hc : c ≠ '\n') (s : Text) : dosLines (c :: s) = c :: dosLines s := by
  refine Reader.replaceAll_cons ?_
  exact if_neg hc.symm

lemma dosLines_append (x y : Text) : dosLines (x ++ y) = dosLines x ++ dosLines y := by
  induction x with
  | nil => simp
  | cons c x ih =>
    by_cases hc : c = '\n'
    · simp [hc, ih]
    · rw [List.cons_append, dosLines_cons hc, dosLines_cons hc, ih, List.cons_append]

/-- Both characters of an ending are at the end of the turned text. -/
lemma dosLines_concat_feed (s : Text) :
    dosLines (s ++ ['\n']) = dosLines s ++ ['\r'] ++ ['\n'] := by
  rw [dosLines_append, dosLines_feed, dosLines_nil, List.append_assoc]
  rfl

lemma dosLines_concat (hc : c ≠ '\n') (s : Text) : dosLines (s ++ [c]) = dosLines s ++ [c] := by
  rw [dosLines_append, dosLines_cons hc, dosLines_nil]

lemma dosLines_of_notMem (h : '\n' ∉ s) : dosLines s = s := by
  induction s with
  | nil => exact dosLines_nil
  | cons c s ih =>
    obtain ⟨hc, hs⟩ := not_or.1 (mt List.mem_cons.2 h)
    rw [dosLines_cons (Ne.symm hc), ih hs]

@[simp] lemma dosLines_eq_nil_iff : dosLines s = [] ↔ s = [] := by
  cases s with
  | nil => simp
  | cons c s =>
    by_cases hc : c = '\n'
    · simp [hc]
    · simp [dosLines_cons hc]

lemma dosLines_flatten (lines : List Text) :
    dosLines lines.flatten = (lines.map dosLines).flatten := by
  induction lines with
  | nil => exact dosLines_nil
  | cons line lines ih => rw [List.flatten_cons, dosLines_append, ih, List.map_cons, List.flatten_cons]

/-! ### White space -/

/-- Both characters of an ending are left out or neither is. -/
lemma dropWhile_dosLines {p : Char → Bool} (hp : p '\r' = p '\n') (s : Text) :
    (dosLines s).dropWhile p = dosLines (s.dropWhile p) := by
  induction s with
  | nil => simp
  | cons c s ih =>
    by_cases hfeed : c = '\n'
    · subst hfeed
      cases hc : p '\n' with
      | true => simp [hp, hc, ih]
      | false => simp [hp, hc]
    · rw [dosLines_cons hfeed]
      cases hc : p c with
      | true => simp [hc, ih]
      | false => simp [hc, dosLines_cons hfeed]

lemma takeWhile_dosLines {p : Char → Bool} (hreturn : p '\r' = false) (hfeed : p '\n' = false)
    (s : Text) : (dosLines s).takeWhile p = s.takeWhile p := by
  induction s with
  | nil => simp
  | cons c s ih =>
    by_cases hc : c = '\n'
    · simp [hc, hreturn, hfeed]
    · rw [dosLines_cons hc, List.takeWhile_cons, List.takeWhile_cons, ih]

lemma trimStart_dosLines (s : Text) : trimStart (dosLines s) = dosLines (trimStart s) :=
  dropWhile_dosLines (by decide) s

lemma trimEnd_dosLines (s : Text) : trimEnd (dosLines s) = dosLines (trimEnd s) := by
  induction s using List.reverseRecOn with
  | nil => simp [trimEnd]
  | append_singleton s c ih =>
    by_cases hfeed : c = '\n'
    · subst hfeed
      rw [dosLines_concat_feed, trimEnd_concat_blank (by decide), trimEnd_concat_blank (by decide),
        trimEnd_concat_blank (by decide), ih]
    · rw [dosLines_concat hfeed]
      cases hc : isBlank c with
      | true => rw [trimEnd_concat_blank hc, trimEnd_concat_blank hc, ih]
      | false => rw [trimEnd_concat hc, trimEnd_concat hc, dosLines_concat hfeed]

lemma trim_dosLines (s : Text) : trim (dosLines s) = dosLines (trim s) := by
  rw [trim, trim, trimStart_dosLines, trimEnd_dosLines]

/-! ### Words -/

lemma after?_dosLines (hfeed : '\n' ∉ word) (hreturn : '\r' ∉ word) (s : Text) :
    after? word (dosLines s) = (after? word s).map dosLines := by
  induction word generalizing s with
  | nil => rfl
  | cons a word ih =>
    obtain ⟨hafeed, hfeed⟩ := not_or.1 (mt List.mem_cons.2 hfeed)
    obtain ⟨hareturn, hreturn⟩ := not_or.1 (mt List.mem_cons.2 hreturn)
    cases s with
    | nil => simp [after?]
    | cons c s =>
      by_cases hc : c = '\n'
      · subst hc
        rw [dosLines_feed, after?, after?, if_neg (Ne.symm hareturn), if_neg (Ne.symm hafeed)]
        rfl
      · rw [dosLines_cons hc, after?, after?]
        split_ifs
        · exact ih hfeed hreturn s
        · rfl

/-- What a turned text ends in without a line end, the text ends in. -/
lemma suffix_of_suffix_dosLines (hfeed : '\n' ∉ word) (h : word <:+ dosLines s) : word <:+ s := by
  induction s using List.reverseRecOn generalizing word with
  | nil => rwa [dosLines_nil] at h
  | append_singleton s c ih =>
    rcases List.eq_nil_or_concat word with rfl | ⟨before, a, rfl⟩
    · exact List.nil_suffix
    · obtain ⟨x, hx⟩ := h
      rw [List.concat_eq_append, ← List.append_assoc] at hx
      by_cases hc : c = '\n'
      · subst hc
        rw [dosLines_concat_feed] at hx
        obtain ⟨-, ha⟩ := List.append_inj' hx rfl
        obtain rfl := List.singleton_injective ha
        exact absurd (by simp) hfeed
      · rw [dosLines_concat hc] at hx
        obtain ⟨hbefore, ha⟩ := List.append_inj' hx rfl
        obtain rfl := List.singleton_injective ha
        have hshorter : '\n' ∉ before := fun hmem => hfeed (by simp [hmem])
        obtain ⟨y, rfl⟩ := ih hshorter ⟨x, hbefore⟩
        exact ⟨y, by simp⟩

lemma before?_dosLines (hfeed : '\n' ∉ word) (s : Text) :
    before? word (dosLines s) = (before? word s).map dosLines := by
  cases h : before? word s with
  | some before =>
    rw [before?_eq_some_iff.1 h, dosLines_append, dosLines_of_notMem hfeed]
    exact before?_eq_some_iff.2 rfl
  | none =>
    cases h' : before? word (dosLines s) with
    | none => rfl
    | some x =>
      obtain ⟨before, rfl⟩ := suffix_of_suffix_dosLines hfeed ⟨x, (before?_eq_some_iff.1 h').symm⟩
      rw [before?_eq_some_iff.2 rfl] at h
      exact absurd h (by simp)

/-- The carriage return stays with the line in front of the line feed. -/
lemma cut?_dosLines (s : Text) :
    cut? ['\n'] (dosLines s) =
      (cut? ['\n'] s).map fun (before, rest) => (before ++ ['\r'], dosLines rest) := by
  by_cases hs : '\n' ∈ s
  · obtain ⟨x, y, rfl, hx⟩ := List.eq_append_cons_of_mem hs
    have hreturn : '\n' ∉ x ++ ['\r'] := by simp [hx]
    have hturned : dosLines (x ++ '\n' :: y) = (x ++ ['\r']) ++ '\n' :: dosLines y := by
      rw [dosLines_append, dosLines_of_notMem hx, dosLines_feed]
      simp
    rw [hturned, cut?_singleton hreturn, cut?_singleton hx]
    rfl
  · have hnone : cut? ['\n'] s = none := by
      have hmissing := isSome_cut? (w := ['\n']) s
      rw [occurs_eq_false List.mem_cons_self hs] at hmissing
      simpa using hmissing
    rw [dosLines_of_notMem hs, hnone]
    rfl

/-! ### Lines -/

lemma fullLines_dosLines (s : Text) : fullLines (dosLines s) = (fullLines s).map dosLines := by
  induction s with
  | nil => simp [fullLines]
  | cons c s ih =>
    by_cases hc : c = '\n'
    · subst hc
      rw [dosLines_feed, fullLines, fullLines, fullLines, ih]
      simp
    · rw [dosLines_cons hc, fullLines, fullLines, if_neg hc, if_neg hc, ih]
      cases fullLines s with
      | nil => simp [dosLines_cons hc]
      | cons line lines => simp [dosLines_cons hc]

/-- Behind trimming it cannot be told how a line is ended. -/
lemma trim_dosLines_of_mem_fullLines (h : line ∈ fullLines s) : trim (dosLines line) = trim line := by
  obtain ⟨part, hpart, hline⟩ := (areLines_fullLines s).exists_part h
  have hpart' : '\n' ∉ trim part := fun hmem => hpart ((trim_sublist part).subset hmem)
  have htrim : '\n' ∉ trim line := by
    rcases hline with rfl | rfl
    · rwa [trim_concat_blank (by decide)]
    · exact hpart'
  rw [trim_dosLines, dosLines_of_notMem htrim]

end Text

end BlockAudit
