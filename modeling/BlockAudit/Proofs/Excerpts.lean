import BlockAudit.Proofs.LineEndings
import BlockAudit.Proofs.Php
import BlockAudit.Proofs.Sections

/-!
# What comes back of a text

A text that does not survive its section comes back as an excerpt of it. The section ends at a line of
the text that is a sentinel, or the text is fenced and comes back without its first line.
-/

namespace BlockAudit

namespace Text

lemma notMem_of_cut? {d : Char} {s before rest : Text} (h : cut? [d] s = some (before, rest)) :
    d ∉ before := by
  induction s generalizing before with
  | nil => exact absurd h (by simp [cut?])
  | cons c s ih =>
    have hafter : after? [d] (c :: s) = if d = c then some s else none := rfl
    rw [cut?, hafter] at h
    by_cases hc : d = c
    · simp only [if_pos hc, Option.some.injEq, Prod.mk.injEq] at h
      rw [← h.1]
      exact List.not_mem_nil
    · simp only [if_neg hc, Option.map_eq_some_iff, Prod.exists, Prod.mk.injEq] at h
      obtain ⟨before', rest', hcut, rfl, rfl⟩ := h
      rw [List.mem_cons, not_or]
      exact ⟨hc, ih hcut⟩

end Text

namespace Section

open Reader

variable {text : Text}

/-- What a section gives back of a trimmed text: all of it; nothing, of a text that begins with a sentinel
or a fence; what stands in front of a sentinel, and in front of the white space before it; or what
stands behind the first line of a fence. -/
inductive Excerpt (text : Text) : Text → Prop
  | whole : Excerpt text text
  | nothing (hfirst : text.head? = some '-' ∨ text.head? = some '`') : Excerpt text []
  | cut {part after : Text} {c : Char} (hblank : Text.isBlank c = true) (hfeed : '\n' ∈ c :: after)
      (hdash : '-' ∈ after) (htext : text = part ++ c :: after) : Excerpt text part
  | fenced {first gap part after : Text} (hfence : first.head? = some '`') (hfeed : '\n' ∉ first)
      (hgap : IsBlanks gap) (htext : text = first ++ '\n' :: (gap ++ (part ++ after))) :
      Excerpt text part

lemma exists_of_isDelimiter {line : Text} (h : isDelimiter line = true) :
    ∃ lead rest, IsBlanks lead ∧ line = lead ++ '-' :: rest := by
  cases hafter : Text.after? sentinel (Text.trim line) with
  | none =>
    have hplain : Line.ofText line = .plain := by rw [Line.ofText, hafter]
    simp [isDelimiter, hplain] at h
  | some rest =>
    obtain ⟨lead, trail, hlead, -, hline⟩ := Text.exists_trim line
    rw [Text.after?_eq_some_iff.1 hafter] at hline
    exact ⟨lead, "--" ++ rest ++ trail, hlead, hline⟩

/-- A trimmed text has no white space in front of its hyphens. -/
lemma eq_nil_of_lead (htrim : Text.trim text = text) {lead rest : Text} (hlead : IsBlanks lead)
    (hdash : '-' ∈ rest) (h : text ++ ['\n'] = lead ++ rest) : lead = [] := by
  cases lead with
  | nil => rfl
  | cons d lead =>
    cases text with
    | nil =>
      have hnil := (List.append_eq_nil_iff.1 (List.cons.inj h).2.symm).2
      rw [hnil] at hdash
      exact absurd hdash List.not_mem_nil
    | cons e text =>
      obtain rfl : e = d := (List.cons.inj h).1
      have hvisible := Text.isBlank_of_trim_cons htrim
      rw [hlead e List.mem_cons_self] at hvisible
      exact absurd hvisible (by decide)

lemma exists_concat_of_mem_textLines {line : Text} (h : line ∈ textLines text) :
    ∃ part, line = part ++ ['\n'] := by
  rw [textLines, Text.fullLines_concat] at h
  obtain ⟨part, -, rfl⟩ := List.mem_map.1 h
  exact ⟨part, rfl⟩

/-- A line feed is trimmed away behind whole lines. -/
lemma feed_mem_trail {lines : List Text} (hended : ∀ l ∈ lines, ∃ part, l = part ++ ['\n'])
    (hne : Text.trim lines.flatten ≠ []) {trail : Text}
    (hparts : lines.flatten = Text.trim lines.flatten ++ trail) : '\n' ∈ trail := by
  obtain ⟨whole, hwhole⟩ : ∃ whole, lines.flatten = whole ++ ['\n'] := by
    rcases List.eq_nil_or_concat lines with rfl | ⟨init, l, rfl⟩
    · exact absurd rfl hne
    · obtain ⟨part, rfl⟩ := hended l (by simp)
      exact ⟨init.flatten ++ part, by simp⟩
  rw [hwhole] at hne
  rcases List.eq_nil_or_concat trail with rfl | ⟨trail, e, rfl⟩
  · obtain ⟨shown, e, hshown⟩ : ∃ shown e, Text.trim lines.flatten = shown ++ [e] :=
      ⟨_, _, (List.dropLast_append_getLast (hwhole ▸ hne)).symm⟩
    have hvisible : Text.isBlank e = false := by
      refine Text.isBlank_of_trim_concat (s := shown) ?_
      rw [← hshown, Text.trim_trim]
    rw [hshown, hwhole, List.append_nil] at hparts
    obtain ⟨-, he⟩ := List.append_inj' hparts rfl
    obtain rfl : '\n' = e := by simpa using he
    exact absurd hvisible (by decide)
  · rw [hwhole, List.concat_eq_append, ← List.append_assoc] at hparts
    obtain ⟨-, he⟩ := List.append_inj' hparts rfl
    obtain rfl : '\n' = e := by simpa using he
    simp

/-- The body that is read is the text, or it ends where white space or nothing stands in front of a
sentinel. -/
lemma bodyOf_textLines (htrim : Text.trim text = text) {delimiter : Text}
    (hd : isDelimiter delimiter = true) (rest : List Text) :
    bodyOf (textLines text ++ delimiter :: rest) = text ∨
      (bodyOf (textLines text ++ delimiter :: rest) = [] ∧ text.head? = some '-') ∨
      ∃ c after, Text.isBlank c = true ∧ '\n' ∈ c :: after ∧ '-' ∈ after ∧
        text = bodyOf (textLines text ++ delimiter :: rest) ++ c :: after := by
  by_cases hplain : IsPlain text
  · left
    rw [bodyOf_of_isPlain hplain hd, htrim]
  right
  obtain ⟨before, line, after, hlines, hbefore, hline⟩ := exists_delimiter hplain
  have hbody : bodyOf (textLines text ++ delimiter :: rest) = Text.trim before.flatten := by
    rw [hlines, List.append_assoc, List.cons_append, bodyOf, takeWhile_plain hbefore hline]
  obtain ⟨gap, hyphens, hgap, hsentinel⟩ := exists_of_isDelimiter hline
  obtain ⟨lead, trail, hlead, htrail, hparts⟩ := Text.exists_trim before.flatten
  have hwhole : text ++ ['\n'] =
      lead ++ (Text.trim before.flatten ++ (trail ++ (gap ++ '-' :: (hyphens ++ after.flatten)))) := by
    rw [← flatten_textLines, hlines, List.flatten_append, List.flatten_cons, hsentinel]
    nth_rewrite 1 [hparts]
    simp only [List.append_assoc, List.cons_append]
  obtain rfl : lead = [] := eq_nil_of_lead htrim hlead (by simp) hwhole
  rw [List.nil_append] at hwhole hparts
  rw [hbody]
  rcases eq_or_ne (Text.trim before.flatten) [] with hnil | hne
  · left
    rw [hnil, List.nil_append, ← List.append_assoc] at hwhole
    have hblank : IsBlanks (trail ++ gap) := List.forall_mem_append.2 ⟨htrail, hgap⟩
    rw [eq_nil_of_lead htrim hblank List.mem_cons_self hwhole, List.nil_append] at hwhole
    cases text with
    | nil => exact absurd (List.cons.inj hwhole).1 (by decide)
    | cons e text => exact ⟨hnil, congrArg some (List.cons.inj hwhole).1⟩
  · right
    have hended : ∀ l ∈ before, ∃ part, l = part ++ ['\n'] := fun l hl =>
      exists_concat_of_mem_textLines (by rw [hlines]; exact List.mem_append_left _ hl)
    have hfeed : '\n' ∈ trail := feed_mem_trail hended hne hparts
    obtain ⟨c, trail, rfl⟩ := List.exists_cons_of_ne_nil (List.ne_nil_of_mem hfeed)
    obtain ⟨last, e, hlast⟩ : ∃ last e, '-' :: (hyphens ++ after.flatten) = last ++ [e] :=
      ⟨_, _, (List.dropLast_append_getLast (List.cons_ne_nil _ _)).symm⟩
    have hshape : text ++ ['\n'] =
        (Text.trim before.flatten ++ c :: (trail ++ (gap ++ last))) ++ [e] := by
      rw [hwhole, hlast]
      simp only [List.append_assoc, List.cons_append]
    obtain ⟨htext, he⟩ := List.append_inj' hshape rfl
    have hdash : '-' ∈ last := by
      have hmem : '-' ∈ last ++ ['\n'] := by
        rw [he, ← hlast]
        exact List.mem_cons_self
      simpa using hmem
    refine ⟨c, trail ++ (gap ++ last), htrail c List.mem_cons_self, ?_, ?_, htext⟩
    · rw [← List.cons_append]
      exact List.mem_append_left _ hfeed
    · exact List.mem_append_right _ (List.mem_append_right _ hdash)

/-- A fenced body loses its first line and what ends the fence. -/
lemma stripFence_cases {body : Text} (htrim : Text.trim body = body) :
    stripFence body = body ∨ (stripFence body = [] ∧ body.head? = some '`') ∨
      ∃ first gap after, first.head? = some '`' ∧ '\n' ∉ first ∧ IsBlanks gap ∧
        body = first ++ '\n' :: (gap ++ (stripFence body ++ after)) := by
  unfold stripFence
  rw [htrim]
  cases hopened : Text.after? fence body with
  | none => exact .inl rfl
  | some opened =>
    have hbody := Text.after?_eq_some_iff.1 hopened
    dsimp only
    cases hcut : Text.cut? ['\n'] opened with
    | none => exact .inr (.inl ⟨rfl, by rw [hbody]; rfl⟩)
    | some parts =>
      obtain ⟨info, code⟩ := parts
      dsimp only
      obtain ⟨inner, closing, hinner, hcode⟩ : ∃ inner closing,
          (Text.before? fence (Text.trimEnd code)).getD code = inner ∧ code = inner ++ closing := by
        cases hbefore : Text.before? fence (Text.trimEnd code) with
        | none => exact ⟨code, [], rfl, (List.append_nil code).symm⟩
        | some inner =>
          obtain ⟨blanks, hblanks⟩ : Text.trimEnd code <+: code := List.rdropWhile_prefix _ _
          rw [Text.before?_eq_some_iff.1 hbefore, List.append_assoc] at hblanks
          exact ⟨inner, fence ++ blanks, rfl, hblanks.symm⟩
      rw [hinner]
      obtain ⟨gap, tail, hgap, -, hparts⟩ := Text.exists_trim inner
      refine .inr (.inr ⟨fence ++ info, gap, tail ++ closing, rfl, ?_, hgap, ?_⟩)
      · rw [List.mem_append, not_or]
        exact ⟨by decide, Text.notMem_of_cut? hcut⟩
      · have hopening := Text.eq_append_of_cut? hcut
        have hlines : code = gap ++ (Text.trim inner ++ (tail ++ closing)) := by
          rw [hcode]
          nth_rewrite 1 [hparts]
          simp only [List.append_assoc]
        rw [hbody, hopening, ← hlines]
        simp

lemma trim_received (stripFences : Bool) (lines : List Text) :
    Text.trim (received stripFences lines) = received stripFences lines := by
  have hbody : Text.trim (bodyOf lines) = bodyOf lines := Text.trim_trim _
  rw [received]
  split_ifs
  · unfold stripFence
    cases Text.after? fence (Text.trim (bodyOf lines)) with
    | none => exact Text.trim_trim _
    | some opened => exact Text.trim_trim _
  · exact hbody

/-- What is read where a trimmed text stands is an excerpt of it. -/
theorem excerpt_received (htrim : Text.trim text = text) {delimiter : Text}
    (hd : isDelimiter delimiter = true) (stripFences : Bool) (rest : List Text) :
    Excerpt text (received stripFences (textLines text ++ delimiter :: rest)) := by
  have hcases := bodyOf_textLines htrim hd rest
  rw [received]
  generalize hbody : bodyOf (textLines text ++ delimiter :: rest) = body at hcases ⊢
  have hexcerpt : Excerpt text body := by
    rcases hcases with rfl | ⟨rfl, hfirst⟩ | ⟨c, after, hblank, hfeed, hdash, htext⟩
    · exact .whole
    · exact .nothing (.inl hfirst)
    · exact .cut hblank hfeed hdash htext
  have hprefix : body <+: text := by
    rcases hcases with rfl | ⟨rfl, -⟩ | ⟨c, after, -, -, -, htext⟩
    · exact List.prefix_rfl
    · exact List.nil_prefix
    · exact ⟨c :: after, htext.symm⟩
  split_ifs
  · have htrimBody : Text.trim body = body := by
      rw [← hbody]
      exact Text.trim_trim _
    obtain ⟨more, hmore⟩ := hprefix
    rcases stripFence_cases htrimBody with
      heq | ⟨hnil, hfirst⟩ | ⟨first, gap, after, hfence, hfeed, hgap, heq⟩
    · rwa [heq]
    · rw [hnil]
      refine .nothing (.inr ?_)
      rw [← hmore, List.head?_append, hfirst]
      rfl
    · have htext : text = first ++ '\n' :: (gap ++ (stripFence body ++ (after ++ more))) := by
        rw [← hmore]
        nth_rewrite 1 [heq]
        simp only [List.append_assoc, List.cons_append]
      exact .fenced hfence hfeed hgap htext
  · exact hexcerpt

end Section

end BlockAudit
