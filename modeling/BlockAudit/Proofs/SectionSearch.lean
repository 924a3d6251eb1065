import BlockAudit.Proofs.Sections

/-!
# The search for a section, line by line

Each kind of line moves the search on in one way. A plain line is passed over, a sentinel with a name
either introduces the section or is passed over, and a bare sentinel introduces the section that the
first visible line behind it names, if it names the one that is looked for. White space at the ends of
a response makes no difference to what is found.
-/

namespace BlockAudit

namespace Section

variable {marker line : Text}

/-! ### Kinds of lines -/

/-- White space around a line does not matter. -/
lemma ofText_congr {line' : Text} (h : Text.trim line = Text.trim line') :
    Line.ofText line = Line.ofText line' := by rw [Line.ofText, Line.ofText, h]

lemma isBlankLine_iff : isBlankLine line = true ↔ Text.trim line = [] := by
  rw [isBlankLine, List.all_eq_true, Text.trim_eq_nil_iff]

lemma isBlankLine_congr {line' : Text} (h : Text.trim line = Text.trim line') :
    isBlankLine line = isBlankLine line' := by
  rw [Bool.eq_iff_iff, isBlankLine_iff, isBlankLine_iff, h]

lemma ofText_of_isBlankLine (h : isBlankLine line = true) : Line.ofText line = .plain := by
  rw [Line.ofText, isBlankLine_iff.1 h]
  rfl

lemma trim_marker (file : BlockFile) : Text.trim file.marker = file.marker := by
  cases file <;> decide

lemma ofText_marker (file : BlockFile) : Line.ofText file.marker = .plain := by
  cases file <;> decide

/-- A line that names a file is no sentinel. -/
lemma ofText_of_trim_eq_marker {file : BlockFile} (h : Text.trim line = file.marker) :
    Line.ofText line = .plain := by
  rw [ofText_congr (h.trans (trim_marker file).symm), ofText_marker]

/-- The name on a sentinel has no white space around it. -/
lemma trim_of_ofText_eq_named {name : Text} (h : Line.ofText line = .named name) :
    Text.trim name = name := by
  unfold Line.ofText at h
  split at h
  · exact Line.noConfusion h
  · exact Line.noConfusion h
  · next c rest hafter =>
    split_ifs at h with hc hmarker
    · obtain rfl := Line.named.inj h
      exact Text.trim_trim rest
    · obtain rfl := Line.named.inj h
      have htrimmed := Text.trim_trim line
      rw [Text.after?_eq_some_iff.1 hafter] at htrimmed
      exact Text.trim_of_append_cons htrimmed (by simpa using hc)

/-! ### Steps of the search -/

/-- The lines behind a marker that stands alone on the first line that is not blank. -/
def linesAfterName? (marker : Text) (lines : List Text) : Option (List Text) :=
  match lines.dropWhile isBlankLine with
  | [] => none
  | candidate :: body => if Text.trim candidate = marker then some body else none

lemma linesAfterName?_blank (h : isBlankLine line = true) (rest : List Text) :
    linesAfterName? marker (line :: rest) = linesAfterName? marker rest := by
  rw [linesAfterName?, List.dropWhile_cons_of_pos h]
  rfl

lemma linesAfterName?_visible (h : isBlankLine line = false) (rest : List Text) :
    linesAfterName? marker (line :: rest) =
      if Text.trim line = marker then some rest else none := by
  rw [linesAfterName?, List.dropWhile_cons_of_neg (by simp [h])]

lemma linesAfter?_plain (h : Line.ofText line = .plain) (rest : List Text) :
    linesAfter? marker (line :: rest) = linesAfter? marker rest := by
  rw [linesAfter?, h]

lemma linesAfter?_named {name : Text} (h : Line.ofText line = .named name) (rest : List Text) :
    linesAfter? marker (line :: rest) =
      if name = marker then some rest else linesAfter? marker rest := by
  rw [linesAfter?, h]

lemma linesAfter?_bare (h : Line.ofText line = .bare) (rest : List Text) :
    linesAfter? marker (line :: rest) =
      (linesAfterName? marker rest).or (linesAfter? marker rest) := by
  rw [linesAfter?, h, linesAfterName?]
  dsimp only
  cases hvisible : rest.dropWhile isBlankLine with
  | nil =>
    have hplain : ∀ l ∈ rest, Line.ofText l = .plain := fun l hl =>
      ofText_of_isBlankLine (List.dropWhile_eq_nil_iff.1 hvisible l hl)
    have hnone : linesAfter? marker (rest ++ []) = none := linesAfter?_of_plain hplain []
    rw [List.append_nil] at hnone
    rw [hnone]
    rfl
  | cons candidate body =>
    dsimp only
    split <;> rfl

/-- What the search leaves is an end of the lines. -/
lemma suffix_of_linesAfterName? {lines rest : List Text}
    (h : linesAfterName? marker lines = some rest) : rest <:+ lines := by
  induction lines with
  | nil => exact absurd h (by simp [linesAfterName?])
  | cons line lines ih =>
    refine List.IsSuffix.trans ?_ (List.suffix_cons line lines)
    cases hblank : isBlankLine line with
    | true =>
      rw [linesAfterName?_blank hblank] at h
      exact ih h
    | false =>
      rw [linesAfterName?_visible hblank] at h
      split_ifs at h
      obtain rfl := Option.some.inj h
      exact List.suffix_refl _

lemma suffix_of_linesAfter? {lines rest : List Text} (h : linesAfter? marker lines = some rest) :
    rest <:+ lines := by
  induction lines with
  | nil => exact absurd h (by simp [linesAfter?])
  | cons line lines ih =>
    refine List.IsSuffix.trans ?_ (List.suffix_cons line lines)
    cases hline : Line.ofText line with
    | plain =>
      rw [linesAfter?_plain hline] at h
      exact ih h
    | named name =>
      rw [linesAfter?_named hline] at h
      split_ifs at h
      · obtain rfl := Option.some.inj h
        exact List.suffix_refl _
      · exact ih h
    | bare =>
      rw [linesAfter?_bare hline, Option.or_eq_some_iff] at h
      rcases h with hname | ⟨-, hlater⟩
      · exact suffix_of_linesAfterName? hname
      · exact ih hlater

/-! ### White space at the ends -/

lemma linesAfter?_congr {line' : Text} (h : Line.ofText line = Line.ofText line')
    (rest : List Text) : linesAfter? marker (line :: rest) = linesAfter? marker (line' :: rest) := by
  rw [linesAfter?, linesAfter?, h]

lemma extract?_cons_blank {c : Char} (hc : Text.isBlank c = true) (s : Text) (file : BlockFile) :
    extract? (c :: s) file = extract? s file := by
  have hblank : isBlankLine [c] = true := by simpa [isBlankLine] using hc
  have hplain : Line.ofText [c] = .plain := ofText_of_isBlankLine hblank
  rw [extract?, extract?, Text.fullLines]
  by_cases hfeed : c = '\n'
  · rw [if_pos hfeed, linesAfter?_plain hplain]
  · rw [if_neg hfeed]
    cases Text.fullLines s with
    | nil => rw [linesAfter?_plain hplain]
    | cons line rest =>
      have hline : Text.trim (c :: line) = Text.trim line := Text.trim_cons_blank hc line
      rw [linesAfter?_congr (ofText_congr hline)]

/-- Lines that differ by one character of white space: it stands alone on a line behind the first lines,
or it ends the last of them. -/
inductive EndAlike (c : Char) : List Text → List Text → Prop
  | line : EndAlike c [] [[c]]
  | char (last : Text) : EndAlike c [last] [last ++ [c]]
  | cons (line : Text) {lines lines' : List Text} (h : EndAlike c lines lines') :
      EndAlike c (line :: lines) (line :: lines')

lemma endAlike_fullLines (s : Text) (c : Char) :
    EndAlike c (Text.fullLines s) (Text.fullLines (s ++ [c])) := by
  induction s with
  | nil =>
    have hlines : Text.fullLines [c] = [[c]] := by
      rw [Text.fullLines, Text.fullLines]
      split <;> rfl
    rw [List.nil_append, hlines]
    exact .line
  | cons d s ih =>
    rw [List.cons_append, Text.fullLines, Text.fullLines]
    by_cases hd : d = '\n'
    · rw [if_pos hd, if_pos hd]
      exact .cons _ ih
    · rw [if_neg hd, if_neg hd]
      generalize Text.fullLines s = lines at ih ⊢
      generalize Text.fullLines (s ++ [c]) = lines' at ih ⊢
      cases ih with
      | line => exact .char [d]
      | char last => exact .char (d :: last)
      | cons line h => exact .cons (d :: line) h

section EndAlike

variable {c : Char} {lines lines' : List Text}

/-- Up to the next delimiter, the character is read or it is not. -/
lemma EndAlike.flatten_takeWhile (h : EndAlike c lines lines') (hc : Text.isBlank c = true) :
    (lines'.takeWhile fun line => !isDelimiter line).flatten =
        (lines.takeWhile fun line => !isDelimiter line).flatten ∨
      (lines'.takeWhile fun line => !isDelimiter line).flatten =
        (lines.takeWhile fun line => !isDelimiter line).flatten ++ [c] := by
  induction h with
  | line =>
    have hplain : Line.ofText [c] = .plain :=
      ofText_of_isBlankLine (by simpa [isBlankLine] using hc)
    right
    simp [isDelimiter_eq_false.2 hplain]
  | char last =>
    have hkind : isDelimiter (last ++ [c]) = isDelimiter last := by
      rw [isDelimiter, isDelimiter, ofText_congr (Text.trim_concat_blank hc last)]
    cases hlast : isDelimiter last with
    | true => simp [hkind, hlast]
    | false => simp [hkind, hlast]
  | cons line h ih =>
    cases hline : isDelimiter line with
    | true => simp [hline]
    | false => simpa [hline] using ih

lemma EndAlike.bodyOf_eq (h : EndAlike c lines lines') (hc : Text.isBlank c = true) :
    bodyOf lines' = bodyOf lines := by
  rcases h.flatten_takeWhile hc with heq | heq
  · rw [bodyOf, bodyOf, heq]
  · rw [bodyOf, bodyOf, heq, Text.trim_concat_blank hc]

lemma EndAlike.linesAfterName?_eq (h : EndAlike c lines lines') (hc : Text.isBlank c = true) :
    (linesAfterName? marker lines').map bodyOf = (linesAfterName? marker lines).map bodyOf := by
  induction h with
  | line => rw [linesAfterName?_blank (by simpa [isBlankLine] using hc)]
  | char last =>
    have htrim := Text.trim_concat_blank hc last
    cases hlast : isBlankLine last with
    | true => rw [linesAfterName?_blank ((isBlankLine_congr htrim).trans hlast),
        linesAfterName?_blank hlast]
    | false => rw [linesAfterName?_visible ((isBlankLine_congr htrim).trans hlast),
        linesAfterName?_visible hlast, htrim]
  | cons line h ih =>
    cases hline : isBlankLine line with
    | true => rw [linesAfterName?_blank hline, linesAfterName?_blank hline, ih]
    | false =>
      rw [linesAfterName?_visible hline, linesAfterName?_visible hline]
      split_ifs
      · rw [Option.map_some, Option.map_some, h.bodyOf_eq hc]
      · rfl

lemma EndAlike.linesAfter?_eq (h : EndAlike c lines lines') (hc : Text.isBlank c = true) :
    (linesAfter? marker lines').map bodyOf = (linesAfter? marker lines).map bodyOf := by
  induction h with
  | line =>
    have hblank : isBlankLine [c] = true := by simpa [isBlankLine] using hc
    rw [linesAfter?_plain (ofText_of_isBlankLine hblank)]
  | char last => rw [linesAfter?_congr (ofText_congr (Text.trim_concat_blank hc last))]
  | cons line h ih =>
    cases hline : Line.ofText line with
    | plain => rw [linesAfter?_plain hline, linesAfter?_plain hline, ih]
    | named name =>
      rw [linesAfter?_named hline, linesAfter?_named hline]
      split_ifs
      · rw [Option.map_some, Option.map_some, h.bodyOf_eq hc]
      · exact ih
    | bare =>
      rw [linesAfter?_bare hline, linesAfter?_bare hline, Option.map_or, Option.map_or, ih,
        h.linesAfterName?_eq hc]

end EndAlike

lemma extract?_concat_blank {c : Char} (hc : Text.isBlank c = true) (s : Text) (file : BlockFile) :
    extract? (s ++ [c]) file = extract? s file :=
  (endAlike_fullLines s c).linesAfter?_eq hc

/-- White space at the ends of a response does not matter. -/
lemma extract?_trim (response : Text) (file : BlockFile) :
    extract? (Text.trim response) file = extract? response file :=
  Text.apply_trim (f := fun s => extract? s file) (fun _ s hc => extract?_cons_blank hc s file)
    (fun _ s hc => extract?_concat_blank hc s file) response

end Section

end BlockAudit
