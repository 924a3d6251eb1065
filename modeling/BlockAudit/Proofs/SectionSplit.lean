import BlockAudit.Proofs.LineEndings
import BlockAudit.Proofs.SectionSearch
import BlockAudit.Section.Split

/-!
# Searching and splitting

The search for one section and the pass that collects all of them read the same response. The pass
carries its position along; what it closes for a file after a position is what the search would find
from there. The search keeps the endings of lines and the pass does not, so the bodies are the same up to
carriage returns in front of line feeds.
-/

namespace BlockAudit

namespace Section

variable {file : BlockFile} {position : Position} {line : Text} {lines rest : List Text}

/-! ### Steps of the pass -/

lemma collect_bare (h : Line.ofText line = .bare) (position : Position) (rest : List Text) :
    collect position (line :: rest) = position.close ++ collect .expectingName rest := by
  rw [collect.eq_def]
  simp only [h]

lemma collect_named {name : Text} (h : Line.ofText line = .named name) (position : Position)
    (rest : List Text) :
    collect position (line :: rest) = position.close ++ collect (.opened name) rest := by
  rw [collect.eq_def]
  simp only [h]

lemma collect_outside (h : Line.ofText line = .plain) (rest : List Text) :
    collect .outside (line :: rest) = collect .outside rest := by
  rw [collect.eq_def]
  simp only [h]

lemma collect_expectingName (h : Line.ofText line = .plain) (rest : List Text) :
    collect .expectingName (line :: rest) =
      if isBlankLine line then collect .expectingName rest else collect (.opened line) rest := by
  rw [collect.eq_def]
  simp only [h]

lemma collect_inside (h : Line.ofText line = .plain) (f : BlockFile) (body : Text)
    (rest : List Text) :
    collect (.inside f body) (line :: rest) =
      collect (.inside f (body ++ line ++ ['\n'])) rest := by
  rw [collect.eq_def]
  simp only [h]

/-! ### What the search expects -/

/-- The body of the first of the given sections that is for the file. -/
def firstBody? (file : BlockFile) (sections : List Section) : Option Text :=
  (sections.find? fun s => s.1 = file).map Prod.snd

lemma firstBody?_append (file : BlockFile) (before after : List Section) :
    firstBody? file (before ++ after) = (firstBody? file before).or (firstBody? file after) := by
  rw [firstBody?, List.find?_append, Option.map_or]
  rfl

/-- The lines up to the next delimiter as one text, with a line feed in the place of each ending. -/
def turned (lines : List Text) : Text :=
  (lines.takeWhile fun line => !isDelimiter line).flatMap fun line => Text.chomp line ++ ['\n']

lemma turned_delimiter (h : isDelimiter line = true) (rest : List Text) :
    turned (line :: rest) = [] := by
  rw [turned, List.takeWhile_cons_of_neg (by simp [h])]
  rfl

lemma turned_plain (h : Line.ofText line = .plain) (rest : List Text) :
    turned (line :: rest) = Text.chomp line ++ ['\n'] ++ turned rest := by
  rw [turned, List.takeWhile_cons_of_pos (by simp [isDelimiter, h]), List.flatMap_cons, turned]

lemma trim_turned (h : Text.AreLines lines) :
    Text.trim (turned lines) = Text.unixLines (bodyOf lines) :=
  Text.trim_flatMap_chomp (h.takeWhile _)

/-- What the search finds from a position on: the body that is being read counts, if it is for the file,
and so does a name that is expected. -/
def expected (file : BlockFile) (lines : List Text) : Position → Option Text
  | .outside => (linesAfter? file.marker lines).map (Text.trim ∘ turned)
  | .expectingName =>
    ((linesAfterName? file.marker lines).or (linesAfter? file.marker lines)).map (Text.trim ∘ turned)
  | .inside f body =>
    if f = file then some (Text.trim (body ++ turned lines))
    else (linesAfter? file.marker lines).map (Text.trim ∘ turned)

lemma ofMarker?_eq_some_iff {name : Text} :
    BlockFile.ofMarker? name = some file ↔ Text.trim name = file.marker := by
  constructor
  · intro h
    have hmarker := List.find?_some h
    exact (by simpa using hmarker : file.marker = Text.trim name).symm
  · intro h
    unfold BlockFile.ofMarker?
    rw [h]
    cases file <;> decide

/-- A name opens the section of the file that it names, and of no other. -/
lemma expected_opened (name : Text) (lines : List Text) :
    expected file lines (.opened name) =
      if Text.trim name = file.marker then some (Text.trim (turned lines))
      else (linesAfter? file.marker lines).map (Text.trim ∘ turned) := by
  unfold Position.opened
  cases hfile : BlockFile.ofMarker? name with
  | none =>
    have hother : ¬Text.trim name = file.marker := by
      intro h
      rw [ofMarker?_eq_some_iff.2 h] at hfile
      exact absurd hfile (by simp)
    rw [if_neg hother]
    rfl
  | some f =>
    have hname := ofMarker?_eq_some_iff.1 hfile
    have hsame : Text.trim name = file.marker ↔ f = file :=
      ⟨fun h => marker_injective (hname.symm.trans h), fun h => h ▸ hname⟩
    simp only [expected, hsame, List.nil_append]

/-- A delimiter closes the section that is being read. -/
lemma expected_delimiter (h : isDelimiter line = true) (rest : List Text) (position : Position) :
    expected file (line :: rest) position = (firstBody? file position.close).or
      ((linesAfter? file.marker (line :: rest)).map (Text.trim ∘ turned)) := by
  cases position with
  | outside => rfl
  | expectingName =>
    have hplain : Line.ofText line ≠ .plain := by simpa [isDelimiter] using h
    have hvisible : isBlankLine line = false := by
      rw [Bool.eq_false_iff]
      exact fun hblank => hplain (ofText_of_isBlankLine hblank)
    have hname : ¬Text.trim line = file.marker := fun hmarker =>
      hplain (ofText_of_trim_eq_marker hmarker)
    rw [expected, linesAfterName?_visible hvisible, if_neg hname]
    rfl
  | inside f body =>
    rw [expected, turned_delimiter h, List.append_nil]
    by_cases hf : f = file
    · simp [firstBody?, Position.close, hf]
    · simp [firstBody?, Position.close, hf]

/-- The pass closes for a file first what the search finds from the same position. -/
lemma firstBody?_collect (file : BlockFile) (lines : List Text) (position : Position) :
    firstBody? file (collect position (lines.map Text.chomp)) = expected file lines position := by
  induction lines generalizing position with
  | nil =>
    cases position with
    | outside => rfl
    | expectingName => rfl
    | inside f body =>
      have hnil : turned [] = [] := rfl
      rw [expected, hnil, List.append_nil]
      by_cases hf : f = file
      · simp [firstBody?, collect, Position.close, hf]
      · simp [firstBody?, collect, Position.close, hf, linesAfter?]
  | cons line rest ih =>
    have hchomp : Line.ofText (Text.chomp line) = Line.ofText line :=
      ofText_congr (Text.trim_chomp line)
    rw [List.map_cons]
    cases hline : Line.ofText line with
    | bare =>
      have hd : isDelimiter line = true := by simp [isDelimiter, hline]
      have hnext : firstBody? file (collect .expectingName (rest.map Text.chomp)) =
          (linesAfter? file.marker (line :: rest)).map (Text.trim ∘ turned) := by
        rw [ih, expected, linesAfter?_bare hline]
      rw [collect_bare (hchomp.trans hline), firstBody?_append, hnext, expected_delimiter hd]
    | named name =>
      have hd : isDelimiter line = true := by simp [isDelimiter, hline]
      have hname : Text.trim name = name := trim_of_ofText_eq_named hline
      have hnext : firstBody? file (collect (.opened name) (rest.map Text.chomp)) =
          (linesAfter? file.marker (line :: rest)).map (Text.trim ∘ turned) := by
        rw [ih, expected_opened, hname, linesAfter?_named hline]
        split <;> rfl
      rw [collect_named (hchomp.trans hline), firstBody?_append, hnext, expected_delimiter hd]
    | plain =>
      have hpassed : linesAfter? file.marker (line :: rest) = linesAfter? file.marker rest :=
        linesAfter?_plain hline rest
      cases position with
      | outside => rw [collect_outside (hchomp.trans hline), ih, expected, expected, hpassed]
      | expectingName =>
        rw [collect_expectingName (hchomp.trans hline), isBlankLine_congr (Text.trim_chomp line),
          expected, hpassed]
        cases hblank : isBlankLine line with
        | true => rw [if_pos rfl, ih, expected, linesAfterName?_blank hblank]
        | false =>
          rw [if_neg Bool.false_ne_true, ih, expected_opened, Text.trim_chomp,
            linesAfterName?_visible hblank]
          split <;> rfl
      | inside f body =>
        rw [collect_inside (hchomp.trans hline), ih, expected, expected, hpassed, turned_plain hline]
        simp only [List.append_assoc]

/-! ### Both readings of a response -/

/-- The first section of a file that the pass collects is the one that the search finds. -/
lemma firstBody?_splitAll (response : Text) (file : BlockFile) :
    firstBody? file (splitAll response) = (extract? response file).map Text.unixLines := by
  have hlines := Text.areLines_fullLines response
  rw [splitAll, Text.lines, firstBody?_collect, expected, extract?, Option.map_map]
  cases hrest : linesAfter? file.marker (Text.fullLines response) with
  | none => rfl
  | some rest =>
    have hturned := trim_turned (hlines.of_suffix (suffix_of_linesAfter? hrest))
    exact congrArg some hturned

/-- A file has a section for the search exactly when it has one for the pass over the response, and the
first section that the pass collects for it has the body that the search finds, with a line feed in the
place of every pair of a carriage return and a line feed. -/
theorem extract?_agrees_splitAll (response : Text) (file : BlockFile) :
    (extract? response file = none ↔ ∀ s ∈ splitAll response, s.1 ≠ file) ∧
      (splitAll response).find? (fun s => s.1 = file) =
        (extract? response file).map fun body => (file, Text.replace ['\r', '\n'] ['\n'] body) := by
  have hbody := firstBody?_splitAll response file
  rw [firstBody?] at hbody
  constructor
  · rw [← Option.map_eq_none_iff (f := Text.unixLines), ← hbody, Option.map_eq_none_iff,
      List.find?_eq_none]
    simp
  · cases hfirst : (splitAll response).find? fun s => s.1 = file with
    | none =>
      rw [hfirst, Option.map_none] at hbody
      rw [Option.map_eq_none_iff.1 hbody.symm, Option.map_none]
    | some s =>
      obtain ⟨f, text⟩ := s
      have hfile : f = file := by simpa using List.find?_some hfirst
      rw [hfirst, Option.map_some] at hbody
      obtain ⟨body, hfound, rfl⟩ := Option.map_eq_some_iff.1 hbody.symm
      rw [hfound, hfile]
      rfl

end Section

end BlockAudit
