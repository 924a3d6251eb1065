import BlockAudit.Proofs.Lines
import BlockAudit.Proofs.Trim
import BlockAudit.Section.Extract
import BlockAudit.Section.Fence

/-!
# Sections of a response

What the search for a section makes of plain lines, of the lines that introduce a section, and of the
lines up to the next delimiter. The body of a section is never longer than the text that stands
there, and it is that text exactly when no line of the text is a delimiter; a fence that is taken off
leaves a shorter text.
-/

namespace BlockAudit

namespace Section

/-- No line of the text is a sentinel. -/
def IsPlain (text : Text) : Prop := ∀ line ∈ Text.splitOn '\n' text, Line.ofText line = .plain

/-- A text that a section gives back unchanged. -/
structure Survives (stripFences : Bool) (text : Text) : Prop where
  trimmed : Text.trim text = text
  plain : IsPlain text
  unfenced : stripFences = true → Text.startsWith fence text = false

/-- The line that a sentinel stands on alone. -/
def sentinelLine : Text := sentinel ++ ['\n']

/-- The line that holds the marker of a file. -/
def markerLine (file : BlockFile) : Text := file.marker ++ ['\n']

/-- The lines of a text, the last one ended by a line feed as well. -/
def textLines (text : Text) : List Text := Text.fullLines (text ++ ['\n'])

lemma ofText_concat (line : Text) : Line.ofText (line ++ ['\n']) = Line.ofText line := by
  rw [Line.ofText, Line.ofText, Text.trim_concat_blank (by decide)]

lemma isDelimiter_eq_false {line : Text} : isDelimiter line = false ↔ Line.ofText line = .plain := by
  simp [isDelimiter]

lemma flatten_textLines (text : Text) : (textLines text).flatten = text ++ ['\n'] :=
  Text.flatten_fullLines _

lemma isPlain_iff {text : Text} :
    IsPlain text ↔ ∀ line ∈ textLines text, Line.ofText line = .plain := by
  simp [IsPlain, textLines, Text.fullLines_concat, ofText_concat]

/-! ### Where a section begins -/

lemma ofText_sentinelLine : Line.ofText sentinelLine = .bare := by decide

lemma ofText_markerLine (file : BlockFile) : Line.ofText (markerLine file) = .plain := by
  cases file <;> decide

lemma trim_markerLine (file : BlockFile) : Text.trim (markerLine file) = file.marker := by
  cases file <;> decide

lemma isBlankLine_markerLine (file : BlockFile) : isBlankLine (markerLine file) = false := by
  cases file <;> decide

lemma marker_injective {f g : BlockFile} (h : f.marker = g.marker) : f = g := by
  cases f <;> cases g <;> first | rfl | exact absurd h (by decide)

lemma linesAfter?_of_plain {marker : Text} {before : List Text}
    (h : ∀ line ∈ before, Line.ofText line = .plain) (rest : List Text) :
    linesAfter? marker (before ++ rest) = linesAfter? marker rest := by
  induction before with
  | nil => rfl
  | cons line before ih =>
    rw [List.cons_append, linesAfter?, h line List.mem_cons_self]
    exact ih fun l hl => h l (List.mem_cons_of_mem _ hl)

lemma linesAfter?_introduced (marker : Text) (file : BlockFile) (rest : List Text) :
    linesAfter? marker (sentinelLine :: markerLine file :: rest) =
      if file.marker = marker then some rest else linesAfter? marker rest := by
  have hskip : linesAfter? marker (markerLine file :: rest) = linesAfter? marker rest := by
    rw [linesAfter?, ofText_markerLine]
  have hdrop : (markerLine file :: rest).dropWhile isBlankLine = markerLine file :: rest :=
    List.dropWhile_cons_of_neg (by simp [isBlankLine_markerLine])
  rw [linesAfter?, ofText_sentinelLine, hdrop, hskip]
  simp only [trim_markerLine]

lemma isSome_linesAfter? (file : BlockFile) (before rest : List Text) :
    (linesAfter? file.marker (before ++ sentinelLine :: markerLine file :: rest)).isSome := by
  induction before with
  | nil => simp [linesAfter?_introduced]
  | cons line before ih =>
    rw [List.cons_append, linesAfter?]
    cases hline : Line.ofText line with
    | plain => exact ih
    | named name =>
      by_cases hname : name = file.marker
      · simp [hname]
      · simpa [hname] using ih
    | bare =>
      have hvisible : (before ++ sentinelLine :: markerLine file :: rest).dropWhile isBlankLine ≠
          [] := by
        intro hnil
        have hblank := List.dropWhile_eq_nil_iff.1 hnil sentinelLine (by simp)
        exact absurd hblank (by decide)
      obtain ⟨candidate, body, hcandidate⟩ := List.exists_cons_of_ne_nil hvisible
      simp only [hcandidate]
      by_cases hmarker : Text.trim candidate = file.marker
      · simp [hmarker]
      · simpa [hmarker] using ih

/-! ### Where a section ends -/

lemma length_of_isDelimiter {text line : Text} (hline : line ∈ textLines text)
    (hd : isDelimiter line = true) : 3 < line.length := by
  rw [textLines, Text.fullLines_concat] at hline
  obtain ⟨part, -, rfl⟩ := List.mem_map.1 hline
  cases hafter : Text.after? sentinel (Text.trim part) with
  | none =>
    have hplain : Line.ofText part = .plain := by rw [Line.ofText, hafter]
    simp [isDelimiter, ofText_concat, hplain] at hd
  | some rest =>
    have htrim : Text.trim part = sentinel ++ rest := Text.after?_eq_some_iff.1 hafter
    have hle := Text.length_trim_le part
    have hthree : sentinel.length = 3 := rfl
    simp only [htrim, List.length_append, hthree] at hle
    simp only [List.length_append, List.length_singleton]
    omega

lemma exists_delimiter {text : Text} (h : ¬IsPlain text) :
    ∃ before line after, textLines text = before ++ line :: after ∧
      (∀ l ∈ before, Line.ofText l = .plain) ∧ isDelimiter line = true := by
  have hne : (textLines text).dropWhile (fun line => !isDelimiter line) ≠ [] := by
    intro hnil
    refine h (isPlain_iff.2 fun line hline => isDelimiter_eq_false.1 ?_)
    simpa using List.dropWhile_eq_nil_iff.1 hnil line hline
  obtain ⟨line, after, hafter⟩ := List.exists_cons_of_ne_nil hne
  refine ⟨(textLines text).takeWhile (fun line => !isDelimiter line), line, after, ?_, ?_, ?_⟩
  · rw [← hafter, List.takeWhile_append_dropWhile]
  · intro l hl
    have hpass := List.all_eq_true.1 List.all_takeWhile l hl
    exact isDelimiter_eq_false.1 (by simpa using hpass)
  · have hhead := List.head?_dropWhile_not (fun line => !isDelimiter line) (textLines text)
    rw [hafter] at hhead
    simpa using hhead

lemma takeWhile_plain {before : List Text} (h : ∀ line ∈ before, Line.ofText line = .plain)
    {delimiter : Text} (hd : isDelimiter delimiter = true) (rest : List Text) :
    (before ++ delimiter :: rest).takeWhile (fun line => !isDelimiter line) = before := by
  have hpass : ∀ line ∈ before, (!isDelimiter line) = true := by
    intro line hline
    rw [isDelimiter_eq_false.2 (h line hline)]
    rfl
  have hend : (delimiter :: rest).takeWhile (fun line => !isDelimiter line) = [] :=
    List.takeWhile_cons_of_neg (by simp [hd])
  rw [List.takeWhile_append_of_pos hpass, hend, List.append_nil]

lemma bodyOf_of_isPlain {text delimiter : Text} (h : IsPlain text)
    (hd : isDelimiter delimiter = true) (rest : List Text) :
    bodyOf (textLines text ++ delimiter :: rest) = Text.trim text := by
  rw [bodyOf, takeWhile_plain (isPlain_iff.1 h) hd, flatten_textLines,
    Text.trim_concat_blank (by decide)]

/-- A text with a delimiter among its lines is cut before it. -/
lemma length_bodyOf_lt {text : Text} (h : ¬IsPlain text) (rest : List Text) :
    (bodyOf (textLines text ++ rest)).length < text.length := by
  obtain ⟨before, line, after, hlines, hplain, hd⟩ := exists_delimiter h
  have hmem : line ∈ textLines text := by
    rw [hlines]
    exact List.mem_append_right _ List.mem_cons_self
  have hlong : 3 < line.length := length_of_isDelimiter hmem hd
  have htotal := congrArg List.length (flatten_textLines text)
  simp only [hlines, List.flatten_append, List.flatten_cons, List.length_append,
    List.length_singleton] at htotal
  have htrim := Text.length_trim_le before.flatten
  rw [bodyOf, hlines, List.append_assoc, List.cons_append, takeWhile_plain hplain hd]
  omega

/-! ### Fences -/

lemma stripFence_of_unfenced {body : Text} (h : Text.startsWith fence (Text.trim body) = false) :
    stripFence body = Text.trim body := by
  have hnone : Text.after? fence (Text.trim body) = none := by
    simpa [Text.startsWith] using h
  rw [stripFence, hnone]

lemma length_before?_le {word s before : Text} (h : Text.before? word s = some before) :
    before.length ≤ s.length := by
  obtain ⟨r, hr, rfl⟩ := Option.map_eq_some_iff.1 h
  have hs := congrArg List.length (Text.after?_eq_some_iff.1 hr)
  simp only [List.length_reverse, List.length_append] at hs ⊢
  omega

/-- The code of a fenced body is what stands behind the first line, without its closing fence if it
has one. -/
lemma exists_code_of_fenced {body opened : Text}
    (h : Text.after? fence (Text.trim body) = some opened) :
    ∃ code : Text, code.length ≤ opened.length ∧
      stripFence body = Text.trim ((Text.before? fence (Text.trimEnd code)).getD code) := by
  simp only [stripFence, h]
  cases hcut : Text.cut? ['\n'] opened with
  | none => exact ⟨[], Nat.zero_le _, rfl⟩
  | some cut =>
    obtain ⟨info, code⟩ := cut
    refine ⟨code, ?_, rfl⟩
    have hlength := congrArg List.length (Text.eq_append_of_cut? hcut)
    simp only [List.length_append] at hlength
    omega

lemma length_stripFence_lt {body : Text} (h : Text.startsWith fence (Text.trim body) = true) :
    (stripFence body).length < body.length := by
  obtain ⟨opened, hopened⟩ := Option.isSome_iff_exists.1 h
  have htrim := congrArg List.length (Text.after?_eq_some_iff.1 hopened)
  have hthree : fence.length = 3 := rfl
  rw [List.length_append, hthree] at htrim
  have hbody := Text.length_trim_le body
  obtain ⟨code, hcode, hstrip⟩ := exists_code_of_fenced hopened
  have hinner : ((Text.before? fence (Text.trimEnd code)).getD code).length ≤ code.length := by
    cases hbefore : Text.before? fence (Text.trimEnd code) with
    | none => exact le_refl _
    | some inner =>
      have hend : (Text.trimEnd code).length ≤ code.length :=
        (List.rdropWhile_prefix _ _).length_le
      exact (length_before?_le hbefore).trans hend
  have hle := Text.length_trim_le ((Text.before? fence (Text.trimEnd code)).getD code)
  rw [hstrip]
  omega

lemma length_stripFence_le (body : Text) : (stripFence body).length ≤ body.length := by
  cases h : Text.startsWith fence (Text.trim body) with
  | true => exact (length_stripFence_lt h).le
  | false =>
    rw [stripFence_of_unfenced h]
    exact Text.length_trim_le body

/-! ### What comes back -/

/-- The body that is read from the lines behind a marker. -/
def received (stripFences : Bool) (lines : List Text) : Text :=
  if stripFences then stripFence (bodyOf lines) else bodyOf lines

lemma length_received_le (stripFences : Bool) (lines : List Text) :
    (received stripFences lines).length ≤ (bodyOf lines).length := by
  rw [received]
  split_ifs
  · exact length_stripFence_le _
  · exact le_refl _

lemma Survives.received_eq {stripFences : Bool} {text delimiter : Text}
    (h : Survives stripFences text) (hd : isDelimiter delimiter = true) (rest : List Text) :
    received stripFences (textLines (Text.trim text) ++ delimiter :: rest) = text := by
  rw [h.trimmed, received, bodyOf_of_isPlain h.plain hd, h.trimmed]
  by_cases hstrip : stripFences = true
  · have hfence := h.unfenced hstrip
    rw [← h.trimmed] at hfence
    rw [if_pos hstrip, stripFence_of_unfenced hfence, h.trimmed]
  · rw [if_neg hstrip]

/-- A section gives its text back exactly when the text survives; any other text comes back
shorter. -/
theorem received_eq_iff {stripFences : Bool} {text delimiter : Text}
    (hd : isDelimiter delimiter = true) (rest : List Text) :
    received stripFences (textLines (Text.trim text) ++ delimiter :: rest) = text ↔
      Survives stripFences text := by
  refine ⟨fun heq => ?_, fun h => h.received_eq hd rest⟩
  have hlength := length_received_le stripFences (textLines (Text.trim text) ++ delimiter :: rest)
  rw [heq] at hlength
  have hplain : IsPlain (Text.trim text) := by
    by_contra hplain
    have hcut := length_bodyOf_lt hplain (delimiter :: rest)
    have hle := Text.length_trim_le text
    omega
  rw [bodyOf_of_isPlain hplain hd, Text.trim_trim] at hlength
  have htrimmed : Text.trim text = text := by
    by_contra htrim
    have hlt := Text.length_trim_lt htrim
    omega
  rw [htrimmed] at hplain
  refine ⟨htrimmed, hplain, fun hstrip => ?_⟩
  rw [htrimmed, received, if_pos hstrip, bodyOf_of_isPlain hplain hd, htrimmed] at heq
  by_contra hfence
  have hlt : (stripFence text).length < text.length := by
    refine length_stripFence_lt ?_
    rw [htrimmed]
    simpa using hfence
  rw [heq] at hlt
  omega

end Section

end BlockAudit
