import BlockAudit.Proofs.ComposedRuns
import BlockAudit.Proofs.LineEndings
import BlockAudit.Proofs.SectionSearch

/-!
# Bodies of sections

The body that is found for a file is a part of the response, with no white space at its ends and no
sentinel among its lines. Such a text survives its section when it is composed again, so what was parsed
without a look at fences is parsed back.
-/

namespace BlockAudit

namespace Text

lemma trim_infix (s : Text) : trim s <:+: s := by
  obtain ⟨x, y, -, -, hs⟩ := exists_trim s
  refine ⟨x, y, ?_⟩
  rw [List.append_assoc]
  exact hs.symm

end Text

namespace Section

variable {lines : List Text} {response body : Text} {file : BlockFile}

/-! ### Texts without a sentinel -/

/-- Whole lines without a sentinel make a text without one. -/
lemma isPlain_flatten (hlines : Text.AreLines lines) (h : ∀ l ∈ lines, Line.ofText l = .plain) :
    IsPlain lines.flatten := by
  induction lines with
  | nil => exact List.forall_mem_singleton.2 (by decide)
  | cons line lines ih =>
    obtain ⟨⟨part, hpart, hline⟩, hrest⟩ := hlines
    obtain ⟨hfirst, hlater⟩ := List.forall_mem_cons.1 h
    rcases hline with rfl | ⟨rfl, rfl⟩
    · rw [IsPlain, List.flatten_cons, List.append_assoc, List.singleton_append, Text.splitOn_append,
        Text.splitOn_of_notMem hpart]
      rw [ofText_concat] at hfirst
      exact List.forall_mem_cons.2 ⟨hfirst, ih hrest hlater⟩
    · rw [IsPlain, List.flatten_cons, List.flatten_nil, List.append_nil,
        Text.splitOn_of_notMem hpart]
      exact List.forall_mem_singleton.2 hfirst

/-- A character of white space at the end changes the kind of no line. -/
lemma EndAlike.plain_iff {c : Char} {lines' : List Text} (h : EndAlike c lines lines')
    (hc : Text.isBlank c = true) :
    (∀ l ∈ lines', Line.ofText l = .plain) ↔ ∀ l ∈ lines, Line.ofText l = .plain := by
  induction h with
  | line =>
    have hplain : Line.ofText [c] = .plain :=
      ofText_of_isBlankLine (by simpa [isBlankLine] using hc)
    simp [hplain]
  | char last => simp [ofText_congr (Text.trim_concat_blank hc last)]
  | cons line h ih => rw [List.forall_mem_cons, List.forall_mem_cons, ih]

lemma isPlain_iff_fullLines {text : Text} :
    IsPlain text ↔ ∀ l ∈ Text.fullLines text, Line.ofText l = .plain :=
  isPlain_iff.trans ((endAlike_fullLines text '\n').plain_iff (by decide))

lemma isPlain_concat_blank {c : Char} (hc : Text.isBlank c = true) (s : Text) :
    IsPlain (s ++ [c]) ↔ IsPlain s := by
  rw [isPlain_iff_fullLines, isPlain_iff_fullLines]
  exact (endAlike_fullLines s c).plain_iff hc

lemma isPlain_cons_blank {c : Char} (hc : Text.isBlank c = true) (s : Text) :
    IsPlain (c :: s) ↔ IsPlain s := by
  have hplain : Line.ofText [c] = .plain :=
    ofText_of_isBlankLine (by simpa [isBlankLine] using hc)
  rw [isPlain_iff_fullLines, isPlain_iff_fullLines, Text.fullLines]
  by_cases hfeed : c = '\n'
  · rw [if_pos hfeed, List.forall_mem_cons, and_iff_right hplain]
  · rw [if_neg hfeed]
    cases Text.fullLines s with
    | nil => simp [hplain]
    | cons line rest =>
      rw [List.forall_mem_cons, List.forall_mem_cons, ofText_congr (Text.trim_cons_blank hc line)]

lemma isPlain_trim (s : Text) : IsPlain (Text.trim s) ↔ IsPlain s :=
  iff_of_eq (Text.apply_trim (fun _ s hc => propext (isPlain_cons_blank hc s))
    (fun _ s hc => propext (isPlain_concat_blank hc s)) s)

/-! ### What is found -/

lemma extract?_eq_some_iff :
    extract? response file = some body ↔
      ∃ lines, linesAfter? file.marker (Text.fullLines response) = some lines ∧
        bodyOf lines = body := Option.map_eq_some_iff

lemma infix_of_extract? (h : extract? response file = some body) : body <:+: response := by
  obtain ⟨lines, hlines, rfl⟩ := extract?_eq_some_iff.1 h
  obtain ⟨before, hbefore⟩ := suffix_of_linesAfter? hlines
  have hread : (lines.takeWhile fun line => !isDelimiter line).flatten <+: lines.flatten := by
    obtain ⟨after, hafter⟩ := List.takeWhile_prefix (l := lines) fun line => !isDelimiter line
    refine ⟨after.flatten, ?_⟩
    rw [← List.flatten_append, hafter]
  have hlater : lines.flatten <:+ response := by
    refine ⟨before.flatten, ?_⟩
    rw [← List.flatten_append, hbefore, Text.flatten_fullLines]
  exact (Text.trim_infix _).trans (hread.isInfix.trans hlater.isInfix)

lemma trim_of_extract? (h : extract? response file = some body) : Text.trim body = body := by
  obtain ⟨lines, -, rfl⟩ := extract?_eq_some_iff.1 h
  exact Text.trim_trim _

lemma isPlain_of_extract? (h : extract? response file = some body) : IsPlain body := by
  obtain ⟨lines, hlines, rfl⟩ := extract?_eq_some_iff.1 h
  have hwhole : Text.AreLines lines :=
    (Text.areLines_fullLines response).of_suffix (suffix_of_linesAfter? hlines)
  rw [bodyOf, isPlain_trim]
  refine isPlain_flatten (hwhole.takeWhile _) fun l hl => isDelimiter_eq_false.1 ?_
  simpa using List.mem_takeWhile_imp hl

end Section

namespace Response

open Section

variable {response : Text} {b : Bundle} {file : BlockFile} {text : Text}

lemma body_eq_ok_iff :
    body false response file = .ok text ↔ extract? (Text.trim response) file = some text := by
  rw [body]
  cases extract? (Text.trim response) file <;> simp

/-- Sources that are read without a look at fences survive their sections. -/
lemma survives_of_parse (h : parse false response = .ok b) {source : Text}
    (hsource : b.source? file = some source) : Survives false source := by
  obtain ⟨d, hd, hassemble⟩ := draft_of_parse h
  obtain ⟨-, hsources⟩ := assemble_eq_ok_iff.1 hassemble
  have htext : d.text file = source := by rw [Draft.text, hsources, hsource, Option.getD_some]
  have hfound := body_eq_ok_iff.1 (draft_eq_ok_iff.1 hd file)
  rw [htext] at hfound
  exact ⟨trim_of_extract? hfound, isPlain_of_extract? hfound, by simp⟩

/-- What is found for a file is a part of the response without white space at its ends and without a line
that is a sentinel. A bundle that was parsed with its fences left in place is therefore parsed back from
its composed response, if its metadata are read as what they were. -/
theorem extracted_is_canonical :
    (∀ response file body, extract? response file = some body →
      body <:+: response ∧ Text.trim body = body ∧
        ∀ line ∈ Text.splitOn '\n' body, Line.ofText line = .plain) ∧
      ∀ response b, parse false response = .ok b →
        parseMetadata b.metadataText = .ok b.metadata → parse false (compose b) = .ok b := by
  constructor
  · intro response file body h
    exact ⟨infix_of_extract? h, trim_of_extract? h, isPlain_of_extract? h⟩
  · intro response b hparse hmetadata
    exact parse_compose_of_survives hmetadata fun file source hsource =>
      survives_of_parse hparse hsource

/-- A response with headers of every form, text in front of the first one and no sentinel at its end. -/
def unterminated : Text :=
  "Here.\n--- \n\n BLOCK_JSON\n\x7b\"name\": \"cm/a\"\x7d\n---CONFIG_PHP\n<?php\n\n--- REGISTERING_PHP\n" ++
    "---\nPHP_RENDER_CALLBACK\n\n```\n-- x\n```\n---  EDITOR_JS\n---CENTRALIZED_JS\nlet x;\n" ++
    "--- Notes\n- a\n---\nCENTRALIZED_CSS\n.cm-a \x7b\x7d\n "

/-- The block that is read from it. -/
def unterminatedBundle : Bundle where
  metadata := [("name", .string "cm/a")]
  config := "<?php"
  registration := []
  render := "```\n-- x\n```"
  editorScript := []
  sharedScript := "let x;"
  style := ".cm-a \x7b\x7d"

theorem extracted_is_canonical_unterminated :
    extract? unterminated .render = some unterminatedBundle.render ∧
      (unterminatedBundle.render <:+: unterminated ∧
        Text.trim unterminatedBundle.render = unterminatedBundle.render ∧
        ∀ line ∈ Text.splitOn '\n' unterminatedBundle.render, Line.ofText line = .plain) ∧
      parse false unterminated = .ok unterminatedBundle ∧
      parseMetadata unterminatedBundle.metadataText = .ok unterminatedBundle.metadata ∧
      parse false (compose unterminatedBundle) = .ok unterminatedBundle := by
  have hrender : extract? unterminated .render = some unterminatedBundle.render := by decide +kernel
  have hparse : parse false unterminated = .ok unterminatedBundle := by decide +kernel
  have hmetadata : parseMetadata unterminatedBundle.metadataText = .ok unterminatedBundle.metadata := by
    decide +kernel
  exact ⟨hrender, extracted_is_canonical.1 _ _ _ hrender, hparse, hmetadata,
    extracted_is_canonical.2 _ _ hparse hmetadata⟩

end Response

end BlockAudit
