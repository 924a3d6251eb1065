import BlockAudit.Proofs.SectionSearch
import BlockAudit.Response
import Mathlib.Data.List.Find
import Mathlib.Data.List.Nodup

/-!
# The grammar of a response

A response is read as a list of blocks, each with a name and a body, behind any lines that are no
sentinels. A block may be introduced in three ways. The section of a file is the first block with the
file's marker for a name, whatever stands around it, so that blocks with different names may be written
in any order.
-/

namespace BlockAudit

namespace Section

/-- A name that is no sentinel, and a body without one. -/
structure Block where
  name : Text
  body : Text
  trimmed : Text.trim name = name
  visible : name ≠ []
  plainName : Line.ofText name = .plain
  plainBody : IsPlain body

/-- The block of a file. -/
def Block.ofFile (file : BlockFile) (body : Text) (h : IsPlain body) : Block where
  name := file.marker
  body := body
  trimmed := trim_marker file
  visible := by cases file <;> decide
  plainName := ofText_marker file
  plainBody := h

/-- The lines that introduce a name: a sentinel, any blank lines and the name on a line; a sentinel and
the name on one line; and without a gap between them for the marker of a file. White space may stand
around each line. -/
inductive IsHeader : Text → List Text → Prop
  | apart {name sentinelLine nameLine : Text} {blanks : List Text}
      (hsentinel : Text.trim sentinelLine = sentinel) (hblanks : ∀ l ∈ blanks, isBlankLine l = true)
      (hname : Text.trim nameLine = name) : IsHeader name (sentinelLine :: (blanks ++ [nameLine]))
  | spaced {name line : Text} (gap : Text) (hgap : gap ≠ [])
      (hblank : ∀ c ∈ gap, Text.isBlank c = true)
      (hline : Text.trim line = sentinel ++ gap ++ name) : IsHeader name [line]
  | glued {line : Text} (file : BlockFile) (hline : Text.trim line = sentinel ++ file.marker) :
      IsHeader file.marker [line]

/-- The lines of a body, without their endings; a body without a character may also have no line. -/
def IsBody (body : Text) (lines : List Text) : Prop :=
  lines = Text.splitOn '\n' body ∨ body = [] ∧ lines = []

/-- The lines of a list of blocks, with or without a closing sentinel. -/
inductive Layout : List Block → List Text → Prop
  | done : Layout [] []
  | closed {line : Text} {blanks : List Text} (hline : Text.trim line = sentinel)
      (hblanks : ∀ l ∈ blanks, isBlankLine l = true) : Layout [] (line :: blanks)
  | block {b : Block} {blocks : List Block} {header body rest : List Text}
      (hheader : IsHeader b.name header) (hbody : IsBody b.body body) (hrest : Layout blocks rest) :
      Layout (b :: blocks) (header ++ (body ++ rest))

/-- The response has the blocks, behind lines that are no sentinels. -/
def Renders (blocks : List Block) (response : Text) : Prop :=
  ∃ preamble lines, (∀ l ∈ preamble, Line.ofText l = .plain) ∧ Layout blocks lines ∧
    Text.splitOn '\n' response = preamble ++ lines

/-- The first block with a name. -/
def blockNamed? (name : Text) (blocks : List Block) : Option Block :=
  blocks.find? fun b => b.name = name

/-! ### Lines with their endings -/

/-- The lines, each ended by a line feed. -/
def ended (lines : List Text) : List Text := lines.map (· ++ ['\n'])

@[simp] lemma ended_nil : ended [] = [] := rfl

@[simp] lemma ended_cons (line : Text) (lines : List Text) :
    ended (line :: lines) = (line ++ ['\n']) :: ended lines := rfl

@[simp] lemma ended_append (lines lines' : List Text) :
    ended (lines ++ lines') = ended lines ++ ended lines' := List.map_append

lemma ofText_of_mem_ended {lines : List Text} (h : ∀ l ∈ lines, Line.ofText l = .plain) :
    ∀ l ∈ ended lines, Line.ofText l = .plain := by
  intro l hl
  obtain ⟨line, hline, rfl⟩ := List.mem_map.1 hl
  rw [ofText_concat, h line hline]

lemma isBlankLine_of_mem_ended {lines : List Text} (h : ∀ l ∈ lines, isBlankLine l = true) :
    ∀ l ∈ ended lines, isBlankLine l = true := by
  intro l hl
  obtain ⟨line, hline, rfl⟩ := List.mem_map.1 hl
  rw [isBlankLine_congr (Text.trim_concat_blank (by decide) line), h line hline]

/-- The search over a response goes over its lines, whether its last line is ended or not. -/
lemma extract?_eq_ended (response : Text) (file : BlockFile) :
    extract? response file =
      (linesAfter? file.marker (ended (Text.splitOn '\n' response))).map bodyOf := by
  rw [← extract?_concat_blank (by decide : Text.isBlank '\n' = true), extract?, Text.fullLines_concat]
  rfl

/-! ### Headers -/

lemma ofText_bare {line : Text} (h : Text.trim line = sentinel) : Line.ofText line = .bare := by
  rw [Line.ofText, h]
  rfl

lemma ofText_spaced {name gap line : Text} (hname : Text.trim name = name) (hgap : gap ≠ [])
    (hblank : ∀ c ∈ gap, Text.isBlank c = true)
    (hline : Text.trim line = sentinel ++ gap ++ name) : Line.ofText line = .named name := by
  obtain ⟨c, blanks, rfl⟩ := List.exists_cons_of_ne_nil hgap
  have hafter : Text.after? sentinel (Text.trim line) = some (c :: (blanks ++ name)) := by
    rw [Text.after?_eq_some_iff, hline, List.append_assoc]
    rfl
  have htrim : Text.trim (blanks ++ name) = name := by
    rw [Text.trim_append_left fun d hd => hblank d (List.mem_cons_of_mem c hd), hname]
  rw [Line.ofText, hafter]
  dsimp only
  rw [if_pos (hblank c List.mem_cons_self), htrim]

lemma ofText_glued {file : BlockFile} {line : Text}
    (hline : Text.trim line = sentinel ++ file.marker) : Line.ofText line = .named file.marker := by
  rw [Line.ofText, hline]
  cases file <;> rfl

lemma linesAfterName?_blanks {blanks : List Text} (h : ∀ l ∈ blanks, isBlankLine l = true)
    (marker : Text) (rest : List Text) :
    linesAfterName? marker (blanks ++ rest) = linesAfterName? marker rest := by
  induction blanks with
  | nil => rfl
  | cons line blanks ih =>
    rw [List.cons_append, linesAfterName?_blank (h line List.mem_cons_self)]
    exact ih fun l hl => h l (List.mem_cons_of_mem line hl)

/-- Behind a header the search stands at the body, if the name is the one that is looked for, and is
as good as over otherwise. -/
lemma linesAfter?_header {name : Text} {header : List Text} (h : IsHeader name header)
    (htrim : Text.trim name = name) (hvisible : name ≠ []) (hplain : Line.ofText name = .plain)
    (marker : Text) (rest : List Text) :
    linesAfter? marker (ended header ++ rest) =
      if name = marker then some rest else linesAfter? marker rest := by
  cases h with
  | @apart _ line nameLine blanks hsentinel hblanks hname =>
    have hend (l : Text) : Text.trim (l ++ ['\n']) = Text.trim l :=
      Text.trim_concat_blank (by decide) l
    have hbare : Line.ofText (line ++ ['\n']) = .bare := ofText_bare ((hend line).trans hsentinel)
    have hname' : Text.trim (nameLine ++ ['\n']) = name := (hend nameLine).trans hname
    have hshown : isBlankLine (nameLine ++ ['\n']) = false := by
      rw [Bool.eq_false_iff, ne_eq, isBlankLine_iff, hname']
      exact hvisible
    have hnamePlain : Line.ofText (nameLine ++ ['\n']) = .plain := by
      rw [ofText_congr (hname'.trans htrim.symm), hplain]
    have hfound : linesAfterName? marker (ended blanks ++ (nameLine ++ ['\n']) :: rest) =
        if name = marker then some rest else none := by
      rw [linesAfterName?_blanks (isBlankLine_of_mem_ended hblanks), linesAfterName?_visible hshown,
        hname']
    have hpassed : linesAfter? marker (ended blanks ++ (nameLine ++ ['\n']) :: rest) =
        linesAfter? marker rest := by
      rw [linesAfter?_of_plain fun l hl =>
        ofText_of_isBlankLine (isBlankLine_of_mem_ended hblanks l hl), linesAfter?_plain hnamePlain]
    simp only [ended_cons, ended_append, ended_nil, List.cons_append, List.append_assoc,
      List.nil_append]
    rw [linesAfter?_bare hbare, hfound, hpassed]
    split_ifs <;> rfl
  | spaced gap hgap hblank hline =>
    rw [ended_cons, ended_nil, List.singleton_append,
      linesAfter?_named ((ofText_concat _).trans (ofText_spaced htrim hgap hblank hline))]
  | glued file hline =>
    rw [ended_cons, ended_nil, List.singleton_append,
      linesAfter?_named ((ofText_concat _).trans (ofText_glued hline))]

/-! ### Bodies -/

lemma IsBody.plain {body : Text} {lines : List Text} (h : IsBody body lines) (hbody : IsPlain body) :
    ∀ l ∈ ended lines, Line.ofText l = .plain := by
  rcases h with rfl | ⟨-, rfl⟩
  · exact ofText_of_mem_ended hbody
  · simp

lemma IsBody.trim_flatten {body : Text} {lines : List Text} (h : IsBody body lines) :
    Text.trim (ended lines).flatten = Text.trim body := by
  rcases h with rfl | ⟨rfl, rfl⟩
  · rw [ended, ← Text.fullLines_concat, Text.flatten_fullLines, Text.trim_concat_blank (by decide)]
  · rfl

/-- Where a body ends, a delimiter stands or nothing. -/
lemma Layout.takeWhile_eq_nil {blocks : List Block} {lines : List Text} (h : Layout blocks lines) :
    (ended lines).takeWhile (fun line => !isDelimiter line) = [] := by
  have hstart {line : Text} (hline : Line.ofText line ≠ .plain) (rest : List Text) :
      ((line ++ ['\n']) :: rest).takeWhile (fun line => !isDelimiter line) = [] := by
    refine List.takeWhile_cons_of_neg ?_
    simp [isDelimiter, ofText_concat, hline]
  cases h with
  | done => rfl
  | closed hline hblanks => exact hstart (by simp [ofText_bare hline]) _
  | @block b _ _ _ _ hheader hbody hrest =>
    generalize hname : b.name = name at hheader
    cases hheader with
    | apart hsentinel hblanks hname => exact hstart (by simp [ofText_bare hsentinel]) _
    | spaced gap hgap hblank hline =>
      have htrim : Text.trim name = name := hname ▸ b.trimmed
      exact hstart (by simp [ofText_spaced htrim hgap hblank hline]) _
    | glued file hline => exact hstart (by simp [ofText_glued hline]) _

lemma bodyOf_body {body : Text} {lines rest : List Text} (h : IsBody body lines)
    (hbody : IsPlain body) (hrest : rest.takeWhile (fun line => !isDelimiter line) = []) :
    bodyOf (ended lines ++ rest) = Text.trim body := by
  have hpass : ∀ l ∈ ended lines, (!isDelimiter l) = true := fun l hl => by
    rw [isDelimiter_eq_false.2 (h.plain hbody l hl), Bool.not_false]
  rw [bodyOf, List.takeWhile_append_of_pos hpass, hrest, List.append_nil, h.trim_flatten]

/-! ### Responses -/

lemma Layout.linesAfter?_eq {blocks : List Block} {lines : List Text} (h : Layout blocks lines)
    (marker : Text) :
    (linesAfter? marker (ended lines)).map bodyOf =
      (blockNamed? marker blocks).map fun b => Text.trim b.body := by
  induction h with
  | done => rfl
  | @closed line blanks hline hblanks =>
    have hbare : Line.ofText (line ++ ['\n']) = .bare := (ofText_concat line).trans (ofText_bare hline)
    have hblanks' := isBlankLine_of_mem_ended hblanks
    have hname : linesAfterName? marker (ended blanks ++ []) = none :=
      linesAfterName?_blanks hblanks' marker []
    have hlater : linesAfter? marker (ended blanks ++ []) = none :=
      linesAfter?_of_plain (fun l hl => ofText_of_isBlankLine (hblanks' l hl)) []
    rw [List.append_nil] at hname hlater
    rw [ended_cons, linesAfter?_bare hbare, hname, hlater]
    rfl
  | @block b blocks header body rest hheader hbody hrest ih =>
    rw [ended_append, ended_append, linesAfter?_header hheader b.trimmed b.visible b.plainName]
    by_cases hname : b.name = marker
    · rw [if_pos hname, Option.map_some, bodyOf_body hbody b.plainBody hrest.takeWhile_eq_nil]
      simp [blockNamed?, hname]
    · rw [if_neg hname, linesAfter?_of_plain (hbody.plain b.plainBody), ih]
      simp [blockNamed?, hname]

lemma extract?_of_renders {blocks : List Block} {response : Text} (h : Renders blocks response)
    (file : BlockFile) :
    extract? response file = (blockNamed? file.marker blocks).map fun b => Text.trim b.body := by
  obtain ⟨preamble, lines, hpreamble, hlayout, hlines⟩ := h
  rw [extract?_eq_ended, hlines, ended_append, linesAfter?_of_plain (ofText_of_mem_ended hpreamble),
    hlayout.linesAfter?_eq]

lemma blockNamed?_perm {blocks blocks' : List Block} (h : blocks.Perm blocks')
    (hdistinct : (blocks.map Block.name).Nodup) (name : Text) :
    blockNamed? name blocks = blockNamed? name blocks' := by
  refine List.find?_eq_find?_of_perm h fun b hb b' hb' => ?_
  obtain ⟨hmem, hname⟩ : b ∈ blocks ∧ b.name = name := by simpa using hb
  obtain ⟨hmem', hname'⟩ : b' ∈ blocks ∧ b'.name = name := by simpa using hb'
  exact List.inj_on_of_nodup_map hdistinct hmem hmem' (hname.trans hname'.symm)

/-- What is parsed depends on the bodies that are found only. -/
lemma parse_congr_body {stripFences : Bool} {response response' : Text}
    (h : ∀ file, Response.body stripFences response file = Response.body stripFences response' file) :
    Response.parse stripFences response = Response.parse stripFences response' := by
  have hbody : Response.body stripFences response = Response.body stripFences response' := funext h
  rw [Response.parse, Response.parse, Response.draft, Response.draft, hbody]

lemma parse_congr {response response' : Text}
    (h : ∀ file, extract? response file = extract? response' file) (stripFences : Bool) :
    Response.parse stripFences response = Response.parse stripFences response' := by
  refine parse_congr_body fun file => ?_
  rw [Response.body, Response.body, extract?_trim, extract?_trim, h]

/-- The section of a file in a response is the trimmed body of the first block that its marker names, and
there is none exactly when no block has that name. Responses with the same blocks in any order are
parsed alike as long as no name is repeated, however each of them introduces its blocks. -/
theorem extract?_renders {blocks : List Block} {response : Text} (h : Renders blocks response) :
    (∀ file, extract? response file =
        (blockNamed? file.marker blocks).map fun b => Text.trim b.body) ∧
      (∀ file, extract? response file = none ↔ ∀ b ∈ blocks, b.name ≠ file.marker) ∧
      ∀ blocks' response', Renders blocks' response' → blocks'.Perm blocks →
        (blocks.map Block.name).Nodup → ∀ stripFences,
          Response.parse stripFences response' = Response.parse stripFences response := by
  refine ⟨extract?_of_renders h, fun file => ?_, ?_⟩
  · rw [extract?_of_renders h, Option.map_eq_none_iff, blockNamed?, List.find?_eq_none]
    simp
  · intro blocks' response' h' hperm hdistinct
    refine parse_congr fun file => ?_
    rw [extract?_of_renders h, extract?_of_renders h', blockNamed?_perm hperm.symm hdistinct]

/-- Two blocks with the three kinds of header, behind a preamble and before a closing sentinel, and the
same two the other way round without either. -/
theorem extract?_renders_twoBlocks :
    let other : Block := ⟨"Notes", "- a", by decide, by decide, by decide, by unfold IsPlain; decide⟩
    let style : Block := .ofFile .style ".cm-a {}" (by unfold IsPlain; decide)
    let response : Text := "Hello.\n --- Notes\n- a\n---CENTRALIZED_CSS \n.cm-a {}\n---\n"
    let response' : Text := "---\n\n CENTRALIZED_CSS\n.cm-a {}\n---\nNotes\n- a"
    Renders [other, style] response ∧ Renders [style, other] response' ∧
      extract? response .style = some ".cm-a {}".toList ∧ extract? response .render = none ∧
      ∀ stripFences, Response.parse stripFences response' = Response.parse stripFences response := by
  intro other style response response'
  have hglued : IsHeader style.name ["---CENTRALIZED_CSS "] := .glued .style (by decide)
  have hspaced : IsHeader other.name [" --- Notes"] :=
    .spaced [' '] (by decide) (List.forall_mem_singleton.2 (by decide)) (by decide)
  have hblank : IsHeader style.name ("---".toList :: ([[]] ++ [" CENTRALIZED_CSS".toList])) :=
    .apart (by decide) (by decide) (by decide)
  have hapart : IsHeader other.name ("---".toList :: ([] ++ ["Notes".toList])) :=
    .apart (by decide) (by decide) (by decide)
  have hclosed : Layout [] ["---", []] := .closed (by decide) (by decide)
  have hrenders : Renders [other, style] response :=
    ⟨["Hello."], _, by decide, .block hspaced (.inl rfl) (.block hglued (.inl rfl) hclosed),
      by decide⟩
  have hrenders' : Renders [style, other] response' :=
    ⟨[], _, by decide, .block hblank (.inl rfl) (.block hapart (.inl rfl) .done), by decide⟩
  obtain ⟨hfound, hmissing, hparsed⟩ := extract?_renders hrenders
  refine ⟨hrenders, hrenders', hfound .style, (hmissing .render).2 (by decide), ?_⟩
  exact hparsed _ _ hrenders' (.swap other style []) (by decide)

end Section

end BlockAudit
