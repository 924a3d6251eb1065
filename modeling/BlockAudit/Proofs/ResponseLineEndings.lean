import BlockAudit.Proofs.JsonLineEndings
import BlockAudit.Proofs.SectionSearch
import BlockAudit.Response

/-!
# Line endings of a response

Carriage returns in front of line feeds change neither which lines of a response are sentinels, nor which
of them introduce a section, nor where a fence opens and closes. They stay inside the bodies, so that a
response whose lines are ended that way is read as the same block with its sources turned, or is refused
for the same reason.
-/

namespace BlockAudit

open Text (dosLines)

namespace Section

variable {marker : Text} {lines : List Text} {f : Text → Text}

/-! ### Lines that differ at their ends -/

lemma linesAfterName?_map (hf : ∀ line ∈ lines, Text.trim (f line) = Text.trim line) :
    linesAfterName? marker (lines.map f) = (linesAfterName? marker lines).map (List.map f) := by
  induction lines with
  | nil => rfl
  | cons line lines ih =>
    have hline := hf line List.mem_cons_self
    rw [List.map_cons]
    cases hblank : isBlankLine line with
    | true =>
      rw [linesAfterName?_blank hblank, linesAfterName?_blank ((isBlankLine_congr hline).trans hblank)]
      exact ih fun l hl => hf l (List.mem_cons_of_mem _ hl)
    | false =>
      rw [linesAfterName?_visible hblank,
        linesAfterName?_visible ((isBlankLine_congr hline).trans hblank), hline]
      split_ifs <;> rfl

lemma linesAfter?_map (hf : ∀ line ∈ lines, Text.trim (f line) = Text.trim line) :
    linesAfter? marker (lines.map f) = (linesAfter? marker lines).map (List.map f) := by
  induction lines with
  | nil => rfl
  | cons line lines ih =>
    have hkind := ofText_congr (hf line List.mem_cons_self)
    have hlater : ∀ l ∈ lines, Text.trim (f l) = Text.trim l :=
      fun l hl => hf l (List.mem_cons_of_mem _ hl)
    rw [List.map_cons]
    cases hline : Line.ofText line with
    | plain => rw [linesAfter?_plain hline, linesAfter?_plain (hkind.trans hline), ih hlater]
    | named name =>
      rw [linesAfter?_named hline, linesAfter?_named (hkind.trans hline)]
      split_ifs
      · rfl
      · exact ih hlater
    | bare =>
      rw [linesAfter?_bare hline, linesAfter?_bare (hkind.trans hline), linesAfterName?_map hlater,
        ih hlater, Option.map_or]

lemma takeWhile_map (hf : ∀ line ∈ lines, Text.trim (f line) = Text.trim line) :
    (lines.map f).takeWhile (fun line => !isDelimiter line) =
      (lines.takeWhile fun line => !isDelimiter line).map f := by
  induction lines with
  | nil => rfl
  | cons line lines ih =>
    have hkind : isDelimiter (f line) = isDelimiter line := by
      rw [isDelimiter, isDelimiter, ofText_congr (hf line List.mem_cons_self)]
    rw [List.map_cons, List.takeWhile_cons, List.takeWhile_cons, hkind,
      ih fun l hl => hf l (List.mem_cons_of_mem _ hl)]
    split_ifs <;> rfl

lemma bodyOf_map_dosLines (h : ∀ line ∈ lines, Text.trim (dosLines line) = Text.trim line) :
    bodyOf (lines.map dosLines) = dosLines (bodyOf lines) := by
  rw [bodyOf, bodyOf, takeWhile_map h, ← Text.dosLines_flatten, Text.trim_dosLines]

/-! ### Sections and fences -/

lemma extract?_dosLines (response : Text) (file : BlockFile) :
    extract? (dosLines response) file = (extract? response file).map dosLines := by
  have hlines : ∀ line ∈ Text.fullLines response, Text.trim (dosLines line) = Text.trim line :=
    fun line hline => Text.trim_dosLines_of_mem_fullLines hline
  rw [extract?, extract?, Text.fullLines_dosLines, linesAfter?_map hlines]
  cases hrest : linesAfter? file.marker (Text.fullLines response) with
  | none => rfl
  | some rest =>
    have hmem : ∀ line ∈ rest, line ∈ Text.fullLines response :=
      fun line hline => (suffix_of_linesAfter? hrest).mem hline
    exact congrArg some (bodyOf_map_dosLines fun line hline => hlines line (hmem line hline))

lemma stripFence_dosLines (body : Text) : stripFence (dosLines body) = dosLines (stripFence body) := by
  rw [stripFence, stripFence, Text.trim_dosLines, Text.after?_dosLines (by decide) (by decide)]
  cases Text.after? fence (Text.trim body) with
  | none => rfl
  | some opened =>
    dsimp only [Option.map_some]
    rw [Text.cut?_dosLines]
    cases Text.cut? ['\n'] opened with
    | none => exact Text.dosLines_nil.symm
    | some parts =>
      obtain ⟨info, code⟩ := parts
      dsimp only [Option.map_some]
      rw [Text.trimEnd_dosLines, Text.before?_dosLines (by decide)]
      cases Text.before? fence (Text.trimEnd code) with
      | none => exact Text.trim_dosLines code
      | some inner => exact Text.trim_dosLines inner

end Section

/-! ### Blocks -/

/-- The six sources, each changed in the same way. -/
def Sources.map (f : Text → Text) (s : Sources) : Sources where
  config := f s.config
  registration := f s.registration
  render := f s.render
  editorScript := f s.editorScript
  sharedScript := f s.sharedScript
  style := f s.style

/-- The seven texts, each changed in the same way. -/
def Draft.map (f : Text → Text) (d : Draft) : Draft :=
  { toSources := d.toSources.map f, metadata := f d.metadata }

/-- A block with its sources changed and its metadata kept. -/
def Bundle.mapSources (f : Text → Text) (b : Bundle) : Bundle :=
  { b with toSources := b.toSources.map f }

lemma parseMetadata_dosLines (text : Text) : parseMetadata (dosLines text) = parseMetadata text := by
  rw [parseMetadata, parseMetadata, Json.parse?_dosLines]

lemma Draft.assemble_dosLines (d : Draft) :
    (d.map dosLines).assemble = d.assemble.map (Bundle.mapSources dosLines) := by
  rw [Draft.assemble, Draft.assemble, Draft.map, parseMetadata_dosLines]
  cases parseMetadata d.metadata <;> rfl

namespace Response

variable {stripFences : Bool}

lemma body_dosLines (response : Text) (file : BlockFile) :
    body stripFences (dosLines response) file = (body stripFences response file).map dosLines := by
  rw [body, body, Text.trim_dosLines, Section.extract?_dosLines]
  cases Section.extract? (Text.trim response) file with
  | none => rfl
  | some text =>
    dsimp only [Option.map_some]
    split_ifs
    · rw [Section.stripFence_dosLines]
      rfl
    · rfl

lemma map_bind {α β γ δ : Type} {f : α → β} {g : γ → δ} {next : α → Except Error γ}
    {next' : β → Except Error δ} (h : ∀ a, next' (f a) = (next a).map g) (x : Except Error α) :
    (x.map f >>= next') = (x >>= next).map g := by
  cases x with
  | error e => rfl
  | ok a => exact h a

lemma draft_dosLines (response : Text) :
    draft stripFences (dosLines response) = (draft stripFences response).map (Draft.map dosLines) := by
  -- each body in turn is missing in both runs, or is there in both and turned in one
  simp only [draft, body_dosLines]
  refine map_bind (fun metadata => ?_) _
  refine map_bind (fun config => ?_) _
  refine map_bind (fun registration => ?_) _
  refine map_bind (fun render => ?_) _
  refine map_bind (fun editorScript => ?_) _
  refine map_bind (fun sharedScript => ?_) _
  refine map_bind (fun style => ?_) _
  rfl

/-- Reading a response does not depend on how its lines are ended. When every line feed is given a
carriage return in front of it, the same error is met, or the same metadata are read and the six sources
with every line feed turned in the same way. -/
theorem parse_dosLines (stripFences : Bool) (response : Text) :
    parse stripFences (dosLines response) =
      (parse stripFences response).map (Bundle.mapSources dosLines) := by
  rw [parse, parse, draft_dosLines]
  exact map_bind Draft.assemble_dosLines _

end Response

end BlockAudit
