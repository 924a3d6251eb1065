import BlockAudit.Proofs.PrintedLines
import BlockAudit.Proofs.Sections
import BlockAudit.Response

/-!
# Composing and parsing

A composed response has a section for each of the seven files, so parsing it never misses one. The
section of a file is found at its place in the response as long as no file before it holds a
sentinel, and then it gives back the text of the file exactly when that text survives. The printed
metadata, which come first, always do. So a bundle is parsed back exactly when each of its sources
survives and its metadata can be read from their printed form.
-/

namespace BlockAudit

namespace Response

open Section

variable {b : Bundle} {stripFences : Bool}

/-! ### The lines of a composed response -/

/-- The lines of one section of a composed response. -/
def sectionLines (b : Bundle) (file : BlockFile) : List Text :=
  sentinelLine :: markerLine file :: textLines (Text.trim (b.text file))

lemma fullLines_word {word : Text} (h : '\n' ∉ word) (s : Text) :
    Text.fullLines (word ++ '\n' :: s) = (word ++ ['\n']) :: Text.fullLines s := by
  rw [Text.fullLines_append, Text.fullLines_concat, Text.splitOn_of_notMem h]
  rfl

lemma newline_notMem_marker (file : BlockFile) : '\n' ∉ file.marker := by
  cases file <;> decide

lemma fullLines_composeSection (b : Bundle) (file : BlockFile) (s : Text) :
    Text.fullLines (composeSection b file ++ s) = sectionLines b file ++ Text.fullLines s := by
  have hsection : composeSection b file ++ s =
      sentinel ++ '\n' :: (file.marker ++ '\n' :: (Text.trim (b.text file) ++ '\n' :: s)) := by
    simp only [composeSection, List.append_assoc, List.cons_append, List.nil_append]
  rw [hsection, fullLines_word (by decide), fullLines_word (newline_notMem_marker file),
    Text.fullLines_append]
  rfl

lemma trim_compose (b : Bundle) :
    Text.trim (compose b) = BlockFile.all.flatMap (composeSection b) ++ sentinel := by
  obtain ⟨s, hs⟩ : ∃ s, BlockFile.all.flatMap (composeSection b) ++ sentinel = '-' :: s :=
    ⟨_, rfl⟩
  have hend : '-' :: s = BlockFile.all.flatMap (composeSection b) ++ ['-', '-'] ++ ['-'] := by
    rw [← hs, List.append_assoc]
    rfl
  rw [compose, Text.trim_concat_blank (by decide), hs]
  exact Text.trim_eq_self (by decide) (by decide) hend

lemma fullLines_compose (b : Bundle) :
    Text.fullLines (Text.trim (compose b)) =
      BlockFile.all.flatMap (sectionLines b) ++ [sentinel] := by
  rw [trim_compose]
  induction BlockFile.all with
  | nil => rfl
  | cons file files ih =>
    rw [List.flatMap_cons, List.flatMap_cons, List.append_assoc, fullLines_composeSection, ih,
      List.append_assoc]

/-! ### The section of a file -/

lemma linesAfter?_sectionLines {file other : BlockFile} (hne : other ≠ file)
    (hplain : IsPlain (Text.trim (b.text other))) (rest : List Text) :
    linesAfter? file.marker (sectionLines b other ++ rest) = linesAfter? file.marker rest := by
  have hmarker : other.marker ≠ file.marker := fun h => hne (marker_injective h)
  rw [sectionLines, List.cons_append, List.cons_append, linesAfter?_introduced, if_neg hmarker,
    linesAfter?_of_plain (isPlain_iff.1 hplain)]

/-- The lines behind the marker of a file are those of its text, then a delimiter. -/
lemma exists_linesAfter?_compose {before after : List BlockFile} {file : BlockFile}
    (hall : BlockFile.all = before ++ file :: after)
    (hplain : ∀ f ∈ before, IsPlain (Text.trim (b.text f))) :
    ∃ delimiter rest, isDelimiter delimiter = true ∧
      linesAfter? file.marker (Text.fullLines (Text.trim (compose b))) =
        some (textLines (Text.trim (b.text file)) ++ delimiter :: rest) := by
  have hnodup : (before ++ file :: after).Nodup := by
    rw [← hall]
    decide
  have hfile : file ∉ before := by
    intro hmem
    exact (List.nodup_append.1 hnodup).2.2 file hmem file List.mem_cons_self rfl
  have hskip (rest : List Text) :
      linesAfter? file.marker (before.flatMap (sectionLines b) ++ rest) =
        linesAfter? file.marker rest := by
    clear hall hnodup
    induction before with
    | nil => rfl
    | cons f before ih =>
      have hne : f ≠ file := fun h => hfile (by simp [h])
      rw [List.flatMap_cons, List.append_assoc,
        linesAfter?_sectionLines hne (hplain f List.mem_cons_self)]
      exact ih (fun g hg => hplain g (List.mem_cons_of_mem _ hg))
        (fun h => hfile (List.mem_cons_of_mem _ h))
  have hhere (rest : List Text) : linesAfter? file.marker (sectionLines b file ++ rest) =
      some (textLines (Text.trim (b.text file)) ++ rest) := by
    rw [sectionLines, List.cons_append, List.cons_append, linesAfter?_introduced, if_pos rfl]
  have hlines : linesAfter? file.marker (Text.fullLines (Text.trim (compose b))) =
      some (textLines (Text.trim (b.text file)) ++
        (after.flatMap (sectionLines b) ++ [sentinel])) := by
    rw [fullLines_compose, hall, List.flatMap_append, List.flatMap_cons, List.append_assoc, hskip,
      List.append_assoc, hhere]
  cases after with
  | nil => exact ⟨sentinel, [], by decide, hlines⟩
  | cons next after => exact ⟨sentinelLine, _, by decide, hlines⟩

lemma body_eq {response : Text} {file : BlockFile} {lines : List Text}
    (h : linesAfter? file.marker (Text.fullLines (Text.trim response)) = some lines) :
    body stripFences response file = .ok (received stripFences lines) := by
  rw [body, extract?, h]
  rfl

lemma body_compose_eq_ok_iff {before after : List BlockFile} {file : BlockFile}
    (hall : BlockFile.all = before ++ file :: after)
    (hplain : ∀ f ∈ before, IsPlain (Text.trim (b.text f))) :
    body stripFences (compose b) file = .ok (b.text file) ↔
      Survives stripFences (b.text file) := by
  obtain ⟨delimiter, rest, hd, hlines⟩ := exists_linesAfter?_compose hall hplain
  rw [body_eq hlines, Except.ok.injEq, received_eq_iff hd rest]

lemma exists_body_compose (b : Bundle) (stripFences : Bool) (file : BlockFile) :
    ∃ text, body stripFences (compose b) file = .ok text := by
  obtain ⟨before, after, hall⟩ := List.append_of_mem (BlockFile.mem_all file)
  have hfound : (linesAfter? file.marker (Text.fullLines (Text.trim (compose b)))).isSome := by
    rw [fullLines_compose, hall, List.flatMap_append, List.flatMap_cons, List.append_assoc,
      List.append_assoc]
    exact isSome_linesAfter? file _ _
  obtain ⟨lines, hlines⟩ := Option.isSome_iff_exists.1 hfound
  exact ⟨_, body_eq hlines⟩

lemma isPlain_trim_of_survives {text : Text} (h : Survives stripFences text) :
    IsPlain (Text.trim text) := by
  rw [h.trimmed]
  exact h.plain

/-- In canonical order: when the texts before a file survive, its own section is read. -/
lemma survives_of_body_compose
    (h : ∀ before file after, BlockFile.all = before ++ file :: after →
      (∀ f ∈ before, IsPlain (Text.trim (b.text f))) →
      body stripFences (compose b) file = .ok (b.text file)) (file : BlockFile) :
    Survives stripFences (b.text file) := by
  have hprefix (before : List BlockFile) : ∀ after, BlockFile.all = before ++ after →
      ∀ f ∈ before, Survives stripFences (b.text f) := by
    induction before using List.reverseRecOn with
    | nil => simp
    | append_singleton before g ih =>
      intro after hall f hf
      rw [List.append_assoc, List.singleton_append] at hall
      have hbefore := ih (g :: after) hall
      have hplain : ∀ f ∈ before, IsPlain (Text.trim (b.text f)) := fun f hf =>
        isPlain_trim_of_survives (hbefore f hf)
      rcases List.mem_append.1 hf with hf | hf
      · exact hbefore f hf
      · obtain rfl := List.mem_singleton.1 hf
        exact (body_compose_eq_ok_iff hall hplain).1 (h before f after hall hplain)
  exact hprefix BlockFile.all [] (List.append_nil _).symm file (BlockFile.mem_all file)

lemma forall_body_compose_iff (b : Bundle) (stripFences : Bool) :
    (∀ file, body stripFences (compose b) file = .ok (b.text file)) ↔
      ∀ file, Survives stripFences (b.text file) := by
  constructor
  · intro hbody
    exact survives_of_body_compose fun _ file _ _ _ => hbody file
  · intro hsurvives file
    obtain ⟨before, after, hall⟩ := List.append_of_mem (BlockFile.mem_all file)
    have hplain : ∀ f ∈ before, IsPlain (Text.trim (b.text f)) := fun f _ =>
      isPlain_trim_of_survives (hsurvives f)
    exact (body_compose_eq_ok_iff hall hplain).2 (hsurvives file)

/-! ### The printed metadata -/

lemma survives_metadataText (b : Bundle) (stripFences : Bool) :
    Survives stripFences b.metadataText := by
  obtain ⟨t, ht⟩ := Json.exists_of_print_object b.metadata
  refine ⟨?_, Json.ofText_eq_plain_of_print _, fun _ => ?_⟩
  · rw [Bundle.metadataText, ht]
    exact Text.trim_eq_self (by decide) (by decide) (List.cons_append ..).symm
  · rw [Bundle.metadataText, ht]
    rfl

/-! ### Drafts and bundles -/

lemma draft_eq_ok_iff {response : Text} {d : Draft} :
    draft stripFences response = .ok d ↔
      ∀ file, body stripFences response file = .ok (d.text file) := by
  simp only [draft, bind_eq_ok_iff]
  constructor
  · rintro ⟨metadata, hmetadata, config, hconfig, registration, hregistration, render, hrender,
      editor, heditor, shared, hshared, style, hstyle, hd⟩ file
    obtain rfl := Except.ok.inj hd
    cases file with
    | metadata => exact hmetadata
    | config => exact hconfig
    | registration => exact hregistration
    | render => exact hrender
    | editorScript => exact heditor
    | sharedScript => exact hshared
    | style => exact hstyle
  · intro h
    exact ⟨_, h .metadata, _, h .config, _, h .registration, _, h .render, _, h .editorScript,
      _, h .sharedScript, _, h .style, rfl⟩

lemma assemble_eq_ok_iff {d : Draft} :
    d.assemble = .ok b ↔
      parseMetadata d.metadata = .ok b.metadata ∧ d.toSources = b.toSources := by
  rw [Draft.assemble, bind_eq_ok_iff]
  constructor
  · rintro ⟨metadata, hmetadata, hb⟩
    obtain rfl := Except.ok.inj hb
    exact ⟨hmetadata, rfl⟩
  · rintro ⟨hmetadata, hsources⟩
    refine ⟨b.metadata, hmetadata, ?_⟩
    rw [hsources]
    rfl

lemma parseMetadata_ne_missing (text : Text) (file : BlockFile) :
    parseMetadata text ≠ .error (.sectionMissing file) := by
  unfold parseMetadata
  split <;> simp

lemma exists_draft_compose (b : Bundle) (stripFences : Bool) :
    ∃ d, draft stripFences (compose b) = .ok d ∧ d.metadata = b.metadataText := by
  choose text htext using exists_body_compose b stripFences
  have hmetadata : text .metadata = b.metadataText := by
    have hall : BlockFile.all = [] ++ .metadata :: BlockFile.all.tail := rfl
    have hfirst : body stripFences (compose b) .metadata = .ok b.metadataText :=
      (body_compose_eq_ok_iff hall (by simp)).2 (survives_metadataText b stripFences)
    rw [htext] at hfirst
    exact Except.ok.inj hfirst
  refine ⟨{ metadata := text .metadata, config := text .config,
            registration := text .registration, render := text .render,
            editorScript := text .editorScript, sharedScript := text .sharedScript,
            style := text .style }, draft_eq_ok_iff.2 fun file => ?_, hmetadata⟩
  rw [htext]
  cases file <;> rfl

lemma survives_sources_iff (b : Bundle) (stripFences : Bool) :
    (∀ file, Survives stripFences (b.text file)) ↔
      ∀ file source, b.source? file = some source → Survives stripFences source := by
  constructor
  · intro h file source hsource
    have hfile := h file
    rwa [Bundle.text, hsource] at hfile
  · intro h file
    rw [Bundle.text]
    cases hsource : b.source? file with
    | none => exact survives_metadataText b stripFences
    | some source => exact h file source hsource

/-- Parsing a composed response never misses a section, and it gives the bundle back exactly when
the printed metadata are read as what they were and each of the six sources survives its section:
it is trimmed, none of its lines is a sentinel, and it does not begin with a fence that would be
stripped. -/
theorem parse_compose_eq_ok_iff (b : Bundle) (stripFences : Bool) :
    (∀ file, parse stripFences (compose b) ≠ .error (.sectionMissing file)) ∧
      (parse stripFences (compose b) = .ok b ↔
        parseMetadata b.metadataText = .ok b.metadata ∧
          ∀ file source, b.source? file = some source →
            Text.trim source = source ∧
            (∀ line ∈ Text.splitOn '\n' source, Line.ofText line = .plain) ∧
            (stripFences = true → Text.startsWith fence source = false)) := by
  obtain ⟨d, hd, hmetadata⟩ := exists_draft_compose b stripFences
  have hparse : parse stripFences (compose b) = d.assemble := by
    rw [parse, hd]
    rfl
  refine ⟨fun file hmissing => ?_, ?_⟩
  · rw [hparse, Draft.assemble] at hmissing
    cases hread : parseMetadata d.metadata with
    | error e =>
      have he : e = .sectionMissing file := by simpa [hread, bind, Except.bind] using hmissing
      exact parseMetadata_ne_missing d.metadata file (he ▸ hread)
    | ok metadata => simp [hread, bind, Except.bind, pure, Except.pure] at hmissing
  · have hsources : d.toSources = b.toSources ↔ draft stripFences (compose b) = .ok b.toDraft := by
      rw [hd, Except.ok.injEq]
      constructor
      · intro h
        obtain ⟨sources, metadata⟩ := d
        simp only [Bundle.toDraft, Draft.mk.injEq]
        exact ⟨h, hmetadata⟩
      · rintro rfl
        rfl
    have htext : b.toDraft.text = b.text := by
      funext file
      cases file <;> rfl
    rw [hparse, assemble_eq_ok_iff, hmetadata, hsources, draft_eq_ok_iff, htext,
      forall_body_compose_iff, survives_sources_iff]
    refine and_congr_right fun _ => forall_congr' fun file => forall_congr' fun source =>
      imp_congr_right fun _ => ?_
    exact ⟨fun h => ⟨h.trimmed, h.plain, h.unfenced⟩, fun h => ⟨h.1, h.2.1, h.2.2⟩⟩

end Response

end BlockAudit
