import BlockAudit.Proofs.ComposedRuns
import BlockAudit.Proofs.ExcerptedRender
import BlockAudit.Proofs.FixedBundle

/-!
# Parsing fixed bundles back

The default audit parses a response and fixes the bundle. A bundle comes back from its composed response
exactly when a fix leaves it as it is and its sources survive their sections: of a source that does
not survive an excerpt is read, and no fix makes up for what is missing. The audit itself leaves
sources that do not survive. It strips one fence and not the fence inside it, a sentinel may come to
light where a fence is stripped, and an empty style sheet gets a rule with an empty line behind it.
-/

namespace BlockAudit

/-! ### The style sheet -/

namespace Section

/-- An excerpt begins with the word that the text begins with, unless the word could be that of a sentinel
or a fence. -/
lemma Excerpt.prefix {text part w : Text} {first : Char} (h : Excerpt text part)
    (hw : first :: w <+: text) (hblank : Reader.Free Text.isBlank (first :: w))
    (hdash : first ≠ '-') (htick : first ≠ '`') : first :: w <+: part := by
  obtain ⟨rest, rfl⟩ := hw
  cases h with
  | whole => exact List.prefix_append _ rest
  | nothing hfirst =>
    rcases hfirst with hfirst | hfirst
    · exact absurd (Option.some.inj hfirst) hdash
    · exact absurd (Option.some.inj hfirst) htick
  | @cut _ after c hc hfeed hdash htext =>
    refine Text.prefix_of_notMem (d := c) (fun hmem => ?_) (htext ▸ List.prefix_append _ rest)
    have hvisible := hblank c hmem
    rw [hc] at hvisible
    exact absurd hvisible (by decide)
  | @fenced line _ _ _ hfence hfeed hgap htext =>
    cases line with
    | nil => exact absurd hfence (by decide)
    | cons d line =>
      obtain rfl : d = '`' := by simpa using hfence
      exact absurd (List.cons.inj htext).1 htick

/-- A style sheet that the fix gives a class comes back with that class, and so as a whole. -/
theorem Excerpt.eq_of_fixStyle {name : BlockName} {text part : Text}
    (h : Excerpt (Text.trim text) part) (hfix : Fix.fixStyle name {} part = text) : part = text := by
  unfold Fix.fixStyle Fix.styleStart at hfix
  split at hfix
  · exact hfix
  · next hclass =>
    have hnone : Text.occurs ".cm-" part = false := by
      rw [Bool.or_eq_true, not_or, Bool.not_eq_true, Bool.not_eq_true] at hclass
      exact hclass.2
    have hstart : (".cm-" : Text) <+: Text.trim text := by
      refine Text.Framed.prefix_trim ⟨'.', "cm", '-', by decide, by decide, rfl⟩ ?_
      rw [← hfix]
      exact ⟨name.slug ++ " \x7b\n  /* Block styles */\n\x7d\n\n" ++ part, rfl⟩
    have hpart : (".cm-" : Text) <+: part := h.prefix hstart (by decide) (by decide) (by decide)
    obtain ⟨rest, hrest⟩ := hpart
    rw [← hrest, Text.occurs_self_append] at hnone
    exact absurd hnone (by decide)

end Section

/-! ### Fixed bundles -/

namespace Bundle

/-- No fix makes up for what a section cuts off a source. -/
lemma text_eq_of_excerpt {b : Bundle} {file : BlockFile} (hfile : file ≠ .metadata)
    (h : Section.Excerpt (Text.trim ((b.fix {}).bundle.text file)) (b.text file))
    (htrim : Text.trim (b.text file) = b.text file) : b.text file = (b.fix {}).bundle.text file := by
  rw [bundle_fix] at h ⊢
  cases file with
  | metadata => exact absurd rfl hfile
  | config =>
    exact h.eq_of_outline htrim (Fix.edges_fixConfig _ _) (Fix.outline_fixConfig _ _)
  | registration =>
    exact h.eq_of_outline htrim (Fix.edges_fixRegistration _ _) (Fix.outline_fixRegistration _ _)
  | render => exact h.eq_of_fixRender htrim rfl
  | editorScript => rfl
  | sharedScript => rfl
  | style => exact h.eq_of_fixStyle rfl

end Bundle

namespace Response

open Section

variable {b : Bundle} {stripFences : Bool}

lemma exists_received_of_body {response : Text} {file : BlockFile} {text : Text}
    (h : body stripFences response file = .ok text) : ∃ lines, text = received stripFences lines := by
  rw [body, extract?] at h
  cases hlines : linesAfter? file.marker (Text.fullLines (Text.trim response)) with
  | none => simp [hlines] at h
  | some lines =>
    rw [hlines] at h
    exact ⟨lines, (Except.ok.inj h).symm⟩

lemma trim_of_body {response : Text} {file : BlockFile} {text : Text}
    (h : body stripFences response file = .ok text) : Text.trim text = text := by
  obtain ⟨lines, rfl⟩ := exists_received_of_body h
  exact trim_received stripFences lines

/-- What a response is parsed to has no white space around its sources. -/
lemma trim_of_parse {response : Text} (h : parse stripFences response = .ok b) {file : BlockFile}
    {source : Text} (hsource : b.source? file = some source) : Text.trim source = source := by
  obtain ⟨d, hd, hassemble⟩ := draft_of_parse h
  obtain ⟨-, hsources⟩ := assemble_eq_ok_iff.1 hassemble
  have htext : d.text file = source := by rw [Draft.text, hsources, hsource, Option.getD_some]
  rw [← htext]
  exact trim_of_body (draft_eq_ok_iff.1 hd file)

/-- Behind files whose texts hold no sentinel, an excerpt of a file's text is read. -/
lemma excerpt_of_body_compose {before after : List BlockFile} {file : BlockFile}
    (hall : BlockFile.all = before ++ file :: after)
    (hplain : ∀ f ∈ before, IsPlain (Text.trim (b.text f))) {text : Text}
    (h : body stripFences (compose b) file = .ok text) :
    Excerpt (Text.trim (b.text file)) text := by
  obtain ⟨delimiter, rest, hd, hlines⟩ := exists_linesAfter?_compose hall hplain
  rw [body_eq hlines, Except.ok.injEq] at h
  rw [← h]
  exact excerpt_received (Text.trim_trim _) hd stripFences rest

end Response

namespace Audit

open Section

/-- The bundle that the default audit makes of a response. -/
def parseResponse (now : Timestamp) (response : Text) : Except Error Bundle :=
  (({} : Audit).run now response).result.map Outcome.bundle

variable {now : Timestamp} {response : Text} {b : Bundle}

/-- The default audit fixes what it parses; violations that are left do not stop it. -/
lemma parseResponse_eq (now : Timestamp) (response : Text) :
    parseResponse now response =
      (Response.parse true response).map fun parsed => (parsed.fix {}).bundle := by
  rw [parseResponse, run, Response.parse]
  cases Response.draft true response with
  | error e => rfl
  | ok d =>
    simp only [bind, Except.bind]
    cases d.assemble <;> rfl

lemma parseResponse_eq_ok_iff :
    parseResponse now response = .ok b ↔
      ∃ parsed, Response.parse true response = .ok parsed ∧ (parsed.fix {}).bundle = b := by
  rw [parseResponse_eq]
  cases Response.parse true response <;> simp [Except.map]

/-- A bundle that comes back as it was has sources that survive their sections. -/
lemma survives_of_parseResponse_compose (h : parseResponse now (Response.compose b) = .ok b)
    (file : BlockFile) : Survives true (b.text file) := by
  obtain ⟨parsed, hparse, rfl⟩ := parseResponse_eq_ok_iff.1 h
  obtain ⟨d, hd, hassemble⟩ := Response.draft_of_parse hparse
  obtain ⟨d', hd', hprinted⟩ := Response.exists_draft_compose (parsed.fix {}).bundle true
  obtain rfl : d = d' := Except.ok.inj (hd.symm.trans hd')
  obtain ⟨-, hsources⟩ := Response.assemble_eq_ok_iff.1 hassemble
  -- In canonical order, so that the section of a file is found once the files before it survive.
  refine Response.survives_of_body_compose (fun before file after hall hplain => ?_) file
  have hbody : Response.body true (Response.compose (parsed.fix {}).bundle) file = .ok (d.text file) :=
    Response.draft_eq_ok_iff.1 hd file
  rw [hbody]
  by_cases hfile : file = .metadata
  · subst hfile
    exact congrArg Except.ok hprinted
  · have htext : d.text file = parsed.text file := by
      rw [Draft.text, Bundle.text, hsources]
      cases file with
      | metadata => exact absurd rfl hfile
      | _ => rfl
    rw [htext] at hbody ⊢
    have hexcerpt := Response.excerpt_of_body_compose hall hplain hbody
    rw [Bundle.text_eq_of_excerpt hfile hexcerpt (Response.trim_of_body hbody)]

/-- The default audit makes of a composed response the bundle it was composed from exactly when a fix
leaves the bundle as it is and its sources survive their sections. -/
theorem parseResponse_compose_eq_ok_iff (hmetadata : parseMetadata b.metadataText = .ok b.metadata)
    (now : Timestamp) :
    parseResponse now (Response.compose b) = .ok b ↔
      (b.fix {}).bundle = b ∧
        ∀ file source, b.source? file = some source → Survives true source := by
  constructor
  · intro h
    have hsources := (Response.survives_sources_iff b true).1 (survives_of_parseResponse_compose h)
    refine ⟨?_, hsources⟩
    rw [parseResponse_eq, Response.parse_compose_of_survives hmetadata hsources] at h
    exact Except.ok.inj h
  · rintro ⟨hsettled, hsources⟩
    have hparse : Response.parse true (Response.compose b) = .ok b :=
      Response.parse_compose_of_survives hmetadata hsources
    exact parseResponse_eq_ok_iff.2 ⟨b, hparse, hsettled⟩

/-- What the audit parses is trimmed, and only the fix of the style sheet can add white space at an end. -/
lemma trim_source_of_parseResponse (h : parseResponse now response = .ok b) {file : BlockFile}
    {source : Text} (hsource : b.source? file = some source) (hstyle : file ≠ .style) :
    Text.trim source = source := by
  obtain ⟨parsed, hparse, rfl⟩ := parseResponse_eq_ok_iff.1 h
  have hparsed (file : BlockFile) (source : Text) (hs : parsed.source? file = some source) :
      Text.trim source = source := Response.trim_of_parse hparse hs
  rw [bundle_fix] at hsource
  cases file with
  | metadata => exact absurd hsource (by simp [Sources.source?])
  | config =>
    obtain rfl := Option.some.inj hsource
    rw [Text.trim_eq_self_iff, Fix.edges_fixConfig, ← Text.trim_eq_self_iff]
    exact hparsed .config _ rfl
  | registration =>
    obtain rfl := Option.some.inj hsource
    rw [Text.trim_eq_self_iff, Fix.edges_fixRegistration, ← Text.trim_eq_self_iff]
    exact hparsed .registration _ rfl
  | render =>
    obtain rfl := Option.some.inj hsource
    exact Fix.trim_fixRender (hparsed .render _ rfl)
  | editorScript => exact hparsed .editorScript _ hsource
  | sharedScript => exact hparsed .sharedScript _ hsource
  | style => exact absurd rfl hstyle

/-- A bundle that the default audit made of a response, and that another fix leaves as it is, comes back
from its composed response exactly when none of its sources has a line that is a sentinel or begins
with a fence, and no white space was left at the end of the style sheet. -/
theorem parseResponse_stable_iff (hparse : parseResponse now response = .ok b)
    (hmetadata : parseMetadata b.metadataText = .ok b.metadata) (hsettled : (b.fix {}).bundle = b)
    (now' : Timestamp) :
    parseResponse now' (Response.compose b) = .ok b ↔
      (∀ file source, b.source? file = some source →
        (∀ line ∈ Text.splitOn '\n' source, Line.ofText line = .plain) ∧
        Text.startsWith fence source = false) ∧
      Text.trim b.style = b.style := by
  rw [parseResponse_compose_eq_ok_iff hmetadata, and_iff_right hsettled]
  constructor
  · intro h
    refine ⟨fun file source hsource => ?_, (h .style _ rfl).trimmed⟩
    obtain ⟨-, hplain, hunfenced⟩ := h file source hsource
    exact ⟨hplain, hunfenced rfl⟩
  · rintro ⟨h, hstyle⟩ file source hsource
    obtain ⟨hplain, hunfenced⟩ := h file source hsource
    have htrim : Text.trim source = source := by
      by_cases hs : file = .style
      · subst hs
        rwa [← Option.some.inj hsource]
      exact trim_source_of_parseResponse hparse hsource hs
    exact ⟨htrim, hplain, fun _ => hunfenced⟩

/-- A block that needs no fix, with an editor script. -/
def demo (editorScript : Text) : Bundle where
  config := []
  registration := []
  render := []
  editorScript := editorScript
  sharedScript := []
  style := ".cm-demo \x7b\x7d"
  metadata := [("name", .string "cm/demo"), ("keywords", .array [.string "cm"]),
    ("attributes", .object [("isExample",
      .object [("type", .string "boolean"), ("default", .bool false)])])]

/-- Without its fence the script comes back as it is. -/
theorem parseResponse_stable_iff_demo :
    parseMetadata (demo "let x;").metadataText = .ok (demo "let x;").metadata ∧
      ((demo "let x;").fix {}).bundle = demo "let x;" ∧
      ∀ now now', parseResponse now (Response.compose (demo "```js\nlet x;\n```")) =
          .ok (demo "let x;") ∧
        parseResponse now' (Response.compose (demo "let x;")) = .ok (demo "let x;") := by
  have hfirst : Response.parse true (Response.compose (demo "```js\nlet x;\n```")) =
      .ok (demo "let x;") := by decide +kernel
  have hmetadata : parseMetadata (demo "let x;").metadataText = .ok (demo "let x;").metadata := by
    decide +kernel
  have hsettled : ((demo "let x;").fix {}).bundle = demo "let x;" := by decide +kernel
  have hsources : ∀ file ∈ BlockFile.all, ∀ source ∈ (demo "let x;").source? file,
      (∀ line ∈ Text.splitOn '\n' source, Line.ofText line = .plain) ∧
      Text.startsWith fence source = false := by decide +kernel
  refine ⟨hmetadata, hsettled, fun now now' => ?_⟩
  have hparse : parseResponse now (Response.compose (demo "```js\nlet x;\n```")) =
      .ok (demo "let x;") := parseResponse_eq_ok_iff.2 ⟨_, hfirst, hsettled⟩
  exact ⟨hparse, (parseResponse_stable_iff hparse hmetadata hsettled now').2
    ⟨fun file => hsources file (BlockFile.mem_all file), by decide +kernel⟩⟩

/-- Of two fences around the script one is stripped each time. -/
theorem not_parseResponse_compose_fencedTwice :
    ¬ ∀ (now : Timestamp) (response : Text) (b : Bundle), parseResponse now response = .ok b →
      parseMetadata b.metadataText = .ok b.metadata →
      parseResponse now (Response.compose b) = .ok b := by
  intro h
  have hfirst : Response.parse true (Response.compose (demo "```\n```js\nlet x;\n```\n```")) =
      .ok (demo "```js\nlet x;\n```") := by decide +kernel
  have hsettled : ((demo "```js\nlet x;\n```").fix {}).bundle = demo "```js\nlet x;\n```" := by
    decide +kernel
  have hstable := h ⟨2026, 1, 1, 0, 0, 0, 0⟩ _ (demo "```js\nlet x;\n```")
    (parseResponse_eq_ok_iff.2 ⟨_, hfirst, hsettled⟩) (by decide +kernel)
  have hunfenced := (survives_of_parseResponse_compose hstable .editorScript).unfenced rfl
  exact absurd hunfenced (by decide)

end Audit

end BlockAudit
