import BlockAudit.Proofs.LineEndings
import BlockAudit.Proofs.RoundTrip
import BlockAudit.Proofs.SectionGrammar

/-!
# Bodies inside fences

A fence around a body is taken off again, whatever the body holds: the first line of the fence ends at the
first line feed, and only the last three backquotes close it. A fence has no sentinel among its own
lines, so the section is found as before. With fences stripped it makes no difference which bodies of a
response stand inside one.
-/

namespace BlockAudit

namespace Section

variable {info body : Text}

/-- A body inside a fence, with the given text behind the opening backquotes. -/
def fenced (info body : Text) : Text := fence ++ (info ++ '\n' :: (body ++ '\n' :: fence))

/-! ### One body -/

lemma trim_fenced (info body : Text) : Text.trim (fenced info body) = fenced info body := by
  have hend : '`' :: ("``" ++ (info ++ '\n' :: (body ++ '\n' :: fence))) =
      (fence ++ (info ++ '\n' :: (body ++ '\n' :: ['`', '`']))) ++ ['`'] := by
    simp [fence]
  exact Text.trim_eq_self (by decide) (by decide) hend

/-- The outer fence comes off, and no other. -/
lemma stripFence_fenced (hinfo : '\n' ∉ info) (body : Text) :
    stripFence (fenced info body) = Text.trim body := by
  have hopened : Text.after? fence (fenced info body) =
      some (info ++ '\n' :: (body ++ '\n' :: fence)) := Text.after?_eq_some_iff.2 rfl
  -- the closing fence stands on a line of its own, so it is the end of the code whatever the body ends in
  have hend : Text.trimEnd (body ++ '\n' :: fence) = body ++ ['\n'] ++ fence := by
    have hlast : body ++ '\n' :: fence = (body ++ "\n``".toList) ++ ['`'] := by simp [fence]
    rw [hlast, Text.trimEnd_concat (by decide), ← hlast, List.append_assoc]
    rfl
  rw [stripFence, trim_fenced, hopened]
  dsimp only
  rw [Text.cut?_singleton hinfo]
  dsimp only
  rw [hend, Text.before?_eq_some_iff.2 rfl, Option.getD_some, Text.trim_concat_blank (by decide)]

lemma ofText_of_fence (info : Text) : Line.ofText (fence ++ info) = .plain := by
  have hopens : Opens (fence ++ info) := opens_cons (by decide) (by decide) _
  exact hopens.ofText_eq_plain List.prefix_rfl

lemma isPlain_fenced (hinfo : '\n' ∉ info) (hbody : IsPlain body) : IsPlain (fenced info body) := by
  have hfirst : '\n' ∉ fence ++ info := by
    rw [List.mem_append, not_or]
    exact ⟨by decide, hinfo⟩
  have hlines : Text.splitOn '\n' (fenced info body) =
      (fence ++ info) :: (Text.splitOn '\n' body ++ [fence]) := by
    rw [fenced, ← List.append_assoc, Text.splitOn_append, Text.splitOn_append,
      Text.splitOn_of_notMem hfirst]
    rfl
  intro line hline
  rw [hlines, List.mem_cons, List.mem_append, List.mem_singleton] at hline
  rcases hline with rfl | hline | rfl
  · exact ofText_of_fence info
  · exact hbody line hline
  · exact ofText_of_fence []

/-! ### Blocks -/

/-- The second block is the first one, or has its body inside a fence. -/
structure MayFence (b b' : Block) : Prop where
  name : b'.name = b.name
  body : b'.body = b.body ∨ Text.startsWith fence (Text.trim b.body) = false ∧
    ∃ info, '\n' ∉ info ∧ b'.body = fenced info b.body

/-- Behind trimming and stripping the fence cannot be told. -/
lemma MayFence.stripFence_eq {b b' : Block} (h : MayFence b b') :
    stripFence (Text.trim b'.body) = stripFence (Text.trim b.body) := by
  rcases h.body with hsame | ⟨hbare, info, hinfo, hfenced⟩
  · rw [hsame]
  · have hbare' : Text.startsWith fence (Text.trim (Text.trim b.body)) = false := by
      rwa [Text.trim_trim]
    rw [hfenced, trim_fenced, stripFence_fenced hinfo, stripFence_of_unfenced hbare', Text.trim_trim]

lemma blockNamed?_mayFence {blocks blocks' : List Block} (h : List.Forall₂ MayFence blocks blocks')
    (name : Text) :
    (blockNamed? name blocks').map (fun b => stripFence (Text.trim b.body)) =
      (blockNamed? name blocks).map fun b => stripFence (Text.trim b.body) := by
  induction h with
  | nil => rfl
  | @cons b b' blocks blocks' hb hblocks ih =>
    by_cases hname : b.name = name
    · simp [blockNamed?, hb.name, hname, hb.stripFence_eq]
    · simpa [blockNamed?, hb.name, hname] using ih

end Section

namespace Response

open Section

/-- The response with the given body for each of the seven files, in canonical order, and a closing
sentinel. -/
def ofBodies (bodies : BlockFile → Text) : Text :=
  BlockFile.all.flatMap (fun file =>
    sentinel ++ ['\n'] ++ file.marker ++ ['\n'] ++ bodies file ++ ['\n']) ++ sentinel ++ ['\n']

/-- The lines of one section, without their endings. -/
def partsOf (bodies : BlockFile → Text) (file : BlockFile) : List Text :=
  sentinel :: file.marker :: Text.splitOn '\n' (bodies file)

lemma splitOn_ofBodies (bodies : BlockFile → Text) :
    Text.splitOn '\n' (ofBodies bodies) =
      BlockFile.all.flatMap (partsOf bodies) ++ [sentinel, []] := by
  rw [ofBodies]
  induction BlockFile.all with
  | nil => rfl
  | cons file files ih =>
    have hmarker := Text.splitOn_of_notMem (newline_notMem_marker file)
    have hsentinel : Text.splitOn '\n' sentinel = [sentinel] := rfl
    rw [List.flatMap_cons, List.flatMap_cons]
    simp only [List.append_assoc, List.cons_append, List.nil_append] at ih ⊢
    rw [Text.splitOn_append, Text.splitOn_append, Text.splitOn_append, hsentinel, hmarker, ih]
    rfl

/-- Bodies without a sentinel are the blocks of their response. -/
lemma renders_ofBodies {bodies : BlockFile → Text} (h : ∀ file, IsPlain (bodies file)) :
    Renders (BlockFile.all.map fun file => .ofFile file (bodies file) (h file)) (ofBodies bodies) := by
  refine ⟨[], BlockFile.all.flatMap (partsOf bodies) ++ [sentinel, []], by simp, ?_,
    splitOn_ofBodies bodies⟩
  generalize BlockFile.all = files
  induction files with
  | nil => exact .closed rfl (List.forall_mem_singleton.2 rfl)
  | cons file files ih =>
    have hheader : IsHeader file.marker (sentinel :: ([] ++ [file.marker])) :=
      .apart rfl (by simp) (trim_marker file)
    have hbody : IsBody (bodies file) (Text.splitOn '\n' (bodies file)) := .inl rfl
    have hparts (rest : List Text) : partsOf bodies file ++ rest =
        (sentinel :: ([] ++ [file.marker])) ++ (Text.splitOn '\n' (bodies file) ++ rest) := rfl
    rw [List.flatMap_cons, List.append_assoc, hparts]
    exact Layout.block (b := .ofFile file (bodies file) (h file)) hheader hbody ih

lemma parse_congr_stripped {response response' : Text}
    (h : ∀ file, (extract? response' file).map stripFence = (extract? response file).map stripFence) :
    parse true response' = parse true response := by
  refine parse_congr_body fun file => ?_
  have hfile := h file
  rw [body, body, extract?_trim, extract?_trim]
  cases hfound : extract? response file with
  | none =>
    rw [hfound, Option.map_none, Option.map_eq_none_iff] at hfile
    rw [hfile]
  | some text =>
    rw [hfound] at hfile
    obtain ⟨text', hfound', hsame⟩ := Option.map_eq_some_iff.1 hfile
    simp [hfound', hsame]

lemma parse_of_mayFence {blocks blocks' : List Block} {response response' : Text}
    (h : List.Forall₂ MayFence blocks blocks') (hrenders : Renders blocks response)
    (hrenders' : Renders blocks' response') : parse true response' = parse true response := by
  refine parse_congr_stripped fun file => ?_
  rw [extract?_of_renders hrenders, extract?_of_renders hrenders', Option.map_map, Option.map_map]
  exact blockNamed?_mayFence h file.marker

/-- The body of a file as it stands, or inside a fence for which a text is given. -/
def fencedFor (info : Option Text) (body : Text) : Text :=
  match info with
  | none => body
  | some info => fenced info body

lemma mayFence_body {info : Option Text} {body : Text}
    (h : ∀ text, info = some text → '\n' ∉ text ∧ Text.startsWith fence (Text.trim body) = false) :
    fencedFor info body = body ∨ Text.startsWith fence (Text.trim body) = false ∧
      ∃ text, '\n' ∉ text ∧ fencedFor info body = fenced text body := by
  cases info with
  | none => exact .inl rfl
  | some text =>
    obtain ⟨hfeed, hbare⟩ := h text rfl
    exact .inr ⟨hbare, text, hfeed, rfl⟩

/-- With fences stripped, the response with any of the seven bodies inside fences is parsed to the same
bundle, or refused for the same reason, as the one with the bodies as they stand, if no body has a
sentinel among its lines and none that is put inside a fence begins with one. It is the same for any
list of blocks, however each of them is introduced. -/
theorem parse_fenced :
    (∀ (bodies : BlockFile → Text) (info : BlockFile → Option Text),
      (∀ file, ∀ line ∈ Text.splitOn '\n' (bodies file), Line.ofText line = .plain) →
      (∀ file text, info file = some text →
        '\n' ∉ text ∧ Text.startsWith fence (Text.trim (bodies file)) = false) →
      parse true (ofBodies fun file => fencedFor (info file) (bodies file)) =
        parse true (ofBodies bodies)) ∧
      ∀ blocks blocks' response response', List.Forall₂ MayFence blocks blocks' →
        Renders blocks response → Renders blocks' response' →
        parse true response' = parse true response := by
  refine ⟨fun bodies info hplain hinfo => ?_, fun _ _ _ _ => parse_of_mayFence⟩
  have hplain' (file : BlockFile) : IsPlain (fencedFor (info file) (bodies file)) := by
    cases hfile : info file with
    | none => exact hplain file
    | some text => exact isPlain_fenced (hinfo file text hfile).1 (hplain file)
  refine parse_of_mayFence ?_ (renders_ofBodies hplain) (renders_ofBodies hplain')
  rw [List.forall₂_map_left_iff, List.forall₂_map_right_iff, List.forall₂_same]
  exact fun file _ => ⟨rfl, mayFence_body (hinfo file)⟩

/-- Bodies that are empty, end in backquotes, or have a fence further down. -/
def mixedBodies : BlockFile → Text
  | .metadata => "\x7b\"name\": \"cm/a\"\x7d"
  | .config => []
  | .registration => " a```"
  | .render => "x\n```php\ny\n```\n"
  | .editorScript => "\n\nlet x;"
  | .sharedScript => "`"
  | .style => ".cm-a \x7b\x7d"

/-- What stands behind the opening backquotes of four of them. -/
def mixedFences : BlockFile → Option Text
  | .metadata => some "json"
  | .config => some []
  | .registration => some "`"
  | .render => some " php ```"
  | _ => none

theorem parse_fenced_mixed :
    (∀ file, ∀ line ∈ Text.splitOn '\n' (mixedBodies file), Line.ofText line = .plain) ∧
      (∀ file text, mixedFences file = some text →
        '\n' ∉ text ∧ Text.startsWith fence (Text.trim (mixedBodies file)) = false) ∧
      parse true (ofBodies fun file => fencedFor (mixedFences file) (mixedBodies file)) =
        parse true (ofBodies mixedBodies) := by
  have hplain : ∀ file, ∀ line ∈ Text.splitOn '\n' (mixedBodies file), Line.ofText line = .plain := by
    intro file
    cases file <;> decide
  have hinfo : ∀ file text, mixedFences file = some text →
      '\n' ∉ text ∧ Text.startsWith fence (Text.trim (mixedBodies file)) = false := by
    intro file text htext
    cases file with
    | metadata | config | registration | render => cases htext; decide
    | _ => cases htext
  exact ⟨hplain, hinfo, parse_fenced.1 mixedBodies mixedFences hplain hinfo⟩

end Response

end BlockAudit
