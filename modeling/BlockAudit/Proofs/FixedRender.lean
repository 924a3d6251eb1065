import BlockAudit.Fix.Sources
import BlockAudit.Proofs.FixedMetadata
import BlockAudit.Proofs.Lines
import BlockAudit.Proofs.Php

/-!
# The fixed render callback

Three fixes edit the source of the render callback: the loading of the configuration is inserted after
the line of the first opening tag, a namespace before the first documentation comment, and wrapper
classes are joined. An edit of one fix leaves what the others look for, so that the configuration
loaded by the first is still loaded after the last.
-/

namespace BlockAudit

namespace Fix

open Reader

variable {name : BlockName} {c : Conventions} {source : Text}

/-! ### Inserting the loading of the configuration -/

lemma insertAfterFirst_eq_some {α : Type} {p : α → Bool} {new : α} {xs ys : List α}
    (h : insertAfterFirst p new xs = some ys) :
    ∃ before x after, (∀ z ∈ before, p z = false) ∧ p x = true ∧ xs = before ++ x :: after ∧
      ys = before ++ x :: new :: after := by
  induction xs generalizing ys with
  | nil => simp [insertAfterFirst] at h
  | cons x xs ih =>
    rw [insertAfterFirst] at h
    split at h
    · next hx => exact ⟨[], x, xs, by simp, hx, rfl, (Option.some.inj h).symm⟩
    · next hx =>
      obtain ⟨rest, hrest, rfl⟩ := Option.map_eq_some_iff.1 h
      obtain ⟨before, y, after, hbefore, hy, rfl, rfl⟩ := ih hrest
      have hfirst : ∀ z ∈ x :: before, p z = false :=
        List.forall_mem_cons.2 ⟨Bool.eq_false_iff.2 hx, hbefore⟩
      exact ⟨x :: before, y, after, hfirst, hy, rfl, rfl⟩

lemma insertAfterFirst_eq_none {α : Type} {p : α → Bool} (new : α) {xs : List α} :
    insertAfterFirst p new xs = none ↔ xs.any p = false := by
  induction xs with
  | nil => simp [insertAfterFirst]
  | cons x xs ih =>
    rw [insertAfterFirst, List.any_cons]
    by_cases hx : p x = true
    · simp [hx]
    · simp [hx, ih]

lemma renderConfigInclude_eq_none_iff :
    renderConfigInclude source = none ↔
      Php.includesConfig source = true ∨ Text.occurs Php.openTag source = false := by
  have hnewline : '\n' ∉ Php.openTag := by decide
  unfold renderConfigInclude
  rw [Text.occurs_eq_any_splitOn hnewline, ← insertAfterFirst_eq_none configRequire]
  cases Php.includesConfig source with
  | true => simp
  | false =>
    cases insertAfterFirst (Text.occurs Php.openTag) configRequire (Text.splitOn '\n' source) with
    | none => simp
    | some lines => simp

/-- The second source is the first one with a line more, which loads the configuration and comes right
after the first line with an opening tag. -/
def LoadsBehindTag (source new : Text) : Prop :=
  ∃ before line after, (∀ other ∈ before, Text.occurs Php.openTag other = false) ∧
    Text.occurs Php.openTag line = true ∧ Text.splitOn '\n' source = before ++ line :: after ∧
    Text.splitOn '\n' new = before ++ line :: configRequire :: after

lemma loadsBehindTag_of_renderConfigInclude {new words : Text}
    (h : renderConfigInclude source = some (new, words)) : LoadsBehindTag source new := by
  unfold renderConfigInclude at h
  split at h
  · exact absurd h (by simp)
  · cases hlines : insertAfterFirst (Text.occurs Php.openTag) configRequire
      (Text.splitOn '\n' source) with
    | none => simp [hlines] at h
    | some lines =>
      obtain ⟨before, line, after, hbefore, hline, hsplit, rfl⟩ := insertAfterFirst_eq_some hlines
      have hnew : new = Text.joinWith ['\n'] (before ++ line :: configRequire :: after) := by
        rw [hlines] at h
        simpa using (congrArg Prod.fst (Option.some.inj h)).symm
      refine ⟨before, line, after, hbefore, hline, hsplit, ?_⟩
      rw [hnew]
      apply Text.splitOn_joinWith
      · simp
      · intro part hpart
        have hold : part = configRequire ∨ part ∈ before ++ line :: after := by
          simp only [List.mem_append, List.mem_cons] at hpart ⊢
          tauto
        rcases hold with rfl | hold
        · decide
        · rw [← hsplit] at hold
          exact Text.notMem_of_mem_splitOn hold

lemma renderConfigInclude_eq_some {new words : Text}
    (h : renderConfigInclude source = some (new, words)) :
    ∃ head tail, Text.occurs Php.openTag head = true ∧ (tail = [] ∨ ∃ rest, tail = '\n' :: rest) ∧
      source = head ++ tail ∧ new = head ++ '\n' :: (configRequire ++ tail) := by
  obtain ⟨before, line, after, -, hline, hsource, hnew⟩ := loadsBehindTag_of_renderConfigInclude h
  refine ⟨before.flatMap (· ++ ['\n']) ++ line, after.flatMap (['\n'] ++ ·), ?_, ?_, ?_, ?_⟩
  · exact Text.occurs_append_right _ hline
  · cases after with
    | nil => exact .inl rfl
    | cons next after => exact .inr ⟨_, rfl⟩
  · rw [← Text.joinWith_append, ← hsource, Text.joinWith_splitOn]
  · rw [← Text.joinWith_splitOn '\n' new, hnew, Text.joinWith_append]
    simp

lemma includesConfig_renderConfigInclude {new words : Text}
    (h : renderConfigInclude source = some (new, words)) : Php.includesConfig new = true := by
  obtain ⟨head, tail, -, -, -, rfl⟩ := renderConfigInclude_eq_some h
  have hread : (Php.configInclude (configRequire ++ tail)).isSome = true := rfl
  have htail : Php.includesConfig ('\n' :: (configRequire ++ tail)) = true := by
    refine occursIn_append_right ['\n'] ?_
    exact occursIn_of_isSome hread
  exact occursIn_append_right head htail

/-! ### Inserting a namespace -/

lemma isSome_commentStart_iff {s : Text} : (Php.commentStart s).isSome = true ↔
    ∃ ws rest, IsBlanks ws ∧ s = ws ++ ("/**" ++ rest) := by
  constructor
  · intro h
    obtain ⟨t, ht⟩ := Option.isSome_iff_exists.1 h
    simp only [Php.commentStart, seq_cons, seq_nil, Option.bind_eq_some_iff] at ht
    obtain ⟨rest, hrest, t', ht', -⟩ := ht
    obtain ⟨ws, hws, hs⟩ := blanks_eq_some hrest
    exact ⟨ws, t', hws, by rw [hs, word_eq_some_iff.1 ht']⟩
  · rintro ⟨ws, rest, hws, rfl⟩
    have hblanks : blanks ("/**" ++ rest) = some ("/**" ++ rest) := blanks_cons (by decide) _
    unfold Php.commentStart
    rw [seq_cons, blanks_append hws, hblanks, Option.bind_some, seq_cons, word_append]
    rfl

/-- White space may be missing in front of a documentation comment, so that the comment alone decides. -/
lemma isSome_splitAtComment? (s : Text) :
    (Php.splitAtComment? s).isSome = Text.occurs "/**" s := by
  induction s with
  | nil => rfl
  | cons d s ih =>
    rw [Php.splitAtComment?, Text.occurs]
    by_cases hstart : (Php.commentStart (d :: s)).isSome = true
    · rw [if_pos hstart]
      obtain ⟨ws, rest, -, hs⟩ := isSome_commentStart_iff.1 hstart
      have hoccurs : Text.occurs "/**" (d :: s) = true := by
        rw [hs]
        exact Text.occurs_append_right ws (Text.occurs_self_append _ rest)
      exact hoccurs.symm
    · rw [if_neg hstart]
      have hword : Text.startsWith "/**" (d :: s) = false := by
        rw [Bool.eq_false_iff]
        intro h
        obtain ⟨t, ht⟩ := Text.startsWith_iff.1 h
        exact hstart (isSome_commentStart_iff.2 ⟨[], t, by decide, ht.symm⟩)
      simp only [Option.isSome_map, ih, hword, Bool.false_or]

lemma splitAtComment?_eq_some {s head tail : Text}
    (h : Php.splitAtComment? s = some (head, tail)) :
    ∃ ws rest, IsBlanks ws ∧ tail = ws ++ ("/**" ++ rest) ∧ s = head ++ tail := by
  induction s generalizing head with
  | nil =>
    have hnil : Php.splitAtComment? [] = none := rfl
    rw [hnil] at h
    exact absurd h (by simp)
  | cons d s ih =>
    rw [Php.splitAtComment?] at h
    split at h
    · next hcomment =>
      obtain ⟨rfl, rfl⟩ := by simpa using h
      obtain ⟨ws, rest, hws, hs⟩ := isSome_commentStart_iff.1 hcomment
      exact ⟨ws, rest, hws, hs, rfl⟩
    · obtain ⟨⟨head', tail'⟩, hsplit, heq⟩ := Option.map_eq_some_iff.1 h
      obtain ⟨rfl, rfl⟩ := by simpa using heq
      obtain ⟨ws, rest, hws, htail, hs⟩ := ih hsplit
      exact ⟨ws, rest, hws, htail, by rw [hs, List.cons_append]⟩

/-- The text is split where white space and a comment begin first. -/
lemma length_le_of_commentStart {s head tail x y : Text}
    (h : Php.splitAtComment? s = some (head, tail)) (hs : s = x ++ y)
    (hy : (Php.commentStart y).isSome = true) : head.length ≤ x.length := by
  induction s generalizing head x with
  | nil =>
    have hnil : Php.splitAtComment? [] = none := rfl
    rw [hnil] at h
    exact absurd h (by simp)
  | cons d s ih =>
    rw [Php.splitAtComment?] at h
    split at h
    · obtain ⟨rfl, -⟩ := by simpa using h
      exact Nat.zero_le _
    · next hstart =>
      obtain ⟨⟨head', tail'⟩, hsplit, heq⟩ := Option.map_eq_some_iff.1 h
      obtain ⟨rfl, rfl⟩ := by simpa using heq
      cases x with
      | nil =>
        rw [hs] at hstart
        exact absurd hy hstart
      | cons e x =>
        have hle := ih hsplit (List.cons.inj hs).2
        simpa using hle

lemma firstAt_of_splitAtComment? {s head ws rest : Text} (hws : IsBlanks ws)
    (h : Php.splitAtComment? s = some (head, ws ++ ("/**" ++ rest)))
    (hs : s = head ++ (ws ++ ("/**" ++ rest))) : Text.FirstAt "/**" s (head ++ ws) rest := by
  refine ⟨by rw [hs, List.append_assoc], fun x y hxy => ?_⟩
  have hcomment : (Php.commentStart ("/**" ++ y)).isSome = true :=
    isSome_commentStart_iff.2 ⟨[], y, by decide, rfl⟩
  have hle := length_le_of_commentStart h hxy hcomment
  have hhead : head <+: x := List.prefix_of_prefix_length_le ⟨_, hs.symm⟩ ⟨_, hxy.symm⟩ hle
  obtain ⟨v, rfl⟩ := hhead
  rw [hs, List.append_assoc] at hxy
  have hbehind := List.append_cancel_left hxy
  -- An earlier comment would begin in the white space.
  by_contra hlt
  simp only [List.length_append] at hlt
  have hcomment : v ++ ['/'] <+: ws ++ ("/**" ++ rest) := by
    rw [hbehind]
    exact ⟨"**" ++ y, by simp⟩
  have hslash : v ++ ['/'] <+: ws := by
    refine List.prefix_of_prefix_length_le hcomment (List.prefix_append ws _) ?_
    rw [List.length_append, List.length_singleton]
    omega
  exact hws.notMem (by decide) (hslash.subset (List.mem_append_right v List.mem_cons_self))

/-- The second source is the first one with a namespace declared directly in front of the white space
before the first documentation comment after the first opening tag. -/
def DeclaresBeforeComment (phpNamespace source new : Text) : Prop :=
  ∃ before between ws after,
    Text.FirstAt Php.openTag source before (between ++ (ws ++ ("/**" ++ after))) ∧
    Text.FirstAt "/**" (between ++ (ws ++ ("/**" ++ after))) (between ++ ws) after ∧
    IsBlanks ws ∧ (∀ d ∈ between.getLast?, Text.isBlank d = false) ∧
    new = before ++ (Php.openTag ++ (between ++ ("\n\nnamespace " ++ phpNamespace ++ ";\n" ++
      (ws ++ ("/**" ++ after)))))

lemma declaresBeforeComment_of_renderNamespace {new words : Text}
    (h : renderNamespace name c source = some (new, words)) :
    DeclaresBeforeComment (name.phpNamespace c) source new := by
  unfold renderNamespace at h
  split at h
  · exact absurd h (by simp)
  · simp only [Php.splitAtDocComment?, Option.bind_eq_bind, Option.bind_eq_some_iff, Option.pure_def,
      Option.some.injEq, Prod.mk.injEq, Prod.exists] at h
    obtain ⟨_, _, ⟨before, code, hcut, between, tail, hsplit, rfl, rfl⟩, rfl, -⟩ := h
    obtain ⟨ws, after, hws, rfl, hcode⟩ := splitAtComment?_eq_some hsplit
    have htag := Text.FirstAt.of_cut? hcut
    have hcomment := firstAt_of_splitAtComment? hws hsplit hcode
    refine ⟨before, between, ws, after, hcode ▸ htag, hcode ▸ hcomment, hws, fun d hd => ?_, ?_⟩
    · -- White space at the end would belong to what comes before the comment.
      obtain ⟨init, rfl⟩ := List.getLast?_eq_some_iff.1 hd
      rw [Bool.eq_false_iff]
      intro hblank
      have hblanks : IsBlanks (d :: ws) := List.forall_mem_cons.2 ⟨hblank, hws⟩
      have hearlier := length_le_of_commentStart hsplit (x := init) (y := d :: (ws ++ ("/**" ++ after)))
        (by rw [hcode]; simp) (isSome_commentStart_iff.2 ⟨d :: ws, after, hblanks, rfl⟩)
      rw [List.length_append, List.length_singleton] at hearlier
      omega
    · unfold namespaceLines
      simp only [List.append_assoc]

/-- A namespace is inserted behind an opening tag and before a documentation comment. -/
lemma renderNamespace_eq_some {new words : Text}
    (h : renderNamespace name c source = some (new, words)) :
    ∃ head ws rest, Text.occurs Php.openTag head = true ∧ IsBlanks ws ∧
      source = head ++ (ws ++ ("/**" ++ rest)) ∧
      new = head ++ (namespaceLines (name.phpNamespace c) ++ (ws ++ ("/**" ++ rest))) := by
  obtain ⟨before, between, ws, after, htag, -, hws, -, rfl⟩ := declaresBeforeComment_of_renderNamespace h
  refine ⟨before ++ (Php.openTag ++ between), ws, after, ?_, hws, ?_, ?_⟩
  · exact Text.occurs_append_right before (Text.occurs_self_append _ between)
  · rw [htag.eq]
    simp only [List.append_assoc]
  · unfold namespaceLines
    simp only [List.append_assoc]

lemma namespaceLines_eq (phpNamespace : Text) :
    namespaceLines phpNamespace = "\n\nname" ++ 's' :: ("pace " ++ (phpNamespace ++ ";\n")) := by
  unfold namespaceLines
  rw [List.append_assoc]
  rfl

/-- What loads the configuration lies on one side of an inserted namespace. -/
lemma includesConfig_renderNamespace {new words : Text}
    (h : renderNamespace name c source = some (new, words))
    (hsource : Php.includesConfig source = true) : Php.includesConfig new = true := by
  obtain ⟨head, ws, rest, -, hws, rfl, rfl⟩ := renderNamespace_eq_some h
  have hcomment (x : Text) : x ++ (ws ++ ("/**" ++ rest)) =
      (x ++ (ws ++ ['/'])) ++ '*' :: ('*' :: rest) := by
    simp only [List.append_assoc]
    rfl
  have hspace : Free Php.isQuote (ws ++ ['/']) := (Php.free_isQuote_blanks hws).append (by decide)
  rw [hcomment, Php.includesConfig_barrier Php.outsideInclude_star,
    Php.includesConfig_append head hspace] at hsource
  rw [namespaceLines_eq, List.append_assoc, ← List.append_assoc head, List.cons_append,
    Php.includesConfig_barrier Php.outsideInclude_s, Php.includesConfig_append head (by decide),
    hcomment, Php.includesConfig_barrier Php.outsideInclude_star]
  rcases Bool.or_eq_true_iff.1 hsource with hhead | hrest
  · simp [hhead]
  · simp [hrest]

/-! ### Joining wrapper classes -/

/-- The source with its wrapper classes joined. -/
def joinWrapperClasses (source : Text) : Text :=
  Php.rawWrapperClasses.replaceAll joinedWrapperClasses source

lemma leaves_wrapperClassesJoin :
    leaves source (wrapperClassesJoin source) = joinWrapperClasses source := by
  unfold wrapperClassesJoin ifChanged
  split
  · next h => exact h.symm
  · rfl

/-- Wrapper classes as they are and joined ones differ between their two `s` at the ends only, and
nothing there loads the configuration. -/
lemma includesConfig_joinWrapperClasses (source : Text) :
    Php.includesConfig (joinWrapperClasses source) = Php.includesConfig source := by
  refine observe_replaceAll _ Php.consumes_rawWrapperClasses Php.includesConfig ?_ source
  intro x m t t' hread ht
  obtain ⟨ws, ws', hws, hws', hm⟩ := Php.rawWrapperClasses_eq_some hread
  have hbetween (x mid y : Text) (hmid : Php.includesConfig mid = false) :
      Php.includesConfig (x ++ 's' :: (mid ++ 's' :: ([] ++ 's' :: (['e'] ++ 's' :: y)))) =
        (Php.includesConfig x || Php.includesConfig y) := by
    have hnil : Php.includesConfig [] = false := rfl
    have he : Php.includesConfig ['e'] = false := rfl
    simp only [Php.includesConfig_barrier Php.outsideInclude_s, hmid, hnil, he, Bool.false_or]
  have hraw : Php.includesConfig (x ++ (m ++ t)) =
      (Php.includesConfig (x ++ ['e']) || Php.includesConfig t) := by
    have hsplit : x ++ (m ++ t) = (x ++ ['e']) ++ 's' :: (("c_attr(" ++ (ws ++ "$wrapper_cla")) ++
        's' :: ([] ++ 's' :: (['e'] ++ 's' :: ((ws' ++ [')']) ++ t)))) := by
      rw [hm]
      simp
    have hfree : Free Php.isQuote (("c_attr(" : Text) ++ (ws ++ "$wrapper_cla")) :=
      Free.append (by decide) ((Php.free_isQuote_blanks hws).append (by decide))
    have hmid : Php.includesConfig (("c_attr(" : Text) ++ (ws ++ "$wrapper_cla")) = false :=
      Php.includesConfig_append [] hfree
    have hletters : 'r' ∉ ws' ++ [')'] ∧ 'i' ∉ ws' ++ [')'] := by
      simp [hws'.notMem (c := 'r') (by decide), hws'.notMem (c := 'i') (by decide)]
    rw [hsplit, hbetween _ _ _ hmid, Php.includesConfig_append_left t hletters]
  have hjoined : Php.includesConfig (x ++ (joinedWrapperClasses ++ t')) =
      (Php.includesConfig (x ++ ['e']) || Php.includesConfig t') := by
    have hsplit : x ++ (joinedWrapperClasses ++ t') =
        (x ++ ['e']) ++ 's' :: ("c_attr( implode( ' ', $wrapper_cla" ++
          's' :: ([] ++ 's' :: (['e'] ++ 's' :: (" ) )" ++ t')))) := by
      have hwords : joinedWrapperClasses = ['e'] ++ 's' :: ("c_attr( implode( ' ', $wrapper_cla" ++
          's' :: ([] ++ 's' :: (['e'] ++ 's' :: " ) )"))) := rfl
      rw [hwords]
      simp only [List.append_assoc, List.cons_append]
    have hmid : Php.includesConfig "c_attr( implode( ' ', $wrapper_cla" = false := rfl
    have hletters : 'r' ∉ (" ) )" : Text) ∧ 'i' ∉ (" ) )" : Text) := by decide
    rw [hsplit, hbetween _ _ _ hmid, Php.includesConfig_append_left t' hletters]
  rw [hraw, hjoined, ht]

/-- Wrapper classes begin with an `e` and end with a bracket, joined or not, and in between they have
neither a tag nor a comment. An observation for which the two ends are barriers cannot tell them
apart. -/
lemma observe_joinWrapperClasses {α : Type} (observe : Text → α) (g : Text → α → α)
    (h : ∀ x mid y, '<' ∉ mid → '*' ∉ mid →
      observe (x ++ 'e' :: (mid ++ ')' :: y)) = g x (observe y)) (source : Text) :
    observe (joinWrapperClasses source) = observe source := by
  refine observe_replaceAll _ Php.consumes_rawWrapperClasses observe ?_ source
  intro x m t t' hread ht
  obtain ⟨ws, ws', hws, hws', hm⟩ := Php.rawWrapperClasses_eq_some hread
  have hraw : x ++ (m ++ t) =
      x ++ 'e' :: (("sc_attr(" ++ (ws ++ ("$wrapper_classes" ++ ws'))) ++ ')' :: t) := by
    rw [hm]
    simp
  have hjoined : x ++ (joinedWrapperClasses ++ t') =
      x ++ 'e' :: ("sc_attr( implode( ' ', $wrapper_classes ) " ++ ')' :: t') := by
    have hwords : joinedWrapperClasses =
        'e' :: ("sc_attr( implode( ' ', $wrapper_classes ) " ++ [')']) := by decide
    rw [hwords]
    simp only [List.append_assoc, List.cons_append, List.nil_append]
  have hblanks {d : Char} (hd : Text.isBlank d = false) (hwords : d ∉ ("sc_attr(" : Text) ∧
      d ∉ ("$wrapper_classes" : Text)) :
      d ∉ ("sc_attr(" : Text) ++ (ws ++ ("$wrapper_classes" ++ ws')) := by
    simp only [List.mem_append, not_or]
    exact ⟨hwords.1, hws.notMem hd, hwords.2, hws'.notMem hd⟩
  have himplode : '<' ∉ ("sc_attr( implode( ' ', $wrapper_classes ) " : Text) ∧
      '*' ∉ ("sc_attr( implode( ' ', $wrapper_classes ) " : Text) := by decide
  rw [hraw, hjoined, h _ _ _ (hblanks (by decide) (by decide)) (hblanks (by decide) (by decide)),
    h _ _ _ himplode.1 himplode.2, ht]

lemma occurs_openTag_joinWrapperClasses (source : Text) :
    Text.occurs Php.openTag (joinWrapperClasses source) = Text.occurs Php.openTag source := by
  refine observe_joinWrapperClasses (Text.occurs Php.openTag)
    (fun x found => Text.occurs Php.openTag x || found) ?_ source
  intro x mid y htag _
  rw [Text.occurs_barrier (by decide), Text.occurs_barrier (by decide),
    Text.occurs_eq_false (d := '<') (by decide) htag, Bool.false_or]

/-! ### The three fixes together -/

/-- The render callback after its three fixes. -/
def fixRender (name : BlockName) (c : Conventions) (source : Text) : Text :=
  let source := leaves source (renderConfigInclude source)
  let source := leaves source (renderNamespace name c source)
  joinWrapperClasses source

/-- After the three fixes the configuration is loaded, unless there is no opening tag to load it behind. -/
lemma includesConfig_fixRender :
    Php.includesConfig (fixRender name c source) = false ↔
      Php.includesConfig source = false ∧ Text.occurs Php.openTag source = false := by
  have hnamespace (source : Text) (h : Php.includesConfig source = true) :
      Php.includesConfig (leaves source (renderNamespace name c source)) = true := by
    cases hchange : renderNamespace name c source with
    | none => exact h
    | some change => exact includesConfig_renderNamespace hchange h
  unfold fixRender
  dsimp only
  rw [includesConfig_joinWrapperClasses]
  cases hinclude : renderConfigInclude source with
  | some change =>
    have hnone : renderConfigInclude source ≠ none := by simp [hinclude]
    rw [Ne, renderConfigInclude_eq_none_iff, not_or] at hnone
    have htag : ¬ Text.occurs Php.openTag source = false := hnone.2
    have hfixed : Php.includesConfig change.1 = true := includesConfig_renderConfigInclude hinclude
    refine iff_of_false ?_ fun h => htag h.2
    simp only [leaves, Option.map_some, Option.getD_some]
    rw [Bool.not_eq_false]
    exact hnamespace change.1 hfixed
  | none =>
    rw [leaves_none]
    cases hsource : Php.includesConfig source with
    | true => simpa using hnamespace source hsource
    | false =>
      have htag := (renderConfigInclude_eq_none_iff.1 hinclude).resolve_left (by simp [hsource])
      refine iff_of_true ?_ ⟨rfl, htag⟩
      cases hchange : renderNamespace name c source with
      | none => exact hsource
      | some change =>
        obtain ⟨head, ws, rest, hhead, -, rfl, -⟩ := renderNamespace_eq_some hchange
        rw [Text.occurs_append_left _ hhead] at htag
        exact absurd htag (by simp)

end Fix

end BlockAudit
