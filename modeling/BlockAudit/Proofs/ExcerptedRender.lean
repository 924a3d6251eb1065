import BlockAudit.Proofs.RenderSettles
import BlockAudit.Proofs.SourceOutlines

/-!
# Excerpts of the render callback

The fixes of the render callback insert text, so that an excerpt could grow back to the whole. It does
not. Without a new namespace no hyphen and no backquote is inserted, yet each sentinel and each fence
has some. A new namespace is declared in front of the first documentation comment, and an excerpt
that has this comment but not the declaration would have the comment in front of it.
-/

namespace BlockAudit

namespace Text

/-- Text that is inserted into a trimmed text leaves it trimmed, when it does not come first, and when
it comes last only if it ends visibly. -/
lemma trim_insert {head new tail : Text} (hhead : head ≠ [])
    (hnew : tail = [] → (edges new).2 = some false)
    (h : trim (head ++ tail) = head ++ tail) :
    trim (head ++ (new ++ tail)) = head ++ (new ++ tail) := by
  rw [trim_eq_self_iff, edges_append] at h
  rw [trim_eq_self_iff, edges_append, edges_append]
  obtain ⟨c, head, rfl⟩ := List.exists_cons_of_ne_nil hhead
  have hfirst : (edges (c :: head)).1 = some (isBlank c) := rfl
  rw [hfirst] at h ⊢
  refine ⟨by simpa using h.1, ?_⟩
  rcases List.eq_nil_or_concat tail with rfl | ⟨init, d, rfl⟩
  · rw [hnew rfl]
    simp [edges]
  · have hlast : (edges (init.concat d)).2 = some (isBlank d) := by simp [edges]
    rw [hlast] at h ⊢
    simpa using h.2

end Text

namespace Fix

open Reader

variable {name : BlockName} {c : Conventions} {source : Text}

/-! ### Trimmed render callbacks -/

lemma ne_nil_of_occurs_openTag {s : Text} (h : Text.occurs Php.openTag s = true) : s ≠ [] := by
  rintro rfl
  exact absurd h (by decide)

lemma trim_joinWrapperClasses (h : Text.trim source = source) :
    Text.trim (joinWrapperClasses source) = joinWrapperClasses source := by
  have hedges : Text.edges (joinWrapperClasses source) = Text.edges source := by
    refine edges_replaceAll Php.consumes_rawWrapperClasses (fun m t hm => ?_) ?_ source
    · obtain ⟨ws, ws', -, -, heq⟩ := Php.rawWrapperClasses_eq_some hm
      have hparts : m ++ t =
          ('e' :: ("sc_attr(" ++ (ws ++ ("$wrapper_classes" ++ ws')) ++ [')'])) ++ t := by
        rw [heq]
        simp
      exact ⟨'e', _, ')', by decide, by decide, List.append_cancel_right hparts⟩
    · exact ⟨'e', "sc_attr( implode( ' ', $wrapper_classes ) ", ')', by decide, by decide, by decide⟩
  rw [Text.trim_eq_self_iff, hedges, ← Text.trim_eq_self_iff, h]

/-- The fixes of the render callback bring no white space to its ends. -/
lemma trim_fixRender (h : Text.trim source = source) :
    Text.trim (fixRender name c source) = fixRender name c source := by
  unfold fixRender
  refine trim_joinWrapperClasses ?_
  have hinclude : Text.trim (leaves source (renderConfigInclude source)) =
      leaves source (renderConfigInclude source) := by
    cases hchange : renderConfigInclude source with
    | none => exact h
    | some change =>
      obtain ⟨head, tail, hhead, -, rfl, hnew⟩ := renderConfigInclude_eq_some hchange
      rw [leaves, Option.map_some, Option.getD_some, hnew, ← List.cons_append]
      exact Text.trim_insert (ne_nil_of_occurs_openTag hhead) (fun _ => by decide) h
  generalize leaves source (renderConfigInclude source) = included at hinclude ⊢
  cases hchange : renderNamespace name c included with
  | none => exact hinclude
  | some change =>
    obtain ⟨head, ws, rest, hhead, -, rfl, hnew⟩ := renderNamespace_eq_some hchange
    rw [leaves, Option.map_some, Option.getD_some, hnew]
    exact Text.trim_insert (ne_nil_of_occurs_openTag hhead) (fun hnil => by simp at hnil) hinclude

/-! ### Without a new namespace -/

lemma count_joinWrapperClasses {d : Char} (hblank : Text.isBlank d = false)
    (hraw : d ∉ ("esc_attr($wrapper_classes)" : Text)) (hjoined : d ∉ joinedWrapperClasses) :
    (joinWrapperClasses source).count d = source.count d := by
  refine observe_replaceAll _ Php.consumes_rawWrapperClasses (List.count d) ?_ source
  intro x m t t' hm ht
  obtain ⟨ws, ws', hws, hws', heq⟩ := Php.rawWrapperClasses_eq_some hm
  have hwords : d ∉ ("esc_attr(" : Text) ∧ d ∉ ("$wrapper_classes" : Text) ∧ d ≠ ')' := by
    have hall : ("esc_attr($wrapper_classes)" : Text) = "esc_attr(" ++ ("$wrapper_classes" ++ [')']) :=
      rfl
    rw [hall] at hraw
    simpa only [List.mem_append, List.mem_singleton, not_or] using hraw
  rw [heq]
  simp only [List.count_append, List.count_cons, List.count_eq_zero.2 hwords.1,
    List.count_eq_zero.2 hwords.2.1, List.count_eq_zero.2 (hws.notMem hblank),
    List.count_eq_zero.2 (hws'.notMem hblank), List.count_eq_zero.2 hjoined,
    beq_eq_false_iff_ne.2 hwords.2.2.symm, ht]
  simp

lemma count_renderConfigInclude {d : Char} (hd : d ∉ '\n' :: configRequire) :
    (leaves source (renderConfigInclude source)).count d = source.count d := by
  cases hchange : renderConfigInclude source with
  | none => rfl
  | some change =>
    obtain ⟨head, tail, -, -, rfl, hnew⟩ := renderConfigInclude_eq_some hchange
    rw [leaves, Option.map_some, Option.getD_some, hnew, ← List.cons_append]
    simp only [List.count_append, List.count_eq_zero.2 hd, Nat.zero_add]

/-- Unless a namespace is inserted, no hyphen and no backquote comes in or goes. -/
lemma count_fixRender {d : Char} (hd : d = '-' ∨ d = '`')
    (h : renderNamespace name c (leaves source (renderConfigInclude source)) = none) :
    (fixRender name c source).count d = source.count d := by
  have hblank : Text.isBlank d = false := by rcases hd with rfl | rfl <;> decide
  have hraw : d ∉ ("esc_attr($wrapper_classes)" : Text) := by rcases hd with rfl | rfl <;> decide
  have hjoined : d ∉ joinedWrapperClasses := by rcases hd with rfl | rfl <;> decide
  have hrequire : d ∉ '\n' :: configRequire := by rcases hd with rfl | rfl <;> decide
  unfold fixRender
  dsimp only
  rw [h, leaves_none, count_joinWrapperClasses hblank hraw hjoined, count_renderConfigInclude hrequire]

/-! ### With a new namespace -/

lemma hasDocComment_mono {part : Text} (hpart : part <:+: source)
    (h : hasDocComment part = true) : hasDocComment source = true := by
  obtain ⟨before, after, rfl⟩ := hpart
  obtain ⟨x, y, rfl, hy⟩ := hasDocComment_iff.1 h
  exact hasDocComment_iff.2 ⟨before ++ x, y ++ after, by simp, Text.occurs_append_left after hy⟩

/-- A namespace is inserted where the documentation comment is still to come. -/
lemma exists_head_of_renderNamespace {new words : Text}
    (h : renderNamespace name c source = some (new, words)) :
    ∃ head tail, hasDocComment head = false ∧
      new = head ++ (namespaceLines (name.phpNamespace c) ++ tail) := by
  obtain ⟨before, between, ws, after, htag, hcomment, -, -, rfl⟩ :=
    declaresBeforeComment_of_renderNamespace h
  have hcut := Text.cut?_eq_some_iff.2 (htag.congr between)
  have hnone := hcomment.occurs_eq_false (by decide)
  refine ⟨before ++ (Php.openTag ++ between), ws ++ ("/**" ++ after), ?_, ?_⟩
  · rw [hasDocComment, hcut, Bool.eq_false_iff]
    intro hbetween
    rw [Text.occurs_append_left ws hbetween] at hnone
    exact absurd hnone (by simp)
  · unfold namespaceLines
    simp only [List.append_assoc]

lemma hasDocComment_renderConfigInclude :
    hasDocComment (leaves source (renderConfigInclude source)) = hasDocComment source := by
  cases hchange : renderConfigInclude source with
  | none => rfl
  | some change =>
    obtain ⟨head, tail, hhead, htail, rfl, hnew⟩ := renderConfigInclude_eq_some hchange
    have hline (y : Text) :
        hasDocComment (head ++ '\n' :: y) = (hasDocComment head || Text.occurs "/**" y) := by
      rw [hasDocComment_barrier (by decide) (by decide), if_pos hhead]
    have hrequire : Text.occurs "/**" configRequire = false := by decide
    rw [leaves, Option.map_some, Option.getD_some, hnew, hline]
    rcases htail with rfl | ⟨rest, rfl⟩
    · rw [List.append_nil, List.append_nil, hrequire, Bool.or_false]
    · rw [hline, Text.occurs_barrier (by decide), hrequire, Bool.false_or]

/-- The text consists of whole lines, so that a line begins behind it. -/
def IsLines (s : Text) : Prop := s = [] ∨ ∃ z, s = z ++ ['\n']

lemma IsLines.of_append {x y : Text} (h : IsLines (x ++ y)) : IsLines y := by
  rcases List.eq_nil_or_concat y with rfl | ⟨z, e, rfl⟩
  · exact .inl rfl
  · rw [List.concat_eq_append, ← List.append_assoc] at h
    rcases h with hnil | ⟨z', hz'⟩
    · exact absurd hnil (by simp)
    · obtain ⟨-, he⟩ := List.append_inj' hz' rfl
      exact .inr ⟨z, by rw [List.concat_eq_append, he]⟩

lemma declaresNamespace_of_line {x : Text} (hx : IsLines x) (y : Text) :
    Php.declaresNamespace (x ++ ("namespace C" ++ y)) = true := by
  have hhere : declaresFrom true ("namespace C" ++ y) = true := rfl
  rcases hx with rfl | ⟨z, rfl⟩
  · exact hhere
  · rw [List.append_assoc]
    exact declaresFrom_newline true z hhere

/-- A namespace that is declared at the start of a line is declared when the configuration is loaded on a
line of its own. -/
lemma declaresNamespace_renderConfigInclude {x y : Text} (hx : IsLines x)
    (h : source = x ++ ("namespace C" ++ y)) :
    Php.declaresNamespace (leaves source (renderConfigInclude source)) = true := by
  cases hchange : renderConfigInclude source with
  | none =>
    rw [leaves_none, h]
    exact declaresNamespace_of_line hx y
  | some change =>
    obtain ⟨head, tail, -, htail, hsource, hnew⟩ := renderConfigInclude_eq_some hchange
    rw [leaves, Option.map_some, Option.getD_some, hnew]
    rw [h] at hsource
    rcases List.append_eq_append_iff.1 hsource with ⟨r, rfl, hr⟩ | ⟨r, rfl, hr⟩
    · -- The declaration stands in front of the new line.
      have hwords : ("namespace C" : Text) <+: r := by
        rcases htail with rfl | ⟨rest, rfl⟩
        · exact ⟨y, by rw [hr, List.append_nil]⟩
        · exact Text.prefix_of_notMem (by decide) ⟨y, hr⟩
      obtain ⟨u, rfl⟩ := hwords
      rw [List.append_assoc, List.append_assoc]
      exact declaresNamespace_of_line hx _
    · -- The declaration stands behind the new line.
      rcases hx.of_append with rfl | ⟨z, rfl⟩
      · rcases htail with rfl | ⟨rest, rfl⟩
        · exact absurd hr (by simp)
        · exact absurd (List.cons.inj hr).1 (by decide)
      have hparts : head ++ '\n' :: (configRequire ++ tail) =
          (head ++ '\n' :: (configRequire ++ z) ++ ['\n']) ++ ("namespace C" ++ y) := by
        rw [hr]
        simp
      rw [hparts]
      exact declaresNamespace_of_line (.inr ⟨_, rfl⟩) y

/-- No wrapper classes are found in a text without an opening bracket. -/
lemma joinWrapperClasses_eq_self {s : Text} (h : '(' ∉ s) : joinWrapperClasses s = s := by
  refine replaceAll_eq_self fun w _ hws => ?_
  cases hread : Php.rawWrapperClasses (w ++ []) with
  | none => rfl
  | some t =>
    obtain ⟨ws, ws', -, -, heq⟩ := Php.rawWrapperClasses_eq_some hread
    refine absurd (hws.subset ?_) h
    rw [← List.append_nil w, heq]
    exact List.mem_append_left _ (by decide)

/-- The first words of a namespace stand outside of all wrapper classes. -/
lemma joinWrapperClasses_append (x y : Text) :
    joinWrapperClasses (x ++ ("namespace C" ++ y)) =
      joinWrapperClasses x ++ ("namespace C" ++ joinWrapperClasses y) := by
  have hstops {d : Char} (hblank : Text.isBlank d = false) (hopen : d ∉ ("esc_attr(" : Text))
      (hclasses : d ∉ ("$wrapper_classes" : Text)) (hclose : d ∉ (")" : Text)) :
      Stops Php.rawWrapperClasses d := by
    refine stops_seq ?_
    simp only [List.forall_mem_cons, List.not_mem_nil, IsEmpty.forall_iff, implies_true, and_true]
    exact ⟨stops_word hopen, stops_many hblank, stops_word hclasses, stops_many hblank,
      stops_word hclose⟩
  have hbarrier {d : Char} (hd : Stops Php.rawWrapperClasses d) (x y : Text) :
      joinWrapperClasses (x ++ d :: y) = joinWrapperClasses x ++ d :: joinWrapperClasses y :=
    replaceAll_barrier Php.consumes_rawWrapperClasses hd x y
  have hwords (y : Text) : ("namespace C" : Text) ++ y = 'n' :: ("amespace " ++ 'C' :: y) := rfl
  have hkept : joinWrapperClasses "amespace " = "amespace " := joinWrapperClasses_eq_self (by decide)
  rw [hwords, hwords, hbarrier (hstops (by decide) (by decide) (by decide) (by decide)),
    hbarrier (hstops (by decide) (by decide) (by decide) (by decide)), hkept]

lemma getLast?_joinWrapperClasses (s : Text) : (joinWrapperClasses s).getLast? = s.getLast? := by
  refine observe_replaceAll _ Php.consumes_rawWrapperClasses List.getLast? ?_ s
  intro x m t t' hm ht
  obtain ⟨ws, ws', -, -, heq⟩ := Php.rawWrapperClasses_eq_some hm
  have hjoined : joinedWrapperClasses = "esc_attr( implode( ' ', $wrapper_classes ) " ++ [')'] := by
    decide
  rw [heq, hjoined]
  simp [List.getLast?_append, List.getLast?_cons, ht]

/-- A fixed render callback with a new namespace, in parts. -/
lemma exists_parts_of_renderNamespace {new words : Text}
    (h : renderNamespace name {} source = some (new, words)) :
    ∃ z y, joinWrapperClasses new = (z ++ ['\n']) ++ ("namespace C" ++ y) ∧
      hasDocComment (z ++ ['\n'] ++ "namespace C") = false := by
  obtain ⟨head, tail, hhead, rfl⟩ := exists_head_of_renderNamespace h
  obtain ⟨z, hz⟩ : ∃ z, joinWrapperClasses (head ++ ['\n', '\n']) = z ++ ['\n'] := by
    refine List.getLast?_eq_some_iff.1 ?_
    rw [getLast?_joinWrapperClasses]
    simp
  have hroot : name.phpNamespace {} = 'C' :: ("ompuMatter\\Blocks\\" ++ name.pascal) := rfl
  have hlines (p : Text) : head ++ (namespaceLines ('C' :: p) ++ tail) =
      (head ++ ['\n', '\n']) ++ ("namespace C" ++ (p ++ (";\n" ++ tail))) := by
    unfold namespaceLines
    simp
  have hfront : joinWrapperClasses ((head ++ ['\n', '\n']) ++ (("namespace C" : Text) ++ [])) =
      z ++ ['\n'] ++ "namespace C" := by
    rw [joinWrapperClasses_append, hz, joinWrapperClasses_eq_self (s := []) (by decide),
      List.append_nil]
  have hline : (head ++ ['\n', '\n']) ++ (("namespace C" : Text) ++ []) =
      head ++ '\n' :: '\n' :: "namespace C" := by simp
  refine ⟨z, _, by rw [hroot, hlines, joinWrapperClasses_append, hz], ?_⟩
  rw [← hfront, hasDocComment_joinWrapperClasses, hline,
    hasDocComment_barrier (by decide) (by decide), hhead]
  split_ifs <;> decide

/-- No part of the text that begins in front of the namespace has a documentation comment and not the
namespace. -/
lemma not_part_of_namespace {part after head y : Text} (hhead : IsLines head)
    (hfront : hasDocComment (head ++ "namespace C") = false) (hdoc : hasDocComment part = true)
    (hdeclares : Php.declaresNamespace (leaves part (renderConfigInclude part)) = false) :
    part ++ after ≠ head ++ ("namespace C" ++ y) := by
  intro h
  have hinside : ¬ part <:+: head ++ "namespace C" := by
    intro hpart
    rw [hasDocComment_mono hpart hdoc] at hfront
    exact Bool.noConfusion hfront
  rcases List.append_eq_append_iff.1 h with ⟨r, rfl, -⟩ | ⟨r, rfl, hr⟩
  · refine hinside ?_
    rw [List.append_assoc]
    exact (List.prefix_append part _).isInfix
  · rcases List.append_eq_append_iff.1 hr with ⟨u, rfl, -⟩ | ⟨u, hu, -⟩
    · rw [declaresNamespace_renderConfigInclude hhead rfl] at hdeclares
      exact Bool.noConfusion hdeclares
    · refine hinside ?_
      rw [hu, ← List.append_assoc]
      exact (List.prefix_append _ u).isInfix

/-- What stands behind the first line of a text, and behind white space, begins in front of a namespace
that has whole lines before it. -/
lemma exists_lines_of_fenced {first gap rest z y : Text} (hfeed : '\n' ∉ first) (hgap : IsBlanks gap)
    (h : first ++ '\n' :: (gap ++ rest) = (z ++ ['\n']) ++ ("namespace C" ++ y)) :
    ∃ before lines, IsLines lines ∧ z ++ ['\n'] = before ++ lines ∧
      rest = lines ++ ("namespace C" ++ y) := by
  have hlines {before lines : Text} (hsplit : z ++ ['\n'] = before ++ lines) : IsLines lines :=
    IsLines.of_append (x := before) (.inr ⟨z, hsplit.symm⟩)
  rcases List.append_eq_append_iff.1 h with ⟨r, hr, hrest⟩ | ⟨r, rfl, -⟩
  · cases r with
    | nil => exact absurd (List.cons.inj hrest).1 (by decide)
    | cons e r =>
      obtain ⟨rfl, hbehind⟩ := List.cons.inj hrest
      rcases List.append_eq_append_iff.1 hbehind with ⟨u, rfl, hu⟩ | ⟨u, rfl, hu⟩
      · have hsplit : z ++ ['\n'] = (first ++ '\n' :: gap) ++ u := by
          rw [hr]
          simp
        exact ⟨_, u, hlines hsplit, hsplit, hu⟩
      · cases u with
        | nil => exact ⟨first ++ '\n' :: r, [], .inl rfl, by rw [hr, List.append_nil], hu.symm⟩
        | cons e u =>
          obtain rfl : 'n' = e := (List.cons.inj hu).1
          have hblank := hgap 'n' (by simp)
          exact absurd hblank (by decide)
  · exact absurd (by simp) hfeed

end Fix

open BlockAudit.Fix in
/-- An excerpt of a render callback is fixed to that callback only when it is the whole of it. -/
theorem Section.Excerpt.eq_of_fixRender {name : BlockName} {text part : Text}
    (h : Excerpt (Text.trim text) part) (htrim : Text.trim part = part)
    (hfix : fixRender name {} part = text) : part = text := by
  have htext : Text.trim text = text := by
    rw [← hfix]
    exact trim_fixRender htrim
  rw [htext] at h
  cases hchange : renderNamespace name {} (leaves part (renderConfigInclude part)) with
  | none =>
    have hcount {d : Char} (hd : d = '-' ∨ d = '`') : text.count d = part.count d := by
      rw [← hfix, count_fixRender hd hchange]
    cases h with
    | whole => rfl
    | nothing =>
      have hinclude : renderConfigInclude [] = none := renderConfigInclude_eq_none_iff.2 (.inr rfl)
      rw [fixRender, hchange, hinclude] at hfix
      rw [← hfix]
      exact (joinWrapperClasses_eq_self (by decide)).symm
    | @cut _ after c hblank hfeed hdash heq =>
      have hdashes := hcount (.inl rfl)
      have hpos : 0 < (c :: after).count '-' := List.count_pos_iff.2 (List.mem_cons_of_mem c hdash)
      rw [heq, List.count_append] at hdashes
      omega
    | @fenced first gap _ after hfence hfeed hgap heq =>
      have hticks := hcount (.inr rfl)
      have hpos : 0 < first.count '`' := List.count_pos_iff.2 (List.mem_of_mem_head? hfence)
      rw [heq] at hticks
      simp only [List.count_append, List.count_cons] at hticks
      omega
  | some change =>
    -- The excerpt has the comment that the namespace is inserted in front of, and not the namespace.
    have hnone : renderNamespace name {} (leaves part (renderConfigInclude part)) ≠ none := by
      rw [hchange]
      exact Option.some_ne_none _
    simp only [ne_eq, renderNamespace_eq_none_iff, not_or, Bool.not_eq_true, Bool.not_eq_false,
      hasDocComment_renderConfigInclude] at hnone
    obtain ⟨-, hdeclares, hdoc⟩ := hnone
    obtain ⟨z, y, hparts, hfront⟩ := exists_parts_of_renderNamespace hchange
    have hnew : text = (z ++ ['\n']) ++ ("namespace C" ++ y) := by
      rw [← hparts, ← hfix, fixRender, hchange]
      rfl
    cases h with
    | whole => rfl
    | nothing => exact absurd hdoc (by decide)
    | cut hblank hfeed hdash heq =>
      rw [hnew] at heq
      exact absurd heq.symm (not_part_of_namespace (.inr ⟨z, rfl⟩) hfront hdoc hdeclares)
    | fenced hfence hfeed hgap heq =>
      rw [hnew] at heq
      obtain ⟨before, lines, hlines, hsplit, hrest⟩ := exists_lines_of_fenced hfeed hgap heq.symm
      have hfrontLines : hasDocComment (lines ++ "namespace C") = false := by
        rw [Bool.eq_false_iff]
        intro hcomment
        have hinfix : lines ++ ("namespace C" : Text) <:+: z ++ ['\n'] ++ ("namespace C" : Text) :=
          ⟨before, [], by rw [hsplit, List.append_nil, List.append_assoc]⟩
        rw [hasDocComment_mono hinfix hcomment] at hfront
        exact Bool.noConfusion hfront
      exact absurd hrest (not_part_of_namespace hlines hfrontLines hdoc hdeclares)

end BlockAudit
