import BlockAudit.Proofs.Excerpts
import BlockAudit.Proofs.PlainLiterals

/-!
# Outlines of sources

The fixes of the configuration and of the registration write between quotes that stay where they are.
They leave the outline of a source as it is: how many quotes it has, how many backquotes stand in front
of the first one, and how many line feeds behind the last one. An excerpt of a text has the outline of
that text only when it is the whole text, so that neither fix can make up for what a section cuts off.
-/

namespace BlockAudit

namespace Text

/-! ### The ends of a text -/

/-- Whether the first and the last character are white space, if there are any. -/
def edges (s : Text) : Option Bool × Option Bool := (s.head?.map isBlank, s.getLast?.map isBlank)

lemma edges_append (x y : Text) :
    edges (x ++ y) = ((edges x).1.or (edges y).1, (edges y).2.or (edges x).2) := by
  simp [edges, List.head?_append, List.getLast?_append, Option.map_or]

/-- A text is its own trim when neither end is white space. -/
lemma trim_eq_self_iff {s : Text} :
    trim s = s ↔ (edges s).1 ≠ some true ∧ (edges s).2 ≠ some true := by
  rcases List.eq_nil_or_concat s with rfl | ⟨init, d, hconcat⟩
  · exact iff_of_true rfl (by simp [edges])
  rw [List.concat_eq_append] at hconcat
  obtain ⟨c, t, hcons⟩ := List.exists_cons_of_ne_nil (l := s) (by simp [hconcat])
  have hfirst : (edges s).1 = some (isBlank c) := by simp [edges, hcons]
  have hlast : (edges s).2 = some (isBlank d) := by simp [edges, hconcat]
  rw [hfirst, hlast]
  constructor
  · intro h
    have hc : isBlank c = false := isBlank_of_trim_cons (s := t) (by rw [← hcons, h])
    have hd : isBlank d = false := isBlank_of_trim_concat (s := init) (by rw [← hconcat, h])
    simp [hc, hd]
  · rintro ⟨hc, hd⟩
    rw [hcons]
    exact trim_eq_self (by simpa using hc) (by simpa using hd) (by rw [← hcons, hconcat])

/-- The text begins and ends with a visible character. -/
def Framed (s : Text) : Prop :=
  ∃ c mid d, isBlank c = false ∧ isBlank d = false ∧ s = c :: (mid ++ [d])

lemma Framed.edges_eq {s : Text} (h : Framed s) : edges s = (some false, some false) := by
  obtain ⟨c, mid, d, hc, hd, rfl⟩ := h
  simp [edges, hc, hd, List.getLast?_cons]

/-- What a text begins with is kept when the text is trimmed. -/
lemma Framed.prefix_trim {w text : Text} (hw : Framed w) (h : w <+: text) : w <+: trim text := by
  obtain ⟨c, mid, d, hc, hd, rfl⟩ := hw
  obtain ⟨z, rfl⟩ := h
  have hstart : trimStart (c :: mid ++ [d] ++ z) = c :: mid ++ [d] ++ z := trimStart_cons hc _
  rw [← List.cons_append, trim, hstart]
  clear hstart
  induction z using List.reverseRecOn with
  | nil => rw [List.append_nil, trimEnd_concat hd]
  | append_singleton z e ih =>
    rw [← List.append_assoc]
    by_cases he : isBlank e = true
    · rwa [trimEnd_concat_blank he]
    · rw [trimEnd_concat (by simpa using he), List.append_assoc]
      exact List.prefix_append _ _

end Text

namespace Reader

/-- Matches that begin and end visibly are replaced without a change at the ends of the text. -/
lemma edges_replaceAll {read : Reader} {replacement : Text} (hread : Consumes read)
    (hmatch : ∀ m t, read (m ++ t) = some t → Text.Framed m) (hreplacement : Text.Framed replacement)
    (s : Text) : Text.edges (read.replaceAll replacement s) = Text.edges s := by
  refine observe_replaceAll replacement hread Text.edges (fun x m t t' hmt ht => ?_) s
  simp only [Text.edges_append, (hmatch m t hmt).edges_eq, hreplacement.edges_eq, ht]

end Reader

namespace Fix

open Reader

/-! ### Outlines -/

/-- The number of quotes, the number of backquotes in front of the first one, and the number of line feeds
behind the last one. -/
structure Outline where
  quotes : Nat := 0
  ticks : Nat := 0
  feeds : Nat := 0

namespace Outline

/-- The outline of one character. -/
def ofChar (c : Char) : Outline where
  quotes := if Php.isQuote c then 1 else 0
  ticks := if c = '`' then 1 else 0
  feeds := if c = '\n' then 1 else 0

/-- The outline of a text in two parts. -/
def append (first second : Outline) : Outline where
  quotes := first.quotes + second.quotes
  ticks := if first.quotes = 0 then first.ticks + second.ticks else first.ticks
  feeds := if second.quotes = 0 then first.feeds + second.feeds else second.feeds

lemma append_assoc (a b c : Outline) : (a.append b).append c = a.append (b.append c) := by
  simp only [append, mk.injEq]
  refine ⟨Nat.add_assoc _ _ _, ?_, ?_⟩
  · by_cases ha : a.quotes = 0
    · by_cases hb : b.quotes = 0 <;> simp [ha, hb, Nat.add_assoc]
    · simp [ha]
  · by_cases hc : c.quotes = 0
    · by_cases hb : b.quotes = 0 <;> simp [hb, hc, Nat.add_assoc]
    · simp [hc]

end Outline

/-- The outline of a text. -/
def outline : Text → Outline
  | [] => {}
  | c :: s => (Outline.ofChar c).append (outline s)

lemma outline_append (x y : Text) : outline (x ++ y) = (outline x).append (outline y) := by
  induction x with
  | nil => simp [outline, Outline.append]
  | cons c x ih => rw [List.cons_append, outline, outline, ih, Outline.append_assoc]

lemma quotes_outline (s : Text) : (outline s).quotes = s.countP Php.isQuote := by
  induction s with
  | nil => rfl
  | cons c s ih =>
    rw [outline, Outline.append, List.countP_cons, ih, Nat.add_comm]
    rfl

lemma outline_singleton (c : Char) : outline [c] = .ofChar c := by
  simp [outline, Outline.append]

/-- In a text without quotes all backquotes and line feeds count. -/
lemma outline_of_free {s : Text} (h : Free Php.isQuote s) :
    outline s = ⟨0, s.count '`', s.count '\n'⟩ := by
  induction s with
  | nil => rfl
  | cons c s ih =>
    have hc : Php.isQuote c = false := h c List.mem_cons_self
    rw [outline, ih (h.of_suffix (List.suffix_cons c s))]
    simp [Outline.append, Outline.ofChar, hc, List.count_cons, Nat.add_comm]

/-- Between two quotes only the number of quotes counts. -/
lemma outline_quoted {q q' : Char} (hq : Php.isQuote q = true) (hq' : Php.isQuote q' = true)
    (mid : Text) : outline (q :: (mid ++ [q'])) = ⟨mid.countP Php.isQuote + 2, 0, 0⟩ := by
  have hchar {q : Char} (hq : Php.isQuote q = true) : Outline.ofChar q = ⟨1, 0, 0⟩ := by
    rcases of_decide_eq_true hq with rfl | rfl <;> rfl
  rw [outline, outline_append, outline_singleton, hchar hq, hchar hq']
  simp only [Outline.append, quotes_outline]
  simp [Nat.add_left_comm]

lemma ticks_le_append (x y : Text) : (outline x).ticks ≤ (outline (x ++ y)).ticks := by
  rw [outline_append, Outline.append]
  dsimp only
  split_ifs <;> omega

lemma quotes_eq_zero_iff {s : Text} : (outline s).quotes = 0 ↔ Free Php.isQuote s := by
  simp [quotes_outline, List.countP_eq_zero, Free]

lemma outline_replaceAll {read : Reader} {replacement : Text} (hread : Consumes read)
    (hmatch : ∀ m t, read (m ++ t) = some t → outline m = outline replacement) (s : Text) :
    outline (read.replaceAll replacement s) = outline s := by
  refine observe_replaceAll replacement hread outline (fun x m t t' hmt ht => ?_) s
  simp only [outline_append, hmatch m t hmt, ht]

/-! ### The fixed sources -/

section Literals

variable {m : Text}

lemma framed_of_isEntry {arrow content : Text} (h : Php.IsEntry m arrow content) : Text.Framed m := by
  obtain ⟨q₁, q₂, q₃, q₄, ⟨hq₁, -, -, hq₄⟩, rfl⟩ := h
  refine ⟨q₁, "BLOCK_NAME" ++ q₂ :: (arrow ++ q₃ :: content), q₄, Php.isBlank_of_isQuote hq₁,
    Php.isBlank_of_isQuote hq₄, ?_⟩
  simp

lemma outline_of_isEntry {arrow content : Text} (h : Php.IsEntry m arrow content)
    (harrow : Free Php.isQuote arrow) (hcontent : Free Php.isQuote content) :
    outline m = ⟨4, 0, 0⟩ := by
  obtain ⟨q₁, q₂, q₃, q₄, ⟨hq₁, hq₂, hq₃, hq₄⟩, rfl⟩ := h
  have hparts : q₁ :: (("BLOCK_NAME" : Text) ++ q₂ :: (arrow ++ q₃ :: (content ++ [q₄]))) =
      q₁ :: (("BLOCK_NAME" ++ q₂ :: (arrow ++ q₃ :: content)) ++ [q₄]) := by simp
  have hkey : ("BLOCK_NAME" : Text).countP Php.isQuote = 0 := by decide
  have hnone {s : Text} (hs : Free Php.isQuote s) : s.countP Php.isQuote = 0 := by
    rw [← quotes_outline, quotes_eq_zero_iff.2 hs]
  rw [hparts, outline_quoted hq₁ hq₄]
  simp only [List.countP_append, List.countP_cons, hkey, hnone harrow, hnone hcontent, hq₂, hq₃,
    ↓reduceIte]

lemma framed_of_isCall {inner : Text} (h : Php.IsCall m inner) : Text.Framed m := by
  obtain ⟨q, hq, rfl⟩ := h
  exact ⟨'r', "egister_block_type(" ++ inner, q, by decide, Php.isBlank_of_isQuote hq, by simp⟩

lemma outline_of_isCall {ws content : Text} {q : Char} (h : Php.IsCall m (ws ++ q :: content))
    (hws : IsBlanks ws) (hq : Php.isQuote q = true) (hcontent : Free Php.isQuote content) :
    outline m = ⟨2, 0, 0⟩ := by
  obtain ⟨q', hq', rfl⟩ := h
  have hparts : ("register_block_type(" : Text) ++ (ws ++ q :: content ++ [q']) =
      "register_block_type(" ++ (ws ++ q :: (content ++ [q'])) := by simp
  have hnone : content.countP Php.isQuote = 0 := by rw [← quotes_outline, quotes_eq_zero_iff.2 hcontent]
  have hticks : ws.count '`' = 0 := List.count_eq_zero.2 (hws.notMem (by decide))
  have hopen : outline "register_block_type(" = {} := rfl
  rw [hparts, outline_append, outline_append, hopen, outline_of_free (Php.free_isQuote_blanks hws),
    outline_quoted hq hq', hnone, hticks]
  rfl

end Literals

section Outlines

variable (name : BlockName) (source : Text)

lemma edges_fixConfig : Text.edges (fixConfig name source) = Text.edges source := by
  rw [fixConfig_eq]
  split_ifs
  · refine edges_replaceAll Php.consumes_blockNameEntry (fun m t hm => ?_) ?_ source
    · obtain ⟨arrow, content, -, -, hentry⟩ := Php.isEntry_of_blockNameEntry hm
      exact framed_of_isEntry hentry
    · exact framed_of_isEntry (isEntry_entryWith name.identifier)
  · rfl

lemma outline_fixConfig : outline (fixConfig name source) = outline source := by
  rw [fixConfig_eq]
  split_ifs with hsafe
  · refine outline_replaceAll Php.consumes_blockNameEntry (fun m t hm => ?_) source
    obtain ⟨arrow, content, harrow, hcontent, hentry⟩ := Php.isEntry_of_blockNameEntry hm
    rw [outline_of_isEntry hentry harrow hcontent, outline_of_isEntry
      (isEntry_entryWith name.identifier) (by decide) (free_identifier hsafe)]
  · rfl

lemma edges_moveDirs : Text.edges (moveDirs source) = Text.edges source := by
  refine edges_replaceAll consumes_legacyBlocks (fun m t hm => ?_) ?_ source
  · obtain rfl : m = legacyBlocks := List.append_cancel_right (word_eq_some_iff.1 hm)
    exact ⟨'/', "blocks/cm", '-', by decide, by decide, rfl⟩
  · exact ⟨'/', "cm-blocks/cm", '-', by decide, by decide, rfl⟩

lemma outline_moveDirs : outline (moveDirs source) = outline source := by
  refine outline_replaceAll consumes_legacyBlocks (fun m t hm => ?_) source
  obtain rfl : m = legacyBlocks := List.append_cancel_right (word_eq_some_iff.1 hm)
  rfl

lemma edges_callsWith (content : Text) : Text.edges (callsWith content source) = Text.edges source := by
  refine edges_replaceAll Php.consumes_registerCall (fun m t hm => ?_) ?_ source
  · obtain ⟨inner, hcall, -⟩ := Php.isCall_of_registerCall hm
    exact framed_of_isCall hcall
  · exact framed_of_isCall (isCall_callWith content)

lemma outline_callsWith {content : Text} (h : Free Php.isQuote content) :
    outline (callsWith content source) = outline source := by
  refine outline_replaceAll Php.consumes_registerCall (fun m t hm => ?_) source
  obtain ⟨inner, hcall, ws, q, old, hws, hq, hold, rfl⟩ := Php.isCall_of_registerCall hm
  have hnew : Php.IsCall (callWith content) ([] ++ '\'' :: content) := isCall_callWith content
  rw [outline_of_isCall hcall hws hq hold, outline_of_isCall hnew (by decide) (by decide) h]

lemma edges_fixRegistration :
    Text.edges (fixRegistration name {} source) = Text.edges source := by
  rw [fixRegistration_default, edges_moveDirs]
  split_ifs
  · exact edges_callsWith source name.identifier
  · rfl

lemma outline_fixRegistration : outline (fixRegistration name {} source) = outline source := by
  rw [fixRegistration_default, outline_moveDirs]
  split_ifs with hsafe
  · exact outline_callsWith source (free_identifier hsafe)
  · rfl

end Outlines

end Fix

/-! ### Excerpts -/

open BlockAudit.Fix Reader in
/-- No excerpt but the whole text has the ends and the outline of the text. -/
theorem Section.Excerpt.eq_of_outline {text part : Text} (h : Excerpt (Text.trim text) part)
    (htrim : Text.trim part = part) (hedges : Text.edges text = Text.edges part)
    (houtline : outline text = outline part) : part = text := by
  have htext : Text.trim text = text := by
    rw [Text.trim_eq_self_iff, hedges, ← Text.trim_eq_self_iff, htrim]
  rw [htext] at h
  have hquotes := congrArg Outline.quotes houtline
  have hticks := congrArg Outline.ticks houtline
  have hfeeds := congrArg Outline.feeds houtline
  cases h with
  | whole => rfl
  | nothing =>
    have hnone : text.head?.map Text.isBlank = none := congrArg Prod.fst hedges
    rw [List.head?_eq_none_iff.1 (Option.map_eq_none_iff.1 hnone)]
  | @cut _ after c hblank hfeed hdash heq =>
    -- No quote stands in what is cut off, so that its line feed would count.
    rw [heq, outline_append, Outline.append] at hquotes hfeeds
    have hnone : (outline (c :: after)).quotes = 0 := by
      dsimp only at hquotes
      omega
    have hfree : Free Php.isQuote (c :: after) := quotes_eq_zero_iff.1 hnone
    rw [outline_of_free hfree] at hfeeds
    have hpos : 0 < (c :: after).count '\n' := List.count_pos_iff.2 hfeed
    simp only [↓reduceIte] at hfeeds
    omega
  | @fenced first gap _ after hfence hfeed hgap heq =>
    -- No quote stands in front of the excerpt, so that the backquotes of the fence would count.
    have hparts : text = (first ++ '\n' :: gap) ++ (part ++ after) := by
      rw [heq]
      simp
    have hfree : Free Php.isQuote (first ++ '\n' :: gap) := by
      rw [hparts] at hquotes
      simp only [outline_append, Outline.append] at hquotes
      rw [← quotes_eq_zero_iff, outline_append, Outline.append]
      dsimp only
      omega
    have hpos : 0 < (first ++ '\n' :: gap).count '`' :=
      List.count_pos_iff.2 (List.mem_append_left _ (List.mem_of_mem_head? hfence))
    have hle := ticks_le_append part after
    rw [hparts, outline_append, outline_of_free hfree, Outline.append] at hticks
    simp only [↓reduceIte] at hticks
    omega

end BlockAudit
