import BlockAudit.Proofs.FixedMetadata
import BlockAudit.Proofs.Php
import BlockAudit.Fix.Sources

/-!
# Names between quotes

Two fixes write the block's name between quotes: into the entry of the configuration and into the calls
that register the block. What they write is read back as one match, and no match begins before it that
did not begin before the old name. Writing the name twice is therefore writing it once, whatever name
was there before.
-/

namespace BlockAudit

namespace Reader

lemma seq_append (first second : List Reader) (s : Text) :
    seq (first ++ second) s = (seq first s).bind (seq second) := by
  induction first generalizing s with
  | nil => rfl
  | cons read first ih =>
    rw [List.cons_append, seq_cons, seq_cons, Option.bind_assoc]
    congr 1
    funext t
    exact ih t

end Reader

namespace Php

open Reader

lemma quoted_append {q q' : Char} {content : Text} (hq : isQuote q = true) (hq' : isQuote q' = true)
    (hcontent : Free isQuote content) (t : Text) : quoted (q :: (content ++ q' :: t)) = some t := by
  have hmany : many (fun c => c ≠ '\'' ∧ c ≠ '"') (content ++ q' :: t) = some (q' :: t) := by
    have hall : ∀ c ∈ content, decide (c ≠ '\'' ∧ c ≠ '"') = true := by
      intro c hc
      have h := hcontent c hc
      simp only [isQuote, decide_eq_false_iff_not, not_or] at h
      simpa using h
    have hstop : decide (q' ≠ '\'' ∧ q' ≠ '"') = false := by
      simp only [isQuote, decide_eq_true_eq] at hq'
      rcases hq' with rfl | rfl <;> decide
    unfold many
    rw [List.dropWhile_append_of_pos hall, List.dropWhile_cons, hstop]
    rfl
  have hmark {c : Char} (hc : isQuote c = true) (s : Text) : quoteMark (c :: s) = some s :=
    one_eq_some_iff.2 ⟨c, hc, rfl⟩
  unfold quoted
  simp only [seq_cons, hmark hq, Option.bind_some, hmany, hmark hq', seq_nil]

lemma exists_first_quote (x : Text) {q : Char} (hq : isQuote q = true) (y : Text) :
    ∃ content q' t, Free isQuote content ∧ isQuote q' = true ∧ x ++ q :: y = content ++ q' :: t := by
  induction x with
  | nil => exact ⟨[], q, y, by decide, hq, rfl⟩
  | cons d x ih =>
    cases hd : isQuote d with
    | true => exact ⟨[], d, x ++ q :: y, by decide, hd, rfl⟩
    | false =>
      obtain ⟨content, q', t, hcontent, hq', heq⟩ := ih
      refine ⟨d :: content, q', t, List.forall_mem_cons.2 ⟨hd, hcontent⟩, hq', ?_⟩
      rw [List.cons_append, heq, List.cons_append]

/-- In front of a quote only the first character decides whether a quoted text is read. -/
lemma isSome_quoted_append (d : Char) (x : Text) {q : Char} (hq : isQuote q = true) (y : Text) :
    (quoted (d :: (x ++ q :: y))).isSome = isQuote d := by
  cases hd : isQuote d with
  | false =>
    have hnone : quoteMark (d :: (x ++ q :: y)) = none := by
      rw [quoteMark_eq]
      simp [one, hd]
    unfold quoted
    rw [seq_cons, hnone]
    rfl
  | true =>
    obtain ⟨content, q', t, hcontent, hq', heq⟩ := exists_first_quote x hq y
    rw [heq, quoted_append hd hq' hcontent]
    rfl

/-! ### The entry of the configuration -/

lemma blockNameEntry_eq (s : Text) : blockNameEntry s =
    seq [quoteMark, word "BLOCK_NAME", quoteMark] s >>= fun s =>
      seq [blanks, word "=>", blanks] s >>= quoted := by
  have hseq : seq [quoted] = quoted := by
    funext s
    rw [seq_cons]
    cases quoted s <;> rfl
  have h := seq_append [quoteMark, word "BLOCK_NAME", quoteMark]
    ([blanks, word "=>", blanks] ++ [quoted]) s
  refine h.trans ?_
  congr 1
  funext t
  rw [seq_append, hseq]
  rfl

/-- What stands behind the key of an entry. -/
def entryValue (s : Text) : Option Text := (seq [blanks, word "=>", blanks] s).bind quoted

lemma blockNameEntry_cons (d : Char) (s : Text) : blockNameEntry (d :: s) =
    if isQuote d then ((word "BLOCK_NAME" s).bind quoteMark).bind entryValue else none := by
  have hmark (s : Text) : quoteMark (d :: s) = if isQuote d then some s else none := rfl
  rw [blockNameEntry_eq, seq_cons, hmark]
  cases isQuote d with
  | false => rfl
  | true =>
    have hkey : seq [word "BLOCK_NAME", quoteMark] s = (word "BLOCK_NAME" s).bind quoteMark := by
      rw [seq_cons]
      congr 1
      funext t
      rw [seq_cons]
      cases quoteMark t <;> rfl
    rw [if_pos rfl, if_pos rfl, Option.bind_some, hkey]
    rfl

/-- Whether a value is read in front of an entry does not depend on that entry. -/
lemma entryValue_before (v : Text) :
    ∃ found : Bool, ∀ q q' y, isQuote q = true → isQuote q' = true →
      (entryValue (v ++ q :: ("BLOCK_NAME" ++ q' :: y))).isSome = found := by
  have hstops {q : Char} (hq : isQuote q = true) : Stops (seq [blanks, word "=>", blanks]) q := by
    have hblank := stops_many (isBlank_of_isQuote hq)
    refine stops_seq ?_
    simp only [List.forall_mem_cons, List.not_mem_nil, IsEmpty.forall_iff, implies_true, and_true]
    exact ⟨hblank, stops_word_of_isQuote hq (by decide), hblank⟩
  refine ⟨((seq [blanks, word "=>", blanks] v).map fun t => t.head?.all isQuote).getD false,
    fun q q' y hq hq' => ?_⟩
  rw [entryValue, hstops hq]
  cases seq [blanks, word "=>", blanks] v with
  | none => rfl
  | some t =>
    cases t with
    | nil => exact (isSome_quoted_append q "BLOCK_NAME" hq' y).trans hq
    | cons f t => exact isSome_quoted_append f t hq ("BLOCK_NAME" ++ q' :: y)

/-- Whether an entry that begins before the key of another one is read does not depend on that
other entry. -/
lemma blockNameEntry_before {v : Text} (hv : v ≠ []) :
    ∃ found : Bool, ∀ q q' y, isQuote q = true → isQuote q' = true →
      (blockNameEntry (v ++ q :: ("BLOCK_NAME" ++ q' :: y))).isSome = found := by
  obtain ⟨d, v, rfl⟩ := List.exists_cons_of_ne_nil hv
  -- The key is looked for up to the first quote of the other entry.
  have hkey {q : Char} (hq : isQuote q = true) (y : Text) : word "BLOCK_NAME" (v ++ q :: y) =
      (word "BLOCK_NAME" v).map (· ++ q :: y) :=
    stops_word_of_isQuote hq (by decide) v y
  have hmark (e : Char) (s : Text) : quoteMark (e :: s) = if isQuote e then some s else none := rfl
  have hother (found : Bool) (h : ∀ q q' y, isQuote q = true → isQuote q' = true →
      ((((word "BLOCK_NAME" v).map (· ++ q :: ("BLOCK_NAME" ++ q' :: y))).bind quoteMark).bind
        entryValue).isSome = found) :
      ∀ q q' y, isQuote q = true → isQuote q' = true →
        (blockNameEntry (d :: v ++ q :: ("BLOCK_NAME" ++ q' :: y))).isSome =
          (isQuote d && found) := by
    intro q q' y hq hq'
    rw [List.cons_append, blockNameEntry_cons, hkey hq]
    cases isQuote d with
    | false => rfl
    | true => exact h q q' y hq hq'
  cases hword : word "BLOCK_NAME" v with
  | none =>
    rw [hword] at hother
    exact ⟨_, hother false fun q q' y _ _ => rfl⟩
  | some v' =>
    rw [hword] at hother
    cases v' with
    | nil =>
      refine ⟨_, hother false fun q q' y hq _ => ?_⟩
      simp only [Option.map_some, Option.bind_some, List.nil_append, hmark, hq, ↓reduceIte]
      rfl
    | cons e v' =>
      obtain ⟨found, hfound⟩ := entryValue_before v'
      refine ⟨_, hother (isQuote e && found) fun q q' y hq hq' => ?_⟩
      simp only [Option.map_some, Option.bind_some, List.cons_append, hmark]
      cases isQuote e with
      | false => rfl
      | true => exact hfound q q' y hq hq'

lemma blockNameEntry_eq_some {s t : Text} (h : blockNameEntry s = some t) :
    ∃ q q' y, isQuote q = true ∧ isQuote q' = true ∧ s = q :: ("BLOCK_NAME" ++ q' :: y) := by
  unfold blockNameEntry at h
  rw [seq_cons, Option.bind_eq_some_iff] at h
  obtain ⟨s₁, h₁, h⟩ := h
  rw [seq_cons, Option.bind_eq_some_iff] at h
  obtain ⟨s₂, h₂, h⟩ := h
  rw [seq_cons, Option.bind_eq_some_iff] at h
  obtain ⟨s₃, h₃, -⟩ := h
  obtain ⟨q, hq, rfl⟩ := one_eq_some_iff.1 h₁
  obtain ⟨q', hq', rfl⟩ := one_eq_some_iff.1 h₃
  exact ⟨q, q', s₃, hq, hq', by rw [word_eq_some_iff.1 h₂]⟩

/-! ### The calls that register the block -/

lemma registerCall_eq (s : Text) : registerCall s =
    (word "register_block_type(" s).bind fun s => (blanks s).bind quoted := by
  unfold registerCall
  rw [seq_cons]
  congr 1
  funext s
  rw [seq_cons]
  congr 1
  funext t
  rw [seq_cons]
  cases quoted t <;> rfl

/-- Whether a call that begins before another one is read does not depend on that other call. -/
lemma registerCall_before {v : Text} (hv : v ≠ []) :
    ∃ found : Bool, ∀ ws q y, isQuote q = true →
      (registerCall (v ++ ("register_block_type(" ++ (ws ++ q :: y)))).isSome = found := by
  have hopen (y : Text) : word "register_block_type(" (v ++ ("register_block_type(" ++ y)) =
      (word "register_block_type(" v).map (· ++ ("register_block_type(" ++ y)) :=
    word_append_word (u := "register_block_type") (d := '(') (by decide) hv y
  refine ⟨((word "register_block_type(" v).map fun v =>
    (v.dropWhile Text.isBlank).head?.any isQuote).getD false, fun ws q y hq => ?_⟩
  rw [registerCall_eq, hopen]
  cases word "register_block_type(" v with
  | none => rfl
  | some v =>
    have hblanks : blanks (v ++ ("register_block_type(" ++ (ws ++ q :: y))) =
        some (v.dropWhile Text.isBlank ++ ("register_block_type(" ++ (ws ++ q :: y))) := by
      unfold blanks many
      rw [List.dropWhile_append]
      cases v.dropWhile Text.isBlank with
      | nil => rfl
      | cons d v => rfl
    simp only [Option.map_some, Option.bind_some, hblanks, Option.getD_some]
    cases v.dropWhile Text.isBlank with
    | nil => rfl
    | cons d v =>
      have hcall : d :: v ++ ("register_block_type(" ++ (ws ++ q :: y)) =
          d :: ((v ++ ("register_block_type(" ++ ws)) ++ q :: y) := by
        simp only [List.append_assoc, List.cons_append]
      rw [hcall]
      exact isSome_quoted_append d _ hq y

lemma registerCall_eq_some {s t : Text} (h : registerCall s = some t) :
    ∃ ws q y, IsBlanks ws ∧ isQuote q = true ∧
      s = "register_block_type(" ++ (ws ++ q :: y) := by
  rw [registerCall_eq, Option.bind_eq_some_iff] at h
  obtain ⟨s₁, h₁, h⟩ := h
  obtain ⟨s₂, h₂, hquoted⟩ := Option.bind_eq_some_iff.1 h
  obtain ⟨ws, hws, rfl⟩ := blanks_eq_some h₂
  unfold quoted at hquoted
  rw [seq_cons, Option.bind_eq_some_iff] at hquoted
  obtain ⟨s₃, h₃, -⟩ := hquoted
  obtain ⟨q, hq, rfl⟩ := one_eq_some_iff.1 h₃
  exact ⟨ws, q, s₃, hws, hq, word_eq_some_iff.1 h₁⟩

end Php

namespace Fix

open Reader

variable {name : BlockName} {c : Conventions} {source : Text}

/-- The entry of the configuration with the given content. -/
def entryWith (content : Text) : Text := "'BLOCK_NAME' => '" ++ content ++ ['\'']

/-- The call that registers a block, up to the end of the given content. -/
def callWith (content : Text) : Text := "register_block_type('" ++ content ++ ['\'']

lemma free_identifier (h : name.isLiteralSafe = true) : Free Php.isQuote name.identifier := by
  intro d hd
  unfold BlockName.isLiteralSafe at h
  simp only [Bool.and_eq_true, List.all_eq_true, decide_eq_true_eq] at h
  obtain ⟨hsingle, hdouble, -⟩ := h.2 d hd
  simp [Php.isQuote, hsingle, hdouble]

lemma entryWith_append (content t : Text) : entryWith content ++ t =
    '\'' :: ("BLOCK_NAME" ++ '\'' :: (" => " ++ '\'' :: (content ++ '\'' :: t))) := by
  have hwords : ("'BLOCK_NAME' => '" : Text) =
      '\'' :: ("BLOCK_NAME" ++ '\'' :: (" => " ++ ['\''])) := by decide
  unfold entryWith
  rw [hwords]
  simp only [List.append_assoc, List.cons_append, List.nil_append]

lemma callWith_append (content t : Text) : callWith content ++ t =
    ("register_block_type(" : Text) ++ ([] ++ '\'' :: (content ++ '\'' :: t)) := by
  have hwords : ("register_block_type('" : Text) = "register_block_type(" ++ ['\''] := by
    decide +kernel
  unfold callWith
  rw [hwords]
  simp only [List.append_assoc, List.cons_append, List.nil_append]

lemma blockNameEntry_entryWith {content : Text} (h : Free Php.isQuote content) (t : Text) :
    Php.blockNameEntry (entryWith content ++ t) = some t := by
  have hquote : Php.isQuote '\'' = true := by decide
  rw [entryWith_append, Php.blockNameEntry_eq]
  exact Php.quoted_append hquote hquote h t

lemma registerCall_callWith {content : Text} (h : Free Php.isQuote content) (t : Text) :
    Php.registerCall (callWith content ++ t) = some t := by
  have hquote : Php.isQuote '\'' = true := by decide
  rw [callWith_append, Php.registerCall_eq, word_append]
  exact Php.quoted_append hquote hquote h t

/-- An entry that is written is the match there, and no other match begins in front of it. -/
lemma scan_entryWith {content : Text} (h : Free Php.isQuote content) (s : Text) :
    Php.blockNameEntry.matched.scan none (Php.blockNameEntry.replaceAll (entryWith content) s) =
      (Php.blockNameEntry.matched.scan none s).map (Piece.put (entryWith content)) := by
  have hne : entryWith content ≠ [] :=
    List.append_ne_nil_of_right_ne_nil _ (List.cons_ne_nil _ _)
  refine scan_replaceAll Php.consumes_blockNameEntry hne ?_ (blockNameEntry_entryWith h) s
  intro v m t t' hm hv hbefore
  obtain ⟨found, hfound⟩ := Php.blockNameEntry_before hv
  obtain ⟨q, q', y, hq, hq', heq⟩ := Php.blockNameEntry_eq_some hm
  rw [heq] at hbefore
  rw [entryWith_append, ← Option.isNone_iff_eq_none, ← Option.not_isSome,
    hfound _ _ _ (by decide) (by decide), ← hfound q q' y hq hq', hbefore]
  rfl

/-- A call that is written is the match there, and no other match begins in front of it. -/
lemma scan_callWith {content : Text} (h : Free Php.isQuote content) (s : Text) :
    Php.registerCall.matched.scan none (Php.registerCall.replaceAll (callWith content) s) =
      (Php.registerCall.matched.scan none s).map (Piece.put (callWith content)) := by
  have hne : callWith content ≠ [] :=
    List.append_ne_nil_of_right_ne_nil _ (List.cons_ne_nil _ _)
  refine scan_replaceAll Php.consumes_registerCall hne ?_ (registerCall_callWith h) s
  intro v m t t' hm hv hbefore
  obtain ⟨found, hfound⟩ := Php.registerCall_before hv
  obtain ⟨ws, q, y, -, hq, heq⟩ := Php.registerCall_eq_some hm
  rw [heq] at hbefore
  rw [callWith_append, ← Option.isNone_iff_eq_none, ← Option.not_isSome, hfound _ _ _ (by decide),
    ← hfound ws q y hq, hbefore]
  rfl

lemma replaceAll_entryWith {old : Text} (hold : Free Php.isQuote old) (new s : Text) :
    Php.blockNameEntry.replaceAll (entryWith new) (Php.blockNameEntry.replaceAll (entryWith old) s) =
      Php.blockNameEntry.replaceAll (entryWith new) s :=
  Pattern.replaceAll_of_scan_put (scan_entryWith hold s) (entryWith new)

lemma replaceAll_callWith {old : Text} (hold : Free Php.isQuote old) (new s : Text) :
    Php.registerCall.replaceAll (callWith new) (Php.registerCall.replaceAll (callWith old) s) =
      Php.registerCall.replaceAll (callWith new) s :=
  Pattern.replaceAll_of_scan_put (scan_callWith hold s) (callWith new)

/-! ### The fixed sources -/

/-- The configuration after its fix. -/
def fixConfig (name : BlockName) (source : Text) : Text := leaves source (configBlockName name source)

/-- The registration after its fix. -/
def fixRegistration (name : BlockName) (c : Conventions) (source : Text) : Text :=
  registeredDirs c (registeredName name source)

lemma fixConfig_eq (name : BlockName) (source : Text) :
    fixConfig name source =
      if name.isLiteralSafe then Php.blockNameEntry.replaceAll (entryWith name.identifier) source
      else source := by
  unfold fixConfig configBlockName
  split
  · unfold ifChanged
    split
    · next h => exact h.symm
    · rfl
  · rfl

lemma configBlockName_fixConfig (name : BlockName) (source : Text) :
    configBlockName name (fixConfig name source) = none := by
  rw [fixConfig_eq]
  unfold configBlockName
  cases hsafe : name.isLiteralSafe with
  | false => rfl
  | true =>
    have hagain := replaceAll_entryWith (free_identifier hsafe) name.identifier source
    simp only [↓reduceIte]
    exact if_pos hagain

lemma leaves_registration (source : Text) :
    leaves source (registration name c source) = fixRegistration name c source := by
  unfold registration ifChanged
  split
  · next h => exact h.symm
  · rfl

lemma registration_eq_none_iff {source : Text} :
    registration name c source = none ↔ fixRegistration name c source = source := by
  unfold registration ifChanged fixRegistration
  split
  · next h => exact iff_of_true rfl h
  · next h => exact iff_of_false (by simp) h

end Fix

end BlockAudit
