import BlockAudit.Proofs.Occurrence

/-!
# Parts and lines of a text

The parts of a text between the places of a character, and how they are joined again. The lines of a
text are its parts between line feeds, each with the line feed that ends it.
-/

namespace BlockAudit

namespace Text

lemma joinWith_cons (sep part : Text) (parts : List Text) :
    joinWith sep (part :: parts) = part ++ parts.flatMap (sep ++ ·) := by
  induction parts generalizing part with
  | nil => simp [joinWith]
  | cons next parts ih =>
    have hnext := ih next
    simp only [joinWith] at hnext ⊢
    simp [hnext]

lemma joinWith_cons_cons (sep part next : Text) (parts : List Text) :
    joinWith sep (part :: next :: parts) = part ++ (sep ++ joinWith sep (next :: parts)) := by
  simp [joinWith_cons]

lemma joinWith_append (sep : Text) (before : List Text) (part : Text) (after : List Text) :
    joinWith sep (before ++ part :: after) =
      before.flatMap (· ++ sep) ++ part ++ after.flatMap (sep ++ ·) := by
  induction before with
  | nil => simp [joinWith_cons]
  | cons first before ih =>
    have hcons : joinWith sep (first :: (before ++ part :: after)) =
        first ++ (sep ++ joinWith sep (before ++ part :: after)) := by
      cases before with
      | nil => exact joinWith_cons_cons sep first part after
      | cons next before => exact joinWith_cons_cons sep first next _
    rw [List.cons_append, hcons, ih]
    simp

lemma splitWhere_ne_nil (p : Char → Bool) (s : Text) : splitWhere p s ≠ [] := by
  cases s with
  | nil => simp [splitWhere]
  | cons c s =>
    rw [splitWhere]
    split
    · simp
    · split <;> simp

lemma splitWhere_barrier {p : Char → Bool} {d : Char} (hd : p d = true) (x y : Text) :
    splitWhere p (x ++ d :: y) = splitWhere p x ++ splitWhere p y := by
  induction x with
  | nil =>
    have hsplit : splitWhere p (d :: y) = [] :: splitWhere p y := by rw [splitWhere, if_pos hd]
    exact hsplit
  | cons c x ih =>
    rw [List.cons_append, splitWhere, splitWhere, ih]
    by_cases hc : p c = true
    · rw [if_pos hc, if_pos hc, List.cons_append]
    · rw [if_neg hc, if_neg hc]
      cases hparts : splitWhere p x with
      | nil => exact absurd hparts (splitWhere_ne_nil p x)
      | cons part parts => rfl

lemma splitWhere_of_forall {p : Char → Bool} {s : Text} (h : ∀ c ∈ s, p c = false) :
    splitWhere p s = [s] := by
  induction s with
  | nil => rfl
  | cons c s ih =>
    obtain ⟨hc, hs⟩ := List.forall_mem_cons.1 h
    rw [splitWhere, ih hs, hc]
    rfl

/-- No part has a separator in it. -/
lemma of_mem_splitWhere {p : Char → Bool} {s part : Text} (h : part ∈ splitWhere p s) :
    ∀ c ∈ part, p c = false := by
  induction s generalizing part with
  | nil =>
    obtain rfl := List.mem_singleton.1 h
    exact fun c hc => absurd hc List.not_mem_nil
  | cons d s ih =>
    rw [splitWhere] at h
    split at h
    · rcases List.mem_cons.1 h with rfl | h
      · exact fun c hc => absurd hc List.not_mem_nil
      · exact ih h
    · next hd =>
      have hd : p d = false := by simpa using hd
      cases hparts : splitWhere p s with
      | nil => exact absurd hparts (splitWhere_ne_nil p s)
      | cons first rest =>
        rw [hparts] at h ih
        rcases List.mem_cons.1 h with rfl | h
        · exact List.forall_mem_cons.2 ⟨hd, ih List.mem_cons_self⟩
        · exact ih (List.mem_cons_of_mem first h)

/-- The first part is a start of the text; every other one starts behind a separator. -/
lemma splitWhere_eq_cons (p : Char → Bool) (s : Text) :
    ∃ first rest, splitWhere p s = first :: rest ∧ first <+: s ∧
      ∀ part ∈ rest, ∃ x d y, s = x ++ d :: y ∧ p d = true ∧ part <+: y := by
  induction s with
  | nil => exact ⟨[], [], rfl, List.nil_prefix, by simp⟩
  | cons c s ih =>
    obtain ⟨first, rest, hs, hfirst, hrest⟩ := ih
    have hbehind : ∀ part ∈ rest, ∃ x d y, c :: s = x ++ d :: y ∧ p d = true ∧ part <+: y := by
      intro part hpart
      obtain ⟨x, d, y, rfl, hd, hy⟩ := hrest part hpart
      exact ⟨c :: x, d, y, rfl, hd, hy⟩
    rw [splitWhere, hs]
    by_cases hc : p c = true
    · refine ⟨[], first :: rest, by rw [if_pos hc], List.nil_prefix, fun part hpart => ?_⟩
      rcases List.mem_cons.1 hpart with rfl | hpart
      · exact ⟨[], c, s, rfl, hc, hfirst⟩
      · exact hbehind part hpart
    · exact ⟨c :: first, rest, by rw [if_neg hc], (List.prefix_cons_inj c).2 hfirst, hbehind⟩

lemma infix_of_mem_splitWhere {p : Char → Bool} {s part : Text} (h : part ∈ splitWhere p s) :
    part <:+: s := by
  obtain ⟨first, rest, hs, hfirst, hrest⟩ := splitWhere_eq_cons p s
  rw [hs] at h
  rcases List.mem_cons.1 h with rfl | h
  · exact hfirst.isInfix
  · obtain ⟨x, d, y, rfl, -, hy⟩ := hrest part h
    exact hy.isInfix.trans ((List.suffix_cons d y).trans (List.suffix_append x _)).isInfix

lemma joinWith_splitOn (d : Char) (s : Text) : joinWith [d] (splitOn d s) = s := by
  unfold splitOn
  induction s with
  | nil => rfl
  | cons c s ih =>
    rw [splitWhere]
    cases hparts : splitWhere (· == d) s with
    | nil => exact absurd hparts (splitWhere_ne_nil _ s)
    | cons part parts =>
      rw [hparts] at ih
      by_cases hc : c = d
      · have hs : joinWith [d] ([] :: part :: parts) = d :: joinWith [d] (part :: parts) := by
          simp [joinWith_cons]
        simp [hc, hs, ih]
      · have hs : joinWith [d] ((c :: part) :: parts) = c :: joinWith [d] (part :: parts) := by
          simp [joinWith_cons]
        simp [hc, hs, ih]

lemma splitOn_append (d : Char) (x y : Text) :
    splitOn d (x ++ d :: y) = splitOn d x ++ splitOn d y :=
  splitWhere_barrier (by simp) x y

lemma splitOn_of_notMem {d : Char} {s : Text} (h : d ∉ s) : splitOn d s = [s] := by
  refine splitWhere_of_forall fun c hc => ?_
  rw [beq_eq_false_iff_ne]
  exact fun hcd => h (hcd ▸ hc)

lemma notMem_of_mem_splitOn {d : Char} {s part : Text} (h : part ∈ splitOn d s) : d ∉ part := by
  intro hmem
  have hd := of_mem_splitWhere h d hmem
  exact absurd hd (by simp)

/-- Parts that are joined are split again where they were joined. -/
lemma splitOn_joinWith {d : Char} {parts : List Text} (hne : parts ≠ [])
    (h : ∀ part ∈ parts, d ∉ part) : splitOn d (joinWith [d] parts) = parts := by
  induction parts with
  | nil => exact absurd rfl hne
  | cons part parts ih =>
    obtain ⟨hpart, hparts⟩ := List.forall_mem_cons.1 h
    cases parts with
    | nil =>
      have hsole : joinWith [d] [part] = part := by simp [joinWith_cons]
      rw [hsole, splitOn_of_notMem hpart]
    | cons next parts =>
      have hrest := ih (List.cons_ne_nil _ _) hparts
      rw [joinWith_cons_cons, List.singleton_append, splitOn_append, splitOn_of_notMem hpart, hrest]
      rfl

/-- A word without the character `d` occurs in a text when it occurs in a part between its `d`. -/
lemma occurs_eq_any_splitOn {w : Text} {d : Char} (hd : d ∉ w) (s : Text) :
    occurs w s = (splitOn d s).any (occurs w) := by
  have hjoin (parts : List Text) (hparts : parts ≠ []) :
      occurs w (joinWith [d] parts) = parts.any (occurs w) := by
    induction parts with
    | nil => exact absurd rfl hparts
    | cons part parts ih =>
      cases parts with
      | nil => simp [joinWith_cons]
      | cons next parts =>
        rw [joinWith_cons_cons, List.singleton_append, occurs_barrier hd, ih (by simp)]
        rfl
  have h := hjoin (splitOn d s) (splitWhere_ne_nil _ s)
  rwa [joinWith_splitOn] at h

/-! ### Lines -/

lemma fullLines_concat (s : Text) :
    fullLines (s ++ ['\n']) = (splitOn '\n' s).map (· ++ ['\n']) := by
  unfold splitOn
  induction s with
  | nil => rfl
  | cons c s ih =>
    rw [List.cons_append, fullLines, splitWhere, ih]
    cases hparts : splitWhere (· == '\n') s with
    | nil => exact absurd hparts (splitWhere_ne_nil _ s)
    | cons part parts =>
      by_cases hc : c = '\n'
      · simp [hc]
      · simp [hc]

lemma fullLines_append (x y : Text) :
    fullLines (x ++ '\n' :: y) = fullLines (x ++ ['\n']) ++ fullLines y := by
  induction x with
  | nil => simp [fullLines]
  | cons c x ih =>
    have hlines : fullLines (x ++ ['\n']) ≠ [] := by
      rw [fullLines_concat, ne_eq, List.map_eq_nil_iff]
      exact splitWhere_ne_nil _ x
    obtain ⟨line, lines, hlines⟩ := List.exists_cons_of_ne_nil hlines
    rw [hlines, List.cons_append] at ih
    rw [List.cons_append, List.cons_append, fullLines, fullLines, ih, hlines]
    by_cases hc : c = '\n'
    · simp [hc]
    · simp [hc]

end Text

end BlockAudit
