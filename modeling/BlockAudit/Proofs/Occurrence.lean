import BlockAudit.Proofs.Reader

/-!
# Words in a text

Where and how often a word occurs in a text that is put together from parts, and where a text is cut
at the first place of a word.
-/

namespace BlockAudit

namespace Text

lemma occurs_eq_occursIn (w s : Text) : occurs w s = (Reader.word w).occursIn s := by
  induction s with
  | nil => cases w <;> rfl
  | cons c s ih =>
    rw [occurs, Reader.occursIn, ih]
    rfl

/-- A character that a word does not have splits the search for the word. -/
lemma occurs_barrier {w : Text} {d : Char} (hd : d ∉ w) (x y : Text) :
    occurs w (x ++ d :: y) = (occurs w x || occurs w y) := by
  simp only [occurs_eq_occursIn]
  exact Reader.occursIn_barrier (Reader.stops_word hd) x y

/-- A character that a word does not have ends the place where the word could stand. -/
lemma prefix_of_notMem {w x y : Text} {d : Char} (hd : d ∉ w) (h : w <+: x ++ d :: y) : w <+: x := by
  obtain ⟨z, hz⟩ := h
  rcases List.append_eq_append_iff.1 hz with ⟨r, rfl, -⟩ | ⟨r, rfl, hr⟩
  · exact List.prefix_append w r
  · cases r with
    | nil => rw [List.append_nil]
    | cons e r =>
      obtain rfl : d = e := (List.cons.inj hr).1
      exact absurd (by simp) hd

lemma occurs_eq_false {w s : Text} {d : Char} (hw : d ∈ w) (hs : d ∉ s) : occurs w s = false := by
  rw [Bool.eq_false_iff]
  intro h
  exact hs ((occurs_iff.1 h).subset hw)

lemma occurs_append_left {w x : Text} (y : Text) (h : occurs w x = true) :
    occurs w (x ++ y) = true :=
  occurs_iff.2 ((occurs_iff.1 h).trans (List.prefix_append x y).isInfix)

lemma occurs_append_right {w y : Text} (x : Text) (h : occurs w y = true) :
    occurs w (x ++ y) = true :=
  occurs_iff.2 ((occurs_iff.1 h).trans (List.suffix_append x y).isInfix)

lemma occurs_self_append (w s : Text) : occurs w (w ++ s) = true :=
  occurs_iff.2 (List.prefix_append w s).isInfix

lemma occurs_trans {v w s : Text} (hw : occurs v w = true) (hs : occurs w s = true) :
    occurs v s = true :=
  occurs_iff.2 ((occurs_iff.1 hw).trans (occurs_iff.1 hs))

/-! ### Words that end with a character of their own -/

lemma startsWith_append_last {u : Text} {d : Char} (hd : d ∉ u) (x z : Text) :
    startsWith (u ++ [d]) (x ++ d :: z) = true ↔ startsWith (u ++ [d]) x = true ∨ u = x := by
  induction u generalizing x with
  | nil =>
    cases x with
    | nil => simp [startsWith, after?]
    | cons c x => simp [startsWith, after?, apply_ite Option.isSome]
  | cons a u ih =>
    have had : a ≠ d := fun h => hd (by simp [h])
    have hdu : d ∉ u := fun h => hd (List.mem_cons_of_mem _ h)
    cases x with
    | nil => simp [startsWith, after?, had]
    | cons c x =>
      by_cases hac : a = c
      · simpa [startsWith, after?, hac] using ih hdu x
      · simp [startsWith, after?, hac]

/-- The last character of a word splits the search for the word behind it. -/
lemma occurs_append_last {u : Text} {d : Char} (hd : d ∉ u) (y z : Text) :
    occurs (u ++ [d]) (y ++ d :: z) = true ↔
      occurs (u ++ [d]) y = true ∨ u <:+ y ∨ occurs (u ++ [d]) z = true := by
  induction y with
  | nil =>
    have h := startsWith_append_last hd [] z
    have hnil : startsWith (u ++ [d]) [] = false := by cases u <;> rfl
    have hempty : occurs (u ++ [d]) [] = false := by cases u <;> rfl
    rw [List.nil_append] at h
    have hcons : occurs (u ++ [d]) (d :: z) = (startsWith (u ++ [d]) (d :: z) ||
        occurs (u ++ [d]) z) := rfl
    rw [List.nil_append, hcons, Bool.or_eq_true, h, hnil, hempty, List.suffix_nil]
    simp
  | cons c y ih =>
    have h := startsWith_append_last hd (c :: y) z
    rw [List.cons_append] at h
    rw [List.cons_append, occurs, Bool.or_eq_true, h, ih, occurs, Bool.or_eq_true,
      List.suffix_cons_iff]
    tauto

/-- Text without the last character of a word does not complete the word. -/
lemma occurs_append_of_notMem {u : Text} {d : Char} (x : Text) {z : Text} (hz : d ∉ z) :
    occurs (u ++ [d]) (x ++ z) = occurs (u ++ [d]) x := by
  rw [Bool.eq_iff_iff]
  constructor
  · intro h
    obtain ⟨before, after, heq⟩ := occurs_iff.1 h
    rcases List.append_eq_append_iff.1 heq with ⟨r, hx, -⟩ | ⟨r, hr, hafter⟩
    · exact occurs_iff.2 ⟨before, r, hx.symm⟩
    · rcases List.eq_nil_or_concat r with rfl | ⟨r', e, rfl⟩
      · rw [List.append_nil] at hr
        exact occurs_iff.2 ⟨before, [], by rw [List.append_nil, hr]⟩
      · rw [List.concat_eq_append, ← List.append_assoc, ← List.append_assoc] at hr
        obtain ⟨-, hlast⟩ := List.append_inj' hr rfl
        refine absurd ?_ hz
        rw [hafter, List.concat_eq_append, ← hlast]
        simp
  · exact occurs_append_left z

/-! ### How often a word stands in a text -/

/-- The number of places at which a word stands. -/
def occurrences (w : Text) : Text → Nat
  | [] => if w.isEmpty then 1 else 0
  | c :: s => (if startsWith w (c :: s) then 1 else 0) + occurrences w s

/-- A character that a word does not have splits the counting of the word. -/
lemma occurrences_barrier {w : Text} {d : Char} (hw : w ≠ []) (hd : d ∉ w) (x y : Text) :
    occurrences w (x ++ d :: y) = occurrences w x + occurrences w y := by
  have hstop (x : Text) : startsWith w (x ++ d :: y) = startsWith w x := by
    have h : after? w (x ++ d :: y) = (after? w x).map (· ++ d :: y) := Reader.stops_word hd x y
    rw [startsWith, h, Option.isSome_map, startsWith]
  induction x with
  | nil =>
    have hnone : startsWith w [] = false := by cases w <;> simp_all [startsWith, after?]
    have hd : startsWith w (d :: y) = false := (hstop []).trans hnone
    simp [occurrences, hd, hw]
  | cons c x ih =>
    have hc : startsWith w (c :: (x ++ d :: y)) = startsWith w (c :: x) := hstop (c :: x)
    simp only [List.cons_append, occurrences, ih, hc]
    omega

/-- A word can be counted up to a place of its first character and from there on, if that character
does not come again in the word. -/
lemma occurrences_append_head {v : Text} {d : Char} (hd : d ∉ v) (x y : Text) :
    occurrences (d :: v) (x ++ d :: y) = occurrences (d :: v) x + occurrences (d :: v) (d :: y) := by
  induction x with
  | nil => simp [occurrences]
  | cons c x ih =>
    have hstart : startsWith (d :: v) (c :: (x ++ d :: y)) = startsWith (d :: v) (c :: x) := by
      have h : after? v (x ++ d :: y) = (after? v x).map (· ++ d :: y) := Reader.stops_word hd x y
      by_cases hdc : d = c
      · simp only [startsWith, after?, if_pos hdc, h, Option.isSome_map]
      · simp [startsWith, after?, hdc]
    rw [List.cons_append, occurrences, ih, hstart]
    simp only [occurrences]
    omega

/-- Text without the first character of a word adds no place of the word. -/
lemma occurrences_append_of_notMem {v x : Text} {d : Char} (hx : d ∉ x) (y : Text) :
    occurrences (d :: v) (x ++ y) = occurrences (d :: v) y := by
  induction x with
  | nil => rfl
  | cons c x ih =>
    have hdc : ¬ d = c := fun h => hx (h ▸ List.mem_cons_self)
    have hrest : d ∉ x := fun h => hx (List.mem_cons_of_mem _ h)
    simp [occurrences, startsWith, after?, hdc, ih hrest]

/-! ### Cutting at the first place of a word -/

lemma isSome_cut? {w : Text} (s : Text) : (cut? w s).isSome = occurs w s := by
  induction s with
  | nil => cases w <;> rfl
  | cons c s ih =>
    rw [cut?, occurs, startsWith]
    cases after? w (c :: s) with
    | some rest => rfl
    | none => simp [ih]

/-- A barrier decides on which side of it the text is cut. -/
lemma cut?_barrier {w : Text} {d : Char} (hw : w ≠ []) (hd : d ∉ w) (x y : Text) :
    cut? w (x ++ d :: y) = match cut? w x with
      | some (before, rest) => some (before, rest ++ d :: y)
      | none => (cut? w y).map fun (before, rest) => (x ++ d :: before, rest) := by
  have hstop := Reader.stops_word hd
  induction x with
  | nil =>
    have hnone : after? w (d :: y) = none := by
      have h : after? w (d :: y) = (after? w []).map (· ++ d :: y) := hstop [] y
      cases w with
      | nil => exact absurd rfl hw
      | cons a w => simpa [after?] using h
    have hempty : w.isEmpty = false := by simpa using hw
    simp [cut?, hnone, hempty]
  | cons c x ih =>
    have h : after? w (c :: (x ++ d :: y)) = (after? w (c :: x)).map (· ++ d :: y) :=
      hstop (c :: x) y
    rw [List.cons_append, cut?, cut?, h]
    cases after? w (c :: x) with
    | some rest => rfl
    | none =>
      rw [Option.map_none, ih]
      cases cut? w x with
      | some pair => rfl
      | none => simp [Function.comp_def]

/-- The word stands between the two texts, and nowhere before that. -/
structure FirstAt (w s before after : Text) : Prop where
  eq : s = before ++ (w ++ after)
  le : ∀ x y, s = x ++ (w ++ y) → before.length ≤ x.length

lemma FirstAt.of_cut? {w s before after : Text} (h : cut? w s = some (before, after)) :
    FirstAt w s before after := by
  constructor
  · rw [eq_append_of_cut? h, List.append_assoc]
  · induction s generalizing before with
    | nil =>
      intro x y hxy
      have hwhole := congrArg List.length (eq_append_of_cut? h)
      simp only [List.length_append, List.length_nil] at hwhole
      omega
    | cons c s ih =>
      intro x y hxy
      rw [cut?] at h
      cases hhere : after? w (c :: s) with
      | some rest =>
        rw [hhere] at h
        obtain ⟨rfl, -⟩ := by simpa using h
        exact Nat.zero_le _
      | none =>
        rw [hhere] at h
        obtain ⟨⟨before', rest⟩, hcut, heq⟩ := Option.map_eq_some_iff.1 h
        obtain ⟨rfl, rfl⟩ := by simpa using heq
        cases x with
        | nil =>
          have hword : after? w (c :: s) = some y := after?_eq_some_iff.2 hxy
          rw [hhere] at hword
          exact absurd hword (by simp)
        | cons d x =>
          have hrest := ih hcut x y (List.cons.inj hxy).2
          simpa using hrest

/-- A text is cut at the first place of the word. -/
lemma cut?_eq_some_iff {w s before after : Text} :
    cut? w s = some (before, after) ↔ FirstAt w s before after := by
  refine ⟨FirstAt.of_cut?, fun h => ?_⟩
  have hoccurs : occurs w s = true := by
    rw [h.eq]
    exact occurs_append_right before (occurs_self_append w after)
  rw [← isSome_cut?, Option.isSome_iff_exists] at hoccurs
  obtain ⟨⟨before', after'⟩, hcut⟩ := hoccurs
  have hfirst := FirstAt.of_cut? hcut
  have hlength := Nat.le_antisymm (hfirst.le before after h.eq) (h.le before' after' hfirst.eq)
  obtain ⟨rfl, hrest⟩ := List.append_inj (hfirst.eq.symm.trans h.eq) hlength
  rw [hcut, List.append_cancel_left hrest]

/-- A word that ends with a character of its own cannot begin in front of its place and end inside. -/
lemma cut?_append_last {u : Text} {d : Char} (hd : d ∉ u) {x : Text}
    (hx : occurs (u ++ [d]) x = false) (y : Text) :
    cut? (u ++ [d]) (x ++ (u ++ d :: y)) = some (x, y) := by
  rw [cut?_eq_some_iff]
  refine ⟨by simp, fun before after heq => ?_⟩
  by_contra hlt
  have hearly : before ++ (u ++ [d]) <+: x ++ u := by
    refine List.prefix_of_prefix_length_le ⟨after, ?_⟩ ⟨d :: y, List.append_assoc ..⟩ ?_
    · rw [heq, List.append_assoc]
    · simp only [List.length_append, List.length_singleton]
      omega
  have hoccurs : occurs (u ++ [d]) (x ++ u) = true :=
    occurs_iff.2 ((List.suffix_append before _).isInfix.trans hearly.isInfix)
  rw [occurs_append_of_notMem x hd, hx] at hoccurs
  exact Bool.noConfusion hoccurs

/-- A text is cut at the first place of a character. -/
lemma cut?_singleton {d : Char} {x : Text} (hx : d ∉ x) (y : Text) :
    cut? [d] (x ++ d :: y) = some (x, y) :=
  cut?_append_last (u := []) List.not_mem_nil (occurs_eq_false List.mem_cons_self hx) y

lemma FirstAt.occurs_eq_false {w s before after : Text} (h : FirstAt w s before after) (hw : w ≠ []) :
    occurs w before = false := by
  rw [Bool.eq_false_iff]
  intro hbefore
  obtain ⟨x, y, hxy⟩ := occurs_iff.1 hbefore
  have hle : before.length ≤ x.length := by
    apply h.le x (y ++ (w ++ after))
    rw [h.eq, ← hxy]
    simp only [List.append_assoc]
  have hpos := List.length_pos_of_ne_nil hw
  rw [← hxy, List.length_append, List.length_append] at hle
  omega

/-- Where a word comes first does not depend on what follows it. -/
lemma FirstAt.congr {w s before after : Text} (h : FirstAt w s before after) (after' : Text) :
    FirstAt w (before ++ (w ++ after')) before after' := by
  refine ⟨rfl, fun x y hxy => ?_⟩
  by_contra hlt
  -- The word would begin earlier, and then it would begin there in front of the old text, too.
  have hx : x <+: before := by
    refine List.prefix_of_prefix_length_le ⟨_, hxy.symm⟩ (List.prefix_append before _) ?_
    omega
  obtain ⟨u, rfl⟩ := hx
  rw [List.append_assoc] at hxy
  have hword : w <+: u ++ w := by
    refine List.prefix_of_prefix_length_le ⟨y, (List.append_cancel_left hxy).symm⟩ ⟨after', ?_⟩ ?_
    · rw [List.append_assoc]
    · rw [List.length_append]
      omega
  obtain ⟨v, hv⟩ := hword
  refine hlt (h.le x (v ++ after) ?_)
  rw [h.eq, ← List.append_assoc w, hv]
  simp

/-- What is behind some place of a word is behind its first place. -/
lemma cut?_append (w x y : Text) :
    ∃ before rest, cut? w (x ++ (w ++ y)) = some (before, rest) ∧ y <:+ rest := by
  have hoccurs : (cut? w (x ++ (w ++ y))).isSome = true := by
    rw [isSome_cut?]
    exact occurs_append_right x (occurs_self_append w y)
  obtain ⟨⟨before, rest⟩, hcut⟩ := Option.isSome_iff_exists.1 hoccurs
  have hfirst := FirstAt.of_cut? hcut
  have hle := hfirst.le x y rfl
  have hlength := congrArg List.length hfirst.eq
  simp only [List.length_append] at hlength
  have hy : y <:+ before ++ (w ++ rest) := by
    rw [← hfirst.eq, ← List.append_assoc]
    exact List.suffix_append _ y
  have hrest : rest <:+ before ++ (w ++ rest) := by
    rw [← List.append_assoc]
    exact List.suffix_append _ rest
  exact ⟨before, rest, hcut, List.suffix_of_suffix_length_le hy hrest (by omega)⟩

end Text

end BlockAudit
