import BlockAudit.Pattern
import Mathlib.Data.List.Infix

/-!
# Readers and the text around a match

Three properties of a reader say what it makes of a text that is put together from parts. A reader
takes from the front, so it leaves a suffix (`Drops`). A character that no part of it accepts is a
barrier: what stands behind it is never looked at (`Stops`). And a reader whose last part is a mark
does not care for text without that mark behind it (`EndsAt`). Each property is closed under the
combinators, and scanning inherits it.
-/

namespace BlockAudit

namespace Reader

@[simp] lemma seq_nil (s : Text) : seq [] s = some s := rfl

@[simp] lemma seq_cons (read : Reader) (readers : List Reader) (s : Text) :
    seq (read :: readers) s = (read s).bind (seq readers) := rfl

lemma word_eq_some_iff {w s t : Text} : word w s = some t ↔ s = w ++ t := Text.after?_eq_some_iff

@[simp] lemma word_append (w s : Text) : word w (w ++ s) = some s := word_eq_some_iff.2 rfl

lemma one_eq_some_iff {p : Char → Bool} {s t : Text} :
    one p s = some t ↔ ∃ c, p c = true ∧ s = c :: t := by
  cases s with
  | nil => simp [one]
  | cons c s =>
    by_cases hc : p c = true
    · simp [one, hc]
    · simp only [one, hc]
      constructor
      · intro h
        simp at h
      · rintro ⟨d, hd, h⟩
        obtain ⟨rfl, rfl⟩ := List.cons.inj h
        exact absurd hd hc

lemma many_eq_some {p : Char → Bool} {s t : Text} (h : many p s = some t) :
    ∃ x, (∀ c ∈ x, p c = true) ∧ s = x ++ t := by
  obtain rfl := Option.some.inj h
  exact ⟨s.takeWhile p, List.all_eq_true.1 List.all_takeWhile, List.takeWhile_append_dropWhile.symm⟩

/-! ### What is left is a suffix -/

/-- What the reader leaves is an end of the text. -/
def Drops (read : Reader) : Prop := ∀ s t, read s = some t → t <:+ s

lemma drops_word (w : Text) : Drops (word w) := by
  intro s t h
  rw [word_eq_some_iff.1 h]
  exact List.suffix_append w t

lemma drops_one (p : Char → Bool) : Drops (one p) := by
  intro s t h
  obtain ⟨c, -, rfl⟩ := one_eq_some_iff.1 h
  exact List.suffix_cons c t

lemma drops_many (p : Char → Bool) : Drops (many p) := by
  intro s t h
  obtain rfl := Option.some.inj h
  exact List.dropWhile_suffix p

lemma drops_either {first second : Reader} (hf : Drops first) (hs : Drops second) :
    Drops (either first second) := by
  intro s t h
  cases hfirst : first s with
  | some r => exact hf s t (by simpa [either, hfirst] using h)
  | none => exact hs s t (by simpa [either, hfirst] using h)

lemma drops_maybe {read : Reader} (h : Drops read) : Drops (maybe read) := by
  intro s t ht
  obtain rfl := Option.some.inj ht
  cases hs : read s with
  | none => exact List.suffix_refl s
  | some t => exact h s t hs

lemma drops_seq {readers : List Reader} (h : ∀ read ∈ readers, Drops read) :
    Drops (seq readers) := by
  induction readers with
  | nil =>
    intro s t hs
    obtain rfl := Option.some.inj hs
    exact List.suffix_refl s
  | cons read readers ih =>
    intro s t hs
    rw [seq_cons, Option.bind_eq_some_iff] at hs
    obtain ⟨rest, hrest, ht⟩ := hs
    have hlast := ih (fun r hr => h r (List.mem_cons_of_mem _ hr)) rest t ht
    exact hlast.trans (h read List.mem_cons_self s rest hrest)

/-- A reader that begins with a word takes at least that word away. -/
lemma exists_of_seq_word {w s t : Text} {readers : List Reader} (hw : w ≠ [])
    (h : ∀ read ∈ readers, Drops read) (hs : seq (word w :: readers) s = some t) :
    ∃ m, m ≠ [] ∧ s = m ++ t := by
  rw [seq_cons, Option.bind_eq_some_iff] at hs
  obtain ⟨rest, hrest, ht⟩ := hs
  obtain ⟨m, rfl⟩ := drops_seq h rest t ht
  refine ⟨w ++ m, by simp [hw], ?_⟩
  rw [word_eq_some_iff.1 hrest, List.append_assoc]

/-! ### Barriers -/

/-- The reader never gets past the character `d`. -/
def Stops (read : Reader) (d : Char) : Prop :=
  ∀ x y, read (x ++ d :: y) = (read x).map (· ++ d :: y)

lemma stops_word {w : Text} {d : Char} (hd : d ∉ w) : Stops (word w) d := by
  intro x y
  induction w generalizing x with
  | nil => rfl
  | cons a w ih =>
    have had : a ≠ d := fun h => hd (by simp [h])
    have hdw : d ∉ w := fun h => hd (List.mem_cons_of_mem _ h)
    cases x with
    | nil => simp [word, Text.after?, had]
    | cons c x =>
      by_cases hac : a = c
      · simpa [word, Text.after?, hac] using ih hdw x
      · simp [word, Text.after?, hac]

lemma stops_one {p : Char → Bool} {d : Char} (hd : p d = false) : Stops (one p) d := by
  intro x y
  cases x with
  | nil => simp [one, hd]
  | cons c x => by_cases hc : p c = true <;> simp [one, hc]

lemma stops_many {p : Char → Bool} {d : Char} (hd : p d = false) : Stops (many p) d := by
  intro x y
  induction x with
  | nil => simp [many, hd]
  | cons c x ih =>
    by_cases hc : p c = true
    · simpa [many, hc] using ih
    · simp [many, hc]

lemma stops_maybe {read : Reader} {d : Char} (h : Stops read d) : Stops (maybe read) d := by
  intro x y
  rw [maybe, h]
  cases hx : read x <;> simp [maybe, hx]

lemma stops_either {first second : Reader} {d : Char} (hf : Stops first d) (hs : Stops second d) :
    Stops (either first second) d := by
  intro x y
  rw [either, hf, hs]
  cases hx : first x <;> simp [either, hx]

lemma stops_seq {readers : List Reader} {d : Char} (h : ∀ read ∈ readers, Stops read d) :
    Stops (seq readers) d := by
  induction readers with
  | nil => intro x y; rfl
  | cons read readers ih =>
    intro x y
    have hrest := ih fun r hr => h r (List.mem_cons_of_mem _ hr)
    rw [seq_cons, seq_cons, h read List.mem_cons_self]
    cases hx : read x with
    | none => rfl
    | some t => exact hrest t y

lemma occursIn_barrier {read : Reader} {d : Char} (h : Stops read d) (x y : Text) :
    occursIn read (x ++ d :: y) = (occursIn read x || occursIn read y) := by
  induction x with
  | nil =>
    have hd := h [] y
    rw [List.nil_append] at hd
    simp [occursIn, hd]
  | cons c x ih =>
    have hc := h (c :: x) y
    rw [List.cons_append] at hc
    simp [occursIn, hc, ih, Bool.or_assoc]

lemma occursAtLineStart_barrier {read : Reader} {d : Char} (h : Stops read d) (hd : d ≠ '\n')
    (atStart : Bool) (x y : Text) :
    occursAtLineStart read atStart (x ++ d :: y) =
      (occursAtLineStart read atStart x || occursAtLineStart read false y) := by
  induction x generalizing atStart with
  | nil =>
    have hread := h [] y
    have hline : (d == '\n') = false := by simpa using hd
    rw [List.nil_append] at hread
    simp [occursAtLineStart, hread, hline]
  | cons c x ih =>
    have hc := h (c :: x) y
    rw [List.cons_append] at hc
    simp [occursAtLineStart, hc, ih, Bool.or_assoc]

/-! ### Marks at the end -/

/-- The text has no character with the property `q`. -/
def Free (q : Char → Bool) (s : Text) : Prop := ∀ c ∈ s, q c = false

instance (q : Char → Bool) (s : Text) : Decidable (Free q s) :=
  List.decidableBAll (fun c => q c = false) s

lemma Free.append {q : Char → Bool} {s t : Text} (hs : Free q s) (ht : Free q t) :
    Free q (s ++ t) := by
  intro c hc
  rcases List.mem_append.1 hc with h | h
  · exact hs c h
  · exact ht c h

lemma Free.of_suffix {q : Char → Bool} {s t : Text} (ht : Free q t) (h : s <:+ t) : Free q s :=
  fun c hc => ht c (h.subset hc)

/-- The last character that the reader takes has the property `q`. -/
structure EndsAt (read : Reader) (q : Char → Bool) : Prop where
  nil : read [] = none
  append : ∀ x u, Free q u → read (x ++ u) = (read x).map (· ++ u)

lemma EndsAt.of_free {read : Reader} {q : Char → Bool} (h : EndsAt read q) {u : Text}
    (hu : Free q u) : read u = none := by
  simpa [h.nil] using h.append [] u hu

lemma endsAt_one (q : Char → Bool) : EndsAt (one q) q := by
  refine ⟨rfl, fun x u hu => ?_⟩
  cases x with
  | nil =>
    cases u with
    | nil => rfl
    | cons c u => simp [one, hu c List.mem_cons_self]
  | cons c x => by_cases hc : q c = true <;> simp [one, hc]

/-- Text without `q` behind a text either does not matter to the reader, or the reader leaves
nothing with `q` in both cases. -/
def Passes (read : Reader) (q : Char → Bool) : Prop :=
  ∀ x u, Free q u → read (x ++ u) = (read x).map (· ++ u) ∨
    (∀ t, read x = some t → Free q t) ∧ ∀ t, read (x ++ u) = some t → Free q t

lemma passes_many (p q : Char → Bool) : Passes (many p) q := by
  intro x u hu
  by_cases hx : x.dropWhile p = []
  · right
    constructor
    · intro t ht
      obtain rfl := Option.some.inj ht
      intro c hc
      simp [hx] at hc
    · intro t ht
      obtain rfl := Option.some.inj ht
      rw [List.dropWhile_append, hx]
      exact hu.of_suffix (List.dropWhile_suffix p)
  · left
    simp [many, List.dropWhile_append, hx]

/-- A word that is found only with the help of `u` leaves a part of `u`. -/
lemma word_append_cases (w x u : Text) :
    word w (x ++ u) = (word w x).map (· ++ u) ∨
      x <+: w ∧ word w x = none ∧ ∀ t, word w (x ++ u) = some t → t <:+ u := by
  induction w generalizing x with
  | nil => exact .inl rfl
  | cons a w ih =>
    cases x with
    | nil =>
      refine .inr ⟨List.nil_prefix, rfl, fun t ht => ?_⟩
      exact drops_word _ _ _ ht
    | cons c x =>
      by_cases hac : a = c
      · subst hac
        rcases ih x with h | ⟨hpre, hnone, hrest⟩
        · exact .inl (by simpa [word, Text.after?] using h)
        · refine .inr ⟨by simpa using hpre, ?_, fun t ht => hrest t ?_⟩
          · simpa [word, Text.after?] using hnone
          · simpa [word, Text.after?] using ht
      · exact .inl (by simp [word, Text.after?, hac])

/-- A word whose last character comes once in it does not overlap with itself. -/
lemma word_append_word {u : Text} {d : Char} (hd : d ∉ u) {v : Text} (hv : v ≠ []) (y : Text) :
    word (u ++ [d]) (v ++ ((u ++ [d]) ++ y)) =
      (word (u ++ [d]) v).map (· ++ ((u ++ [d]) ++ y)) := by
  rcases word_append_cases (u ++ [d]) v ((u ++ [d]) ++ y) with h | ⟨⟨r, hr⟩, hnone, -⟩
  · exact h
  rw [hnone, Option.map_none]
  cases hread : word (u ++ [d]) (v ++ ((u ++ [d]) ++ y)) with
  | none => rfl
  | some t =>
    exfalso
    have heq : (u ++ [d]) ++ y = r ++ t := by
      have h := word_eq_some_iff.1 hread
      nth_rewrite 2 [← hr] at h
      rw [List.append_assoc v r t] at h
      exact List.append_cancel_left h
    rcases List.eq_nil_or_concat r with rfl | ⟨r', e, rfl⟩
    · rw [List.append_nil] at hr
      rw [hr] at hnone
      have h : word (u ++ [d]) ((u ++ [d]) ++ []) = some [] := word_append _ _
      rw [List.append_nil, hnone] at h
      exact absurd h (by simp)
    · rw [List.concat_eq_append, ← List.append_assoc] at hr
      obtain ⟨hu, hde⟩ := List.append_inj' hr rfl
      obtain rfl : e = d := by simpa using hde
      -- The last character of `r` stands in front of the end of `u`.
      have hlen : r'.length < u.length := by
        have hpos := List.length_pos_of_ne_nil hv
        rw [← hu, List.length_append]
        omega
      have hget := congrArg (fun s : Text => s[r'.length]?) heq
      simp only [List.concat_eq_append, List.append_assoc, List.getElem?_append_left hlen] at hget
      rw [List.getElem?_append_right (Nat.le_refl _), Nat.sub_self] at hget
      exact hd (List.mem_of_getElem? hget)

lemma passes_word (w : Text) (q : Char → Bool) : Passes (word w) q := by
  intro x u hu
  rcases word_append_cases w x u with h | ⟨-, hnone, hrest⟩
  · exact .inl h
  · refine .inr ⟨fun t ht => ?_, fun t ht => hu.of_suffix (hrest t ht)⟩
    rw [hnone] at ht
    exact absurd ht (by simp)

lemma passes_one (p q : Char → Bool) : Passes (one p) q := by
  intro x u hu
  cases x with
  | nil =>
    refine .inr ⟨fun t ht => absurd ht (by simp [one]), fun t ht => ?_⟩
    exact hu.of_suffix (drops_one p u t ht)
  | cons c x => exact .inl (by by_cases hc : p c = true <;> simp [one, hc])

lemma passes_maybe_word {w : Text} {q : Char → Bool} (hw : Free q w) :
    Passes (maybe (word w)) q := by
  intro x u hu
  rcases word_append_cases w x u with h | ⟨hpre, hnone, hrest⟩
  · left
    rw [maybe, h]
    cases hx : word w x <;> simp [maybe, hx]
  · right
    have hx : Free q x := fun c hc => hw c (hpre.subset hc)
    refine ⟨fun t ht => ?_, fun t ht => ?_⟩
    · obtain rfl : x = t := by simpa [maybe, hnone] using ht
      exact hx
    · cases hxu : word w (x ++ u) with
      | none =>
        obtain rfl : x ++ u = t := by simpa [maybe, hxu] using ht
        exact hx.append hu
      | some r =>
        obtain rfl : r = t := by simpa [maybe, hxu] using ht
        exact hu.of_suffix (hrest _ hxu)

lemma passes_either_word {v w : Text} {q : Char → Bool} (hv : Free q v) (hw : Free q w) :
    Passes (either (word v) (word w)) q := by
  intro x u hu
  have hdrops := drops_either (drops_word v) (drops_word w)
  -- A text that needs `u` to become one of the words is a part of that word.
  have hfree (hx : Free q x) : (∀ t, either (word v) (word w) x = some t → Free q t) ∧
      ∀ t, either (word v) (word w) (x ++ u) = some t → Free q t :=
    ⟨fun t ht => hx.of_suffix (hdrops x t ht), fun t ht => (hx.append hu).of_suffix (hdrops _ t ht)⟩
  rcases word_append_cases v x u with h | ⟨hpre, -, -⟩
  · rcases word_append_cases w x u with h' | ⟨hpre, -, -⟩
    · left
      rw [either, h, h']
      cases hx : word v x <;> simp [either, hx]
    · exact .inr (hfree fun c hc => hw c (hpre.subset hc))
  · exact .inr (hfree fun c hc => hv c (hpre.subset hc))

lemma endsAt_seq_cons {read : Reader} {readers : List Reader} {q : Char → Bool}
    (hread : Passes read q) (hdrops : Drops read) (h : EndsAt (seq readers) q) :
    EndsAt (seq (read :: readers)) q := by
  constructor
  · rw [seq_cons]
    cases hx : read [] with
    | none => rfl
    | some t =>
      have ht : t = [] := List.suffix_nil.1 (hdrops _ _ hx)
      rw [ht]
      exact h.nil
  · intro x u hu
    rw [seq_cons, seq_cons]
    rcases hread x u hu with heq | ⟨hx, hxu⟩
    · rw [heq]
      cases read x with
      | none => rfl
      | some t => exact h.append t u hu
    · have hleft : (read x).bind (seq readers) = none := by
        cases hr : read x with
        | none => rfl
        | some t => exact h.of_free (hx t hr)
      have hright : (read (x ++ u)).bind (seq readers) = none := by
        cases hr : read (x ++ u) with
        | none => rfl
        | some t => exact h.of_free (hxu t hr)
      rw [hleft, hright]
      rfl

lemma endsAt_seq (readers : List Reader) {last : Reader} {q : Char → Bool}
    (hreaders : ∀ read ∈ readers, Passes read q ∧ Drops read) (hlast : EndsAt last q) :
    EndsAt (seq (readers ++ [last])) q := by
  induction readers with
  | nil =>
    have hseq : seq ([] ++ [last]) = last := by
      funext s
      simp only [List.nil_append, seq_cons]
      cases last s <;> rfl
    rwa [hseq]
  | cons read readers ih =>
    obtain ⟨⟨hpasses, hdrops⟩, hrest⟩ := List.forall_mem_cons.1 hreaders
    exact endsAt_seq_cons hpasses hdrops (ih hrest)

lemma endsAt_either {first second : Reader} {q : Char → Bool} (hf : EndsAt first q)
    (hs : EndsAt second q) : EndsAt (either first second) q := by
  refine ⟨by simp [either, hf.nil, hs.nil], fun x u hu => ?_⟩
  rw [either, hf.append x u hu, hs.append x u hu]
  cases hx : first x <;> simp [either, hx]

/-- Text that cannot hold the end of a match holds no match, and completes none. -/
lemma occursIn_append_free {read : Reader} {q : Char → Bool} (h : EndsAt read q) (x : Text)
    {u : Text} (hu : Free q u) : occursIn read (x ++ u) = occursIn read x := by
  induction x with
  | nil =>
    rw [List.nil_append]
    induction u with
    | nil => rfl
    | cons c u ih =>
      have hrest : Free q u := fun d hd => hu d (List.mem_cons_of_mem _ hd)
      have hnone : read (c :: u) = none := h.of_free hu
      have htail : occursIn read u = false := by rw [ih hrest, occursIn, h.nil]; rfl
      simp [occursIn, hnone, h.nil, htail]
  | cons c x ih =>
    have hc := h.append (c :: x) u hu
    rw [List.cons_append] at hc
    simp [occursIn, hc, ih]

end Reader

end BlockAudit
