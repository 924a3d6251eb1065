import BlockAudit.Proofs.Reader

/-!
# Replacing matches

`replaceAll` copies a text up to its first match, puts the replacement in the place of the match, and
goes on behind it. The induction principle `replaceAll_induction` says just that. Two laws follow from
it: an observation that cannot tell a match from its replacement sees no difference in the whole text
(`observe_replaceAll`), and a replacement that neither completes a match that begins before it nor has one
begin in it leaves none behind (`misses_replaceAll`). A replacement that is a match itself is all that a
scan finds then, with the same texts around it (`scan_replaceAll`).
-/

namespace BlockAudit

namespace Piece

variable {α : Type}

/-- The piece with the given value in the place of a match. -/
def put (new : α) : Piece α → Piece α
  | gap c => gap c
  | hit _ => hit new

/-- The text of a piece. -/
def text : Piece Text → Text
  | gap c => [c]
  | hit m => m

/-- The texts before, between and after the matches among the pieces. -/
def gaps : List (Piece α) → List Text
  | [] => [[]]
  | hit _ :: pieces => [] :: gaps pieces
  | gap c :: pieces =>
    match gaps pieces with
    | [] => [[c]]
    | text :: texts => (c :: text) :: texts

lemma gaps_map_put (new : α) (pieces : List (Piece α)) : gaps (pieces.map (put new)) = gaps pieces := by
  induction pieces with
  | nil => rfl
  | cons piece pieces ih =>
    cases piece with
    | gap c => rw [List.map_cons, put, gaps, gaps, ih]
    | hit value => rw [List.map_cons, put, gaps, gaps, ih]

end Piece

namespace Pattern

variable {α : Type} {p : Pattern α} {new : α} {s s' : Text}

/-- The texts before, between and after the matches of a pattern in a text. -/
def gaps (p : Pattern α) (s : Text) : List Text := Piece.gaps (p.scan none s)

lemma gaps_of_scan_put (h : p.scan none s' = (p.scan none s).map (Piece.put new)) :
    p.gaps s' = p.gaps s := by
  rw [gaps, h, Piece.gaps_map_put, gaps]

lemma hits_of_scan_put (h : p.scan none s' = (p.scan none s).map (Piece.put new)) :
    p.hits s' = List.replicate (p.hits s).length new := by
  rw [hits, h, hits]
  induction p.scan none s with
  | nil => rfl
  | cons piece pieces ih =>
    cases piece with
    | gap c => simpa only [List.map_cons, Piece.put, List.filterMap_cons] using ih
    | hit value =>
      simpa only [List.map_cons, Piece.put, List.filterMap_cons, List.length_cons,
        List.replicate_succ, List.cons.injEq, true_and] using ih

lemma replaceAll_of_scan_put (h : p.scan none s' = (p.scan none s).map (Piece.put new))
    (replacement : Text) : p.replaceAll replacement s' = p.replaceAll replacement s := by
  rw [replaceAll, h, replaceAll, List.flatMap_map]
  congr 1
  funext piece
  cases piece <;> rfl

end Pattern

namespace Reader

/-- Whatever the reader reads, it takes something and leaves the rest. -/
def Consumes (read : Reader) : Prop := ∀ s t, read s = some t → ∃ m, m ≠ [] ∧ s = m ++ t

lemma consumes_word {w : Text} (hw : w ≠ []) : Consumes (word w) := by
  intro s t h
  exact ⟨w, hw, word_eq_some_iff.1 h⟩

/-- No match begins in `x` when `rest` follows it. -/
def Misses (read : Reader) (x rest : Text) : Prop :=
  ∀ w, w ≠ [] → w <:+ x → read (w ++ rest) = none

lemma Misses.tail {read : Reader} {c : Char} {x rest : Text} (h : Misses read (c :: x) rest) :
    Misses read x rest := fun w hw hx => h w hw (hx.trans (List.suffix_cons c x))

lemma Misses.of_suffix {read : Reader} {x x' rest : Text} (h : Misses read x rest) (hx : x' <:+ x) :
    Misses read x' rest := fun w hw hwx => h w hw (hwx.trans hx)

/-- A reader that begins with the character `d` misses a text without it. -/
lemma misses_of_notMem {read : Reader} {d : Char} (hread : ∀ e s, e ≠ d → read (e :: s) = none)
    {x : Text} (hx : d ∉ x) (rest : Text) : Misses read x rest := by
  intro w hw hwx
  obtain ⟨e, w, rfl⟩ := List.exists_cons_of_ne_nil hw
  apply hread
  rintro rfl
  exact hx (hwx.subset List.mem_cons_self)

lemma Misses.append {read : Reader} {x y rest : Text} (hx : Misses read x (y ++ rest))
    (hy : Misses read y rest) : Misses read (x ++ y) rest := by
  intro w hw hwxy
  obtain ⟨p, hp⟩ := hwxy
  rcases List.append_eq_append_iff.1 hp with ⟨v, rfl, rfl⟩ | ⟨v, -, rfl⟩
  · by_cases hv : v = []
    · rw [hv, List.nil_append] at hw ⊢
      exact hy y hw (List.suffix_refl y)
    · rw [List.append_assoc]
      exact hx v hv (List.suffix_append p v)
  · exact hy w hw (List.suffix_append v w)

/-- The text with every match of the reader replaced. -/
abbrev replaceAll (read : Reader) (replacement s : Text) : Text :=
  read.matched.replaceAll replacement s

variable {read : Reader} {replacement : Text}

lemma scan_matched (before before' : Option Char) (s : Text) :
    read.matched.scan before s = read.matched.scan before' s := by
  cases s with
  | nil => rw [Pattern.scan, Pattern.scan]
  | cons c s =>
    rw [Pattern.scan, Pattern.scan]
    rfl

@[simp] lemma replaceAll_nil : read.replaceAll replacement [] = [] := by
  simp [Pattern.replaceAll, Pattern.scan]

@[simp] lemma hits_nil : read.matched.hits [] = [] := by
  simp [Pattern.hits, Pattern.scan]

lemma scan_cons {c : Char} {s : Text} (h : read (c :: s) = none) :
    read.matched.scan none (c :: s) = .gap c :: read.matched.scan none s := by
  rw [Pattern.scan, scan_matched none (some c)]
  simp [matched, h]

lemma scan_match {m t : Text} (hm : m ≠ []) (h : read (m ++ t) = some t) :
    read.matched.scan none (m ++ t) = .hit m :: read.matched.scan none t := by
  cases m with
  | nil => exact absurd rfl hm
  | cons c m =>
    have hlen : t.length ≤ (m ++ t).length := by simp
    have hvalue : ((c :: m) ++ t).take (((c :: m) ++ t).length - t.length) = c :: m := by
      rw [List.length_append, Nat.add_sub_cancel, List.take_left]
    rw [List.cons_append, Pattern.scan]
    rw [List.cons_append] at h hvalue
    simp only [matched, h, Option.map_some, hlen, ↓reduceIte, hvalue]
    rw [← scan_matched none]

lemma replaceAll_cons {c : Char} {s : Text} (h : read (c :: s) = none) :
    read.replaceAll replacement (c :: s) = c :: read.replaceAll replacement s := by
  simp only [replaceAll, Pattern.replaceAll, scan_cons h]
  rfl

lemma replaceAll_match {m t : Text} (hm : m ≠ []) (h : read (m ++ t) = some t) :
    read.replaceAll replacement (m ++ t) = replacement ++ read.replaceAll replacement t := by
  simp only [replaceAll, Pattern.replaceAll, scan_match hm h]
  rfl

lemma hits_match {m t : Text} (hm : m ≠ []) (h : read (m ++ t) = some t) :
    read.matched.hits (m ++ t) = m :: read.matched.hits t := by
  simp only [Pattern.hits, scan_match hm h]
  rfl

lemma hits_cons {c : Char} {s : Text} (h : read (c :: s) = none) :
    read.matched.hits (c :: s) = read.matched.hits s := by
  simp only [Pattern.hits, scan_cons h]
  rfl

lemma scan_of_misses {x rest : Text} (h : Misses read x rest) :
    read.matched.scan none (x ++ rest) = x.map .gap ++ read.matched.scan none rest := by
  induction x with
  | nil => rfl
  | cons c x ih =>
    have hc : read (c :: (x ++ rest)) = none := h (c :: x) (by simp) (List.suffix_refl _)
    rw [List.cons_append, scan_cons hc, ih h.tail, List.map_cons, List.cons_append]

lemma scan_eq_gaps {s : Text} (h : Misses read s []) : read.matched.scan none s = s.map .gap := by
  have hscan := scan_of_misses h
  rwa [List.append_nil, Pattern.scan, List.append_nil] at hscan

lemma hits_of_misses {x rest : Text} (h : Misses read x rest) :
    read.matched.hits (x ++ rest) = read.matched.hits rest := by
  simp [Pattern.hits, scan_of_misses h, List.filterMap_map]

lemma replaceAll_of_misses {x rest : Text} (h : Misses read x rest) :
    read.replaceAll replacement (x ++ rest) = x ++ read.replaceAll replacement rest := by
  simp only [replaceAll, Pattern.replaceAll, scan_of_misses h, List.flatMap_append,
    List.flatMap_map, List.flatMap_singleton']

lemma replaceAll_eq_self {s : Text} (h : Misses read s []) : read.replaceAll replacement s = s := by
  have hcopied : read.replaceAll replacement (s ++ []) = s ++ read.replaceAll replacement [] :=
    replaceAll_of_misses h
  rwa [replaceAll_nil, List.append_nil] at hcopied

/-- A text either has no match, or is split by its first match. -/
lemma misses_or_first_match (hread : Consumes read) (s : Text) :
    Misses read s [] ∨
      ∃ x m t, s = x ++ (m ++ t) ∧ m ≠ [] ∧ read (m ++ t) = some t ∧ Misses read x (m ++ t) := by
  induction s with
  | nil => exact .inl fun w hw hs => absurd (List.suffix_nil.1 hs) hw
  | cons c s ih =>
    cases hc : read (c :: s) with
    | some t =>
      obtain ⟨m, hm, hs⟩ := hread _ _ hc
      refine .inr ⟨[], m, t, hs, hm, hs ▸ hc, fun w hw hx => ?_⟩
      exact absurd (List.suffix_nil.1 hx) hw
    | none =>
      rcases ih with h | ⟨x, m, t, rfl, hm, hread, hx⟩
      · left
        intro w hw hs
        rcases List.suffix_cons_iff.1 hs with rfl | hs
        · simpa using hc
        · exact h w hw hs
      · refine .inr ⟨c :: x, m, t, rfl, hm, hread, fun w hw hs => ?_⟩
        rcases List.suffix_cons_iff.1 hs with rfl | hs
        · exact hc
        · exact hx w hw hs

/-- Induction over the matches of a text from left to right. -/
theorem match_induction (hread : Consumes read) {motive : Text → Prop}
    (done : ∀ s, Misses read s [] → motive s)
    (step : ∀ x m t, m ≠ [] → read (m ++ t) = some t → Misses read x (m ++ t) → motive t →
      motive (x ++ (m ++ t)))
    (s : Text) : motive s := by
  induction hn : s.length using Nat.strong_induction_on generalizing s with
  | _ n ih =>
    rcases misses_or_first_match hread s with h | ⟨x, m, t, rfl, hm, hmt, hx⟩
    · exact done s h
    · have hlt : t.length < n := by
        have hpos := List.length_pos_of_ne_nil hm
        simp only [List.length_append] at hn
        omega
      exact step x m t hm hmt hx (ih t.length hlt t rfl)

/-- Induction over the matches of a text, together with the text in which they are replaced. -/
theorem replaceAll_induction (replacement : Text) (hread : Consumes read) {motive : Text → Text → Prop}
    (done : ∀ s, Misses read s [] → motive s s)
    (step : ∀ x m t, m ≠ [] → read (m ++ t) = some t → Misses read x (m ++ t) →
      motive t (read.replaceAll replacement t) →
      motive (x ++ (m ++ t)) (x ++ (replacement ++ read.replaceAll replacement t)))
    (s : Text) : motive s (read.replaceAll replacement s) := by
  apply match_induction hread (motive := fun s => motive s (read.replaceAll replacement s))
  · intro s hs
    rw [replaceAll_eq_self hs]
    exact done s hs
  · intro x m t hm hmt hx ih
    rw [replaceAll_of_misses hx, replaceAll_match hm hmt]
    exact step x m t hm hmt hx ih

/-- The pieces of a text are the text, cut up. -/
lemma flatMap_text_scan (hread : Consumes read) (s : Text) :
    (read.matched.scan none s).flatMap Piece.text = s := by
  have hgaps (x : Text) : (x.map Piece.gap).flatMap Piece.text = x := by
    rw [List.flatMap_map]
    exact List.flatMap_singleton' x
  induction s using match_induction hread with
  | done s hs =>
    rw [scan_eq_gaps hs, hgaps]
  | step x m t hm hmt hx ih =>
    rw [scan_of_misses hx, scan_match hm hmt, List.flatMap_append, hgaps, List.flatMap_cons, ih]
    rfl

lemma flatMap_text_put (replacement s : Text) :
    ((read.matched.scan none s).map (Piece.put replacement)).flatMap Piece.text =
      read.replaceAll replacement s := by
  rw [List.flatMap_map]
  unfold replaceAll Pattern.replaceAll
  congr 1
  funext piece
  cases piece with
  | gap c => rfl
  | hit m => rfl

/-- What a scan finds is read off the text by the reader. -/
lemma exists_of_mem_scan (hread : Consumes read) {m s : Text}
    (h : .hit m ∈ read.matched.scan none s) : ∃ t, read (m ++ t) = some t := by
  induction s using match_induction hread with
  | done s hs =>
    rw [scan_eq_gaps hs] at h
    exact absurd h (by simp)
  | step x m' t hm' hmt hx ih =>
    rw [scan_of_misses hx, scan_match hm' hmt, List.mem_append, List.mem_cons] at h
    rcases h with hgap | hhit | hrest
    · exact absurd hgap (by simp)
    · obtain rfl := Piece.hit.inj hhit
      exact ⟨t, hmt⟩
    · exact ih hrest

/-- An observation that cannot tell a match from the replacement cannot tell the texts apart. -/
theorem observe_replaceAll {α : Type} (replacement : Text) (hread : Consumes read)
    (observe : Text → α)
    (h : ∀ x m t t', read (m ++ t) = some t → observe t = observe t' →
      observe (x ++ (m ++ t)) = observe (x ++ (replacement ++ t'))) (s : Text) :
    observe (read.replaceAll replacement s) = observe s := by
  have hall := replaceAll_induction replacement hread
    (motive := fun s s' => observe s = observe s') (fun _ _ => rfl)
    (fun x m t _ hmt _ ht => h x m t _ hmt ht) s
  exact hall.symm

/-- A property that is carried over every match with the property `harmless` is kept when all matches
have it. -/
theorem kept_replaceAll (replacement : Text) (hread : Consumes read) (kept harmless : Text → Prop)
    (h : ∀ x m t t', read (m ++ t) = some t → harmless m → (kept t → kept t') →
      kept (x ++ (m ++ t)) → kept (x ++ (replacement ++ t'))) {s : Text}
    (hs : ∀ m ∈ read.matched.hits s, harmless m) : kept s → kept (read.replaceAll replacement s) := by
  refine replaceAll_induction replacement hread
    (motive := fun s s' => (∀ m ∈ read.matched.hits s, harmless m) → kept s → kept s')
    (fun _ _ _ => id) (fun x m t hm hmt hx ih hall => ?_) s hs
  rw [hits_of_misses hx, hits_match hm hmt] at hall
  have hrest := ih fun w hw => hall w (List.mem_cons_of_mem _ hw)
  exact h x m t _ hmt (hall m List.mem_cons_self) hrest

/-- No match is left where a replacement neither completes a match that begins before it nor has one
begin in it. -/
theorem misses_replaceAll (hread : Consumes read)
    (hbefore : ∀ v m t t', read (m ++ t) = some t → v ≠ [] → read (v ++ (m ++ t)) = none →
      read (v ++ (replacement ++ t')) = none)
    (hreplacement : ∀ t, Misses read replacement t) (s : Text) :
    Misses read (read.replaceAll replacement s) [] := by
  refine replaceAll_induction replacement hread (motive := fun _ s' => Misses read s' [])
    (fun _ hs => hs) (fun x m t _ hmt hx ih => ?_) s
  refine Misses.append (fun w hw hwx => ?_) ((hreplacement _).append ih)
  rw [List.append_nil]
  exact hbefore w m t _ hmt hw (hx w hw hwx)

/-- A scan of a text in which matches were replaced by another match finds that one in the place of
each, and nothing else. -/
theorem scan_replaceAll (hread : Consumes read) {first : Text} (hne : first ≠ [])
    (hbefore : ∀ v m t t', read (m ++ t) = some t → v ≠ [] → read (v ++ (m ++ t)) = none →
      read (v ++ (first ++ t')) = none)
    (hfirst : ∀ t, read (first ++ t) = some t) (s : Text) :
    read.matched.scan none (read.replaceAll first s) =
      (read.matched.scan none s).map (Piece.put first) := by
  have hgaps (x : Text) : (x.map Piece.gap).map (Piece.put first) = x.map Piece.gap := by
    rw [List.map_map]
    rfl
  refine replaceAll_induction first hread
    (motive := fun s s' =>
      read.matched.scan none s' = (read.matched.scan none s).map (Piece.put first))
    (fun s hs => ?_) (fun x m t hm hmt hx ih => ?_) s
  · rw [scan_eq_gaps hs, hgaps]
  · have hx' : Misses read x (first ++ read.replaceAll first t) :=
      fun w hw hs => hbefore w m t _ hmt hw (hx w hw hs)
    rw [scan_of_misses hx', scan_match hne (hfirst _), ih, scan_of_misses hx, scan_match hm hmt,
      List.map_append, hgaps, List.map_cons, Piece.put]

/-- A barrier splits the replacing. -/
theorem replaceAll_barrier (hread : Consumes read) {d : Char} (hd : Stops read d) (x y : Text) :
    read.replaceAll replacement (x ++ d :: y) =
      read.replaceAll replacement x ++ d :: read.replaceAll replacement y := by
  have hnil : read [] = none := by
    cases h : read [] with
    | none => rfl
    | some t =>
      obtain ⟨m, hm, hs⟩ := hread _ _ h
      exact absurd (List.append_eq_nil_iff.1 hs.symm).1 hm
  induction hn : x.length using Nat.strong_induction_on generalizing x with
  | _ n ih =>
    cases x with
    | nil =>
      have hdy := hd [] y
      rw [List.nil_append, hnil] at hdy
      rw [List.nil_append, replaceAll_cons hdy, replaceAll_nil, List.nil_append]
    | cons c x =>
      have hcx := hd (c :: x) y
      cases hc : read (c :: x) with
      | none =>
        have hnone : read (c :: (x ++ d :: y)) = none := by simpa [hc] using hcx
        simp only [List.length_cons] at hn
        rw [List.cons_append, replaceAll_cons hnone, ih x.length (by omega) x rfl,
          replaceAll_cons hc, List.cons_append]
      | some t =>
        obtain ⟨m, hm, hs⟩ := hread _ _ hc
        have hmt : read (m ++ t) = some t := hs ▸ hc
        have hmt' : read (m ++ (t ++ d :: y)) = some (t ++ d :: y) := by
          rw [← List.append_assoc, hd, hmt]
          rfl
        have hlt : t.length < n := by
          have hpos := List.length_pos_of_ne_nil hm
          rw [← hn, hs, List.length_append]
          omega
        rw [hs, List.append_assoc, replaceAll_match hm hmt', ih t.length hlt t rfl,
          replaceAll_match hm hmt, List.append_assoc]

lemma mem_replaceAll (hread : Consumes read) {c : Char} {s : Text}
    (h : c ∈ read.replaceAll replacement s) : c ∈ s ∨ c ∈ replacement := by
  revert h
  refine replaceAll_induction replacement hread
    (motive := fun s s' => c ∈ s' → c ∈ s ∨ c ∈ replacement) (fun _ _ => .inl)
    (fun x m t _ _ _ ih h => ?_) s
  rcases List.mem_append.1 h with hx | h
  · exact .inl (List.mem_append_left _ hx)
  rcases List.mem_append.1 h with hreplacement | ht
  · exact .inr hreplacement
  · rcases ih ht with ht | hreplacement
    · exact .inl (List.mem_append_right _ (List.mem_append_right _ ht))
    · exact .inr hreplacement

/-! ### Reading a text in which matches were replaced -/

/-- It does not matter to the reader `look` whether matches are replaced before or after it reads. -/
def Commutes (look read : Reader) (replacement : Text) : Prop :=
  ∀ s, look (read.replaceAll replacement s) = (look s).map (read.replaceAll replacement)

/-- A reader that never gets past the first character of a match does not see the match. -/
lemma commutes_of_stops {look : Reader} {d : Char} (hread : Consumes read) (hdrops : Drops look)
    (hstops : Stops look d) (hmatch : ∀ m t, m ≠ [] → read (m ++ t) = some t → ∃ m', m = d :: m')
    (hreplacement : ∃ rest, replacement = d :: rest) : Commutes look read replacement := by
  intro s
  obtain ⟨rest, rfl⟩ := hreplacement
  rcases misses_or_first_match hread s with h | ⟨x, m, t, rfl, hm, hmt, hx⟩
  · rw [replaceAll_eq_self h]
    cases hlook : look s with
    | none => rfl
    | some t =>
      rw [Option.map_some, replaceAll_eq_self (h.of_suffix (hdrops s t hlook))]
  · obtain ⟨m', rfl⟩ := hmatch m t hm hmt
    rw [replaceAll_of_misses hx, replaceAll_match hm hmt, List.cons_append, List.cons_append, hstops,
      hstops]
    cases hlook : look x with
    | none => rfl
    | some x' =>
      have hx' := hx.of_suffix (hdrops x x' hlook)
      simp only [Option.map_some]
      rw [← List.cons_append, ← List.cons_append, replaceAll_of_misses hx', replaceAll_match hm hmt]

lemma commutes_seq {looks : List Reader} (h : ∀ look ∈ looks, Commutes look read replacement) :
    Commutes (seq looks) read replacement := by
  induction looks with
  | nil => intro s; rfl
  | cons look looks ih =>
    intro s
    rw [seq_cons, seq_cons, h look List.mem_cons_self]
    have hrest := ih fun l hl => h l (List.mem_cons_of_mem _ hl)
    cases look s with
    | none => rfl
    | some t => exact hrest t

/-- A run of characters is not ended by a replacement when whatever ends it is a barrier. -/
lemma commutes_many {p : Char → Bool} (hread : Consumes read)
    (hstops : ∀ d, p d = false → Stops read d) (hreplacement : replacement.all p = true) :
    Commutes (many p) read replacement := by
  intro s
  have hinside (x : Text) (hx : ∀ c ∈ x, p c = true) : ∀ c ∈ read.replaceAll replacement x,
      p c = true := by
    intro c hc
    rcases mem_replaceAll hread hc with h | h
    · exact hx c h
    · exact List.all_eq_true.1 hreplacement c h
  have hx : ∀ c ∈ s.takeWhile p, p c = true := List.all_eq_true.1 List.all_takeWhile
  have hs : s.takeWhile p ++ s.dropWhile p = s := List.takeWhile_append_dropWhile
  unfold many
  cases hrest : s.dropWhile p with
  | nil =>
    rw [hrest, List.append_nil] at hs
    rw [hs] at hx
    have hall : (read.replaceAll replacement s ++ []).dropWhile p = [] :=
      List.dropWhile_append_of_pos (hinside s hx)
    rw [List.append_nil] at hall
    rw [Option.map_some, replaceAll_nil, hall]
  | cons d y =>
    have hd : p d = false := by
      have h := List.head?_dropWhile_not p s
      rw [hrest] at h
      simpa using h
    rw [hrest] at hs
    rw [← hs, replaceAll_barrier hread (hstops d hd), List.dropWhile_append_of_pos (hinside _ hx),
      List.dropWhile_cons, hd, Option.map_some]
    have hnil : read.replaceAll replacement ([] ++ d :: y) =
        read.replaceAll replacement [] ++ d :: read.replaceAll replacement y :=
      replaceAll_barrier hread (hstops d hd) [] y
    rw [replaceAll_nil, List.nil_append, List.nil_append] at hnil
    rw [hnil]
    rfl

end Reader

end BlockAudit
