import BlockAudit.Proofs.DosLines
import BlockAudit.Proofs.JsonReaders

/-!
# Line endings of JSON documents

A line of a JSON document can end only where white space is allowed, and there a carriage return is as
good as a line feed. So every reader answers the same for a text and for the text with carriage returns
in front of its line feeds. The small readers have this property and each way of putting readers together
keeps it; a loop also needs that each of its steps reads something, since its fuel is the length of the
text and the turned text is the longer one.
-/

namespace BlockAudit

namespace Json

open Text (dosLines)

variable {α β κ : Type}

/-- Carriage returns in front of line feeds change nothing that is read. The rest is no longer than the
text. -/
structure IgnoresReturns (read : Text → Option (α × Text)) : Prop where
  read_dosLines (s : Text) : read (dosLines s) = (read s).map (Prod.map id dosLines)
  length_le {s rest : Text} {v : α} (h : read s = some (v, rest)) : rest.length ≤ s.length

/-- What is read is not nothing. -/
structure Consumes (read : Text → Option (α × Text)) : Prop where
  length_lt {s rest : Text} {v : α} (h : read s = some (v, rest)) : rest.length < s.length

variable {read : Text → Option (α × Text)}

/-! ### Ways of putting readers together -/

lemma ignoresReturns_none : IgnoresReturns fun _ => (none : Option (α × Text)) :=
  ⟨fun _ => rfl, nofun⟩

lemma consumes_none : Consumes fun _ => (none : Option (α × Text)) := ⟨nofun⟩

lemma ignoresReturns_answer (v : Option α) : IgnoresReturns (answer v) where
  read_dosLines s := by cases v <;> rfl
  length_le {s rest w} h := by
    obtain ⟨u, -, heq⟩ := Option.map_eq_some_iff.1 h
    rw [(Prod.mk.inj heq).2]

lemma IgnoresReturns.andThen {next : α → Text → Option (β × Text)} (h : IgnoresReturns read)
    (hnext : ∀ v, IgnoresReturns (next v)) : IgnoresReturns (andThen read next) where
  read_dosLines s := by
    rw [Json.andThen, Json.andThen, h.read_dosLines]
    cases read s with
    | none => rfl
    | some first => exact (hnext first.1).read_dosLines first.2
  length_le {s rest w} hs := by
    obtain ⟨⟨v, rest'⟩, hread, hrest⟩ := Option.bind_eq_some_iff.1 hs
    exact ((hnext v).length_le hrest).trans (h.length_le hread)

lemma Consumes.andThen {next : α → Text → Option (β × Text)} (h : Consumes read)
    (hnext : ∀ v, IgnoresReturns (next v)) : Consumes (andThen read next) where
  length_lt {s rest w} hs := by
    obtain ⟨⟨v, rest'⟩, hread, hrest⟩ := Option.bind_eq_some_iff.1 hs
    exact ((hnext v).length_le hrest).trans_lt (h.length_lt hread)

lemma IgnoresReturns.andAnswer {f : α → Option β} (h : IgnoresReturns read) :
    IgnoresReturns (Json.andThen read fun v => answer (f v)) :=
  h.andThen fun v => ignoresReturns_answer (f v)

lemma IgnoresReturns.onHead {d : Char} {next otherwise : Text → Option (α × Text)}
    (hfeed : d ≠ '\n') (hreturn : d ≠ '\r') (hnext : IgnoresReturns next)
    (hotherwise : IgnoresReturns otherwise) : IgnoresReturns (onHead d next otherwise) where
  read_dosLines s := by
    cases s with
    | nil => simpa [Json.onHead] using hotherwise.read_dosLines []
    | cons c s =>
      have hother := hotherwise.read_dosLines (c :: s)
      by_cases hc : c = '\n'
      · subst hc
        rw [Text.dosLines_feed] at hother ⊢
        rw [Json.onHead, if_neg hreturn.symm, hother, Json.onHead, if_neg hfeed.symm]
      · rw [Text.dosLines_cons hc] at hother ⊢
        rw [Json.onHead, Json.onHead]
        split_ifs
        · exact hnext.read_dosLines s
        · exact hother
  length_le {s rest v} hs := by
    cases s with
    | nil => exact hotherwise.length_le hs
    | cons c s =>
      rw [Json.onHead] at hs
      split_ifs at hs
      · exact (hnext.length_le hs).trans (Nat.le_succ _)
      · exact hotherwise.length_le hs

lemma Consumes.onHead {d : Char} {next otherwise : Text → Option (α × Text)}
    (hnext : IgnoresReturns next) (h : Consumes otherwise) :
    Consumes (onHead d next otherwise) where
  length_lt {s rest v} hs := by
    cases s with
    | nil => exact h.length_lt hs
    | cons c s =>
      rw [Json.onHead] at hs
      split_ifs at hs
      · exact (hnext.length_le hs).trans_lt (Nat.lt_succ_self _)
      · exact h.length_lt hs

lemma IgnoresReturns.behind {word : Text} (hfeed : '\n' ∉ word) (hreturn : '\r' ∉ word)
    (h : IgnoresReturns read) : IgnoresReturns (behind word read) where
  read_dosLines s := by
    rw [Json.behind, Json.behind, Text.after?_dosLines hfeed hreturn]
    cases Text.after? word s with
    | none => rfl
    | some rest => exact h.read_dosLines rest
  length_le {s rest v} hs := by
    obtain ⟨rest', hafter, hread⟩ := Option.bind_eq_some_iff.1 hs
    rw [Text.after?_eq_some_iff.1 hafter, List.length_append]
    exact (h.length_le hread).trans (Nat.le_add_left _ _)

lemma skipSpace_dosLines (s : Text) : skipSpace (dosLines s) = dosLines (skipSpace s) :=
  Text.dropWhile_dosLines (by decide) s

lemma length_skipSpace_le (s : Text) : (skipSpace s).length ≤ s.length :=
  (List.dropWhile_sublist _).length_le

lemma ne_newline_of_skipSpace {c : Char} {s rest : Text} (h : skipSpace s = c :: rest) : c ≠ '\n' := by
  rintro rfl
  have hhead := List.head?_dropWhile_not isSpace s
  rw [← skipSpace, h] at hhead
  exact absurd hhead (by simp [isSpace])

lemma IgnoresReturns.spaced (h : IgnoresReturns read) : IgnoresReturns (spaced read) where
  read_dosLines s := by rw [Json.spaced, Json.spaced, skipSpace_dosLines, h.read_dosLines]
  length_le {s rest v} hs := (h.length_le hs).trans (length_skipSpace_le s)

lemma Consumes.spaced (h : Consumes read) : Consumes (spaced read) where
  length_lt {s _ _} hs := (h.length_lt hs).trans_le (length_skipSpace_le s)

lemma consumes_oneChar (meaning : Char → Option α) : Consumes (oneChar meaning) where
  length_lt {s rest v} hs := by
    cases s with
    | nil => exact absurd hs (by simp [oneChar])
    | cons c s =>
      obtain ⟨u, -, heq⟩ := Option.map_eq_some_iff.1 hs
      rw [← (Prod.mk.inj heq).2]
      exact Nat.lt_succ_self _

lemma ignoresReturns_oneChar {meaning : Char → Option α} (hfeed : meaning '\n' = none)
    (hreturn : meaning '\r' = none) : IgnoresReturns (oneChar meaning) where
  read_dosLines s := by
    cases s with
    | nil => simp [oneChar]
    | cons c s =>
      by_cases hc : c = '\n'
      · simp [hc, oneChar, hfeed, hreturn]
      · rw [Text.dosLines_cons hc, oneChar, oneChar]
        cases meaning c <;> rfl
  length_le hs := ((consumes_oneChar meaning).length_lt hs).le

/-! ### Loops -/

section Loops

variable {step : Text → Option (Option α × Text)}

lemma repeated_dosLines (h : IgnoresReturns step) (hstep : Consumes step) {fuel fuel' : Nat}
    {s : Text} (hfuel : s.length < fuel) (hfuel' : (dosLines s).length < fuel') :
    repeated step fuel' (dosLines s) = (repeated step fuel s).map (Prod.map id dosLines) := by
  -- both runs take the same steps, each on fuel of its own
  induction fuel generalizing fuel' s with
  | zero => exact absurd hfuel (Nat.not_lt_zero _)
  | succ fuel ih =>
    cases fuel' with
    | zero => exact absurd hfuel' (Nat.not_lt_zero _)
    | succ fuel' =>
      have hturned := h.read_dosLines s
      rw [repeated, repeated, hturned]
      rcases hs : step s with _ | ⟨_ | v, rest⟩
      · rfl
      · rfl
      · rw [hs] at hturned
        have hless := hstep.length_lt hs
        have hless' := hstep.length_lt hturned
        have hrest : repeated step fuel' (dosLines rest) =
            (repeated step fuel rest).map (Prod.map id dosLines) :=
          ih (by omega) (by omega)
        dsimp only [Option.map_some, Prod.map_apply, id_eq, Option.bind_eq_bind, Option.bind_some]
        rw [hrest]
        cases repeated step fuel rest <;> rfl

lemma length_of_repeated (h : IgnoresReturns step) {fuel : Nat} {s rest : Text} {vs : List α}
    (hs : repeated step fuel s = some (vs, rest)) : rest.length ≤ s.length := by
  induction fuel generalizing s vs with
  | zero => exact absurd hs (by simp [repeated])
  | succ fuel ih =>
    rw [repeated] at hs
    obtain ⟨⟨_ | v, rest'⟩, hstep, hend⟩ := Option.bind_eq_some_iff.1 hs
    · obtain ⟨-, rfl⟩ := Prod.mk.inj (Option.some.inj hend)
      exact h.length_le hstep
    · obtain ⟨⟨vs', rest''⟩, hmore, hend⟩ := Option.bind_eq_some_iff.1 hend
      obtain ⟨-, rfl⟩ := Prod.mk.inj (Option.some.inj hend)
      exact (ih hmore).trans (h.length_le hstep)

end Loops

/-! ### Strings -/

lemma ignoresReturns_hex4? : IgnoresReturns hex4? := by
  have hdigit : IgnoresReturns (oneChar hexDigit?) := ignoresReturns_oneChar (by decide) (by decide)
  rw [hex4?_eq]
  exact hdigit.andThen fun a => hdigit.andThen fun b => hdigit.andThen fun c => hdigit.andThen fun d =>
    ignoresReturns_answer _

lemma ignoresReturns_codeUnit? : IgnoresReturns codeUnit? := by
  refine ignoresReturns_hex4?.andThen fun n => ?_
  split_ifs
  · refine IgnoresReturns.behind (by decide) (by decide) ?_
    exact ignoresReturns_hex4?.andAnswer
  · exact ignoresReturns_answer _
  · exact ignoresReturns_answer _

/-- A line cannot end inside a string: both characters of an ending are controls. -/
lemma ignoresReturns_stringChar? : IgnoresReturns stringChar? :=
  .onHead (by decide) (by decide)
    (.onHead (by decide) (by decide) ignoresReturns_codeUnit?
      (ignoresReturns_oneChar (by decide) (by decide)))
    (ignoresReturns_oneChar (by decide) (by decide))

lemma ignoresReturns_stringStep? : IgnoresReturns stringStep? :=
  .onHead (by decide) (by decide) (ignoresReturns_answer _)
    ignoresReturns_stringChar?.andAnswer

lemma consumes_stringStep? : Consumes stringStep? := by
  have hchar : Consumes stringChar? :=
    .onHead (.onHead (by decide) (by decide) ignoresReturns_codeUnit?
      (ignoresReturns_oneChar (by decide) (by decide))) (consumes_oneChar _)
  exact .onHead (ignoresReturns_answer _) (hchar.andThen fun _ => ignoresReturns_answer _)

lemma ignoresReturns_stringBody? : IgnoresReturns stringBody? where
  read_dosLines s := by
    rw [stringBody?, stringBody?, stringTail?_eq, stringTail?_eq]
    exact repeated_dosLines ignoresReturns_stringStep? consumes_stringStep? (Nat.lt_succ_self _)
      (Nat.lt_succ_self _)
  length_le {s rest v} hs := by
    rw [stringBody?, stringTail?_eq] at hs
    exact length_of_repeated ignoresReturns_stringStep? hs

lemma ignoresReturns_stringAt? : IgnoresReturns stringAt? := by
  rw [stringAt?_eq]
  exact .onHead (by decide) (by decide) ignoresReturns_stringBody? ignoresReturns_none

/-! ### Numbers -/

lemma ignoresReturns_digits? : IgnoresReturns digits? where
  read_dosLines s := by
    rw [digits?, digits?, Text.takeWhile_dosLines (by decide) (by decide),
      Text.dropWhile_dosLines (by decide)]
    split_ifs <;> rfl
  length_le {s rest v} hs := by
    rw [digits?] at hs
    split_ifs at hs
    rw [← (Prod.mk.inj (Option.some.inj hs)).2]
    exact (List.dropWhile_sublist _).length_le

lemma ignoresReturns_exponent? : IgnoresReturns exponent? := by
  have hdigits {f : Text → Option Int} :
      IgnoresReturns (andThen digits? fun digits => answer (f digits)) :=
    ignoresReturns_digits?.andAnswer
  rw [exponent?_eq]
  exact .onHead (by decide) (by decide) hdigits (.onHead (by decide) (by decide) hdigits hdigits)

lemma ignoresReturns_exponentPart? (negative : Bool) (whole fraction : Text) :
    IgnoresReturns (exponentPart? negative whole fraction) := by
  have hexponent : IgnoresReturns (withExponent? negative whole fraction) :=
    ignoresReturns_exponent?.andAnswer
  exact .onHead (by decide) (by decide) hexponent
    (.onHead (by decide) (by decide) hexponent (ignoresReturns_answer _))

lemma ignoresReturns_unsigned? (negative : Bool) : IgnoresReturns (unsigned? negative) := by
  refine ignoresReturns_digits?.andThen fun whole => ?_
  split_ifs
  · exact ignoresReturns_none
  · refine .onHead (by decide) (by decide) ?_ (ignoresReturns_exponentPart? negative whole [])
    exact ignoresReturns_digits?.andThen (ignoresReturns_exponentPart? negative whole)

lemma ignoresReturns_numberLiteral? : IgnoresReturns numberLiteral? := by
  rw [numberLiteral?_eq]
  exact .onHead (by decide) (by decide) (ignoresReturns_unsigned? true) (ignoresReturns_unsigned? false)

/-! ### Lists -/

lemma ignoresReturns_member (h : IgnoresReturns read) :
    IgnoresReturns (spaced (andThen read fun member => answer (some (some member)))) :=
  h.andAnswer.spaced

lemma consumes_commaStep? (close : Char) (h : IgnoresReturns read) :
    Consumes (commaStep? close read) :=
  (Consumes.onHead (ignoresReturns_answer _)
    (Consumes.onHead (ignoresReturns_member h) consumes_none)).spaced

section Lists

variable {close : Char} (hfeed : close ≠ '\n') (hreturn : close ≠ '\r')
include hfeed hreturn

lemma IgnoresReturns.commaStep? (h : IgnoresReturns read) :
    IgnoresReturns (commaStep? close read) := by
  have hcomma := IgnoresReturns.onHead (d := ',') (by decide) (by decide) (ignoresReturns_member h)
    ignoresReturns_none
  exact (IgnoresReturns.onHead hfeed hreturn (ignoresReturns_answer _) hcomma).spaced

lemma IgnoresReturns.commaList? (h : IgnoresReturns read) :
    IgnoresReturns (commaList? close read) where
  read_dosLines s := by
    have hspace := length_skipSpace_le s
    have hspace' := length_skipSpace_le (dosLines s)
    rw [skipSpace_dosLines] at hspace'
    rw [Json.commaList?, Json.commaList?, skipSpace_dosLines]
    cases hs : skipSpace s with
    | nil => simp
    | cons c rest =>
      have hc := ne_newline_of_skipSpace hs
      have hread := h.read_dosLines (c :: rest)
      rw [hs] at hspace hspace'
      rw [Text.dosLines_cons hc] at hread hspace' ⊢
      dsimp only
      split_ifs
      · rfl
      · rw [hread]
        rcases hmember : read (c :: rest) with _ | ⟨member, rest'⟩
        · rfl
        · rw [hmember] at hread
          -- the fuel is the length of the whole list, and the first member takes nothing of it
          have hfuel := h.length_le hmember
          have hfuel' := h.length_le hread
          have htail := repeated_dosLines (h.commaStep? hfeed hreturn) (consumes_commaStep? close h)
            (Nat.lt_succ_of_le (hfuel.trans hspace)) (Nat.lt_succ_of_le (hfuel'.trans hspace'))
          rw [← commaTail?_eq, ← commaTail?_eq] at htail
          dsimp only [Option.map_some, Prod.map_apply, id_eq, Option.bind_eq_bind, Option.bind_some]
          rw [htail]
          cases commaTail? close read (s.length + 1) rest' <;> rfl
  length_le {s rest v} hs := by
    have hspace := length_skipSpace_le s
    rw [Json.commaList?] at hs
    split at hs
    · exact absurd hs (by simp)
    · next c rest' hskip =>
      rw [hskip] at hspace
      split_ifs at hs
      · rw [← (Prod.mk.inj (Option.some.inj hs)).2]
        exact (Nat.le_succ _).trans hspace
      · obtain ⟨⟨member, rest''⟩, hmember, hend⟩ := Option.bind_eq_some_iff.1 hs
        obtain ⟨⟨members, tail⟩, htail, hend⟩ := Option.bind_eq_some_iff.1 hend
        obtain ⟨-, rfl⟩ := Prod.mk.inj (Option.some.inj hend)
        rw [commaTail?_eq] at htail
        have hrest := length_of_repeated (h.commaStep? hfeed hreturn) htail
        exact hrest.trans ((h.length_le hmember).trans hspace)

end Lists

lemma IgnoresReturns.fieldAt? {key : Text → Option (κ × Text)} (hkey : IgnoresReturns key)
    (h : IgnoresReturns read) : IgnoresReturns (fieldAt? key read) := by
  rw [fieldAt?_eq]
  refine hkey.andThen fun key => .spaced ?_
  exact .onHead (by decide) (by decide) h.andAnswer.spaced ignoresReturns_none

/-! ### Values -/

lemma ignoresReturns_valueAt? (depth : Nat) : IgnoresReturns (valueAt? depth) := by
  -- only the brackets open a value of a smaller depth
  have hvalue (depth : Nat) (hitems : IgnoresReturns (itemsAt? depth))
      (hfields : IgnoresReturns (fieldsAt? depth)) : IgnoresReturns (valueAt? depth) := by
    rw [valueAt?_eq]
    refine .onHead (by decide) (by decide) ignoresReturns_stringBody?.andAnswer ?_
    refine .onHead (by decide) (by decide) hitems.andAnswer ?_
    refine .onHead (by decide) (by decide) hfields.andAnswer ?_
    refine .onHead (by decide) (by decide) ((ignoresReturns_answer _).behind (by decide) (by decide)) ?_
    refine .onHead (by decide) (by decide) ((ignoresReturns_answer _).behind (by decide) (by decide)) ?_
    refine .onHead (by decide) (by decide) ((ignoresReturns_answer _).behind (by decide) (by decide)) ?_
    exact ignoresReturns_numberLiteral?.andAnswer
  induction depth with
  | zero => exact hvalue 0 ignoresReturns_none ignoresReturns_none
  | succ depth ih =>
    exact hvalue (depth + 1) (ih.commaList? (by decide) (by decide))
      ((ignoresReturns_stringAt?.fieldAt? ih).commaList? (by decide) (by decide))

/-- The value of a document does not depend on how its lines are ended. -/
theorem parse?_dosLines (s : Text) : parse? (dosLines s) = parse? s := by
  rw [parse?, parse?, skipSpace_dosLines, (ignoresReturns_valueAt? maxDepth).read_dosLines]
  cases valueAt? maxDepth (skipSpace s) with
  | none => rfl
  | some first =>
    obtain ⟨value, rest⟩ := first
    simp [skipSpace_dosLines]

end Json

end BlockAudit
