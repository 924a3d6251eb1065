import BlockAudit.Json.Printer
import BlockAudit.Proofs.Lines
import BlockAudit.Proofs.Trim
import BlockAudit.Section.Line

/-!
# Lines of printed JSON

No line of a printed JSON value is a sentinel. A string has no line feed in it, so every line feed is
one that the printer writes before an item, a field or a closing bracket. What stands behind it begins
with spaces and then a character other than a hyphen, or with the hyphen of a number and a digit.
-/

namespace BlockAudit

namespace Section

/-- The text begins with a line that is no sentinel, whatever follows: behind white space stands a
character other than a hyphen, or a single hyphen. -/
def Opens (s : Text) : Prop :=
  ∃ c t, Text.trimStart s = c :: t ∧ (c = '-' → ∃ d u, t = d :: u ∧ d ≠ '-')

/-- No sentinel stands behind a line feed of the text, whatever follows the text. -/
def Calm : Text → Prop
  | [] => True
  | c :: s => (c = '\n' → Opens s) ∧ Calm s

lemma Opens.append {s : Text} (h : Opens s) (t : Text) : Opens (s ++ t) := by
  obtain ⟨c, r, hs, hr⟩ := h
  have hne : Text.trimStart s ≠ [] := by simp [hs]
  refine ⟨c, r ++ t, by rw [Text.trimStart_append hne, hs, List.cons_append], fun hc => ?_⟩
  obtain ⟨d, u, rfl, hd⟩ := hr hc
  exact ⟨d, u ++ t, rfl, hd⟩

lemma Opens.blank_cons {c : Char} (hc : Text.isBlank c = true) {s : Text} (h : Opens s) :
    Opens (c :: s) := by
  obtain ⟨d, r, hs, hr⟩ := h
  exact ⟨d, r, by rw [Text.trimStart, List.dropWhile_cons_of_pos hc]; exact hs, hr⟩

lemma opens_cons {c : Char} (hc : Text.isBlank c = false) (hd : c ≠ '-') (s : Text) :
    Opens (c :: s) := ⟨c, s, Text.trimStart_cons hc s, fun h => absurd h hd⟩

lemma Calm.append {s t : Text} (hs : Calm s) (ht : Calm t) : Calm (s ++ t) := by
  induction s with
  | nil => exact ht
  | cons c s ih => exact ⟨fun hc => (hs.1 hc).append t, ih hs.2⟩

lemma Calm.cons {c : Char} (hc : c ≠ '\n') {s : Text} (h : Calm s) : Calm (c :: s) :=
  ⟨fun hfeed => absurd hfeed hc, h⟩

lemma calm_of_notMem {s : Text} (h : '\n' ∉ s) : Calm s := by
  induction s with
  | nil => trivial
  | cons c s ih =>
    refine ⟨fun hc => absurd ?_ h, ih fun hs => h (List.mem_cons_of_mem c hs)⟩
    simp [hc]

lemma Opens.ofText_eq_plain {s line : Text} (h : Opens s) (hline : line <+: s) :
    Line.ofText line = .plain := by
  obtain ⟨c, t, hs, ht⟩ := h
  have hnone : Text.after? sentinel (Text.trim line) = none := by
    rw [Option.eq_none_iff_forall_ne_some]
    intro rest hrest
    have htrim := Text.after?_eq_some_iff.1 hrest
    have hprefix : sentinel ++ rest <+: c :: t := by
      rw [← htrim, ← hs]
      exact (Text.trim_prefix_trimStart line).trans (Text.trimStart_mono hline)
    obtain ⟨r, hr⟩ := hprefix
    obtain ⟨rfl, htail⟩ : '-' = c ∧ '-' :: '-' :: (rest ++ r) = t := List.cons.inj hr
    obtain ⟨d, u, rfl, hd⟩ := ht rfl
    exact hd (List.cons.inj htail).1.symm
  rw [Line.ofText, hnone]

lemma Calm.opens {x y : Text} (h : Calm (x ++ '\n' :: y)) : Opens y := by
  induction x with
  | nil => exact h.1 rfl
  | cons c x ih => exact ih h.2

lemma ofText_eq_plain_of_calm {s : Text} (hopens : Opens s) (hcalm : Calm s) :
    ∀ line ∈ Text.splitOn '\n' s, Line.ofText line = .plain := by
  obtain ⟨first, rest, hs, hfirst, hrest⟩ := Text.splitWhere_eq_cons (· == '\n') s
  intro line hline
  rw [Text.splitOn, hs] at hline
  rcases List.mem_cons.1 hline with rfl | hline
  · exact hopens.ofText_eq_plain hfirst
  · obtain ⟨x, d, y, rfl, hd, hy⟩ := hrest line hline
    obtain rfl : d = '\n' := by simpa using hd
    exact hcalm.opens.ofText_eq_plain hy

end Section

/-- The text begins with a digit and has no line feed in it. -/
def Text.Numeral (s : Text) : Prop := ∃ d t, s = d :: t ∧ d.isDigit = true ∧ '\n' ∉ t

namespace Text

lemma Numeral.append {s t : Text} (hs : Numeral s) (ht : '\n' ∉ t) : Numeral (s ++ t) := by
  obtain ⟨d, r, rfl, hd, hr⟩ := hs
  refine ⟨d, r ++ t, rfl, hd, fun h => ?_⟩
  rcases List.mem_append.1 h with h | h
  · exact hr h
  · exact ht h

lemma isDigit_of_mem_ofNat {n : Nat} {c : Char} (h : c ∈ ofNat n) : c.isDigit = true :=
  Nat.isDigit_of_mem_toDigits (by decide) (by decide) h

lemma newline_notMem_ofNat (n : Nat) : '\n' ∉ ofNat n := by
  intro h
  exact absurd (isDigit_of_mem_ofNat h) (by decide)

lemma numeral_take_ofNat (k n : Nat) : Numeral ((ofNat n).take (k + 1)) := by
  obtain ⟨d, t, hdigits⟩ := List.exists_cons_of_ne_nil (Nat.toDigits_ne_nil (n := n) (b := 10))
  have hmem : d ∈ ofNat n := by simp [ofNat, hdigits]
  have htail : '\n' ∉ t.take k := by
    intro h
    have hn : '\n' ∈ ofNat n := by simp [ofNat, hdigits, List.mem_of_mem_take h]
    exact newline_notMem_ofNat n hn
  exact ⟨d, t.take k, by simp [ofNat, hdigits], isDigit_of_mem_ofNat hmem, htail⟩

lemma numeral_ofNat (n : Nat) : Numeral (ofNat n) := by
  have h := numeral_take_ofNat (ofNat n).length n
  rwa [List.take_of_length_le (by omega)] at h

end Text

namespace Binary64

/-- A number is printed as a numeral, behind a hyphen when it is negative. -/
lemma exists_numeral_of_toText (x : Binary64) :
    ∃ body, Text.Numeral body ∧ x.toText = (if x.negative then ['-'] else []) ++ body := by
  unfold toText
  by_cases hzero : x.mantissa = 0
  · exact ⟨"0.0", ⟨'0', ".0", rfl, rfl, by decide⟩, by simp only [hzero, if_true]⟩
  · simp only [hzero, if_false]
    refine ⟨_, ?_, rfl⟩
    have hdigits := Text.newline_notMem_ofNat x.shortest.1
    have hdrop (n : Nat) : '\n' ∉ (Text.ofNat x.shortest.1).drop n :=
      fun h => hdigits (List.mem_of_mem_drop h)
    have hzeros (n : Nat) : '\n' ∉ List.replicate n '0' :=
      fun h => absurd (List.eq_of_mem_replicate h) (by decide)
    generalize hlead : x.shortest.2 + ((Text.ofNat x.shortest.1).length : Int) - 1 = lead
    by_cases hfar : lead < -5 ∨ 15 < lead
    · -- One digit, a fraction if there is one, and the exponent with its sign.
      rw [if_pos hfar]
      have hhead := Text.numeral_take_ofNat 0 x.shortest.1
      have hfraction : '\n' ∉ (if ((Text.ofNat x.shortest.1).drop 1).isEmpty then []
          else '.' :: (Text.ofNat x.shortest.1).drop 1) := by
        split_ifs
        · simp
        · simpa using hdrop 1
      have hsign : '\n' ∉ (if lead < 0 then ['-'] else ['+']) := by
        split_ifs <;> decide
      exact (((hhead.append hfraction).append (by decide)).append hsign).append
        (Text.newline_notMem_ofNat _)
    · rw [if_neg hfar]
      by_cases hless : lead < 0
      · rw [if_pos hless]
        have hpoint : Text.Numeral ("0." : Text) := ⟨'0', ['.'], rfl, rfl, by decide⟩
        exact (hpoint.append (hzeros _)).append hdigits
      · rw [if_neg hless]
        by_cases hplace : x.shortest.2 < 0
        · rw [if_pos hplace]
          have hhead := Text.numeral_take_ofNat lead.toNat x.shortest.1
          exact (hhead.append (by decide)).append (hdrop _)
        · rw [if_neg hplace]
          exact ((Text.numeral_ofNat _).append (hzeros _)).append (by decide)

end Binary64

namespace Json

open Section

lemma newline_notMem_escapeChar (c : Char) : '\n' ∉ escapeChar c := by
  have hcontrol : ∀ n < 0x20, '\n' ∉ ("\\u" : Text) ++ Text.ofNatPadded 16 4 n := by decide
  unfold escapeChar
  split_ifs with hquote hback hfeed hreturn htab hbackspace hform hless
  · decide
  · decide
  · decide
  · decide
  · decide
  · decide
  · decide
  · exact hcontrol c.toNat hless
  · simpa using Ne.symm hfeed

lemma newline_notMem_printString (s : Text) : '\n' ∉ printString s := by
  have hescaped : '\n' ∉ s.flatMap escapeChar := by
    intro h
    obtain ⟨c, -, hc⟩ := List.mem_flatMap.1 h
    exact newline_notMem_escapeChar c hc
  simpa [printString] using hescaped

lemma exists_numeral_of_printNumber (n : JsonNumber) :
    ∃ body, Text.Numeral body ∧ (printNumber n = body ∨ printNumber n = '-' :: body) := by
  cases n with
  | whole n =>
    refine ⟨Text.ofNat n.natAbs, Text.numeral_ofNat _, ?_⟩
    by_cases hn : n < 0
    · exact Or.inr (by rw [printNumber, if_pos hn])
    · exact Or.inl (by rw [printNumber, if_neg hn])
  | real x =>
    obtain ⟨body, hbody, htext⟩ := x.exists_numeral_of_toText
    refine ⟨body, hbody, ?_⟩
    cases hsign : x.negative with
    | true => exact Or.inr (by rw [printNumber, htext, hsign]; rfl)
    | false => exact Or.inl (by rw [printNumber, htext, hsign]; rfl)

lemma newline_notMem_printNumber (n : JsonNumber) : '\n' ∉ printNumber n := by
  obtain ⟨body, ⟨d, t, rfl, hd, ht⟩, hn⟩ := exists_numeral_of_printNumber n
  have hfeed : '\n' ≠ d := by
    rintro rfl
    exact absurd hd (by decide)
  rcases hn with hn | hn
  · simp [hn, hfeed, ht]
  · simp [hn, hfeed, ht]

lemma isBlank_of_isDigit {d : Char} (hd : d.isDigit = true) : Text.isBlank d = false := by
  have hrange : 48 ≤ d.toNat ∧ d.toNat ≤ 57 := Char.isDigit_iff_toNat.1 hd
  simp only [Text.isBlank, Bool.or_eq_false_iff, Bool.and_eq_false_iff, decide_eq_false_iff_not,
    beq_eq_false_iff_ne]
  omega

lemma opens_printNumber (n : JsonNumber) : Opens (printNumber n) := by
  obtain ⟨body, ⟨d, t, rfl, hd, -⟩, hn⟩ := exists_numeral_of_printNumber n
  have hhyphen : d ≠ '-' := by
    rintro rfl
    exact absurd hd (by decide)
  rcases hn with hn | hn
  · rw [hn]
    exact opens_cons (isBlank_of_isDigit hd) hhyphen t
  · rw [hn]
    exact ⟨'-', d :: t, Text.trimStart_cons (by decide) _, fun _ => ⟨d, t, rfl, hhyphen⟩⟩

lemma opens_printAt (level : Nat) (value : Json) : Opens (printAt level value) := by
  match value with
  | .null | .bool true | .bool false | .array [] | .object [] | .string _ | .array (_ :: _)
  | .object ((_, _) :: _) =>
    simp only [printAt]
    exact opens_cons (by decide) (by decide) _
  | .number n => exact opens_printNumber n

lemma opens_printString (s : Text) : Opens (printString s) :=
  opens_cons (by decide) (by decide) _

lemma calm_newLine (level : Nat) {s : Text} (hopens : Opens s) (hcalm : Calm s) :
    Calm (newLine level ++ s) := by
  have hindent (n : Nat) :
      Opens (List.replicate n ' ' ++ s) ∧ Calm (List.replicate n ' ' ++ s) := by
    induction n with
    | zero => exact ⟨hopens, hcalm⟩
    | succ n ih => exact ⟨ih.1.blank_cons (by decide), ih.2.cons (by decide)⟩
  exact ⟨fun _ => (hindent (2 * level)).1, (hindent (2 * level)).2⟩

/-- A value between brackets, with an entry on each line. -/
lemma calm_brackets (level : Nat) {first last : Char} {entry rest : Text} (hfirst : first ≠ '\n')
    (hlast : Opens [last]) (hentry : Opens entry ∧ Calm entry) (hrest : Calm rest) :
    Calm (first :: newLine (level + 1) ++ entry ++ rest ++ newLine level ++ [last]) := by
  have hfeed : last ≠ '\n' := by
    rintro rfl
    obtain ⟨c, t, hc, -⟩ := hlast
    exact List.cons_ne_nil c t hc.symm
  have hclosed : Calm (newLine level ++ [last]) :=
    calm_newLine level hlast (calm_of_notMem (by simp [hfeed.symm]))
  have hcalm : Calm (entry ++ (rest ++ (newLine level ++ [last]))) :=
    hentry.2.append (hrest.append hclosed)
  have hline := calm_newLine (level + 1) (hentry.1.append _) hcalm
  simpa only [List.append_assoc, List.cons_append] using hline.cons hfirst

lemma calm_comma (level : Nat) {entry rest : Text} (hentry : Opens entry ∧ Calm entry)
    (hrest : Calm rest) : Calm (',' :: newLine level ++ entry ++ rest) := by
  have hline := calm_newLine level (hentry.1.append rest) (hentry.2.append hrest)
  have hcomma : Calm (',' :: (newLine level ++ (entry ++ rest))) := hline.cons (by decide)
  simpa only [List.append_assoc, List.cons_append] using hcomma

lemma calm_field (key : Text) {value : Text} (hvalue : Calm value) :
    Opens (printString key ++ ": " ++ value) ∧ Calm (printString key ++ ": " ++ value) := by
  have hkey : Calm (printString key) := calm_of_notMem (newline_notMem_printString key)
  have hcolon : Calm ": " := calm_of_notMem (by decide)
  exact ⟨((opens_printString key).append _).append _, (hkey.append hcolon).append hvalue⟩

mutual

theorem calm_printAt (level : Nat) : (value : Json) → Calm (printAt level value)
  | .null => calm_of_notMem (s := "null") (by decide)
  | .bool true => calm_of_notMem (s := "true") (by decide)
  | .bool false => calm_of_notMem (s := "false") (by decide)
  | .number n => calm_of_notMem (newline_notMem_printNumber n)
  | .string s => calm_of_notMem (newline_notMem_printString s)
  | .array [] => calm_of_notMem (s := "[]") (by decide)
  | .array (item :: items) => by
    have hitem := calm_printAt (level + 1) item
    have hitems := calm_printItems (level + 1) items
    exact calm_brackets level (by decide) (opens_cons (by decide) (by decide) [])
      ⟨opens_printAt (level + 1) item, hitem⟩ hitems
  | .object [] => calm_of_notMem (s := "\x7b\x7d") (by decide)
  | .object ((key, value) :: fields) => by
    have hvalue := calm_printAt (level + 1) value
    have hfields := calm_printFields (level + 1) fields
    have hbody := calm_brackets level (by decide : '{' ≠ '\n')
      (opens_cons (by decide) (by decide) [] : Opens ['}']) (calm_field key hvalue) hfields
    simpa only [printAt, List.append_assoc, List.cons_append] using hbody

theorem calm_printItems (level : Nat) : (items : List Json) → Calm (printItems level items)
  | [] => trivial
  | item :: items => by
    have hitem := calm_printAt level item
    have hitems := calm_printItems level items
    exact calm_comma level ⟨opens_printAt level item, hitem⟩ hitems

theorem calm_printFields (level : Nat) :
    (fields : List (Text × Json)) → Calm (printFields level fields)
  | [] => trivial
  | (key, value) :: fields => by
    have hvalue := calm_printAt level value
    have hfields := calm_printFields level fields
    have hentry := calm_comma level (calm_field key hvalue) hfields
    simpa only [printFields, List.append_assoc, List.cons_append] using hentry

end

/-- No line of a printed value is a sentinel. -/
theorem ofText_eq_plain_of_print (value : Json) :
    ∀ line ∈ Text.splitOn '\n' (print value), Line.ofText line = .plain :=
  ofText_eq_plain_of_calm (opens_printAt 0 value) (calm_printAt 0 value)

lemma exists_of_print_object (fields : Fields) :
    ∃ t, print (.object fields) = '{' :: (t ++ ['}']) := by
  cases fields with
  | nil => exact ⟨[], rfl⟩
  | cons field fields =>
    refine ⟨newLine 1 ++ printString field.1 ++ ": " ++ printAt 1 field.2 ++
      printFields 1 fields ++ newLine 0, ?_⟩
    simp only [print, printAt, List.append_assoc, List.cons_append]

end Json

end BlockAudit
