import BlockAudit.Text.Basic
import Mathlib.Data.List.DropRight
import Mathlib.Data.List.TakeWhile

/-!
# Trimmed texts

Trimming takes white space from the two ends of a text and nothing else. A text that does not equal
its own trim is longer than it, and trimming again changes nothing.
-/

namespace BlockAudit

namespace Text

lemma trim_prefix_trimStart (s : Text) : trim s <+: trimStart s := List.rdropWhile_prefix _ _

lemma trim_sublist (s : Text) : (trim s).Sublist s :=
  (trim_prefix_trimStart s).sublist.trans (List.dropWhile_sublist _)

lemma length_trim_le (s : Text) : (trim s).length ≤ s.length := (trim_sublist s).length_le

lemma length_trim_lt {s : Text} (h : trim s ≠ s) : (trim s).length < s.length := by
  by_contra hle
  exact h ((trim_sublist s).eq_of_length_le (by omega))

lemma trimStart_cons {c : Char} (hc : isBlank c = false) (s : Text) :
    trimStart (c :: s) = c :: s := by
  rw [trimStart, List.dropWhile_cons_of_neg (by simp [hc])]

lemma trimStart_cons_blank {c : Char} (hc : isBlank c = true) (s : Text) :
    trimStart (c :: s) = trimStart s := List.dropWhile_cons_of_pos hc

lemma visible_trimStart (s : Text) : ∀ c ∈ (trimStart s).head?, isBlank c = false := by
  intro c hc
  have hhead := List.head?_dropWhile_not isBlank s
  rwa [← trimStart, Option.mem_def.1 hc] at hhead

lemma trim_cons_blank {c : Char} (hc : isBlank c = true) (s : Text) :
    trim (c :: s) = trim s := by rw [trim, trim, trimStart_cons_blank hc]

lemma trim_append_left {x : Text} (h : ∀ c ∈ x, isBlank c = true) (s : Text) :
    trim (x ++ s) = trim s := by
  induction x with
  | nil => rfl
  | cons c x ih =>
    rw [List.cons_append, trim_cons_blank (h c List.mem_cons_self)]
    exact ih fun d hd => h d (List.mem_cons_of_mem c hd)

lemma trimStart_append {s : Text} (hs : trimStart s ≠ []) (t : Text) :
    trimStart (s ++ t) = trimStart s ++ t := by
  have hempty : (s.dropWhile isBlank).isEmpty = false := List.isEmpty_eq_false_iff.2 hs
  simp [trimStart, List.dropWhile_append, hempty]

lemma trimStart_mono {s t : Text} (h : s <+: t) : trimStart s <+: trimStart t := by
  obtain ⟨r, rfl⟩ := h
  by_cases hs : trimStart s = []
  · rw [hs]
    exact List.nil_prefix
  · rw [trimStart_append hs]
    exact List.prefix_append _ _

lemma trimEnd_concat_blank {c : Char} (hc : isBlank c = true) (s : Text) :
    trimEnd (s ++ [c]) = trimEnd s := List.rdropWhile_concat_pos _ _ _ hc

lemma trimEnd_concat {c : Char} (hc : isBlank c = false) (s : Text) :
    trimEnd (s ++ [c]) = s ++ [c] := List.rdropWhile_concat_neg _ _ _ (by simp [hc])

lemma trim_concat_blank {c : Char} (hc : isBlank c = true) (s : Text) :
    trim (s ++ [c]) = trim s := by
  by_cases hs : trimStart s = []
  · have hblank : ∀ d ∈ s, isBlank d = true := List.dropWhile_eq_nil_iff.1 hs
    have happend : trimStart (s ++ [c]) = [] := by
      refine List.dropWhile_eq_nil_iff.2 fun d hd => ?_
      rcases List.mem_append.1 hd with hd | hd
      · exact hblank d hd
      · rwa [List.mem_singleton.1 hd]
    rw [trim, trim, hs, happend]
  · rw [trim, trim, trimStart_append hs, trimEnd_concat_blank hc]

/-- A text with a visible character at each end is its own trim. -/
lemma trim_eq_self {c d : Char} {s t : Text} (hc : isBlank c = false) (hd : isBlank d = false)
    (h : c :: s = t ++ [d]) : trim (c :: s) = c :: s := by
  rw [trim, trimStart_cons hc, h, trimEnd_concat hd]

lemma isBlank_of_trim_cons {c : Char} {s : Text} (h : trim (c :: s) = c :: s) :
    isBlank c = false := by
  by_contra hc
  have hlength := length_trim_le s
  rw [← trim_cons_blank (by simpa using hc), h, List.length_cons] at hlength
  omega

lemma isBlank_of_trim_concat {c : Char} {s : Text} (h : trim (s ++ [c]) = s ++ [c]) :
    isBlank c = false := by
  by_contra hc
  have hlength := length_trim_le s
  rw [← trim_concat_blank (by simpa using hc), h, List.length_append, List.length_singleton]
    at hlength
  omega

/-- What stands behind a visible character of a trimmed text ends as the text does. -/
lemma trim_of_append_cons {c : Char} {x t : Text} (h : trim (x ++ c :: t) = x ++ c :: t)
    (hc : isBlank c = false) : trim (c :: t) = c :: t := by
  obtain ⟨init, d, hlast⟩ : ∃ init d, c :: t = init ++ [d] :=
    ⟨_, _, (List.dropLast_append_getLast (List.cons_ne_nil c t)).symm⟩
  rw [hlast, ← List.append_assoc] at h
  exact trim_eq_self hc (isBlank_of_trim_concat h) hlast

/-- Only a text of white space is trimmed to nothing. -/
lemma trim_eq_nil_iff {s : Text} : trim s = [] ↔ ∀ c ∈ s, isBlank c = true := by
  have hall : trimStart s = [] ↔ ∀ c ∈ s, isBlank c = true := List.dropWhile_eq_nil_iff
  rw [← hall]
  constructor
  · intro h
    by_contra hne
    obtain ⟨c, t, hct⟩ := List.exists_cons_of_ne_nil hne
    have hblank : isBlank c = true := List.rdropWhile_eq_nil_iff.1 h c (by simp [hct])
    have hvisible : isBlank c = false := visible_trimStart s c (by rw [hct]; rfl)
    rw [hblank] at hvisible
    exact Bool.noConfusion hvisible
  · intro h
    rw [trim, h]
    rfl

/-- What trimming takes away. -/
lemma exists_trim (s : Text) : ∃ x y, (∀ c ∈ x, isBlank c = true) ∧ (∀ c ∈ y, isBlank c = true) ∧
    s = x ++ (trim s ++ y) := by
  refine ⟨s.takeWhile isBlank, (trimStart s).rtakeWhile isBlank, List.all_eq_true.1 List.all_takeWhile,
    fun c hc => List.mem_rtakeWhile_imp hc, ?_⟩
  have hend : trim s ++ (trimStart s).rtakeWhile isBlank = trimStart s :=
    List.rdropWhile_append_rtakeWhile
  rw [hend]
  exact List.takeWhile_append_dropWhile.symm

/-- What a character of white space at either end does not change, trimming does not change. -/
lemma apply_trim {α : Type} {f : Text → α} (hcons : ∀ c s, isBlank c = true → f (c :: s) = f s)
    (hconcat : ∀ c s, isBlank c = true → f (s ++ [c]) = f s) (s : Text) : f (trim s) = f s := by
  have hfront {x : Text} (hx : ∀ c ∈ x, isBlank c = true) (t : Text) : f (x ++ t) = f t := by
    induction x with
    | nil => rfl
    | cons c x ih =>
      obtain ⟨hc, hx⟩ := List.forall_mem_cons.1 hx
      rw [List.cons_append, hcons c _ hc, ih hx]
  have hend {y : Text} (hy : ∀ c ∈ y, isBlank c = true) (t : Text) : f (t ++ y) = f t := by
    induction y using List.reverseRecOn with
    | nil => rw [List.append_nil]
    | append_singleton y c ih =>
      obtain ⟨hy, hc⟩ := List.forall_mem_append.1 hy
      rw [← List.append_assoc, hconcat c _ (hc c List.mem_cons_self), ih hy]
  obtain ⟨x, y, hx, hy, hs⟩ := exists_trim s
  calc f (trim s) = f (trim s ++ y) := (hend hy _).symm
    _ = f (x ++ (trim s ++ y)) := (hfront hx _).symm
    _ = f s := by rw [← hs]

lemma trim_trim (s : Text) : trim (trim s) = trim s := by
  have hstart : trimStart (trim s) = trim s := by
    refine List.dropWhile_eq_self_iff.2 fun hpos hblank => ?_
    obtain ⟨r, hr⟩ := trim_prefix_trimStart s
    have hlong : 0 < (trimStart s).length := hpos.trans_le (trim_prefix_trimStart s).length_le
    have hhead : (trim s)[0] = (trimStart s)[0] := by
      simp only [← hr, List.getElem_append_left hpos]
    rw [hhead] at hblank
    have hkeep : trimStart (trimStart s) = trimStart s := List.dropWhile_idempotent _ _
    exact List.dropWhile_eq_self_iff.1 hkeep hlong hblank
  rw [trim, hstart]
  exact List.rdropWhile_idempotent _ _

end Text

end BlockAudit
