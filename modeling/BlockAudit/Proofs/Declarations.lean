import BlockAudit.Proofs.Lines
import BlockAudit.Proofs.Php
import BlockAudit.Rule

/-!
# What a source declares

The words of a source and the functions that it defines are found between quotes: neither a word nor
the definition of a function has a quote in it.
-/

namespace BlockAudit

/-! ### Scans up to a barrier -/

namespace Pattern

variable {α : Type} {p : Pattern α} {d : Char}

/-- The pattern never gets past the character `d`. -/
structure Barrier (p : Pattern α) (d : Char) : Prop where
  nil : ∀ before, p before [] = none
  stops : ∀ before x y, p before (x ++ d :: y) = (p before x).map fun r => (r.1, r.2 ++ d :: y)
  behind : ∀ s, p (some d) s = p none s

lemma scan_behind (hd : Barrier p d) (s : Text) : p.scan (some d) s = p.scan none s := by
  cases s with
  | nil => rw [scan, scan]
  | cons c s => rw [scan, scan, hd.behind]

lemma scan_barrier (hd : Barrier p d) (before : Option Char) (x y : Text) :
    p.scan before (x ++ d :: y) = p.scan before x ++ .gap d :: p.scan none y := by
  induction hn : x.length using Nat.strong_induction_on generalizing before x with
  | _ n ih =>
    cases x with
    | nil =>
      have hnone := hd.stops before [] y
      rw [hd.nil, Option.map_none, List.nil_append] at hnone
      have hgap : p.scan before (d :: y) = .gap d :: p.scan none y := by
        rw [scan, hnone, scan_behind hd]
      have hempty : p.scan before [] = [] := by rw [scan]
      rw [List.nil_append, hgap, hempty, List.nil_append]
    | cons c x =>
      have hstops := hd.stops before (c :: x) y
      rw [List.cons_append] at hstops
      simp only [List.length_cons] at hn
      rw [List.cons_append, scan, scan, hstops]
      cases hread : p before (c :: x) with
      | none => exact congrArg (_ :: ·) (ih x.length (by omega) (some c) x rfl)
      | some result =>
        obtain ⟨value, rest⟩ := result
        simp only [Option.map_some, List.length_append, List.length_cons]
        by_cases hrest : rest.length ≤ x.length
        · have hlonger : rest.length + (y.length + 1) ≤ x.length + (y.length + 1) := by omega
          have hmatch : (c :: (x ++ d :: y)).take
              (x.length + (y.length + 1) + 1 - (rest.length + (y.length + 1))) =
              (c :: x).take (x.length + 1 - rest.length) := by
            have hcount : x.length + (y.length + 1) + 1 - (rest.length + (y.length + 1)) =
                x.length + 1 - rest.length := by omega
            rw [hcount, ← List.cons_append, List.take_append_of_le_length]
            simp only [List.length_cons]
            omega
          rw [if_pos hrest, if_pos hlonger, hmatch, ih rest.length (by omega) _ rest rfl]
          rfl
        · have hlonger : ¬rest.length + (y.length + 1) ≤ x.length + (y.length + 1) := by omega
          rw [if_neg hrest, if_neg hlonger]
          exact congrArg (_ :: ·) (ih x.length (by omega) (some c) x rfl)

lemma hits_barrier (hd : Barrier p d) (x y : Text) :
    p.hits (x ++ d :: y) = p.hits x ++ p.hits y := by
  simp only [hits, scan_barrier hd, List.filterMap_append]
  rfl

end Pattern

/-! ### Functions -/

namespace Php

open Reader

/-- The keyword and the white space behind it. -/
def functionKeyword : Reader := seq [word "function", blanks1]

/-- The name of a function. -/
def functionName : Reader := seq [one isNameStart, many isNameChar]

/-- The bracket that opens the parameters. -/
def functionBracket : Reader := seq [blanks, word "("]

lemma functionDefinition_eq (before : Option Char) (s : Text) : functionDefinition before s =
    if Text.atBoundary before then
      (functionKeyword s).bind fun s => (functionName s).bind fun rest =>
        (functionBracket rest).bind fun after => some (s.take (s.length - rest.length), after)
    else none := rfl

lemma isNameChar_of_isQuote {q : Char} (hq : isQuote q = true) :
    isNameStart q = false ∧ isNameChar q = false := by
  rcases of_decide_eq_true hq with rfl | rfl <;> decide

lemma atBoundary_of_isQuote {q : Char} (hq : isQuote q = true) :
    Text.atBoundary (some q) = true := by
  rcases of_decide_eq_true hq with rfl | rfl <;> decide

lemma stops_functionKeyword {q : Char} (hq : isQuote q = true) : Stops functionKeyword q := by
  have hblank := isBlank_of_isQuote hq
  refine stops_seq ?_
  simp only [List.forall_mem_cons, List.not_mem_nil, IsEmpty.forall_iff, implies_true, and_true]
  refine ⟨stops_word_of_isQuote hq (by decide), stops_seq ?_⟩
  simp only [List.forall_mem_cons, List.not_mem_nil, IsEmpty.forall_iff, implies_true, and_true]
  exact ⟨stops_one hblank, stops_many hblank⟩

lemma stops_functionName {q : Char} (hq : isQuote q = true) : Stops functionName q := by
  obtain ⟨hstart, hchar⟩ := isNameChar_of_isQuote hq
  refine stops_seq ?_
  simp only [List.forall_mem_cons, List.not_mem_nil, IsEmpty.forall_iff, implies_true, and_true]
  exact ⟨stops_one hstart, stops_many hchar⟩

lemma stops_functionBracket {q : Char} (hq : isQuote q = true) : Stops functionBracket q := by
  refine stops_seq ?_
  simp only [List.forall_mem_cons, List.not_mem_nil, IsEmpty.forall_iff, implies_true, and_true]
  exact ⟨stops_many (isBlank_of_isQuote hq), stops_word_of_isQuote hq (by decide)⟩

/-- No definition of a function has a quote in it, and one may begin right behind a quote. -/
lemma barrier_functionDefinition {q : Char} (hq : isQuote q = true) :
    Pattern.Barrier functionDefinition q := by
  refine ⟨fun before => ?_, fun before x y => ?_, fun s => ?_⟩
  · rw [functionDefinition_eq]
    split <;> rfl
  · rw [functionDefinition_eq, functionDefinition_eq]
    cases Text.atBoundary before with
    | false => rfl
    | true =>
      simp only [↓reduceIte, stops_functionKeyword hq x y]
      cases functionKeyword x with
      | none => rfl
      | some s =>
        simp only [Option.map_some, Option.bind_some, stops_functionName hq s y]
        cases hrest : functionName s with
        | none => rfl
        | some rest =>
          simp only [Option.map_some, Option.bind_some, stops_functionBracket hq rest y]
          cases functionBracket rest with
          | none => rfl
          | some after =>
            have htake : (s ++ q :: y).take ((s ++ q :: y).length - (rest ++ q :: y).length) =
                s.take (s.length - rest.length) := by
              have hcount : (s ++ q :: y).length - (rest ++ q :: y).length =
                  s.length - rest.length := by
                simp only [List.length_append, List.length_cons]
                omega
              rw [hcount, List.take_append_of_le_length (Nat.sub_le _ _)]
            simp only [Option.map_some, Option.bind_some, htake]
  · rw [functionDefinition_eq, functionDefinition_eq, atBoundary_of_isQuote hq]
    rfl

lemma definedFunctions_barrier {q : Char} (hq : isQuote q = true) (x y : Text) :
    definedFunctions (x ++ q :: y) = definedFunctions x ++ definedFunctions y :=
  Pattern.hits_barrier (barrier_functionDefinition hq) x y

lemma definedFunctions_eq_nil {s : Text} (h : Text.occurs "function" s = false) :
    definedFunctions s = [] := by
  have hgaps (before : Option Char) :
      ∀ piece ∈ functionDefinition.scan before s, ∃ c, piece = .gap c := by
    induction s generalizing before with
    | nil =>
      rw [Pattern.scan]
      simp
    | cons c s ih =>
      rw [Text.occurs, Bool.or_eq_false_iff] at h
      have hnone : functionDefinition before (c :: s) = none := by
        have hword : word "function" (c :: s) = none := by
          simpa [Text.startsWith, word] using h.1
        rw [functionDefinition_eq, functionKeyword, seq_cons, hword]
        split <;> rfl
      rw [Pattern.scan, hnone]
      exact List.forall_mem_cons.2 ⟨⟨c, rfl⟩, ih h.2 (some c)⟩
  rw [definedFunctions, Pattern.hits, List.filterMap_eq_nil_iff]
  intro piece hpiece
  obtain ⟨c, rfl⟩ := hgaps none piece hpiece
  rfl

end Php

/-! ### Words -/

namespace Rule

/-- The character stands in no word. -/
def separates (c : Char) : Bool := !(Text.isAlphanumeric c || c == '_')

lemma sourceWords_eq (s : Text) :
    sourceWords s = (Text.splitWhere separates s).filter fun part => !part.isEmpty := rfl

lemma sourceWords_barrier {q : Char} (hq : separates q = true) (x y : Text) :
    sourceWords (x ++ q :: y) = sourceWords x ++ sourceWords y := by
  rw [sourceWords_eq, Text.splitWhere_barrier hq, List.filter_append]
  rfl

lemma occurs_of_mem_sourceWords {w s : Text} (h : w ∈ sourceWords s) : Text.occurs w s = true :=
  Text.occurs_iff.2 (Text.infix_of_mem_splitWhere (List.mem_of_mem_filter h))

variable {first second : Text} {xs ys : List Text}

lemma followedBy_append_right (xs : List Text) (h : followedBy first second ys = true) :
    followedBy first second (xs ++ ys) = true := by
  induction xs with
  | nil => exact h
  | cons a xs ih =>
    cases hrest : xs ++ ys with
    | nil =>
      rw [hrest] at ih
      exact absurd ih (by simp [followedBy])
    | cons b rest =>
      rw [hrest] at ih
      rw [List.cons_append, hrest, followedBy, ih, Bool.or_true]

lemma followedBy_append_left (ys : List Text) (h : followedBy first second xs = true) :
    followedBy first second (xs ++ ys) = true := by
  induction xs with
  | nil => simp [followedBy] at h
  | cons a xs ih =>
    cases xs with
    | nil => simp [followedBy] at h
    | cons b xs =>
      rw [followedBy, Bool.or_eq_true] at h
      rw [List.cons_append, List.cons_append, followedBy, Bool.or_eq_true]
      exact h.imp id ih

/-- Two words that follow one another do so up to a word between them and what follows, or from it
on. -/
lemma followedBy_cases {word : Text} (h : followedBy first second (xs ++ word :: ys) = true) :
    followedBy first second (xs ++ [word]) = true ∨ followedBy first second (word :: ys) = true := by
  induction xs with
  | nil => exact .inr h
  | cons a xs ih =>
    cases xs with
    | nil =>
      rw [List.cons_append, List.nil_append, followedBy, Bool.or_eq_true] at h
      rcases h with h | h
      · left
        simp only [List.cons_append, List.nil_append, followedBy, h, Bool.true_or]
      · exact .inr h
    | cons b xs =>
      rw [List.cons_append, List.cons_append, followedBy, Bool.or_eq_true] at h
      rw [List.cons_append, List.cons_append, followedBy, Bool.or_eq_true]
      rcases h with h | h
      · exact .inl (.inl h)
      · exact (ih h).imp .inr id

lemma followedBy_of_notMem (hxs : first ∉ xs) (h : followedBy first second (xs ++ ys) = true) :
    followedBy first second ys = true := by
  induction xs with
  | nil => exact h
  | cons a xs ih =>
    have ha : (a == first) = false := by
      rw [beq_eq_false_iff_ne]
      exact fun heq => hxs (by simp [heq])
    refine ih (fun hmem => hxs (List.mem_cons_of_mem a hmem)) ?_
    cases hrest : xs ++ ys with
    | nil =>
      rw [List.cons_append, hrest] at h
      simp [followedBy] at h
    | cons b rest =>
      rwa [List.cons_append, hrest, followedBy, ha, Bool.false_and, Bool.false_or] at h

end Rule

end BlockAudit
