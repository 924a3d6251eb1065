import BlockAudit.Proofs.CompliantBlocks
import BlockAudit.Proofs.LocalViolations

/-!
# Places of declarations

The check of a configuration cuts the source into words and scans it for the definitions of functions. A
scan goes on behind a match and skips the places inside it. No definition of a function begins inside
another one, so the scan finds them all, and a class is declared just where its name is the next word after
`class`.
-/

namespace BlockAudit

/-! ### Scans that skip nothing -/

/-- The value of a match. -/
def Piece.value? {α : Type} : Piece α → Option α
  | .gap _ => none
  | .hit value => some value

namespace Pattern

variable {α : Type} {p : Pattern α}

/-- The values that the pattern has at the places of a text, those inside of matches included. -/
def everywhere (p : Pattern α) (before : Option Char) : Text → List α
  | [] => []
  | c :: s => ((p before (c :: s)).map Prod.fst).toList ++ everywhere p (some c) s

/-- A match takes something, and no match begins inside it. -/
structure Separate (p : Pattern α) : Prop where
  takes : ∀ before s value rest, p before s = some (value, rest) → ∃ m, m ≠ [] ∧ s = m ++ rest
  inside : ∀ before u v rest value, u ≠ [] → v ≠ [] →
    p before (u ++ (v ++ rest)) = some (value, rest) → p u.getLast? (v ++ rest) = none

lemma getLast?_cons_or (c : Char) (x : Text) (before : Option Char) :
    (c :: x).getLast?.or before = x.getLast?.or (some c) := by
  cases x <;> simp [List.getLast?_cons]

lemma mem_everywhere {value : α} {before : Option Char} {s : Text} :
    value ∈ p.everywhere before s ↔
      ∃ x y rest, s = x ++ y ∧ y ≠ [] ∧ p (x.getLast?.or before) y = some (value, rest) := by
  induction s generalizing before with
  | nil => simp [everywhere]
  | cons c s ih =>
    rw [everywhere, List.mem_append, ih]
    constructor
    · rintro (hhere | ⟨x, y, rest, rfl, hy, hread⟩)
      · obtain ⟨⟨value, rest⟩, hread, rfl⟩ := Option.map_eq_some_iff.1 (Option.mem_toList.1 hhere)
        exact ⟨[], c :: s, rest, rfl, by simp, hread⟩
      · exact ⟨c :: x, y, rest, rfl, hy, by rwa [getLast?_cons_or]⟩
    · rintro ⟨x, y, rest, heq, hy, hread⟩
      cases x with
      | nil =>
        rw [List.nil_append] at heq
        rw [← heq] at hread
        exact .inl (Option.mem_toList.2 (Option.map_eq_some_iff.2 ⟨_, hread, rfl⟩))
      | cons d x =>
        obtain ⟨rfl, rfl⟩ := List.cons.inj heq
        rw [getLast?_cons_or] at hread
        exact .inr ⟨x, y, rest, rfl, hy, hread⟩

/-- Places at which the pattern fails have no value. -/
lemma everywhere_append {u s : Text} {before : Option Char}
    (h : ∀ x y, u = x ++ y → y ≠ [] → p (x.getLast?.or before) (y ++ s) = none) :
    p.everywhere before (u ++ s) = p.everywhere (u.getLast?.or before) s := by
  induction u generalizing before with
  | nil => rfl
  | cons c u ih =>
    have hhere : p before (c :: (u ++ s)) = none := h [] (c :: u) rfl (by simp)
    rw [List.cons_append, everywhere, hhere, getLast?_cons_or]
    refine ih fun x y hu hy => ?_
    have hrest := h (c :: x) y (by rw [hu, List.cons_append]) hy
    rwa [getLast?_cons_or] at hrest

lemma scan_eq_hit {c : Char} {u rest : Text} {value : α} {before : Option Char}
    (h : p before (c :: (u ++ rest)) = some (value, rest)) :
    p.scan before (c :: (u ++ rest)) = .hit value :: p.scan (c :: u).getLast? rest := by
  have hmatch : (c :: (u ++ rest)).take ((u ++ rest).length + 1 - rest.length) = c :: u := by
    have hcount : (u ++ rest).length + 1 - rest.length = (c :: u).length := by
      simp only [List.length_append, List.length_cons]
      omega
    rw [hcount, ← List.cons_append, List.take_left]
  have hshorter : rest.length ≤ (u ++ rest).length := by simp
  rw [scan, h]
  dsimp only
  rw [if_pos hshorter, hmatch]

/-- The places inside a match have no value. -/
lemma everywhere_behind (hp : Separate p) {c : Char} {u rest : Text} {value : α}
    {before : Option Char} (h : p before (c :: (u ++ rest)) = some (value, rest)) :
    p.everywhere (some c) (u ++ rest) = p.everywhere (c :: u).getLast? rest := by
  have hlast (x : Text) : (c :: x).getLast? = x.getLast?.or (some c) := by
    rw [← getLast?_cons_or c x none, Option.or_none]
  rw [hlast]
  refine everywhere_append fun x y hu hy => ?_
  rw [← hlast]
  apply hp.inside before (c :: x) y rest value (by simp) hy
  rw [← h, hu, List.cons_append, List.append_assoc]

lemma filterMap_scan (hp : Separate p) (before : Option Char) (s : Text) :
    (p.scan before s).filterMap Piece.value? = p.everywhere before s := by
  induction hn : s.length using Nat.strong_induction_on generalizing before s with
  | _ n ih =>
    cases s with
    | nil => rw [scan, everywhere, List.filterMap_nil]
    | cons c s =>
      rw [List.length_cons] at hn
      cases hread : p before (c :: s) with
      | none =>
        rw [scan, everywhere, hread]
        exact ih s.length (by omega) (some c) s rfl
      | some result =>
        obtain ⟨value, rest⟩ := result
        obtain ⟨m, hm, hs⟩ := hp.takes before _ value rest hread
        obtain ⟨d, u, rfl⟩ := List.exists_cons_of_ne_nil hm
        rw [List.cons_append] at hs
        obtain ⟨rfl, rfl⟩ := List.cons.inj hs
        rw [List.length_append] at hn
        have hrest := ih rest.length (by omega) (c :: u).getLast? rest rfl
        rw [scan_eq_hit hread, everywhere, hread, everywhere_behind hp hread, ← hrest]
        rfl

/-- A pattern whose matches do not overlap is scanned for without a loss. -/
lemma hits_eq_everywhere (hp : Separate p) (s : Text) : p.hits s = p.everywhere none s := by
  rw [← filterMap_scan hp]
  rfl

end Pattern

/-! ### Definitions of functions -/

namespace Php

open Reader

lemma toNat_lt_of_isNameChar {d : Char} (h : isNameChar d = true) : d.toNat < 128 := by
  have hrange : ((65 ≤ d.toNat ∧ d.toNat ≤ 90) ∨ (97 ≤ d.toNat ∧ d.toNat ≤ 122) ∨ d = '_') ∨
      48 ≤ d.toNat ∧ d.toNat ≤ 57 := by
    simpa [isNameChar, isNameStart, Text.isAsciiLetter, Text.isAsciiDigit, Char.le_def,
      UInt32.le_iff_toNat_le, or_assoc] using h
  rcases hrange with (hupper | hlower | rfl) | hdigit
  · omega
  · omega
  · decide
  · omega

lemma isNameChar_spec {d : Char} (h : isNameChar d = true) :
    Text.isBlank d = false ∧ Text.isWordChar d = true := by
  have hascii : ∀ n < 128, isNameChar (Char.ofNat n) = true →
      Text.isBlank (Char.ofNat n) = false ∧ Text.isWordChar (Char.ofNat n) = true := by
    decide +kernel
  exact Text.of_ascii (P := fun d => isNameChar d = true →
    Text.isBlank d = false ∧ Text.isWordChar d = true) hascii (toNat_lt_of_isNameChar h) h

lemma isNameChar_of_isBlank {d : Char} (h : Text.isBlank d = true) : isNameChar d = false := by
  rw [Bool.eq_false_iff]
  intro hchar
  rw [(isNameChar_spec hchar).1] at h
  exact Bool.noConfusion h

/-- The text can be the name of a function. -/
def IsName (name : Text) : Prop :=
  ∃ d more, name = d :: more ∧ isNameStart d = true ∧ ∀ e ∈ more, isNameChar e = true

lemma isNameChar_of_isNameStart {d : Char} (h : isNameStart d = true) : isNameChar d = true := by
  rw [isNameChar, h, Bool.true_or]

lemma IsName.chars {name : Text} (h : IsName name) : ∀ d ∈ name, isNameChar d = true := by
  obtain ⟨d, more, rfl, hd, hmore⟩ := h
  exact List.forall_mem_cons.2 ⟨isNameChar_of_isNameStart hd, hmore⟩

/-- A definition of a function, up to the bracket that opens its parameters. -/
def definition (ws name ws' : Text) : Text := "function" ++ (ws ++ (name ++ (ws' ++ ['('])))

lemma definition_append (ws name ws' rest : Text) :
    definition ws name ws' ++ rest = "function" ++ (ws ++ (name ++ (ws' ++ '(' :: rest))) := by
  unfold definition
  simp only [List.append_assoc, List.cons_append, List.nil_append]

/-- A run of characters that is read greedily ends where another character follows. -/
lemma many_append {q : Char → Bool} {x y : Text} (hx : ∀ d ∈ x, q d = true)
    (hy : ∀ d ∈ y.head?, q d = false) : many q (x ++ y) = some y := by
  unfold many
  rw [List.dropWhile_append_of_pos hx]
  cases y with
  | nil => rfl
  | cons d y => rw [List.dropWhile_cons_of_neg (by simp [hy d rfl])]

lemma functionKeyword_eq_some {s t : Text} (h : functionKeyword s = some t) :
    ∃ ws, ws ≠ [] ∧ IsBlanks ws ∧ s = "function" ++ (ws ++ t) := by
  unfold functionKeyword blanks1 at h
  simp only [seq_cons, seq_nil, Option.bind_eq_some_iff, Option.some.injEq] at h
  obtain ⟨s₁, hword, s₂, ⟨s₃, hone, s₄, hblanks, rfl⟩, rfl⟩ := h
  obtain ⟨d, hd, rfl⟩ := one_eq_some_iff.1 hone
  obtain ⟨ws, hws, rfl⟩ := blanks_eq_some hblanks
  exact ⟨d :: ws, by simp, List.forall_mem_cons.2 ⟨hd, hws⟩, word_eq_some_iff.1 hword⟩

lemma functionName_eq_some {s t : Text} (h : functionName s = some t) :
    ∃ name, IsName name ∧ s = name ++ t := by
  unfold functionName at h
  simp only [seq_cons, seq_nil, Option.bind_eq_some_iff, Option.some.injEq] at h
  obtain ⟨s₁, hone, s₂, hmany, rfl⟩ := h
  obtain ⟨d, hd, rfl⟩ := one_eq_some_iff.1 hone
  obtain ⟨more, hmore, rfl⟩ := many_eq_some hmany
  exact ⟨d :: more, ⟨d, more, rfl, hd, hmore⟩, rfl⟩

lemma functionBracket_eq_some {s t : Text} (h : functionBracket s = some t) :
    ∃ ws, IsBlanks ws ∧ s = ws ++ '(' :: t := by
  unfold functionBracket at h
  simp only [seq_cons, seq_nil, Option.bind_eq_some_iff, Option.some.injEq] at h
  obtain ⟨s₁, hblanks, s₂, hword, rfl⟩ := h
  obtain ⟨ws, hws, rfl⟩ := blanks_eq_some hblanks
  exact ⟨ws, hws, by rw [word_eq_some_iff.1 hword]; rfl⟩

lemma functionDefinition_eq_some {before : Option Char} {s name rest : Text}
    (h : functionDefinition before s = some (name, rest)) :
    Text.atBoundary before = true ∧ IsName name ∧
      ∃ ws ws', ws ≠ [] ∧ IsBlanks ws ∧ IsBlanks ws' ∧ s = definition ws name ws' ++ rest := by
  rw [functionDefinition_eq] at h
  split at h
  · next hbefore =>
    simp only [Option.bind_eq_some_iff, Option.some.injEq, Prod.mk.injEq] at h
    obtain ⟨s₁, hkeyword, s₂, hname, s₃, hbracket, htake, rfl⟩ := h
    obtain ⟨ws, hne, hws, rfl⟩ := functionKeyword_eq_some hkeyword
    obtain ⟨name', hname', rfl⟩ := functionName_eq_some hname
    obtain ⟨ws', hws', rfl⟩ := functionBracket_eq_some hbracket
    rw [List.length_append, Nat.add_sub_cancel, List.take_left] at htake
    subst htake
    exact ⟨hbefore, hname', ws, ws', hne, hws, hws', (definition_append ..).symm⟩
  · exact absurd h (by simp)

/-- Neither white space nor the bracket goes on with the name. -/
lemma isNameChar_behind_name {ws : Text} (hws : IsBlanks ws) (rest : Text) :
    ∀ d ∈ (ws ++ '(' :: rest).head?, isNameChar d = false := by
  intro d hd
  cases ws with
  | nil =>
    obtain rfl := Option.some.inj hd
    decide
  | cons e ws =>
    obtain rfl := Option.some.inj hd
    exact isNameChar_of_isBlank (hws e List.mem_cons_self)

/-- White space and names are read greedily, and nothing is lost by that. -/
lemma functionDefinition_definition {before : Option Char} {ws name ws' : Text}
    (hbefore : Text.atBoundary before = true) (hname : IsName name) (hne : ws ≠ [])
    (hws : IsBlanks ws) (hws' : IsBlanks ws') (rest : Text) :
    functionDefinition before (definition ws name ws' ++ rest) = some (name, rest) := by
  obtain ⟨d, more, rfl, hd, hmore⟩ := hname
  obtain ⟨e, blank, rfl⟩ := List.exists_cons_of_ne_nil hne
  obtain ⟨he, hblank⟩ := List.forall_mem_cons.1 hws
  have hdblank := (isNameChar_spec (isNameChar_of_isNameStart hd)).1
  have hend := isNameChar_behind_name hws' rest
  have hkeyword : functionKeyword ("function" ++ (e :: blank ++ (d :: more ++ (ws' ++ '(' :: rest)))) =
      some (d :: more ++ (ws' ++ '(' :: rest)) := by
    unfold functionKeyword blanks1
    rw [seq_cons, word_append, Option.bind_some, seq_cons, seq_cons, List.cons_append, one, if_pos he,
      Option.bind_some, seq_cons, blanks, many_append hblank (fun f hf => by
        obtain rfl := Option.some.inj hf
        exact hdblank)]
    rfl
  have hread : functionName (d :: more ++ (ws' ++ '(' :: rest)) = some (ws' ++ '(' :: rest) := by
    unfold functionName
    rw [seq_cons, List.cons_append, one, if_pos hd, Option.bind_some, seq_cons, many_append hmore hend]
    rfl
  have hbracket : functionBracket (ws' ++ '(' :: rest) = some rest := by
    unfold functionBracket
    rw [seq_cons, blanks_append hws', blanks_cons (by decide)]
    rfl
  rw [definition_append, functionDefinition_eq, if_pos hbefore, hkeyword, Option.bind_some, hread,
    Option.bind_some, hbracket, Option.bind_some, List.length_append, Nat.add_sub_cancel,
    List.take_left]

/-- The letter with which a definition begins stands in another one only where its name may begin. -/
lemma cases_of_definition_eq {ws name ws' u v : Text} (hname : IsName name) (hws : IsBlanks ws)
    (hws' : IsBlanks ws') (hu : u ≠ [])
    (h : definition ws name ws' = u ++ 'f' :: v) (hboundary : Text.atBoundary u.getLast? = true) :
    'f' :: v = name ++ (ws' ++ ['(']) := by
  have hword : definition ws name ws' = ("function" ++ ws) ++ (name ++ (ws' ++ ['('])) := by
    unfold definition
    simp only [List.append_assoc]
  rw [hword] at h
  rcases List.append_eq_append_iff.1 h.symm with ⟨x, hx, hv⟩ | ⟨x, hx, hv⟩
  · cases x with
    | nil => exact hv
    | cons d x =>
      obtain ⟨rfl, -⟩ := List.cons.inj hv
      obtain ⟨e, u, rfl⟩ := List.exists_cons_of_ne_nil hu
      -- the only letter of this kind in front of the name is the first one
      have hmem : 'f' ∈ ("unction" ++ ws : Text) := by
        have htail : ("unction" ++ ws : Text) = u ++ 'f' :: x := (List.cons.inj hx).2
        rw [htail]
        simp
      rcases List.mem_append.1 hmem with hkeyword | hblank
      · exact absurd hkeyword (by decide)
      · exact absurd hblank (hws.notMem (by decide))
  · cases x with
    | nil => rw [hv, List.nil_append]
    | cons d x =>
      exfalso
      rcases List.append_eq_append_iff.1 hv.symm with ⟨y, hy, -⟩ | ⟨y, hy, hbracket⟩
      · -- in front of the letter there is a part of the name
        obtain ⟨init, last, hlast⟩ : ∃ init last, d :: x = init ++ [last] :=
          ⟨_, _, (List.dropLast_append_getLast (List.cons_ne_nil d x)).symm⟩
        have hchar : isNameChar last = true := by
          apply hname.chars
          rw [hy, hlast]
          simp
        rw [hx, hlast, ← List.append_assoc, List.getLast?_concat] at hboundary
        rw [Text.atBoundary, Option.any_some, (isNameChar_spec hchar).2] at hboundary
        exact Bool.noConfusion hboundary
      · have hmem : 'f' ∈ ws' ++ ['('] := by
          rw [hbracket]
          simp
        rcases List.mem_append.1 hmem with hblank | hlast
        · exact absurd hblank (hws'.notMem (by decide))
        · exact absurd hlast (by decide)

/-- No definition of a function begins at the name of another one: behind the name stands a bracket, and
behind the keyword another name. -/
lemma definition_ne_name {name ws' rest ws name₁ ws₁' rest₁ : Text} (hname : IsName name)
    (hws' : IsBlanks ws') (hne : ws ≠ []) (hws : IsBlanks ws) (hname₁ : IsName name₁) :
    name ++ (ws' ++ '(' :: rest) ≠ definition ws name₁ ws₁' ++ rest₁ := by
  intro heq
  rw [definition_append] at heq
  obtain ⟨d, more, rfl, hd, -⟩ := hname₁
  have hkeyword : ∀ e ∈ ("function" : Text), isNameChar e = true := List.all_eq_true.1 (by decide)
  have hblank : ∀ e ∈ (ws ++ (d :: more ++ (ws₁' ++ '(' :: rest₁))).head?, isNameChar e = false := by
    obtain ⟨e, blank, rfl⟩ := List.exists_cons_of_ne_nil hne
    intro f hf
    obtain rfl := Option.some.inj hf
    exact isNameChar_of_isBlank (hws _ List.mem_cons_self)
  have hname := many_append hname.chars (isNameChar_behind_name hws' rest)
  rw [heq, many_append hkeyword hblank] at hname
  have hbracket := congrArg blanks (Option.some.inj hname)
  rw [blanks_append hws, blanks_append hws', blanks_cons (by decide), List.cons_append,
    blanks_cons (isNameChar_spec (isNameChar_of_isNameStart hd)).1] at hbracket
  obtain rfl := (List.cons.inj (Option.some.inj hbracket)).1
  exact absurd hd (by decide)

lemma separate_functionDefinition : Pattern.Separate functionDefinition where
  takes before s name rest h := by
    obtain ⟨-, -, ws, ws', -, -, -, rfl⟩ := functionDefinition_eq_some h
    exact ⟨_, List.cons_ne_nil _ _, rfl⟩
  inside before u v rest name hu hv h := by
    obtain ⟨-, hname, ws, ws', -, hws, hws', heq⟩ := functionDefinition_eq_some h
    rw [← List.append_assoc] at heq
    have hmatch := (List.append_cancel_right heq).symm
    obtain ⟨d, v, rfl⟩ := List.exists_cons_of_ne_nil hv
    cases hread : functionDefinition u.getLast? (d :: v ++ rest) with
    | none => rfl
    | some result =>
      exfalso
      obtain ⟨name₁, rest₁⟩ := result
      obtain ⟨hboundary, hname₁, ws₁, ws₁', hne₁, hws₁, -, hinside⟩ := functionDefinition_eq_some hread
      obtain rfl : d = 'f' := (List.cons.inj hinside).1
      have hplace := cases_of_definition_eq hname hws hws' hu hmatch hboundary
      rw [hplace, List.append_assoc, List.append_assoc, List.singleton_append] at hinside
      exact definition_ne_name hname hws' hne₁ hws₁ hname₁ hinside

/-- The source has the definition of a function of the given name: at a word boundary the keyword, white
space, the name, maybe white space, and a bracket. -/
def DefinesFunction (source name : Text) : Prop :=
  ∃ x ws ws' y, source = x ++ ("function" ++ (ws ++ (name ++ (ws' ++ '(' :: y)))) ∧
    Text.atBoundary x.getLast? = true ∧ ws ≠ [] ∧ IsBlanks ws ∧ IsBlanks ws'

lemma mem_definedFunctions {source name : Text} (hname : IsName name) :
    name ∈ definedFunctions source ↔ DefinesFunction source name := by
  rw [definedFunctions, Pattern.hits_eq_everywhere separate_functionDefinition,
    Pattern.mem_everywhere]
  constructor
  · rintro ⟨x, y, rest, rfl, -, hread⟩
    rw [Option.or_none] at hread
    obtain ⟨hboundary, -, ws, ws', hne, hws, hws', rfl⟩ := functionDefinition_eq_some hread
    exact ⟨x, ws, ws', rest, by rw [definition_append], hboundary, hne, hws, hws'⟩
  · rintro ⟨x, ws, ws', y, rfl, hboundary, hne, hws, hws'⟩
    refine ⟨x, definition ws name ws' ++ y, y, by rw [definition_append], List.cons_ne_nil _ _, ?_⟩
    rw [Option.or_none]
    exact functionDefinition_definition hboundary hname hne hws hws' y

-- the name of a function can be the keyword itself
example : definedFunctions "function function( function function get_defaults(" =
    ["function", "get_defaults"] := by decide +kernel

lemma isName_functionName (method : ConfigMethod) : IsName method.functionName := by
  cases method <;> exact ⟨_, _, rfl, by decide, List.all_eq_true.1 (by decide)⟩

end Php

/-! ### Words that follow one another -/

namespace Rule

lemma followedBy_iff {first second : Text} {words : List Text} :
    followedBy first second words = true ↔ [first, second] <:+: words := by
  induction words with
  | nil => simp [followedBy]
  | cons a words ih =>
    cases words with
    | nil => simp [followedBy, List.infix_cons_iff]
    | cons d words =>
      rw [iff_comm, List.infix_cons_iff, List.cons_prefix_cons, List.cons_prefix_cons, followedBy,
        Bool.or_eq_true, ih, Bool.and_eq_true, beq_iff_eq, beq_iff_eq]
      simp [eq_comm]

/-- A word stands in a text with no other character of words before or behind it. -/
structure IsRun (x word y : Text) : Prop where
  visible : word ≠ []
  word : ∀ ch ∈ word, separates ch = false
  before : ∀ ch ∈ x.getLast?, separates ch = true
  after : ∀ ch ∈ y.head?, separates ch = true

lemma sourceWords_separator {d : Char} (hd : separates d = true) (s : Text) :
    sourceWords (d :: s) = sourceWords s := sourceWords_barrier hd [] s

lemma IsRun.sourceWords_eq {x word y : Text} (h : IsRun x word y) :
    sourceWords (x ++ (word ++ y)) = sourceWords x ++ word :: sourceWords y := by
  have hword := sourceWords_of_word h.visible h.word
  have hbehind : sourceWords (word ++ y) = word :: sourceWords y := by
    cases y with
    | nil =>
      rw [List.append_nil, hword]
      rfl
    | cons d y =>
      have hd := h.after d rfl
      rw [sourceWords_barrier hd, hword, sourceWords_separator hd]
      rfl
  rcases List.eq_nil_or_concat x with rfl | ⟨x, d, rfl⟩
  · exact hbehind
  · rw [List.concat_eq_append] at h ⊢
    have hd := h.before d List.getLast?_concat
    have hx : sourceWords (x ++ [d]) = sourceWords x := by
      rw [sourceWords_barrier hd]
      exact List.append_nil _
    rw [hx, List.append_assoc, List.singleton_append, sourceWords_barrier hd, hbehind]

/-- A text that begins with a character of words begins with a run of them. -/
lemma exists_isRun {d : Char} (hd : separates d = false) (s : Text) :
    ∃ word y, d :: s = word ++ y ∧ IsRun [] word y := by
  refine ⟨(d :: s).takeWhile (fun ch => !separates ch), (d :: s).dropWhile fun ch => !separates ch,
    List.takeWhile_append_dropWhile.symm, ?_, fun ch hch => ?_, by simp, fun ch hch => ?_⟩
  · simp [hd]
  · simpa using List.all_eq_true.1 List.all_takeWhile ch hch
  · have h := List.head?_dropWhile_not (fun ch => !separates ch) (d :: s)
    rw [Option.mem_def.1 hch] at h
    simpa using h

lemma sourceWords_eq_nil_iff {s : Text} :
    sourceWords s = [] ↔ ∀ ch ∈ s, separates ch = true := by
  induction s with
  | nil => simp [sourceWords, Text.runsOf, Text.splitWhere]
  | cons d s ih =>
    cases hd : separates d with
    | true => rw [sourceWords_separator hd, ih, List.forall_mem_cons, hd, eq_self, true_and]
    | false =>
      obtain ⟨word, y, heq, hrun⟩ := exists_isRun hd s
      have hwords := hrun.sourceWords_eq
      rw [List.nil_append, ← heq] at hwords
      rw [hwords, List.forall_mem_cons, hd]
      simp [sourceWords, Text.runsOf, Text.splitWhere]

/-- The first word of a text stands behind separators. -/
lemma exists_of_sourceWords_cons {s word : Text} {rest : List Text}
    (h : sourceWords s = word :: rest) :
    ∃ x y, s = x ++ (word ++ y) ∧ IsRun x word y ∧ sourceWords x = [] ∧ sourceWords y = rest := by
  induction s with
  | nil => exact absurd h.symm (List.cons_ne_nil _ _)
  | cons d s ih =>
    cases hd : separates d with
    | true =>
      rw [sourceWords_separator hd] at h
      obtain ⟨x, y, rfl, hrun, hx, hy⟩ := ih h
      refine ⟨d :: x, y, rfl, ⟨hrun.visible, hrun.word, fun ch hch => ?_, hrun.after⟩,
        by rw [sourceWords_separator hd, hx], hy⟩
      cases x with
      | nil =>
        obtain rfl := Option.some.inj hch
        exact hd
      | cons e x => exact hrun.before ch (by rwa [List.getLast?_cons_cons] at hch)
    | false =>
      obtain ⟨word', y, heq, hrun⟩ := exists_isRun hd s
      have hwords := hrun.sourceWords_eq
      rw [List.nil_append, ← heq, h] at hwords
      obtain ⟨rfl, rfl⟩ := List.cons.inj hwords
      exact ⟨[], y, heq, hrun, rfl, rfl⟩

/-- Every word of a text stands somewhere in it, behind the words before it. -/
lemma exists_of_sourceWords_append {s word : Text} {before after : List Text}
    (h : sourceWords s = before ++ word :: after) :
    ∃ x y, s = x ++ (word ++ y) ∧ IsRun x word y ∧ sourceWords y = after := by
  induction before generalizing s with
  | nil =>
    obtain ⟨x, y, hs, hrun, -, hy⟩ := exists_of_sourceWords_cons h
    exact ⟨x, y, hs, hrun, hy⟩
  | cons first before ih =>
    obtain ⟨x, y, rfl, hfirst, -, hy⟩ := exists_of_sourceWords_cons h
    obtain ⟨x', y', rfl, hrun, hy'⟩ := ih hy
    refine ⟨x ++ (first ++ x'), y', by simp only [List.append_assoc],
      ⟨hrun.visible, hrun.word, fun ch hch => ?_, hrun.after⟩, hy'⟩
    rcases List.eq_nil_or_concat x' with rfl | ⟨x', d, rfl⟩
    · -- the two words would be one
      obtain ⟨d, more, rfl⟩ := List.exists_cons_of_ne_nil hrun.visible
      have hd := hfirst.after d rfl
      rw [hrun.word d List.mem_cons_self] at hd
      exact Bool.noConfusion hd
    · rw [List.concat_eq_append, ← List.append_assoc, ← List.append_assoc, List.getLast?_concat] at hch
      apply hrun.before
      rwa [List.concat_eq_append, List.getLast?_concat]

/-- The source has the word `class` and, behind one or more separators, the name of a class as its next
word. -/
def DeclaresClassAt (source className : Text) : Prop :=
  ∃ x gap y, source = x ++ ("class" ++ (gap ++ (className ++ y))) ∧ gap ≠ [] ∧
    (∀ ch ∈ gap, separates ch = true) ∧ IsRun x "class" (gap ++ (className ++ y)) ∧
    IsRun (x ++ ("class" ++ gap)) className y

lemma declaresClass_iff {source className : Text} :
    declaresClass source className = true ↔ DeclaresClassAt source className := by
  rw [declaresClass, followedBy_iff]
  constructor
  · rintro ⟨before, after, h⟩
    rw [List.append_assoc] at h
    obtain ⟨x, rest, rfl, hclass, hrest⟩ := exists_of_sourceWords_append h.symm
    obtain ⟨gap, y, rfl, hname, hgap, -⟩ := exists_of_sourceWords_cons hrest
    have hne : gap ≠ [] := by
      rintro rfl
      obtain ⟨d, more, rfl⟩ := List.exists_cons_of_ne_nil hname.visible
      have hd := hclass.after d rfl
      rw [hname.word d List.mem_cons_self] at hd
      exact Bool.noConfusion hd
    refine ⟨x, gap, y, rfl, hne, sourceWords_eq_nil_iff.1 hgap, hclass,
      ⟨hname.visible, hname.word, fun ch hch => hname.before ch ?_, hname.after⟩⟩
    rwa [← List.append_assoc, List.getLast?_append_of_ne_nil _ hne] at hch
  · rintro ⟨x, gap, y, rfl, hne, hgap, hclass, hname⟩
    have hname' : IsRun gap className y :=
      ⟨hname.visible, hname.word, fun ch hch => hgap ch (List.mem_of_getLast? hch), hname.after⟩
    rw [hclass.sourceWords_eq, hname'.sourceWords_eq, sourceWords_eq_nil_iff.2 hgap]
    exact ⟨sourceWords x, sourceWords y, by simp⟩

end Rule

/-! ### The check of a configuration -/

/-- The rules that a configuration breaks, when a class of the given name is prescribed. -/
def Rule.brokenByConfig (source className : Text) : List Rule :=
  (if declaresClass source className then [] else [configClass]) ++
    (ConfigMethod.all.filter fun method =>
      !(Php.definedFunctions source).contains method.functionName).map configMethod

/-- The violations that are reported of a configuration. -/
def Rule.configViolations (source : Text) (name : BlockName) (c : Conventions) : List Violation :=
  (brokenByConfig source (name.configClass c)).map fun rule => rule.violation name c

lemma violations_config (b : Bundle) (c : Conventions) :
    (b.violations c).filter (fun v => v.file = .config) =
      Rule.configViolations b.config (b.name c) c := by
  have hrules : (Rule.all.filter fun rule => rule.file = .config) =
      Rule.configClass :: ConfigMethod.all.map Rule.configMethod := by decide
  have hmethods : ((ConfigMethod.all.map Rule.configMethod).filter fun rule => !rule.holds b c) =
      (ConfigMethod.all.filter fun method =>
        !(Php.definedFunctions b.config).contains method.functionName).map Rule.configMethod :=
    List.filter_map
  rw [filter_violations (fun rule => rule.file = .config) (fun _ _ => rfl), hrules,
    List.filter_cons, hmethods, Rule.configViolations, Rule.brokenByConfig]
  cases h : Rule.declaresClass b.config ((b.name c).configClass c) with
  | true => simp [Rule.holds, h]
  | false => simp [Rule.holds, h]

/-- A configuration is reported for its class exactly when there is no place where the class is declared, and
for a function exactly when there is no place where the function is defined: the scan for definitions finds
those at all places. -/
theorem config_reported_iff (source : Text) (name : BlockName) (c : Conventions) :
    let reported := (Rule.configViolations source name c).map Violation.code
    ("SSOT008".toList ∈ reported ↔ ¬ Rule.DeclaresClassAt source (name.configClass c)) ∧
    (∀ method : ConfigMethod, (Rule.configMethod method).code ∈ reported ↔
      ¬ Php.DefinesFunction source method.functionName) ∧
    Php.definedFunctions source = Php.functionDefinition.everywhere none source ∧
    ∀ b : Bundle, (b.violations c).filter (fun v => v.file = .config) =
      Rule.configViolations b.config (b.name c) c := by
  intro reported
  have hreported (rule : Rule) :
      rule.code ∈ reported ↔ rule ∈ Rule.brokenByConfig source (name.configClass c) :=
    Rule.code_mem_map
  have hcode : Rule.configClass.code = "SSOT008".toList := by decide +kernel
  refine ⟨?_, fun method => ?_, Pattern.hits_eq_everywhere Php.separate_functionDefinition source,
    fun b => violations_config b c⟩
  · rw [← hcode, hreported, ← Rule.declaresClass_iff, Rule.brokenByConfig, List.mem_append]
    cases Rule.declaresClass source (name.configClass c) <;> simp
  · have hmem : method ∈ ConfigMethod.all := by cases method <;> decide
    rw [hreported, ← Php.mem_definedFunctions (Php.isName_functionName method), Rule.brokenByConfig,
      List.mem_append]
    cases Rule.declaresClass source (name.configClass c) <;> simp [hmem]

end BlockAudit
