import BlockAudit.Json.Reader
import Mathlib.Tactic.SplitIfs

/-!
# JSON readers, put together from small ones

The readers of JSON look at the first character of a text and go on behind it. Each of them is equal to
one that is put together from small readers: one character, a choice by the first character, one reader
after another, and a loop that the characters of a string and the members of a list share. A property of
every reader is then shown for the small ones and for the ways of putting them together.
-/

namespace BlockAudit

namespace Json

variable {α β : Type}

/-- Reads one character with a meaning. -/
def oneChar (meaning : Char → Option α) : Text → Option (α × Text)
  | [] => none
  | c :: rest => (meaning c).map (·, rest)

/-- Reads on behind the character `d` when it stands there. -/
def onHead (d : Char) (next otherwise : Text → Option (α × Text)) : Text → Option (α × Text)
  | [] => otherwise []
  | c :: rest => if c = d then next rest else otherwise (c :: rest)

/-- Reads on behind the first result. -/
def andThen (read : Text → Option (α × Text)) (next : α → Text → Option (β × Text))
    (s : Text) : Option (β × Text) :=
  (read s).bind fun (v, rest) => next v rest

/-- Reads on behind a word. -/
def behind (word : Text) (next : Text → Option (α × Text)) (s : Text) : Option (α × Text) :=
  (Text.after? word s).bind next

/-- Reads on behind white space. -/
def spaced (next : Text → Option (α × Text)) (s : Text) : Option (α × Text) := next (skipSpace s)

/-- Answers without reading, if there is an answer. -/
def answer (v : Option α) (s : Text) : Option (α × Text) := v.map (·, s)

/-- Reads one thing after another, up to the step that answers with nothing. -/
def repeated (step : Text → Option (Option α × Text)) (fuel : Nat) (s : Text) :
    Option (List α × Text) :=
  match fuel with
  | 0 => none
  | fuel + 1 => do
    match ← step s with
    | (none, rest) => some ([], rest)
    | (some v, rest) =>
      let (vs, rest) ← repeated step fuel rest
      return (v :: vs, rest)

/-! ### Strings -/

lemma hex4?_eq : hex4? =
    andThen (oneChar hexDigit?) fun a => andThen (oneChar hexDigit?) fun b =>
      andThen (oneChar hexDigit?) fun c => andThen (oneChar hexDigit?) fun d =>
        answer (some (((a * 16 + b) * 16 + c) * 16 + d)) := by
  funext s
  rcases s with _ | ⟨a, _ | ⟨b, _ | ⟨c, _ | ⟨d, rest⟩⟩⟩⟩
  · rfl
  · cases ha : hexDigit? a <;> simp [hex4?, andThen, oneChar, ha]
  · cases ha : hexDigit? a <;> cases hb : hexDigit? b <;> simp [hex4?, andThen, oneChar, ha, hb]
  · cases ha : hexDigit? a <;> cases hb : hexDigit? b <;> cases hc : hexDigit? c <;>
      simp [hex4?, andThen, oneChar, ha, hb, hc]
  · cases ha : hexDigit? a <;> cases hb : hexDigit? b <;> cases hc : hexDigit? c <;>
      cases hd : hexDigit? d <;> simp [hex4?, andThen, oneChar, answer, ha, hb, hc, hd]

/-- The character of a code unit behind `\u`. Behind the first half of a pair the second one is read. -/
def codeUnit? : Text → Option (Char × Text) :=
  andThen hex4? fun n =>
    if isHighSurrogate n then
      behind ['\\', 'u'] (andThen hex4? fun m =>
        answer (if isLowSurrogate m then
          some (Char.ofNat (0x10000 + (n - 0xD800) * 0x400 + (m - 0xDC00))) else none))
    else answer (if isLowSurrogate n then none else some (Char.ofNat n))

/-- A character that stands for itself. -/
def plain? (c : Char) : Option Char := if c.toNat < 0x20 then none else some c

/-- One character of a string. -/
def stringChar? : Text → Option (Char × Text) :=
  onHead '\\' (onHead 'u' codeUnit? (oneChar escaped?)) (oneChar plain?)

/-- One character of a string, or its closing quote. -/
def stringStep? : Text → Option (Option Char × Text) :=
  onHead '"' (answer (some none)) (andThen stringChar? fun c => answer (some (some c)))

lemma stringTail?_unit (fuel : Nat) (s : Text) :
    stringTail? (fuel + 1) ('\\' :: 'u' :: s) =
      (codeUnit? s).bind fun (d, rest) =>
        (stringTail? fuel rest).bind fun (tail, rest) => some (d :: tail, rest) := by
  rw [stringTail?, if_neg (by decide), if_pos rfl, codeUnit?, andThen]
  split
  · next heq =>
    obtain ⟨-, rfl⟩ := List.cons.inj heq
    cases hex4? s with
    | none => rfl
    | some unit =>
      obtain ⟨n, rest⟩ := unit
      dsimp only [Option.bind_eq_bind, Option.bind_some]
      -- the first half of a pair is nothing without a second escape right behind it
      by_cases hhigh : isHighSurrogate n = true
      · rw [if_pos hhigh, if_pos hhigh, behind]
        split
        · next rest =>
          have hafter : Text.after? ['\\', 'u'] ('\\' :: 'u' :: rest) = some rest := rfl
          rw [hafter, Option.bind_some, andThen]
          cases hex4? rest with
          | none => rfl
          | some pair =>
            obtain ⟨m, rest⟩ := pair
            dsimp only [Option.bind_some]
            by_cases hlow : isLowSurrogate m = true
            · rw [if_pos hlow, if_pos hlow, answer, Option.map_some, Option.bind_some]
              dsimp only [Option.pure_def]
            · rw [if_neg hlow, if_neg hlow]
              rfl
        · next hother =>
          cases hafter : Text.after? ['\\', 'u'] rest with
          | none => rfl
          | some behind => exact absurd (Text.after?_eq_some_iff.1 hafter) (hother behind)
      · rw [if_neg hhigh, if_neg hhigh]
        by_cases hlow : isLowSurrogate n = true
        · rw [if_pos hlow, if_pos hlow]
          rfl
        · rw [if_neg hlow, if_neg hlow]
          rfl
  · next hother heq => exact absurd (List.cons.inj heq).1.symm hother
  · next heq => exact absurd heq (by simp)

lemma stringTail?_cons {c : Char} (hc : c ≠ '"') (fuel : Nat) (s : Text) :
    stringTail? (fuel + 1) (c :: s) =
      (stringChar? (c :: s)).bind fun (d, rest) =>
        (stringTail? fuel rest).bind fun (tail, rest) => some (d :: tail, rest) := by
  rw [stringChar?, onHead]
  by_cases hescape : c = '\\'
  · subst hescape
    rw [if_pos rfl]
    rcases s with _ | ⟨e, s⟩
    · rfl
    · rw [onHead]
      by_cases he : e = 'u'
      · subst he
        rw [if_pos rfl, stringTail?_unit]
      · rw [if_neg he, stringTail?, if_neg hc, if_pos rfl]
        split
        · next heq => exact absurd (List.cons.inj heq).1 he
        · next heq =>
          obtain ⟨rfl, rfl⟩ := List.cons.inj heq
          rfl
        · next heq => exact absurd heq (by simp)
  · rw [if_neg hescape, stringTail?, if_neg hc, if_neg hescape, oneChar, plain?]
    by_cases hlow : c.toNat < 0x20
    · rw [if_pos hlow, if_pos hlow]
      rfl
    · rw [if_neg hlow, if_neg hlow]
      rfl

lemma stringTail?_eq (fuel : Nat) (s : Text) : stringTail? fuel s = repeated stringStep? fuel s := by
  induction fuel generalizing s with
  | zero => rfl
  | succ fuel ih =>
    cases s with
    | nil => rfl
    | cons c s =>
      rw [repeated, stringStep?, onHead]
      by_cases hc : c = '"'
      · rw [if_pos hc, stringTail?, if_pos hc]
        rfl
      · rw [if_neg hc, stringTail?_cons hc, andThen]
        cases stringChar? (c :: s) with
        | none => rfl
        | some first =>
          obtain ⟨d, rest⟩ := first
          dsimp only [Option.bind_some]
          rw [ih]
          rfl

/-! ### Numbers -/

lemma exponent?_eq : exponent? =
    onHead '-' (andThen digits? fun digits => answer (some (-(digitsValue digits : Int))))
      (onHead '+' (andThen digits? fun digits => answer (some (digitsValue digits : Int)))
        (andThen digits? fun digits => answer (some (digitsValue digits : Int)))) := by
  funext s
  rcases s with _ | ⟨c, s⟩
  · rfl
  · rw [onHead]
    by_cases hminus : c = '-'
    · subst hminus
      rw [if_pos rfl, exponent?, andThen]
      cases digits? s <;> rfl
    · rw [if_neg hminus, onHead]
      by_cases hplus : c = '+'
      · subst hplus
        rw [if_pos rfl, exponent?, andThen]
        cases digits? s <;> rfl
      · have hdigits : exponent? (c :: s) = (digits? (c :: s)).map fun (digits, rest) =>
            ((digitsValue digits : Int), rest) := by
          rw [exponent?]
          · simpa using hminus
          · simpa using hplus
        rw [if_neg hplus, hdigits, andThen]
        cases digits? (c :: s) <;> rfl

/-- A number whose exponent is read behind its letter. -/
def withExponent? (negative : Bool) (whole fraction : Text) : Text → Option (NumberLiteral × Text) :=
  andThen exponent? fun e => answer (some ⟨negative, whole, fraction, some e⟩)

/-- A number behind its fraction. -/
def exponentPart? (negative : Bool) (whole fraction : Text) : Text → Option (NumberLiteral × Text) :=
  onHead 'e' (withExponent? negative whole fraction)
    (onHead 'E' (withExponent? negative whole fraction)
      (answer (some ⟨negative, whole, fraction, none⟩)))

/-- A number behind its sign. -/
def unsigned? (negative : Bool) : Text → Option (NumberLiteral × Text) :=
  andThen digits? fun whole =>
    if whole.head? = some '0' ∧ whole.length ≠ 1 then fun _ => none
    else onHead '.' (andThen digits? (exponentPart? negative whole)) (exponentPart? negative whole [])

lemma exponentPart?_eq (negative : Bool) (whole fraction s : Text) :
    exponentPart? negative whole fraction s = do
      let (exponent, s) ← match s with
        | 'e' :: rest | 'E' :: rest => (exponent? rest).map fun (e, rest) => (some e, rest)
        | _ => some (none, s)
      return (⟨negative, whole, fraction, exponent⟩, s) := by
  split
  · next rest =>
    rw [exponentPart?, onHead, if_pos rfl, withExponent?, andThen]
    cases exponent? rest <;> rfl
  · next rest =>
    rw [exponentPart?, onHead, if_neg (by decide), onHead, if_pos rfl, withExponent?, andThen]
    cases exponent? rest <;> rfl
  · next hlower hupper =>
    rcases s with _ | ⟨c, s⟩
    · rfl
    · have hlower : c ≠ 'e' := fun hc => hlower s (by rw [hc])
      have hupper : c ≠ 'E' := fun hc => hupper s (by rw [hc])
      rw [exponentPart?, onHead, if_neg hlower, onHead, if_neg hupper]
      rfl

lemma unsigned?_eq (negative : Bool) (s : Text) :
    unsigned? negative s = do
      let (whole, s) ← digits? s
      if whole.head? = some '0' ∧ whole.length ≠ 1 then none
      let (fraction, s) ← match s with
        | '.' :: rest => digits? rest
        | _ => some ([], s)
      let (exponent, s) ← match s with
        | 'e' :: rest | 'E' :: rest => (exponent? rest).map fun (e, rest) => (some e, rest)
        | _ => some (none, s)
      return (⟨negative, whole, fraction, exponent⟩, s) := by
  -- the parts that may be missing are read by a match on the first character of the rest
  rw [unsigned?, andThen]
  cases digits? s with
  | none => rfl
  | some first =>
    obtain ⟨whole, rest⟩ := first
    dsimp only [Option.bind_eq_bind, Option.bind_some]
    by_cases hzero : whole.head? = some '0' ∧ whole.length ≠ 1
    · rw [if_pos hzero, if_pos hzero]
      rfl
    · rw [if_neg hzero, if_neg hzero]
      split
      · next rest =>
        rw [onHead, if_pos rfl, andThen]
        cases digits? rest with
        | none => rfl
        | some second =>
          obtain ⟨fraction, rest⟩ := second
          exact exponentPart?_eq negative whole fraction rest
      · next hpoint =>
        rcases rest with _ | ⟨c, rest⟩
        · exact exponentPart?_eq negative whole [] []
        · have hpoint : c ≠ '.' := fun hc => hpoint rest (by rw [hc])
          rw [onHead, if_neg hpoint]
          exact exponentPart?_eq negative whole [] (c :: rest)

lemma numberLiteral?_eq : numberLiteral? = onHead '-' (unsigned? true) (unsigned? false) := by
  funext s
  rcases s with _ | ⟨c, s⟩
  · rfl
  · rw [onHead]
    by_cases hminus : c = '-'
    · subst hminus
      rw [if_pos rfl, unsigned?_eq]
      rfl
    · rw [if_neg hminus, unsigned?_eq]
      unfold numberLiteral?
      split
      next negative rest hsign =>
        split at hsign
        · next heq => exact absurd (List.cons.inj heq).1 hminus
        · obtain ⟨rfl, rfl⟩ := Prod.mk.inj hsign
          rfl

/-! ### Lists -/

/-- A member of a list behind its comma, or the closing bracket. -/
def commaStep? (close : Char) (read : Text → Option (α × Text)) :
    Text → Option (Option α × Text) :=
  spaced (onHead close (answer (some none))
    (onHead ',' (spaced (andThen read fun member => answer (some (some member)))) fun _ => none))

lemma commaTail?_eq (close : Char) (read : Text → Option (α × Text)) (fuel : Nat) (s : Text) :
    commaTail? close read fuel s = repeated (commaStep? close read) fuel s := by
  induction fuel generalizing s with
  | zero => rfl
  | succ fuel ih =>
    rw [commaTail?, repeated, commaStep?, spaced]
    cases skipSpace s with
    | nil => rfl
    | cons c rest =>
      dsimp only
      rw [onHead]
      by_cases hclose : c = close
      · rw [if_pos hclose, if_pos hclose]
        rfl
      · rw [if_neg hclose, if_neg hclose, onHead]
        by_cases hcomma : c = ','
        · rw [if_pos hcomma, if_pos hcomma, spaced, andThen]
          cases read (skipSpace rest) with
          | none => rfl
          | some first =>
            obtain ⟨member, rest⟩ := first
            dsimp only [Option.bind_some, Option.bind_eq_bind]
            rw [ih]
            rfl
        · rw [if_neg hcomma, if_neg hcomma]
          rfl

lemma fieldAt?_eq {κ : Type} (key : Text → Option (κ × Text)) (read : Text → Option (α × Text)) :
    fieldAt? key read =
      andThen key fun key => spaced (onHead ':' (spaced (andThen read fun value =>
        answer (some (key, value)))) fun _ => none) := by
  funext s
  rw [fieldAt?, andThen]
  cases key s with
  | none => rfl
  | some first =>
    obtain ⟨key, rest⟩ := first
    dsimp only [Option.bind_some, Option.bind_eq_bind]
    rw [spaced]
    split
    · next rest hrest =>
      rw [hrest, onHead, if_pos rfl, spaced, andThen]
      rfl
    · next hcolon =>
      cases hrest : skipSpace rest with
      | nil => rfl
      | cons c rest =>
        have hc : c ≠ ':' := fun hc => hcolon rest (by rw [hrest, hc])
        rw [onHead, if_neg hc]

/-! ### Values -/

/-- A string behind its opening quote. -/
def stringBody? (s : Text) : Option (Text × Text) := stringTail? (s.length + 1) s

/-- The items of an array behind its opening bracket. -/
def itemsAt? : (depth : Nat) → Text → Option (List Json × Text)
  | 0 => fun _ => none
  | depth + 1 => commaList? ']' (valueAt? depth)

/-- The fields of an object behind its opening bracket. -/
def fieldsAt? : (depth : Nat) → Text → Option (List (Text × Json) × Text)
  | 0 => fun _ => none
  | depth + 1 => commaList? '}' (fieldAt? stringAt? (valueAt? depth))

lemma stringAt?_eq : stringAt? = onHead '"' stringBody? fun _ => none := by
  funext s
  rcases s with _ | ⟨c, s⟩
  · rfl
  · rw [onHead]
    by_cases hc : c = '"'
    · subst hc
      rfl
    · rw [if_neg hc, stringAt?]
      simpa using hc

lemma valueAt?_eq (depth : Nat) : valueAt? depth =
    (onHead '"' (andThen stringBody? fun text => answer (some (.string text))) <|
      onHead '[' (andThen (itemsAt? depth) fun items => answer (some (.array items))) <|
      onHead '{' (andThen (fieldsAt? depth) fun fields => answer (some (.object (mergeFields fields)))) <|
      onHead 't' (behind "rue" (answer (some (.bool true)))) <|
      onHead 'f' (behind "alse" (answer (some (.bool false)))) <|
      onHead 'n' (behind "ull" (answer (some .null))) <|
      andThen numberLiteral? fun literal => answer (literal.value?.map .number)) := by
  funext s
  rcases s with _ | ⟨c, s⟩
  · cases depth <;> rfl
  · rw [onHead]
    by_cases hquote : c = '"'
    · subst hquote
      rw [if_pos rfl, valueAt?, andThen, stringAt?_eq, onHead, if_pos rfl]
      cases stringBody? s <;> rfl
    rw [if_neg hquote, onHead]
    by_cases hitems : c = '['
    · subst hitems
      rw [if_pos rfl, andThen]
      cases depth with
      | zero => rfl
      | succ depth =>
        rw [valueAt?, itemsAt?]
        cases commaList? ']' (valueAt? depth) s <;> rfl
    rw [if_neg hitems, onHead]
    by_cases hfields : c = '{'
    · subst hfields
      rw [if_pos rfl, andThen]
      cases depth with
      | zero => rfl
      | succ depth =>
        rw [valueAt?, fieldsAt?]
        cases commaList? '}' (fieldAt? stringAt? (valueAt? depth)) s <;> rfl
    rw [if_neg hfields, onHead]
    by_cases htrue : c = 't'
    · subst htrue
      rw [if_pos rfl, behind]
      have hword : Text.after? "true" ('t' :: s) = Text.after? "rue" s := rfl
      rw [valueAt?, hword]
      cases Text.after? "rue" s <;> rfl
    rw [if_neg htrue, onHead]
    by_cases hfalse : c = 'f'
    · subst hfalse
      rw [if_pos rfl, behind]
      have hword : Text.after? "false" ('f' :: s) = Text.after? "alse" s := rfl
      rw [valueAt?, hword]
      cases Text.after? "alse" s <;> rfl
    rw [if_neg hfalse, onHead]
    by_cases hnull : c = 'n'
    · subst hnull
      rw [if_pos rfl, behind]
      have hword : Text.after? "null" ('n' :: s) = Text.after? "ull" s := rfl
      rw [valueAt?, hword]
      cases Text.after? "ull" s <;> rfl
    rw [if_neg hnull, andThen, valueAt?]
    · cases numberLiteral? (c :: s) with
      | none => rfl
      | some number =>
        obtain ⟨literal, rest⟩ := number
        dsimp only [Option.bind_some, Option.bind_eq_bind]
        cases literal.value? <;> rfl
    all_goals simp_all

end Json

end BlockAudit
