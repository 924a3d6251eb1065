/-!
# Text

A text is a list of characters. This module holds the vocabulary that every reader and every rule
of the library is written in: white space and trimming, a word at the start of a text or anywhere
in it, the first place where a word splits a text, and lines.
-/

namespace BlockAudit

/-- A text is read and compared character by character. -/
abbrev Text := List Char

instance : Coe String Text := ⟨String.toList⟩

namespace Text

/-- The Unicode property White_Space. -/
def isBlank (c : Char) : Bool :=
  let n := c.toNat
  (9 ≤ n && n ≤ 13) || n == 0x20 || n == 0x85 || n == 0xA0 || n == 0x1680 ||
    (0x2000 ≤ n && n ≤ 0x200A) || n == 0x2028 || n == 0x2029 || n == 0x202F || n == 0x205F ||
    n == 0x3000

/-- The text from its first character that is not white space. -/
def trimStart (s : Text) : Text := s.dropWhile isBlank

theorem length_trimStart_le (s : Text) : (trimStart s).length ≤ s.length :=
  (List.dropWhile_sublist _).length_le

/-- The text up to its last character that is not white space. -/
def trimEnd (s : Text) : Text := (s.reverse.dropWhile isBlank).reverse

/-- The text without the white space at its two ends. -/
def trim (s : Text) : Text := trimEnd (trimStart s)

/-- What follows `word` when the text starts with it. -/
def after? : (word s : Text) → Option Text
  | [], s => some s
  | _ :: _, [] => none
  | a :: word, c :: s => if a = c then after? word s else none

theorem after?_eq_some_iff {word s rest : Text} :
    after? word s = some rest ↔ s = word ++ rest := by
  induction word generalizing s with
  | nil => simp [after?]
  | cons a word ih =>
    cases s with
    | nil => simp [after?]
    | cons c s =>
      by_cases h : a = c
      · simp [after?, h, ih]
      · simp [after?, h, Ne.symm h]

/-- What precedes `word` when the text ends with it. -/
def before? (word s : Text) : Option Text :=
  (after? word.reverse s.reverse).map List.reverse

/-- The text starts with `word`. -/
def startsWith (word s : Text) : Bool := (after? word s).isSome

/-- The text has `word` somewhere in it. -/
def occurs (word : Text) : Text → Bool
  | [] => word.isEmpty
  | c :: s => startsWith word (c :: s) || occurs word s

theorem startsWith_iff {word s : Text} : startsWith word s = true ↔ word <+: s := by
  rw [startsWith, Option.isSome_iff_exists]
  constructor
  · rintro ⟨rest, h⟩
    exact ⟨rest, (after?_eq_some_iff.1 h).symm⟩
  · rintro ⟨rest, h⟩
    exact ⟨rest, after?_eq_some_iff.2 h.symm⟩

theorem occurs_iff {word s : Text} : occurs word s = true ↔ word <:+: s := by
  induction s with
  | nil => simp [occurs]
  | cons c s ih => rw [occurs, Bool.or_eq_true, startsWith_iff, ih, List.infix_cons_iff]

/-- The text before the first place where `word` stands, and the text after it. -/
def cut? (word : Text) : Text → Option (Text × Text)
  | [] => if word.isEmpty then some ([], []) else none
  | c :: s =>
    match after? word (c :: s) with
    | some rest => some ([], rest)
    | none => (cut? word s).map fun (before, rest) => (c :: before, rest)

theorem eq_append_of_cut? {word s before rest : Text} (h : cut? word s = some (before, rest)) :
    s = before ++ word ++ rest := by
  induction s generalizing before with
  | nil =>
    cases word with
    | nil => simp_all [cut?]
    | cons a word => simp [cut?] at h
  | cons c s ih =>
    rw [cut?] at h
    split at h
    · next r hr =>
      obtain ⟨rfl, rfl⟩ := by simpa using h
      simpa using after?_eq_some_iff.1 hr
    · obtain ⟨⟨b, r⟩, hb, he⟩ := Option.map_eq_some_iff.1 h
      obtain ⟨rfl, rfl⟩ := by simpa using he
      simp [ih hb]

/-- The texts between the characters with the property `p`; a text without one is its only part. -/
def splitWhere (p : Char → Bool) : Text → List Text
  | [] => [[]]
  | c :: s =>
    if p c then [] :: splitWhere p s
    else match splitWhere p s with
      | [] => [[c]]
      | part :: parts => (c :: part) :: parts

/-- The texts between the places where `c` stands. -/
def splitOn (c : Char) (s : Text) : List Text := splitWhere (· == c) s

/-- The maximal runs of characters with the property `p`, in order. -/
def runsOf (p : Char → Bool) (s : Text) : List Text :=
  (splitWhere (fun c => !p c) s).filter (fun part => !part.isEmpty)

/-- The parts joined with `sep` between every two of them. -/
def joinWith (sep : Text) (parts : List Text) : Text := (parts.intersperse sep).flatten

/-- The lines of a text, each with the line feed that ends it. -/
def fullLines : Text → List Text
  | [] => []
  | c :: s =>
    if c = '\n' then [c] :: fullLines s
    else match fullLines s with
      | [] => [[c]]
      | line :: lines => (c :: line) :: lines

theorem flatten_fullLines (s : Text) : (fullLines s).flatten = s := by
  induction s with
  | nil => rfl
  | cons c s ih =>
    rw [fullLines]
    split
    · simp [ih]
    · cases h : fullLines s with
      | nil => rw [h] at ih; simp_all
      | cons line lines => rw [h] at ih; simp_all

/-- A line without its ending: one line feed, and one carriage return before it. -/
def chomp (line : Text) : Text :=
  match before? ['\n'] line with
  | none => line
  | some body => (before? ['\r'] body).getD body

/-- The lines of a text without their endings. -/
def lines (s : Text) : List Text := (fullLines s).map chomp

/-- A number in decimal digits. -/
def ofNat (n : Nat) : Text := Nat.toDigits 10 n

/-- The digits of `n` to the given base, with zeros in front up to the given width. -/
def ofNatPadded (base width n : Nat) : Text :=
  let digits := Nat.toDigits base n
  List.replicate (width - digits.length) '0' ++ digits

/-- The UTF-8 bytes of a text. -/
def toUtf8 (s : Text) : ByteArray := (String.ofList s).toUTF8

/-- The text that the bytes spell in UTF-8, if they spell one. -/
def ofUtf8? (bytes : ByteArray) : Option Text := (String.fromUTF8? bytes).map String.toList

/-- The number of UTF-8 bytes of a text. -/
def byteLength (s : Text) : Nat := (s.map Char.utf8Size).foldl (· + ·) 0

end Text

end BlockAudit
