import BlockAudit.Pattern

/-!
# Forms of words in scripts

A script's leading comments, and the opening of a function expression that is called at once.
-/

namespace BlockAudit

namespace Script

open Reader

/-- The source after all white space, line comments and block comments at its start. A comment that
is not ended takes everything. -/
def skipComments (source : Text) : Text :=
  match _h : Text.trimStart source with
  | '/' :: '/' :: rest =>
    match _h' : Text.cut? ['\n'] rest with
    | some (_, tail) => skipComments tail
    | none => []
  | '/' :: '*' :: rest =>
    match _h' : Text.cut? ['*', '/'] rest with
    | some (_, tail) => skipComments tail
    | none => []
  | code => code
termination_by source.length
decreasing_by
  all_goals
    have hlen := Text.length_trimStart_le source
    have hcut := congrArg List.length (Text.eq_append_of_cut? _h')
    rw [_h] at hlen
    simp only [List.length_append, List.length_cons] at hlen hcut
    omega

/-- The word `function`, maybe a name, and the bracket that opens the parameters. -/
def functionHead : Reader :=
  seq [word "function", wordEnd, many fun c => Text.isBlank c || Text.isWordChar c || c == '$',
    word "("]

/-- The opening of a function expression that is called at once: a function or an arrow function
without parameters in brackets, asynchronous or not, or a function after an operator. -/
def callOpening : Reader :=
  either (seq [word "(", blanks, maybe (seq [word "async", blanks1]), functionHead])
    (either
      (seq [word "(", blanks, maybe (seq [word "async", blanks]), word "(", blanks, word ")", blanks,
        word "=>"])
      (seq [one fun c => c == '!' || c == '+' || c == '~', blanks, functionHead]))

/-- The script begins with a function expression that is called at once. -/
def isWrapped (source : Text) : Bool := (callOpening (skipComments source)).isSome

end Script

end BlockAudit
