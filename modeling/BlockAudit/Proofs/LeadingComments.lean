import BlockAudit.Proofs.Unresolved
import BlockAudit.Proofs.Trim

/-!
# Comments at the start of a script

Whether a script is wrapped in a function is judged behind its leading comments. They are taken away one
after the other, with the white space in front of each, until the script begins with something else. What is
left does not depend on the comments in front of it.
-/

namespace BlockAudit

namespace Script

/-- The two kinds of comments. -/
inductive Comment
  | line
  | block

/-- What a comment begins with. -/
def Comment.opening : Comment → Text
  | line => ['/', '/']
  | block => ['/', '*']

/-- What ends a comment. -/
def Comment.closing : Comment → Text
  | line => ['\n']
  | block => ['*', '/']

/-- What stands behind the end of a comment; nothing if the comment is not ended. -/
def Comment.behind (kind : Comment) (s : Text) : Text :=
  ((Text.cut? kind.closing s).map Prod.snd).getD []

/-- The text begins neither with white space nor with a comment. -/
structure BeginsWithCode (s : Text) : Prop where
  visible : ∀ ch ∈ s.head?, Text.isBlank ch = false
  uncommented : ∀ kind : Comment, ¬ kind.opening <+: s

/-- Rounds of taking away white space and a comment, until there is no comment. -/
inductive Rounds : Nat → Text → Text → Prop
  | done {s : Text} : BeginsWithCode (Text.trimStart s) → Rounds 0 s (Text.trimStart s)
  | next {n : Nat} {s rest result : Text} (kind : Comment) :
      Text.trimStart s = kind.opening ++ rest → Rounds n (kind.behind rest) result →
      Rounds (n + 1) s result

/-- White space and ended comments. -/
inductive Leading : Text → Prop
  | nil : Leading []
  | blank {ch : Char} {s : Text} : Text.isBlank ch = true → Leading s → Leading (ch :: s)
  | comment (kind : Comment) {body s : Text} : ¬ kind.closing <:+: body → Leading s →
      Leading (kind.opening ++ (body ++ (kind.closing ++ s)))

/-- The result is what the source has behind white space and comments; nothing if one of them is not
ended. -/
inductive LeftBehind : Text → Text → Prop
  | code {lead result : Text} : Leading lead → BeginsWithCode result → LeftBehind (lead ++ result) result
  | unended {lead body : Text} (kind : Comment) : Leading lead → ¬ kind.closing <:+: body →
      LeftBehind (lead ++ (kind.opening ++ body)) []

/-! ### One round -/

lemma Comment.trimStart_opening (kind : Comment) (s : Text) :
    Text.trimStart (kind.opening ++ s) = kind.opening ++ s := by
  cases kind <;> exact Text.trimStart_cons (by decide) _

lemma Comment.opening_append_inj {kind kind' : Comment} {s t : Text}
    (h : kind.opening ++ s = kind'.opening ++ t) : kind = kind' ∧ s = t := by
  cases kind <;> cases kind' <;> simp_all [opening]

/-- Behind its white space a text begins with code or with a comment. -/
lemma beginsWithCode_or_comment (s : Text) : BeginsWithCode (Text.trimStart s) ∨
    ∃ (kind : Comment) (rest : Text), Text.trimStart s = kind.opening ++ rest := by
  by_cases h : ∃ kind : Comment, kind.opening <+: Text.trimStart s
  · obtain ⟨kind, rest, hrest⟩ := h
    exact .inr ⟨kind, rest, hrest.symm⟩
  · exact .inl ⟨Text.visible_trimStart s, not_exists.1 h⟩

lemma skipComments_code {s : Text} (h : BeginsWithCode (Text.trimStart s)) :
    skipComments s = Text.trimStart s := by
  rw [skipComments]
  split
  · next rest hline => exact absurd ⟨rest, hline.symm⟩ (h.uncommented .line)
  · next rest hblock => exact absurd ⟨rest, hblock.symm⟩ (h.uncommented .block)
  · rfl

lemma skipComments_eq_self {s : Text} (h : BeginsWithCode s) : skipComments s = s := by
  have htrim : Text.trimStart s = s := by
    cases s with
    | nil => rfl
    | cons ch s => exact Text.trimStart_cons (h.visible ch rfl) s
  have hcode : BeginsWithCode (Text.trimStart s) := htrim.symm ▸ h
  rw [skipComments_code hcode, htrim]

lemma beginsWithCode_nil : BeginsWithCode [] :=
  ⟨by simp, fun kind => by cases kind <;> simp [Comment.opening]⟩

lemma beginsWithCode_cons {ch : Char} (hch : Text.isBlank ch = false) (hslash : ch ≠ '/') (s : Text) :
    BeginsWithCode (ch :: s) where
  visible d hd := by rwa [← Option.some.inj hd]
  uncommented kind hopening := by
    cases kind <;> exact hslash (List.cons_prefix_cons.1 hopening).1.symm

lemma skipComments_nil : skipComments [] = [] := skipComments_eq_self beginsWithCode_nil

lemma skipComments_comment (kind : Comment) {s rest : Text}
    (h : Text.trimStart s = kind.opening ++ rest) : skipComments s = skipComments (kind.behind rest) := by
  have hbehind (kind' : Comment) (rest' : Text) (h' : Text.trimStart s = kind'.opening ++ rest') :
      kind'.behind rest' = kind.behind rest := by
    obtain ⟨rfl, rfl⟩ := Comment.opening_append_inj (h'.symm.trans h)
    rfl
  rw [skipComments]
  split
  · next rest' hline =>
    rw [← hbehind .line rest' hline, Comment.behind, Comment.closing]
    split
    · next before tail hcut => rw [hcut, Option.map_some, Option.getD_some]
    · next hcut => rw [hcut, Option.map_none, Option.getD_none, skipComments_nil]
  · next rest' hblock =>
    rw [← hbehind .block rest' hblock, Comment.behind, Comment.closing]
    split
    · next before tail hcut => rw [hcut, Option.map_some, Option.getD_some]
    · next hcut => rw [hcut, Option.map_none, Option.getD_none, skipComments_nil]
  · next hline hblock =>
    cases kind with
    | line => exact absurd h (hline rest)
    | block => exact absurd h (hblock rest)

lemma Comment.behind_of_unended {kind : Comment} {s : Text} (h : ¬ kind.closing <:+: s) :
    kind.behind s = [] := by
  have hcut : Text.cut? kind.closing s = none := by
    rw [← Option.not_isSome_iff_eq_none, Text.isSome_cut?, Text.occurs_iff]
    exact h
  rw [behind, hcut]
  rfl

lemma Comment.behind_closing {kind : Comment} {body : Text} (h : ¬ kind.closing <:+: body) (s : Text) :
    kind.behind (body ++ (kind.closing ++ s)) = s := by
  have hbody : Text.occurs kind.closing body = false := by
    rw [Bool.eq_false_iff, ne_eq, Text.occurs_iff]
    exact h
  have hcut : Text.cut? kind.closing (body ++ (kind.closing ++ s)) = some (body, s) := by
    cases kind with
    | line => exact Text.cut?_append_last (u := []) List.not_mem_nil hbody s
    | block => exact Text.cut?_append_last (u := ['*']) (by decide) hbody s
  rw [behind, hcut]
  rfl

lemma Comment.behind_cases (kind : Comment) (s : Text) :
    (∃ body, ¬ kind.closing <:+: body ∧ s = body ++ (kind.closing ++ kind.behind s)) ∨
      ¬ kind.closing <:+: s ∧ kind.behind s = [] := by
  cases hcut : Text.cut? kind.closing s with
  | none =>
    have hmissing := Text.isSome_cut? (w := kind.closing) s
    rw [hcut] at hmissing
    have hs : ¬ kind.closing <:+: s := by
      rw [← Text.occurs_iff, ← hmissing]
      exact Bool.noConfusion
    exact .inr ⟨hs, behind_of_unended hs⟩
  | some parts =>
    obtain ⟨body, rest⟩ := parts
    have hfirst := Text.FirstAt.of_cut? hcut
    have hbody : ¬ kind.closing <:+: body := by
      rw [← Text.occurs_iff, hfirst.occurs_eq_false (by cases kind <;> simp [closing])]
      exact Bool.noConfusion
    refine .inl ⟨body, hbody, ?_⟩
    rw [behind, hcut]
    exact hfirst.eq

/-! ### Leading comments do not count -/

lemma skipComments_congr {s t : Text} (h : Text.trimStart s = Text.trimStart t) :
    skipComments s = skipComments t := by
  rcases beginsWithCode_or_comment t with hcode | ⟨kind, rest, hcomment⟩
  · rw [skipComments_code hcode, ← h]
    rw [← h] at hcode
    exact skipComments_code hcode
  · rw [skipComments_comment kind hcomment, skipComments_comment kind (h.trans hcomment)]

lemma skipComments_append {lead : Text} (h : Leading lead) (s : Text) :
    skipComments (lead ++ s) = skipComments s := by
  induction h with
  | nil => rfl
  | blank hch _ ih =>
    rw [List.cons_append, skipComments_congr (Text.trimStart_cons_blank hch _), ih]
  | @comment kind body lead hbody _ ih =>
    have hsource : Text.trimStart (kind.opening ++ (body ++ (kind.closing ++ lead)) ++ s) =
        kind.opening ++ (body ++ (kind.closing ++ (lead ++ s))) := by
      simp only [List.append_assoc]
      exact kind.trimStart_opening _
    rw [skipComments_comment kind hsource, Comment.behind_closing hbody, ih]

/-! ### Rounds of the loop -/

lemma Comment.length_behind_le (kind : Comment) (s : Text) : (kind.behind s).length ≤ s.length := by
  rcases kind.behind_cases s with ⟨body, -, hs⟩ | ⟨-, hnil⟩
  · have hlength := congrArg List.length hs
    simp only [List.length_append] at hlength
    omega
  · rw [hnil]
    exact Nat.zero_le _

lemma exists_rounds (s : Text) : ∃ n result, 2 * n ≤ s.length ∧ Rounds n s result := by
  induction hlength : s.length using Nat.strong_induction_on generalizing s with
  | _ length ih =>
    rcases beginsWithCode_or_comment s with hcode | ⟨kind, rest, hcomment⟩
    · exact ⟨0, _, Nat.zero_le _, .done hcode⟩
    · -- every round takes away the two characters with which a comment begins
      have htwo : kind.opening.length = 2 := by cases kind <;> rfl
      have hrest := Text.length_trimStart_le s
      have hbehind := kind.length_behind_le rest
      rw [hcomment, List.length_append] at hrest
      obtain ⟨n, result, hn, hrounds⟩ := ih _ (by omega) (kind.behind rest) rfl
      exact ⟨n + 1, result, by omega, .next kind hcomment hrounds⟩

lemma Rounds.skipComments_eq {n : Nat} {s result : Text} (h : Rounds n s result) :
    skipComments s = result := by
  induction h with
  | done hcode => exact skipComments_code hcode
  | next kind hcomment _ ih => rw [skipComments_comment kind hcomment, ih]

lemma Rounds.count_eq {n m : Nat} {s result result' : Text} (h : Rounds n s result)
    (h' : Rounds m s result') : m = n := by
  induction h generalizing m with
  | done hcode =>
    cases h' with
    | done _ => rfl
    | next kind hcomment _ => exact absurd ⟨_, hcomment.symm⟩ (hcode.uncommented kind)
  | next kind hcomment _ ih =>
    cases h' with
    | done hcode => exact absurd ⟨_, hcomment.symm⟩ (hcode.uncommented kind)
    | next kind' hcomment' h' =>
      obtain ⟨rfl, rfl⟩ := Comment.opening_append_inj (hcomment.symm.trans hcomment')
      rw [ih h']

/-! ### What the loop leaves behind -/

lemma Leading.append {lead s : Text} (hlead : Leading lead) (hs : Leading s) : Leading (lead ++ s) := by
  induction hlead with
  | nil => exact hs
  | blank hch _ ih => exact .blank hch ih
  | comment kind hbody _ ih =>
    simp only [List.append_assoc]
    exact .comment kind hbody ih

lemma leading_of_blanks {ws : Text} (h : ∀ ch ∈ ws, Text.isBlank ch = true) : Leading ws := by
  induction ws with
  | nil => exact .nil
  | cons ch ws ih =>
    obtain ⟨hch, hws⟩ := List.forall_mem_cons.1 h
    exact .blank hch (ih hws)

lemma exists_leading_trimStart (s : Text) : ∃ lead, Leading lead ∧ s = lead ++ Text.trimStart s :=
  ⟨s.takeWhile Text.isBlank, leading_of_blanks (List.all_eq_true.1 List.all_takeWhile),
    List.takeWhile_append_dropWhile.symm⟩

lemma LeftBehind.append {lead s result : Text} (hlead : Leading lead) (h : LeftBehind s result) :
    LeftBehind (lead ++ s) result := by
  cases h with
  | code hlead' hcode =>
    rw [← List.append_assoc]
    exact .code (hlead.append hlead') hcode
  | unended kind hlead' hbody =>
    rw [← List.append_assoc]
    exact .unended kind (hlead.append hlead') hbody

lemma Rounds.leftBehind {n : Nat} {s result : Text} (h : Rounds n s result) : LeftBehind s result := by
  induction h with
  | @done s hcode =>
    obtain ⟨lead, hlead, hs⟩ := exists_leading_trimStart s
    have hleft := LeftBehind.code hlead hcode
    rwa [← hs] at hleft
  | @next n s rest result kind hcomment hrounds ih =>
    obtain ⟨lead, hlead, hs⟩ := exists_leading_trimStart s
    rw [hs, hcomment]
    refine LeftBehind.append hlead ?_
    rcases kind.behind_cases rest with ⟨body, hbody, hrest⟩ | ⟨hrest, hnil⟩
    · have hleft := LeftBehind.append (.comment kind hbody .nil) ih
      rw [hrest]
      simpa only [List.append_assoc, List.append_nil, List.nil_append] using hleft
    · rw [hnil] at hrounds
      rw [← hrounds.skipComments_eq, skipComments_nil]
      exact .unended kind .nil hrest

lemma leftBehind_skipComments (s : Text) : LeftBehind s (skipComments s) := by
  obtain ⟨n, result, -, hrounds⟩ := exists_rounds s
  rw [hrounds.skipComments_eq]
  exact hrounds.leftBehind

/-- The result is determined by what stands behind the leading comments. -/
lemma skipComments_eq_iff {s result : Text} : skipComments s = result ↔ LeftBehind s result := by
  constructor
  · rintro rfl
    exact leftBehind_skipComments s
  · intro h
    cases h with
    | code hlead hcode => rw [skipComments_append hlead, skipComments_eq_self hcode]
    | unended kind hlead hbody =>
      rw [skipComments_append hlead, skipComments_comment kind (kind.trimStart_opening _),
        Comment.behind_of_unended hbody, skipComments_nil]

lemma LeftBehind.beginsWithCode {s result : Text} (h : LeftBehind s result) : BeginsWithCode result := by
  cases h with
  | code _ hcode => exact hcode
  | unended _ _ _ => exact beginsWithCode_nil

lemma LeftBehind.suffix {s result : Text} (h : LeftBehind s result) : result <:+ s := by
  cases h with
  | code _ _ => exact List.suffix_append _ _
  | unended _ _ _ => exact List.nil_suffix

lemma wrappedEditorScript_mem_codes (b : Bundle) (c : Conventions) :
    "SSOT020".toList ∈ b.codes c ↔ isWrapped b.editorScript = false := by
  have hcode : Rule.wrappedEditorScript.code = "SSOT020".toList := by decide +kernel
  rw [← hcode, Rule.code_mem_codes]
  rfl

/-- The loop ends after at most as many rounds as the source has pairs of characters. It leaves what stands
behind white space and comments, which begins with neither, and leading comments change neither that nor
whether the script is reported. -/
theorem leading_comments_skipped (source : Text) :
    (∃ n, 2 * n ≤ source.length ∧
      ∀ m result, Rounds m source result ↔ m = n ∧ result = skipComments source) ∧
    (∀ result, skipComments source = result ↔ LeftBehind source result) ∧
    skipComments source <:+ source ∧
    BeginsWithCode (skipComments source) ∧
    skipComments (skipComments source) = skipComments source ∧
    ∀ lead, Leading lead → skipComments (lead ++ source) = skipComments source ∧
      ∀ (b : Bundle) (c : Conventions),
        "SSOT020".toList ∈ ({ b with editorScript := lead ++ source } : Bundle).codes c ↔
          "SSOT020".toList ∈ ({ b with editorScript := source } : Bundle).codes c := by
  have hleft := leftBehind_skipComments source
  refine ⟨?_, fun result => skipComments_eq_iff, hleft.suffix, hleft.beginsWithCode,
    skipComments_eq_self hleft.beginsWithCode, fun lead hlead => ?_⟩
  · obtain ⟨n, result, hn, hrounds⟩ := exists_rounds source
    refine ⟨n, hn, fun m result' => ⟨fun h => ⟨hrounds.count_eq h, h.skipComments_eq.symm⟩, ?_⟩⟩
    rintro ⟨rfl, rfl⟩
    rwa [hrounds.skipComments_eq]
  · have hskip := skipComments_append hlead source
    refine ⟨hskip, fun b c => ?_⟩
    rw [wrappedEditorScript_mem_codes, wrappedEditorScript_mem_codes, isWrapped, isWrapped, hskip]

theorem leading_comments_skipped_docComment :
    Leading "/** doc **/\n// note */\n" ∧
      skipComments ("/** doc **/\n// note */\n" ++ "(() => {})()") = "(() => {})()".toList ∧
      "SSOT020".toList ∉ (⟨⟨[], [], [], "/** doc **/\n// note */\n" ++ "(() => {})()", [], []⟩, []⟩ :
        Bundle).codes {} := by
  have hline : Leading (Comment.line.opening ++ (" note */".toList ++ (Comment.line.closing ++ []))) :=
    .comment .line (by decide) .nil
  have hlead : Leading "/** doc **/\n// note */\n" :=
    .comment .block (by decide : ¬ Comment.block.closing <:+: "* doc *".toList)
      (.blank (by decide : Text.isBlank '\n' = true) hline)
  have hcode : BeginsWithCode "(() => {})()" :=
    beginsWithCode_cons (by decide : Text.isBlank '(' = false) (by decide) _
  obtain ⟨-, -, -, -, -, hskip⟩ := leading_comments_skipped "(() => {})()"
  obtain ⟨hresult, hcodes⟩ := hskip _ hlead
  refine ⟨hlead, by rw [hresult, skipComments_eq_self hcode], ?_⟩
  rw [hcodes ⟨⟨[], [], [], [], [], []⟩, []⟩ {}, wrappedEditorScript_mem_codes, isWrapped,
    skipComments_eq_self hcode]
  decide +kernel

end Script

end BlockAudit
