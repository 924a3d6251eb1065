import BlockAudit.Proofs.FixedNames

/-!
# Directories in the registration

Replacing directories leaves a text alone exactly when there is nothing in it to replace, unless the
blocks' directory has the legacy one in it; then nothing is ever replaced.

Under the default conventions the legacy directory is replaced once, and not again until nothing is
left to replace. A registration settles after one fix unless the replacement completes a legacy
directory together with what stands in front of it. Names of blocks are written over before the
directories are replaced, so that only what stands outside of them counts.
-/

namespace BlockAudit

namespace Fix

open Reader

variable {c : Conventions}

/-- The legacy directory under the default conventions. -/
def legacyBlocks : Text := "/blocks/cm-"

/-- The directory of the blocks under the default conventions. -/
def currentBlocks : Text := "/cm-blocks/cm-"

/-- The text with its legacy directories replaced under the default conventions. -/
def moveDirs (s : Text) : Text := (word legacyBlocks).replaceAll currentBlocks s

/-- The text with the given content in every call that registers a block. -/
def callsWith (content s : Text) : Text := Php.registerCall.replaceAll (callWith content) s

/-- The text with every legacy directory replaced. -/
def relocate (c : Conventions) (s : Text) : Text := (word (legacyDir c)).replaceAll (blockDir c) s

lemma legacyDir_eq (c : Conventions) :
    legacyDir c = '/' :: ("blocks" ++ '/' :: c.classStart) := rfl

lemma blockDir_eq (c : Conventions) :
    blockDir c = '/' :: (c.blocksDir ++ '/' :: c.classStart) := by
  simp [blockDir]

lemma consumes_legacyDir (c : Conventions) : Consumes (word (legacyDir c)) :=
  consumes_word (by simp [legacyDir_eq])

lemma registeredDirs_default (s : Text) : registeredDirs {} s = moveDirs s := by
  have hlegacy : legacyDir {} = legacyBlocks := rfl
  have hcurrent : blockDir {} = currentBlocks := rfl
  have hnot : Text.occurs legacyBlocks currentBlocks = false := by decide
  unfold registeredDirs
  rw [hlegacy, hcurrent, hnot]
  rfl

lemma consumes_legacyBlocks : Consumes (word legacyBlocks) := consumes_word (by decide)

/-! ### Which texts are left as they are -/

lemma misses_word {w : Text} {x rest : Text} (h : Misses (word w) x rest) (hw : w ≠ []) :
    Text.occurs w x = false := by
  rw [Bool.eq_false_iff]
  intro hoccurs
  obtain ⟨before, after, heq⟩ := Text.occurs_iff.1 hoccurs
  have hsuffix : w ++ after <:+ x := ⟨before, by rw [← heq, List.append_assoc]⟩
  have hnone := h (w ++ after) (by simp [hw]) hsuffix
  rw [List.append_assoc, word_append] at hnone
  exact absurd hnone (by simp)

lemma misses_of_occurs {w s : Text} (h : Text.occurs w s = false) : Misses (word w) s [] := by
  intro v _ hvs
  cases hread : word w (v ++ []) with
  | none => rfl
  | some t =>
    obtain ⟨x, rfl⟩ := hvs
    rw [List.append_nil] at hread
    rw [word_eq_some_iff.1 hread, Text.occurs_append_right _ (Text.occurs_self_append w t)] at h
    exact absurd h (by simp)

/-- A text that begins with the blocks' directory does not begin with the legacy one, too, unless the
directory itself does. -/
lemma blockDir_append_ne (h : Text.occurs (legacyDir c) (blockDir c) = false) (s t : Text) :
    blockDir c ++ s ≠ legacyDir c ++ t := by
  rw [legacyDir_eq, blockDir_eq] at h ⊢
  intro heq
  simp only [List.cons_append, List.cons.injEq, true_and, List.append_assoc] at heq
  rcases List.append_eq_append_iff.1 heq with ⟨r, hr, hslash⟩ | ⟨r, hr, hclass⟩
  · -- The slash behind the blocks' directory would be one of the letters of `blocks`.
    cases r with
    | nil =>
      have hself := Text.occurs_self_append ('/' :: ("blocks" ++ '/' :: c.classStart)) []
      rw [List.append_nil] at hr hself
      rw [← hr, hself] at h
      exact absurd h (by simp)
    | cons d r =>
      obtain ⟨rfl, -⟩ := List.cons.inj hslash
      have hmem : '/' ∈ ("blocks" : Text) := hr ▸ List.mem_append_right _ List.mem_cons_self
      exact absurd hmem (by decide)
  · have hlegacy : '/' :: c.classStart <+: r ++ '/' :: (c.classStart ++ s) := by
      rw [← hclass]
      exact ⟨t, rfl⟩
    have hcurrent : r ++ '/' :: c.classStart <+: r ++ '/' :: (c.classStart ++ s) := ⟨s, by simp⟩
    have hlonger : '/' :: c.classStart <+: r ++ '/' :: c.classStart :=
      List.prefix_of_prefix_length_le hlegacy hcurrent (by simp)
    obtain ⟨u, hu⟩ := hlonger
    have hwhole : '/' :: (c.blocksDir ++ '/' :: c.classStart) =
        '/' :: ("blocks" ++ '/' :: c.classStart) ++ u := by
      rw [hr, List.append_assoc, ← hu]
      simp
    rw [hwhole, Text.occurs_self_append] at h
    exact absurd h (by simp)

/-- Replacing leaves a text alone only where there is nothing to replace. -/
lemma relocate_eq_self_iff (h : Text.occurs (legacyDir c) (blockDir c) = false) {s : Text} :
    relocate c s = s ↔ Text.occurs (legacyDir c) s = false := by
  constructor
  · intro hs
    rcases misses_or_first_match (consumes_legacyDir c) s with hm | ⟨x, m, t, rfl, hm, hmt, hx⟩
    · exact misses_word hm (by simp [legacyDir_eq])
    · unfold relocate at hs
      rw [replaceAll_of_misses hx, replaceAll_match hm hmt, word_eq_some_iff.1 hmt] at hs
      exact absurd (List.append_cancel_left hs) (blockDir_append_ne h _ _)
  · intro hs
    exact replaceAll_eq_self (misses_of_occurs hs)

lemma registeredDirs_eq_self_iff {s : Text} :
    registeredDirs c s = s ↔
      Text.occurs (legacyDir c) (blockDir c) = true ∨ Text.occurs (legacyDir c) s = false := by
  unfold registeredDirs
  cases h : Text.occurs (legacyDir c) (blockDir c) with
  | true => simp
  | false =>
    simp only [Bool.false_eq_true, ↓reduceIte, false_or]
    exact relocate_eq_self_iff h

lemma moveDirs_eq_self_iff {s : Text} : moveDirs s = s ↔ Text.occurs legacyBlocks s = false :=
  relocate_eq_self_iff (c := {}) (by decide)

/-- A directory of blocks inside a directory of blocks. -/
def nestedBlocks : Text := "/blocks/blocks/cm-"

lemma suffix_append_right_iff (v x w : Text) : v ++ w <:+ x ++ w ↔ v <:+ x := by
  constructor
  · rintro ⟨p, hp⟩
    rw [← List.append_assoc] at hp
    exact ⟨p, List.append_cancel_right hp⟩
  · rintro ⟨p, rfl⟩
    exact ⟨p, by rw [List.append_assoc]⟩

lemma occurs_nestedBlocks_eq_false {s : Text} (h : Text.occurs legacyBlocks s = false) :
    Text.occurs nestedBlocks s = false := by
  have hinner : Text.occurs legacyBlocks nestedBlocks = true := by decide
  rw [Bool.eq_false_iff]
  intro hnested
  rw [Text.occurs_trans hinner hnested] at h
  exact absurd h (by simp)

lemma occurs_legacyBlocks_behind {x : Text} (hx : Text.occurs legacyBlocks x = false) (t : Text) :
    Text.occurs legacyBlocks (x ++ (currentBlocks ++ t)) = true ↔
      ("/blocks" : Text) <:+ x ∨ Text.occurs legacyBlocks t = true := by
  have hlegacy : legacyBlocks = "/blocks/cm" ++ ['-'] := rfl
  have hcm : ("/blocks/cm" : Text) = "/blocks" ++ "/cm" := rfl
  have hbetween : Text.occurs legacyBlocks "blocks/cm" = false ∧
      ¬ ("/blocks/cm" : Text) <:+ ("blocks/cm" : Text) := by decide
  have hshape : x ++ (currentBlocks ++ t) = (x ++ "/cm") ++ '-' :: ("blocks/cm" ++ '-' :: t) := by
    have hcurrent : currentBlocks = "/cm" ++ '-' :: ("blocks/cm" ++ ['-']) := rfl
    rw [hcurrent]
    simp only [List.append_assoc, List.cons_append, List.nil_append]
  rw [hshape, hlegacy, Text.occurs_append_last (by decide), Text.occurs_append_last (by decide),
    Text.occurs_append_of_notMem x (by decide), ← hlegacy, hx, hcm, suffix_append_right_iff, ← hcm]
  simp only [hbetween.1, hbetween.2, Bool.false_eq_true, false_or]

lemma occurs_nestedBlocks_behind {x : Text} (hx : Text.occurs nestedBlocks x = false) (t : Text) :
    Text.occurs nestedBlocks (x ++ (legacyBlocks ++ t)) = true ↔
      ("/blocks" : Text) <:+ x ∨ Text.occurs nestedBlocks t = true := by
  have hnested : nestedBlocks = "/blocks/blocks/cm" ++ ['-'] := rfl
  have hcm : ("/blocks/blocks/cm" : Text) = "/blocks" ++ "/blocks/cm" := rfl
  have hshape : x ++ (legacyBlocks ++ t) = (x ++ "/blocks/cm") ++ '-' :: t := by
    have hlegacy : legacyBlocks = "/blocks/cm" ++ ['-'] := rfl
    rw [hlegacy]
    simp only [List.append_assoc, List.cons_append, List.nil_append]
  rw [hshape, hnested, Text.occurs_append_last (by decide),
    Text.occurs_append_of_notMem x (by decide), ← hnested, hx, hcm, suffix_append_right_iff]
  simp

/-- A legacy directory is left behind where its replacement comes after another `/blocks`. -/
lemma occurs_legacyBlocks_moveDirs (s : Text) :
    Text.occurs legacyBlocks (moveDirs s) = true ↔ Text.occurs nestedBlocks s = true := by
  refine replaceAll_induction currentBlocks consumes_legacyBlocks
    (motive := fun s s' => Text.occurs legacyBlocks s' = true ↔ Text.occurs nestedBlocks s = true)
    (fun s hs => ?_) (fun x m t _ hmt hx ih => ?_) s
  · have hnone := misses_word hs (by decide)
    rw [hnone, occurs_nestedBlocks_eq_false hnone]
  · have hnone := misses_word hx (by decide)
    obtain rfl : m = legacyBlocks := List.append_cancel_right (word_eq_some_iff.1 hmt)
    rw [occurs_legacyBlocks_behind hnone,
      occurs_nestedBlocks_behind (occurs_nestedBlocks_eq_false hnone), ih]

/-! ### Names and directories -/

/-- Every reader but that of a directory stops at the slash that the directory begins with. -/
lemma commutes_slash {look : Reader} {l d : Text} (hdrops : Drops look) (hstops : Stops look '/') :
    Commutes look (word ('/' :: l)) ('/' :: d) := by
  refine commutes_of_stops (consumes_word (by simp)) hdrops hstops (fun m t _ hmt => ?_) ⟨d, rfl⟩
  exact ⟨l, List.append_cancel_right (word_eq_some_iff.1 hmt)⟩

/-- Calls are found and read in the same places before and after a directory is replaced by another one,
if there are no quotes in the two. -/
lemma commutes_registerCall {l d : Text} (hl : Free Php.isQuote ('/' :: l))
    (hd : Free Php.isQuote ('/' :: d)) : Commutes Php.registerCall (word ('/' :: l)) ('/' :: d) := by
  have hmark : Commutes quoteMark (word ('/' :: l)) ('/' :: d) :=
    commutes_slash (drops_one _) (stops_one (by decide))
  have hcontent : Commutes (many fun c => c ≠ '\'' ∧ c ≠ '"') (word ('/' :: l)) ('/' :: d) := by
    refine commutes_many (consumes_word (by simp)) (fun e he => ?_) (List.all_eq_true.2 ?_)
    · refine Php.stops_word_of_isQuote (decide_eq_true ?_) hl
      rwa [decide_eq_false_iff_not, not_and_or, not_not, not_not] at he
    · intro e he
      have hquote := hd e he
      simpa only [Php.isQuote, decide_eq_false_iff_not, not_or, decide_eq_true_eq] using hquote
  refine commutes_seq ?_
  simp only [List.forall_mem_cons, List.not_mem_nil, IsEmpty.forall_iff, implies_true, and_true]
  refine ⟨commutes_slash (drops_word _) (stops_word (by decide)),
    commutes_slash (drops_many _) (stops_many (by decide)), commutes_seq ?_⟩
  simp only [List.forall_mem_cons, List.not_mem_nil, IsEmpty.forall_iff, implies_true, and_true]
  exact ⟨hmark, hcontent, hmark⟩

lemma commutes_registerCall_moveDirs :
    Commutes Php.registerCall (word legacyBlocks) currentBlocks :=
  commutes_registerCall (l := "blocks/cm-") (d := "cm-blocks/cm-") (by decide) (by decide)

/-- A call holds as much of a directory without quotes as the name in it does. -/
lemma replaceAll_word_callWith {w new : Text} (hne : w ≠ []) (hw : Free Php.isQuote w)
    (hopen : (word w).replaceAll new "register_block_type(" = "register_block_type(")
    (content t : Text) :
    (word w).replaceAll new (callWith content ++ t) =
      callWith ((word w).replaceAll new content) ++ (word w).replaceAll new t := by
  have hbarrier (x y : Text) : (word w).replaceAll new (x ++ '\'' :: y) =
      (word w).replaceAll new x ++ '\'' :: (word w).replaceAll new y :=
    replaceAll_barrier (consumes_word hne) (Php.stops_word_of_isQuote (by decide) hw) x y
  rw [callWith_append, callWith_append, List.nil_append, List.nil_append, hbarrier, hbarrier, hopen]

lemma moveDirs_callWith (content t : Text) :
    moveDirs (callWith content ++ t) = callWith (moveDirs content) ++ moveDirs t :=
  replaceAll_word_callWith (by decide) (by decide) (moveDirs_eq_self_iff.2 (by decide)) content t

/-- No call begins in a text without the letter that calls begin with. -/
lemma misses_registerCall {x : Text} (hx : 'r' ∉ x) (rest : Text) :
    Misses Php.registerCall x rest := by
  apply misses_of_notMem _ hx
  intro e s he
  have hword : word "register_block_type(" (e :: s) = none := by
    simp [word, Text.after?, he.symm]
  rw [Php.registerCall_eq, hword]
  rfl

lemma callsWith_append {x : Text} (hx : 'r' ∉ x) (content t : Text) :
    callsWith content (x ++ t) = x ++ callsWith content t :=
  replaceAll_of_misses (misses_registerCall hx t)

lemma moveDirs_legacyBlocks (t : Text) :
    moveDirs (legacyBlocks ++ t) = currentBlocks ++ moveDirs t :=
  replaceAll_match (by decide) (word_append _ t)

/-- No call completes a directory, which does not have the letter that calls begin with. -/
lemma commutes_legacyBlocks_callsWith (content : Text) :
    Commutes (word legacyBlocks) Php.registerCall (callWith content) := by
  refine commutes_of_stops (d := 'r') Php.consumes_registerCall (drops_word _)
    (stops_word (by decide)) (fun m t hm hmt => ?_) ⟨_, rfl⟩
  obtain ⟨ws, q, y, -, -, heq⟩ := Php.registerCall_eq_some hmt
  cases m with
  | nil => exact absurd rfl hm
  | cons d m =>
    obtain ⟨rfl, -⟩ := List.cons.inj heq
    exact ⟨m, rfl⟩

/-- Writing names and replacing directories can be done in either order, when the directories are
replaced in the names, too. -/
theorem moveDirs_callsWith (content s : Text) :
    moveDirs (callsWith content s) = callsWith (moveDirs content) (moveDirs s) := by
  have hcommutes : ∀ s, Php.registerCall (moveDirs s) = (Php.registerCall s).map moveDirs :=
    commutes_registerCall_moveDirs
  induction hn : s.length using Nat.strong_induction_on generalizing s with
  | _ n ih =>
    cases s with
    | nil => simp [moveDirs, callsWith]
    | cons d s =>
      cases hcall : Php.registerCall (d :: s) with
      | some t =>
        obtain ⟨m, hm, heq⟩ := Php.consumes_registerCall _ _ hcall
        have hmoved := hcommutes (d :: s)
        rw [hcall, Option.map_some] at hmoved
        obtain ⟨m', hm', heq'⟩ := Php.consumes_registerCall _ _ hmoved
        have hlt : t.length < n := by
          have hpos := List.length_pos_of_ne_nil hm
          rw [← hn, heq, List.length_append]
          omega
        rw [heq'] at hmoved ⊢
        rw [heq] at hcall ⊢
        unfold callsWith
        rw [replaceAll_match hm hcall, replaceAll_match hm' hmoved]
        change moveDirs (callWith content ++ callsWith content t) = _
        rw [moveDirs_callWith, ih t.length hlt t rfl]
        rfl
      | none =>
        cases hdir : word legacyBlocks (d :: s) with
        | some t =>
          have heq := word_eq_some_iff.1 hdir
          have hlt : t.length < n := by
            rw [← hn, heq, List.length_append]
            have hpos : 0 < legacyBlocks.length := by decide
            omega
          rw [heq, moveDirs_legacyBlocks, callsWith_append (by decide), moveDirs_legacyBlocks,
            callsWith_append (by decide), ih t.length hlt t rfl]
        | none =>
          have hmoved := hcommutes (d :: s)
          rw [hcall, Option.map_none] at hmoved
          have hs : moveDirs (d :: s) = d :: moveDirs s := replaceAll_cons hdir
          have hcalls : callsWith content (d :: s) = d :: callsWith content s :=
            replaceAll_cons hcall
          have hkept : word legacyBlocks (d :: callsWith content s) = none := by
            have h := commutes_legacyBlocks_callsWith content (d :: s)
            rwa [hdir, Option.map_none, replaceAll_cons hcall] at h
          rw [hs] at hmoved ⊢
          rw [hcalls]
          simp only [List.length_cons] at hn
          change (word legacyBlocks).replaceAll currentBlocks (d :: callsWith content s) =
            Php.registerCall.replaceAll (callWith (moveDirs content)) (d :: moveDirs s)
          rw [replaceAll_cons hkept, replaceAll_cons hmoved]
          exact congrArg (d :: ·) (ih s.length (by omega) s rfl)

/-! ### When the registration settles -/

/-- The registration without the names in its calls; the source as it is when no name is written. -/
def unnamed (name : BlockName) (source : Text) : Text :=
  if name.isLiteralSafe then callsWith [] source else source

lemma fixRegistration_default (name : BlockName) (source : Text) :
    fixRegistration name {} source =
      moveDirs (if name.isLiteralSafe then callsWith name.identifier source else source) :=
  registeredDirs_default _

lemma callsWith_callsWith {old : Text} (hold : Free Php.isQuote old) (new s : Text) :
    callsWith new (callsWith old s) = callsWith new s := replaceAll_callWith hold new s

lemma free_moveDirs {s : Text} (h : Free Php.isQuote s) : Free Php.isQuote (moveDirs s) := by
  have hcurrent : Free Php.isQuote currentBlocks := by decide
  intro d hd
  rcases mem_replaceAll consumes_legacyBlocks hd with hd | hd
  · exact h d hd
  · exact hcurrent d hd

/-- A second replacement of directories finds what the first one leaves behind. -/
lemma moveDirs_moveDirs_iff {s : Text} :
    moveDirs (moveDirs s) = moveDirs s ↔ Text.occurs nestedBlocks s = false := by
  rw [moveDirs_eq_self_iff, ← Bool.not_eq_true, occurs_legacyBlocks_moveDirs, Bool.not_eq_true]

/-- Under the default conventions a fixed registration is fixed once and for all, unless `/blocks` stood
in front of a legacy directory outside the names. -/
theorem fixRegistration_default_settles_iff (name : BlockName) (source : Text) :
    fixRegistration name {} (fixRegistration name {} source) = fixRegistration name {} source ↔
      Text.occurs nestedBlocks (unnamed name source) = false := by
  simp only [fixRegistration_default, unnamed]
  cases hsafe : name.isLiteralSafe with
  | false => exact moveDirs_moveDirs_iff
  | true =>
    have hidentifier := free_identifier hsafe
    have hmoved := free_moveDirs hidentifier
    have hempty : Free Php.isQuote [] := by decide
    have hnil : moveDirs [] = [] := replaceAll_nil
    simp only [↓reduceIte]
    rw [moveDirs_callsWith _ source, callsWith_callsWith hmoved, moveDirs_callsWith,
      ← moveDirs_moveDirs_iff, moveDirs_callsWith, hnil, moveDirs_callsWith, hnil]
    constructor
    · intro h
      have hcalls := congrArg (callsWith []) h
      rwa [callsWith_callsWith hmoved, callsWith_callsWith hmoved] at hcalls
    · intro h
      have hcalls := congrArg (callsWith (moveDirs name.identifier)) h
      rwa [callsWith_callsWith hempty, callsWith_callsWith hempty] at hcalls

end Fix

end BlockAudit
