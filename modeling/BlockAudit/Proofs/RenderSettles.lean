import BlockAudit.Proofs.FixedRender

/-!
# The render callback after a second fix

What the three fixes of the render callback look for is the same before and after wrapper classes are
joined. A second fix therefore finds the configuration loaded and the classes joined. It finds a
namespace, too, unless the one that was inserted is not read as a declaration.
-/

namespace BlockAudit

namespace Fix

open Reader

variable {name : BlockName} {c : Conventions} {source : Text}

/-! ### Joined wrapper classes -/

/-- Whether raw wrapper classes are read before others does not depend on what follows the opening of
those others. -/
lemma rawWrapperClasses_before {v : Text} (hv : v ≠ []) :
    ∃ found : Bool, ∀ y, (Php.rawWrapperClasses (v ++ ("esc_attr(" ++ y))).isSome = found := by
  have hopen (y : Text) : word "esc_attr(" (v ++ ("esc_attr(" ++ y)) =
      (word "esc_attr(" v).map (· ++ ("esc_attr(" ++ y)) :=
    word_append_word (u := "esc_attr") (d := '(') (by decide) hv y
  have hstop : Stops (seq [blanks, word "$wrapper_classes", blanks, word ")"]) 't' := by
    have hblanks : Stops blanks 't' := stops_many (by decide)
    refine stops_seq ?_
    simp only [List.forall_mem_cons, List.not_mem_nil, IsEmpty.forall_iff, implies_true, and_true]
    exact ⟨hblanks, stops_word (by decide), hblanks, stops_word (by decide)⟩
  refine ⟨((word "esc_attr(" v).bind fun v =>
    seq [blanks, word "$wrapper_classes", blanks, word ")"] (v ++ "esc_a")).isSome, fun y => ?_⟩
  unfold Php.rawWrapperClasses
  rw [seq_cons, hopen]
  cases word "esc_attr(" v with
  | none => rfl
  | some v =>
    have hshape : v ++ ("esc_attr(" ++ y) = (v ++ "esc_a") ++ 't' :: ("tr(" ++ y) := by
      simp
    rw [Option.map_some, Option.bind_some, Option.bind_some, hshape, hstop, Option.isSome_map]

/-- No word that ends before the last character of a text, and none that goes on behind it. -/
lemma misses_word_append_last {w x : Text} {d : Char} (hd : d ∉ w) (hx : Text.occurs w x = false)
    (rest : Text) : Misses (word w) (x ++ [d]) rest := by
  intro v hv hvx
  obtain ⟨p, hp⟩ := hvx
  rcases List.eq_nil_or_concat v with rfl | ⟨v', e, rfl⟩
  · exact absurd rfl hv
  · rw [List.concat_eq_append, ← List.append_assoc] at hp
    obtain ⟨rfl, he⟩ := List.append_inj' hp rfl
    obtain rfl : e = d := by simpa using he
    have hnone : word w v' = none := by
      cases hread : word w v' with
      | none => rfl
      | some t =>
        rw [word_eq_some_iff.1 hread,
          Text.occurs_append_right _ (Text.occurs_self_append w t)] at hx
        exact absurd hx (by simp)
    have hstop := stops_word hd v' rest
    rw [List.concat_eq_append, List.append_assoc, List.singleton_append, hstop, hnone]
    rfl

lemma misses_joinedWrapperClasses (t : Text) :
    Misses Php.rawWrapperClasses joinedWrapperClasses t := by
  have hwords : joinedWrapperClasses =
      'e' :: ("sc_attr( implode( ' ', $wrapper_classes ) " ++ [')']) := by decide
  have htail : Misses (word "esc_attr(") ("sc_attr( implode( ' ', $wrapper_classes ) " ++ [')']) t :=
    misses_word_append_last (by decide) (by decide) t
  intro w hw hws
  rw [hwords] at hws
  rcases List.suffix_cons_iff.1 hws with rfl | hws
  · rfl
  · unfold Php.rawWrapperClasses
    rw [seq_cons, htail w hw hws]
    rfl

/-- No raw wrapper classes are left. -/
lemma misses_joinWrapperClasses (source : Text) :
    Misses Php.rawWrapperClasses (joinWrapperClasses source) [] := by
  refine misses_replaceAll Php.consumes_rawWrapperClasses ?_ misses_joinedWrapperClasses source
  intro v m t t' hm hv hbefore
  obtain ⟨found, hfound⟩ := rawWrapperClasses_before hv
  obtain ⟨ws, ws', -, -, heq⟩ := Php.rawWrapperClasses_eq_some hm
  have hwords : joinedWrapperClasses = "esc_attr(" ++ " implode( ' ', $wrapper_classes ) )" := by decide
  rw [heq] at hbefore
  rw [hwords, List.append_assoc, ← Option.isNone_iff_eq_none, ← Option.not_isSome, hfound,
    ← hfound (ws ++ ("$wrapper_classes" ++ (ws' ++ (')' :: t)))), hbefore]
  rfl

lemma joinWrapperClasses_joinWrapperClasses (source : Text) :
    joinWrapperClasses (joinWrapperClasses source) = joinWrapperClasses source :=
  replaceAll_eq_self (misses_joinWrapperClasses source)

/-! ### Documentation comments -/

/-- The source has a documentation comment behind its first opening tag. -/
def hasDocComment (source : Text) : Bool :=
  match Text.cut? Php.openTag source with
  | none => false
  | some (_, code) => Text.occurs "/**" code

/-- Some comment behind some opening tag is behind the first one. -/
lemma hasDocComment_iff : hasDocComment source = true ↔
    ∃ x y, source = x ++ (Php.openTag ++ y) ∧ Text.occurs "/**" y = true := by
  unfold hasDocComment
  constructor
  · intro h
    cases hcut : Text.cut? Php.openTag source with
    | none => exact absurd h (by simp [hcut])
    | some parts =>
      rw [hcut] at h
      exact ⟨parts.1, parts.2, by rw [Text.eq_append_of_cut? hcut, List.append_assoc], h⟩
  · rintro ⟨x, y, rfl, hy⟩
    obtain ⟨before, rest, hcut, z, rfl⟩ := Text.cut?_append Php.openTag x y
    rw [hcut]
    exact Text.occurs_append_right z hy

lemma isSome_splitAtDocComment? (source : Text) :
    (Php.splitAtDocComment? source).isSome = hasDocComment source := by
  unfold Php.splitAtDocComment? hasDocComment
  cases Text.cut? Php.openTag source with
  | none => rfl
  | some pair =>
    have h := isSome_splitAtComment? pair.2
    simp only [Option.bind_eq_bind, Option.bind_some, Option.pure_def]
    rw [← h]
    cases Php.splitAtComment? pair.2 <;> rfl

lemma renderNamespace_eq_none_iff :
    renderNamespace name c source = none ↔
      name.slug.isEmpty = true ∨ Php.declaresNamespace source = true ∨
        hasDocComment source = false := by
  unfold renderNamespace
  rw [← isSome_splitAtDocComment?]
  cases name.slug.isEmpty with
  | true => simp
  | false =>
    cases Php.declaresNamespace source with
    | true => simp
    | false =>
      cases Php.splitAtDocComment? source with
      | none => simp
      | some pair => simp

/-- A comment that is found on either side of a barrier is found in the whole, as long as it comes
after the opening tag. -/
lemma hasDocComment_barrier {d : Char} (htag : d ∉ Php.openTag) (hcomment : d ∉ ("/**" : Text))
    (x y : Text) : hasDocComment (x ++ d :: y) =
      if Text.occurs Php.openTag x then hasDocComment x || Text.occurs "/**" y
      else hasDocComment y := by
  unfold hasDocComment
  rw [Text.cut?_barrier (by decide) htag, ← Text.isSome_cut?]
  cases Text.cut? Php.openTag x with
  | some pair => simp only [Option.isSome_some, ↓reduceIte, Text.occurs_barrier hcomment]
  | none =>
    simp only [Option.isSome_none, Bool.false_eq_true, ↓reduceIte]
    cases Text.cut? Php.openTag y <;> rfl

lemma hasDocComment_joinWrapperClasses (source : Text) :
    hasDocComment (joinWrapperClasses source) = hasDocComment source := by
  have hpair := observe_joinWrapperClasses
    (fun s => (Text.occurs "/**" s, hasDocComment s))
    (fun x found => (Text.occurs "/**" x || found.1,
      if Text.occurs Php.openTag x then hasDocComment x || found.1 else found.2)) ?_ source
  · exact congrArg Prod.snd hpair
  · intro x mid y htag hcomment
    have hmid : Text.occurs Php.openTag mid = false :=
      Text.occurs_eq_false (d := '<') (by decide) htag
    have hcommentMid : Text.occurs "/**" mid = false :=
      Text.occurs_eq_false (d := '*') (by decide) hcomment
    have hinner : Text.occurs "/**" (mid ++ ')' :: y) = Text.occurs "/**" y := by
      rw [Text.occurs_barrier (by decide), hcommentMid, Bool.false_or]
    have hdoc : hasDocComment (mid ++ ')' :: y) = hasDocComment y := by
      rw [hasDocComment_barrier (by decide) (by decide), hmid]
      rfl
    rw [Text.occurs_barrier (by decide), hasDocComment_barrier (by decide) (by decide), hinner, hdoc]

/-! ### Declarations of namespaces -/

/-- The source declares a namespace; `atStart` tells whether the source begins a line. -/
def declaresFrom (atStart : Bool) (source : Text) : Bool :=
  Php.namespaceDeclaration.occursAtLineStart atStart source

lemma declaresFrom_barrier {d : Char} (hd : d = '(' ∨ d = ')' ∨ d = '$') (atStart : Bool)
    (x y : Text) :
    declaresFrom atStart (x ++ d :: y) = (declaresFrom atStart x || declaresFrom false y) := by
  have hblank : Text.isBlank d = false := by rcases hd with rfl | rfl | rfl <;> decide
  have hword : d ∉ ("namespace" : Text) := by rcases hd with rfl | rfl | rfl <;> decide
  have hnewline : d ≠ '\n' := by rcases hd with rfl | rfl | rfl <;> decide
  have hletter : (Text.isAsciiLetter d || d == '_' || d == '\\') = false := by
    rcases hd with rfl | rfl | rfl <;> decide
  have hblanks : Stops blanks d := stops_many hblank
  refine occursAtLineStart_barrier (stops_seq ?_) hnewline atStart x y
  simp only [List.forall_mem_cons, List.not_mem_nil, IsEmpty.forall_iff, implies_true, and_true]
  refine ⟨hblanks, stops_word hword, stops_seq ?_, stops_one hletter⟩
  simp only [List.forall_mem_cons, List.not_mem_nil, IsEmpty.forall_iff, implies_true, and_true]
  exact ⟨stops_one hblank, hblanks⟩

lemma declaresFrom_append {x : Text} (hx : '\n' ∉ x) (y : Text) :
    declaresFrom false (x ++ y) = declaresFrom false y := by
  induction x with
  | nil => rfl
  | cons d x ih =>
    have hd : (d == '\n') = false := by
      simp only [beq_eq_false_iff_ne]
      exact fun h => hx (h ▸ List.mem_cons_self)
    have hrest : '\n' ∉ x := fun h => hx (List.mem_cons_of_mem _ h)
    unfold declaresFrom at ih ⊢
    rw [List.cons_append, occursAtLineStart, hd, ih hrest]
    rfl

lemma declaresFrom_line {x : Text} (hx : '\n' ∉ x) : declaresFrom false x = false := by
  have h := declaresFrom_append hx []
  rwa [List.append_nil] at h

lemma declaresFrom_blanks {ws : Text} (hws : IsBlanks ws) (atStart : Bool) :
    declaresFrom atStart ws = false := by
  have hnone {ws : Text} (hws : IsBlanks ws) : Php.namespaceDeclaration ws = none := by
    have hblanks : blanks ws = some [] := by
      have h := blanks_append hws []
      rwa [List.append_nil] at h
    unfold Php.namespaceDeclaration
    rw [seq_cons, hblanks]
    rfl
  induction ws generalizing atStart with
  | nil => cases atStart <;> rfl
  | cons d ws ih =>
    have hrest : IsBlanks ws := fun e he => hws e (List.mem_cons_of_mem _ he)
    unfold declaresFrom at ih ⊢
    rw [occursAtLineStart, hnone hws, ih hrest]
    simp

lemma declaresFrom_joinWrapperClasses (atStart : Bool) (source : Text) :
    declaresFrom atStart (joinWrapperClasses source) = declaresFrom atStart source := by
  have hall := observe_replaceAll joinedWrapperClasses
    Php.consumes_rawWrapperClasses (fun s atStart => declaresFrom atStart s) ?_ source
  · exact congrFun hall atStart
  intro x m t t' hread ht
  obtain ⟨ws, ws', hws, hws', hm⟩ := Php.rawWrapperClasses_eq_some hread
  have hraw : x ++ (m ++ t) = (x ++ "esc_attr") ++ '(' :: (ws ++ '$' ::
      ("wrapper_classes" ++ (ws' ++ ')' :: t))) := by
    rw [hm]
    simp
  have hjoined : x ++ (joinedWrapperClasses ++ t') = (x ++ "esc_attr") ++ '(' :: (" implode" ++ '(' ::
      (" ' ', " ++ '$' :: ("wrapper_classes " ++ ')' :: ([' '] ++ ')' :: t')))) := by
    have hwords : joinedWrapperClasses = "esc_attr" ++ '(' :: (" implode" ++ '(' ::
      (" ' ', " ++ '$' :: ("wrapper_classes " ++ ')' :: ([' '] ++ [')'])))) := rfl
    rw [hwords]
    simp only [List.append_assoc, List.cons_append, List.nil_append]
  funext atStart
  have hends := congrFun ht false
  have himplode : declaresFrom false " implode" = false := declaresFrom_line (by decide)
  have hglue : declaresFrom false " ' ', " = false := declaresFrom_line (by decide)
  have hclasses : declaresFrom false "wrapper_classes " = false := declaresFrom_line (by decide)
  have hspace : declaresFrom false [' '] = false := declaresFrom_line (by decide)
  have hrawClasses (y : Text) : declaresFrom false ("wrapper_classes" ++ y) = declaresFrom false y :=
    declaresFrom_append (by decide) y
  have hparen (x y : Text) : declaresFrom false (x ++ ')' :: y) =
      (declaresFrom false x || declaresFrom false y) := declaresFrom_barrier (.inr (.inl rfl)) false x y
  have hopen (atStart : Bool) (x y : Text) : declaresFrom atStart (x ++ '(' :: y) =
      (declaresFrom atStart x || declaresFrom false y) := declaresFrom_barrier (.inl rfl) atStart x y
  have hdollar (x y : Text) : declaresFrom false (x ++ '$' :: y) =
      (declaresFrom false x || declaresFrom false y) := declaresFrom_barrier (.inr (.inr rfl)) false x y
  rw [hraw, hjoined]
  simp only [hopen, hdollar, hparen, hrawClasses, declaresFrom_blanks hws, declaresFrom_blanks hws',
    himplode, hglue, hclasses, hspace, Bool.false_or, hends]

/-! ### A second fix -/

lemma renderConfigInclude_fixRender : renderConfigInclude (fixRender name c source) = none := by
  rw [renderConfigInclude_eq_none_iff]
  cases hfixed : Php.includesConfig (fixRender name c source) with
  | true => exact .inl rfl
  | false =>
    obtain ⟨hsource, htag⟩ := includesConfig_fixRender.1 hfixed
    have hinclude := renderConfigInclude_eq_none_iff.2 (.inr htag)
    have hnamespace : renderNamespace name c source = none := by
      cases hchange : renderNamespace name c source with
      | none => rfl
      | some change =>
        obtain ⟨head, ws, rest, hhead, -, rfl, -⟩ := renderNamespace_eq_some hchange
        rw [Text.occurs_append_left _ hhead] at htag
        exact absurd htag (by simp)
    right
    unfold fixRender
    dsimp only
    rw [hinclude, leaves_none, hnamespace, leaves_none, occurs_openTag_joinWrapperClasses, htag]

lemma wrapperClassesJoin_fixRender : wrapperClassesJoin (fixRender name c source) = none :=
  if_pos (joinWrapperClasses_joinWrapperClasses _)

/-- A namespace that the fix inserts is read as a declaration. -/
def NamespaceRecognized (name : BlockName) (c : Conventions) (source : Text) : Prop :=
  ∀ new words, renderNamespace name c (leaves source (renderConfigInclude source)) =
    some (new, words) → Php.declaresNamespace new = true

lemma renderNamespace_joinWrapperClasses_eq_none_iff :
    renderNamespace name c (joinWrapperClasses source) = none ↔ renderNamespace name c source = none := by
  have hdeclares : Php.declaresNamespace (joinWrapperClasses source) = Php.declaresNamespace source :=
    declaresFrom_joinWrapperClasses true source
  rw [renderNamespace_eq_none_iff, renderNamespace_eq_none_iff, hdeclares,
    hasDocComment_joinWrapperClasses]

lemma hasDocComment_renderNamespace {new words : Text}
    (h : renderNamespace name c source = some (new, words)) : hasDocComment new = true := by
  obtain ⟨head, ws, rest, hhead, -, -, rfl⟩ := renderNamespace_eq_some h
  obtain ⟨x, y, rfl⟩ := Text.occurs_iff.1 hhead
  have hcomment : Text.occurs "/**" (ws ++ ("/**" ++ rest)) = true :=
    Text.occurs_append_right ws (Text.occurs_self_append _ rest)
  rw [hasDocComment_iff]
  refine ⟨x, y ++ (namespaceLines (name.phpNamespace c) ++ (ws ++ ("/**" ++ rest))), ?_, ?_⟩
  · simp only [List.append_assoc]
  · exact Text.occurs_append_right y (Text.occurs_append_right _ hcomment)

/-- A second fix inserts a namespace exactly where the first one inserted one that is not read as a
declaration. -/
lemma renderNamespace_fixRender_eq_none_iff :
    renderNamespace name c (fixRender name c source) = none ↔ NamespaceRecognized name c source := by
  unfold fixRender NamespaceRecognized
  dsimp only
  rw [renderNamespace_joinWrapperClasses_eq_none_iff]
  cases hchange : renderNamespace name c (leaves source (renderConfigInclude source)) with
  | none => simp [hchange]
  | some change =>
    have hslug : ¬ name.slug.isEmpty = true := by
      intro hempty
      have h : renderNamespace name c (leaves source (renderConfigInclude source)) = none :=
        renderNamespace_eq_none_iff.2 (.inl hempty)
      rw [hchange] at h
      exact absurd h (by simp)
    have hdoc : hasDocComment change.1 = true := hasDocComment_renderNamespace hchange
    rw [renderNamespace_eq_none_iff, leaves, Option.map_some, Option.getD_some, hdoc]
    constructor
    · rintro (h | h | h) new words heq
      · exact absurd h hslug
      · rwa [Option.some.inj heq] at h
      · exact absurd h (by simp)
    · intro h
      exact .inr (.inl (h change.1 change.2 rfl))

lemma declaresFrom_newline (atStart : Bool) (x : Text) {y : Text} (hy : declaresFrom true y = true) :
    declaresFrom atStart (x ++ '\n' :: y) = true := by
  unfold declaresFrom at hy ⊢
  induction x generalizing atStart with
  | nil => simp [occursAtLineStart, hy]
  | cons d x ih => simp [occursAtLineStart, ih]

lemma declaresFrom_of_isSome {s : Text} (h : (Php.namespaceDeclaration s).isSome = true) :
    declaresFrom true s = true := by
  unfold declaresFrom
  cases s with
  | nil => rw [occursAtLineStart, h]; rfl
  | cons d s => rw [occursAtLineStart, h]; rfl

lemma isSome_namespaceDeclaration {ws : Text} (hws : IsBlanks ws) {d : Char}
    (hblank : Text.isBlank d = false)
    (hletter : (Text.isAsciiLetter d || d == '_' || d == '\\') = true) (y : Text) :
    (Php.namespaceDeclaration (ws ++ ("namespace " ++ d :: y))).isSome = true := by
  have hwords : ("namespace " : Text) ++ d :: y = "namespace" ++ (' ' :: d :: y) := rfl
  have hline : blanks ("namespace" ++ (' ' :: d :: y)) = some ("namespace" ++ (' ' :: d :: y)) := rfl
  have hspace : blanks1 (' ' :: d :: y) = some (d :: y) := by
    have hone : one Text.isBlank (' ' :: d :: y) = some (d :: y) := rfl
    unfold blanks1
    rw [seq_cons, hone, Option.bind_some, seq_cons, blanks_cons hblank]
    rfl
  unfold Php.namespaceDeclaration
  rw [hwords, seq_cons, blanks_append hws, hline, Option.bind_some, seq_cons, word_append,
    Option.bind_some, seq_cons, hspace, Option.bind_some, seq_cons, one_eq_some_iff.2 ⟨d, hletter, rfl⟩]
  rfl

/-- A namespace that begins like a name is read as a declaration wherever it is inserted. -/
lemma namespaceRecognized_of_head {d : Char} {rest : Text} (hd : name.phpNamespace c = d :: rest)
    (hblank : Text.isBlank d = false)
    (hletter : (Text.isAsciiLetter d || d == '_' || d == '\\') = true) :
    NamespaceRecognized name c source := by
  intro new words h
  obtain ⟨head, ws, tail, -, -, -, rfl⟩ := renderNamespace_eq_some h
  have hshape (y : Text) : namespaceLines (d :: rest) ++ y =
      '\n' :: (['\n'] ++ ("namespace " ++ d :: (rest ++ (";\n" ++ y)))) := by
    unfold namespaceLines
    simp
  have hline : IsBlanks ['\n'] := by decide
  rw [hd, hshape]
  apply declaresFrom_newline
  apply declaresFrom_of_isSome
  exact isSome_namespaceDeclaration hline hblank hletter _

end Fix

end BlockAudit
