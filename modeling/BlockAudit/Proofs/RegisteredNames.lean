import BlockAudit.Proofs.FixedBundle
import BlockAudit.Proofs.PlainLiterals

/-!
# Names in the calls that register a block

The registration is fixed in two goes: the block's name is written into every call, and then legacy
directories are replaced in the whole source, the names that were just written included. With
directories that have no quotes in them, a scan of the fixed registration finds the calls that were
there, each with the block's name as the replacing of directories leaves it. So the calls carry the
block's name unless there is a legacy directory in the name itself.
-/

namespace BlockAudit

namespace Php

open Reader

/-- The text is a call that registers the block of the given name, up to the quote behind the name. -/
def Registers (m identifier : Text) : Prop :=
  ∃ ws q, IsBlanks ws ∧ isQuote q = true ∧ IsCall m (ws ++ q :: identifier)

/-- A text without quotes that has a slash in it is no part of a call in front of the name. -/
lemma registerCall_eq_none {x : Text} (hx : Free isQuote x) (hslash : '/' ∈ x) (t : Text) :
    registerCall (x ++ t) = none := by
  cases hcall : registerCall (x ++ t) with
  | none => rfl
  | some u =>
    obtain ⟨ws, q, y, hws, hq, heq⟩ := registerCall_eq_some hcall
    have hopening : x <+: "register_block_type(" ++ ws := by
      apply Text.prefix_of_notMem (notMem_of_isQuote hq hx)
      exact ⟨t, by rw [heq, List.append_assoc]⟩
    rcases List.mem_append.1 (hopening.subset hslash) with h | h
    · exact absurd h (by decide)
    · exact absurd h (hws.notMem (by decide))

/-- Calls that are found behind a slash do not begin in front of it. -/
lemma hits_registerCall_slash {x : Text} (hx : Free isQuote x) (t : Text) :
    registerCall.matched.hits (x ++ '/' :: t) = registerCall.matched.hits t := by
  rw [List.append_cons]
  apply hits_of_misses
  intro w hw hwx
  have hfree : Free isQuote w := (hx.append (by decide)).of_suffix hwx
  apply registerCall_eq_none hfree
  obtain ⟨v, e, rfl⟩ := List.eq_nil_or_concat w |>.resolve_left hw
  obtain ⟨p, hp⟩ := hwx
  rw [List.concat_eq_append, ← List.append_assoc] at hp
  obtain ⟨-, he⟩ := List.append_inj' hp rfl
  rw [List.concat_eq_append, he]
  exact List.mem_append_right v List.mem_cons_self

end Php

namespace Fix

open Reader Php

variable {name : BlockName} {c : Conventions}

lemma free_legacyDir (h : Free isQuote (blockDir c)) : Free isQuote (legacyDir c) := by
  have hclass : '/' :: c.classStart <:+ blockDir c := by
    rw [blockDir_eq]
    exact ⟨'/' :: c.blocksDir, rfl⟩
  exact Free.append (s := "/blocks") (by decide) (h.of_suffix hclass)

/-! ### Calls in a relocated text -/

@[simp] lemma relocate_nil : relocate c [] = [] := replaceAll_nil

lemma relocate_append {x : Text} (hx : '/' ∉ x) (t : Text) :
    relocate c (x ++ t) = x ++ relocate c t := by
  apply replaceAll_of_misses
  apply misses_of_notMem _ hx
  intro e s he
  exact if_neg he.symm

lemma registerCall_relocate (hdirs : Free isQuote (blockDir c)) (s : Text) :
    registerCall (relocate c s) = (registerCall s).map (relocate c) := by
  have hlegacy := free_legacyDir hdirs
  unfold relocate
  rw [blockDir_eq] at hdirs ⊢
  rw [legacyDir_eq] at hlegacy ⊢
  exact commutes_registerCall hlegacy hdirs s

/-- The quote at its end keeps a call apart from the text behind it. -/
lemma relocate_call (hdirs : Free isQuote (blockDir c)) {m t : Text}
    (h : registerCall (m ++ t) = some t) :
    relocate c m ≠ [] ∧ relocate c (m ++ t) = relocate c m ++ relocate c t := by
  obtain ⟨inner, ⟨q, hq, rfl⟩, -⟩ := isCall_of_registerCall h
  have hstops := stops_word_of_isQuote hq (free_legacyDir hdirs)
  have hbarrier (x y : Text) : relocate c (x ++ q :: y) = relocate c x ++ q :: relocate c y :=
    replaceAll_barrier (consumes_legacyDir c) hstops x y
  rw [← List.append_assoc]
  generalize ("register_block_type(" : Text) ++ inner = x
  constructor
  · rw [hbarrier]
    simp
  · rw [List.append_assoc, List.singleton_append, hbarrier, hbarrier, relocate_nil, List.append_assoc,
      List.singleton_append]

/-- A call that begins in a text without quotes is read in front of a relocated text, too. -/
lemma registerCall_append_relocate (hdirs : Free isQuote (blockDir c)) {x : Text}
    (hx : Free isQuote x) (t : Text) :
    registerCall (x ++ relocate c t) = (registerCall (x ++ t)).map (relocate c) := by
  by_cases hslash : '/' ∈ x
  · rw [registerCall_eq_none hx hslash, registerCall_eq_none hx hslash]
    rfl
  · rw [← relocate_append hslash, registerCall_relocate hdirs]

/-- Both directories end with the same text, and calls begin in neither of them before that. -/
lemma hits_relocate_legacyDir (hdirs : Free isQuote (blockDir c)) (t : Text) :
    registerCall.matched.hits (relocate c (legacyDir c ++ t)) =
        registerCall.matched.hits (c.classStart ++ relocate c t) ∧
      registerCall.matched.hits (legacyDir c ++ t) = registerCall.matched.hits (c.classStart ++ t) := by
  have hne : legacyDir c ≠ [] := by simp [legacyDir_eq]
  have hmoved : relocate c (legacyDir c ++ t) = blockDir c ++ relocate c t :=
    replaceAll_match hne (word_append _ t)
  have hfront : Free isQuote ('/' :: c.blocksDir) := by
    intro d hd
    apply hdirs d
    rw [blockDir_eq, ← List.cons_append]
    exact List.mem_append_left _ hd
  constructor
  · rw [hmoved, blockDir_eq, ← List.cons_append, List.append_assoc, List.cons_append]
    exact hits_registerCall_slash hfront _
  · rw [legacyDir_eq, ← List.cons_append, List.append_assoc, List.cons_append]
    exact hits_registerCall_slash (x := "/blocks") (by decide) _

lemma hits_append_relocate_call (hdirs : Free isQuote (blockDir c)) {x t m u : Text} (hx : '/' ∉ x)
    (heq : x ++ t = m ++ u) (hcall : registerCall (m ++ u) = some u) :
    registerCall.matched.hits (x ++ relocate c t) =
      relocate c m :: registerCall.matched.hits (relocate c u) := by
  obtain ⟨hne, hparts⟩ := relocate_call hdirs hcall
  have hmoved := registerCall_relocate hdirs (m ++ u)
  rw [hcall, Option.map_some, hparts] at hmoved
  rw [← relocate_append hx, heq, hparts, hits_match hne hmoved]

/-- The calls of a text, with a part in front of it that is not relocated. What both directories end
with is such a part, and a call may begin in it. -/
lemma hits_append_relocate (hdirs : Free isQuote (blockDir c)) {x : Text} (hx : Free isQuote x)
    (t : Text) :
    registerCall.matched.hits (x ++ relocate c t) =
      (registerCall.matched.hits (x ++ t)).map (relocate c) := by
  -- On the length: a call is read, a directory is replaced, or a character is passed.
  induction hn : (x ++ t).length using Nat.strong_induction_on generalizing x t with
  | _ n ih =>
    have hmoved := registerCall_append_relocate hdirs hx t
    cases hcall : registerCall (x ++ t) with
    | some u =>
      obtain ⟨m, hm, heq⟩ := consumes_registerCall _ _ hcall
      have hslash : '/' ∉ x := by
        intro hmem
        rw [registerCall_eq_none hx hmem] at hcall
        exact absurd hcall (by simp)
      have hlt : u.length < n := by
        have hpos := List.length_pos_of_ne_nil hm
        rw [← hn, heq, List.length_append]
        omega
      have hrest := ih u.length hlt (x := []) (by decide) u rfl
      rw [List.nil_append, List.nil_append] at hrest
      rw [heq] at hcall
      rw [hits_append_relocate_call hdirs hslash heq hcall, heq, hits_match hm hcall, List.map_cons,
        hrest]
    | none =>
      rw [hcall, Option.map_none] at hmoved
      cases x with
      | cons d x =>
        have hfree : Free isQuote x := hx.of_suffix (List.suffix_cons d x)
        have hlt : (x ++ t).length < n := by
          rw [← hn, List.cons_append, List.length_cons]
          omega
        rw [List.cons_append] at hcall hmoved ⊢
        rw [List.cons_append, hits_cons hcall, hits_cons hmoved]
        exact ih _ hlt hfree t rfl
      | nil =>
        rw [List.nil_append] at hcall hmoved hn
        rw [List.nil_append, List.nil_append]
        cases hdir : word (legacyDir c) t with
        | some u =>
          obtain rfl := word_eq_some_iff.1 hdir
          have hclass : Free isQuote c.classStart :=
            (free_legacyDir hdirs).of_suffix ⟨"/blocks/", rfl⟩
          have hlt : (c.classStart ++ u).length < n := by
            rw [← hn, legacyDir_eq]
            simp only [List.length_append, List.length_cons]
            omega
          obtain ⟨hnew, hold⟩ := hits_relocate_legacyDir hdirs u
          rw [hnew, hold]
          exact ih _ hlt hclass u rfl
        | none =>
          cases t with
          | nil => rw [relocate_nil, hits_nil, List.map_nil]
          | cons d t =>
            have hcopied : relocate c (d :: t) = d :: relocate c t := replaceAll_cons hdir
            rw [hcopied] at hmoved ⊢
            rw [hits_cons hcall, hits_cons hmoved]
            rw [List.length_cons] at hn
            exact ih t.length (by omega) (x := []) (by decide) t rfl

/-- The calls of a relocated text are the relocated calls. -/
lemma hits_relocate (hdirs : Free isQuote (blockDir c)) (s : Text) :
    registerCall.matched.hits (relocate c s) =
      (registerCall.matched.hits s).map (relocate c) :=
  hits_append_relocate hdirs (x := []) (by decide) s

/-! ### The block's name in the calls -/

lemma registeredDirs_callWith (hdirs : Free isQuote (blockDir c)) (content : Text) :
    registeredDirs c (callWith content) = callWith (registeredDirs c content) := by
  unfold registeredDirs
  split
  · rfl
  · have hopen : relocate c "register_block_type(" = "register_block_type(" := by
      have h := relocate_append (c := c) (x := "register_block_type(") (by decide) []
      rwa [relocate_nil, List.append_nil] at h
    have hparts := replaceAll_word_callWith (by simp [legacyDir_eq]) (free_legacyDir hdirs) hopen
      content []
    rwa [List.append_nil, replaceAll_nil, List.append_nil] at hparts

lemma hits_registeredDirs (hdirs : Free isQuote (blockDir c)) (s : Text) :
    registerCall.matched.hits (registeredDirs c s) =
      (registerCall.matched.hits s).map (registeredDirs c) := by
  unfold registeredDirs
  split
  · rw [List.map_id']
  · exact hits_relocate hdirs s

lemma hits_registeredName (hsafe : name.isLiteralSafe = true) (source : Text) :
    registerCall.matched.hits (registeredName name source) =
      List.replicate (registerCall.matched.hits source).length (callWith name.identifier) := by
  rw [registeredName, if_pos hsafe]
  exact Pattern.hits_of_scan_put (scan_callWith (free_identifier hsafe) source)

lemma registers_callWith_iff {content identifier : Text} :
    Registers (callWith content) identifier ↔ content = identifier := by
  have hshape : callWith content = "register_block_type(" ++ ('\'' :: (content ++ ['\''])) := by
    have h := callWith_append content []
    rwa [List.append_nil] at h
  constructor
  · rintro ⟨ws, q, hws, -, q', -, heq⟩
    rw [hshape] at heq
    have hinner := List.append_cancel_left heq
    cases ws with
    | nil =>
      rw [List.nil_append, List.cons_append, List.cons.injEq] at hinner
      exact (List.append_inj' hinner.2 rfl).1
    | cons d ws =>
      have hd : '\'' = d := (List.cons.inj hinner).1
      have hblank := hws d List.mem_cons_self
      rw [← hd] at hblank
      exact absurd hblank (by decide)
  · rintro rfl
    exact ⟨[], '\'', by decide, by decide, '\'', by decide, hshape⟩

end Fix

variable {b : Bundle} {c : Conventions}

open Reader Php BlockAudit.Fix

/-- The calls of a fixed registration register the block when no directory is replaced. When the block's
directory has no quotes in it, the fixed registration has as many calls as there were, each with the
block's name as the replacing of directories leaves it. So they all register the block unless there is a
call and the block's name has a legacy directory in it that is replaced. -/
theorem registers_fix_iff (hsafe : (b.name c).isLiteralSafe = true) :
    let calls := registerCall.matched.hits b.registration
    let fixedCalls := registerCall.matched.hits (b.fix c).bundle.registration
    (Text.occurs (legacyDir c) (blockDir c) = true ∨
        Text.occurs (legacyDir c) (registeredName (b.name c) b.registration) = false →
      fixedCalls.length = calls.length ∧ ∀ m ∈ fixedCalls, Registers m b.identifier) ∧
    (Free isQuote (blockDir c) →
      fixedCalls = List.replicate calls.length
          ("register_block_type('" ++ registeredDirs c b.identifier ++ ['\'']) ∧
        ((∀ m ∈ fixedCalls, Registers m b.identifier) ↔
          calls = [] ∨ Text.occurs (legacyDir c) (blockDir c) = true ∨
            Text.occurs (legacyDir c) b.identifier = false)) := by
  intro calls fixedCalls
  have hfixed : (b.fix c).bundle.registration =
      registeredDirs c (registeredName (b.name c) b.registration) := by
    rw [bundle_fix]
    rfl
  have hnamed : registerCall.matched.hits (registeredName (b.name c) b.registration) =
      List.replicate calls.length (callWith b.identifier) :=
    hits_registeredName hsafe b.registration
  constructor
  · intro hkept
    have hcalls : fixedCalls = List.replicate calls.length (callWith b.identifier) := by
      change registerCall.matched.hits (b.fix c).bundle.registration = _
      rw [hfixed, registeredDirs_eq_self_iff.2 hkept, hnamed]
    rw [hcalls, List.length_replicate]
    refine ⟨rfl, fun m hm => ?_⟩
    rw [List.eq_of_mem_replicate hm]
    exact registers_callWith_iff.2 rfl
  · intro hdirs
    have hcalls : fixedCalls =
        List.replicate calls.length (callWith (registeredDirs c b.identifier)) := by
      change registerCall.matched.hits (b.fix c).bundle.registration = _
      rw [hfixed, hits_registeredDirs hdirs, hnamed, List.map_replicate,
        registeredDirs_callWith hdirs]
    refine ⟨hcalls, ?_⟩
    rw [hcalls, ← registeredDirs_eq_self_iff, ← List.length_eq_zero_iff]
    constructor
    · intro hall
      by_cases hnone : calls.length = 0
      · exact .inl hnone
      · right
        have hmem : callWith (registeredDirs c b.identifier) ∈
            List.replicate calls.length (callWith (registeredDirs c b.identifier)) :=
          List.mem_replicate.2 ⟨hnone, rfl⟩
        exact registers_callWith_iff.1 (hall _ hmem)
    · rintro (hnone | hname) m hm
      · rw [hnone] at hm
        exact absurd hm List.not_mem_nil
      · rw [List.eq_of_mem_replicate hm]
        exact registers_callWith_iff.2 hname

/-- A block of the given name, whose registration has a single call in it. -/
def registering (identifier : Text) : Bundle where
  config := []
  registration := "register_block_type( 'demo', $args );"
  render := []
  editorScript := []
  sharedScript := []
  style := []
  metadata := [("name", .string identifier)]

/-- The name `cm/demo` is written into the call and stays there. The name `cm/blocks/cm-demo` does
not. -/
theorem registers_fix_registering :
    let kept := registering "cm/demo"
    let moved := registering "cm/blocks/cm-demo"
    (kept.name {}).isLiteralSafe = true ∧ (moved.name {}).isLiteralSafe = true ∧
      Free isQuote (blockDir {}) ∧
      (∀ m ∈ registerCall.matched.hits (kept.fix {}).bundle.registration, Registers m "cm/demo") ∧
      registerCall.matched.hits (moved.fix {}).bundle.registration =
        ["register_block_type('cm/cm-blocks/cm-demo'"] ∧
      ¬ ∀ m ∈ registerCall.matched.hits (moved.fix {}).bundle.registration,
        Registers m "cm/blocks/cm-demo" := by
  intro kept moved
  have hkept : (kept.name {}).isLiteralSafe = true := by decide
  have hmoved : (moved.name {}).isLiteralSafe = true := by decide
  have hdirs : Free isQuote (blockDir {}) := by decide
  have hname : Text.occurs (legacyDir {}) kept.identifier = false := by decide
  have hcall : registerCall.matched.hits moved.registration ≠ [] := by decide +kernel
  have hinside : ¬ (Text.occurs (legacyDir {}) (blockDir {}) = true ∨
      Text.occurs (legacyDir {}) moved.identifier = false) := by decide
  obtain ⟨hcalls, hiff⟩ := (registers_fix_iff hmoved).2 hdirs
  refine ⟨hkept, hmoved, hdirs, ((registers_fix_iff hkept).2 hdirs).2.2 (.inr (.inr hname)), ?_, ?_⟩
  · rw [hcalls]
    decide +kernel
  · intro hall
    rcases hiff.1 hall with hnone | hnot
    · exact hcall hnone
    · exact hinside hnot

/-- A call of a fixed registration may hold another name than the block's. -/
theorem not_registers_fix_legacyName :
    ¬ ∀ (b : Bundle) (c : Conventions), (b.name c).isLiteralSafe = true →
      ∀ m ∈ registerCall.matched.hits (b.fix c).bundle.registration, Registers m b.identifier := by
  intro h
  have hcalls : registerCall.matched.hits
      ((registering "cm/blocks/cm-demo").fix {}).bundle.registration =
        [callWith "cm/cm-blocks/cm-demo"] := by decide +kernel
  have hsafe : ((registering "cm/blocks/cm-demo").name {}).isLiteralSafe = true := by decide
  have hcall := h (registering "cm/blocks/cm-demo") {} hsafe
  rw [hcalls] at hcall
  have hname := registers_callWith_iff.1 (hcall _ List.mem_cons_self)
  exact absurd hname (by decide)

/-- A directory with a quote in it can be a call, which is written wherever the legacy one was. -/
example :
    let c : Conventions := { blocksDir := "register_block_type('x'" }
    registerCall.matched.hits (relocate c "'/blocks/cm-'") = ["register_block_type('x'"] := by
  decide +kernel

end BlockAudit
