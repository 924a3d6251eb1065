import BlockAudit.BlockName
import BlockAudit.Proofs.Lines
import Mathlib.Data.List.SplitBy

/-!
# Names that tell blocks apart

A slug is made of segments with hyphens between them. The name of a block's class has its segments between
underscores, so they can be read back from it. Where the segments are run together, as in the names of the
global variable and of the namespace, a segment begins at every upper-case letter, provided that all of them
begin with a letter.
-/

namespace BlockAudit

/-- The characters of slugs, hyphens left out. -/
def isSegmentChar (ch : Char) : Bool := ch.isLower || ch.isDigit

/-- One or more lower-case letters and digits. -/
structure IsSegment (part : Text) : Prop where
  visible : part ≠ []
  chars : ∀ ch ∈ part, isSegmentChar ch = true

/-- A segment that begins with a letter. -/
structure IsWordSegment (part : Text) : Prop extends IsSegment part where
  letter : ∀ ch ∈ part.head?, ch.isLower = true

instance : DecidablePred IsSegment := fun part =>
  decidable_of_iff (part ≠ [] ∧ part.all isSegmentChar = true)
    ⟨fun h => ⟨h.1, List.all_eq_true.1 h.2⟩, fun h => ⟨h.visible, List.all_eq_true.2 h.chars⟩⟩

instance : DecidablePred IsWordSegment := fun part =>
  decidable_of_iff (IsSegment part ∧ part.head?.all Char.isLower = true)
    ⟨fun h => ⟨h.1, (Option.all_eq_true _ _).1 h.2⟩,
      fun h => ⟨h.toIsSegment, (Option.all_eq_true _ _).2 h.letter⟩⟩

/-- The slug has one or more parts, of the given kind, with single hyphens between them. -/
def IsSlugOf (kind : Text → Prop) (slug : Text) : Prop :=
  ∃ parts : List Text, parts ≠ [] ∧ (∀ part ∈ parts, kind part) ∧ slug = Text.joinWith ['-'] parts

lemma IsSlugOf.imp {kind kind' : Text → Prop} {slug : Text} (h : IsSlugOf kind slug)
    (hkind : ∀ part, kind part → kind' part) : IsSlugOf kind' slug := by
  obtain ⟨parts, hne, hparts, hslug⟩ := h
  exact ⟨parts, hne, fun part hpart => hkind part (hparts part hpart), hslug⟩

lemma of_isSegmentChar {P : Char → Prop}
    (h : ∀ n < 128, isSegmentChar (Char.ofNat n) = true → P (Char.ofNat n)) {ch : Char}
    (hch : isSegmentChar ch = true) : P ch := by
  have hvalue : ((decide (97 ≤ ch.val) && decide (ch.val ≤ 122)) ||
      (decide (48 ≤ ch.val) && decide (ch.val ≤ 57))) = true := hch
  have hrange : (97 ≤ ch.toNat ∧ ch.toNat ≤ 122) ∨ 48 ≤ ch.toNat ∧ ch.toNat ≤ 57 := by
    simpa [UInt32.le_iff_toNat_le] using hvalue
  exact Text.of_ascii (P := fun ch => isSegmentChar ch = true → P ch) h (by omega) hch

/-- A character of a segment is read back from its upper case. -/
lemma upperChar_spec {ch : Char} (h : isSegmentChar ch = true) :
    Text.upperChar ch = [ch.toUpper] ∧ ch.toUpper.toLower = ch ∧ ch.toUpper ≠ '_' ∧
      ch.toUpper.isUpper = ch.isLower :=
  of_isSegmentChar (P := fun ch => Text.upperChar ch = [ch.toUpper] ∧ ch.toUpper.toLower = ch ∧
    ch.toUpper ≠ '_' ∧ ch.toUpper.isUpper = ch.isLower) (by decide +kernel) h

lemma isSegmentChar_spec {ch : Char} (h : isSegmentChar ch = true) :
    ch ≠ '-' ∧ ch ≠ '_' ∧ ch.isUpper = false :=
  of_isSegmentChar (P := fun ch => ch ≠ '-' ∧ ch ≠ '_' ∧ ch.isUpper = false) (by decide +kernel) h

namespace IsSegment

variable {part : Text}

lemma exists_cons (h : IsSegment part) : ∃ ch rest, part = ch :: rest ∧
    isSegmentChar ch = true ∧ (∀ d ∈ rest, isSegmentChar d = true) ∧
    BlockName.capitalize part = ch.toUpper :: rest := by
  obtain ⟨ch, rest, rfl⟩ := List.exists_cons_of_ne_nil h.visible
  obtain ⟨hch, hrest⟩ := List.forall_mem_cons.1 h.chars
  refine ⟨ch, rest, rfl, hch, hrest, ?_⟩
  rw [BlockName.capitalize, (upperChar_spec hch).1]
  rfl

lemma hyphen_notMem (h : IsSegment part) : '-' ∉ part :=
  fun hmem => (isSegmentChar_spec (h.chars _ hmem)).1 rfl

lemma modifyHead_capitalize (h : IsSegment part) :
    (BlockName.capitalize part).modifyHead Char.toLower = part := by
  obtain ⟨ch, rest, rfl, hch, -, hcapital⟩ := h.exists_cons
  rw [hcapital, List.modifyHead_cons, (upperChar_spec hch).2.1]

lemma underscore_notMem_capitalize (h : IsSegment part) : '_' ∉ BlockName.capitalize part := by
  obtain ⟨ch, rest, rfl, hch, hrest, hcapital⟩ := h.exists_cons
  rw [hcapital, List.mem_cons, not_or]
  exact ⟨fun heq => (upperChar_spec hch).2.2.1 heq.symm,
    fun hmem => (isSegmentChar_spec (hrest _ hmem)).2.1 rfl⟩

end IsSegment

lemma eq_of_map_capitalize {parts parts' : List Text} (hparts : ∀ part ∈ parts, IsSegment part)
    (hparts' : ∀ part ∈ parts', IsSegment part)
    (h : parts.map BlockName.capitalize = parts'.map BlockName.capitalize) : parts = parts' := by
  have hread (parts : List Text) (hparts : ∀ part ∈ parts, IsSegment part) :
      (parts.map BlockName.capitalize).map (List.modifyHead Char.toLower) = parts := by
    rw [List.map_map]
    calc parts.map (List.modifyHead Char.toLower ∘ BlockName.capitalize)
      _ = parts.map id :=
        List.map_congr_left fun part hpart => (hparts part hpart).modifyHead_capitalize
      _ = parts := List.map_id parts
  rw [← hread parts hparts, h, hread parts' hparts']

/-! ### Segments between separators -/

lemma splitOn_flatMap {d : Char} {parts : List Text} (h : ∀ part ∈ parts, d ∉ part) :
    Text.splitOn d (parts.flatMap ([d] ++ ·)) = [] :: parts := by
  have hjoin : parts.flatMap ([d] ++ ·) = Text.joinWith [d] ([] :: parts) := by
    rw [Text.joinWith_cons, List.nil_append]
  rw [hjoin]
  exact Text.splitOn_joinWith (List.cons_ne_nil _ _)
    (List.forall_mem_cons.2 ⟨List.not_mem_nil, h⟩)

lemma IsSlugOf.segments {kind : Text → Prop} {name : BlockName} (h : IsSlugOf kind name.slug)
    (hkind : ∀ part, kind part → IsSegment part) :
    (∀ part ∈ name.segments, kind part) ∧ name.slug = Text.joinWith ['-'] name.segments := by
  obtain ⟨parts, hne, hparts, hslug⟩ := h
  have hsegments : name.segments = parts := by
    rw [BlockName.segments, hslug,
      Text.splitOn_joinWith hne fun part hpart => (hkind part (hparts part hpart)).hyphen_notMem,
      List.filter_eq_self]
    intro part hpart
    simpa using (hkind part (hparts part hpart)).visible
  rw [hsegments]
  exact ⟨hparts, hslug⟩

/-- The segments of a name are read back from the name of the class. -/
lemma segments_eq_of_configClass {n m : BlockName} {c : Conventions}
    (hn : ∀ part ∈ n.segments, IsSegment part) (hm : ∀ part ∈ m.segments, IsSegment part)
    (h : n.configClass c = m.configClass c) : n.segments = m.segments := by
  have hread (name : BlockName) (hname : ∀ part ∈ name.segments, IsSegment part) :
      Text.splitOn '_' ((name.segments.map BlockName.capitalize ++ [("Config" : Text)]).flatMap
        (['_'] ++ ·)) = [] :: (name.segments.map BlockName.capitalize ++ [("Config" : Text)]) := by
    refine splitOn_flatMap fun part hpart => ?_
    rcases List.mem_append.1 hpart with hpart | hpart
    · obtain ⟨segment, hsegment, rfl⟩ := List.mem_map.1 hpart
      exact (hname segment hsegment).underscore_notMem_capitalize
    · obtain rfl := List.mem_singleton.1 hpart
      decide
  -- the conventions' namespace may have underscores of its own; both names begin with it
  unfold BlockName.configClass at h
  rw [List.cons_append, List.cons_append, Text.joinWith_cons, Text.joinWith_cons] at h
  have hparts := congrArg (Text.splitOn '_') (List.append_cancel_left h)
  rw [hread n hn, hread m hm] at hparts
  exact eq_of_map_capitalize hn hm (List.append_cancel_right (List.cons.inj hparts).2)

/-! ### Segments run together -/

/-- In a capitalized segment no upper-case letter follows another character. -/
lemma IsSegment.isChain_capitalize {part : Text} (h : IsSegment part) :
    (BlockName.capitalize part).IsChain fun _ ch => (!ch.isUpper) = true := by
  obtain ⟨ch, rest, rfl, -, hrest, hcapital⟩ := h.exists_cons
  have hlower : ∀ d ∈ rest, (!d.isUpper) = true := fun d hd => by
    rw [(isSegmentChar_spec (hrest d hd)).2.2]
    rfl
  rw [hcapital]
  exact (List.pairwise_cons.2
    ⟨hlower, List.pairwise_of_forall_mem_list fun _ _ d hd => hlower d hd⟩).isChain

lemma IsWordSegment.exists_cons_capitalize {part : Text} (h : IsWordSegment part) :
    ∃ u rest, BlockName.capitalize part = u :: rest ∧ u.isUpper = true := by
  obtain ⟨ch, rest, rfl, hch, -, hcapital⟩ := h.exists_cons
  exact ⟨ch.toUpper, rest, hcapital, by rw [(upperChar_spec hch).2.2.2, h.letter ch rfl]⟩

/-- Where capitalized segments are run together, one of them begins at each upper-case letter. -/
lemma splitBy_flatMap_capitalize {parts : List Text} (h : ∀ part ∈ parts, IsWordSegment part) :
    (parts.flatMap BlockName.capitalize).splitBy (fun _ ch => !ch.isUpper) =
      parts.map BlockName.capitalize := by
  have hcapital : ∀ part ∈ parts.map BlockName.capitalize,
      (∃ u rest, part = u :: rest ∧ u.isUpper = true) ∧
        part.IsChain fun _ ch => (!ch.isUpper) = true := by
    intro part hpart
    obtain ⟨segment, hsegment, rfl⟩ := List.mem_map.1 hpart
    exact ⟨(h segment hsegment).exists_cons_capitalize, (h segment hsegment).isChain_capitalize⟩
  -- inside a capitalized segment there is no upper-case letter behind another character, and the next
  -- segment begins with one
  rw [List.flatMap_def]
  refine List.splitBy_flatten (fun hnil => ?_) (fun part hpart => (hcapital part hpart).2) ?_
  · obtain ⟨⟨u, rest, hpart, -⟩, -⟩ := hcapital [] hnil
    exact List.cons_ne_nil u rest hpart.symm
  · refine (List.pairwise_of_forall_mem_list ?_).isChain
    intro part hpart next hnext
    obtain ⟨⟨d, more, rfl, -⟩, -⟩ := hcapital part hpart
    obtain ⟨⟨u, rest, rfl, hu⟩, -⟩ := hcapital next hnext
    exact ⟨List.cons_ne_nil d more, List.cons_ne_nil u rest, by rw [List.head_cons, hu]; rfl⟩

lemma segments_eq_of_pascal {n m : BlockName} (hn : ∀ part ∈ n.segments, IsWordSegment part)
    (hm : ∀ part ∈ m.segments, IsWordSegment part) (h : n.pascal = m.pascal) :
    n.segments = m.segments := by
  have hparts := congrArg (List.splitBy fun _ ch => !ch.isUpper) h
  rw [BlockName.pascal, BlockName.pascal, splitBy_flatMap_capitalize hn,
    splitBy_flatMap_capitalize hm] at hparts
  exact eq_of_map_capitalize (fun part hpart => (hn part hpart).toIsSegment)
    (fun part hpart => (hm part hpart).toIsSegment) hparts

lemma pascal_eq_of_jsGlobal {n m : BlockName} {c : Conventions} (h : n.jsGlobal c = m.jsGlobal c) :
    n.pascal = m.pascal :=
  List.append_cancel_left (List.append_cancel_right h)

lemma pascal_eq_of_phpNamespace {n m : BlockName} {c : Conventions}
    (h : n.phpNamespace c = m.phpNamespace c) : n.pascal = m.pascal :=
  List.append_cancel_left h

/-- Names of blocks whose slugs are made of segments have different classes if they have different slugs. If
their segments begin with letters, the segments run together, the global variables and the namespaces are
different as well. In the conventions' namespace, names with one slug are equal. -/
theorem slug_eq_of_derived_eq (x y : Text) (c : Conventions)
    (hx : IsSlugOf IsSegment (BlockName.derive x c).slug)
    (hy : IsSlugOf IsSegment (BlockName.derive y c).slug) :
    let n := BlockName.derive x c
    let m := BlockName.derive y c
    (n.configClass c = m.configClass c → n.slug = m.slug) ∧
    (IsSlugOf IsWordSegment n.slug → IsSlugOf IsWordSegment m.slug →
      n.pascal = m.pascal ∨ n.jsGlobal c = m.jsGlobal c ∨ n.phpNamespace c = m.phpNamespace c →
        n.slug = m.slug) ∧
    (c.nameStart <+: x → c.nameStart <+: y → n.slug = m.slug → x = y) := by
  intro n m
  refine ⟨fun h => ?_, fun hn hm h => ?_, fun hxstart hystart h => ?_⟩
  · obtain ⟨hnparts, hnslug⟩ := hx.segments fun _ => id
    obtain ⟨hmparts, hmslug⟩ := hy.segments fun _ => id
    rw [hnslug, hmslug, segments_eq_of_configClass hnparts hmparts h]
  · obtain ⟨hnparts, hnslug⟩ := hn.segments fun _ => IsWordSegment.toIsSegment
    obtain ⟨hmparts, hmslug⟩ := hm.segments fun _ => IsWordSegment.toIsSegment
    have hpascal : n.pascal = m.pascal := by
      rcases h with h | h | h
      · exact h
      · exact pascal_eq_of_jsGlobal h
      · exact pascal_eq_of_phpNamespace h
    rw [hnslug, hmslug, segments_eq_of_pascal hnparts hmparts hpascal]
  · obtain ⟨rest, rfl⟩ := hxstart
    obtain ⟨rest', rfl⟩ := hystart
    have hslug (rest : Text) : BlockName.slugOf (c.nameStart ++ rest) c = rest := by
      rw [BlockName.slugOf, Text.after?_eq_some_iff.2 rfl]
      rfl
    have hrest : BlockName.slugOf (c.nameStart ++ rest) c =
        BlockName.slugOf (c.nameStart ++ rest') c := h
    rw [← hslug rest, hrest, hslug]

-- a digit behind the hyphen is not told from a digit without a hyphen in front of it
example : (BlockName.derive "cm/tab-2" {}).pascal = (BlockName.derive "cm/tab2" {}).pascal := by
  decide +kernel

theorem slug_eq_of_derived_eq_heroImage :
    let n := BlockName.derive "cm/hero-image2" {}
    let m := BlockName.derive "acme/hero-image2" {}
    IsSlugOf IsSegment n.slug ∧ IsSlugOf IsSegment m.slug ∧ IsSlugOf IsWordSegment n.slug ∧
      IsSlugOf IsWordSegment m.slug ∧ n.configClass {} = m.configClass {} ∧ n.pascal = m.pascal ∧
      n.slug = m.slug := by
  intro n m
  have hslug : IsSlugOf IsWordSegment "hero-image2" :=
    ⟨["hero", "image2"], by decide +kernel, by decide +kernel, by decide +kernel⟩
  have hn : n.slug = "hero-image2".toList := by decide +kernel
  have hm : m.slug = "hero-image2".toList := by decide +kernel
  have hnword : IsSlugOf IsWordSegment n.slug := hn ▸ hslug
  have hmword : IsSlugOf IsWordSegment m.slug := hm ▸ hslug
  have hnsegment := hnword.imp fun _ => IsWordSegment.toIsSegment
  have hmsegment := hmword.imp fun _ => IsWordSegment.toIsSegment
  have hclass : n.configClass {} = m.configClass {} := by decide +kernel
  have hpascal : n.pascal = m.pascal := by decide +kernel
  obtain ⟨hread, -, -⟩ := slug_eq_of_derived_eq "cm/hero-image2" "acme/hero-image2" {} hnsegment
    hmsegment
  exact ⟨hnsegment, hmsegment, hnword, hmword, hclass, hpascal, hread hclass⟩

end BlockAudit
