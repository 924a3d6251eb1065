import BlockAudit.Fix.Metadata
import Mathlib.Data.List.Infix

/-!
# Fixed metadata

The four fixes of the metadata write to six keys. For every key there is one lemma that says what
a fix leaves there, and for every fix one that says when it has nothing to do. The fixed metadata as a
whole are read off key by key.
-/

namespace BlockAudit

namespace Json

namespace Fields

variable {fields : Fields} {key other : Text} {value : Json}

@[simp] lemma get?_set_self : (fields.set key value).get? key = some value := by
  induction fields with
  | nil => simp [set, get?]
  | cons field rest ih =>
    obtain ⟨k, old⟩ := field
    by_cases h : k = key
    · simp [set, get?, h]
    · have hne : (key == k) = false := by simpa using Ne.symm h
      simpa [set, get?, h, List.lookup_cons, hne] using ih

lemma get?_set_of_ne (h : other ≠ key) : (fields.set key value).get? other = fields.get? other := by
  have hbeq : (other == key) = false := by simpa using h
  induction fields with
  | nil => simp [set, get?, List.lookup_cons, hbeq]
  | cons field rest ih =>
    obtain ⟨k, old⟩ := field
    by_cases hk : k = key
    · simp [set, get?, hk, List.lookup_cons, hbeq]
    · simp only [get?] at ih
      simp only [set, hk, get?, List.lookup_cons, ih, ↓reduceIte]

lemma string?_set_of_ne (h : other ≠ key) :
    (fields.set key value).string? other = fields.string? other := by
  rw [string?, get?_set_of_ne h, string?]

end Fields

end Json

namespace Fix

open Json

variable {name : BlockName} {c : Conventions} {metadata : Fields}

/-- What a fix leaves, changed or not. -/
def leaves {α : Type} (old : α) (change : Option (α × Text)) : α := (change.map Prod.fst).getD old

@[simp] lemma leaves_none {α : Type} (old : α) : leaves old none = old := rfl

@[simp] lemma leaves_some {α : Type} (old new : α) (words : Text) :
    leaves old (some (new, words)) = new := rfl

/-! ### Keywords -/

/-- The prescribed keyword leads the list of keywords and does not come again. -/
def KeywordLeads (c : Conventions) (metadata : Fields) : Prop :=
  ∃ others : List Json, (∀ item ∈ others, item.string? ≠ some c.keyword) ∧
    metadata.get? "keywords" = some (.array (.string c.keyword :: others))

lemma keywords_eq_none (h : KeywordLeads c metadata) : keywords c metadata = none := by
  obtain ⟨others, hothers, hget⟩ := h
  have hlist : keywordList metadata = .string c.keyword :: others := by rw [keywordList, hget]
  have hfilter : (keywordList metadata).filter (fun item => item.string? ≠ some c.keyword) =
      others := by
    rw [hlist, List.filter_cons_of_neg (by simp [Json.string?]), List.filter_eq_self]
    intro item hitem
    simpa using hothers item hitem
  unfold keywords
  rw [hfilter, hget]
  exact if_pos rfl

/-- The keywords after the fix. -/
def withKeyword (c : Conventions) (metadata : Fields) : Json :=
  .array (.string c.keyword ::
    (keywordList metadata).filter fun item => item.string? ≠ some c.keyword)

lemma keywordLeads_of_withKeyword {old : Fields}
    (h : metadata.get? "keywords" = some (withKeyword c old)) : KeywordLeads c metadata := by
  refine ⟨_, fun item hitem => ?_, h⟩
  simpa using (List.mem_filter.1 hitem).2

lemma get?_keywords_self (c : Conventions) (metadata : Fields) :
    (leaves metadata (keywords c metadata)).get? "keywords" = some (withKeyword c metadata) := by
  unfold keywords
  dsimp only
  split
  · next h => exact h
  · exact Fields.get?_set_self

lemma get?_keywords {key : Text} (h : key ≠ "keywords") :
    (leaves metadata (keywords c metadata)).get? key = metadata.get? key := by
  unfold keywords
  dsimp only
  split
  · rfl
  · exact Fields.get?_set_of_ne h

/-! ### Legacy paths -/

lemma get?_replaceLegacy_of_notMem {key : Text} {paths : List LegacyPath}
    (h : ∀ path ∈ paths, path.key ≠ key) :
    (replaceLegacy metadata paths).1.get? key = metadata.get? key := by
  induction paths generalizing metadata with
  | nil => rfl
  | cons path paths ih =>
    have hrest : ∀ path ∈ paths, path.key ≠ key := fun p hp => h p (List.mem_cons_of_mem _ hp)
    rw [replaceLegacy]
    split
    · dsimp only
      rw [ih hrest, Fields.get?_set_of_ne (h path List.mem_cons_self).symm]
    · exact ih hrest

/-- Of paths with distinct keys each is replaced where it stands. -/
lemma get?_replaceLegacy {path : LegacyPath} {paths : List LegacyPath}
    (hkeys : paths.Pairwise fun p q => p.key ≠ q.key) (h : path ∈ paths) :
    (replaceLegacy metadata paths).1.get? path.key =
      if metadata.string? path.key = some path.legacy then some (.string path.current)
      else metadata.get? path.key := by
  induction paths generalizing metadata with
  | nil => exact absurd h List.not_mem_nil
  | cons first paths ih =>
    obtain ⟨hfirst, hrest⟩ := List.pairwise_cons.1 hkeys
    rw [replaceLegacy]
    rcases List.mem_cons.1 h with rfl | hmem
    · have hnot : ∀ p ∈ paths, p.key ≠ path.key := fun p hp => (hfirst p hp).symm
      split
      · dsimp only
        rw [get?_replaceLegacy_of_notMem hnot, Fields.get?_set_self]
      · exact get?_replaceLegacy_of_notMem hnot
    · have hne : path.key ≠ first.key := (hfirst path hmem).symm
      split
      · dsimp only
        rw [ih hrest hmem, Fields.string?_set_of_ne hne, Fields.get?_set_of_ne hne]
      · exact ih hrest hmem

lemma replaceLegacy_eq_self {paths : List LegacyPath}
    (h : ∀ path ∈ paths, metadata.string? path.key ≠ some path.legacy) :
    replaceLegacy metadata paths = (metadata, []) := by
  induction paths with
  | nil => rfl
  | cons path paths ih =>
    rw [replaceLegacy, if_neg (h path List.mem_cons_self)]
    exact ih fun p hp => h p (List.mem_cons_of_mem _ hp)

lemma fst_eq_of_replaceLegacy {paths : List LegacyPath}
    (h : (replaceLegacy metadata paths).2 = []) : (replaceLegacy metadata paths).1 = metadata := by
  induction paths with
  | nil => rfl
  | cons path paths ih =>
    rw [replaceLegacy] at h ⊢
    split at h
    · exact absurd h (by simp)
    · next hn =>
      rw [if_neg hn]
      exact ih h

lemma leaves_legacyAssetPaths :
    leaves metadata (legacyAssetPaths metadata) = (replaceLegacy metadata legacyPaths).1 := by
  unfold legacyAssetPaths
  dsimp only
  split
  · next h => exact (fst_eq_of_replaceLegacy (List.isEmpty_iff.1 h)).symm
  · rfl

lemma legacyAssetPaths_eq_none
    (h : ∀ path ∈ legacyPaths, metadata.string? path.key ≠ some path.legacy) :
    legacyAssetPaths metadata = none := by
  unfold legacyAssetPaths
  rw [replaceLegacy_eq_self h]
  rfl

/-! ### The attribute of example blocks -/

/-- The fix has nothing to do: the attributes have that of example blocks, or are of a kind that the fix
leaves alone. -/
def ExampleSettled (metadata : Fields) : Prop :=
  match metadata.get? "attributes" with
  | none | some .null => False
  | some (.object attributes) => (Fields.get? attributes "isExample").isSome
  | some _ => True

lemma exampleAttribute_eq_none (h : ExampleSettled metadata) : exampleAttribute metadata = none := by
  unfold ExampleSettled at h
  unfold exampleAttribute
  cases hget : metadata.get? "attributes" with
  | none => exact absurd h (by rw [hget]; exact id)
  | some value =>
    rw [hget] at h
    cases value with
    | null => exact absurd h id
    | object attributes => exact if_pos h
    | _ => rfl

/-- The attributes after the fix. -/
def withExample : Option Json → Option Json
  | none | some .null => some (.object (Fields.set [] "isExample" exampleFlag))
  | some (.object attributes) =>
    if (Fields.get? attributes "isExample").isSome then some (.object attributes)
    else some (.object (Fields.set attributes "isExample" exampleFlag))
  | some value => some value

lemma get?_attributes_exampleAttribute :
    (leaves metadata (exampleAttribute metadata)).get? "attributes" =
      withExample (metadata.get? "attributes") := by
  unfold exampleAttribute
  cases hget : metadata.get? "attributes" with
  | none => exact Fields.get?_set_self
  | some value =>
    cases value with
    | null => exact Fields.get?_set_self
    | object attributes =>
      unfold withExample
      by_cases hflag : (Fields.get? attributes "isExample").isSome = true
      · simp only [hflag, ↓reduceIte, leaves_none, hget]
      · simp only [hflag, ↓reduceIte, leaves_some, Fields.get?_set_self, Bool.false_eq_true]
    | _ => exact hget

lemma exampleSettled_of_withExample {value : Option Json}
    (h : metadata.get? "attributes" = withExample value) : ExampleSettled metadata := by
  have hset (attributes : Fields) :
      (Fields.get? (Fields.set attributes "isExample" exampleFlag) "isExample").isSome = true := by
    rw [Fields.get?_set_self]
    rfl
  unfold ExampleSettled
  rw [h]
  cases value with
  | none => exact hset []
  | some value =>
    cases value with
    | null => exact hset []
    | object attributes =>
      unfold withExample
      by_cases hflag : (Fields.get? attributes "isExample").isSome = true
      · simp only [hflag, ↓reduceIte]
      · simp only [hflag, ↓reduceIte, Bool.false_eq_true]
        exact hset attributes
    | _ => trivial

lemma get?_exampleAttribute {key : Text} (h : key ≠ "attributes") :
    (leaves metadata (exampleAttribute metadata)).get? key = metadata.get? key := by
  unfold exampleAttribute
  dsimp only
  split
  · rfl
  · split
    · rfl
    · exact Fields.get?_set_of_ne h

/-! ### Asset lists -/

lemma get?_replaceScalars_of_notMem {key : Text} {lists : List (Text × Json)}
    (h : ∀ entry ∈ lists, entry.1 ≠ key) :
    (replaceScalars metadata lists).1.get? key = metadata.get? key := by
  induction lists generalizing metadata with
  | nil => rfl
  | cons entry lists ih =>
    have hrest : ∀ entry ∈ lists, entry.1 ≠ key := fun e he => h e (List.mem_cons_of_mem _ he)
    rw [replaceScalars]
    split
    · dsimp only
      rw [ih hrest, Fields.get?_set_of_ne (h entry List.mem_cons_self).symm]
    · exact ih hrest

/-- Of distinct keys each gets its list where its value is neither null nor a list. -/
lemma get?_replaceScalars {key : Text} {list : Json} {lists : List (Text × Json)}
    (hkeys : lists.Pairwise fun p q => p.1 ≠ q.1) (h : (key, list) ∈ lists) :
    (replaceScalars metadata lists).1.get? key =
      if isScalar (metadata.get? key) then some list else metadata.get? key := by
  induction lists generalizing metadata with
  | nil => exact absurd h List.not_mem_nil
  | cons first lists ih =>
    obtain ⟨hfirst, hrest⟩ := List.pairwise_cons.1 hkeys
    rw [replaceScalars]
    rcases List.mem_cons.1 h with rfl | hmem
    · have hnot : ∀ entry ∈ lists, entry.1 ≠ key := fun e he => (hfirst e he).symm
      dsimp only
      split
      · dsimp only
        rw [get?_replaceScalars_of_notMem hnot, Fields.get?_set_self]
      · exact get?_replaceScalars_of_notMem hnot
    · have hne : key ≠ first.1 := (hfirst (key, list) hmem).symm
      split
      · dsimp only
        rw [ih hrest hmem, Fields.get?_set_of_ne hne]
      · exact ih hrest hmem

lemma replaceScalars_eq_self {lists : List (Text × Json)}
    (h : ∀ entry ∈ lists, isScalar (metadata.get? entry.1) = false) :
    replaceScalars metadata lists = (metadata, []) := by
  induction lists with
  | nil => rfl
  | cons entry lists ih =>
    have hentry : ¬ isScalar (metadata.get? entry.1) = true := by simp [h entry List.mem_cons_self]
    rw [replaceScalars, if_neg hentry]
    exact ih fun e he => h e (List.mem_cons_of_mem _ he)

lemma fst_eq_of_replaceScalars {lists : List (Text × Json)}
    (h : (replaceScalars metadata lists).2 = []) : (replaceScalars metadata lists).1 = metadata := by
  induction lists with
  | nil => rfl
  | cons entry lists ih =>
    rw [replaceScalars] at h ⊢
    split at h
    · exact absurd h (by simp)
    · next hn =>
      rw [if_neg hn]
      exact ih h

lemma leaves_assetLists : leaves metadata (assetLists name c metadata) =
    if name.slug.isEmpty then metadata else (replaceScalars metadata (assetListsOf name c)).1 := by
  unfold assetLists
  split
  · rfl
  · dsimp only
    split
    · next h => exact (fst_eq_of_replaceScalars (List.isEmpty_iff.1 h)).symm
    · rfl

lemma assetLists_eq_none
    (h : name.slug.isEmpty = true ∨
      ∀ entry ∈ assetListsOf name c, isScalar (metadata.get? entry.1) = false) :
    assetLists name c metadata = none := by
  unfold assetLists
  split
  · rfl
  · next hslug =>
    rw [replaceScalars_eq_self (h.resolve_left hslug)]
    rfl

/-! ### The four fixes together -/

/-- The metadata after the four fixes. -/
def fixMetadata (name : BlockName) (c : Conventions) (metadata : Fields) : Fields :=
  let metadata := leaves metadata (keywords c metadata)
  let metadata := leaves metadata (legacyAssetPaths metadata)
  let metadata := leaves metadata (exampleAttribute metadata)
  leaves metadata (assetLists name c metadata)

/-- The value of a key in place of a legacy path, or the value as it was. -/
def withPath (path : LegacyPath) (value : Option Json) : Option Json :=
  if value.bind Json.string? = some path.legacy then some (.string path.current) else value

/-- The value of a key in place of a reference that is no list, or the value as it was. -/
def withList (name : BlockName) (list : Json) (value : Option Json) : Option Json :=
  if name.slug.isEmpty then value else if isScalar value then some list else value

lemma pairwise_legacyPaths : legacyPaths.Pairwise fun p q => p.key ≠ q.key := by decide

lemma pairwise_assetListsOf : (assetListsOf name c).Pairwise fun p q => p.1 ≠ q.1 := by
  unfold assetListsOf
  have hkeys : (("editorStyle" : Text) ≠ "viewScript") ∧ (("editorStyle" : Text) ≠ "viewStyle") ∧
      (("viewScript" : Text) ≠ "viewStyle") := by decide
  simp only [List.pairwise_cons, List.mem_cons, List.not_mem_nil, or_false, forall_eq_or_imp,
    forall_eq, IsEmpty.forall_iff, implies_true, List.Pairwise.nil, and_true]
  exact ⟨⟨hkeys.1, hkeys.2.1⟩, hkeys.2.2⟩

lemma get?_leaves_assetLists {key : Text} {list : Json} (h : (key, list) ∈ assetListsOf name c) :
    (leaves metadata (assetLists name c metadata)).get? key =
      withList name list (metadata.get? key) := by
  rw [leaves_assetLists]
  unfold withList
  split
  · rfl
  · exact get?_replaceScalars pairwise_assetListsOf h

lemma get?_leaves_assetLists_of_notMem {key : Text} (h : ∀ entry ∈ assetListsOf name c, entry.1 ≠ key) :
    (leaves metadata (assetLists name c metadata)).get? key = metadata.get? key := by
  rw [leaves_assetLists]
  split
  · rfl
  · exact get?_replaceScalars_of_notMem h

/-- The keys of asset references. -/
def assetKeys : List Text := ["editorStyle", "viewScript", "viewStyle"]

lemma ne_of_notMem_assetKeys {key : Text} (h : key ∉ assetKeys) :
    ∀ entry ∈ assetListsOf name c, entry.1 ≠ key := by
  have hkeys : (assetListsOf name c).map Prod.fst = assetKeys := rfl
  intro entry hentry heq
  rw [← hkeys, List.mem_map] at h
  exact h ⟨entry, hentry, heq⟩

/-- The keys that the fixes write to. -/
def fixedKeys : List Text :=
  ["keywords", "attributes", "editorScript", "editorStyle", "viewScript", "viewStyle"]

lemma get?_fixMetadata_of_notMem {key : Text} (h : key ∉ fixedKeys) :
    (fixMetadata name c metadata).get? key = metadata.get? key := by
  have hne : ∀ k ∈ fixedKeys, k ≠ key := fun k hk heq => h (heq ▸ hk)
  unfold fixMetadata
  dsimp only
  rw [get?_leaves_assetLists_of_notMem, get?_exampleAttribute, leaves_legacyAssetPaths,
    get?_replaceLegacy_of_notMem, get?_keywords]
  · exact (hne "keywords" (by decide)).symm
  · intro path hpath
    refine hne path.key ?_
    revert path
    decide
  · exact (hne "attributes" (by decide)).symm
  · refine ne_of_notMem_assetKeys fun hmem => ?_
    have hsub : ∀ k ∈ assetKeys, k ∈ fixedKeys := by decide
    exact h (hsub key hmem)

lemma get?_keywords_fixMetadata (name : BlockName) (c : Conventions) (metadata : Fields) :
    (fixMetadata name c metadata).get? "keywords" = some (withKeyword c metadata) := by
  unfold fixMetadata
  dsimp only
  rw [get?_leaves_assetLists_of_notMem (ne_of_notMem_assetKeys (by decide)),
    get?_exampleAttribute (by decide), leaves_legacyAssetPaths,
    get?_replaceLegacy_of_notMem (by decide), get?_keywords_self]

lemma keywordLeads_fixMetadata (name : BlockName) (c : Conventions) (metadata : Fields) :
    KeywordLeads c (fixMetadata name c metadata) :=
  keywordLeads_of_withKeyword (get?_keywords_fixMetadata name c metadata)

lemma get?_attributes_fixMetadata :
    (fixMetadata name c metadata).get? "attributes" = withExample (metadata.get? "attributes") := by
  unfold fixMetadata
  dsimp only
  rw [get?_leaves_assetLists_of_notMem (ne_of_notMem_assetKeys (by decide)),
    get?_attributes_exampleAttribute, leaves_legacyAssetPaths,
    get?_replaceLegacy_of_notMem (by decide), get?_keywords (by decide)]

lemma get?_legacy_fixMetadata {path : LegacyPath} (h : path ∈ legacyPaths) :
    (leaves (leaves metadata (keywords c metadata))
      (legacyAssetPaths (leaves metadata (keywords c metadata)))).get? path.key =
      withPath path (metadata.get? path.key) := by
  have hkey : path.key ≠ "keywords" := by
    revert path
    decide
  rw [leaves_legacyAssetPaths, get?_replaceLegacy pairwise_legacyPaths h]
  unfold Fields.string?
  rw [get?_keywords hkey]
  rfl

/-- The legacy path of the editor's styles. -/
def legacyStyle : LegacyPath := ⟨"editorStyle", "file:./index.css", "file:./centralized.css"⟩

/-- The legacy path of the editor's script. -/
def legacyScript : LegacyPath := ⟨"editorScript", "file:./index.js", "file:./editor.js"⟩

lemma get?_editorScript_fixMetadata :
    (fixMetadata name c metadata).get? "editorScript" =
      withPath legacyScript (metadata.get? "editorScript") := by
  have hmem : legacyScript ∈ legacyPaths := List.mem_cons_self
  unfold fixMetadata
  dsimp only
  rw [get?_leaves_assetLists_of_notMem (ne_of_notMem_assetKeys (by decide)),
    get?_exampleAttribute (by decide)]
  exact get?_legacy_fixMetadata hmem

lemma get?_editorStyle_fixMetadata :
    (fixMetadata name c metadata).get? "editorStyle" =
      withList name (.array [.string (name.handle c "centralized-css"),
        .string "file:./editor-styles.css"]) (withPath legacyStyle (metadata.get? "editorStyle")) := by
  have hmem : legacyStyle ∈ legacyPaths := List.mem_cons_of_mem _ List.mem_cons_self
  unfold fixMetadata
  dsimp only
  rw [get?_leaves_assetLists List.mem_cons_self, get?_exampleAttribute (by decide)]
  exact congrArg _ (get?_legacy_fixMetadata hmem)

lemma get?_list_fixMetadata {key : Text} {list : Json} (h : (key, list) ∈ assetListsOf name c)
    (hkey : ∀ path ∈ legacyPaths, path.key ≠ key) (hkeywords : key ≠ "keywords")
    (hattributes : key ≠ "attributes") :
    (fixMetadata name c metadata).get? key = withList name list (metadata.get? key) := by
  unfold fixMetadata
  dsimp only
  rw [get?_leaves_assetLists h, get?_exampleAttribute hattributes, leaves_legacyAssetPaths,
    get?_replaceLegacy_of_notMem hkey, get?_keywords hkeywords]

lemma isScalar_withList {list : List Json} (hslug : name.slug.isEmpty = false)
    (value : Option Json) : isScalar (withList name (.array list) value) = false := by
  unfold withList
  rw [hslug]
  by_cases h : isScalar value = true
  · rw [if_neg Bool.false_ne_true, if_pos h]
    rfl
  · rw [if_neg Bool.false_ne_true, if_neg h]
    simpa using h

/-! ### Nothing is left to do -/

lemma keywords_fixMetadata : keywords c (fixMetadata name c metadata) = none :=
  keywords_eq_none (keywordLeads_fixMetadata name c metadata)

lemma exampleAttribute_fixMetadata : exampleAttribute (fixMetadata name c metadata) = none :=
  exampleAttribute_eq_none (exampleSettled_of_withExample get?_attributes_fixMetadata)

lemma withPath_ne_legacy {path : LegacyPath} (h : path.current ≠ path.legacy) (value : Option Json) :
    (withPath path value).bind Json.string? ≠ some path.legacy := by
  unfold withPath
  split
  · intro heq
    exact h (Option.some.inj heq)
  · next hne => exact hne

lemma legacyAssetPaths_fixMetadata : legacyAssetPaths (fixMetadata name c metadata) = none := by
  refine legacyAssetPaths_eq_none fun path hpath => ?_
  have hcases : path = legacyScript ∨ path = legacyStyle := by
    rcases List.mem_cons.1 hpath with h | h
    · exact .inl h
    · exact .inr (List.mem_singleton.1 h)
  unfold Fields.string?
  rcases hcases with rfl | rfl
  · change ((fixMetadata name c metadata).get? "editorScript").bind Json.string? ≠ _
    rw [get?_editorScript_fixMetadata]
    exact withPath_ne_legacy (by decide) _
  · change ((fixMetadata name c metadata).get? "editorStyle").bind Json.string? ≠ _
    rw [get?_editorStyle_fixMetadata]
    unfold withList
    split
    · exact withPath_ne_legacy (by decide) _
    · split
      · simp only [Option.bind_some, Json.string?, ne_eq, reduceCtorEq, not_false_eq_true]
      · exact withPath_ne_legacy (by decide) _

lemma assetLists_fixMetadata : assetLists name c (fixMetadata name c metadata) = none := by
  refine assetLists_eq_none ?_
  cases hslug : name.slug.isEmpty with
  | true => exact .inl rfl
  | false =>
    right
    intro entry hentry
    have hcases : entry.1 = "editorStyle" ∨ entry.1 = "viewScript" ∨ entry.1 = "viewStyle" := by
      unfold assetListsOf at hentry
      simp only [List.mem_cons, List.not_mem_nil, or_false] at hentry
      rcases hentry with rfl | rfl | rfl
      · exact .inl rfl
      · exact .inr (.inl rfl)
      · exact .inr (.inr rfl)
    rcases hcases with h | h | h
    · rw [h, get?_editorStyle_fixMetadata]
      exact isScalar_withList hslug _
    · rw [h, get?_list_fixMetadata (List.mem_cons_of_mem _ List.mem_cons_self) (by decide)
        (by decide) (by decide)]
      exact isScalar_withList hslug _
    · rw [h, get?_list_fixMetadata
        (List.mem_cons_of_mem _ (List.mem_cons_of_mem _ List.mem_cons_self)) (by decide)
        (by decide) (by decide)]
      exact isScalar_withList hslug _

end Fix

end BlockAudit
