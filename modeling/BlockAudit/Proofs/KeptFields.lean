import BlockAudit.Proofs.FixedBundle

/-!
# What the fixes keep

The fixes own six keys of the metadata. A key that a fix writes to stays in its place when it is there,
and only the keywords and the attributes are written when they are missing. So no key is lost or
moved, and two keys at most are added at the end. Inside the values that the fixes own, what a user wrote
into the keywords and the attributes is kept in its order.
-/

namespace BlockAudit

namespace Json

namespace Fields

variable {fields : Fields} {key : Text}

/-- A missing key is added at the end. -/
lemma set_of_missing (h : fields.get? key = none) (value : Json) :
    fields.set key value = fields ++ [(key, value)] := by
  induction fields with
  | nil => rfl
  | cons field rest ih =>
    obtain ⟨k, v⟩ := field
    rw [get?, List.lookup_cons] at h
    by_cases hk : k = key
    · rw [hk, beq_self_eq_true] at h
      exact absurd h (by simp)
    · have hne : (key == k) = false := by simpa using Ne.symm hk
      rw [hne] at h
      rw [set, if_neg hk, ih h, List.cons_append]

lemma keys_set_of_some {old : Json} (h : fields.get? key = some old) (value : Json) :
    (fields.set key value).keys = fields.keys := by
  induction fields with
  | nil => exact absurd h (by simp [get?])
  | cons field rest ih =>
    obtain ⟨k, v⟩ := field
    rw [set]
    by_cases hk : k = key
    · rw [if_pos hk, ← hk]
      rfl
    · have hne : (key == k) = false := by simpa using Ne.symm hk
      rw [get?, List.lookup_cons, hne] at h
      rw [if_neg hk]
      exact congrArg (k :: ·) (ih h)

/-- The keys, and after them those of the given ones that are missing. -/
def keysWith (fields : Fields) (added : List Text) : List Text :=
  fields.keys ++ added.filter fun key => (fields.get? key).isNone

lemma keysWith_of_some {old : Json} (h : fields.get? key = some old) :
    fields.keysWith [key] = fields.keys := by
  simp [keysWith, h]

lemma keys_set (value : Json) : (fields.set key value).keys = fields.keysWith [key] := by
  cases h : fields.get? key with
  | none =>
    rw [set_of_missing h]
    simp [keys, keysWith, h]
  | some old => rw [keys_set_of_some h, keysWith_of_some h]

end Fields

end Json

namespace Fix

open Json

variable {name : BlockName} {c : Conventions} {metadata : Fields}

/-! ### Keys -/

lemma keys_keywords (c : Conventions) (metadata : Fields) :
    (leaves metadata (keywords c metadata)).keys = metadata.keysWith ["keywords"] := by
  unfold keywords
  dsimp only
  split
  · next h => exact (Fields.keysWith_of_some h).symm
  · exact Fields.keys_set _

lemma keys_replaceLegacy (metadata : Fields) (paths : List LegacyPath) :
    (replaceLegacy metadata paths).1.keys = metadata.keys := by
  induction paths generalizing metadata with
  | nil => rfl
  | cons path paths ih =>
    rw [replaceLegacy]
    split
    · next h =>
      obtain ⟨old, hold, -⟩ := Option.bind_eq_some_iff.1 h
      dsimp only
      rw [ih, Fields.keys_set_of_some hold]
    · exact ih metadata

lemma keys_exampleAttribute (metadata : Fields) :
    (leaves metadata (exampleAttribute metadata)).keys = metadata.keysWith ["attributes"] := by
  unfold exampleAttribute
  cases hget : metadata.get? "attributes" with
  | none => exact Fields.keys_set _
  | some value =>
    have hkept := (Fields.keysWith_of_some hget).symm
    cases value with
    | null => exact Fields.keys_set _
    | object attributes =>
      dsimp only
      split
      · exact hkept
      · exact Fields.keys_set _
    | _ => exact hkept

lemma keys_replaceScalars (metadata : Fields) (lists : List (Text × Json)) :
    (replaceScalars metadata lists).1.keys = metadata.keys := by
  induction lists generalizing metadata with
  | nil => rfl
  | cons entry lists ih =>
    rw [replaceScalars]
    split
    · next h =>
      cases hget : metadata.get? entry.1 with
      | none => exact absurd h (by rw [hget]; decide)
      | some old =>
        dsimp only
        rw [ih, Fields.keys_set_of_some hget]
    · exact ih metadata

/-- Only two keys are ever added. -/
lemma keys_fixMetadata (name : BlockName) (c : Conventions) (metadata : Fields) :
    (fixMetadata name c metadata).keys = metadata.keysWith ["keywords", "attributes"] := by
  have hassets (metadata : Fields) : (leaves metadata (assetLists name c metadata)).keys =
      metadata.keys := by
    rw [leaves_assetLists]
    split
    · rfl
    · exact keys_replaceScalars metadata _
  have hmissing : ∀ key ∈ [("attributes" : Text)],
      ((replaceLegacy (leaves metadata (keywords c metadata)) legacyPaths).1.get? key).isNone =
        (metadata.get? key).isNone := by
    intro key hkey
    rw [List.mem_singleton.1 hkey, get?_replaceLegacy_of_notMem (by decide), get?_keywords (by decide)]
  unfold fixMetadata
  dsimp only
  rw [hassets, keys_exampleAttribute, Fields.keysWith, leaves_legacyAssetPaths, keys_replaceLegacy,
    keys_keywords, Fields.keysWith, List.append_assoc, List.filter_congr hmissing, ← List.filter_append]
  rfl

/-! ### Values -/

lemma string?_eq_some_iff {item : Json} {s : Text} : item.string? = some s ↔ item = .string s := by
  cases item with
  | string t => simp [Json.string?]
  | _ => simp [Json.string?]

lemma withExample_object (attributes : Fields) :
    withExample (some (.object attributes)) = some (.object (attributes ++
      (if (attributes.get? "isExample").isSome then [] else [("isExample", exampleFlag)] : Fields))) := by
  unfold withExample
  dsimp only
  cases h : attributes.get? "isExample" with
  | none => rw [Fields.set_of_missing h]; rfl
  | some old => simp

lemma withList_of_list {list value : Json} (h : value = .null ∨ ∃ items, value = .array items) :
    withList name list (some value) = some value := by
  have hscalar : isScalar (some value) = false := by
    rcases h with rfl | ⟨items, rfl⟩
    · rfl
    · rfl
  unfold withList
  simp [hscalar]

lemma withPath_of_list {path : LegacyPath} {value : Json}
    (h : value = .null ∨ ∃ items, value = .array items) : withPath path (some value) = some value := by
  apply if_neg
  rcases h with rfl | ⟨items, rfl⟩
  · simp [Json.string?]
  · simp [Json.string?]

lemma get?_fixMetadata_of_list {key : Text} (hkey : key ∈ assetKeys) {value : Json}
    (hget : metadata.get? key = some value) (h : value = .null ∨ ∃ items, value = .array items) :
    (fixMetadata name c metadata).get? key = some value := by
  have hcases : key = "editorStyle" ∨ key = "viewScript" ∨ key = "viewStyle" := by
    simpa only [assetKeys, List.mem_cons, List.not_mem_nil, or_false] using hkey
  rcases hcases with rfl | rfl | rfl
  · rw [get?_editorStyle_fixMetadata, hget, withPath_of_list h, withList_of_list h]
  · rw [get?_list_fixMetadata (List.mem_cons_of_mem _ List.mem_cons_self) (by decide) (by decide)
      (by decide), hget, withList_of_list h]
  · rw [get?_list_fixMetadata (List.mem_cons_of_mem _ (List.mem_cons_of_mem _ List.mem_cons_self))
      (by decide) (by decide) (by decide), hget, withList_of_list h]

/-- What is kept of the metadata. -/
structure KeepsMetadata (c : Conventions) (old new : Fields) : Prop where
  /-- No key is lost or moved. -/
  keys : new.keys =
    old.keys ++ ["keywords", "attributes"].filter fun key => (old.get? key).isNone
  /-- The values of other keys are the same. -/
  others : ∀ key ∉ fixedKeys, new.get? key = old.get? key
  /-- The prescribed keyword leads the other ones, which keep their order. -/
  keywords : new.get? "keywords" =
    some (.array (.string c.keyword :: (keywordList old).filter (· ≠ .string c.keyword)))
  /-- One attribute at most is added. -/
  attributes : ∀ attributes, old.get? "attributes" = some (.object attributes) →
    new.get? "attributes" = some (.object (attributes ++
      (if (Fields.get? attributes "isExample").isSome then [] else [("isExample", exampleFlag)] : Fields)))
  /-- Asset references that are lists, or null, are the same. -/
  assets : ∀ key ∈ assetKeys, ∀ value, old.get? key = some value →
    (value = .null ∨ ∃ items, value = .array items) → new.get? key = some value

lemma keepsMetadata_fixMetadata (name : BlockName) (c : Conventions) (metadata : Fields) :
    KeepsMetadata c metadata (fixMetadata name c metadata) where
  keys := keys_fixMetadata name c metadata
  others := fun key hkey => get?_fixMetadata_of_notMem hkey
  keywords := by
    rw [get?_keywords_fixMetadata, withKeyword]
    congr 4
    funext item
    exact decide_eq_decide.2 (not_congr string?_eq_some_iff)
  attributes := fun attributes hget => by
    rw [get?_attributes_fixMetadata, hget, withExample_object]
  assets := fun key hkey value hget hvalue => get?_fixMetadata_of_list hkey hget hvalue

end Fix

/-- A fix leaves two of the scripts alone, it never changes the block's name, and of the metadata it keeps
all that it does not own. -/
theorem fix_keeps (b : Bundle) (c : Conventions) :
    let fixed := (b.fix c).bundle
    fixed.editorScript = b.editorScript ∧ fixed.sharedScript = b.sharedScript ∧
      (∀ other, fixed.name other = b.name other) ∧
      Fix.KeepsMetadata c b.metadata fixed.metadata := by
  intro fixed
  have hmetadata : fixed.metadata = Fix.fixMetadata (b.name c) c b.metadata := by
    change (b.fix c).bundle.metadata = _
    rw [bundle_fix]
  refine ⟨?_, ?_, fun other => ?_, ?_⟩
  · change (b.fix c).bundle.editorScript = _
    rw [bundle_fix]
  · change (b.fix c).bundle.sharedScript = _
    rw [bundle_fix]
  · unfold Bundle.name
    rw [identifier_fix]
  · rw [hmetadata]
    exact Fix.keepsMetadata_fixMetadata (b.name c) c b.metadata

end BlockAudit
