import BlockAudit.Section.Split
import Mathlib.Data.List.Nodup

/-!
# Repeated sections

One pass over the sections of a response keeps the files that it has met and the files that it has met
a second time. Whatever sections have passed, the second list holds exactly the files with two of them,
in the order of the places of their second sections.
-/

namespace BlockAudit

namespace Section

variable {file : BlockFile} {s : Section} {sections passed : List Section}
  {seen found : List BlockFile}

/-- The number of sections for a file. -/
def countFor (file : BlockFile) (sections : List Section) : Nat :=
  sections.countP fun s => s.1 = file

/-- The place of the second section for a file among all sections; their number if the file has no
second one. -/
def secondPlace (file : BlockFile) (sections : List Section) : Nat :=
  sections.findIdxNth (fun s => s.1 = file) 1

/-- One more section lifts the number of its own file over the next bound, and no other number. -/
lemma le_countFor_concat {bound : Nat} :
    bound ≤ countFor file (passed ++ [s]) ↔
      bound ≤ countFor file passed ∨ file = s.1 ∧ bound = countFor s.1 passed + 1 := by
  have hcount : countFor file (passed ++ [s]) =
      countFor file passed + if s.1 = file then 1 else 0 := by
    simp [countFor, List.countP_append, List.countP_singleton]
  rw [hcount]
  by_cases hfile : file = s.1
  · subst hfile
    simp only [if_true, true_and]
    omega
  · simp [hfile, Ne.symm hfile]

/-! ### The place of the second section -/

lemma getElem?_findIdxs (h : 2 ≤ countFor file sections) :
    (sections.findIdxs fun s => s.1 = file)[1]? = some (secondPlace file sections) := by
  have hlength : 1 < (sections.findIdxs fun s => s.1 = file).length := by
    rw [List.length_findIdxs]
    exact h
  rw [List.getElem?_eq_getElem hlength, List.getElem_findIdxs_eq_findIdxNth]
  rfl

/-- A file that has its second section keeps the place of it. -/
lemma secondPlace_concat (h : 2 ≤ countFor file passed) (s : Section) :
    secondPlace file (passed ++ [s]) = secondPlace file passed := by
  have hlength : 1 < (passed.findIdxs fun s => s.1 = file).length := by
    rw [List.length_findIdxs]
    exact h
  apply Option.some.inj
  rw [← getElem?_findIdxs (le_countFor_concat.2 (.inl h)), ← getElem?_findIdxs h,
    List.findIdxs_append, List.getElem?_append_left hlength]

/-- The second section of a file stands behind all that have passed before it. -/
lemma secondPlace_concat_second (h : countFor s.1 passed = 1) :
    secondPlace s.1 (passed ++ [s]) = passed.length := by
  have htwo : 2 ≤ countFor s.1 (passed ++ [s]) := le_countFor_concat.2 (.inr ⟨rfl, by rw [h]⟩)
  have hlength : (passed.findIdxs fun t => t.1 = s.1).length = 1 := by
    rw [List.length_findIdxs]
    exact h
  apply Option.some.inj
  rw [← getElem?_findIdxs htwo, List.findIdxs_append, List.getElem?_append_right (by omega), hlength]
  simp

/-! ### The pass -/

/-- What the two lists of the pass hold when some sections have passed. -/
structure Noted (passed : List Section) (seen found : List BlockFile) : Prop where
  mem_seen : ∀ file, file ∈ seen ↔ 1 ≤ countFor file passed
  mem_found : ∀ file, file ∈ found ↔ 2 ≤ countFor file passed
  ordered : found.Pairwise fun f g => secondPlace f passed < secondPlace g passed

lemma noted_nil : Noted [] [] [] where
  mem_seen file := by simp [countFor]
  mem_found file := by simp [countFor]
  ordered := .nil

namespace Noted

lemma ordered_concat (h : Noted passed seen found) (s : Section) :
    found.Pairwise fun f g => secondPlace f (passed ++ [s]) < secondPlace g (passed ++ [s]) := by
  refine List.Pairwise.imp_of_mem ?_ h.ordered
  intro f g hf hg hlt
  rwa [secondPlace_concat ((h.mem_found f).1 hf), secondPlace_concat ((h.mem_found g).1 hg)]

lemma first (h : Noted passed seen found) (hs : s.1 ∉ seen) :
    Noted (passed ++ [s]) (seen ++ [s.1]) found := by
  have hcount : countFor s.1 passed = 0 := by
    have hless := mt (h.mem_seen s.1).2 hs
    omega
  refine ⟨fun file => ?_, fun file => ?_, h.ordered_concat s⟩
  · simp [le_countFor_concat, h.mem_seen, hcount]
  · simp [le_countFor_concat, h.mem_found, hcount]

lemma second (h : Noted passed seen found) (hs : s.1 ∈ seen) (hf : s.1 ∉ found) :
    Noted (passed ++ [s]) seen (found ++ [s.1]) := by
  have hcount : countFor s.1 passed = 1 := by
    have hone := (h.mem_seen s.1).1 hs
    have hless := mt (h.mem_found s.1).2 hf
    omega
  refine ⟨fun file => ?_, fun file => ?_, ?_⟩
  · simp [le_countFor_concat, h.mem_seen, hcount]
  · simp [le_countFor_concat, h.mem_found, hcount]
  · rw [List.pairwise_append]
    refine ⟨h.ordered_concat s, List.pairwise_singleton _ _, ?_⟩
    intro f hmem g hg
    -- a file that is listed already has its second section among those that have passed
    have htwo := (h.mem_found f).1 hmem
    rw [List.mem_singleton.1 hg, secondPlace_concat_second hcount, secondPlace_concat htwo]
    exact List.findIdxNth_lt_length_of_lt_countP htwo

lemma later (h : Noted passed seen found) (hf : s.1 ∈ found) : Noted (passed ++ [s]) seen found := by
  have hcount := (h.mem_found s.1).1 hf
  refine ⟨fun file => ?_, fun file => ?_, h.ordered_concat s⟩
  · rw [h.mem_seen, le_countFor_concat]
    omega
  · rw [h.mem_found, le_countFor_concat]
    omega

/-- The pass over the rest of the sections notes them as well. -/
lemma exists_repeatsFrom (h : Noted passed seen found) (rest : List Section) :
    ∃ seen', Noted (passed ++ rest) seen' (repeatsFrom seen found (rest.map Prod.fst)) := by
  induction rest generalizing passed seen found with
  | nil =>
    rw [List.append_nil]
    exact ⟨seen, h⟩
  | cons s rest ih =>
    rw [List.append_cons, List.map_cons, repeatsFrom]
    by_cases hs : s.1 ∈ seen
    · rw [if_pos (List.contains_iff_mem.2 hs)]
      by_cases hf : s.1 ∈ found
      · rw [if_pos (List.contains_iff_mem.2 hf)]
        exact ih (h.later hf)
      · rw [if_neg (mt List.contains_iff_mem.1 hf)]
        exact ih (h.second hs hf)
    · rw [if_neg (mt List.contains_iff_mem.1 hs)]
      exact ih (h.first hs)

lemma nodup (h : Noted passed seen found) : found.Nodup := by
  refine h.ordered.imp ?_
  rintro f g hlt rfl
  exact Nat.lt_irrefl _ hlt

end Noted

/-- The repeated files of a response are those with two sections or more. Each of them is listed once,
and their order is that of the places of their second sections. -/
theorem repeated_exact (response : Text) :
    (∀ file, file ∈ repeated response ↔ 2 ≤ countFor file (splitAll response)) ∧
      (repeated response).Nodup ∧
      (repeated response).Pairwise fun f g =>
        secondPlace f (splitAll response) < secondPlace g (splitAll response) := by
  obtain ⟨seen, hnoted⟩ := noted_nil.exists_repeatsFrom (splitAll response)
  exact ⟨hnoted.mem_found, hnoted.nodup, hnoted.ordered⟩

/-- Neither the order of the first sections nor that of the files counts. -/
example :
    repeated "---CONFIG_PHP\n---EDITOR_JS\n---EDITOR_JS\n---CONFIG_PHP\n---EDITOR_JS\n" =
      [.editorScript, .config] := by
  decide +kernel

end Section

end BlockAudit
