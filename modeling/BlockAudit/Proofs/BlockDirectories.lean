import BlockAudit.Proofs.CommandChanges

/-!
# The directory of a block

A block's own directory is one plain name below the root: what a name would have to hold to lead anywhere
else, a slash, a backslash or a name for a directory itself or the one above, is replaced or refused.
Below that directory the seven files are written in order. A write that fails ends the run with the files
before it in place, and with nothing else changed but the directories made on the way and the file that
was open when the disk failed, which keeps the bytes written up to then.
-/

namespace BlockAudit

namespace Bundle

open FileTree (waysTo)

variable {b : Bundle} {root name : Text} {t t' : FileTree} {file : BlockFile} {place : Place}
  {files : List BlockFile} {cut : Option BlockFile}

/-- The block's name with hyphens in the place of slashes. -/
def hyphenated (b : Bundle) : Text := b.identifier.map fun c => if c = '/' then '-' else c

lemma slash_notMem_hyphenated (b : Bundle) : '/' ∉ b.hyphenated := by
  intro hmem
  obtain ⟨c, -, hc⟩ := List.mem_map.1 hmem
  split_ifs at hc with hslash
  · exact absurd hc (by decide)
  · exact hslash hc

lemma directoryName_of_empty (h : b.hyphenated = []) : b.directoryName = .error .nameMissing := by
  unfold hyphenated at h
  rw [directoryName, h]
  rfl

lemma directoryName_of_refused
    (h : b.hyphenated = Path.here ∨ b.hyphenated = Path.above ∨ '\\' ∈ b.hyphenated) :
    b.directoryName = .error (.nameNotDirectory b.identifier) := by
  have hvisible : ¬b.hyphenated.isEmpty = true := by
    rw [List.isEmpty_iff]
    intro hempty
    rw [hempty] at h
    exact absurd h (by decide)
  rw [← List.contains_iff_mem] at h
  unfold hyphenated at h hvisible
  rw [directoryName, if_neg hvisible, if_pos h]

/-- Any other name is one step down from the root. -/
lemma directoryName_of_plain (h : Path.IsPlain b.hyphenated) (hback : '\\' ∉ b.hyphenated) :
    b.directoryName = .ok b.hyphenated := by
  have hvisible : ¬b.hyphenated.isEmpty = true := by
    rw [List.isEmpty_iff]
    exact h.ne_nil
  have hallowed : ¬(b.hyphenated = Path.here ∨ b.hyphenated = Path.above ∨
      b.hyphenated.contains '\\' = true) := by
    rw [List.contains_iff_mem]
    exact not_or.2 ⟨h.ne_here, not_or.2 ⟨h.ne_above, hback⟩⟩
  unfold hyphenated at hvisible hallowed
  rw [directoryName, if_neg hvisible, if_neg hallowed]
  rfl

/-! ### Where the files are -/

/-- A file in a directory of a plain name is two steps down from the root of that directory. -/
lemma exists_of_located_below (hname : Path.IsPlain name)
    (h : t.locatePath (Path.join (Path.join root name) file.fileName) = .ok place) :
    ∃ home, t.locateDirectory root = .ok home ∧ t.entry? (home ++ [name]) = some .directory ∧
      place = home ++ [name, file.fileName] := by
  obtain ⟨inner, hinner, hdirectory, rfl⟩ :=
    FileTree.exists_of_locatePath_join (isPlain_fileName file) h
  have hne : (Path.join root name).isEmpty = false := by
    unfold Path.join
    split_ifs <;> simp [hname.ne_nil]
  rw [FileTree.locateDirectory, hne] at hinner
  obtain ⟨home, hhome, -, rfl⟩ := FileTree.exists_of_locatePath_join hname hinner
  exact ⟨home, hhome, hdirectory, by simp⟩

/-! ### How far the writes go -/

/-- The first files of a block, in canonical order, have been written into its directory below the root,
and the next one may have been cut short. What else has changed is a directory that was missing, the
block's own or one on the way to it. -/
structure FirstWritten (b : Bundle) (root name : Text) (count : Nat) (cut : Option BlockFile)
    (t t' : FileTree) : Prop where
  workingDirectory : t'.workingDirectory = t.workingDirectory
  stored : ∀ file ∈ BlockFile.all.take count, ∃ home, t'.locateDirectory root = .ok home ∧
    t'.entry? (home ++ [name]) = some .directory ∧
    b.StoredAt (Path.join root name) t' file (home ++ [name, file.fileName])
  cutShort : ∀ file ∈ cut, BlockFile.all[count]? = some file ∧ ∃ home,
    t'.locateDirectory root = .ok home ∧ t'.entry? (home ++ [name]) = some .directory ∧
    b.CutAt (Path.join root name) t' file (home ++ [name, file.fileName])
  others : ∀ place,
    (∀ file ∈ BlockFile.all.take count, ¬b.StoredAt (Path.join root name) t' file place) →
    (∀ file ∈ cut, ¬b.CutAt (Path.join root name) t' file place) →
    t'.entry? place = t.entry? place ∨ t.entry? place = none ∧ t'.entry? place = some .directory ∧
      ∃ route ∈ waysTo (Path.join root name), t'.locate route = .ok place

lemma firstWritten_of_partWritten {count : Nat} (hname : Path.IsPlain name)
    (h : PartWritten b (Path.join root name) files cut t t')
    (hfiles : BlockFile.all.take count = files) (hnext : ∀ file ∈ cut, BlockFile.all[count]? = some file) :
    FirstWritten b root name count cut t t' := by
  subst hfiles
  refine ⟨h.workingDirectory, fun file hfile => ?_, fun file hfile => ⟨hnext file hfile, ?_⟩,
    fun place hstored hcut => ?_⟩
  · obtain ⟨place, hthere⟩ := h.stored file hfile
    obtain ⟨home, hhome, hdirectory, rfl⟩ := exists_of_located_below hname hthere.located
    exact ⟨home, hhome, hdirectory, hthere⟩
  · obtain ⟨place, hthere⟩ := h.cutShort file hfile
    obtain ⟨home, hhome, hdirectory, rfl⟩ := exists_of_located_below hname hthere.located
    exact ⟨home, hhome, hdirectory, hthere⟩
  · rcases h.entries place with hsame | ⟨file, hfile, hthere⟩ | ⟨file, hfile, hthere⟩ | hmade
    · exact .inl hsame
    · exact absurd hthere (hstored file hfile)
    · exact absurd hthere (hcut file hfile)
    · exact .inr hmade

/-- With no file cut short, a file that is not as it was has a text of the block. -/
lemma FirstWritten.exists_text {count : Nat} {bytes : ByteArray}
    (h : FirstWritten b root name count none t t') (hentry : t'.entry? place = some (.file bytes))
    (hchanged : t'.entry? place ≠ t.entry? place) : ∃ file, bytes = Text.toUtf8 (b.text file) := by
  by_contra hnone
  have hstored : ∀ file ∈ BlockFile.all.take count,
      ¬b.StoredAt (Path.join root name) t' file place := fun file _ hthere =>
    hnone ⟨file, Entry.file.inj (Option.some.inj (hentry.symm.trans hthere.entry))⟩
  rcases h.others place hstored (by simp) with hsame | ⟨-, hdirectory, -⟩
  · exact hchanged hsame
  · rw [hentry] at hdirectory
    cases hdirectory

/-- The files up to one of the seven are as many as the number of that one. -/
lemma take_of_all_eq {before after : List BlockFile} (hall : BlockFile.all = before ++ file :: after) :
    BlockFile.all.take before.length = before ∧ BlockFile.all[before.length]? = some file ∧
      before.length < 7 := by
  have hseven : BlockFile.all.length = 7 := rfl
  rw [← hseven, hall]
  simp

/-- However the writing of a block ends, the first files of it are written. -/
lemma exists_firstWritten (b : Bundle) (root : Text) (t : FileTree) (disk : Disk)
    (hname : Path.IsPlain name) :
    ∃ count cut,
      FirstWritten b root name count cut t (b.writeFiles (Path.join root name) t disk).1 ∧
      ((b.writeFiles (Path.join root name) t disk).2 = .ok () ∧ count = 7 ∧ cut = none ∨
        ∃ cause, (b.writeFiles (Path.join root name) t disk).2 = .error (.fileFailed cause) ∧
          count < 7 ∧ ∀ file ∈ cut, ∃ room fault, cause = .disk fault ∧
            disk.limit? (Path.join (Path.join root name) (BlockFile.fileName file)) =
              some (room, fault)) := by
  have hends := writingEnds b (Path.join root name) t disk
  generalize b.writeFiles (Path.join root name) t disk = result at hends ⊢
  cases hends with
  | done h => exact ⟨7, none, firstWritten_of_partWritten hname h rfl (by simp), .inl ⟨rfl, rfl, rfl⟩⟩
  | stopped hfiles h e =>
    obtain ⟨htake, -, hless⟩ := take_of_all_eq hfiles
    exact ⟨_, none, firstWritten_of_partWritten hname h htake (by simp),
      .inr ⟨e, rfl, hless, by simp⟩⟩
  | @cut before after file left room cause hfiles h hlimit =>
    obtain ⟨htake, hnext, hless⟩ := take_of_all_eq hfiles
    refine ⟨_, some file, firstWritten_of_partWritten hname h htake ?_,
      .inr ⟨.disk cause, rfl, hless, ?_⟩⟩
    · rintro _ ⟨⟩
      exact hnext
    · rintro _ ⟨⟩
      exact ⟨room, cause, rfl, hlimit⟩

/-- A block whose name is empty, is a name for a directory itself or the one above, or has a backslash in
it is refused, and the tree stays as it is. Any other block is written right below the root, whatever the
disk does: all seven files are there and the path of their directory is the answer, or a file operation
failed and the files before it, in canonical order, are there. If it failed because the disk did not take
all of an open file, that file is there with the first bytes of its text. Nothing else has changed but
directories that were missing on the way. -/
theorem writeBelow_contained (b : Bundle) (root : Text) (t : FileTree) (disk : Disk) :
    (b.hyphenated = [] → b.writeBelow root t disk = (t, .error .nameMissing)) ∧
      (b.hyphenated = Path.here ∨ b.hyphenated = Path.above ∨ '\\' ∈ b.hyphenated →
        b.writeBelow root t disk = (t, .error (.nameNotDirectory b.identifier))) ∧
      (b.hyphenated ≠ [] → b.hyphenated ≠ Path.here → b.hyphenated ≠ Path.above →
        '\\' ∉ b.hyphenated →
        ∃ count cut,
          FirstWritten b root b.hyphenated count cut t (b.writeBelow root t disk).1 ∧
          ((b.writeBelow root t disk).2 = .ok (Path.join root b.hyphenated) ∧ count = 7 ∧
              cut = none ∨
            ∃ cause, (b.writeBelow root t disk).2 = .error (.fileFailed cause) ∧ count < 7 ∧
              ∀ file ∈ cut, ∃ room fault, cause = .disk fault ∧
                disk.limit? (Path.join (Path.join root b.hyphenated) (BlockFile.fileName file)) =
                  some (room, fault))) := by
  refine ⟨fun h => ?_, fun h => ?_, fun hvisible hhere habove hback => ?_⟩
  · rw [writeBelow, directoryName_of_empty h]
  · rw [writeBelow, directoryName_of_refused h]
  · have hplain : Path.IsPlain b.hyphenated :=
      ⟨hvisible, slash_notMem_hyphenated b, hhere, habove⟩
    obtain ⟨count, cut, hfirst, hend⟩ := exists_firstWritten b root t disk hplain
    rw [writeBelow_eq (directoryName_of_plain hplain hback)]
    refine ⟨count, cut, hfirst, ?_⟩
    rcases hend with ⟨hok, hall⟩ | ⟨cause, herror, hless⟩
    · rw [hok]
      exact .inl ⟨rfl, hall⟩
    · rw [herror]
      exact .inr ⟨cause, rfl, hless⟩

/-- A block whose name would lead out of the root. -/
def straying : Bundle where
  config := "<?php"
  registration := []
  render := []
  editorScript := []
  sharedScript := []
  style := []
  metadata := [("name", .string "/../etc")]

/-- An older block has the second file. -/
def oldBlock : FileTree where
  entries := [(["out"], .directory), (["out", "-..-etc"], .directory),
    (["out", "-..-etc", "config.php"], .file (Text.toUtf8 "<?php // old"))]

/-- A disk that has room for two bytes of the second file. -/
def fullDisk : Disk where
  limit? path := if path = "out/-..-etc/config.php".toList then some (2, .full) else none

lemma eq_config_of_fullDisk {room : Nat} {fault : DiskError}
    (h : fullDisk.limit? (Path.join (Path.join "out" straying.hyphenated) file.fileName) =
      some (room, fault)) : file = .config := by
  by_contra hother
  have hroom : (fullDisk.limit?
      (Path.join (Path.join "out" straying.hyphenated) file.fileName)).isNone := by
    revert hother
    cases file <;> decide +kernel
  rw [h] at hroom
  cases hroom

lemma entry?_writeBelow_fullDisk :
    FileTree.entry? (straying.writeBelow "out" oldBlock fullDisk).1
      ["out", "-..-etc", "config.php"] = some (.file (Text.toUtf8 "<?")) := by decide +kernel

lemma FirstWritten.cut_ne_none_fullDisk {count : Nat}
    (h : FirstWritten straying "out" straying.hyphenated count cut oldBlock
      (straying.writeBelow "out" oldBlock fullDisk).1) : cut ≠ none := by
  rintro rfl
  have hchanged : FileTree.entry? (straying.writeBelow "out" oldBlock fullDisk).1
      ["out", "-..-etc", "config.php"] ≠ oldBlock.entry? ["out", "-..-etc", "config.php"] := by
    decide +kernel
  obtain ⟨file, htext⟩ := h.exists_text entry?_writeBelow_fullDisk hchanged
  revert htext
  cases file <;> decide +kernel

/-- The disk is full after two bytes of the second file. -/
theorem writeBelow_contained_halfway :
    straying.hyphenated = "-..-etc".toList ∧
      (straying.writeBelow "out" oldBlock fullDisk).2 = .error (.fileFailed (.disk .full)) ∧
      FirstWritten straying "out" straying.hyphenated 1 (some .config) oldBlock
        (straying.writeBelow "out" oldBlock fullDisk).1 := by
  have hstopped : (straying.writeBelow "out" oldBlock fullDisk).2 =
      .error (.fileFailed (.disk .full)) := by decide +kernel
  refine ⟨by decide, hstopped, ?_⟩
  obtain ⟨-, -, hwritten⟩ := writeBelow_contained straying "out" oldBlock fullDisk
  obtain ⟨count, cut, hfirst, hend⟩ :=
    hwritten (by decide) (by decide) (by decide) (by decide)
  rw [hstopped] at hend
  obtain ⟨hok, -⟩ | ⟨cause, -, hless, hcut⟩ := hend
  · cases hok
  obtain ⟨file, rfl⟩ := Option.ne_none_iff_exists'.1 hfirst.cut_ne_none_fullDisk
  obtain ⟨room, fault, -, hlimit⟩ := hcut file rfl
  obtain rfl := eq_config_of_fullDisk hlimit
  have hone : ∀ count < 7, BlockFile.all[count]? = some .config → count = 1 := by decide
  rwa [hone count hless (hfirst.cutShort .config rfl).1] at hfirst

/-- What the second file holds on the full disk is neither its text nor what it held. And a root that
goes up leaves a directory on the way that is not above the block's own. -/
theorem not_firstWritten_fullDisk :
    ((straying.writeBelow "out" oldBlock fullDisk).2 = .error (.fileFailed (.disk .full)) ∧
      FileTree.entry? (straying.writeBelow "out" oldBlock fullDisk).1
        ["out", "-..-etc", "config.php"] = some (.file (Text.toUtf8 "<?")) ∧
      ¬∃ count, FirstWritten straying "out" straying.hyphenated count none oldBlock
        (straying.writeBelow "out" oldBlock fullDisk).1) ∧
    let result := straying.writeBelow "x/../y" {}
    result.2 = .ok "x/../y/-..-etc" ∧
      FileTree.locateDirectory result.1 "x/../y/-..-etc" = .ok ["y", "-..-etc"] ∧
      FileTree.entry? result.1 ["x"] = some .directory ∧ ¬["x"] <+: ["y", "-..-etc"] := by
  refine ⟨⟨by decide +kernel, entry?_writeBelow_fullDisk, ?_⟩, by decide +kernel, by decide +kernel,
    by decide +kernel, by decide⟩
  rintro ⟨count, hfirst⟩
  exact hfirst.cut_ne_none_fullDisk rfl

end Bundle

end BlockAudit
