import BlockAudit.Proofs.StoredBlocks

/-!
# What commands change

Three of the commands write. One writes a block below a root, one writes back the block that it fixed,
and one writes the settings. What is written is decided before the first write: an audit that fails
leaves the tree alone. A run that fails halfway leaves a part of what it would have written, with at most
one file cut short, and nothing else.
-/

namespace BlockAudit

namespace Bundle

open FileTree (MadeAlong waysTo)

variable {b : Bundle} {dir : Text} {t t' made between : FileTree} {file : BlockFile}
  {files : List BlockFile} {cut : Option BlockFile} {disk : Disk}

/-- Some files of the block have been written into its directory, and one more may have been cut short.
What else has changed is a directory that was missing, the block's own or one on the way to it. -/
structure PartWritten (b : Bundle) (dir : Text) (files : List BlockFile) (cut : Option BlockFile)
    (t t' : FileTree) : Prop where
  workingDirectory : t'.workingDirectory = t.workingDirectory
  stored : ∀ file ∈ files, ∃ place, b.StoredAt dir t' file place
  cutShort : ∀ file ∈ cut, ∃ place, b.CutAt dir t' file place
  entries : ∀ place, t'.entry? place = t.entry? place ∨
    (∃ file ∈ files, b.StoredAt dir t' file place) ∨ (∃ file ∈ cut, b.CutAt dir t' file place) ∨
    t.entry? place = none ∧ t'.entry? place = some .directory ∧
      ∃ route ∈ waysTo dir, t'.locate route = .ok place

namespace PartWritten

lemma of_rewritten (hmade : MadeAlong (waysTo dir) t made)
    (h : Rewritten b dir files made t') : PartWritten b dir files none t t' := by
  refine ⟨(hmade.grows.trans h.grows).workingDirectory, h.stored, by simp, fun place => ?_⟩
  rcases h.entries place with hsame | hstored
  · rw [hsame]
    rcases hmade.entries place with hold | ⟨hmissing, hdirectory, route, hroute, hplace⟩
    · exact .inl hold
    · exact .inr (.inr (.inr ⟨hmissing, hdirectory, route, hroute, h.grows.locate hplace⟩))
  · exact .inr (.inl hstored)

lemma cutOff (h : PartWritten b dir files none t between) (hcut : CutOff b dir file between t')
    (hnew : file ∉ files) : PartWritten b dir files (some file) t t' := by
  refine ⟨hcut.grows.workingDirectory.trans h.workingDirectory, fun other hother => ?_, ?_,
    fun place => ?_⟩
  · obtain ⟨place, hplace⟩ := h.stored other hother
    exact ⟨place, hplace.cutOff hcut fun heq => hnew (heq ▸ hother)⟩
  · rintro _ ⟨⟩
    exact hcut.cut
  · rcases hcut.entries place with hsame | hthere
    · rcases h.entries place with hold | ⟨other, hother, hstored⟩ | ⟨other, hother, -⟩ |
        ⟨hmissing, hdirectory, route, hroute, hplace⟩
      · exact .inl (hsame.trans hold)
      · exact .inr (.inl ⟨other, hother, hstored.grown hcut.grows hsame⟩)
      · cases hother
      · exact .inr (.inr (.inr
          ⟨hmissing, hsame.trans hdirectory, route, hroute, hcut.grows.locate hplace⟩))
    · exact .inr (.inr (.inl ⟨file, rfl, hthere⟩))

end PartWritten

/-- The ways in which the writing of a block ends. -/
inductive WritingEnds (b : Bundle) (dir : Text) (disk : Disk) (t : FileTree) :
    FileTree × Except Error Unit → Prop
  | done {written : FileTree} (h : PartWritten b dir BlockFile.all none t written) :
      WritingEnds b dir disk t (written, .ok ())
  /-- The files up to one that was not opened are there. -/
  | stopped {before after : List BlockFile} {file : BlockFile} {left : FileTree}
      (hfiles : BlockFile.all = before ++ file :: after) (h : PartWritten b dir before none t left)
      (e : FileError) : WritingEnds b dir disk t (left, .error (.fileFailed e))
  /-- The files up to one that was cut short are there. -/
  | cut {before after : List BlockFile} {file : BlockFile} {left : FileTree} {room : Nat}
      {cause : DiskError} (hfiles : BlockFile.all = before ++ file :: after)
      (h : PartWritten b dir before (some file) t left)
      (hlimit : disk.limit? (Path.join dir file.fileName) = some (room, cause)) :
      WritingEnds b dir disk t (left, .error (.fileFailed (.disk cause)))

lemma writingEnds (b : Bundle) (dir : Text) (t : FileTree) (disk : Disk) :
    WritingEnds b dir disk t (b.writeFiles dir t disk) := by
  have hmade := MadeAlong.of_ensureDirectory t dir disk
  unfold writeFiles
  cases hresult : t.ensureDirectory dir disk with
  | mk made result =>
    rw [hresult] at hmade
    cases result with
    | error e =>
      have hnone : PartWritten b dir [] none t made := .of_rewritten hmade (.nil b dir made)
      exact .stopped rfl hnone e
    | ok =>
      have hends := textsEnd_writeTexts b dir disk made BlockFile.all
      dsimp only
      generalize b.writeTexts dir disk made BlockFile.all = result at hends ⊢
      cases hends with
      | done h => exact .done (.of_rewritten hmade h)
      | stopped hfiles h e => exact .stopped hfiles (.of_rewritten hmade h) e
      | @cut before after file between left room cause hfiles h hlimit hcut =>
        have hnodup : (before ++ file :: after).Nodup := hfiles ▸ (by decide : BlockFile.all.Nodup)
        have hnew : file ∉ before := fun hmem =>
          (List.nodup_append.1 hnodup).2.2 file hmem file List.mem_cons_self rfl
        exact .cut hfiles ((PartWritten.of_rewritten hmade h).cutOff hcut hnew) hlimit

/-- Nothing but a block in its directory has been written. What has changed is a file of the block, right
below the directory and with the text that it has in the block, or it is a directory that was missing,
the block's own or one on the way to it. The text of one file may be cut short. -/
structure WrittenInto (b : Bundle) (dir : Text) (cut : Option BlockFile) (t t' : FileTree) : Prop where
  workingDirectory : t'.workingDirectory = t.workingDirectory
  entries : ∀ place, t'.entry? place = t.entry? place ∨
    (∃ home file bytes, t'.locateDirectory dir = .ok home ∧
      place = home ++ [BlockFile.fileName file] ∧ t'.entry? place = some (.file bytes) ∧
      (bytes = Text.toUtf8 (b.text file) ∨
        file ∈ cut ∧ CutShort (Text.toUtf8 (b.text file)) bytes)) ∨
    t.entry? place = none ∧ t'.entry? place = some .directory ∧
      ∃ route ∈ waysTo dir, t'.locate route = .ok place

lemma PartWritten.writtenInto (h : PartWritten b dir files cut t t') :
    WrittenInto b dir cut t t' := by
  refine ⟨h.workingDirectory, fun place => ?_⟩
  rcases h.entries place with hsame | ⟨file, -, hstored⟩ | ⟨file, hfile, hcut⟩ | hmade
  · exact .inl hsame
  · obtain ⟨home, hhome, -, hplace⟩ :=
      FileTree.exists_of_locatePath_join (isPlain_fileName file) hstored.located
    exact .inr (.inl ⟨home, file, _, hhome, hplace, hstored.entry, .inl rfl⟩)
  · obtain ⟨home, hhome, -, hplace⟩ :=
      FileTree.exists_of_locatePath_join (isPlain_fileName file) hcut.located
    obtain ⟨bytes, hbytes, hentry⟩ := hcut.entry
    exact .inr (.inl ⟨home, file, bytes, hhome, hplace, hentry, .inr ⟨hfile, hbytes⟩⟩)
  · exact .inr (.inr hmade)

/-- Writing a block changes nothing else, whether it succeeds or fails on the way. A file is cut short
only where the disk ends. -/
lemma exists_writtenInto (b : Bundle) (dir : Text) (t : FileTree) (disk : Disk) :
    ∃ cut, WrittenInto b dir cut t (b.writeFiles dir t disk).1 ∧
      ∀ file ∈ cut, disk.limit? (Path.join dir (BlockFile.fileName file)) ≠ none ∧
        (b.writeFiles dir t disk).2 ≠ .ok () := by
  have hends := writingEnds b dir t disk
  generalize b.writeFiles dir t disk = result at hends ⊢
  cases hends with
  | done h => exact ⟨none, h.writtenInto, by simp⟩
  | stopped hfiles h e => exact ⟨none, h.writtenInto, by simp⟩
  | @cut before after file left room cause hfiles h hlimit =>
    refine ⟨some file, h.writtenInto, ?_⟩
    rintro _ ⟨⟩
    exact ⟨by simp [hlimit], by simp⟩

lemma writeBelow_eq {name : Text} (hname : b.directoryName = .ok name) (root : Text) (t : FileTree)
    (disk : Disk) :
    b.writeBelow root t disk = ((b.writeFiles (Path.join root name) t disk).1,
      (b.writeFiles (Path.join root name) t disk).2.map fun () => Path.join root name) := by
  rw [writeBelow, hname]

end Bundle

namespace Command

variable {s : Surroundings} {args : List Text} {dir : Text}

/-- A command has a block to write, and a directory for it. -/
inductive Writes (s : Surroundings) : List Text → Bundle → Text → Prop
  /-- A response was audited, and a root for the block's own directory is given. -/
  | process {args : List Text} {path root name : Text} {o : Outcome}
      (htarget : target? args = some path) (haudit : processResponse s args path = .ok o)
      (hroot : outputRoot? args = some root) (hname : o.bundle.directoryName = .ok name) :
      Writes s ("process" :: args) o.bundle (Path.join root name)
  /-- A block was audited and steps of the fix were applied to it. -/
  | validate {args : List Text} {dir : Text} {o : Outcome}
      (htarget : target? args = some dir) (haudit : validateBlock s args dir = .ok o)
      (hfix : ("--fix" : Text) ∈ args) (hnoFix : ("--no-fix" : Text) ∉ args)
      (happlied : o.report.fixes ≠ []) :
      Writes s ("validate" :: args) o.bundle dir

/-- The changes that a command makes to the tree up to its ending, and when it makes them. A file is cut
short only where the disk ends, and then the command fails. -/
inductive Changes (s : Surroundings) (ending : Ending) : List Text → Prop
  | block {args : List Text} {b : Bundle} {dir : Text} {cut : Option BlockFile}
      (hwrites : Writes s args b dir) (hwritten : b.WrittenInto dir cut s.tree ending.tree)
      (hcut : ∀ file ∈ cut, s.disk.limit? (Path.join dir (BlockFile.fileName file)) ≠ none ∧
        ending.failed = true) : Changes s ending args
  /-- The settings were missing or are to be overwritten; only their file has been written. -/
  | settings {args : List Text} {home : Place} {bytes : ByteArray}
      (hfree : s.tree.pathExists (Path.join s.directory settingsFile) = false ∨
        ("--force" : Text) ∈ args)
      (hhome : s.tree.locateDirectory s.directory = .ok home)
      (hworking : ending.tree.workingDirectory = s.tree.workingDirectory)
      (hsettings : ending.tree.entry? (home ++ [settingsFile]) = some (.file bytes))
      (hbytes : bytes = Text.toUtf8 (Settings.toYaml {}) ∨
        CutShort (Text.toUtf8 (Settings.toYaml {})) bytes ∧
          s.disk.limit? (Path.join s.directory settingsFile) ≠ none ∧ ending.failed = true)
      (hothers : ∀ place, place ≠ home ++ [settingsFile] →
        ending.tree.entry? place = s.tree.entry? place) :
      Changes s ending ("init" :: args)

/-- The result of the audit that a command runs, if it runs one. -/
def auditResult? (s : Surroundings) : List Text → Option (Except Error Outcome)
  | [] => none
  | name :: args =>
    if name = "process".toList then (target? args).map (processResponse s args)
    else if name = "validate".toList then (target? args).map (validateBlock s args)
    else none

lemma hasFlag_iff {flag : Text} : hasFlag args flag = true ↔ flag ∈ args := List.contains_iff_mem

/-- The tree of a run is the given one, or the one in which the block of the run was written. -/
lemma process_tree (s : Surroundings) (args : List Text) :
    (process s args).tree = s.tree ∨ ∃ b dir, Writes s ("process" :: args) b dir ∧
      (process s args).tree = (b.writeFiles dir s.tree s.disk).1 := by
  unfold process
  cases htarget : target? args with
  | none => exact .inl rfl
  | some path =>
    dsimp only
    cases haudit : processResponse s args path with
    | error e => exact .inl rfl
    | ok o =>
      dsimp only
      cases hroot : outputRoot? args with
      | none => exact .inl rfl
      | some root =>
        dsimp only
        cases hname : o.bundle.directoryName with
        | error e =>
          rw [Bundle.writeBelow, hname]
          exact .inl rfl
        | ok name =>
          refine .inr ⟨_, _, .process htarget haudit hroot hname, ?_⟩
          rw [Bundle.writeBelow_eq hname]
          cases (o.bundle.writeFiles (Path.join root name) s.tree s.disk).2 with
          | error e => rfl
          | ok => rfl

lemma notMem_noFix {o : Outcome} (haudit : validateBlock s args dir = .ok o)
    (happlied : o.report.fixes ≠ []) : ("--no-fix" : Text) ∉ args := by
  obtain ⟨b, settings, -, -, rfl, -⟩ := validateBlock_eq_ok_iff.1 haudit
  intro hflag
  have hunfixed : (validating settings args).applyFixes = false := by
    rw [applyFixes_validating, hasFlag_iff.2 hflag]
    rfl
  have hfixed := Audit.fixed_eq hunfixed b
  exact happlied (congrArg Fixed.applied hfixed)

lemma validate_tree (s : Surroundings) (args : List Text) :
    (validate s args).tree = s.tree ∨ ∃ b dir, Writes s ("validate" :: args) b dir ∧
      (validate s args).tree = (b.writeFiles dir s.tree s.disk).1 := by
  have hends := validationEnds s args
  generalize validate s args = ending at hends ⊢
  cases hends with
  | refused message => exact .inl rfl
  | reported htarget haudit hunfixed => exact .inl rfl
  | fixed notices htarget haudit hfix happlied hwrite =>
    exact .inr ⟨_, _, .validate htarget haudit (hasFlag_iff.1 hfix) (notMem_noFix haudit happlied)
      happlied, by rw [hwrite]⟩
  | stopped htarget haudit hfix happlied hwrite =>
    exact .inr ⟨_, _, .validate htarget haudit (hasFlag_iff.1 hfix) (notMem_noFix haudit happlied)
      happlied, by rw [hwrite]; rfl⟩

lemma Changes.of_write {ending : Ending} {bytes : ByteArray}
    (hfree : s.tree.pathExists (Path.join s.directory settingsFile) = false ∨
      ("--force" : Text) ∈ args)
    (hwrite : s.tree.write (Path.join s.directory settingsFile) bytes = .ok ending.tree)
    (hbytes : bytes = Text.toUtf8 (Settings.toYaml {}) ∨
      CutShort (Text.toUtf8 (Settings.toYaml {})) bytes ∧
        s.disk.limit? (Path.join s.directory settingsFile) ≠ none ∧ ending.failed = true) :
    Changes s ending ("init" :: args) := by
  obtain ⟨place, hplace, -, -, htree⟩ := FileTree.write_eq_ok_iff.1 hwrite
  obtain ⟨home, hhome, -, rfl⟩ := FileTree.exists_of_locatePath_join isPlain_settingsFile hplace
  refine .settings hfree hhome ?_ ?_ hbytes fun other hother => ?_
  · rw [← htree]
    rfl
  · rw [← htree, FileTree.entry?_put_self (by simp)]
  · rw [← htree, FileTree.entry?_put_of_ne hother]

lemma writeDefaults_tree (s : Surroundings) (args : List Text) :
    (writeDefaults s args).tree = s.tree ∨ Changes s (writeDefaults s args) ("init" :: args) := by
  unfold writeDefaults
  dsimp only
  split_ifs with hrefused
  · exact .inl rfl
  · have hfree : s.tree.pathExists (Path.join s.directory settingsFile) = false ∨
        ("--force" : Text) ∈ args := by
      rw [← hasFlag_iff]
      simpa [imp_iff_or_not, or_comm] using hrefused
    have hstores := s.tree.stores_store s.disk (Path.join s.directory settingsFile)
      (Text.toUtf8 (Settings.toYaml {}))
    generalize s.tree.store s.disk (Path.join s.directory settingsFile)
      (Text.toUtf8 (Settings.toYaml {})) = result at hstores ⊢
    cases hstores with
    | unopened e => exact .inl rfl
    | whole hwrite => exact .inr (.of_write hfree hwrite (.inl rfl))
    | cut hlimit hbytes hwrite =>
      exact .inr (.of_write hfree hwrite (.inr ⟨hbytes, by simp [hlimit], rfl⟩))

lemma compose_tree (s : Surroundings) (args : List Text) : (compose s args).tree = s.tree := by
  unfold compose
  cases target? args with
  | none => rfl
  | some dir =>
    dsimp only
    cases Bundle.load s.tree dir with
    | error e => rfl
    | ok bundle => rfl

lemma schema_tree (s : Surroundings) (args : List Text) : (schema s args).tree = s.tree := by
  unfold schema
  dsimp only
  split_ifs <;> rfl

/-- An audit that fails ends the command before anything is written. -/
lemma run_of_auditResult {e : Error} (h : auditResult? s args = some (.error e)) :
    run s args = .failure s.tree e.message := by
  cases args with
  | nil => cases h
  | cons name args =>
    rw [auditResult?] at h
    split_ifs at h with hprocess hvalidate
    · obtain ⟨path, htarget, haudit⟩ := Option.map_eq_some_iff.1 h
      rw [run, if_pos hprocess, process, htarget]
      dsimp only
      rw [haudit]
    · obtain ⟨dir, htarget, haudit⟩ := Option.map_eq_some_iff.1 h
      rw [run, if_neg hprocess, if_pos hvalidate, validate, htarget]
      dsimp only
      rw [haudit]

/-- A run that does not fail has written the block that it had to write. -/
lemma writeFiles_of_writes {b : Bundle} (hwrites : Writes s args b dir)
    (h : (run s args).failed = false) : b.writeFiles dir s.tree s.disk = ((run s args).tree, .ok ()) := by
  cases hwrites with
  | @process args path root name o htarget haudit hroot hname =>
    have hrun : run s ("process" :: args) = process s args := rfl
    rw [hrun] at h ⊢
    unfold process at h ⊢
    simp only [htarget, haudit, hroot, Bundle.writeBelow_eq hname] at h ⊢
    cases hwrite : o.bundle.writeFiles (Path.join root name) s.tree s.disk with
    | mk tree result =>
      rw [hwrite] at h
      cases result with
      | error e => cases h
      | ok => rfl
  | @validate args dir o htarget haudit hfix hnoFix happlied =>
    have hrun : run s ("validate" :: args) = validate s args := rfl
    rw [hrun] at h ⊢
    have hends := validationEnds s args
    generalize validate s args = ending at h hends ⊢
    cases hends with
    | refused message => cases h
    | stopped => cases h
    | reported htarget' haudit' hunfixed =>
      obtain rfl := Option.some.inj (htarget.symm.trans htarget')
      obtain rfl := Except.ok.inj (haudit.symm.trans haudit')
      exact absurd (hunfixed (hasFlag_iff.2 hfix)) happlied
    | fixed notices htarget' haudit' _ _ hwrite =>
      obtain rfl := Option.some.inj (htarget.symm.trans htarget')
      obtain rfl := Except.ok.inj (haudit.symm.trans haudit')
      exact hwrite

lemma changes_of_writes {ending : Ending} (hrun : run s args = ending)
    (h : ending.tree = s.tree ∨
      ∃ b dir, Writes s args b dir ∧ ending.tree = (b.writeFiles dir s.tree s.disk).1) :
    ending.tree = s.tree ∨ Changes s ending args := by
  refine h.imp_right fun ⟨b, dir, hwrites, htree⟩ => ?_
  obtain ⟨cut, hwritten, hcut⟩ := b.exists_writtenInto dir s.tree s.disk
  rw [← htree] at hwritten
  refine .block hwrites hwritten fun file hfile => ?_
  obtain ⟨hlimit, hfailed⟩ := hcut file hfile
  refine ⟨hlimit, ?_⟩
  by_contra hsucceeded
  rw [Bool.not_eq_true, ← hrun] at hsucceeded
  exact hfailed (congrArg Prod.snd (writeFiles_of_writes hwrites hsucceeded))

/-- For any arguments, any input and any tree: a run leaves the tree as it is, or it makes the changes of
its command in the case in which the command makes them. A run with a block to write that does not fail
has written all seven files. A run whose audit fails, on reading, parsing, the settings or the strict
policy, ends with the message of the error and the tree as it was. -/
theorem run_changes (s : Surroundings) (args : List Text) :
    ((run s args).tree = s.tree ∨ Changes s (run s args) args) ∧
      (∀ b dir, Writes s args b dir → (run s args).failed = false →
        ∀ file, ∃ place, b.StoredAt dir (run s args).tree file place) ∧
      ∀ e, auditResult? s args = some (.error e) → run s args = .failure s.tree e.message := by
  refine ⟨?_, fun b dir hwrites h => Bundle.stored_writeFiles (writeFiles_of_writes hwrites h),
    fun e h => run_of_auditResult h⟩
  cases args with
  | nil => exact .inl rfl
  | cons name args =>
    rw [run]
    split_ifs with hprocess hvalidate hcompose hschema hinit hversion hhelp
    · subst hprocess
      exact changes_of_writes rfl (process_tree s args)
    · subst hvalidate
      exact changes_of_writes rfl (validate_tree s args)
    · exact .inl (compose_tree s args)
    · exact .inl (schema_tree s args)
    · subst hinit
      exact writeDefaults_tree s args
    · exact .inl rfl
    · exact .inl rfl
    · exact .inl rfl

/-- A block that is fixed in place. -/
theorem run_changes_unruly :
    let s : Surroundings :=
      { tree := (unruly.writeFiles "d" {}).1, directory := "/", input := .empty
        now := .ofNanoseconds 0 }
    let args : List Text := ["validate", "d", "--fix"]
    (run s args).tree ≠ s.tree ∧ Changes s (run s args) args := by
  intro s args
  have hchanged : (run s args).tree ≠ s.tree := by decide +kernel
  exact ⟨hchanged, (run_changes s args).1.resolve_left hchanged⟩

end Command

end BlockAudit
