import BlockAudit.Command
import BlockAudit.Proofs.FixedBundle
import BlockAudit.Proofs.Places

/-!
# Stored blocks

Each of the seven writes of a block puts one file right below the directory and changes nothing else.
The disk may stop at any of them, before the file is opened or with a part of its text in it. If it does
not, all seven texts are there at the end and each is read back. The sources come back as they were, and
the metadata do when their printed form is read as what they were. A block that was audited and written
back is therefore the one that the next audit begins with.
-/

namespace BlockAudit

open FileTree (Grows)

lemma isPlain_fileName (file : BlockFile) : Path.IsPlain file.fileName := by
  cases file <;> exact ⟨by decide, by decide, by decide, by decide⟩

lemma isPlain_settingsFile : Path.IsPlain settingsFile :=
  ⟨by decide, by decide, by decide, by decide⟩

lemma fileName_injective {f g : BlockFile} (h : f.fileName = g.fileName) : f = g := by
  revert h
  cases f <;> cases g <;> decide

lemma fileName_ne_settingsFile (file : BlockFile) : file.fileName ≠ settingsFile := by
  cases file <;> decide

namespace Bundle

variable {b : Bundle} {dir : Text} {t t' t'' : FileTree} {file other : BlockFile} {place : Place}
  {files files' : List BlockFile} {bytes : ByteArray} {disk : Disk}

/-! ### Writing the files -/

/-- A place right below a directory holds the text of a file of the block. -/
structure StoredAt (b : Bundle) (dir : Text) (t : FileTree) (file : BlockFile) (place : Place) :
    Prop where
  located : t.locatePath (Path.join dir file.fileName) = .ok place
  entry : t.entry? place = some (.file (Text.toUtf8 (b.text file)))

/-- A place right below a directory holds the beginning of the text of a file of the block. -/
structure CutAt (b : Bundle) (dir : Text) (t : FileTree) (file : BlockFile) (place : Place) :
    Prop where
  located : t.locatePath (Path.join dir file.fileName) = .ok place
  entry : ∃ bytes, CutShort (Text.toUtf8 (b.text file)) bytes ∧ t.entry? place = some (.file bytes)

/-- Some files of the block were written into a directory: the directories are the same, and what is not
the same is one of those files. -/
structure Rewritten (b : Bundle) (dir : Text) (files : List BlockFile) (t t' : FileTree) : Prop where
  grows : Grows t t'
  back : Grows t' t
  stored : ∀ file ∈ files, ∃ place, b.StoredAt dir t' file place
  entries : ∀ place, t'.entry? place = t.entry? place ∨ ∃ file ∈ files, b.StoredAt dir t' file place

/-- A file of the block was opened and did not take all of its text; nothing else has changed. -/
structure CutOff (b : Bundle) (dir : Text) (file : BlockFile) (t t' : FileTree) : Prop where
  grows : Grows t t'
  cut : ∃ place, b.CutAt dir t' file place
  entries : ∀ place, t'.entry? place = t.entry? place ∨ b.CutAt dir t' file place

/-- The place of a file tells which of the seven it is. -/
lemma eq_of_located (h : t.locatePath (Path.join dir file.fileName) = .ok place)
    (h' : t'.locatePath (Path.join dir other.fileName) = .ok place) : file = other :=
  fileName_injective
    (FileTree.name_eq_of_locatePath_join (isPlain_fileName file) (isPlain_fileName other) h h')

lemma StoredAt.grown (h : b.StoredAt dir t file place) (hgrows : Grows t t')
    (hsame : t'.entry? place = t.entry? place) : b.StoredAt dir t' file place :=
  ⟨hgrows.locatePath h.located, hsame.trans h.entry⟩

/-- No other write of the block touches the file. -/
lemma StoredAt.rewritten (h : b.StoredAt dir t file place) (hw : Rewritten b dir files t t') :
    b.StoredAt dir t' file place := by
  rcases hw.entries place with hsame | ⟨other, -, hother⟩
  · exact h.grown hw.grows hsame
  · rwa [eq_of_located h.located hother.located]

lemma StoredAt.cutOff (h : b.StoredAt dir t file place) (hcut : CutOff b dir other t t')
    (hne : file ≠ other) : b.StoredAt dir t' file place := by
  rcases hcut.entries place with hsame | hthere
  · exact h.grown hcut.grows hsame
  · exact absurd (eq_of_located h.located hthere.located) hne

namespace Rewritten

lemma nil (b : Bundle) (dir : Text) (t : FileTree) : Rewritten b dir [] t t :=
  ⟨.refl t, .refl t, fun _ hfile => absurd hfile List.not_mem_nil, fun _ => .inl rfl⟩

lemma append (h : Rewritten b dir files t t') (h' : Rewritten b dir files' t' t'') :
    Rewritten b dir (files ++ files') t t'' := by
  refine ⟨h.grows.trans h'.grows, h'.back.trans h.back, fun file hfile => ?_, fun place => ?_⟩
  · rcases List.mem_append.1 hfile with hfirst | hlater
    · obtain ⟨place, hstored⟩ := h.stored file hfirst
      exact ⟨place, hstored.rewritten h'⟩
    · exact h'.stored file hlater
  · rcases h'.entries place with hsame | ⟨file, hfile, hstored⟩
    · rcases h.entries place with hfirst | ⟨file, hfile, hstored⟩
      · exact .inl (hsame.trans hfirst)
      · exact .inr ⟨file, List.mem_append_left files' hfile, hstored.rewritten h'⟩
    · exact .inr ⟨file, List.mem_append_right files hfile, hstored⟩

lemma of_write
    (h : t.write (Path.join dir file.fileName) (Text.toUtf8 (b.text file)) = .ok t') :
    Rewritten b dir [file] t t' := by
  obtain ⟨hgrows, hback, first, hlocated, hentry, hothers⟩ := FileTree.exists_of_write h
  refine ⟨hgrows, hback, fun other hother => ?_, fun place => ?_⟩
  · rw [List.mem_singleton.1 hother]
    exact ⟨first, hlocated, hentry⟩
  · by_cases hplace : place = first
    · subst hplace
      exact .inr ⟨file, List.mem_singleton_self file, hlocated, hentry⟩
    · exact .inl (hothers place hplace)

end Rewritten

lemma CutOff.of_write (hbytes : CutShort (Text.toUtf8 (b.text file)) bytes)
    (h : t.write (Path.join dir file.fileName) bytes = .ok t') : CutOff b dir file t t' := by
  obtain ⟨hgrows, -, first, hlocated, hentry, hothers⟩ := FileTree.exists_of_write h
  refine ⟨hgrows, ⟨first, hlocated, bytes, hbytes, hentry⟩, fun place => ?_⟩
  by_cases hplace : place = first
  · subst hplace
    exact .inr ⟨hlocated, bytes, hbytes, hentry⟩
  · exact .inl (hothers place hplace)

/-- The ways in which the writing of some files ends. -/
inductive TextsEnd (b : Bundle) (dir : Text) (disk : Disk) (files : List BlockFile) (t : FileTree) :
    FileTree × Except Error Unit → Prop
  | done {written : FileTree} (h : Rewritten b dir files t written) :
      TextsEnd b dir disk files t (written, .ok ())
  /-- The files up to one that was not opened are there. -/
  | stopped {before after : List BlockFile} {file : BlockFile} {between : FileTree}
      (hfiles : files = before ++ file :: after) (h : Rewritten b dir before t between)
      (e : FileError) : TextsEnd b dir disk files t (between, .error (.fileFailed e))
  /-- The files up to one that was cut short are there. -/
  | cut {before after : List BlockFile} {file : BlockFile} {between left : FileTree} {room : Nat}
      {cause : DiskError} (hfiles : files = before ++ file :: after)
      (h : Rewritten b dir before t between)
      (hlimit : disk.limit? (Path.join dir file.fileName) = some (room, cause))
      (hcut : CutOff b dir file between left) :
      TextsEnd b dir disk files t (left, .error (.fileFailed (.disk cause)))

/-- One more file, written in front of the others. -/
lemma TextsEnd.cons {result : FileTree × Except Error Unit} (hfirst : Rewritten b dir [file] t t')
    (h : TextsEnd b dir disk files t' result) : TextsEnd b dir disk (file :: files) t result := by
  cases h with
  | done hrest => exact .done (hfirst.append hrest)
  | stopped hfiles hrest e =>
    exact .stopped (congrArg (file :: ·) hfiles) (hfirst.append hrest) e
  | cut hfiles hrest hlimit hcut =>
    exact .cut (congrArg (file :: ·) hfiles) (hfirst.append hrest) hlimit hcut

lemma textsEnd_writeTexts (b : Bundle) (dir : Text) (disk : Disk) (t : FileTree)
    (files : List BlockFile) : TextsEnd b dir disk files t (b.writeTexts dir disk t files) := by
  induction files generalizing t with
  | nil => exact .done (.nil b dir t)
  | cons file files ih =>
    have hstores :=
      t.stores_store disk (Path.join dir file.fileName) (Text.toUtf8 (b.text file))
    rw [writeTexts]
    generalize t.store disk (Path.join dir file.fileName) (Text.toUtf8 (b.text file)) = result
      at hstores ⊢
    cases hstores with
    | unopened e => exact .stopped rfl (.nil b dir t) e
    | @whole written hwrite => exact .cons (.of_write hwrite) (ih written)
    | cut hlimit hbytes hwrite => exact .cut rfl (.nil b dir t) hlimit (.of_write hbytes hwrite)

lemma rewritten_of_writeTexts (h : b.writeTexts dir disk t files = (t', .ok ())) :
    Rewritten b dir files t t' := by
  have hends := textsEnd_writeTexts b dir disk t files
  rw [h] at hends
  cases hends with
  | done hrewritten => exact hrewritten

/-! ### Reading them back -/

lemma StoredAt.readFile (h : b.StoredAt dir t file place) :
    readFile t dir file = .ok (b.text file) := by
  have hlast : (Path.join dir file.fileName).getLast? ≠ some '/' :=
    Path.getLast?_join (isPlain_fileName file)
  have hread : t.read (Path.join dir file.fileName) = .ok (Text.toUtf8 (b.text file)) :=
    FileTree.read_eq_ok_iff.2 ⟨place, h.located, hlast, h.entry⟩
  rw [Bundle.readFile, mapError_eq_ok_iff, FileTree.readText, hread]
  simp only [bind, Except.bind, Text.ofUtf8?_toUtf8]

lemma load_of_readFile (h : ∀ file, readFile t dir file = .ok (b.text file)) :
    load t dir = (parseMetadata b.metadataText).map fun metadata => { b with metadata } := by
  have hmetadata : b.text .metadata = b.metadataText := rfl
  simp only [load, h, bind, Except.bind, pure, Except.pure, hmetadata]
  cases parseMetadata b.metadataText with
  | error e => rfl
  | ok metadata => rfl

/-- All seven files are there after a block was written. -/
lemma stored_writeFiles (h : b.writeFiles dir t disk = (t', .ok ())) (file : BlockFile) :
    ∃ place, b.StoredAt dir t' file place := by
  unfold writeFiles at h
  cases hmade : t.ensureDirectory dir disk with
  | mk made result =>
    cases result with
    | error e => simp [hmade] at h
    | ok =>
      have hwritten : b.writeTexts dir disk made BlockFile.all = (t', .ok ()) := by
        simpa [hmade] using h
      exact (rewritten_of_writeTexts hwritten).stored file (BlockFile.mem_all file)

/-- What is loaded after a block was written is the block with its metadata as they are read from their
printed form. -/
lemma load_writeFiles (h : b.writeFiles dir t disk = (t', .ok ())) :
    load t' dir = (parseMetadata b.metadataText).map fun metadata => { b with metadata } := by
  refine load_of_readFile fun file => ?_
  obtain ⟨place, hplace⟩ := stored_writeFiles h file
  exact hplace.readFile

lemma load_writeFiles_eq_ok_iff (h : b.writeFiles dir t disk = (t', .ok ())) :
    load t' dir = .ok b ↔ parseMetadata b.metadataText = .ok b.metadata := by
  rw [load_writeFiles h]
  cases hread : parseMetadata b.metadataText with
  | error e => simp [Except.map]
  | ok metadata =>
    simp only [Except.map, Except.ok.injEq]
    constructor
    · intro hb
      rw [← hb]
    · rintro rfl
      rfl

/-! ### Writing back what was loaded -/

/-- The directory of a block that was loaded is there, so writing the block back makes none. -/
lemma rewritten_writeFiles {loaded : Bundle} (hload : load t dir = .ok loaded)
    (hwrite : b.writeFiles dir t disk = (t', .ok ())) :
    Rewritten b dir BlockFile.all t t' := by
  obtain ⟨metadata, hread, -⟩ := bind_eq_ok_iff.1 hload
  rw [readFile, mapError_eq_ok_iff] at hread
  obtain ⟨content, hcontent, -⟩ := bind_eq_ok_iff.1 hread
  obtain ⟨place, hplace, -, -⟩ := FileTree.read_eq_ok_iff.1 hcontent
  obtain ⟨home, hhome, hdirectory, -⟩ :=
    FileTree.exists_of_locatePath_join (isPlain_fileName .metadata) hplace
  rw [writeFiles, FileTree.ensureDirectory_of_directory hhome hdirectory] at hwrite
  exact rewritten_of_writeTexts hwrite

end Bundle

/-! ### The settings -/

lemma Settings.loadOrDefault_rewritten {b : Bundle} {dir site : Text} {files : List BlockFile}
    {t t' : FileTree} (h : b.Rewritten dir files t t') : loadOrDefault t' site = loadOrDefault t site := by
  have hentry : ∀ place, t.locatePath (Path.join site settingsFile) = .ok place →
      t'.entry? place = t.entry? place := by
    intro place hplace
    rcases h.entries place with hsame | ⟨file, -, hstored⟩
    · exact hsame
    · have hname : file.fileName = settingsFile :=
        FileTree.name_eq_of_locatePath_join (isPlain_fileName file) isPlain_settingsFile
          hstored.located hplace
      exact absurd hname (fileName_ne_settingsFile file)
  have hexists := FileTree.pathExists_congr h.grows h.back hentry
  unfold loadOrDefault load?
  dsimp only
  rw [hexists]
  cases hthere : t.pathExists (Path.join site settingsFile) with
  | false => rfl
  | true =>
    obtain ⟨place, hplace, -⟩ := FileTree.pathExists_iff.1 hthere
    have hread := FileTree.read_congr h.grows hplace (hentry place hplace)
    rw [FileTree.readText, FileTree.readText, hread]

/-! ### Audits of stored blocks -/

lemma Audit.judge_eq_ok_iff {a : Audit} {o o' : Outcome} :
    a.judge o = .ok o' ↔ o = o' ∧ (a.policy = .strict → o.report.passed = true) := by
  unfold judge
  split_ifs with h
  · simpa using fun _ => h
  · simp only [Except.ok.injEq, iff_self_and]
    rintro rfl hstrict
    simpa [hstrict] using h

lemma Audit.fixed_eq {a : Audit} (h : a.applyFixes = false) (b : Bundle) : a.fixed b = ⟨b, []⟩ := by
  rw [fixed, h]
  rfl

lemma Audit.bundle_fixed_of_applied_eq_nil {a : Audit} {b : Bundle}
    (h : (a.fixed b).applied = []) : (a.fixed b).bundle = b := by
  unfold fixed at h ⊢
  split_ifs at h ⊢
  · exact bundle_of_applied_eq_nil h
  · rfl

namespace Command

variable {s : Surroundings} {args : List Text} {dir : Text}

/-- The audit that the settings and the flags ask for. -/
def auditWith (settings : Settings) (args : List Text) : Audit :=
  { Audit.ofSettings settings with
    policy := if hasFlag args "--strict" then .strict else settings.policy
    applyFixes := !hasFlag args "--no-fix" }

/-- The audit of a block on disk, which is fixed only with the flag for it. -/
def validating (settings : Settings) (args : List Text) : Audit :=
  { auditWith settings args with
    applyFixes := (auditWith settings args).applyFixes && hasFlag args "--fix" }

lemma applyFixes_validating (settings : Settings) (args : List Text) :
    (validating settings args).applyFixes =
      (!hasFlag args "--no-fix" && hasFlag args "--fix") := rfl

lemma auditOf_eq_ok_iff {a : Audit} :
    auditOf s args = .ok a ↔
      ∃ settings, Settings.loadOrDefault s.tree s.directory = .ok settings ∧
        auditWith settings args = a := by
  rw [auditOf, bind_eq_ok_iff]
  exact exists_congr fun settings => and_congr_right fun _ =>
    ⟨fun h => Except.ok.inj h, fun h => congrArg Except.ok h⟩

lemma validateBlock_eq_ok_iff {o : Outcome} :
    validateBlock s args dir = .ok o ↔
      ∃ b settings, Bundle.load s.tree dir = .ok b ∧
        Settings.loadOrDefault s.tree s.directory = .ok settings ∧
        (validating settings args).outcome s.now b (Response.compose b) = o ∧
        ((auditWith settings args).policy = .strict → o.report.passed = true) := by
  rw [validateBlock, bind_eq_ok_iff]
  constructor
  · rintro ⟨b, hload, h⟩
    obtain ⟨a, haudit, hjudge⟩ := bind_eq_ok_iff.1 h
    obtain ⟨settings, hsettings, rfl⟩ := auditOf_eq_ok_iff.1 haudit
    obtain ⟨rfl, hpassed⟩ := Audit.judge_eq_ok_iff.1 hjudge
    exact ⟨b, settings, hload, hsettings, rfl, hpassed⟩
  · rintro ⟨b, settings, hload, hsettings, rfl, hpassed⟩
    have haudit : auditOf s args = .ok (auditWith settings args) :=
      auditOf_eq_ok_iff.2 ⟨settings, hsettings, rfl⟩
    exact ⟨b, hload, bind_eq_ok_iff.2 ⟨_, haudit, Audit.judge_eq_ok_iff.2 ⟨rfl, hpassed⟩⟩⟩

/-- The ways in which a validation ends. -/
inductive ValidationEnds (s : Surroundings) (args : List Text) : Ending → Prop
  /-- There is no directory to validate, or the audit failed. -/
  | refused (message : Text) : ValidationEnds s args (.failure s.tree message)
  /-- Nothing was fixed, or the fix was not asked for. -/
  | reported {dir : Text} {o : Outcome} (htarget : target? args = some dir)
      (haudit : validateBlock s args dir = .ok o)
      (hunfixed : hasFlag args "--fix" = true → o.report.fixes = []) :
      ValidationEnds s args { output := reportText args o.report, tree := s.tree }
  /-- The fixed block was written back. -/
  | fixed {dir : Text} {o : Outcome} {tree : FileTree} (notices : Text)
      (htarget : target? args = some dir) (haudit : validateBlock s args dir = .ok o)
      (hfix : hasFlag args "--fix" = true) (happlied : o.report.fixes ≠ [])
      (hwrite : o.bundle.writeFiles dir s.tree s.disk = (tree, .ok ())) :
      ValidationEnds s args { output := reportText args o.report, notices, tree }
  /-- Writing the fixed block back failed on the way. -/
  | stopped {dir : Text} {o : Outcome} {tree : FileTree} {e : Error}
      (htarget : target? args = some dir) (haudit : validateBlock s args dir = .ok o)
      (hfix : hasFlag args "--fix" = true) (happlied : o.report.fixes ≠ [])
      (hwrite : o.bundle.writeFiles dir s.tree s.disk = (tree, .error e)) :
      ValidationEnds s args (.failure tree e.message)

lemma validationEnds (s : Surroundings) (args : List Text) :
    ValidationEnds s args (validate s args) := by
  unfold validate
  cases htarget : target? args with
  | none => exact .refused _
  | some dir =>
    dsimp only
    cases haudit : validateBlock s args dir with
    | error e => exact .refused _
    | ok o =>
      dsimp only
      split_ifs with hfix
      · rw [Bool.not_eq_true', List.isEmpty_eq_false_iff] at hfix
        cases hwrite : o.bundle.writeFiles dir s.tree s.disk with
        | mk tree result =>
          cases result with
          | error e => exact .stopped htarget haudit hfix.1 hfix.2 hwrite
          | ok => exact .fixed _ htarget haudit hfix.1 hfix.2 hwrite
      · rw [not_and, Bool.not_eq_true, Bool.not_eq_false', List.isEmpty_iff] at hfix
        exact .reported htarget haudit hfix

lemma bundle_of_fixes_eq_nil {b : Bundle} {settings : Settings} {input : Text}
    (h : hasFlag args "--fix" = true →
      ((validating settings args).outcome s.now b input).report.fixes = []) :
    ((validating settings args).outcome s.now b input).bundle = b := by
  refine Audit.bundle_fixed_of_applied_eq_nil ?_
  cases hflag : hasFlag args "--fix" with
  | true => exact h hflag
  | false => rw [Audit.fixed_eq (by rw [applyFixes_validating, hflag, Bool.and_false])]

/-- After a validation that succeeds, its report is printed. The block that it ended with is there to be
loaded, as long as its metadata are read from their printed form, and the settings are the same. -/
lemma validate_succeeds (h : (validate s args).failed = false) :
    ∃ dir o, target? args = some dir ∧ validateBlock s args dir = .ok o ∧
      (validate s args).output = reportText args o.report ∧
      (parseMetadata o.bundle.metadataText = .ok o.bundle.metadata →
        Bundle.load (validate s args).tree dir = .ok o.bundle) ∧
      Settings.loadOrDefault (validate s args).tree s.directory =
        Settings.loadOrDefault s.tree s.directory := by
  have hends := validationEnds s args
  generalize validate s args = ending at h hends ⊢
  cases hends with
  | refused message => cases h
  | stopped => cases h
  | @reported dir o htarget haudit hunfixed =>
    obtain ⟨b, settings, hload, -, rfl, -⟩ := validateBlock_eq_ok_iff.1 haudit
    refine ⟨dir, _, htarget, haudit, rfl, fun _ => ?_, rfl⟩
    rw [bundle_of_fixes_eq_nil hunfixed]
    exact hload
  | @fixed dir o tree notices htarget haudit hfix happlied hwrite =>
    obtain ⟨b, settings, hload, -⟩ := validateBlock_eq_ok_iff.1 haudit
    exact ⟨dir, o, htarget, haudit, rfl, (Bundle.load_writeFiles_eq_ok_iff hwrite).2,
      Settings.loadOrDefault_rewritten (Bundle.rewritten_writeFiles hload hwrite)⟩

/-- A validation without a fix reports first the violations of the block as it is stored. -/
lemma validate_stored {b : Bundle} {settings : Settings} (htarget : target? args = some dir)
    (hload : Bundle.load s.tree dir = .ok b)
    (hsettings : Settings.loadOrDefault s.tree s.directory = .ok settings)
    (hfix : hasFlag args "--fix" = false)
    (hpolicy : (auditWith settings args).policy = .strict → b.violations settings.conventions = []) :
    ∃ o, validateBlock s args dir = .ok o ∧ (validate s args).failed = false ∧
      (validate s args).output = reportText args o.report ∧ (validate s args).tree = s.tree ∧
      o.report.before = b.violations settings.conventions := by
  have hfixed : (validating settings args).fixed b = ⟨b, []⟩ :=
    Audit.fixed_eq (by rw [applyFixes_validating, hfix, Bool.and_false]) b
  have hpassed : (auditWith settings args).policy = .strict →
      ((validating settings args).outcome s.now b (Response.compose b)).report.passed = true := by
    intro hstrict
    have hafter := hpolicy hstrict
    rw [Audit.outcome, hfixed, Report.passed, List.isEmpty_iff]
    exact hafter
  have hblock : validateBlock s args dir =
      .ok ((validating settings args).outcome s.now b (Response.compose b)) :=
    validateBlock_eq_ok_iff.2 ⟨b, settings, hload, hsettings, rfl, hpassed⟩
  have hending : validate s args = { output := reportText args ((validating settings args).outcome
      s.now b (Response.compose b)).report, tree := s.tree } := by
    unfold validate
    simp only [htarget, hblock, hfix, Bool.false_eq_true, false_and, if_false]
  rw [hending]
  refine ⟨_, hblock, rfl, rfl, rfl, ?_⟩
  rfl

/-- An audit that is strict without the flag is so by the settings, and with any flags. -/
lemma policy_of_noFlag {settings : Settings} (hflag : hasFlag args "--strict" = false)
    (h : (auditWith settings args).policy = .strict) (others : List Text) :
    (auditWith settings others).policy = .strict := by
  have hsettings : settings.policy = .strict := by
    rwa [auditWith, hflag, if_neg Bool.false_ne_true] at h
  rw [auditWith, hsettings, ite_self]

lemma target?_eq_some_iff {first : Text} {flags : List Text} :
    target? (first :: flags) = some dir ↔ first = dir ∧ Text.startsWith "--" dir = false := by
  rw [target?, List.head?_cons, Option.filter_eq_some_iff, Option.some.injEq, Bool.not_eq_true']

lemma hasFlag_eq_false {flag : Text} {flags : List Text}
    (htarget : target? (dir :: flags) = some dir) (hflag : Text.startsWith "--" flag = true)
    (h : flag ∉ flags) : hasFlag (dir :: flags) flag = false := by
  have hne : flag ≠ dir := by
    rintro rfl
    rw [target?_eq_some_iff, hflag] at htarget
    cases htarget.2
  rw [hasFlag, List.contains_eq_mem, decide_eq_false_iff_not, List.mem_cons, not_or]
  exact ⟨hne, h⟩

/-- A block that is written into a directory is loaded from it as it was exactly when its metadata are
read from their printed form as what they were; nothing is asked of its sources. So after a validation
that succeeded, the next one of the same directory, with the settings that are there, reports first the
violations that the first one left, whether it fixed and wrote the block back or not. -/
theorem stored_block_revalidates :
    (∀ (b : Bundle) (dir : Text) (t t' : FileTree) (disk : Disk),
      b.writeFiles dir t disk = (t', .ok ()) →
      (Bundle.load t' dir = .ok b ↔ parseMetadata b.metadataText = .ok b.metadata)) ∧
    ∀ (s : Surroundings) (dir : Text) (flags : List Text),
      let ending := run s ("validate" :: dir :: flags)
      ending.failed = false →
        ∃ first, validateBlock s (dir :: flags) dir = .ok first ∧
          ending.output = reportText (dir :: flags) first.report ∧
          (parseMetadata first.bundle.metadataText = .ok first.bundle.metadata →
            ∀ (s' : Surroundings) (flags' : List Text),
              s'.tree = ending.tree → s'.directory = s.directory →
              ("--fix" : Text) ∉ flags' → ("--strict" : Text) ∉ flags' →
              let next := run s' ("validate" :: dir :: flags')
              ∃ second, validateBlock s' (dir :: flags') dir = .ok second ∧
                next.failed = false ∧ next.output = reportText (dir :: flags') second.report ∧
                next.tree = ending.tree ∧ second.report.before = first.report.after) := by
  refine ⟨fun b dir t t' disk h => Bundle.load_writeFiles_eq_ok_iff h, fun s dir flags => ?_⟩
  intro ending h
  obtain ⟨target, first, htarget, hblock, houtput, hload, hsettings⟩ := validate_succeeds h
  obtain ⟨rfl, hplain⟩ := target?_eq_some_iff.1 htarget
  refine ⟨first, hblock, houtput, fun hread s' flags' htree hdirectory hfix hstrict => ?_⟩
  obtain ⟨b, settings, -, hfirst, rfl, hpassed⟩ := validateBlock_eq_ok_iff.1 hblock
  have htarget' : target? (dir :: flags') = some dir := target?_eq_some_iff.2 ⟨rfl, hplain⟩
  have hnoFix := hasFlag_eq_false htarget' (by decide) hfix
  have hnoStrict := hasFlag_eq_false htarget' (by decide) hstrict
  have hpolicy : (auditWith settings (dir :: flags')).policy = .strict →
      ((validating settings (dir :: flags)).outcome s.now b (Response.compose b)).report.after =
        [] :=
    fun hlater => List.isEmpty_iff.1 (hpassed (policy_of_noFlag hnoStrict hlater (dir :: flags)))
  have hload' : Bundle.load s'.tree dir = .ok ((validating settings (dir :: flags)).outcome
      s.now b (Response.compose b)).bundle := by
    rw [htree]
    exact hload hread
  have hsettings' : Settings.loadOrDefault s'.tree s'.directory = .ok settings := by
    rw [htree, hdirectory]
    exact hsettings.trans hfirst
  obtain ⟨second, hsecond, hfailed, houtput', htree', hbefore⟩ :=
    validate_stored htarget' hload' hsettings' hnoFix hpolicy
  exact ⟨second, hsecond, hfailed, houtput', htree'.trans htree, hbefore⟩

/-- A block with a fenced source, one with a sentinel in it and one with white space around it. -/
def unruly : Bundle where
  config := "\n---\nBLOCK_JSON\n"
  registration := "```php\n<?php\n```"
  render := "  <?php\n\n"
  editorScript := []
  sharedScript := "```"
  style := "p {}"
  metadata := [("name", .string "cm/a")]

/-- The block is stored, fixed in place and validated again. -/
theorem stored_block_revalidates_unruly :
    let tree := (unruly.writeFiles "d" {}).1
    let s : Surroundings := { tree, directory := "/", input := .empty, now := .ofNanoseconds 0 }
    let ending := run s ["validate", "d", "--fix"]
    Bundle.load tree "d" = .ok unruly ∧ ending.failed = false ∧
      ∃ first second, validateBlock s ["d", "--fix"] "d" = .ok first ∧ first.report.fixes ≠ [] ∧
        validateBlock { s with tree := ending.tree } ["d"] "d" = .ok second ∧
        second.report.before = first.report.after := by
  intro tree s ending
  obtain ⟨hstore, hruns⟩ := stored_block_revalidates
  have hwritten : (unruly.writeFiles "d" {}).2 = .ok () := by decide +kernel
  have hload : Bundle.load tree "d" = .ok unruly :=
    (hstore unruly "d" {} tree {} (Prod.ext rfl hwritten)).2 (by decide +kernel)
  have hsucceeds : ending.failed = false := by decide +kernel
  -- The ending becomes a variable, so that no later step computes it again.
  have hrun : run s ["validate", "d", "--fix"] = ending := rfl
  have hlater := hruns s "d" ["--fix"]
  rw [hrun] at hlater
  clear_value ending
  obtain ⟨first, hfirst, -, hnext⟩ := hlater hsucceeds
  obtain ⟨b, settings, hb, hsettings, rfl, -⟩ := validateBlock_eq_ok_iff.1 hfirst
  obtain rfl : unruly = b := Except.ok.inj (hload.symm.trans hb)
  have hdefault : Settings.loadOrDefault s.tree s.directory = .ok {} := by decide +kernel
  obtain rfl := Except.ok.inj (hdefault.symm.trans hsettings)
  obtain ⟨second, hsecond, -, -, -, hbefore⟩ :=
    hnext (by decide +kernel) { s with tree := ending.tree } [] rfl rfl (by decide) (by decide)
  exact ⟨hload, hsucceeds, _, second, hfirst, by decide +kernel, hsecond, hbefore⟩

end Command

end BlockAudit
