import BlockAudit.FileTree
import BlockAudit.Proofs.Lines

/-!
# Places in a tree

Writing a file or making a directory puts one entry at a place where no directory stands, so what was
a directory stays one, and a path that led somewhere leads there afterwards. What a disk keeps of a file
is the whole content or the first bytes of it. The path of a file in a directory leads to the place of
its name below the place of the directory.
-/

namespace BlockAudit

lemma Text.ofUtf8?_toUtf8 (s : Text) : Text.ofUtf8? (Text.toUtf8 s) = some s := by
  have hbytes : String.fromUTF8? (Text.toUtf8 s) = some (String.ofList s) :=
    dif_pos (String.ofList s).isValidUTF8
  rw [Text.ofUtf8?, hbytes, Option.map_some, String.toList_ofList]

lemma Text.byteLength_append (x y : Text) :
    Text.byteLength (x ++ y) = Text.byteLength x + Text.byteLength y := by
  simp only [Text.byteLength, ← List.sum_eq_foldl, List.map_append, List.sum_append]

/-! ### Paths and their names -/

namespace Path

/-- The names between the slashes of a path. -/
def names (path : Text) : List Text := (Text.splitOn '/' path).filter fun name => !name.isEmpty

/-- A name that leads one step down: no slash divides it, and it stands for neither the directory itself
nor the one above. -/
structure IsPlain (name : Text) : Prop where
  ne_nil : name ≠ []
  slash_notMem : '/' ∉ name
  ne_here : name ≠ here
  ne_above : name ≠ above

lemma names_append_slash (x y : Text) : names (x ++ '/' :: y) = names x ++ names y := by
  rw [names, Text.splitOn_append, List.filter_append]
  rfl

lemma IsPlain.names {name : Text} (h : IsPlain name) : names name = [name] := by
  have hname : name.isEmpty = false := by simpa using h.ne_nil
  rw [Path.names, Text.splitOn_of_notMem h.slash_notMem]
  simp [hname]

lemma exists_join (dir name : Text) (hdir : dir ≠ []) :
    ∃ front, join dir name = dir ++ front ++ name ∧ names (dir ++ front ++ name) =
      names dir ++ names name := by
  have hempty : dir.isEmpty = false := by simpa using hdir
  by_cases hslash : dir.getLast? = some '/'
  · obtain ⟨x, rfl⟩ := List.getLast?_eq_some_iff.1 hslash
    have hnil : names [] = [] := rfl
    refine ⟨[], by simp [join], ?_⟩
    rw [List.append_nil, List.append_assoc, List.singleton_append, names_append_slash,
      names_append_slash, hnil, List.append_nil]
  · refine ⟨['/'], by simp [join, hempty, hslash], ?_⟩
    rw [List.append_assoc, List.singleton_append, names_append_slash]

lemma getLast?_join {dir name : Text} (h : IsPlain name) : (join dir name).getLast? ≠ some '/' := by
  have hlast : name.getLast? ≠ some '/' :=
    fun hslash => h.slash_notMem (List.mem_of_getLast? hslash)
  have happend (front : Text) : (front ++ name).getLast? = name.getLast? :=
    List.getLast?_append_of_ne_nil front h.ne_nil
  unfold join
  split_ifs
  · exact hlast
  · rwa [happend]
  · rwa [happend]

end Path

namespace Route

lemma ofPath_eq_ok_iff {path : Text} {route : Route} :
    ofPath path = .ok route ↔
      '\x00' ∉ path ∧ Text.byteLength path < pathLimit ∧ path ≠ [] ∧
        route = { fromRoot := path.head? = some '/', names := Path.names path,
                  toDirectory := path.getLast? = some '/' } := by
  have hnul : path.any (· == '\x00') = true ↔ '\x00' ∈ path := by simp
  have hempty : path.isEmpty = true ↔ path = [] := List.isEmpty_iff
  constructor
  · intro h
    unfold ofPath at h
    split_ifs at h with h₁ h₂ h₃
    exact ⟨fun hmem => h₁ (hnul.2 hmem), not_le.1 h₂, fun hnil => h₃ (hempty.2 hnil),
      (Except.ok.inj h).symm⟩
  · rintro ⟨hmem, hlength, hne, rfl⟩
    rw [ofPath, if_neg fun h => hmem (hnul.1 h), if_neg (not_le.2 hlength),
      if_neg fun h => hne (hempty.1 h)]
    rfl

end Route

/-! ### What a disk takes -/

/-- Some bytes are the first ones of a content, and not all of them. -/
def CutShort (content bytes : ByteArray) : Prop :=
  ∃ room < content.size, bytes = content.extract 0 room

lemma Disk.take_cases (disk : Disk) (path : Text) (content : ByteArray) :
    disk.take path content = (content, .ok ()) ∨
      ∃ room cause, disk.limit? path = some (room, cause) ∧ room < content.size ∧
        disk.take path content = (content.extract 0 room, .error (.disk cause)) := by
  unfold take
  cases disk.limit? path with
  | none => exact .inl rfl
  | some limit =>
    obtain ⟨room, cause⟩ := limit
    by_cases hroom : room < content.size
    · exact .inr ⟨room, cause, rfl, hroom, if_pos hroom⟩
    · exact .inl (if_neg hroom)

namespace FileTree

variable {t t' t'' : FileTree} {place home : Place} {entry : Entry} {path dir name : Text}
  {content : ByteArray} {route : Route} {disk : Disk}

/-! ### Entries -/

lemma entry?_put_self (hplace : place ≠ []) : entry? (t.put place entry) place = some entry := by
  have hempty : place.isEmpty = false := by simpa using hplace
  unfold entry? put
  simp [hempty]

lemma lookup_filter_of_ne {other : Place} (hne : other ≠ place) (entries : List (Place × Entry)) :
    (entries.filter fun old => old.1 ≠ place).lookup other = entries.lookup other := by
  induction entries with
  | nil => rfl
  | cons first entries ih =>
    obtain ⟨key, value⟩ := first
    by_cases hkey : key = place
    · have hother : (other == key) = false := by simpa [hkey] using hne
      simp only [List.filter_cons, hkey, ne_eq, not_true_eq_false, decide_false,
        Bool.false_eq_true, if_false, List.lookup_cons, ih]
      rw [← hkey, hother]
    · simp only [List.filter_cons, hkey, ne_eq, not_false_eq_true, decide_true, if_true,
        List.lookup_cons, ih]

lemma entry?_put_of_ne {other : Place} (hne : other ≠ place) :
    entry? (t.put place entry) other = t.entry? other := by
  have hfirst : (other == place) = false := by simpa using hne
  unfold entry? put
  rw [List.lookup_cons, hfirst, lookup_filter_of_ne hne]

lemma ne_nil_of_ne_directory (h : t.entry? place ≠ some .directory) : place ≠ [] := by
  rintro rfl
  exact h rfl

/-! ### Growing trees -/

/-- What was a directory is one still, and relative paths begin where they did. -/
structure Grows (t t' : FileTree) : Prop where
  workingDirectory : t'.workingDirectory = t.workingDirectory
  directory : ∀ place, t.entry? place = some .directory → t'.entry? place = some .directory

namespace Grows

lemma refl (t : FileTree) : Grows t t := ⟨rfl, fun _ h => h⟩

lemma trans (h : Grows t t') (h' : Grows t' t'') : Grows t t'' :=
  ⟨h'.workingDirectory.trans h.workingDirectory,
    fun place hplace => h'.directory place (h.directory place hplace)⟩

lemma put (h : t.entry? place ≠ some .directory) : Grows t (t.put place entry) := by
  refine ⟨rfl, fun other hother => ?_⟩
  have hne : other ≠ place := by
    rintro rfl
    exact h hother
  rwa [entry?_put_of_ne hne]

/-- A file hides no directory and makes none. -/
lemma of_put (h : t.entry? place ≠ some .directory) : Grows (t.put place (.file content)) t := by
  refine ⟨rfl, fun other hother => ?_⟩
  by_cases heq : other = place
  · rw [heq, entry?_put_self (ne_nil_of_ne_directory h)] at hother
    cases hother
  · rwa [entry?_put_of_ne heq] at hother

lemma step (h : Grows t t') {start : Place} (hstep : t.step start name = .ok place) :
    t'.step start name = .ok place := by
  unfold FileTree.step at hstep ⊢
  cases hentry : t.entry? start with
  | none => simp [hentry] at hstep
  | some entry =>
    cases entry with
    | file content => simp [hentry] at hstep
    | directory =>
      rw [hentry] at hstep
      rw [h.directory start hentry]
      exact hstep

/-- A route leads to the same place in the grown tree. -/
lemma locate (h : Grows t t') (hroute : t.locate route = .ok place) :
    t'.locate route = .ok place := by
  have hnames (names : List Text) (start : Place) (hstart : names.foldlM t.step start = .ok place) :
      names.foldlM t'.step start = .ok place := by
    induction names generalizing start with
    | nil => exact hstart
    | cons name names ih =>
      rw [List.foldlM_cons, bind_eq_ok_iff] at hstart ⊢
      obtain ⟨next, hstep, hrest⟩ := hstart
      exact ⟨next, h.step hstep, ih next hrest⟩
  unfold FileTree.locate at hroute ⊢
  rw [h.workingDirectory]
  exact hnames _ _ hroute

lemma locatePath (h : Grows t t') (hpath : t.locatePath path = .ok place) :
    t'.locatePath path = .ok place := by
  obtain ⟨route, hroute, hplace⟩ := bind_eq_ok_iff.1 hpath
  exact bind_eq_ok_iff.2 ⟨route, hroute, h.locate hplace⟩

end Grows

/-! ### Reading and writing -/

lemma locatePath_eq_ok_iff :
    t.locatePath path = .ok place ↔
      ∃ route, Route.ofPath path = .ok route ∧ t.locate route = .ok place := bind_eq_ok_iff

lemma toDirectory_iff (h : Route.ofPath path = .ok route) :
    route.toDirectory = true ↔ path.getLast? = some '/' := by
  obtain ⟨-, -, -, rfl⟩ := Route.ofPath_eq_ok_iff.1 h
  exact decide_eq_true_iff

lemma write_eq_ok_iff :
    t.write path content = .ok t' ↔
      ∃ place, t.locatePath path = .ok place ∧ path.getLast? ≠ some '/' ∧
        t.entry? place ≠ some .directory ∧ t.put place (.file content) = t' := by
  simp only [write, locatePath_eq_ok_iff, bind_eq_ok_iff]
  constructor
  · rintro ⟨route, hroute, place, hplace, h⟩
    split_ifs at h with hdir
    rw [toDirectory_iff hroute, not_or] at hdir
    exact ⟨place, ⟨route, hroute, hplace⟩, hdir.1, hdir.2, Except.ok.inj h⟩
  · rintro ⟨place, ⟨route, hroute, hplace⟩, hlast, hentry, rfl⟩
    refine ⟨route, hroute, place, hplace, ?_⟩
    rw [if_neg (not_or.2 ⟨mt (toDirectory_iff hroute).1 hlast, hentry⟩)]

/-- A file that is written stands at the place of its path, and nothing else has changed. -/
lemma exists_of_write (h : t.write path content = .ok t') :
    Grows t t' ∧ Grows t' t ∧ ∃ place, t'.locatePath path = .ok place ∧
      t'.entry? place = some (.file content) ∧
      ∀ other, other ≠ place → t'.entry? other = t.entry? other := by
  obtain ⟨place, hplace, -, hentry, rfl⟩ := write_eq_ok_iff.1 h
  have hgrows : Grows t (t.put place (.file content)) := .put hentry
  exact ⟨hgrows, .of_put hentry, place, hgrows.locatePath hplace,
    entry?_put_self (ne_nil_of_ne_directory hentry), fun other hother => entry?_put_of_ne hother⟩

/-- The ways in which a disk stores a file. -/
inductive Stores (t : FileTree) (disk : Disk) (path : Text) (content : ByteArray) :
    FileTree × Except FileError Unit → Prop
  /-- The file was not opened. -/
  | unopened (e : FileError) : Stores t disk path content (t, .error e)
  /-- The disk has taken all of the content. -/
  | whole {written : FileTree} (hwrite : t.write path content = .ok written) :
      Stores t disk path content (written, .ok ())
  /-- The disk has failed with the file open. -/
  | cut {left : FileTree} {bytes : ByteArray} {room : Nat} {cause : DiskError}
      (hlimit : disk.limit? path = some (room, cause)) (hbytes : CutShort content bytes)
      (hwrite : t.write path bytes = .ok left) :
      Stores t disk path content (left, .error (.disk cause))

lemma stores_store (t : FileTree) (disk : Disk) (path : Text) (content : ByteArray) :
    Stores t disk path content (t.store disk path content) := by
  rcases disk.take_cases path content with htake | ⟨room, cause, hlimit, hroom, htake⟩
  · simp only [store, htake]
    cases hwrite : t.write path content with
    | error e => exact .unopened e
    | ok written =>
      cases disk.refusesFile? path with
      | some refusal => exact .unopened (.disk refusal)
      | none => exact .whole hwrite
  · simp only [store, htake]
    cases hwrite : t.write path (content.extract 0 room) with
    | error e => exact .unopened e
    | ok left =>
      cases disk.refusesFile? path with
      | some refusal => exact .unopened (.disk refusal)
      | none => exact .cut hlimit ⟨room, hroom, rfl⟩ hwrite

lemma read_eq_ok_iff :
    t.read path = .ok content ↔
      ∃ place, t.locatePath path = .ok place ∧ path.getLast? ≠ some '/' ∧
        t.entry? place = some (.file content) := by
  simp only [read, locatePath_eq_ok_iff, bind_eq_ok_iff]
  constructor
  · rintro ⟨route, hroute, place, hplace, h⟩
    cases hentry : t.entry? place with
    | none => simp [hentry] at h
    | some entry =>
      cases entry with
      | directory => simp [hentry] at h
      | file old =>
        simp only [hentry] at h
        split_ifs at h with hlast
        rw [toDirectory_iff hroute] at hlast
        obtain rfl := Except.ok.inj h
        exact ⟨place, ⟨route, hroute, hplace⟩, hlast, hentry⟩
  · rintro ⟨place, ⟨route, hroute, hplace⟩, hlast, hentry⟩
    refine ⟨route, hroute, place, hplace, ?_⟩
    simp only [hentry]
    rw [if_neg (mt (toDirectory_iff hroute).1 hlast)]

lemma makeDirectory_eq_ok_iff :
    t.makeDirectory disk route = .ok t' ↔
      ∃ place, t.locate route = .ok place ∧ t.entry? place = none ∧
        disk.refusesDirectory? route = none ∧ t.put place .directory = t' := by
  rw [makeDirectory, bind_eq_ok_iff]
  refine exists_congr fun place => and_congr_right fun _ => ?_
  cases t.entry? place with
  | some entry => simp
  | none => cases disk.refusesDirectory? route <;> simp

lemma pathExists_iff :
    t.pathExists path = true ↔
      ∃ place, t.locatePath path = .ok place ∧
        (t.entry? place = some .directory ∨
          path.getLast? ≠ some '/' ∧ ∃ content, t.entry? place = some (.file content)) := by
  simp only [locatePath_eq_ok_iff]
  unfold pathExists
  constructor
  · intro h
    cases hroute : Route.ofPath path with
    | error e => simp [hroute] at h
    | ok route =>
      cases hplace : t.locate route with
      | error e => simp [hroute, hplace] at h
      | ok place =>
        refine ⟨place, ⟨route, rfl, hplace⟩, ?_⟩
        cases hentry : t.entry? place with
        | none => simp [hroute, hplace, hentry] at h
        | some entry =>
          cases entry with
          | directory => exact .inl rfl
          | file content =>
            have hlast : path.getLast? ≠ some '/' := by
              simpa [hroute, hplace, hentry, ← toDirectory_iff hroute] using h
            exact .inr ⟨hlast, content, rfl⟩
  · rintro ⟨place, ⟨route, hroute, hplace⟩, hentry | ⟨hlast, content, hentry⟩⟩
    · simp [hroute, hplace, hentry]
    · have hopen : ¬route.toDirectory = true := mt (toDirectory_iff hroute).1 hlast
      simp [hroute, hplace, hentry, hopen]

/-- Trees with the same directories show the same at the end of a path, if they have the same entry
there. -/
lemma pathExists_congr (h : Grows t t') (hback : Grows t' t)
    (hentry : ∀ place, t.locatePath path = .ok place → t'.entry? place = t.entry? place) :
    t'.pathExists path = t.pathExists path := by
  rw [Bool.eq_iff_iff, pathExists_iff, pathExists_iff]
  refine exists_congr fun place => ⟨fun ⟨hplace, hthere⟩ => ?_, fun ⟨hplace, hthere⟩ => ?_⟩
  · have hold := hback.locatePath hplace
    rw [hentry place hold] at hthere
    exact ⟨hold, hthere⟩
  · rw [← hentry place hplace] at hthere
    exact ⟨h.locatePath hplace, hthere⟩

lemma read_congr (h : Grows t t') (hplace : t.locatePath path = .ok place)
    (hentry : t'.entry? place = t.entry? place) : t'.read path = t.read path := by
  obtain ⟨route, hroute, hlocate⟩ := locatePath_eq_ok_iff.1 hplace
  simp only [read, hroute, hlocate, h.locate hlocate, hentry, bind, Except.bind]

/-! ### The directory of a path -/

/-- The place of the directory that a path stands for. The empty path stands for the working
directory. -/
def locateDirectory (t : FileTree) (dir : Text) : Except FileError Place :=
  if dir.isEmpty then .ok t.workingDirectory else t.locatePath dir

lemma step_plain (hname : Path.IsPlain name) (h : t.step home name = .ok place) :
    t.entry? home = some .directory ∧ place = home ++ [name] := by
  unfold step at h
  rw [if_neg hname.ne_here, if_neg hname.ne_above] at h
  cases hentry : t.entry? home with
  | none => simp [hentry] at h
  | some entry =>
    cases entry with
    | file content => simp [hentry] at h
    | directory =>
      simp only [hentry] at h
      split_ifs at h
      exact ⟨rfl, (Except.ok.inj h).symm⟩

lemma exists_of_foldlM_concat {names : List Text} {start : Place} (hname : Path.IsPlain name)
    (h : (names ++ [name]).foldlM t.step start = .ok place) :
    ∃ home, names.foldlM t.step start = .ok home ∧ t.entry? home = some .directory ∧
      place = home ++ [name] := by
  rw [List.foldlM_append] at h
  obtain ⟨home, hhome, hlast⟩ := bind_eq_ok_iff.1 h
  rw [List.foldlM_cons] at hlast
  obtain ⟨next, hstep, hnext⟩ := bind_eq_ok_iff.1 hlast
  obtain rfl := Except.ok.inj hnext
  exact ⟨home, hhome, step_plain hname hstep⟩

/-- The path of a plain name in a directory leads right below the place of the directory. -/
lemma exists_of_locatePath_join (hname : Path.IsPlain name)
    (h : t.locatePath (Path.join dir name) = .ok place) :
    ∃ home, t.locateDirectory dir = .ok home ∧ t.entry? home = some .directory ∧
      place = home ++ [name] := by
  obtain ⟨route, hroute, hplace⟩ := locatePath_eq_ok_iff.1 h
  obtain ⟨hnul, hlength, -, rfl⟩ := Route.ofPath_eq_ok_iff.1 hroute
  cases dir with
  | nil =>
    have hjoin : Path.join [] name = name := rfl
    have hrelative : ¬name.head? = some '/' :=
      fun hhead => hname.slash_notMem (List.mem_of_mem_head? hhead)
    rw [hjoin, locate, hname.names] at hplace
    simp only [hrelative, decide_false, Bool.false_eq_true, if_false] at hplace
    rw [← List.nil_append [name]] at hplace
    exact exists_of_foldlM_concat hname hplace
  | cons c rest =>
    obtain ⟨front, hjoin, hnames⟩ := Path.exists_join (c :: rest) name (List.cons_ne_nil c rest)
    rw [hjoin] at hnul hlength hplace
    have hdirRoute : Route.ofPath (c :: rest) = .ok
        { fromRoot := (c :: rest).head? = some '/', names := Path.names (c :: rest),
          toDirectory := (c :: rest).getLast? = some '/' } := by
      refine Route.ofPath_eq_ok_iff.2 ⟨fun hmem => hnul ?_, ?_, List.cons_ne_nil c rest, rfl⟩
      · rw [List.append_assoc]
        exact List.mem_append_left _ hmem
      · simp only [Text.byteLength_append] at hlength
        omega
    rw [hnames, hname.names, locate] at hplace
    obtain ⟨home, hhome, hbelow⟩ := exists_of_foldlM_concat hname hplace
    exact ⟨home, locatePath_eq_ok_iff.2 ⟨_, hdirRoute, hhome⟩, hbelow⟩

/-- A place tells the name of the file at it, whatever the directory and the tree. -/
lemma name_eq_of_locatePath_join {dir' name' : Text} (hname : Path.IsPlain name)
    (hname' : Path.IsPlain name') (h : t.locatePath (Path.join dir name) = .ok place)
    (h' : t'.locatePath (Path.join dir' name') = .ok place) : name = name' := by
  obtain ⟨home, -, -, hplace⟩ := exists_of_locatePath_join hname h
  obtain ⟨home', -, -, hplace'⟩ := exists_of_locatePath_join hname' h'
  rw [hplace] at hplace'
  exact List.singleton_injective (List.append_inj_right' hplace' rfl)

/-- There is nothing to make where the directory is. -/
lemma ensureDirectory_of_directory (hhome : t.locateDirectory dir = .ok home)
    (hentry : t.entry? home = some .directory) : t.ensureDirectory dir disk = (t, .ok ()) := by
  unfold locateDirectory at hhome
  unfold ensureDirectory
  split_ifs at hhome ⊢
  · rfl
  · obtain ⟨route, hroute, hlocate⟩ := locatePath_eq_ok_iff.1 hhome
    have hmake : t.makeDirectory disk route = .error .alreadyExists := by
      simp only [makeDirectory, hlocate, hentry, bind, Except.bind]
    have hdirectory : t.isDirectory route = true := by
      simp only [isDirectory, hlocate, hentry, beq_self_eq_true]
    simp only [hroute, hmake, hdirectory, if_true]

/-! ### Directories that are made -/

/-- The routes to the directories on the way to the one of a path, and to it. -/
def waysTo (dir : Text) : List Route :=
  match Route.ofPath dir with
  | .error _ => []
  | .ok route => route.ancestors ++ [route]

/-- Some of the directories that routes lead to were missing and have been made; nothing else has
changed. -/
structure MadeAlong (routes : List Route) (t t' : FileTree) : Prop where
  grows : Grows t t'
  entries : ∀ place, t'.entry? place = t.entry? place ∨
    t.entry? place = none ∧ t'.entry? place = some .directory ∧
      ∃ route ∈ routes, t'.locate route = .ok place

namespace MadeAlong

variable {routes : List Route}

lemma refl (routes : List Route) (t : FileTree) : MadeAlong routes t t :=
  ⟨.refl t, fun _ => .inl rfl⟩

lemma trans (h : MadeAlong routes t t') (h' : MadeAlong routes t' t'') : MadeAlong routes t t'' := by
  refine ⟨h.grows.trans h'.grows, fun place => ?_⟩
  rcases h.entries place with hfirst | ⟨hmissing, hmade, route, hroute, hplace⟩
  · rw [← hfirst]
    exact h'.entries place
  · exact .inr ⟨hmissing, h'.grows.directory place hmade, route, hroute, h'.grows.locate hplace⟩

lemma of_makeDirectory (hroute : route ∈ routes) (h : t.makeDirectory disk route = .ok t') :
    MadeAlong routes t t' := by
  obtain ⟨place, hplace, hmissing, -, rfl⟩ := makeDirectory_eq_ok_iff.1 h
  have hne : t.entry? place ≠ some .directory := by simp [hmissing]
  have hgrows : Grows t (t.put place .directory) := .put hne
  refine ⟨hgrows, fun other => ?_⟩
  by_cases hother : other = place
  · subst hother
    exact .inr ⟨hmissing, entry?_put_self (ne_nil_of_ne_directory hne), route, hroute,
      hgrows.locate hplace⟩
  · exact .inl (entry?_put_of_ne hother)

/-- Whether all the directories could be made or not, those that were made are on the list. -/
lemma of_ensureDirectories {todo : List Route} (htodo : ∀ route ∈ todo, route ∈ routes) :
    MadeAlong routes t (t.ensureDirectories disk todo).1 := by
  induction todo generalizing t with
  | nil => exact .refl routes t
  | cons route todo ih =>
    obtain ⟨hroute, hrest⟩ := List.forall_mem_cons.1 htodo
    rw [ensureDirectories]
    cases hmake : t.makeDirectory disk route with
    | ok made => exact (of_makeDirectory hroute hmake).trans (ih hrest)
    | error e =>
      dsimp only
      split_ifs
      · exact ih hrest
      · exact .refl routes t

lemma of_ensureDirectory (t : FileTree) (dir : Text) (disk : Disk) :
    MadeAlong (waysTo dir) t (t.ensureDirectory dir disk).1 := by
  unfold ensureDirectory
  split_ifs
  · exact .refl _ t
  · cases hroute : Route.ofPath dir with
    | error e => exact .refl _ t
    | ok route =>
      have hways : waysTo dir = route.ancestors ++ [route] := by rw [waysTo, hroute]
      have hlast : route ∈ waysTo dir := by simp [hways]
      dsimp only
      cases hmake : t.makeDirectory disk route with
      | ok made => exact of_makeDirectory hlast hmake
      | error e =>
        have hleft : MadeAlong (waysTo dir) t
            (if t.isDirectory route then (t, .ok ()) else (t, .error e) :
              FileTree × Except FileError Unit).1 := by
          split_ifs <;> exact .refl _ t
        cases e with
        | notFound => exact of_ensureDirectories fun other hother => hways ▸ hother
        | _ => exact hleft

end MadeAlong

end FileTree

end BlockAudit
