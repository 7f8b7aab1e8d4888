import RecipeMatrix.Proofs.Files.Alterations
import RecipeMatrix.Proofs.Path.Ancestors

/-!
# Changes to single places

A path without `..` stands for one place (`Workspace.place`), whatever is on the disk.  So what a
change to a file does can be said by the entry of one place.

There are three groups.

* Entries.  A target is the place of its path (`cons_eq_place`).  What is found at a path depends on
  the entry of its place and on nothing else (`found?_congr`).
* Changes.  `FileSystem.Sets place entry` says that one place has another entry and all others have
  the same.  A file that is created, written or removed is such a change; a file that is moved is
  two (`sets_of_moveFile`).
* Temporary paths.  A path has its temporary file at another place (`place_temporaryPath_ne`), also
  if the path names nothing itself.
-/

namespace RecipeMatrix

open RecipeMatrix.Path

/-! ## Entries -/

namespace Workspace

variable {workspace first second : Workspace} {path : Path} {directory : Place} {name : String}

/-- The place that is looked up is the place of the path. -/
theorem cons_eq_place {asDirectory : Bool} (hplain : path.IsPlain)
    (htarget : workspace.target path = .ok (.name directory name asDirectory)) :
    name :: directory = workspace.place path := by
  obtain ⟨route, part, -, hroute, -, -, hwalk, -, -, rfl⟩ := target_eq_name htarget
  have hnames : AreNames route := fun other hother =>
    areNames_route hplain other (by rw [hroute]; exact List.mem_append_left _ hother)
  obtain ⟨rfl, -, -⟩ := (walk_eq_ok_iff hnames).1 hwalk
  rw [place, hroute]
  simp [Place.below]

/-- A name that can be looked up in a directory can be looked up wherever the directory is one. -/
theorem target_congr {asDirectory : Bool} (hplain : path.IsPlain)
    (hcurrent : second.current = first.current)
    (htarget : first.target path = .ok (.name directory name asDirectory))
    (hdirectory : second.files.get? directory = some .directory) :
    second.target path = .ok (.name directory name asDirectory) := by
  obtain ⟨-, -, hrefusal, -⟩ := target_eq_name htarget
  rcases target_shape hrefusal with hshape | ⟨route, part, asOther, hroute, -, -, hshape⟩
  · rw [hshape] at htarget
    cases hreach : first.reach path <;> simp [hreach, Except.map] at htarget
  · have hnames : AreNames route := fun other hother =>
      areNames_route hplain other (by rw [hroute]; exact List.mem_append_left _ hother)
    rw [hshape] at htarget ⊢
    obtain ⟨reached, hwalk, htarget⟩ := bind_eq_ok_iff.1 htarget
    obtain ⟨found, hfound, htarget⟩ := bind_eq_ok_iff.1 htarget
    obtain ⟨-, hsize, hname⟩ := nameIn_eq_ok_iff.1 hfound
    obtain ⟨hplace, hshort, -⟩ := (walk_eq_ok_iff hnames).1 hwalk
    obtain ⟨rfl, rfl, rfl⟩ := Target.name.inj (Except.ok.inj htarget)
    have hstart : second.start path = first.start path := by rw [start, start, hcurrent]
    rw [hstart, (walk_eq_ok_iff hnames).2 ⟨hplace, hshort, .inr hdirectory⟩]
    simp only [Except.bind, nameIn_eq_ok_iff.2 ⟨hdirectory, hsize, hname⟩]

theorem find_eq_file_iff {place : Place} {content : ByteArray} :
    workspace.find path = .ok (place, .file content) ↔
      ∃ directory name, workspace.target path = .ok (.name directory name false) ∧
        place = name :: directory ∧ workspace.files.get? place = some (.file content) := by
  rw [find_of_target]
  cases workspace.target path with
  | error refusal => simp [Except.bind]
  | ok target =>
    cases target with
    | directory reached => simp [Except.bind]
    | name directory name asDirectory =>
      simp only [Except.bind]
      split
      next hnone =>
        simp only [reduceCtorEq, false_iff]
        rintro ⟨_, _, htarget, rfl, hentry⟩
        obtain ⟨rfl, rfl, -⟩ := Target.name.inj (Except.ok.inj htarget)
        simp [hnone] at hentry
      next hfound =>
        simp only [Except.ok.injEq, Prod.mk.injEq, reduceCtorEq, and_false, false_iff]
        rintro ⟨_, _, htarget, rfl, hentry⟩
        obtain ⟨rfl, rfl, -⟩ := Target.name.inj htarget
        simp [hfound] at hentry
      next old hfound =>
        cases asDirectory with
        | true => simp
        | false =>
          simp only [Bool.false_eq_true, if_false, Except.ok.injEq, Prod.mk.injEq,
            Entry.file.injEq, Target.name.injEq, and_true]
          constructor
          · rintro ⟨rfl, rfl⟩
            exact ⟨directory, name, ⟨rfl, rfl⟩, rfl, hfound⟩
          · rintro ⟨_, _, ⟨rfl, rfl⟩, rfl, hentry⟩
            exact ⟨rfl, by simpa [hfound] using hentry⟩

/-- A file that stands where a name was looked up is found under that name. -/
theorem find_of_target_eq {content : ByteArray} (hplain : path.IsPlain)
    (hcurrent : second.current = first.current)
    (htarget : first.target path = .ok (.name directory name false))
    (hentry : second.files.get? (first.place path) = some (.file content)) :
    second.find path = .ok (first.place path, .file content) := by
  have hplace := cons_eq_place hplain htarget
  have hdirectory := FileSystem.get?_parent_of_eq (hplace ▸ hentry)
  exact find_eq_file_iff.2 ⟨directory, name, target_congr hplain hcurrent htarget hdirectory,
    hplace.symm, hentry⟩

/-- What is found is found wherever the place of the path has the same entry. -/
theorem found?_of_get? {entry : Entry} (hplain : path.IsPlain)
    (hcurrent : second.current = first.current)
    (hsame : second.files.get? (first.place path) = first.files.get? (first.place path))
    (hfound : first.found? path = some entry) : second.found? path = some entry := by
  have hplace := place_congr hcurrent path
  unfold found? at hfound
  split at hfound
  next place found hfind =>
    obtain rfl := Option.some.inj hfound
    cases found with
    | directory =>
      obtain ⟨hrefusal, hreach⟩ := find_eq_directory_iff.1 hfind
      obtain ⟨rfl, hshort, hentry⟩ := (reach_eq_ok_iff hplain).1 hreach
      have hreached : second.reach path = .ok (first.place path) :=
        (reach_eq_ok_iff hplain).2 ⟨hplace.symm, hshort, by rwa [hsame]⟩
      rw [found?, find_eq_directory_iff.2 ⟨hrefusal, hreached⟩]
    | file content =>
      obtain ⟨directory, name, htarget, rfl, hentry⟩ := find_eq_file_iff.1 hfind
      rw [cons_eq_place hplain htarget, ← hsame] at hentry
      rw [found?, find_of_target_eq hplain hcurrent htarget hentry]
  next => cases hfound

/-- What is found at a path depends on the entry of its place only. -/
theorem found?_congr (hplain : path.IsPlain) (hcurrent : second.current = first.current)
    (hsame : second.files.get? (first.place path) = first.files.get? (first.place path)) :
    second.found? path = first.found? path := by
  have hplace := place_congr hcurrent path
  refine Option.ext fun entry => ⟨fun hfound => ?_, fun hfound => ?_⟩
  · exact found?_of_get? hplain hcurrent.symm (by rw [hplace, hsame]) hfound
  · exact found?_of_get? hplain hcurrent hsame hfound

end Workspace

/-! ## Changes -/

/-- One place has an entry, or none, and every other place has the entry it had. -/
def FileSystem.Sets (place : Place) (entry : Option Entry) (first second : FileSystem) : Prop :=
  ∀ other, second.get? other = if place = other then entry else first.get? other

namespace FileSystem.Sets

variable {place : Place} {entry later : Option Entry} {first second third : FileSystem}

theorem get?_self (hsets : Sets place entry first second) : second.get? place = entry := by
  rw [hsets, if_pos rfl]

theorem get?_of_ne (hsets : Sets place entry first second) {other : Place}
    (hne : other ≠ place) : second.get? other = first.get? other := by
  rw [hsets, if_neg hne.symm]

/-- The last entry counts. -/
theorem trans (hfirst : Sets place entry first second) (hsecond : Sets place later second third) :
    Sets place later first third := by
  intro other
  rw [hsecond, hfirst]
  split <;> rfl

end FileSystem.Sets

namespace Workspace

variable {workspace : Workspace} {path source : Path} {files : FileSystem} {content : ByteArray}

/-- A file that is created was looked up under its name, and no directory was there. -/
theorem sets_of_createFile (hplain : path.IsPlain)
    (happly : workspace.apply (.createFile path) = .ok files) :
    (∃ directory name, workspace.target path = .ok (.name directory name false)) ∧
      workspace.files.get? (workspace.place path) ≠ some .directory ∧
      FileSystem.Sets (workspace.place path) (some (.file .empty)) workspace.files files := by
  simp only [apply, bind_eq_ok_iff] at happly
  obtain ⟨target, htarget, happly⟩ := happly
  cases target with
  | directory place => cases happly
  | name directory name asDirectory =>
    have hplace := cons_eq_place hplain htarget
    obtain ⟨-, -, -, -, -, -, -, hdirectory, -, -⟩ := target_eq_name htarget
    simp only [Bool.or_eq_true, beq_iff_eq] at happly
    split at happly
    next => cases happly
    next hallowed =>
      obtain ⟨hname, hentry⟩ := not_or.1 hallowed
      rw [Bool.not_eq_true] at hname
      subst hname
      rw [← Except.ok.inj happly, ← hplace]
      exact ⟨⟨directory, name, htarget⟩, hentry, fun other =>
        FileSystem.get?_put ⟨hdirectory, fun h => absurd h hentry⟩⟩

/-- Where a file cannot be created, there is none. -/
theorem isFile_of_createFile_error {refusal : SystemError}
    (happly : workspace.apply (.createFile path) = .error refusal) :
    workspace.isFile path = false := by
  cases hfile : workspace.isFile path with
  | false => rfl
  | true =>
    unfold isFile at hfile
    split at hfile
    next place old hfind =>
      obtain ⟨directory, name, htarget, rfl, hentry⟩ := find_eq_file_iff.1 hfind
      simp only [apply, htarget, Bind.bind, Except.bind, hentry] at happly
      cases happly
    next => cases hfile

theorem sets_of_writeFile (hplain : path.IsPlain)
    (happly : workspace.apply (.writeFile path content) = .ok files) :
    FileSystem.Sets (workspace.place path) (some (.file content)) workspace.files files := by
  simp only [apply, bind_eq_ok_iff] at happly
  obtain ⟨⟨place, entry⟩, hfind, happly⟩ := happly
  cases entry with
  | directory => cases place <;> cases happly
  | file old =>
    obtain ⟨directory, name, htarget, rfl, hentry⟩ := find_eq_file_iff.1 hfind
    rw [← Except.ok.inj happly, ← cons_eq_place hplain htarget]
    exact fun other => FileSystem.get?_put
      ⟨FileSystem.get?_parent_of_eq hentry, fun h => absurd h (by simp [hentry])⟩

/-- A file that is found can be removed. -/
theorem sets_of_removeFile {place : Place}
    (hfind : workspace.find path = .ok (place, .file content)) :
    workspace.apply (.removeFile path) = .ok (workspace.files.erase place) ∧
      FileSystem.Sets place none workspace.files (workspace.files.erase place) := by
  obtain ⟨-, -, -, -, hentry⟩ := find_eq_file_iff.1 hfind
  refine ⟨?_, fun other => FileSystem.get?_erase (by simp [hentry])⟩
  simp only [apply, hfind]
  rfl

/-- A file that is moved is gone from the one place, and it is at the other one, where no directory
was. -/
theorem sets_of_moveFile {place : Place} (hplain : path.IsPlain)
    (hfind : workspace.find source = .ok (place, .file content))
    (happly : workspace.apply (.moveFile source path) = .ok files) :
    (∃ directory name, workspace.target path = .ok (.name directory name false)) ∧
      workspace.files.get? (workspace.place path) ≠ some .directory ∧
      ∃ middle, FileSystem.Sets place none workspace.files middle ∧
        FileSystem.Sets (workspace.place path) (some (.file content)) middle files := by
  obtain ⟨fromDirectory, fromName, hfrom, rfl, hentry⟩ := find_eq_file_iff.1 hfind
  simp only [apply, hfrom, Bind.bind, Except.bind] at happly
  cases hto : workspace.target path with
  | error refusal => simp [hto] at happly
  | ok target =>
    cases target with
    | directory reached => simp [hto] at happly
    | name directory name asDirectory =>
      have hplace := cons_eq_place hplain hto
      obtain ⟨-, -, -, -, -, -, -, hdirectory, -, -⟩ := target_eq_name hto
      simp only [hto, hentry, Bool.false_or, beq_iff_eq] at happly
      split at happly
      next => cases happly
      next hname =>
        rw [Bool.not_eq_true] at hname
        subst hname
        split at happly
        next => cases happly
        next hallowed =>
          have herase : FileSystem.Sets (fromName :: fromDirectory) none workspace.files
              (workspace.files.erase (fromName :: fromDirectory)) :=
            fun other => FileSystem.get?_erase (by simp [hentry])
          rw [← Except.ok.inj happly, ← hplace]
          refine ⟨⟨directory, name, rfl⟩, hallowed, _, herase, fun other =>
            FileSystem.get?_put ⟨?_, fun h => absurd ?_ hallowed⟩⟩
          · rw [herase.get?_of_ne, hdirectory]
            rintro rfl
            simp [hentry] at hdirectory
          · rw [herase] at h
            split at h
            next => cases h
            next => exact h

end Workspace

/-! ## Temporary paths -/

namespace Path

variable {path : Path}

/-- The file name of a path without `..` is its last step. -/
theorem fileName?_eq (hplain : path.IsPlain) :
    path.fileName? = path.route.getLast?.map String.ofList := by
  have hsteps : path.steps = path.route ∨ path.steps = ['.'] :: path.route := by
    unfold steps route stepsOf
    split
    next parts hparts =>
      rw [hparts, List.filter_cons_of_neg (by decide)]
      exact .inr rfl
    next => exact .inl rfl
  cases hlast : path.route.getLast? with
  | none =>
    rw [List.getLast?_eq_none_iff] at hlast
    rcases hsteps with hsteps | hsteps
    · simp [fileName?, hsteps, hlast]
    · simp [fileName?, hsteps, hlast]
  | some part =>
    obtain ⟨hstep, houter⟩ := Workspace.areNames_route hplain part (List.mem_of_getLast? hlast)
    have hdot : part ≠ ['.'] := by
      rintro rfl
      simp [leadsNowhere] at hstep
    have hend : path.steps.getLast? = some part := by
      rcases hsteps with hsteps | hsteps
      · rw [hsteps, hlast]
      · rw [hsteps, List.getLast?_cons, hlast]
        rfl
    simp [fileName?, hend, hdot, houter]

theorem fileName?_eq_none_iff (hplain : path.IsPlain) :
    path.fileName? = none ↔ path.route = [] := by
  rw [fileName?_eq hplain, Option.map_eq_none_iff, List.getLast?_eq_none_iff]

/-- Where a path has its temporary file: below itself, if it names nothing, and otherwise beside
what it names. -/
inductive HasTemporary (path : Path) : Path → String → Prop
  | below (hroute : path.route = []) : HasTemporary path path (temporaryName "")
  | beside {parent : Path} {part : List Char} (hparent : path.parent? = some parent)
      (hroute : path.route = parent.route ++ [part])
      (habsolute : path.isAbsolute = parent.isAbsolute) :
      HasTemporary path parent (temporaryName (String.ofList part))

theorem exists_hasTemporary (hplain : path.IsPlain) : ∃ base name,
    Files.temporaryPath path = base.join ⟨name⟩ ∧ IsName name ∧ base.IsPlain ∧
      HasTemporary path base name := by
  by_cases hroute : path.route = []
  · have hnone := (fileName?_eq_none_iff hplain).2 hroute
    refine ⟨path, temporaryName "", ?_, by constructor <;> decide, hplain, .below hroute⟩
    rw [Files.temporaryPath, withFileName, hnone]
    rfl
  · obtain ⟨parent, part, hparent, hlast, habsolute⟩ := exists_parent?_eq hroute
    have hname : path.fileName? = some (String.ofList part) := by
      rw [fileName?_eq hplain, hlast, List.getLast?_concat]
      rfl
    have hpart : part ∈ path.route := by simp [hlast]
    obtain ⟨hstep, houter⟩ := Workspace.areNames_route hplain part hpart
    have hisName : IsName (String.ofList part) := by
      refine ⟨?_, ?_, ?_⟩
      · rw [String.toList_ofList]
        exact not_mem_of_mem_parts (mem_route.1 hpart).1
      · rwa [String.toList_ofList]
      · rwa [String.toList_ofList]
    refine ⟨parent, temporaryName (String.ofList part), ?_, hisName.temporary,
      hplain.of_route_eq hlast, .beside hparent hlast habsolute⟩
    rw [Files.temporaryPath, withFileName, hname, hparent]
    rfl

theorem IsPlain.temporaryPath (hplain : path.IsPlain) :
    (Files.temporaryPath path).IsPlain := by
  obtain ⟨base, name, htemporary, hname, hbase, -⟩ := exists_hasTemporary hplain
  rw [htemporary]
  exact hbase.join hname

end Path

namespace Workspace

variable {path : Path}

/-- The place of a path with steps is a name in the place of its parent. -/
theorem place_eq_cons (workspace : Workspace) {parent : Path} {part : List Char}
    (hroute : path.route = parent.route ++ [part])
    (habsolute : path.isAbsolute = parent.isAbsolute) :
    workspace.place path = String.ofList part :: workspace.place parent := by
  rw [place, place, start, start, hroute, habsolute]
  simp [Place.below]

theorem place_join (workspace : Workspace) {base : Path} {name : String} (hname : IsName name) :
    workspace.place (base.join ⟨name⟩) = name :: workspace.place base := by
  rw [workspace.place_eq_cons (route_join hname) (isAbsolute_join hname), String.ofList_toList]

/-- The temporary file of a path is at another place, and no place on the way to the path. -/
theorem place_temporaryPath (workspace : Workspace) (hplain : path.IsPlain) :
    workspace.place (Files.temporaryPath path) ≠ workspace.place path ∧
      ¬ workspace.place (Files.temporaryPath path) <:+ (workspace.place path).tail := by
  obtain ⟨base, name, htemporary, hname, -, hhas⟩ := exists_hasTemporary hplain
  rw [htemporary, workspace.place_join hname]
  cases hhas with
  | below hroute =>
    refine ⟨List.cons_ne_self _ _, fun hsuffix => ?_⟩
    have hlength := hsuffix.length_le
    rw [List.length_cons, List.length_tail] at hlength
    omega
  | @beside _ part hparent hroute habsolute =>
    rw [workspace.place_eq_cons hroute habsolute]
    refine ⟨fun hsame => ?_, fun hsuffix => ?_⟩
    · have hlength := congrArg (fun name => name.toList.length) (List.cons.inj hsame).1
      simp only [length_temporaryName] at hlength
      omega
    · have hlength := hsuffix.length_le
      rw [List.length_cons, List.tail_cons] at hlength
      omega

end Workspace

end RecipeMatrix
