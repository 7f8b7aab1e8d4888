import RecipeMatrix.Proofs.Catalog.Acceptance
import RecipeMatrix.Proofs.Files.Preparation

/-!
# What a replacement can touch

Where the single changes of a replacement take effect, whatever is on the disk and whatever `..`
the path of the directory has.

There are three groups.

* Files in a region.  `AltersFiles region first second`: both file systems have the same
  directories, and they differ in files of a region only.
* Changes to files.  `HandlesFile base named` has the changes that name files in a directory by
  some names.  They alter files under these names in the directory that the path leads to
  (`HandlesFile.altersFiles`).
* Changes to directories.  A directory that is made outward of a path was missing there, is then a
  place that the path passes, and the path led nowhere before (`exists_made`).

`makes_replaceContent` says that a replacement is made of such changes only.
-/

namespace RecipeMatrix

open RecipeMatrix.Path

/-! ## Files in a region -/

/-- The same directories, and other files in a region. -/
def FileSystem.AltersFiles (region : Place → Prop) (first second : FileSystem) : Prop :=
  ∀ place, second.get? place = first.get? place ∨
    region place ∧ first.get? place ≠ some .directory ∧ second.get? place ≠ some .directory

namespace FileSystem.AltersFiles

variable {region : Place → Prop} {first second third files : FileSystem}

theorem refl (files : FileSystem) : AltersFiles region files files := fun _ => .inl rfl

theorem symm (halters : AltersFiles region first second) : AltersFiles region second first := by
  intro place
  rcases halters place with hsame | ⟨hregion, hfirst, hsecond⟩
  · exact .inl hsame.symm
  · exact .inr ⟨hregion, hsecond, hfirst⟩

theorem trans (hfirst : AltersFiles region first second)
    (hsecond : AltersFiles region second third) : AltersFiles region first third := by
  intro place
  rcases hsecond place with hsame | ⟨hregion, hmiddle, hthird⟩
  · rw [hsame]
    exact hfirst place
  · rcases hfirst place with hsame | ⟨-, hnot, -⟩
    · exact .inr ⟨hregion, hsame ▸ hmiddle, hthird⟩
    · exact .inr ⟨hregion, hnot, hthird⟩

theorem directory_iff (halters : AltersFiles region first second) {place : Place} :
    second.get? place = some .directory ↔ first.get? place = some .directory := by
  rcases halters place with hsame | ⟨-, hfirst, hsecond⟩
  · rw [hsame]
  · exact iff_of_false hsecond hfirst

/-- A file that is put somewhere. -/
theorem put {name : String} {place : Place} (hregion : region (name :: place))
    (hplace : files.get? place = some .directory)
    (hname : files.get? (name :: place) ≠ some .directory) (content : ByteArray) :
    AltersFiles region files (files.put name place (.file content)) := by
  intro other
  rw [FileSystem.get?_put ⟨hplace, fun h => absurd h hname⟩]
  split
  next hsame => exact .inr ⟨hsame ▸ hregion, hsame ▸ hname, nofun⟩
  next => exact .inl rfl

/-- A file that is taken away. -/
theorem erase {place : Place} (hregion : region place)
    (hplace : files.get? place ≠ some .directory) :
    AltersFiles region files (files.erase place) := by
  intro other
  rw [FileSystem.get?_erase hplace]
  split
  next hsame => exact .inr ⟨hsame ▸ hregion, hsame ▸ hplace, nofun⟩
  next => exact .inl rfl

end FileSystem.AltersFiles

namespace Workspace

/-! ## Changes to files -/

/-- The places of some names in the directory that a path leads to. -/
def Inside (workspace : Workspace) (base : Path) (named : String → Prop) (place : Place) : Prop :=
  ∃ directory name, workspace.reach base = .ok directory ∧ named name ∧ place = name :: directory

/-- Two paths with the same steps from the same starting point. -/
def SameSteps (first second : Path) : Prop :=
  second.route = first.route ∧ second.isAbsolute = first.isAbsolute

theorem SameSteps.refl (path : Path) : SameSteps path path := ⟨rfl, rfl⟩

theorem sameSteps_holder (path : Path) : SameSteps path path.holder := holder_spec path

theorem SameSteps.reach_eq {first second : Path} (hsame : SameSteps first second)
    (workspace : Workspace) : workspace.reach second = workspace.reach first := by
  rw [reach, reach, start, start, hsame.1, hsame.2]

theorem Inside.of_reach {workspace : Workspace} {base outer : Path} {named : String → Prop}
    {directory : Place} {name : String} (hsame : SameSteps base outer)
    (hreach : workspace.reach outer = .ok directory) (hname : named name) :
    workspace.Inside base named (name :: directory) :=
  ⟨directory, name, hsame.reach_eq workspace ▸ hreach, hname, rfl⟩

/-- A name that is looked up lies in the directory that the path leads to. -/
theorem exists_of_target_join {workspace : Workspace} {base : Path} {name : String}
    {target : Target} (hname : IsName name)
    (htarget : workspace.target (base.join ⟨name⟩) = .ok target) :
    ∃ directory, workspace.reach base = .ok directory ∧ target = .name directory name false ∧
      workspace.files.get? directory = some .directory := by
  cases hrefusal : (base.join ⟨name⟩).refusal? with
  | some refusal =>
    rw [target_of_refusal hrefusal] at htarget
    cases htarget
  | none =>
    rw [target_join hname hrefusal] at htarget
    cases hreach : workspace.reach base with
    | error refusal =>
      rw [hreach] at htarget
      cases htarget
    | ok directory =>
      cases hfound : nameIn workspace.files directory name.toList with
      | error refusal => simp [hreach, hfound, Except.bind] at htarget
      | ok found =>
        obtain ⟨hdirectory, -, rfl⟩ := nameIn_eq_ok_iff.1 hfound
        simp only [hreach, hfound, Except.bind, String.ofList_toList, Except.ok.injEq] at htarget
        exact ⟨directory, rfl, htarget.symm, hdirectory⟩

theorem exists_of_find_join {workspace : Workspace} {base : Path} {name : String} {place : Place}
    {entry : Entry} (hname : IsName name)
    (hfind : workspace.find (base.join ⟨name⟩) = .ok (place, entry)) :
    ∃ directory, workspace.reach base = .ok directory ∧ place = name :: directory ∧
      workspace.files.get? place = some entry ∧
        workspace.files.get? directory = some .directory := by
  simp only [find, bind_eq_ok_iff] at hfind
  obtain ⟨target, htarget, hentry⟩ := hfind
  obtain ⟨directory, hreach, rfl, hdirectory⟩ := exists_of_target_join hname htarget
  refine ⟨directory, hreach, ?_⟩
  cases hfound : workspace.files.get? (name :: directory) with
  | none => simp [hfound] at hentry
  | some found =>
    cases found with
    | directory =>
      simp only [hfound, Except.ok.injEq, Prod.mk.injEq] at hentry
      obtain ⟨rfl, rfl⟩ := hentry
      exact ⟨rfl, hfound, hdirectory⟩
    | file content =>
      simp only [hfound, Bool.false_eq_true, if_false, Except.ok.injEq, Prod.mk.injEq] at hentry
      obtain ⟨rfl, rfl⟩ := hentry
      exact ⟨rfl, hfound, hdirectory⟩

/-- The changes to files under some names in a directory, however the directory is spelled. -/
inductive Change.HandlesFile (base : Path) (named : String → Prop) : Change → Prop
  | createFile {outer : Path} {name : String} (hsame : SameSteps base outer)
      (hname : named name) : HandlesFile base named (.createFile (outer.join ⟨name⟩))
  | writeFile {outer : Path} {name : String} (hsame : SameSteps base outer) (hname : named name)
      (content : ByteArray) : HandlesFile base named (.writeFile (outer.join ⟨name⟩) content)
  | moveFile {outer inner : Path} {source name : String} (houter : SameSteps base outer)
      (hinner : SameSteps base inner) (hsource : named source) (hname : named name) :
      HandlesFile base named (.moveFile (outer.join ⟨source⟩) (inner.join ⟨name⟩))
  | removeFile {outer : Path} {name : String} (hsame : SameSteps base outer)
      (hname : named name) : HandlesFile base named (.removeFile (outer.join ⟨name⟩))

variable {workspace : Workspace} {base : Path} {named : String → Prop}

/-- A change to a file takes effect under its names only. -/
theorem Change.HandlesFile.altersFiles_of_apply (hnames : ∀ name, named name → IsName name)
    {step : Change} (hstep : step.HandlesFile base named) {files : FileSystem}
    (happly : workspace.apply step = .ok files) :
    FileSystem.AltersFiles (workspace.Inside base named) workspace.files files := by
  cases hstep with
  | @createFile outer name hsame hname =>
    simp only [apply, bind_eq_ok_iff] at happly
    obtain ⟨target, htarget, happly⟩ := happly
    obtain ⟨directory, hreach, rfl, hdirectory⟩ :=
      exists_of_target_join (hnames name hname) htarget
    simp only [Bool.false_or, beq_iff_eq] at happly
    split at happly
    next => cases happly
    next hentry =>
      rw [← Except.ok.inj happly]
      exact .put (.of_reach hsame hreach hname) hdirectory hentry _
  | @writeFile outer name hsame hname content =>
    simp only [apply, bind_eq_ok_iff] at happly
    obtain ⟨⟨place, entry⟩, hfind, happly⟩ := happly
    obtain ⟨directory, hreach, rfl, hentry, hdirectory⟩ :=
      exists_of_find_join (hnames name hname) hfind
    cases entry with
    | directory => cases happly
    | file old =>
      rw [← Except.ok.inj happly]
      exact .put (.of_reach hsame hreach hname) hdirectory (by simp [hentry]) _
  | @moveFile outer inner source name houter hinner hsource hname =>
    simp only [apply, bind_eq_ok_iff] at happly
    obtain ⟨fromTarget, hfrom, toTarget, hto, happly⟩ := happly
    obtain ⟨directory, hreach, rfl, hdirectory⟩ :=
      exists_of_target_join (hnames source hsource) hfrom
    obtain ⟨same, hsame, rfl, -⟩ := exists_of_target_join (hnames name hname) hto
    obtain rfl : directory = same := by
      rw [houter.reach_eq, ← hinner.reach_eq, hsame] at hreach
      exact (Except.ok.inj hreach).symm
    cases hentry : workspace.files.get? (source :: directory) with
    | none => simp [hentry] at happly
    | some entry =>
      cases entry with
      | directory => simp [hentry] at happly
      | file content =>
        simp only [hentry, Bool.or_self, Bool.false_eq_true, if_false, beq_iff_eq] at happly
        split at happly
        next => cases happly
        next hfound =>
          rw [← Except.ok.inj happly]
          have herase : FileSystem.AltersFiles (workspace.Inside base named) workspace.files
              (workspace.files.erase (source :: directory)) :=
            .erase (.of_reach houter hreach hsource) (by simp [hentry])
          exact herase.trans (.put (.of_reach houter hreach hname)
            (herase.directory_iff.2 hdirectory) (mt herase.directory_iff.1 hfound) _)
  | @removeFile outer name hsame hname =>
    simp only [apply, bind_eq_ok_iff] at happly
    obtain ⟨⟨place, entry⟩, hfind, happly⟩ := happly
    obtain ⟨directory, hreach, rfl, hentry, -⟩ := exists_of_find_join (hnames name hname) hfind
    cases entry with
    | directory => cases happly
    | file old =>
      rw [← Except.ok.inj happly]
      exact .erase (.of_reach hsame hreach hname) (by simp [hentry])

theorem Change.HandlesFile.altersFiles_perform (hnames : ∀ name, named name → IsName name)
    {step : Change} (hstep : step.HandlesFile base named) :
    FileSystem.AltersFiles (workspace.Inside base named) workspace.files
      (workspace.perform step).2.files := by
  cases happly : workspace.apply step with
  | error refusal =>
    rw [perform_of_error happly]
    exact .refl _
  | ok files =>
    rw [perform_of_ok happly]
    exact hstep.altersFiles_of_apply hnames happly

/-- Also in the middle of a write nothing else is altered. -/
theorem Change.HandlesFile.altersFiles (hnames : ∀ name, named name → IsName name)
    {step : Change} (hstep : step.HandlesFile base named) :
    ∀ state ∈ workspace.during step ++ [(workspace.perform step).2],
      state.current = workspace.current ∧
        FileSystem.AltersFiles (workspace.Inside base named) workspace.files state.files := by
  have hend : ∀ state ∈ [(workspace.perform step).2], state.current = workspace.current ∧
      FileSystem.AltersFiles (workspace.Inside base named) workspace.files state.files := by
    intro state hstate
    rw [List.mem_singleton.1 hstate]
    exact ⟨perform_current _ _, hstep.altersFiles_perform hnames⟩
  cases hstep with
  | createFile hsame hname => exact hend
  | moveFile houter hinner hsource hname => exact hend
  | removeFile hsame hname => exact hend
  | writeFile hsame hname content =>
    intro state hstate
    rcases List.mem_append.1 hstate with hstate | hstate
    · obtain ⟨size, -, rfl⟩ := List.mem_map.1 hstate
      have hpart := HandlesFile.writeFile hsame hname (content.extract 0 size)
      exact ⟨perform_current _ _, hpart.altersFiles_perform hnames⟩
    · exact hend state hstate

/-! ## Changes to directories -/

/-- The paths outside a path, itself included, up to its spelling. -/
def OutwardOf (base path : Path) : Prop :=
  path.route = [] ∨ path.route <+: base.route ∧ path.isAbsolute = base.isAbsolute

/-- A place that a path passes. -/
def Passes (workspace : Workspace) (path : Path) (place : Place) : Prop :=
  ∃ steps, steps <+: path.route ∧
    walk workspace.files (workspace.start path) steps = .ok place

/-- A name that was looked up and is not there cannot have been walked through. -/
theorem reach_ne_ok_of_target {path : Path} {directory : Place} {name : String}
    {asDirectory : Bool}
    (htarget : workspace.target path = .ok (.name directory name asDirectory))
    (hmissing : workspace.files.get? (name :: directory) = none) (reached : Place) :
    workspace.reach path ≠ .ok reached := by
  obtain ⟨route, part, -, hroute, hstep, houter, hwalk, hdirectory, hsize, rfl⟩ :=
    target_eq_name htarget
  intro hreach
  have hname := nameIn_eq_ok_iff.2 ⟨hdirectory, hsize, rfl⟩
  rw [reach, hroute, walk_append, hwalk] at hreach
  simp only [Except.bind, walk_cons_name hstep houter, hname, directoryAt, hmissing] at hreach
  cases hreach

/-- A directory that is made outward of a path. -/
theorem exists_made {path : Path} (houtward : OutwardOf base path) {files : FileSystem}
    (happly : workspace.apply (.makeDirectory path) = .ok files) :
    ∃ place, workspace.files.get? place = none ∧
      (∀ other, files.get? other =
        if place = other then some .directory else workspace.files.get? other) ∧
      (∀ reached, workspace.reach base ≠ .ok reached) ∧
      Passes { workspace with files } base place := by
  obtain ⟨directory, name, asDirectory, htarget, hmissing, hadmits, rfl⟩ :=
    apply_makeDirectory_eq_ok happly
  obtain ⟨hbegins, habsolute⟩ : path.route <+: base.route ∧ path.isAbsolute = base.isAbsolute := by
    refine houtward.resolve_left fun hnil => ?_
    obtain ⟨route, part, -, hroute, -⟩ := target_eq_name htarget
    simp [hroute] at hnil
  have hstart : workspace.start path = workspace.start base := by rw [start, start, habsolute]
  refine ⟨name :: directory, hmissing, fun other => FileSystem.get?_put hadmits, ?_, path.route,
    hbegins, ?_⟩
  · intro reached hreach
    obtain ⟨rest, hrest⟩ := hbegins
    rw [reach, ← hrest, walk_append, ← hstart] at hreach
    obtain ⟨middle, hmiddle, -⟩ := bind_eq_ok_iff.1 hreach
    exact reach_ne_ok_of_target htarget hmissing middle hmiddle
  · have hmade := reach_of_made htarget
      (fun other hother => by rw [FileSystem.get?_put hadmits]; split <;> simp [*])
      (by rw [FileSystem.get?_put hadmits, if_pos rfl])
    rwa [reach, start, habsolute] at hmade

/-- The changes to files under some names in a directory, and those that make it. -/
def Change.KeepsTo (base : Path) (named : String → Prop) (step : Change) : Prop :=
  (∃ path, OutwardOf base path ∧ step = .makeDirectory path) ∨ step.HandlesFile base named

end Workspace

/-! ## Replacements -/

namespace Files

open Workspace

variable {base : Path} {named : String → Prop} {name : String}

theorem makes_prepare (base : Path) :
    (prepare base).run.Makes
      fun step => ∃ path, OutwardOf base path ∧ step = .makeDirectory path := by
  obtain ⟨hroute, habsolute⟩ := holder_spec base
  have hmake : (makeDirectories base.holder).Makes
      fun step => ∃ path, OutwardOf base path ∧ step = .makeDirectory path := by
    refine (makes_makeWithOuter _ _).mono ?_
    rintro step ⟨path, hpath, rfl⟩
    have houtward := (outward_outerPaths base.holder).mem hpath
    rw [hroute, habsolute] at houtward
    exact ⟨path, houtward, rfl⟩
  unfold prepare
  split
  next => exact trivial
  next =>
    refine Attempt.makes_then (Attempt.makes_always (Program.makes_question _)) fun present => ?_
    cases present with
    | true =>
      refine Attempt.makes_then (Attempt.makes_always (Program.makes_question _))
        fun directory => ?_
      cases directory <;> exact trivial
    | false => exact Attempt.makes_during _ hmake

theorem makes_writeAndMove (hname : named name) (htemporary : named (temporaryName name))
    (content : ByteArray) :
    (writeAndMove (base.join ⟨name⟩) (base.holder.join ⟨temporaryName name⟩) content).run.Makes
      (Change.HandlesFile base named) := by
  have hholder := sameSteps_holder base
  refine Attempt.makes_then (Attempt.makes_during _ (Program.makes_perform ?_)) fun _ =>
    Attempt.makes_then (Attempt.makes_during _ (Program.makes_perform ?_)) fun _ =>
      Attempt.makes_during _ (Program.makes_perform ?_)
  · exact .createFile hholder htemporary
  · exact .writeFile hholder htemporary content
  · exact .moveFile hholder (.refl base) htemporary hname

theorem makes_clearTemporary (htemporary : named (temporaryName name)) :
    (clearTemporary (base.holder.join ⟨temporaryName name⟩)).Makes
      (Change.HandlesFile base named) := by
  refine (Program.makes_question _).bind fun present => ?_
  cases present with
  | true =>
    exact (Program.makes_perform (.removeFile (sameSteps_holder base) htemporary)).bind
      fun _ => trivial
  | false => exact trivial

/-- A replacement makes directories along the path of its directory, and handles its name and its
temporary name there. -/
theorem makes_replaceContent (hisName : IsName name) (hname : named name)
    (htemporary : named (temporaryName name)) (content : ByteArray) :
    (replaceContent (base.join ⟨name⟩) content).run.Makes (Change.KeepsTo base named) := by
  unfold replaceContent
  rw [requireParent_join hisName, temporaryPath_join hisName]
  refine Attempt.makes_then ((makes_prepare base).mono fun _ => .inl) fun _ =>
    Attempt.makes_then (Attempt.makes_always ((makes_writeAndMove hname htemporary content).mono
      fun _ => .inr)) fun answer => ?_
  cases answer with
  | ok => exact trivial
  | error failure =>
    exact Attempt.makes_then (Attempt.makes_always ((makes_clearTemporary htemporary).mono
      fun _ => .inr)) fun _ => trivial

end Files

end RecipeMatrix
