import RecipeMatrix.Proofs.Files.Resolution
import RecipeMatrix.Proofs.Files.Runs

/-!
# Making directories

What `Files.makeDirectories` and `Files.requireDirectory` leave behind.

There are three groups.

* What is added.  `AddsDirectories region first second`: the second file system has all entries of
  the first one, and more directories in a region.  Making directories along a path without `..`
  adds directories on the way to its place only (`makeDirectories_adds_onTheWay`).
* Success.  After a success the path is a directory (`isDirectory_of_run_makeWithOuter`), and
  once it is one, nothing more is done (`run_makeWithOuter_of_isDirectory`).
* Refusal.  A refusal is final: the same directories are refused again for the same reason
  (`run_makeWithOuter_again`), although the first try may have made some of them.  The reason is
  that `Stuck` holds of what it leaves, the invariant of the recursion outwards.
-/

namespace RecipeMatrix

open RecipeMatrix.Path

/-! ## What is added -/

/-- The same entries, and more directories in a region. -/
def FileSystem.AddsDirectories (region : Place → Prop) (first second : FileSystem) : Prop :=
  ∀ place, second.get? place = first.get? place ∨
    region place ∧ first.get? place = none ∧ second.get? place = some .directory

namespace FileSystem.AddsDirectories

variable {region : Place → Prop} {first second third : FileSystem}

theorem refl (files : FileSystem) : AddsDirectories region files files := fun _ => .inl rfl

theorem trans (hfirst : AddsDirectories region first second)
    (hsecond : AddsDirectories region second third) : AddsDirectories region first third := by
  intro place
  rcases hsecond place with hsame | ⟨hregion, hnone, hdirectory⟩
  · rw [hsame]
    exact hfirst place
  · rcases hfirst place with hsame | ⟨_, _, hmade⟩
    · exact .inr ⟨hregion, hsame ▸ hnone, hdirectory⟩
    · rw [hmade] at hnone
      cases hnone

theorem get?_of_ne_none (hadds : AddsDirectories region first second) {place : Place}
    (hentry : first.get? place ≠ none) : second.get? place = first.get? place := by
  rcases hadds place with hsame | ⟨_, hnone, _⟩
  · exact hsame
  · exact absurd hnone hentry

theorem get?_of_not_region (hadds : AddsDirectories region first second) {place : Place}
    (hplace : ¬region place) : second.get? place = first.get? place := by
  rcases hadds place with hsame | ⟨hregion, _, _⟩
  · exact hsame
  · exact absurd hregion hplace

theorem directory (hadds : AddsDirectories region first second) {place : Place}
    (hentry : first.get? place = some .directory) : second.get? place = some .directory := by
  rw [hadds.get?_of_ne_none (by simp [hentry]), hentry]

theorem file_iff (hadds : AddsDirectories region first second) {place : Place}
    {content : ByteArray} :
    second.get? place = some (.file content) ↔ first.get? place = some (.file content) := by
  rcases hadds place with hsame | ⟨_, hnone, hdirectory⟩
  · rw [hsame]
  · simp [hnone, hdirectory]

end FileSystem.AddsDirectories

namespace Workspace

/-- The places on the way to the place of a path. -/
def onTheWay (workspace : Workspace) (path : Path) (place : Place) : Prop :=
  place <:+ workspace.place path

/-- Directories on the way to a place change nothing about the names in it. -/
theorem get?_of_adds_onTheWay {workspace : Workspace} {path : Path} {files : FileSystem}
    (hadds : FileSystem.AddsDirectories (workspace.onTheWay path) workspace.files files)
    (name : String) : files.get? (name :: workspace.place path) =
      workspace.files.get? (name :: workspace.place path) := by
  refine hadds.get?_of_not_region fun hway => ?_
  have hlength := List.IsSuffix.length_le hway
  rw [List.length_cons] at hlength
  omega

theorem target_eq_name {workspace : Workspace} {path : Path} {directory : Place} {name : String}
    {asDirectory : Bool}
    (htarget : workspace.target path = .ok (.name directory name asDirectory)) :
    ∃ (route : List (List Char)) (part : List Char),
      path.refusal? = none ∧ path.route = route ++ [part] ∧ leadsNowhere part = false ∧
        part ≠ ['.', '.'] ∧ walk workspace.files (workspace.start path) route = .ok directory ∧
        workspace.files.get? directory = some .directory ∧ byteSize part ≤ maxNameSize ∧
        name = String.ofList part := by
  cases hrefusal : path.refusal? with
  | some refusal => simp [target_of_refusal hrefusal] at htarget
  | none =>
    rcases target_shape hrefusal with hshape | ⟨route, part, asDirectory, hroute, hstep, houter,
      hshape⟩
    · rw [hshape] at htarget
      cases hreach : workspace.reach path <;> simp [hreach, Except.map] at htarget
    · rw [hshape] at htarget
      cases hwalk : walk workspace.files (workspace.start path) route with
      | error refusal => simp [hwalk, Except.bind] at htarget
      | ok reached =>
        cases hname : nameIn workspace.files reached part with
        | error refusal => simp [hwalk, hname, Except.bind] at htarget
        | ok found =>
          simp only [hwalk, hname, Except.bind, Except.ok.injEq, Target.name.injEq] at htarget
          obtain ⟨hdirectory, hsize, hfound⟩ := nameIn_eq_ok_iff.1 hname
          exact ⟨route, part, rfl, hroute, hstep, houter, by rw [hwalk, htarget.1],
            htarget.1 ▸ hdirectory, hsize, htarget.2.1 ▸ hfound⟩

/-- What it takes to make a directory. -/
theorem apply_makeDirectory_eq_ok {workspace : Workspace} {path : Path} {files : FileSystem}
    (happly : workspace.apply (.makeDirectory path) = .ok files) :
    ∃ directory name asDirectory,
      workspace.target path = .ok (.name directory name asDirectory) ∧
        workspace.files.get? (name :: directory) = none ∧
        workspace.files.Admits name directory .directory ∧
        files = workspace.files.put name directory .directory := by
  simp only [apply, Bind.bind] at happly
  cases htarget : workspace.target path with
  | error refusal => simp [htarget, Except.bind] at happly
  | ok target =>
    cases target with
    | directory place => simp [htarget, Except.bind] at happly
    | name directory name asDirectory =>
      cases hentry : workspace.files.get? (name :: directory) with
      | some entry => simp [htarget, hentry, Except.bind] at happly
      | none =>
        simp only [htarget, hentry, Except.bind, Except.ok.injEq] at happly
        obtain ⟨-, -, -, -, -, -, -, hdirectory, -, -⟩ := target_eq_name htarget
        exact ⟨directory, name, asDirectory, rfl, hentry, ⟨hdirectory, fun _ => rfl⟩,
          happly.symm⟩

theorem reach_of_directories {first second : Workspace} {path : Path} {reached : Place}
    (hcurrent : second.current = first.current)
    (hkept : ∀ place, first.files.get? place = some .directory →
      second.files.get? place = some .directory)
    (hreach : first.reach path = .ok reached) : second.reach path = .ok reached := by
  have hwalk := walk_of_directories hkept hreach
  rwa [reach, start, hcurrent]

theorem isDirectory_of_directories {first second : Workspace} {path : Path}
    (hcurrent : second.current = first.current)
    (hkept : ∀ place, first.files.get? place = some .directory →
      second.files.get? place = some .directory)
    (hdirectory : first.isDirectory path = true) : second.isDirectory path = true := by
  obtain ⟨hrefusal, place, hreach⟩ := isDirectory_iff.1 hdirectory
  exact isDirectory_iff.2 ⟨hrefusal, place, reach_of_directories hcurrent hkept hreach⟩

/-- A name that was looked up is the directory that the path leads to, once it is one. -/
theorem reach_of_made {workspace : Workspace} {path : Path} {directory : Place} {name : String}
    {asDirectory : Bool} {files : FileSystem}
    (htarget : workspace.target path = .ok (.name directory name asDirectory))
    (hkept : ∀ place, workspace.files.get? place = some .directory →
      files.get? place = some .directory)
    (hmade : files.get? (name :: directory) = some .directory) :
    reach { workspace with files } path = .ok (name :: directory) := by
  obtain ⟨route, part, -, hroute, hstep, houter, hwalk, hdirectory, hsize, rfl⟩ :=
    target_eq_name htarget
  have hwalk' := walk_of_directories hkept hwalk
  have hname := nameIn_eq_ok_iff.2 ⟨hkept _ hdirectory, hsize, rfl⟩
  have hinner := directoryAt_eq_ok_iff.2 ⟨hmade, rfl⟩
  change walk _ (workspace.start path) _ = _
  rw [hroute, walk_append, hwalk']
  simp only [Except.bind, walk_cons_name hstep houter, hname, hinner]
  rfl

/-- A directory that was made is there, and nothing else has changed. -/
theorem addsDirectories_makeDirectory {workspace : Workspace} {path : Path} {files : FileSystem}
    (region : Place → Prop)
    (hregion : ∀ directory name asDirectory,
      workspace.target path = .ok (.name directory name asDirectory) → region (name :: directory))
    (happly : workspace.apply (.makeDirectory path) = .ok files) :
    FileSystem.AddsDirectories region workspace.files files ∧
      isDirectory { workspace with files } path = true := by
  obtain ⟨directory, name, asDirectory, htarget, hnone, hadmits, rfl⟩ :=
    apply_makeDirectory_eq_ok happly
  have hadds : FileSystem.AddsDirectories region workspace.files
      (workspace.files.put name directory .directory) := by
    intro place
    rw [FileSystem.get?_put hadmits]
    split
    next hsame => exact .inr ⟨hsame ▸ hregion _ _ _ htarget, hsame ▸ hnone, rfl⟩
    next => exact .inl rfl
  refine ⟨hadds, ?_⟩
  obtain ⟨-, -, hrefusal, -⟩ := target_eq_name htarget
  have hmade : (workspace.files.put name directory .directory).get? (name :: directory) =
      some .directory := by
    rw [FileSystem.get?_put hadmits, if_pos rfl]
  exact isDirectory_iff.2 ⟨hrefusal, name :: directory,
    reach_of_made htarget (fun _ => hadds.directory) hmade⟩

/-- The place of a directory that is made along a path without `..` is on the way to its
place. -/
theorem onTheWay_of_target {workspace : Workspace} {path inner : Path} {directory : Place}
    {name : String} {asDirectory : Bool} (hplain : inner.IsPlain)
    (hbegins : path.route <+: inner.route) (habsolute : path.isAbsolute = inner.isAbsolute)
    (htarget : workspace.target path = .ok (.name directory name asDirectory)) :
    workspace.onTheWay inner (name :: directory) := by
  obtain ⟨route, part, -, hroute, -, -, hwalk, -, -, rfl⟩ := target_eq_name htarget
  obtain ⟨rest, hrest⟩ := hbegins
  have hnames : AreNames route := by
    intro other hother
    refine areNames_route hplain other ?_
    rw [← hrest, hroute, List.append_assoc]
    exact List.mem_append_left _ hother
  obtain ⟨rfl, -, -⟩ := (walk_eq_ok_iff hnames).1 hwalk
  refine ⟨(rest.map String.ofList).reverse, ?_⟩
  rw [place, ← hrest, hroute, start, start, habsolute]
  simp [Place.below]

end Workspace

/-- Programs that make directories only, in a region, add directories in that region only. -/
theorem Program.Makes.addsDirectories {α : Type} {program : Program α} {allowed : Path → Prop}
    {workspace : Workspace} (region : Place → Prop)
    (hprogram : program.Makes fun step => ∃ path, allowed path ∧ step = .makeDirectory path)
    (hregion : ∀ path, allowed path → ∀ state : Workspace, state.current = workspace.current →
      ∀ directory name asDirectory,
        state.target path = .ok (.name directory name asDirectory) → region (name :: directory)) :
    ∀ state ∈ program.states workspace, state.current = workspace.current ∧
      FileSystem.AddsDirectories region workspace.files state.files := by
  refine hprogram.invariant ?_ ⟨rfl, .refl _⟩
  rintro step ⟨path, hallowed, rfl⟩ state ⟨hcurrent, hadds⟩
  refine ⟨fun middle hmiddle => absurd hmiddle List.not_mem_nil, ?_⟩
  cases happly : state.apply (.makeDirectory path) with
  | error refusal =>
    rw [Workspace.perform_of_error happly]
    exact ⟨hcurrent, hadds⟩
  | ok files =>
    rw [Workspace.perform_of_ok happly]
    exact ⟨hcurrent, hadds.trans (Workspace.addsDirectories_makeDirectory region
      (hregion path hallowed state hcurrent) happly).1⟩

namespace Files

open Workspace

theorem makes_unlessDirectory {allowed : Workspace.Change → Prop} (path : Path)
    (refusal : SystemError) : (unlessDirectory path refusal).Makes allowed := by
  refine (Program.makes_question _).bind fun answer => ?_
  cases answer <;> exact trivial

theorem makes_makeWithOuter (path : Path) (outer : List Path) :
    (makeWithOuter path outer).Makes
      fun step => ∃ other, other ∈ path :: outer ∧ step = .makeDirectory other := by
  induction outer generalizing path with
  | nil =>
    unfold makeWithOuter
    split
    next => exact trivial
    next =>
      refine (Program.makes_perform ⟨path, List.mem_cons_self, rfl⟩).bind fun answer => ?_
      split
      next => exact trivial
      next => exact trivial
      next => exact makes_unlessDirectory _ _
  | cons nearest further ih =>
    unfold makeWithOuter
    split
    next => exact trivial
    next =>
      have hpath : (Program.perform (.makeDirectory path)).Makes
          fun step => ∃ other, other ∈ path :: nearest :: further ∧
            step = Workspace.Change.makeDirectory other :=
        Program.makes_perform ⟨path, List.mem_cons_self, rfl⟩
      refine hpath.bind fun answer => ?_
      split
      next => exact trivial
      next =>
        refine ((ih nearest).mono ?_).bind fun answer => ?_
        · rintro step ⟨other, hother, rfl⟩
          exact ⟨other, List.mem_cons_of_mem path hother, rfl⟩
        split
        next => exact trivial
        next =>
          refine hpath.bind fun answer => ?_
          split
          next => exact trivial
          next => exact makes_unlessDirectory _ _
      next => exact makes_unlessDirectory _ _

/-- Making directories adds directories, whatever the path is. -/
theorem makeWithOuter_adds (path : Path) (outer : List Path) (workspace : Workspace) :
    ∀ state ∈ (makeWithOuter path outer).states workspace, state.current = workspace.current ∧
      FileSystem.AddsDirectories (fun _ => True) workspace.files state.files :=
  (makes_makeWithOuter path outer).addsDirectories _ fun _ _ _ _ _ _ _ _ => trivial

/-- Along a path without `..`, the directories are on the way to its place. -/
theorem makeDirectories_adds_onTheWay {path : Path} (hplain : path.IsPlain)
    (workspace : Workspace) :
    ∀ state ∈ (makeDirectories path).states workspace, state.current = workspace.current ∧
      FileSystem.AddsDirectories (workspace.onTheWay path) workspace.files state.files := by
  refine (makes_makeWithOuter path path.outerPaths).addsDirectories _ ?_
  intro other hother state hcurrent directory name asDirectory htarget
  rcases (outward_outerPaths path).mem hother with hnil | ⟨hbegins, habsolute⟩
  · obtain ⟨route, part, -, hroute, -⟩ := Workspace.target_eq_name htarget
    rw [hnil] at hroute
    simp at hroute
  · have hplace := Workspace.onTheWay_of_target hplain hbegins habsolute htarget
    rwa [Workspace.onTheWay, Workspace.place, Workspace.start, hcurrent] at hplace

/-! ## Success -/

theorem run_unlessDirectory (path : Path) (refusal : SystemError) (workspace : Workspace) :
    (unlessDirectory path refusal).run workspace =
      (if workspace.isDirectory path then .ok () else .error refusal, workspace) := by
  rw [unlessDirectory, Program.run_if (Program.run_isDirectory path workspace)]
  cases workspace.isDirectory path <;> rfl

/-- The recursion outwards, as one step of it runs. -/
theorem run_makeWithOuter_cons {path nearest : Path} {further : List Path}
    (hempty : path.isEmpty = false) (workspace : Workspace) :
    (makeWithOuter path (nearest :: further)).run workspace =
      match workspace.apply (.makeDirectory path) with
      | .ok files => (.ok (), { workspace with files })
      | .error .notFound =>
          match (makeWithOuter nearest further).run workspace with
          | (.error refusal, reached) => (.error refusal, reached)
          | (.ok (), reached) =>
              match reached.apply (.makeDirectory path) with
              | .ok files => (.ok (), { reached with files })
              | .error refusal =>
                  (if reached.isDirectory path then .ok () else .error refusal, reached)
      | .error refusal =>
          (if workspace.isDirectory path then .ok () else .error refusal, workspace) := by
  rw [makeWithOuter, if_neg (by simp [hempty])]
  simp only [Program.run_bind, Program.run_perform]
  cases happly : workspace.apply (.makeDirectory path) with
  | ok files => rw [Workspace.perform_of_ok happly]; rfl
  | error refusal =>
    rw [Workspace.perform_of_error happly]
    cases refusal
    case notFound =>
      simp only [Program.run_bind]
      rcases (makeWithOuter nearest further).run workspace with ⟨_ | _, reached⟩
      · rfl
      · cases hagain : reached.apply (.makeDirectory path) with
        | ok files =>
          simp only [Program.run_bind, Program.run_perform, Workspace.perform_of_ok hagain, hagain]
          rfl
        | error refusal =>
          simp only [Program.run_bind, Program.run_perform, Workspace.perform_of_error hagain,
            hagain]
          exact run_unlessDirectory path refusal reached
    all_goals exact run_unlessDirectory path _ workspace

theorem run_makeWithOuter_nil {path : Path} (hempty : path.isEmpty = false)
    (workspace : Workspace) :
    (makeWithOuter path []).run workspace =
      match workspace.apply (.makeDirectory path) with
      | .ok files => (.ok (), { workspace with files })
      | .error .notFound => (.error .noStartingPoint, workspace)
      | .error refusal =>
          (if workspace.isDirectory path then .ok () else .error refusal, workspace) := by
  rw [makeWithOuter, if_neg (by simp [hempty])]
  simp only [Program.run_bind, Program.run_perform]
  cases happly : workspace.apply (.makeDirectory path) with
  | ok files => rw [Workspace.perform_of_ok happly]; rfl
  | error refusal =>
    rw [Workspace.perform_of_error happly]
    cases refusal
    case notFound => rfl
    all_goals exact run_unlessDirectory path _ workspace

theorem run_makeWithOuter_of_isEmpty {path : Path} {outer : List Path}
    (hempty : path.isEmpty = true) (workspace : Workspace) :
    (makeWithOuter path outer).run workspace = (.ok (), workspace) := by
  unfold makeWithOuter
  rw [if_pos hempty]
  rfl

/-- Making a directory fails where one is. -/
theorem apply_makeDirectory_of_isDirectory {workspace : Workspace} {path : Path}
    (hdirectory : workspace.isDirectory path = true) :
    workspace.apply (.makeDirectory path) = .error .alreadyExists := by
  obtain ⟨hrefusal, place, hreach⟩ := isDirectory_iff.1 hdirectory
  have hfind := find_eq_directory_iff.2 ⟨hrefusal, hreach⟩
  rw [find_of_target] at hfind
  cases htarget : workspace.target path with
  | error refusal => simp [htarget, Except.bind] at hfind
  | ok target =>
    cases target with
    | directory reached => simp only [apply, htarget]; rfl
    | name directory name asDirectory =>
      cases hentry : workspace.files.get? (name :: directory) with
      | none => simp [htarget, hentry, Except.bind] at hfind
      | some entry => simp only [apply, htarget, Bind.bind, Except.bind, hentry]

/-- Nothing is done about a directory that is there. -/
theorem run_makeWithOuter_of_isDirectory {path : Path} {outer : List Path}
    {workspace : Workspace} (hdirectory : workspace.isDirectory path = true) :
    (makeWithOuter path outer).run workspace = (.ok (), workspace) := by
  by_cases hempty : path.isEmpty = true
  · exact run_makeWithOuter_of_isEmpty hempty workspace
  · have hexists := apply_makeDirectory_of_isDirectory hdirectory
    cases outer with
    | nil => rw [run_makeWithOuter_nil (by simpa using hempty), hexists]; simp [hdirectory]
    | cons nearest further =>
      rw [run_makeWithOuter_cons (by simpa using hempty), hexists]
      simp [hdirectory]

/-- A directory that was made is there. -/
theorem isDirectory_of_run_makeWithOuter {path : Path} {outer : List Path}
    {workspace reached : Workspace}
    (hrun : (makeWithOuter path outer).run workspace = (.ok (), reached)) :
    path.isEmpty = true ∨ reached.isDirectory path = true := by
  cases hempty : path.isEmpty with
  | true => exact .inl rfl
  | false =>
    refine .inr ?_
    have hmade {state : Workspace} {files : FileSystem}
        (happly : state.apply (.makeDirectory path) = .ok files)
        (h : ((.ok (), { state with files }) : Except SystemError Unit × Workspace) =
          (.ok (), reached)) : reached.isDirectory path = true := by
      obtain ⟨-, rfl⟩ := Prod.mk.inj h
      exact (Workspace.addsDirectories_makeDirectory (fun _ => True)
        (fun _ _ _ _ => trivial) happly).2
    have hforgiven {state : Workspace} {refusal : SystemError}
        (h : ((if state.isDirectory path then .ok () else .error refusal, state) :
          Except SystemError Unit × Workspace) = (.ok (), reached)) :
        reached.isDirectory path = true := by
      obtain ⟨hanswer, rfl⟩ := Prod.mk.inj h
      cases hdirectory : state.isDirectory path with
      | true => rfl
      | false => simp [hdirectory] at hanswer
    cases outer with
    | nil =>
      rw [run_makeWithOuter_nil hempty] at hrun
      split at hrun
      next files happly => exact hmade happly hrun
      next => simp at hrun
      next => exact hforgiven hrun
    | cons nearest further =>
      rw [run_makeWithOuter_cons hempty] at hrun
      split at hrun
      next files happly => exact hmade happly hrun
      next =>
        split at hrun
        next => simp at hrun
        next =>
          split at hrun
          next files happly => exact hmade happly hrun
          next => exact hforgiven hrun
      next => exact hforgiven hrun

end Files

/-! ## Refusal -/

namespace Workspace

/-- What is refused while its target is looked up cannot be reached. -/
theorem reach_of_target_error {workspace : Workspace} {path : Path} {refusal : SystemError}
    (hrefusal : path.refusal? = none) (htarget : workspace.target path = .error refusal) :
    workspace.reach path = .error refusal := by
  rcases target_shape hrefusal with hshape | ⟨route, part, asDirectory, hroute, hstep, houter,
    hshape⟩
  · rw [hshape] at htarget
    cases hreach : workspace.reach path with
    | error other => simpa [hreach, Except.map] using htarget
    | ok place => simp [hreach, Except.map] at htarget
  · rw [hshape] at htarget
    rw [reach, hroute, walk_append]
    cases hwalk : walk workspace.files (workspace.start path) route with
    | error other => simpa [hwalk, Except.bind] using htarget
    | ok directory =>
      cases hname : nameIn workspace.files directory part with
      | error other =>
        simp only [hwalk, hname, Except.bind, Except.error.injEq] at htarget
        simp only [Except.bind, walk_cons_name hstep houter, hname, htarget]
      | ok name => simp [hwalk, hname, Except.bind] at htarget

/-- Where the nearest outer directory cannot be reached, the target is not found either. -/
theorem target_of_reach_error {workspace : Workspace} {path nearest : Path} {part : List Char}
    {refusal : SystemError} (hrefusal : path.refusal? = none)
    (hroute : path.route = nearest.route ++ [part])
    (habsolute : path.isAbsolute = nearest.isAbsolute)
    (hreach : workspace.reach nearest = .error refusal) :
    workspace.target path = .error refusal := by
  have hnearest : walk workspace.files (workspace.start path) nearest.route = .error refusal := by
    rwa [start, habsolute]
  rcases target_shape hrefusal with hshape | ⟨route, last, asDirectory, hlast, hstep, houter,
    hshape⟩
  · rw [hshape, reach, hroute, walk_append, hnearest]
    rfl
  · rw [hroute] at hlast
    obtain ⟨rfl, -⟩ := List.append_inj' hlast rfl
    rw [hshape, hnearest]
    rfl

theorem isDirectory_of_target_error {workspace : Workspace} {path : Path} {refusal : SystemError}
    (htarget : workspace.target path = .error refusal) : workspace.isDirectory path = false := by
  simp [isDirectory, find_of_target, htarget, Except.bind]

theorem apply_makeDirectory_of_target_error {workspace : Workspace} {path : Path}
    {refusal : SystemError} (htarget : workspace.target path = .error refusal) :
    workspace.apply (.makeDirectory path) = .error refusal := by
  simp only [apply, htarget]
  rfl

/-- A directory that cannot be made, and is not there, is not looked up or a file is in its
place. -/
theorem refused_makeDirectory {workspace : Workspace} {path : Path} {refusal : SystemError}
    (happly : workspace.apply (.makeDirectory path) = .error refusal)
    (hdirectory : workspace.isDirectory path = false) :
    workspace.target path = .error refusal ∨
      ∃ directory name asDirectory content,
        workspace.target path = .ok (.name directory name asDirectory) ∧
          workspace.files.get? (name :: directory) = some (.file content) := by
  cases htarget : workspace.target path with
  | error other =>
    rw [apply_makeDirectory_of_target_error htarget] at happly
    exact .inl (congrArg Except.error (Except.error.inj happly))
  | ok target =>
    cases target with
    | directory place => simp [isDirectory, find_of_target, htarget, Except.bind] at hdirectory
    | name directory name asDirectory =>
      cases hentry : workspace.files.get? (name :: directory) with
      | none => simp [apply, htarget, Bind.bind, Except.bind, hentry] at happly
      | some entry =>
        cases entry with
        | directory =>
          simp [isDirectory, find_of_target, htarget, hentry, Except.bind] at hdirectory
        | file content => exact .inr ⟨directory, name, asDirectory, content, rfl, hentry⟩

/-- A file in the place of a directory was there before directories were made along the way. -/
theorem apply_makeDirectory_of_file {first second : Workspace} {path : Path}
    {region : Place → Prop} {directory : Place} {name : String} {asDirectory : Bool}
    {content : ByteArray} (hplain : path.IsPlain) (hcurrent : second.current = first.current)
    (hadds : FileSystem.AddsDirectories region first.files second.files)
    (htarget : second.target path = .ok (.name directory name asDirectory))
    (hentry : second.files.get? (name :: directory) = some (.file content)) :
    first.apply (.makeDirectory path) = .error .alreadyExists := by
  obtain ⟨route, part, hrefusal, hroute, hstep, houter, hwalk, -, hsize, rfl⟩ :=
    target_eq_name htarget
  have hfile := hadds.file_iff.1 hentry
  have hdirectory := first.files.get?_parent_of_eq hfile
  have hnames : AreNames route := by
    intro other hother
    exact areNames_route hplain other (hroute ▸ List.mem_append_left _ hother)
  have hstart : second.start path = first.start path := by simp [start, hcurrent]
  obtain ⟨hplace, hshort, -⟩ := (walk_eq_ok_iff hnames).1 hwalk
  have hbefore : walk first.files (first.start path) route = .ok directory :=
    (walk_eq_ok_iff hnames).2 ⟨hstart ▸ hplace, hshort, .inr hdirectory⟩
  rcases target_shape hrefusal with hshape | ⟨route', part', asDirectory', hroute', -, -, hshape⟩
  · rw [hshape] at htarget
    cases hreach : second.reach path <;> simp [hreach, Except.map] at htarget
  · rw [hroute] at hroute'
    obtain ⟨rfl, hpart⟩ := List.append_inj' hroute' rfl
    obtain rfl := (List.cons.inj hpart).1
    have hname := nameIn_eq_ok_iff.2 ⟨hdirectory, hsize, rfl⟩
    simp [apply, hshape, hbefore, hname, hfile, Bind.bind, Except.bind]

/-- A path that is refused as it is written is not called missing, unless it is empty. -/
theorem refusal?_eq_none_of_notFound {workspace : Workspace} {path : Path}
    (hempty : path.isEmpty = false)
    (hmissing : workspace.apply (.makeDirectory path) = .error .notFound) :
    path.refusal? = none := by
  cases hwritten : path.refusal? with
  | none => rfl
  | some other =>
    rw [apply_makeDirectory_of_target_error (target_of_refusal hwritten)] at hmissing
    unfold Path.refusal? at hwritten
    rw [if_neg (by simp [hempty])] at hwritten
    split at hwritten
    next => simp_all
    next => split at hwritten <;> simp_all

end Workspace

namespace Files

open Workspace

/-- Nothing is made along a path without steps. -/
theorem run_makeWithOuter_of_route_nil {path : Path} {outer : List Path}
    (hroute : ∀ other ∈ path :: outer, other.route = []) (workspace : Workspace) :
    ((makeWithOuter path outer).run workspace).2 = workspace := by
  have hnone : ∀ other, other ∈ path :: outer → ∀ state : Workspace,
      state.current = workspace.current → ∀ directory name asDirectory,
        state.target other = .ok (.name directory name asDirectory) → False := by
    intro other hother state _ directory name asDirectory htarget
    obtain ⟨route, part, -, hsteps, -⟩ := target_eq_name htarget
    rw [hroute other hother] at hsteps
    simp at hsteps
  obtain ⟨hcurrent, hadds⟩ := (makes_makeWithOuter path outer).addsDirectories
    (fun _ => False) hnone _ (Program.run_mem_states _ workspace)
  exact Workspace.ext_get? hcurrent fun place => hadds.get?_of_not_region id

/-- After a refusal either nothing has changed, or the path cannot be looked up for the reason
that was given. -/
def Stuck (path : Path) (refusal : SystemError) (before after : Workspace) : Prop :=
  after = before ∨ path.refusal? = none ∧ after.target path = .error refusal

/-- A path that is not looked up is refused as soon as nothing more happens to the directories
outside it. -/
theorem run_makeWithOuter_of_target_error {path nearest : Path} {further : List Path}
    {workspace : Workspace} {refusal : SystemError} (hempty : path.isEmpty = false)
    (htarget : workspace.target path = .error refusal)
    (hnearest : (makeWithOuter nearest further).run workspace = (.error refusal, workspace) ∨
      (makeWithOuter nearest further).run workspace = (.ok (), workspace)) :
    (makeWithOuter path (nearest :: further)).run workspace = (.error refusal, workspace) := by
  have happly := apply_makeDirectory_of_target_error htarget
  have hdirectory := isDirectory_of_target_error htarget
  rw [run_makeWithOuter_cons hempty, happly]
  cases refusal
  case notFound =>
    rcases hnearest with hnearest | hnearest
    · simp [hnearest]
    · simp [hnearest, happly, hdirectory]
  all_goals simp [hdirectory]

/-- A path that is still refused with all directories outside it is not looked up. -/
theorem run_makeWithOuter_of_refused {path nearest : Path} {further : List Path}
    {workspace middle : Workspace} {refusal : SystemError} (hplain : path.IsPlain)
    (hempty : path.isEmpty = false)
    (hmissing : workspace.apply (.makeDirectory path) = .error .notFound)
    (hmiddle : (makeWithOuter nearest further).run workspace = (.ok (), middle))
    (happly : middle.apply (.makeDirectory path) = .error refusal)
    (hdirectory : middle.isDirectory path = false) :
    middle.target path = .error refusal ∧
      (makeWithOuter path (nearest :: further)).run middle = (.error refusal, middle) := by
  rcases refused_makeDirectory happly hdirectory with htarget |
    ⟨directory, name, asDirectory, content, htarget, hentry⟩
  · refine ⟨htarget, run_makeWithOuter_of_target_error hempty htarget (.inr ?_)⟩
    rcases isDirectory_of_run_makeWithOuter hmiddle with houter | houter
    · exact run_makeWithOuter_of_isEmpty houter middle
    · exact run_makeWithOuter_of_isDirectory houter
  · -- A file in its place would have been there from the start.
    obtain ⟨hcurrent, hadds⟩ := makeWithOuter_adds nearest further workspace _
      (Program.run_mem_states _ workspace)
    rw [hmiddle] at hcurrent hadds
    rw [apply_makeDirectory_of_file hplain hcurrent hadds htarget hentry] at hmissing
    cases hmissing

/-- A refusal is final, although directories on the way may have been made before it. -/
theorem run_makeWithOuter_again {path : Path} {outer : List Path} (hout : Outward path outer)
    (hplain : path.IsPlain) {workspace reached : Workspace} {refusal : SystemError}
    (hrun : (makeWithOuter path outer).run workspace = (.error refusal, reached)) :
    Stuck path refusal workspace reached ∧
      (makeWithOuter path outer).run reached = (.error refusal, reached) := by
  -- A run that changed nothing repeats itself.
  have hsame {path : Path} {outer : List Path} {workspace reached : Workspace}
      (hrun : (makeWithOuter path outer).run workspace = (.error refusal, reached))
      (heq : reached = workspace) : Stuck path refusal workspace reached ∧
        (makeWithOuter path outer).run reached = (.error refusal, reached) :=
    ⟨.inl heq, by rw [heq] at hrun ⊢; exact hrun⟩
  induction hout generalizing workspace reached with
  | @root path outer hroute houter =>
    have hkept := run_makeWithOuter_of_route_nil (List.forall_mem_cons.2 ⟨hroute, houter⟩)
      workspace
    rw [hrun] at hkept
    exact hsame hrun hkept
  | @step path nearest further part hroute habsolute hnearest ih =>
    have hnearestPlain : nearest.IsPlain := by
      rw [isPlain_iff] at hplain ⊢
      rw [hroute] at hplain
      exact fun h => hplain (List.mem_append_left _ h)
    cases hempty : path.isEmpty with
    | true =>
      rw [run_makeWithOuter_of_isEmpty hempty] at hrun
      cases (Prod.mk.inj hrun).1
    | false =>
      have hsteps := hrun
      rw [run_makeWithOuter_cons hempty] at hsteps
      split at hsteps
      next files happly => cases (Prod.mk.inj hsteps).1
      next hmissing =>
        have hrefusal := refusal?_eq_none_of_notFound hempty hmissing
        split at hsteps
        next outerRefusal middle hmiddle =>
          -- The directory outside was refused.
          obtain ⟨hrefused, rfl⟩ := Prod.mk.inj hsteps
          obtain rfl := Except.error.inj hrefused
          obtain ⟨hstuck, hagain⟩ := ih hnearestPlain hmiddle
          rcases hstuck with heq | ⟨houterRefusal, houterTarget⟩
          · exact hsame hrun heq
          · have htarget := target_of_reach_error hrefusal hroute habsolute
              (reach_of_target_error houterRefusal houterTarget)
            exact ⟨.inr ⟨hrefusal, htarget⟩,
              run_makeWithOuter_of_target_error hempty htarget (.inl hagain)⟩
        next middle hmiddle =>
          -- The directory outside is there, but the path itself was refused again.
          split at hsteps
          next files happly => cases (Prod.mk.inj hsteps).1
          next second happly =>
            obtain ⟨hrefused, rfl⟩ := Prod.mk.inj hsteps
            cases hdirectory : middle.isDirectory path with
            | true => simp [hdirectory] at hrefused
            | false =>
              simp only [hdirectory, Bool.false_eq_true, if_false, Except.error.injEq]
                at hrefused
              subst hrefused
              obtain ⟨htarget, hagain⟩ := run_makeWithOuter_of_refused hplain hempty hmissing
                hmiddle happly hdirectory
              exact ⟨.inr ⟨hrefusal, htarget⟩, hagain⟩
      next other hother hmissing =>
        exact hsame hrun (Prod.mk.inj hsteps).2.symm

/-- After a refusal either nothing has changed, or the path cannot be reached. -/
def Barred (path : Path) (before after : Workspace) : Prop :=
  after = before ∨ path.refusal? = none ∧ ∃ refusal, after.reach path = .error refusal

/-- With `..` in the path too, a refusal is final.  Its reason may change, since a directory that
was made on the way can bring a file behind it to light. -/
theorem run_makeWithOuter_barred {path : Path} {outer : List Path} (hout : Outward path outer)
    {workspace reached : Workspace} {refusal : SystemError}
    (hrun : (makeWithOuter path outer).run workspace = (.error refusal, reached)) :
    Barred path workspace reached ∧
      ∃ second, (makeWithOuter path outer).run reached = (.error second, reached) := by
  -- A run that changed nothing repeats itself.
  have hsame {path : Path} {outer : List Path} {workspace reached : Workspace}
      {refusal : SystemError}
      (hrun : (makeWithOuter path outer).run workspace = (.error refusal, reached))
      (heq : reached = workspace) : Barred path workspace reached ∧
        ∃ second, (makeWithOuter path outer).run reached = (.error second, reached) :=
    ⟨.inl heq, refusal, by rw [heq] at hrun ⊢; exact hrun⟩
  induction hout generalizing workspace reached refusal with
  | @root path outer hroute houter =>
    have hkept := run_makeWithOuter_of_route_nil (List.forall_mem_cons.2 ⟨hroute, houter⟩)
      workspace
    rw [hrun] at hkept
    exact hsame hrun hkept
  | @step path nearest further part hroute habsolute hnearest ih =>
    cases hempty : path.isEmpty with
    | true =>
      rw [run_makeWithOuter_of_isEmpty hempty] at hrun
      cases (Prod.mk.inj hrun).1
    | false =>
      have hsteps := hrun
      rw [run_makeWithOuter_cons hempty] at hsteps
      split at hsteps
      next files happly => cases (Prod.mk.inj hsteps).1
      next hmissing =>
        have hrefusal := refusal?_eq_none_of_notFound hempty hmissing
        split at hsteps
        next outerRefusal middle hmiddle =>
          -- The directory outside was refused.
          obtain ⟨hrefused, rfl⟩ := Prod.mk.inj hsteps
          obtain ⟨hbarred, second, hagain⟩ := ih hmiddle
          rcases hbarred with heq | ⟨-, found, hreach⟩
          · exact hsame hrun heq
          · have htarget := target_of_reach_error hrefusal hroute habsolute hreach
            refine ⟨.inr ⟨hrefusal, found, reach_of_target_error hrefusal htarget⟩, ?_⟩
            rw [run_makeWithOuter_cons hempty, apply_makeDirectory_of_target_error htarget, hagain]
            have hdirectory := isDirectory_of_target_error htarget
            cases found
            case notFound => exact ⟨second, rfl⟩
            all_goals exact ⟨_, by simp only [hdirectory]; rfl⟩
        next middle hmiddle =>
          -- The directory outside is there, but the path itself was refused again.
          split at hsteps
          next files happly => cases (Prod.mk.inj hsteps).1
          next second happly =>
            obtain ⟨hrefused, rfl⟩ := Prod.mk.inj hsteps
            have hdirectory : middle.isDirectory path = false := by
              cases hdirectory : middle.isDirectory path with
              | true => simp [hdirectory] at hrefused
              | false => rfl
            have hreach : ∃ found, middle.reach path = .error found := by
              cases hreach : middle.reach path with
              | error found => exact ⟨found, rfl⟩
              | ok place =>
                rw [isDirectory_iff.2 ⟨hrefusal, place, hreach⟩] at hdirectory
                cases hdirectory
            have houter : (makeWithOuter nearest further).run middle = (.ok (), middle) := by
              rcases isDirectory_of_run_makeWithOuter hmiddle with houter | houter
              · exact run_makeWithOuter_of_isEmpty houter middle
              · exact run_makeWithOuter_of_isDirectory houter
            refine ⟨.inr ⟨hrefusal, hreach⟩, second, ?_⟩
            rw [run_makeWithOuter_cons hempty, happly, houter]
            cases second
            case notFound => simp [happly, hdirectory]
            all_goals simp [hdirectory]
      next other hother hmissing =>
        exact hsame hrun (Prod.mk.inj hsteps).2.symm

end Files

end RecipeMatrix
