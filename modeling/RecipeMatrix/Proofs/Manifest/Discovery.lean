import RecipeMatrix.Proofs.Command.Location
import RecipeMatrix.Proofs.Path.Ancestors

/-!
# Finding a manifest

Which manifest a command works with, for every file system and every current directory.

There are five groups.

* The way up.  The ancestors of an absolute path are the directories around the one it leads to,
  each once (`map_place_ancestors`), and the current directory has such a path (`route_path`).
* Directories.  By its path a directory is asked for what it has under the name of a manifest, and
  tells so unless the path is too long (`holds_iff_of_isSound`).
* The search.  The first path is taken at which something stands (`run_firstPresent`).  From any
  path this is the loop that goes from parent to parent (`outcome_nearest_loop`).
* The file.  What was found is loaded or is an error; nothing else is tried (`decides`).
* The assembly.  `Discovers` says what becomes of a search, and `discovers` that every search does.
  Where there is no current directory any more, there is no search (`not_builtin_removed`).
-/

namespace RecipeMatrix

open Workspace Program RecipeMatrix.Path

/-! ## The way up -/

/-- The ancestors of an absolute path stand for the directories around its place, from the inside
out. -/
theorem Workspace.map_place_ancestors (workspace : Workspace) {path : Path}
    (habsolute : path.isAbsolute = true) :
    path.ancestors.map workspace.place = (workspace.place path).tails := by
  by_cases hroute : path.route = []
  · have hplace : workspace.place path = [] := by simp [place, start, habsolute, hroute]
    rw [ancestors, outerPaths_root hroute habsolute, List.map_singleton, hplace]
    rfl
  · obtain ⟨parent, part, hparent, hlast, hsame⟩ := exists_parent?_eq hroute
    have hlength : parent.route.length < path.route.length := by simp [hlast]
    have hup := workspace.map_place_ancestors (hsame.symm.trans habsolute)
    have hplace : workspace.place path = String.ofList part :: workspace.place parent := by
      simp [place, start, hlast, hsame, Place.below]
    rw [ancestors_eq, hparent, Option.map_some, Option.getD_some, List.map_cons, hup, hplace]
    rfl
termination_by path.route.length

/-- Parts that are written with slashes between them are what the text is cut into. -/
theorem splitAtSlashes_intercalate {parts : List (List Char)} (hparts : parts ≠ [])
    (hslash : ∀ part ∈ parts, '/' ∉ part) :
    splitAtSlashes (['/'].intercalate parts) = parts := by
  induction parts with
  | nil => exact absurd rfl hparts
  | cons part parts ih =>
    have hpart := hslash part List.mem_cons_self
    cases parts with
    | nil => rw [List.intercalate_singleton, splitAtSlashes_of_not_mem hpart]
    | cons next parts =>
      have hrest := ih (List.cons_ne_nil next parts) fun other hother =>
        hslash other (List.mem_cons_of_mem part hother)
      rw [List.intercalate_cons_cons, List.append_assoc, List.singleton_append,
        splitAtSlashes_append_slash, splitAtSlashes_of_not_mem hpart, hrest]
      rfl

namespace Place

theorem chars_path (place : Place) :
    (Place.path place).chars = '/' :: ['/'].intercalate (place.reverse.map String.toList) := by
  rw [Path.chars, Place.path, String.toList_append, String.toList_intercalate]
  rfl

theorem isAbsolute_path (place : Place) : (Place.path place).isAbsolute = true := by
  rw [isAbsolute, chars_path]
  rfl

/-- The path of a place has the names of the place for its steps. -/
theorem route_path {place : Place} (hnames : ∀ name ∈ place, IsName name) :
    (Place.path place).route = place.reverse.map String.toList := by
  have hparts : (Place.path place).parts =
      [] :: splitAtSlashes (['/'].intercalate (place.reverse.map String.toList)) := by
    rw [Path.parts, chars_path]
    rfl
  rw [route, hparts]
  by_cases hplace : place.reverse.map String.toList = []
  · rw [hplace]
    rfl
  · have hpart : ∀ part ∈ place.reverse.map String.toList,
        '/' ∉ part ∧ leadsNowhere part = false := by
      intro part hpart
      obtain ⟨name, hname, rfl⟩ := List.mem_map.1 hpart
      have hsound := hnames name (List.mem_reverse.1 hname)
      exact ⟨hsound.no_slash, hsound.not_nowhere⟩
    rw [splitAtSlashes_intercalate hplace fun part h => (hpart part h).1, stepsOf,
      List.filter_cons_of_neg (by decide), List.filter_eq_self]
    exact fun part h => by rw [(hpart part h).2]; rfl

/-- The path of a place stands for it. -/
theorem place_path {place : Place} (hnames : ∀ name ∈ place, IsName name) (workspace : Workspace) :
    workspace.place (Place.path place) = place := by
  simp [Workspace.place, start, isAbsolute_path, route_path hnames, Place.below]

/-- A place whose names can be given to entries. -/
structure IsSound (place : Place) : Prop where
  names : ∀ name ∈ place, IsName name
  clear : ∀ name ∈ place, '\x00' ∉ name.toList
  short : ∀ name ∈ place, byteSize name.toList ≤ maxNameSize

end Place

/-- The current directory has a path as long as it is there. -/
theorem Workspace.currentPath_eq_ok_iff {workspace : Workspace} {current : Path} :
    workspace.currentPath = .ok current ↔
      workspace.files.get? workspace.current = some .directory ∧
        current = Place.path workspace.current := by
  simp only [currentPath, bind_eq_ok_iff, directoryAt_eq_ok_iff, Except.ok.injEq]
  constructor
  · rintro ⟨place, ⟨hentry, rfl⟩, rfl⟩
    exact ⟨hentry, rfl⟩
  · rintro ⟨hentry, rfl⟩
    exact ⟨_, ⟨hentry, rfl⟩, rfl⟩

/-! ## Directories -/

namespace Manifest

variable {workspace : Workspace}

/-- Something has the name of a manifest in a directory. -/
def Holds (workspace : Workspace) (directory : Path) : Prop :=
  workspace.present (directory.join ⟨fileName⟩) = true

/-- The first directory in a list that holds a manifest. -/
def IsNearest (workspace : Workspace) (directories : List Path) (directory : Path) : Prop :=
  ∃ nearer further, directories = nearer ++ directory :: further ∧ Holds workspace directory ∧
    ∀ other ∈ nearer, ¬Holds workspace other

section

variable {place : Place} {directory : Path}

theorem exists_name_of_mem_route (hsound : place.IsSound)
    (hdirectory : directory ∈ (Place.path place).ancestors) {part : List Char}
    (hpart : part ∈ directory.route) : ∃ name ∈ place, name.toList = part := by
  rcases (outward_outerPaths (Place.path place)).mem hdirectory with hnil | ⟨hbegins, -⟩
  · rw [hnil] at hpart
    exact absurd hpart List.not_mem_nil
  · have hmem := hbegins.subset hpart
    rw [Place.route_path hsound.names] at hmem
    simpa using hmem

theorem isPlain_of_isSound (hsound : place.IsSound)
    (hdirectory : directory ∈ (Place.path place).ancestors) : directory.IsPlain := by
  rw [isPlain_iff]
  intro hmem
  obtain ⟨name, hname, hdots⟩ := exists_name_of_mem_route hsound hdirectory hmem
  exact (hsound.names name hname).ne_outer hdots

/-- Around a place with sound names, a manifest can be asked for if its path is not too long. -/
theorem spells_of_isSound (hsound : place.IsSound)
    (hdirectory : directory ∈ (Place.path place).ancestors)
    (hshort : (directory.join ⟨fileName⟩).IsShort) :
    Spells directory fileName ∧ AreShort directory.route := by
  have hroute : (directory.join ⟨fileName⟩).route = directory.route ++ [fileName.toList] :=
    route_join InitOptions.isName_fileName
  have hclear : IsClear (directory.join ⟨fileName⟩).route := by
    rw [hroute, isClear_append]
    refine ⟨fun part hpart => ?_, by decide⟩
    obtain ⟨name, hname, rfl⟩ := exists_name_of_mem_route hsound hdirectory hpart
    exact hsound.clear name hname
  have hrefusal : (directory.join ⟨fileName⟩).refusal? = none := by
    have hempty : (directory.join ⟨fileName⟩).isEmpty = false :=
      isEmpty_eq_false_of_route (by simp [hroute])
    rw [refusal?_eq hempty, contains_null_eq_false_iff.2 hclear, if_pos hshort]
    rfl
  refine ⟨⟨hrefusal, by decide⟩, fun part hpart => ?_⟩
  obtain ⟨name, hname, rfl⟩ := exists_name_of_mem_route hsound hdirectory hpart
  exact hsound.short name hname

/-- The directories around a place are asked by their paths.  They answer what they hold, unless
a path is too long. -/
theorem holds_iff_of_isSound (hsound : place.IsSound)
    (hdirectory : directory ∈ (Place.path place).ancestors)
    (hshort : (directory.join ⟨fileName⟩).IsShort) :
    Holds workspace directory ↔
      workspace.files.get? (fileName :: workspace.place directory) ≠ none := by
  have hplain := isPlain_of_isSound hsound hdirectory
  have hspells := spells_of_isSound hsound hdirectory hshort
  rw [Holds, ← Bool.not_eq_false, present_eq_false_iff,
    found?_join_of_isPlain InitOptions.isName_fileName hplain, if_pos hspells]

end

/-! ## The search -/

theorem run_firstPresent (paths : List Path) (workspace : Workspace) :
    (firstPresent paths).run workspace = (paths.find? workspace.present, workspace) := by
  induction paths with
  | nil => rfl
  | cons path paths ih =>
    rw [firstPresent, run_if (run_present path workspace), List.find?_cons]
    cases workspace.present path with
    | true => rfl
    | false => exact ih

/-- The first candidate at which something stands is in the nearest directory that holds one. -/
theorem find?_candidates_eq_some_iff {start path : Path} :
    (candidates start).find? workspace.present = some path ↔
      ∃ directory, IsNearest workspace start.ancestors directory ∧
        path = directory.join ⟨fileName⟩ := by
  simp only [candidates, List.find?_map, Option.map_eq_some_iff, List.find?_eq_some_iff_append,
    Function.comp_apply, IsNearest, Holds, Bool.not_eq_eq_eq_not, Bool.not_true,
    Bool.not_eq_true]
  constructor
  · rintro ⟨directory, ⟨hholds, nearer, further, hsplit, hnearer⟩, rfl⟩
    exact ⟨directory, ⟨nearer, further, hsplit, hholds, hnearer⟩, rfl⟩
  · rintro ⟨directory, ⟨nearer, further, hsplit, hholds, hnearer⟩, rfl⟩
    exact ⟨directory, ⟨hholds, nearer, further, hsplit, hnearer⟩, rfl⟩

theorem find?_candidates_eq_none_iff {start : Path} :
    (candidates start).find? workspace.present = none ↔
      ∀ directory ∈ start.ancestors, ¬Holds workspace directory := by
  rw [List.find?_eq_none, candidates, List.forall_mem_map]
  rfl

theorem outcome_nearest (start : Path) (workspace : Workspace) :
    (nearest start).outcome workspace =
      (match (candidates start).find? workspace.present with
        | some path => .ok path
        | none => .error (.ofError .manifestNotFound), workspace) := by
  rw [nearest, Attempt.outcome_bind, Attempt.outcome_always, run_firstPresent]
  dsimp only
  cases (candidates start).find? workspace.present <;> rfl

/-- The search goes from parent to parent. -/
theorem outcome_nearest_loop (start : Path) (workspace : Workspace) :
    (nearest start).outcome workspace =
      if workspace.present (start.join ⟨fileName⟩) then (.ok (start.join ⟨fileName⟩), workspace)
      else match start.parent? with
        | some parent => (nearest parent).outcome workspace
        | none => (.error (.ofError .manifestNotFound), workspace) := by
  have hcandidates : candidates start =
      start.join ⟨fileName⟩ :: (start.parent?.map candidates).getD [] := by
    rw [candidates, ancestors_eq]
    cases start.parent? <;> rfl
  rw [outcome_nearest, hcandidates, List.find?_cons]
  cases workspace.present (start.join ⟨fileName⟩) with
  | true => rfl
  | false =>
    cases start.parent? with
    | none => rfl
    | some parent => exact (outcome_nearest parent workspace).symm

theorem outcome_nearest? (workspace : Workspace) :
    nearest?.outcome workspace =
      (match workspace.currentPath with
        | .error refusal =>
            .error (.ofSystem "Cannot determine current working directory" refusal)
        | .ok current => .ok ((candidates current).find? workspace.present), workspace) := by
  have hquestion : run (α := Except SystemError Path) (question .currentPath) workspace =
      (workspace.currentPath, workspace) := rfl
  rw [nearest?, Attempt.outcome_bind, Attempt.outcome_during, hquestion]
  cases workspace.currentPath with
  | error refusal => rfl
  | ok current =>
    simp only [Except.mapError, Attempt.outcome_always, run_firstPresent]

/-- What becomes of a search from a path. -/
structure Climbs (workspace : Workspace) (start : Path) : Prop where
  /-- It looks in one directory after the other, each time in the parent of the one before. -/
  loop : (nearest start).outcome workspace =
    if workspace.present (start.join ⟨fileName⟩) then (.ok (start.join ⟨fileName⟩), workspace)
    else match start.parent? with
      | some parent => (nearest parent).outcome workspace
      | none => (.error (.ofError .manifestNotFound), workspace)
  /-- There are no more directories than steps, but for the path itself and the outermost one. -/
  length_le : start.ancestors.length ≤ start.route.length + 2
  /-- It ends in the nearest of them that holds a manifest. -/
  found_iff : ∀ path, (nearest start).outcome workspace = (.ok path, workspace) ↔
    ∃ directory, IsNearest workspace start.ancestors directory ∧ path = directory.join ⟨fileName⟩
  fails_iff : (nearest start).outcome workspace = (.error (.ofError .manifestNotFound), workspace) ↔
    ∀ directory ∈ start.ancestors, ¬Holds workspace directory
  /-- It does not end in another way. -/
  ends : (∃ path, (nearest start).outcome workspace = (.ok path, workspace)) ∨
    (nearest start).outcome workspace = (.error (.ofError .manifestNotFound), workspace)

theorem climbs (workspace : Workspace) (start : Path) : Climbs workspace start where
  loop := outcome_nearest_loop start workspace
  length_le := Nat.succ_le_succ (length_outerPaths_le start)
  found_iff := by
    intro path
    rw [← find?_candidates_eq_some_iff, outcome_nearest]
    cases (candidates start).find? workspace.present <;> simp
  fails_iff := by
    rw [← find?_candidates_eq_none_iff, outcome_nearest]
    cases (candidates start).find? workspace.present <;> simp
  ends := by
    rw [outcome_nearest]
    cases (candidates start).find? workspace.present with
    | none => exact .inr rfl
    | some path => exact .inl ⟨path, rfl⟩

/-! ## The file -/

/-- A directory cannot be read. -/
theorem content_of_isDirectory {path : Path} (hdirectory : workspace.isDirectory path = true) :
    workspace.content path = .error .isDirectory := by
  unfold isDirectory at hdirectory
  unfold content
  cases hfind : workspace.find path with
  | error refusal => simp [hfind] at hdirectory
  | ok found =>
    obtain ⟨place, entry⟩ := found
    cases entry with
    | directory => rfl
    | file bytes => simp [hfind] at hdirectory

/-- A file with a text that is a manifest. -/
def IsWellFormed (workspace : Workspace) (path : Path) : Prop :=
  ∃ document manifest, workspace.content path = .ok document.toUTF8 ∧
    parse document = .ok manifest

/-- The failure of reading a manifest. -/
def readFailure (path : Path) (refusal : SystemError) : Failure :=
  .ofSystem ("Failed to read manifest file: " ++ path.text) refusal

/-- It is not taken for the one that there is no manifest. -/
theorem readFailure_ne (path : Path) (refusal : SystemError) :
    readFailure path refusal ≠ .ofError .manifestNotFound := by
  simp [readFailure, Failure.ofSystem, Failure.ofError]

end Manifest

namespace LoadedManifest

open Manifest

variable {workspace : Workspace} {path : Path}

/-- What a file comes to: nothing is tried in its place. -/
theorem outcome_ofFile (path : Path) (workspace : Workspace) :
    (ofFile path).outcome workspace =
      (match textOf (workspace.content path) with
        | .error refusal => .error (readFailure path refusal)
        | .ok document =>
            match parse document with
            | .error fault => .error (.ofError (.manifestMalformed path.text fault.message))
            | .ok manifest => .ok ⟨manifest.placed path, some path⟩,
        workspace) := by
  rw [ofFile, Attempt.outcome_bind, load, Attempt.outcome_bind, Attempt.outcome_during, run_map,
    run_content]
  cases textOf (workspace.content path) with
  | error refusal => rfl
  | ok document =>
    simp only [Except.mapError, parseFrom]
    cases parse document <;> rfl

theorem outcome_ofFile_of_text {document : String}
    (hcontent : workspace.content path = .ok document.toUTF8) :
    (ofFile path).outcome workspace =
      (match parse document with
        | .error fault => .error (.ofError (.manifestMalformed path.text fault.message))
        | .ok manifest => .ok ⟨manifest.placed path, some path⟩, workspace) := by
  rw [outcome_ofFile, hcontent, textOf_toUTF8]

/-- What is loaded from a file has its path. -/
theorem path_of_ofFile {loaded : LoadedManifest}
    (hloaded : ((ofFile path).outcome workspace).1 = .ok loaded) : loaded.path = some path := by
  rw [outcome_ofFile] at hloaded
  dsimp only at hloaded
  split at hloaded
  next => cases hloaded
  next =>
    split at hloaded
    next => cases hloaded
    next => rw [← Except.ok.inj hloaded]

/-- A text is read from its own bytes only. -/
theorem eq_toUTF8_of_fromUTF8? {bytes : ByteArray} {document : String}
    (hbytes : String.fromUTF8? bytes = some document) : bytes = document.toUTF8 := by
  unfold String.fromUTF8? at hbytes
  split at hbytes
  next => rw [← Option.some.inj hbytes]; rfl
  next => cases hbytes

/-- What becomes of a path that is taken for that of a manifest. -/
structure Decides (workspace : Workspace) (path : Path) : Prop where
  loaded : ∀ document manifest, workspace.content path = .ok document.toUTF8 →
    parse document = .ok manifest →
      (ofFile path).outcome workspace = (.ok ⟨manifest.placed path, some path⟩, workspace)
  unreadable : ∀ refusal, workspace.content path = .error refusal →
    (ofFile path).outcome workspace = (.error (readFailure path refusal), workspace)
  directory : workspace.isDirectory path = true →
    (ofFile path).outcome workspace = (.error (readFailure path .isDirectory), workspace)
  notText : ∀ bytes, workspace.content path = .ok bytes → String.fromUTF8? bytes = none →
    (ofFile path).outcome workspace = (.error (readFailure path .notText), workspace)
  malformed : ∀ document fault, workspace.content path = .ok document.toUTF8 →
    parse document = .error fault →
      (ofFile path).outcome workspace =
        (.error (.ofError (.manifestMalformed path.text fault.message)), workspace)
  /-- Whatever keeps a file from being a manifest is an error, and not that there is none. -/
  fails : ¬IsWellFormed workspace path → ∃ failure,
    (ofFile path).outcome workspace = (.error failure, workspace) ∧
      failure ≠ .ofError .manifestNotFound

theorem decides (workspace : Workspace) (path : Path) : Decides workspace path := by
  have hunreadable (refusal : SystemError) (hcontent : workspace.content path = .error refusal) :
      (ofFile path).outcome workspace = (.error (readFailure path refusal), workspace) :=
    by rw [outcome_ofFile, hcontent]; rfl
  have hnotText (bytes : ByteArray) (hcontent : workspace.content path = .ok bytes)
      (hbytes : String.fromUTF8? bytes = none) :
      (ofFile path).outcome workspace = (.error (readFailure path .notText), workspace) :=
    by simp only [outcome_ofFile, textOf, hcontent, hbytes]
  refine ⟨fun document manifest hcontent hparse => ?_, hunreadable, fun hdirectory => ?_, hnotText,
    fun document fault hcontent hparse => ?_, fun hform => ?_⟩
  · rw [outcome_ofFile_of_text hcontent, hparse]
  · exact hunreadable .isDirectory (content_of_isDirectory hdirectory)
  · rw [outcome_ofFile_of_text hcontent, hparse]
  · cases hcontent : workspace.content path with
    | error refusal => exact ⟨_, hunreadable refusal hcontent, readFailure_ne path refusal⟩
    | ok bytes =>
      cases hbytes : String.fromUTF8? bytes with
      | none => exact ⟨_, hnotText bytes hcontent hbytes, readFailure_ne path .notText⟩
      | some document =>
        rw [eq_toUTF8_of_fromUTF8? hbytes] at hcontent
        cases hparse : parse document with
        | ok manifest => exact absurd ⟨document, manifest, hcontent, hparse⟩ hform
        | error fault =>
          refine ⟨.ofError (.manifestMalformed path.text fault.message), ?_,
            by simp [Failure.ofError]⟩
          rw [outcome_ofFile_of_text hcontent, hparse]

theorem outcome_find_some (path : Path) (workspace : Workspace) :
    (find (some path)).outcome workspace =
      if workspace.present path then (ofFile path).outcome workspace
      else (.error (.ofError .manifestNotFound), workspace) := by
  rw [find, Attempt.outcome_bind, given, Attempt.outcome_if (run_present path workspace)]
  cases workspace.present path <;> rfl

theorem outcome_find_none (workspace : Workspace) :
    (find none).outcome workspace =
      match workspace.currentPath with
      | .error refusal =>
          (.error (.ofSystem "Cannot determine current working directory" refusal), workspace)
      | .ok current =>
          match (candidates current).find? workspace.present with
          | some path => (ofFile path).outcome workspace
          | none => (.ok builtin, workspace) := by
  rw [find, Attempt.outcome_bind, outcome_nearest?]
  cases workspace.currentPath with
  | error refusal => rfl
  | ok current =>
    dsimp only
    cases (candidates current).find? workspace.present <;> rfl

/-- Only the built-in manifest has no path. -/
theorem eq_builtin_of_path_eq_none {asked : Option Path} {loaded : LoadedManifest}
    (hloaded : ((find asked).outcome workspace).1 = .ok loaded) (hpath : loaded.path = none) :
    asked = none ∧ loaded = builtin := by
  have hfile (path : Path) : ((ofFile path).outcome workspace).1 ≠ .ok loaded := by
    intro hfound
    rw [path_of_ofFile hfound] at hpath
    cases hpath
  cases asked with
  | some path =>
    rw [outcome_find_some] at hloaded
    split at hloaded
    next => exact absurd hloaded (hfile path)
    next => cases hloaded
  | none =>
    rw [outcome_find_none] at hloaded
    split at hloaded
    next => cases hloaded
    next =>
      split at hloaded
      next path _ => exact absurd hloaded (hfile path)
      next => exact ⟨rfl, (Except.ok.inj hloaded).symm⟩

/-! ## The assembly -/

/-- What becomes of every way to ask for a manifest. -/
structure Discovers (workspace : Workspace) : Prop where
  /-- A path that is given is the one that is loaded, if something is there. -/
  given : ∀ path, (find (some path)).outcome workspace =
    if workspace.present path then (ofFile path).outcome workspace
    else (.error (.ofError .manifestNotFound), workspace)
  /-- Without a path the search starts from the current directory, which has to be there. -/
  current_iff : (∃ current, workspace.currentPath = .ok current) ↔
    workspace.files.get? workspace.current = some .directory
  lost : ∀ refusal, workspace.currentPath = .error refusal → (find none).outcome workspace =
    (.error (.ofSystem "Cannot determine current working directory" refusal), workspace)
  /-- The nearest manifest is loaded, and the built-in one is used if there is none. -/
  nearest : ∀ current directory, workspace.currentPath = .ok current →
    IsNearest workspace current.ancestors directory →
      (find none).outcome workspace = (ofFile (directory.join ⟨fileName⟩)).outcome workspace
  builtin_iff : ∀ current, workspace.currentPath = .ok current →
    ((find none).outcome workspace = (.ok builtin, workspace) ↔
      ∀ directory ∈ current.ancestors, ¬Holds workspace directory)
  pathless : ∀ asked loaded, ((find asked).outcome workspace).1 = .ok loaded →
    loaded.path = none → asked = none ∧ loaded = builtin
  /-- It is the one failure that there is no manifest which leads to the built-in one. -/
  fallback : (find none).outcome workspace =
    match (nearestToCurrent.outcome workspace).1 with
    | .ok path => (ofFile path).outcome workspace
    | .error failure =>
        (if failure = .ofError .manifestNotFound then .ok builtin else .error failure, workspace)
  /-- What is found is loaded or fails, whatever is further up. -/
  decides : ∀ path, Decides workspace path
  /-- From any path the search ends, and without a manifest only if no ancestor holds one. -/
  climbs : ∀ start, Climbs workspace start
  /-- The ancestors of the current path are the current directory and those around it, and they
  hold a manifest if they have an entry of that name, as long as its path is not too long. -/
  directories : workspace.current.IsSound → ∀ current, workspace.currentPath = .ok current →
    current.ancestors.map workspace.place = workspace.current.tails ∧
      ∀ directory ∈ current.ancestors, (directory.join ⟨fileName⟩).IsShort →
        (Holds workspace directory ↔
          workspace.files.get? (fileName :: workspace.place directory) ≠ none)

/-- Every search for a manifest becomes what `Discovers` says. -/
theorem discovers (workspace : Workspace) : Discovers workspace where
  given := fun path => outcome_find_some path workspace
  current_iff := by
    simp only [currentPath_eq_ok_iff, exists_and_left, exists_eq, and_true]
  lost := by
    intro refusal hcurrent
    rw [outcome_find_none, hcurrent]
  nearest := by
    intro current directory hcurrent hnearest
    have hfound := find?_candidates_eq_some_iff.2 ⟨directory, hnearest, rfl⟩
    rw [outcome_find_none, hcurrent]
    simp only [hfound]
  builtin_iff := by
    intro current hcurrent
    rw [outcome_find_none, hcurrent, ← find?_candidates_eq_none_iff]
    dsimp only
    cases hfound : (candidates current).find? workspace.present with
    | none => exact iff_of_true rfl rfl
    | some path =>
      refine iff_of_false (fun hbuiltin => ?_) nofun
      have hpath := path_of_ofFile (congrArg Prod.fst hbuiltin)
      cases hpath
  pathless := fun asked loaded => eq_builtin_of_path_eq_none
  fallback := by
    rw [outcome_find_none, nearestToCurrent, Attempt.outcome_bind, outcome_nearest?]
    cases workspace.currentPath with
    | error refusal => rfl
    | ok current =>
      dsimp only
      cases (candidates current).find? workspace.present <;> rfl
  decides := LoadedManifest.decides workspace
  climbs := Manifest.climbs workspace
  directories := by
    intro hsound current hcurrent
    obtain ⟨-, rfl⟩ := currentPath_eq_ok_iff.1 hcurrent
    have hmap := workspace.map_place_ancestors (Place.isAbsolute_path workspace.current)
    rw [Place.place_path hsound.names] at hmap
    exact ⟨hmap, fun directory => holds_iff_of_isSound hsound⟩

/-- A directory that was removed while it was the current one. -/
def removed : Workspace where
  files := (Workspace.fresh "work").files
  current := ["sub", "work"]

/-- From a directory that was removed, the built-in manifest is not used, though no directory
around it has a manifest. -/
theorem not_builtin_removed :
    ¬((∃ loaded, ((find none).outcome removed).1 = .ok loaded ∧ loaded.path = none) ↔
      ∀ place ∈ removed.current.tails, removed.files.get? (fileName :: place) = none) := by
  have hcurrent : removed.currentPath = .error .notFound := by decide +kernel
  have hnone : ∀ place ∈ removed.current.tails,
      removed.files.get? (fileName :: place) = none := by
    decide +kernel
  intro hiff
  obtain ⟨loaded, hloaded, -⟩ := hiff.2 hnone
  rw [outcome_find_none, hcurrent] at hloaded
  cases hloaded

end LoadedManifest

end RecipeMatrix
