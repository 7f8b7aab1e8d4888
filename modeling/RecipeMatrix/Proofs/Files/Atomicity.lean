import RecipeMatrix.Proofs.Files.Places

/-!
# All or nothing

What a replacement leaves of a workspace, for every path without `..`: one that names a file, one
that ends in a slash or a dot, one that names nothing.

There are four groups.

* The parent.  Directories are added outside the path only (`requireParent_adds`), and where they
  are refused there is no temporary file (`isFile_of_requireParent_error`).
* The write.  `Course` has the three courses that it can take, with what has become of the places
  that it touches.
* The end.  `Replaced` says what a success leaves and `LeftAlone` what a failure leaves; `Beside` is
  what both leave of all the rest.  `replaceContent_ends` is the assembly of the parts.
* Failures.  `replaceContent_atomic` adds the paths that cannot be replaced.
-/

namespace RecipeMatrix

open RecipeMatrix.Path

namespace Workspace

/-- The places outside the place of a path that names something. -/
def Outside (workspace : Workspace) (path : Path) (place : Place) : Prop :=
  path.route ≠ [] ∧ place <:+ (workspace.place path).tail

theorem not_outside_place (workspace : Workspace) (path : Path) :
    ¬ workspace.Outside path (workspace.place path) := by
  rintro ⟨hroute, hsuffix⟩
  obtain ⟨parent, part, -, hlast, habsolute⟩ := exists_parent?_eq hroute
  have hlength := hsuffix.length_le
  rw [workspace.place_eq_cons hlast habsolute, List.length_cons, List.tail_cons] at hlength
  omega

theorem not_outside_temporary (workspace : Workspace) {path : Path} (hplain : path.IsPlain) :
    ¬ workspace.Outside path (workspace.place (Files.temporaryPath path)) :=
  fun houtside => (workspace.place_temporaryPath hplain).2 houtside.2

end Workspace

namespace Files

open Workspace

/-! ## The parent -/

/-- Only directories are made, at the path itself and outside it. -/
theorem makes_requireDirectory (path : Path) :
    (requireDirectory path).run.Makes
      fun step => ∃ other, other ∈ path :: path.outerPaths ∧ step = .makeDirectory other := by
  refine Attempt.makes_then (Attempt.makes_always (Program.makes_question _)) fun present => ?_
  cases present with
  | true =>
    refine Attempt.makes_then (Attempt.makes_always (Program.makes_question _)) fun directory => ?_
    cases directory <;> exact trivial
  | false => exact Attempt.makes_during _ (makes_makeWithOuter path path.outerPaths)

/-- A path that names nothing needs no directory. -/
theorem requireParent_of_route_eq_nil {path : Path} (hroute : path.route = []) :
    requireParent path = pure () := by
  unfold requireParent
  split
  next => rfl
  next parent hparent => rw [if_pos (isEmpty_of_parent?_eq hroute hparent)]

/-- What an outer path of a path names is outside the path. -/
theorem outside_of_target {workspace state : Workspace} {path other : Path}
    {directory : Place} {name : String} {asDirectory : Bool} (hplain : path.IsPlain)
    (hroute : path.route ≠ []) (hother : other ∈ path.outerPaths)
    (hcurrent : state.current = workspace.current)
    (htarget : state.target other = .ok (.name directory name asDirectory)) :
    workspace.Outside path (name :: directory) := by
  obtain ⟨parent, part, hparent, hlast, habsolute⟩ := exists_parent?_eq hroute
  rw [outerPaths_of_parent? hparent] at hother
  obtain ⟨route, last, -, hsteps, -⟩ := target_eq_name htarget
  obtain ⟨hbegins, hsame⟩ :=
    ((outward_outerPaths parent).mem hother).resolve_left (by simp [hsteps])
  refine ⟨hroute, ?_⟩
  rw [workspace.place_eq_cons hlast habsolute, List.tail_cons, ← place_congr hcurrent]
  exact onTheWay_of_target (hplain.of_route_eq hlast) hbegins hsame htarget

theorem requireParent_adds {path : Path} (hplain : path.IsPlain) (workspace : Workspace) :
    ((requireParent path).outcome workspace).2.current = workspace.current ∧
      FileSystem.AddsDirectories (workspace.Outside path) workspace.files
        ((requireParent path).outcome workspace).2.files := by
  by_cases hroute : path.route = []
  · rw [requireParent_of_route_eq_nil hroute]
    exact ⟨rfl, .refl _⟩
  · have hmakes : (requireParent path).run.Makes fun step =>
        ∃ other, other ∈ path.outerPaths ∧ step = .makeDirectory other := by
      unfold requireParent
      split
      next => exact trivial
      next parent hparent =>
        split
        next => exact trivial
        next =>
          rw [outerPaths_of_parent? hparent]
          exact makes_requireDirectory parent
    refine hmakes.addsDirectories _ ?_ _ (Attempt.outcome_mem_states _ workspace)
    intro other hother state hcurrent directory name asDirectory htarget
    exact outside_of_target hplain hroute hother hcurrent htarget

/-- Where the parent is refused, there is no temporary file: it would lie in the parent. -/
theorem isFile_of_requireParent_error {path : Path} (hplain : path.IsPlain)
    {workspace reached : Workspace} {failure : Failure}
    (houtcome : (requireParent path).outcome workspace = (.error failure, reached)) :
    reached.isFile (temporaryPath path) = false := by
  obtain ⟨base, name, htemporary, hname, hbase, hhas⟩ := exists_hasTemporary hplain
  obtain ⟨hcurrent, hadds⟩ := requireParent_adds hplain workspace
  rw [houtcome] at hcurrent hadds
  cases hfile : reached.isFile (temporaryPath path) with
  | false => rfl
  | true =>
    obtain ⟨content, hfound⟩ := isFile_iff.1 hfile
    rw [htemporary, found?_join_of_isPlain hname hbase, place_congr hcurrent] at hfound
    split at hfound
    next hwritten =>
      have hdirectory := FileSystem.get?_parent_of_eq (hadds.file_iff.1 hfound)
      cases hhas with
      | below hroute =>
        rw [requireParent_of_route_eq_nil hroute] at houtcome
        cases houtcome
      | beside hparent hroute habsolute =>
        simp only [requireParent, hparent] at houtcome
        split at houtcome
        next => cases houtcome
        next hempty =>
          have hrefusal := refusal?_of_join hname (by simpa using hempty) hwritten.1.1
          have hready : workspace.isDirectory base = true := isDirectory_iff.2 ⟨hrefusal, _,
            (reach_eq_ok_iff hbase).2 ⟨rfl, hwritten.2, .inr hdirectory⟩⟩
          rw [outcome_requireDirectory_of_isDirectory hready] at houtcome
          cases houtcome
    next => cases hfound

/-! ## The write -/

/-- A file stands at the temporary path, and nothing else has changed. -/
structure Holds (temporary : Path) (held : ByteArray) (start reached : Workspace) : Prop where
  free : start.files.get? (start.place temporary) ≠ some .directory
  current_eq : reached.current = start.current
  find_eq : reached.find temporary = .ok (start.place temporary, .file held)
  sets : FileSystem.Sets (start.place temporary) (some (.file held)) start.files reached.files

/-- The courses that a write and a move can take, each with what it leaves. -/
inductive Course (path temporary : Path) (content : ByteArray) (start : Workspace) :
    Except Failure Unit → Workspace → Prop
  /-- The temporary file cannot be created, and nothing changes. -/
  | refused {failure : Failure} {refusal : SystemError}
      (hcreate : start.apply (.createFile temporary) = .error refusal) :
      Course path temporary content start (.error failure) start
  /-- The temporary file stays behind. -/
  | givenUp {failure : Failure} {held : ByteArray} {reached : Workspace}
      (hholds : Holds temporary held start reached) :
      Course path temporary content start (.error failure) reached
  /-- The temporary file is moved with all of its content. -/
  | moved {filled : Workspace} {files : FileSystem} (hholds : Holds temporary content start filled)
      (hmove : filled.apply (.moveFile temporary path) = .ok files) :
      Course path temporary content start (.ok ()) { filled with files }

section

variable {path temporary : Path} {start reached : Workspace} {held content : ByteArray}
  {files : FileSystem}

theorem holds_of_createFile (hplain : temporary.IsPlain)
    (hcreate : start.apply (.createFile temporary) = .ok files) :
    Holds temporary .empty start { start with files } := by
  obtain ⟨⟨directory, name, htarget⟩, hfree, hsets⟩ := sets_of_createFile hplain hcreate
  exact ⟨hfree, rfl, find_of_target_eq hplain rfl htarget hsets.get?_self, hsets⟩

theorem Holds.writeFile (hplain : temporary.IsPlain) (hholds : Holds temporary held start reached)
    (hwrite : reached.apply (.writeFile temporary content) = .ok files) :
    Holds temporary content start { reached with files } := by
  have hsets := sets_of_writeFile hplain hwrite
  have hplace := place_congr hholds.current_eq temporary
  obtain ⟨directory, name, htarget, -, -⟩ := find_eq_file_iff.1 hholds.find_eq
  have hfind : Workspace.find { reached with files } temporary =
      .ok (reached.place temporary, .file content) :=
    find_of_target_eq hplain rfl htarget hsets.get?_self
  rw [hplace] at hsets hfind
  exact ⟨hholds.free, hholds.current_eq, hfind, hholds.sets.trans hsets⟩

theorem course_writeAndMove (hplain : temporary.IsPlain) (path : Path) (content : ByteArray)
    (start : Workspace) :
    Course path temporary content start
      ((writeAndMove path temporary content).outcome start).1
      ((writeAndMove path temporary content).outcome start).2 := by
  simp only [writeAndMove, Attempt.outcome_bind, Attempt.outcome_during, Program.run_perform]
  cases hcreate : start.apply (.createFile temporary) with
  | error refusal =>
    simp only [perform_of_error hcreate, mapError_error]
    exact .refused hcreate
  | ok created =>
    have hcreated := holds_of_createFile hplain hcreate
    simp only [perform_of_ok hcreate, mapError_ok]
    cases hwrite : Workspace.apply { start with files := created }
        (.writeFile temporary content) with
    | error refusal =>
      simp only [perform_of_error hwrite, mapError_error]
      exact .givenUp hcreated
    | ok written =>
      have hwritten := hcreated.writeFile hplain hwrite
      simp only [perform_of_ok hwrite, mapError_ok]
      cases hmove : Workspace.apply { start with files := written } (.moveFile temporary path) with
      | error refusal =>
        simp only [perform_of_error hmove, mapError_error]
        exact .givenUp hwritten
      | ok moved =>
        have hmoved := Course.moved hwritten hmove
        simp only [perform_of_ok hmove, mapError_ok]
        exact hmoved

/-! Clearing. -/

theorem run_clearTemporary_of_isFile_eq_false (hnone : start.isFile temporary = false) :
    (clearTemporary temporary).run start = ((), start) := by
  rw [clearTemporary, Program.run_if (Program.run_present temporary start), Program.run_bind,
    Program.run_perform]
  unfold present
  unfold isFile at hnone
  cases hfind : start.find temporary with
  | error refusal => rfl
  | ok found =>
    obtain ⟨place, entry⟩ := found
    cases entry with
    | directory =>
      have hrefused : start.apply (.removeFile temporary) = .error .isDirectory := by
        simp only [apply, hfind]
        rfl
      rw [perform_of_error hrefused]
      rfl
    | file content => simp [hfind] at hnone

theorem run_clearTemporary_of_find {place : Place}
    (hfind : start.find temporary = .ok (place, .file held)) :
    (clearTemporary temporary).run start =
      ((), { start with files := start.files.erase place }) := by
  have hpresent : start.present temporary = true := by simp [present, hfind]
  rw [clearTemporary, Program.run_if (Program.run_present temporary start), Program.run_bind,
    Program.run_perform, hpresent, perform_of_ok (sets_of_removeFile hfind).1]
  rfl

end

/-! ## The end -/

/-- What a replacement leaves of everything beside the path and its temporary path. -/
structure Beside (path : Path) (before after : Workspace) : Prop where
  current_eq : after.current = before.current
  /-- What was there stays, and directories outside the path may be new. -/
  places : ∀ place, place ≠ before.place path → place ≠ before.place (temporaryPath path) →
    after.files.get? place = before.files.get? place ∨
      before.Outside path place ∧ before.files.get? place = none ∧
        after.files.get? place = some .directory

/-- What a replacement leaves that succeeds. -/
structure Replaced (path : Path) (content : ByteArray) (before after : Workspace) : Prop where
  free : before.files.get? (before.place path) ≠ some .directory
  entry_eq : after.files.get? (before.place path) = some (.file content)
  content_eq : after.content path = .ok content
  temporary_entry : after.files.get? (before.place (temporaryPath path)) = none
  temporary : after.present (temporaryPath path) = false

/-- What a replacement leaves that fails. -/
structure LeftAlone (path : Path) (before after : Workspace) : Prop where
  entry_eq : after.files.get? (before.place path) = before.files.get? (before.place path)
  found?_eq : after.found? path = before.found? path
  /-- Of the temporary path, no more than a file can have gone. -/
  temporary_entry : after.files.get? (before.place (temporaryPath path)) =
      before.files.get? (before.place (temporaryPath path)) ∨
    before.files.get? (before.place (temporaryPath path)) ≠ some .directory ∧
      after.files.get? (before.place (temporaryPath path)) = none
  temporary : after.isFile (temporaryPath path) = false
  temporary_directory : before.isDirectory (temporaryPath path) = true →
    after.isDirectory (temporaryPath path) = true

theorem outcome_replaceContent (path : Path) (content : ByteArray) (workspace : Workspace) :
    (replaceContent path content).outcome workspace =
      match (requireParent path).outcome workspace with
      | (.error failure, reached) => (.error failure, reached)
      | (.ok (), prepared) =>
          match (writeAndMove path (temporaryPath path) content).outcome prepared with
          | (.ok (), moved) => (.ok (), moved)
          | (.error failure, left) =>
              (.error failure, ((clearTemporary (temporaryPath path)).run left).2) := by
  rw [replaceContent, Attempt.outcome_bind]
  rcases (requireParent path).outcome workspace with ⟨_ | _, prepared⟩
  · rfl
  · simp only [Attempt.outcome_bind, Attempt.outcome_always, Attempt.run_eq_outcome]
    rcases (writeAndMove path (temporaryPath path) content).outcome prepared with ⟨_ | _, left⟩
    · simp only [Attempt.outcome_bind, Attempt.outcome_always, Attempt.outcome_throw]
    · rfl

section

variable {path : Path} {content : ByteArray} {before prepared after : Workspace}

theorem present_temporaryPath_eq_false (hplain : path.IsPlain)
    (hnone : after.files.get? (after.place (temporaryPath path)) = none) :
    after.present (temporaryPath path) = false := by
  obtain ⟨base, name, htemporary, hname, hbase, -⟩ := exists_hasTemporary hplain
  rw [htemporary, place_join after hname] at hnone
  rw [present_eq_false_iff, htemporary, found?_join_of_isPlain hname hbase, hnone, ite_self]

theorem isFile_of_present_eq_false (habsent : after.present path = false) :
    after.isFile path = false := by
  rw [present_eq_false_iff] at habsent
  cases hfile : after.isFile path with
  | false => rfl
  | true =>
    obtain ⟨held, hfound⟩ := isFile_iff.1 hfile
    rw [habsent] at hfound
    cases hfound

/-- What changes at the two places only, once the parent was made. -/
theorem beside_of_adds (hprepared : prepared.current = before.current)
    (hadds : FileSystem.AddsDirectories (before.Outside path) before.files prepared.files)
    (hcurrent : after.current = prepared.current)
    (hsame : ∀ place, place ≠ before.place path → place ≠ before.place (temporaryPath path) →
      after.files.get? place = prepared.files.get? place) : Beside path before after where
  current_eq := hcurrent.trans hprepared
  places place hpath htemporary := by
    rw [hsame place hpath htemporary]
    exact hadds place

/-- A failure that changes the temporary place only, once the parent was made. -/
theorem leftAlone_of_adds (hplain : path.IsPlain) (hprepared : prepared.current = before.current)
    (hadds : FileSystem.AddsDirectories (before.Outside path) before.files prepared.files)
    (hcurrent : after.current = prepared.current)
    (hsame : ∀ place, place ≠ before.place (temporaryPath path) →
      after.files.get? place = prepared.files.get? place)
    (htemporary : after.files.get? (before.place (temporaryPath path)) =
        prepared.files.get? (before.place (temporaryPath path)) ∨
      prepared.files.get? (before.place (temporaryPath path)) ≠ some .directory ∧
        after.files.get? (before.place (temporaryPath path)) = none)
    (hfile : after.isFile (temporaryPath path) = false) : LeftAlone path before after := by
  have hne := (before.place_temporaryPath hplain).1
  have hkept := hadds.get?_of_not_region (before.not_outside_temporary hplain)
  have hentry : after.files.get? (before.place path) = before.files.get? (before.place path) := by
    rw [hsame _ hne.symm, hadds.get?_of_not_region (before.not_outside_place path)]
  rw [hkept] at htemporary
  have hdirectories : ∀ place, before.files.get? place = some .directory →
      after.files.get? place = some .directory := by
    intro place hplace
    by_cases htemp : place = before.place (temporaryPath path)
    · subst htemp
      rcases htemporary with hsame | ⟨hnot, -⟩
      · rw [hsame, hplace]
      · exact absurd hplace hnot
    · rw [hsame place htemp, hadds.directory hplace]
  exact
    { entry_eq := hentry
      found?_eq := found?_congr hplain (hcurrent.trans hprepared) hentry
      temporary_entry := htemporary
      temporary := hfile
      temporary_directory := isDirectory_of_directories (hcurrent.trans hprepared) hdirectories }

/-- A file that was moved into place, once the parent was made. -/
theorem replaced_of_moved {filled : Workspace} {files : FileSystem} (hplain : path.IsPlain)
    (hprepared : prepared.current = before.current)
    (hadds : FileSystem.AddsDirectories (before.Outside path) before.files prepared.files)
    (hholds : Holds (temporaryPath path) content prepared filled)
    (hmove : filled.apply (.moveFile (temporaryPath path) path) = .ok files) :
    Beside path before { filled with files } ∧
      Replaced path content before { filled with files } := by
  have hcurrent : filled.current = before.current := hholds.current_eq.trans hprepared
  obtain ⟨hne, -⟩ := before.place_temporaryPath hplain
  obtain ⟨⟨directory, name, htarget⟩, hfree, middle, hgone, hput⟩ :=
    sets_of_moveFile hplain hholds.find_eq hmove
  have hsets := hholds.sets
  have hfound :
      Workspace.find { filled with files } path = .ok (filled.place path, .file content) :=
    find_of_target_eq hplain rfl htarget hput.get?_self
  rw [place_congr hcurrent] at hfree hput hfound
  rw [place_congr hprepared] at hgone hsets
  have hnone : files.get? (before.place (temporaryPath path)) = none := by
    rw [hput.get?_of_ne hne, hgone.get?_self]
  constructor
  · refine beside_of_adds hprepared hadds hholds.current_eq fun place hpath htemporary => ?_
    change files.get? place = _
    rw [hput.get?_of_ne hpath, hgone.get?_of_ne htemporary, hsets.get?_of_ne htemporary]
  · refine ⟨?_, hput.get?_self, ?_, hnone, ?_⟩
    · rwa [hsets.get?_of_ne hne.symm,
        hadds.get?_of_not_region (before.not_outside_place path)] at hfree
    · rw [content_eq_ok_iff, found?, hfound]
    · refine present_temporaryPath_eq_false hplain ?_
      have hplace : Workspace.place { filled with files } (temporaryPath path) =
          before.place (temporaryPath path) := place_congr hcurrent _
      rwa [hplace]

/-- A temporary file that stayed behind is cleared. -/
theorem leftAlone_of_holds {held : ByteArray} {left : Workspace} (hplain : path.IsPlain)
    (hprepared : prepared.current = before.current)
    (hadds : FileSystem.AddsDirectories (before.Outside path) before.files prepared.files)
    (hholds : Holds (temporaryPath path) held prepared left) :
    Beside path before ((clearTemporary (temporaryPath path)).run left).2 ∧
      LeftAlone path before ((clearTemporary (temporaryPath path)).run left).2 := by
  have hplace := place_congr hprepared (temporaryPath path)
  have hcleared := hholds.sets.trans (sets_of_removeFile hholds.find_eq).2
  have hfree := hholds.free
  rw [run_clearTemporary_of_find hholds.find_eq]
  have habsent : Workspace.present
      { left with files := left.files.erase (prepared.place (temporaryPath path)) }
      (temporaryPath path) = false := by
    refine present_temporaryPath_eq_false hplain ?_
    have hsame : Workspace.place
        { left with files := left.files.erase (prepared.place (temporaryPath path)) }
        (temporaryPath path) = prepared.place (temporaryPath path) :=
      place_congr hholds.current_eq _
    rw [hsame]
    exact hcleared.get?_self
  rw [hplace] at hcleared hfree habsent ⊢
  exact ⟨beside_of_adds hprepared hadds hholds.current_eq
      fun place _ htemporary => hcleared.get?_of_ne htemporary,
    leftAlone_of_adds hplain hprepared hadds hholds.current_eq
      (fun place htemporary => hcleared.get?_of_ne htemporary)
      (.inr ⟨hfree, hcleared.get?_self⟩) (isFile_of_present_eq_false habsent)⟩

/-- What is left alone where nothing but the parent was made. -/
theorem leftAlone_of_isFile_eq_false (hplain : path.IsPlain)
    (hprepared : prepared.current = before.current)
    (hadds : FileSystem.AddsDirectories (before.Outside path) before.files prepared.files)
    (hfile : prepared.isFile (temporaryPath path) = false) :
    Beside path before prepared ∧ LeftAlone path before prepared :=
  ⟨beside_of_adds hprepared hadds rfl fun _ _ _ => rfl,
    leftAlone_of_adds hplain hprepared hadds rfl (fun _ _ => rfl) (.inl rfl) hfile⟩

end

/-- A replacement ends in one of two ways, and in both it touches nothing else. -/
theorem replaceContent_ends {path : Path} (hplain : path.IsPlain) (content : ByteArray)
    (before : Workspace) : ∃ after, Beside path before after ∧
      ((replaceContent path content).outcome before = (.ok (), after) ∧
          Replaced path content before after ∨
        ∃ failure, (replaceContent path content).outcome before = (.error failure, after) ∧
          LeftAlone path before after) := by
  obtain ⟨hprepared, hadds⟩ := requireParent_adds hplain before
  rw [outcome_replaceContent]
  rcases hparent : (requireParent path).outcome before with ⟨failure | _, prepared⟩
  · have hfile := isFile_of_requireParent_error hplain hparent
    rw [hparent] at hprepared hadds
    obtain ⟨hbeside, hleft⟩ := leftAlone_of_isFile_eq_false hplain hprepared hadds hfile
    exact ⟨prepared, hbeside, .inr ⟨failure, rfl, hleft⟩⟩
  · rw [hparent] at hprepared hadds
    have hcourse := course_writeAndMove hplain.temporaryPath path content prepared
    dsimp only
    generalize (writeAndMove path (temporaryPath path) content).outcome prepared = ending
      at hcourse ⊢
    obtain ⟨result, reached⟩ := ending
    cases hcourse with
    | @refused failure _ hcreate =>
      have hfile := isFile_of_createFile_error hcreate
      obtain ⟨hbeside, hleft⟩ := leftAlone_of_isFile_eq_false hplain hprepared hadds hfile
      refine ⟨_, hbeside, .inr ⟨failure, ?_, hleft⟩⟩
      simp only [run_clearTemporary_of_isFile_eq_false hfile]
    | @givenUp failure _ _ hholds =>
      obtain ⟨hbeside, hleft⟩ := leftAlone_of_holds hplain hprepared hadds hholds
      exact ⟨_, hbeside, .inr ⟨failure, rfl, hleft⟩⟩
    | moved hholds happly =>
      obtain ⟨hbeside, hreplaced⟩ := replaced_of_moved hplain hprepared hadds hholds happly
      exact ⟨_, hbeside, .inl ⟨rfl, hreplaced⟩⟩

/-! ## Failures -/

section

variable {path : Path} {content : ByteArray} {before after : Workspace}

/-- What is replaced has a file name. -/
theorem Replaced.route_ne_nil (hreplaced : Replaced path content before after) :
    path.route ≠ [] := by
  have hfound := content_eq_ok_iff.1 hreplaced.content_eq
  unfold found? at hfound
  split at hfound
  next place entry hfind =>
    obtain rfl := Option.some.inj hfound
    obtain ⟨directory, name, htarget, -, -⟩ := find_eq_file_iff.1 hfind
    obtain ⟨route, part, -, hroute, -⟩ := target_eq_name htarget
    simp [hroute]
  next => cases hfound

/-- What is replaced was no directory. -/
theorem Replaced.isDirectory_eq_false (hplain : path.IsPlain)
    (hreplaced : Replaced path content before after) : before.isDirectory path = false := by
  cases hdirectory : before.isDirectory path with
  | false => rfl
  | true =>
    obtain ⟨-, place, hreach⟩ := isDirectory_iff.1 hdirectory
    obtain ⟨rfl, -, hentry⟩ := (reach_eq_ok_iff hplain).1 hreach
    exact absurd (hentry.resolve_left hreplaced.route_ne_nil) hreplaced.free

/-- No file was outside of what is replaced. -/
theorem Replaced.not_file_outside (hplain : path.IsPlain)
    (hreplaced : Replaced path content before after) (hbeside : Beside path before after)
    {place : Place} {held : ByteArray} (houtside : before.Outside path place) :
    before.files.get? place ≠ some (.file held) := by
  intro hfile
  have hpath : place ≠ before.place path := by
    rintro rfl
    exact before.not_outside_place path houtside
  have htemporary : place ≠ before.place (temporaryPath path) := by
    rintro rfl
    exact before.not_outside_temporary hplain houtside
  have hdirectory : after.files.get? place = some .directory :=
    FileSystem.get?_suffix (by simp [hreplaced.entry_eq])
      (houtside.2.trans (List.tail_suffix _)) hpath
  rcases hbeside.places place hpath htemporary with hsame | ⟨-, hnone, -⟩
  · rw [hsame, hfile] at hdirectory
    cases hdirectory
  · rw [hfile] at hnone
    cases hnone

end

/-- A path that can never be written: it has no file name, it names a directory, or it lies below a
file. -/
def Unwritable (path : Path) (workspace : Workspace) : Prop :=
  path.fileName? = none ∨ workspace.isDirectory path = true ∨
    ∃ place held, workspace.Outside path place ∧ workspace.files.get? place = some (.file held)

theorem Replaced.not_unwritable {path : Path} (hplain : path.IsPlain) {content : ByteArray}
    {before after : Workspace} (hreplaced : Replaced path content before after)
    (hbeside : Beside path before after) : ¬ Unwritable path before := by
  rintro (hnone | hdirectory | ⟨place, held, houtside, hentry⟩)
  · exact hreplaced.route_ne_nil ((fileName?_eq_none_iff hplain).1 hnone)
  · rw [hreplaced.isDirectory_eq_false hplain] at hdirectory
    cases hdirectory
  · exact hreplaced.not_file_outside hplain hbeside houtside hentry

/-- No path below the path of a file can be written. -/
theorem unwritable_of_isFile {path outer : Path} (hplain : path.IsPlain) {workspace : Workspace}
    (houter : outer ∈ path.outerPaths) (hfile : workspace.isFile outer = true) :
    Unwritable path workspace := by
  by_cases hroute : path.route = []
  · exact .inl ((fileName?_eq_none_iff hplain).2 hroute)
  · unfold isFile at hfile
    split at hfile
    next place held hfind =>
      obtain ⟨directory, name, htarget, rfl, hentry⟩ := find_eq_file_iff.1 hfind
      exact .inr (.inr ⟨_, held, outside_of_target hplain hroute houter rfl htarget, hentry⟩)
    next => cases hfile

/-- A replacement succeeds with the whole content or fails with what was there, and it leaves no
temporary file.  Beside the path, directories outside it may be new, and nothing else has changed.
A path without a file name, one of a directory and one below a file always fail. -/
theorem replaceContent_atomic {path : Path} (hplain : path.IsPlain) (content : ByteArray)
    (before : Workspace) :
    ∃ after, Beside path before after ∧
      ((replaceContent path content).outcome before = (.ok (), after) ∧
          Replaced path content before after ∨
        ∃ failure, (replaceContent path content).outcome before = (.error failure, after) ∧
          LeftAlone path before after) ∧
      (Unwritable path before →
        ∃ failure, (replaceContent path content).outcome before = (.error failure, after)) := by
  obtain ⟨after, hbeside, hends⟩ := replaceContent_ends hplain content before
  refine ⟨after, hbeside, hends, fun hunwritable => ?_⟩
  rcases hends with ⟨-, hreplaced⟩ | ⟨failure, houtcome, -⟩
  · exact absurd hunwritable (hreplaced.not_unwritable hplain hbeside)
  · exact ⟨failure, houtcome⟩

/-- A file in a directory that has to be made, and a path below that file. -/
theorem replaceContent_atomic_fresh : ∃ after,
    (replaceContent ⟨"out/./a"⟩ "FROM".toUTF8).outcome (Workspace.fresh "project") =
      (.ok (), after) ∧
    after.content ⟨"out/./a"⟩ = .ok "FROM".toUTF8 ∧
    ∃ last failure, (replaceContent ⟨"out/a/b"⟩ "FROM".toUTF8).outcome after =
      (.error failure, last) ∧ LeftAlone ⟨"out/a/b"⟩ after last := by
  have hplain : Path.IsPlain ⟨"out/./a"⟩ := by decide
  have hok : ((replaceContent ⟨"out/./a"⟩ "FROM".toUTF8).outcome
      (Workspace.fresh "project")).1.isOk = true := by decide +kernel
  have hfile : ((replaceContent ⟨"out/./a"⟩ "FROM".toUTF8).outcome
      (Workspace.fresh "project")).2.isFile ⟨"out/a"⟩ = true := by decide +kernel
  obtain ⟨after, -, ⟨houtcome, hreplaced⟩ | ⟨failure, houtcome, -⟩, -⟩ :=
    replaceContent_atomic hplain "FROM".toUTF8 (Workspace.fresh "project")
  · rw [houtcome] at hfile
    have hbelow : Path.IsPlain ⟨"out/a/b"⟩ := by decide
    obtain ⟨last, -, hends, hfails⟩ := replaceContent_atomic hbelow "FROM".toUTF8 after
    obtain ⟨failure, herror⟩ := hfails (unwritable_of_isFile hbelow (by decide +kernel) hfile)
    rcases hends with ⟨hagain, -⟩ | ⟨other, hother, hleft⟩
    · rw [herror] at hagain
      cases hagain
    · exact ⟨after, houtcome, hreplaced.content_eq, last, other, hother, hleft⟩
  · rw [houtcome] at hok
    cases hok

end Files

end RecipeMatrix
