import RecipeMatrix.Proofs.Files.Preparation

/-!
# Replacing a file

What `Files.replaceContent` does to a name in a directory.

There are three groups.

* Names that can be written.  `writeRefusal?` says why a name in a directory cannot be written, if
  it cannot.  It depends on the directory and on which of its names are directories, and on
  nothing else (`writeRefusal?_congr`).
* Verdicts.  A replacement in a ready directory takes one of three courses: it is refused at once,
  it is given up when the finished file cannot be moved, or the file is written
  (`outcome_replaceContent_of_ready`).  `get?_withFile` says what the last of
  them does to every place.
* States.  In the middle of a replacement no place is touched but that of the temporary file, and
  that of the file itself holds the old or all of the new content (`replaceContent_states`).
-/

namespace RecipeMatrix.Files

open Workspace RecipeMatrix.Path

/-! ## Names that can be written -/

/-- Why a name in a directory cannot be looked for. -/
def lookupRefusal? (files : FileSystem) (directory : Place) (path : Path) (name : String) :
    Option SystemError :=
  match path.refusal? with
  | some refusal => some refusal
  | none =>
      match nameIn files directory name.toList with
      | .error refusal => some refusal
      | .ok _ => none

/-- Why a name in a directory cannot be written to. -/
def writeRefusal? (files : FileSystem) (directory : Place) (path : Path) (name : String) :
    Option SystemError :=
  match lookupRefusal? files directory path name with
  | some refusal => some refusal
  | none => if files.get? (name :: directory) = some .directory then some .isDirectory else none

/-- The lookup of a name in a directory that was reached. -/
theorem target_eq_of_reach {workspace : Workspace} {base : Path} {name : String}
    {directory : Place} (hname : IsName name) (hreach : workspace.reach base = .ok directory) :
    workspace.target (base.join ⟨name⟩) =
      match lookupRefusal? workspace.files directory (base.join ⟨name⟩) name with
      | some refusal => .error refusal
      | none => .ok (.name directory name false) := by
  unfold lookupRefusal?
  cases hrefusal : (base.join ⟨name⟩).refusal? with
  | some refusal => exact target_of_refusal hrefusal
  | none =>
    rw [target_join hname hrefusal, hreach]
    cases hfound : nameIn workspace.files directory name.toList with
    | error refusal => simp only [Except.bind, hfound]
    | ok found =>
      obtain ⟨-, -, rfl⟩ := nameIn_eq_ok_iff.1 hfound
      simp only [Except.bind, hfound, String.ofList_toList]

theorem writeRefusal?_eq_none_iff {files : FileSystem} {directory : Place} {path : Path}
    {name : String} :
    writeRefusal? files directory path name = none ↔
      lookupRefusal? files directory path name = none ∧
        files.get? (name :: directory) ≠ some .directory := by
  unfold writeRefusal?
  cases lookupRefusal? files directory path name with
  | some refusal => simp
  | none => simp

theorem spells_of_lookupRefusal? {files : FileSystem} {directory : Place} {base : Path}
    {name : String} (hlookup : lookupRefusal? files directory (base.join ⟨name⟩) name = none) :
    Spells base name := by
  unfold lookupRefusal? at hlookup
  split at hlookup
  next => cases hlookup
  next hrefusal =>
    split at hlookup
    next => cases hlookup
    next found hfound => exact ⟨hrefusal, (nameIn_eq_ok_iff.1 hfound).2.1⟩

theorem directory_of_lookupRefusal? {files : FileSystem} {directory : Place} {path : Path}
    {name : String} (hlookup : lookupRefusal? files directory path name = none) :
    files.get? directory = some .directory := by
  unfold lookupRefusal? at hlookup
  split at hlookup
  next => cases hlookup
  next =>
    split at hlookup
    next => cases hlookup
    next found hfound => exact (nameIn_eq_ok_iff.1 hfound).1

/-- A name that can be written lies in a directory. -/
theorem admits_of_writeRefusal? {files : FileSystem} {directory : Place} {path : Path}
    {name : String} (hwrite : writeRefusal? files directory path name = none)
    (content : ByteArray) : files.Admits name directory (.file content) := by
  obtain ⟨hlookup, hnot⟩ := writeRefusal?_eq_none_iff.1 hwrite
  exact ⟨directory_of_lookupRefusal? hlookup, fun h => absurd h hnot⟩

theorem lookupRefusal?_congr {first second : FileSystem} {directory : Place}
    (hplace : second.get? directory = first.get? directory) (path : Path) (name : String) :
    lookupRefusal? second directory path name = lookupRefusal? first directory path name := by
  unfold lookupRefusal? nameIn directoryAt
  rw [hplace]

/-- Only the directory and the directories in it decide what can be written. -/
theorem writeRefusal?_congr {first second : FileSystem} {directory : Place} {name : String}
    (hplace : second.get? directory = first.get? directory)
    (hinside : second.get? (name :: directory) = some .directory ↔
      first.get? (name :: directory) = some .directory) (path : Path) :
    writeRefusal? second directory path name = writeRefusal? first directory path name := by
  unfold writeRefusal?
  rw [lookupRefusal?_congr hplace]
  simp only [hinside]

/-! ## Single changes -/

section

variable {workspace : Workspace} {base : Path} {name : String} {directory : Place}

theorem apply_createFile (hname : IsName name) (hreach : workspace.reach base = .ok directory) :
    workspace.apply (.createFile (base.join ⟨name⟩)) =
      match writeRefusal? workspace.files directory (base.join ⟨name⟩) name with
      | some refusal => .error refusal
      | none => .ok (workspace.files.put name directory (.file .empty)) := by
  unfold writeRefusal?
  simp only [apply, target_eq_of_reach hname hreach]
  cases lookupRefusal? workspace.files directory (base.join ⟨name⟩) name with
  | some refusal => rfl
  | none =>
    by_cases hentry : workspace.files.get? (name :: directory) = some .directory
    · simp [hentry, Bind.bind, Except.bind]
    · simp [hentry, Bind.bind, Except.bind]

theorem find_file {content : ByteArray} (hname : IsName name)
    (hreach : workspace.reach base = .ok directory)
    (hlookup : lookupRefusal? workspace.files directory (base.join ⟨name⟩) name = none)
    (hentry : workspace.files.get? (name :: directory) = some (.file content)) :
    workspace.find (base.join ⟨name⟩) = .ok (name :: directory, .file content) := by
  rw [find_of_target, target_eq_of_reach hname hreach, hlookup]
  simp [Except.bind, hentry]

theorem apply_writeFile {old : ByteArray} (hname : IsName name)
    (hreach : workspace.reach base = .ok directory)
    (hlookup : lookupRefusal? workspace.files directory (base.join ⟨name⟩) name = none)
    (hentry : workspace.files.get? (name :: directory) = some (.file old))
    (content : ByteArray) :
    workspace.apply (.writeFile (base.join ⟨name⟩) content) =
      .ok (workspace.files.put name directory (.file content)) := by
  simp only [apply, find_file hname hreach hlookup hentry]
  rfl

theorem apply_removeFile {old : ByteArray} (hname : IsName name)
    (hreach : workspace.reach base = .ok directory)
    (hlookup : lookupRefusal? workspace.files directory (base.join ⟨name⟩) name = none)
    (hentry : workspace.files.get? (name :: directory) = some (.file old)) :
    workspace.apply (.removeFile (base.join ⟨name⟩)) =
      .ok (workspace.files.erase (name :: directory)) := by
  simp only [apply, find_file hname hreach hlookup hentry]
  rfl

theorem apply_moveFile {outer : Path} {source : String} {content : ByteArray}
    (hsource : IsName source) (hname : IsName name)
    (houter : workspace.reach outer = .ok directory)
    (hreach : workspace.reach base = .ok directory)
    (hlookup : lookupRefusal? workspace.files directory (outer.join ⟨source⟩) source = none)
    (hentry : workspace.files.get? (source :: directory) = some (.file content)) :
    workspace.apply (.moveFile (outer.join ⟨source⟩) (base.join ⟨name⟩)) =
      match writeRefusal? workspace.files directory (base.join ⟨name⟩) name with
      | some refusal => .error refusal
      | none => .ok ((workspace.files.erase (source :: directory)).put name directory
          (.file content)) := by
  unfold writeRefusal?
  simp only [apply, target_eq_of_reach hsource houter, hlookup, target_eq_of_reach hname hreach]
  cases lookupRefusal? workspace.files directory (base.join ⟨name⟩) name with
  | some refusal => rfl
  | none =>
    by_cases hfound : workspace.files.get? (name :: directory) = some .directory
    · simp [hentry, hfound, Bind.bind, Except.bind]
    · simp [hentry, hfound, Bind.bind, Except.bind]

end

/-! ## The temporary file -/

/-- The workspace with some content in the temporary file of a name. -/
def withTemporary (workspace : Workspace) (directory : Place) (name : String)
    (content : ByteArray) : Workspace :=
  { workspace with
    files := workspace.files.put (temporaryName name) directory (.file content) }

/-- The workspace without the temporary file of a name. -/
def withoutTemporary (workspace : Workspace) (directory : Place) (name : String) : Workspace :=
  { workspace with files := workspace.files.erase (temporaryName name :: directory) }

/-- The workspace with the temporary file of a name moved to the name itself. -/
def withFile (workspace : Workspace) (directory : Place) (name : String)
    (content : ByteArray) : Workspace :=
  { workspace with
    files := (withoutTemporary workspace directory name).files.put name directory
      (.file content) }

section

variable {workspace : Workspace} {base : Path} {name : String} {directory : Place}

/-- The temporary file of a name can be written. -/
def Opens (workspace : Workspace) (base : Path) (directory : Place) (name : String) : Prop :=
  writeRefusal? workspace.files directory (base.holder.join ⟨temporaryName name⟩)
    (temporaryName name) = none

theorem reach_holder (hreach : workspace.reach base = .ok directory) :
    workspace.reach base.holder = .ok directory := by
  rwa [reach, start, route_holder, isAbsolute_holder]

theorem get?_withTemporary (hopens : Opens workspace base directory name)
    (content : ByteArray) (place : Place) :
    (withTemporary workspace directory name content).files.get? place =
      if temporaryName name :: directory = place then some (.file content)
      else workspace.files.get? place :=
  FileSystem.get?_put (admits_of_writeRefusal? hopens content)

theorem get?_withoutTemporary (hopens : Opens workspace base directory name) (place : Place) :
    (withoutTemporary workspace directory name).files.get? place =
      if temporaryName name :: directory = place then none else workspace.files.get? place :=
  FileSystem.get?_erase (writeRefusal?_eq_none_iff.1 hopens).2

/-- A file that was moved into place, and no temporary file beside it. -/
theorem get?_withFile
    (htemporary : workspace.files.get? (temporaryName name :: directory) ≠ some .directory)
    (hdirectory : workspace.files.get? directory = some .directory)
    (hname : workspace.files.get? (name :: directory) ≠ some .directory) (content : ByteArray)
    (place : Place) :
    (withFile workspace directory name content).files.get? place =
      if name :: directory = place then some (.file content)
      else if temporaryName name :: directory = place then none
      else workspace.files.get? place := by
  have hadmits : (workspace.files.erase (temporaryName name :: directory)).Admits name directory
      (.file content) := by
    refine ⟨?_, fun h => absurd ?_ hname⟩
    · rw [FileSystem.get?_erase htemporary, if_neg (List.cons_ne_self _ _), hdirectory]
    · rw [FileSystem.get?_erase htemporary] at h
      split at h
      next => cases h
      next => exact h
  rw [withFile, withoutTemporary, FileSystem.get?_put hadmits, FileSystem.get?_erase htemporary]

/-- A temporary file is in the way of no directory. -/
theorem withTemporary_directory_iff (hopens : Opens workspace base directory name)
    (content : ByteArray) (place : Place) :
    (withTemporary workspace directory name content).files.get? place = some .directory ↔
      workspace.files.get? place = some .directory := by
  rw [get?_withTemporary hopens]
  split
  next hplace => simp [← hplace, (writeRefusal?_eq_none_iff.1 hopens).2]
  next => rfl

theorem reach_withTemporary (hopens : Opens workspace base directory name)
    (hreach : workspace.reach base = .ok directory) (content : ByteArray) :
    (withTemporary workspace directory name content).reach base = .ok directory := by
  have hcurrent : (withTemporary workspace directory name content).current =
      workspace.current := rfl
  exact reach_of_directories hcurrent
    (fun place => (withTemporary_directory_iff hopens content place).2) hreach

theorem get?_directory_withTemporary (hopens : Opens workspace base directory name)
    (content : ByteArray) :
    (withTemporary workspace directory name content).files.get? directory =
      workspace.files.get? directory := by
  rw [get?_withTemporary hopens, if_neg (List.cons_ne_self _ _)]

theorem writeRefusal?_withTemporary (hopens : Opens workspace base directory name)
    (content : ByteArray) (path : Path) (other : String) :
    writeRefusal? (withTemporary workspace directory name content).files directory path other =
      writeRefusal? workspace.files directory path other :=
  writeRefusal?_congr (get?_directory_withTemporary hopens content)
    (withTemporary_directory_iff hopens content _) path

theorem opens_withTemporary (hopens : Opens workspace base directory name)
    (content : ByteArray) :
    Opens (withTemporary workspace directory name content) base directory name := by
  rw [Opens, writeRefusal?_withTemporary hopens]
  exact hopens

/-- The last content of the temporary file counts. -/
theorem withTemporary_withTemporary (hopens : Opens workspace base directory name)
    (first second : ByteArray) :
    withTemporary (withTemporary workspace directory name first) directory name second =
      withTemporary workspace directory name second := by
  refine Workspace.ext_get? rfl fun place => ?_
  rw [get?_withTemporary (opens_withTemporary hopens first), get?_withTemporary hopens,
    get?_withTemporary hopens]
  split <;> rfl

theorem withoutTemporary_withTemporary (hopens : Opens workspace base directory name)
    (content : ByteArray) :
    withoutTemporary (withTemporary workspace directory name content) directory name =
      withoutTemporary workspace directory name := by
  refine Workspace.ext_get? rfl fun place => ?_
  rw [get?_withoutTemporary (opens_withTemporary hopens content), get?_withTemporary hopens,
    get?_withoutTemporary hopens]
  split <;> rfl

/-! ## Primitive steps -/

theorem perform_createTemporary (hname : IsName name)
    (hreach : workspace.reach base = .ok directory)
    (hopens : Opens workspace base directory name) :
    workspace.perform (.createFile (base.holder.join ⟨temporaryName name⟩)) =
      (.ok (), withTemporary workspace directory name .empty) := by
  refine perform_of_ok ?_
  rw [apply_createFile hname.temporary (reach_holder hreach)]
  change (match writeRefusal? _ _ _ (temporaryName name) with | some _ => _ | none => _) = _
  rw [show writeRefusal? _ _ _ _ = none from hopens]

theorem perform_writeTemporary (hname : IsName name)
    (hreach : workspace.reach base = .ok directory)
    (hopens : Opens workspace base directory name) (old content : ByteArray) :
    (withTemporary workspace directory name old).perform
        (.writeFile (base.holder.join ⟨temporaryName name⟩) content) =
      (.ok (), withTemporary workspace directory name content) := by
  have hentry : (withTemporary workspace directory name old).files.get?
      (temporaryName name :: directory) = some (.file old) := by
    rw [get?_withTemporary hopens, if_pos rfl]
  have hlookup := (writeRefusal?_eq_none_iff.1 (opens_withTemporary hopens old)).1
  rw [perform_of_ok (apply_writeFile hname.temporary
    (reach_holder (reach_withTemporary hopens hreach old)) hlookup hentry content)]
  exact congrArg (Prod.mk _) (withTemporary_withTemporary hopens old content)

/-- In the middle of a write only the temporary file is unfinished. -/
theorem during_writeTemporary (hname : IsName name)
    (hreach : workspace.reach base = .ok directory)
    (hopens : Opens workspace base directory name) (old content : ByteArray) {state : Workspace}
    (hstate : state ∈ (withTemporary workspace directory name old).during
      (.writeFile (base.holder.join ⟨temporaryName name⟩) content)) :
    ∃ part, state = withTemporary workspace directory name part := by
  obtain ⟨size, -, rfl⟩ := List.mem_map.1 hstate
  exact ⟨content.extract 0 size, by rw [perform_writeTemporary hname hreach hopens]⟩

theorem perform_moveTemporary (hname : IsName name)
    (hreach : workspace.reach base = .ok directory)
    (hopens : Opens workspace base directory name) (content : ByteArray) :
    (withTemporary workspace directory name content).perform
        (.moveFile (base.holder.join ⟨temporaryName name⟩) (base.join ⟨name⟩)) =
      match writeRefusal? workspace.files directory (base.join ⟨name⟩) name with
      | some refusal => (.error refusal, withTemporary workspace directory name content)
      | none => (.ok (), withFile workspace directory name content) := by
  have hentry : (withTemporary workspace directory name content).files.get?
      (temporaryName name :: directory) = some (.file content) := by
    rw [get?_withTemporary hopens, if_pos rfl]
  have hlookup := (writeRefusal?_eq_none_iff.1 (opens_withTemporary hopens content)).1
  have hreached := reach_withTemporary hopens hreach content
  have happly := apply_moveFile hname.temporary hname (reach_holder hreached) hreached hlookup
    hentry
  rw [writeRefusal?_withTemporary hopens] at happly
  cases hwrite : writeRefusal? workspace.files directory (base.join ⟨name⟩) name with
  | some refusal =>
    rw [hwrite] at happly
    exact perform_of_error happly
  | none =>
    rw [hwrite] at happly
    rw [perform_of_ok happly]
    have hwithout := withoutTemporary_withTemporary hopens content
    simp only [withoutTemporary, Workspace.mk.injEq] at hwithout
    simp only [hwithout.1, hwithout.2, withFile, withoutTemporary]

theorem perform_removeTemporary (hname : IsName name)
    (hreach : workspace.reach base = .ok directory)
    (hopens : Opens workspace base directory name) (content : ByteArray) :
    (withTemporary workspace directory name content).perform
        (.removeFile (base.holder.join ⟨temporaryName name⟩)) =
      (.ok (), withoutTemporary workspace directory name) := by
  have hentry : (withTemporary workspace directory name content).files.get?
      (temporaryName name :: directory) = some (.file content) := by
    rw [get?_withTemporary hopens, if_pos rfl]
  have hlookup := (writeRefusal?_eq_none_iff.1 (opens_withTemporary hopens content)).1
  rw [perform_of_ok (apply_removeFile hname.temporary
    (reach_holder (reach_withTemporary hopens hreach content)) hlookup hentry)]
  exact congrArg (Prod.mk _) (withoutTemporary_withTemporary hopens content)

theorem present_temporary (hname : IsName name)
    (hreach : workspace.reach base = .ok directory)
    (hopens : Opens workspace base directory name) (content : ByteArray) :
    (withTemporary workspace directory name content).present
      (base.holder.join ⟨temporaryName name⟩) = true := by
  have hentry : (withTemporary workspace directory name content).files.get?
      (temporaryName name :: directory) = some (.file content) := by
    rw [get?_withTemporary hopens, if_pos rfl]
  have hlookup := (writeRefusal?_eq_none_iff.1 (opens_withTemporary hopens content)).1
  rw [present, find_file hname.temporary
    (reach_holder (reach_withTemporary hopens hreach content)) hlookup hentry]

/-- Where the temporary file cannot be opened, there is none to clear. -/
theorem run_clearTemporary_of_refused {refusal : SystemError} (hname : IsName name)
    (hreach : workspace.reach base = .ok directory)
    (hrefused : writeRefusal? workspace.files directory
      (base.holder.join ⟨temporaryName name⟩) (temporaryName name) = some refusal) :
    (clearTemporary (base.holder.join ⟨temporaryName name⟩)).run workspace =
      ((), workspace) := by
  have htarget := target_eq_of_reach hname.temporary (reach_holder hreach)
  rw [clearTemporary, Program.run_if (Program.run_present _ workspace), Program.run_bind,
    Program.run_perform]
  cases hlookup : lookupRefusal? workspace.files directory
      (base.holder.join ⟨temporaryName name⟩) (temporaryName name) with
  | some other =>
    rw [hlookup] at htarget
    simp [present, find_of_target, htarget, Except.bind]
  | none =>
    have hentry : workspace.files.get? (temporaryName name :: directory) = some .directory := by
      simp only [writeRefusal?, hlookup] at hrefused
      split at hrefused
      next hentry => exact hentry
      next => cases hrefused
    rw [hlookup] at htarget
    have happly : workspace.apply (.removeFile (base.holder.join ⟨temporaryName name⟩)) =
        .error .isDirectory := by
      simp [apply, find_of_target, htarget, hentry, Bind.bind, Except.bind]
    rw [perform_of_error happly]
    split <;> rfl

theorem run_clearTemporary (hname : IsName name) (hreach : workspace.reach base = .ok directory)
    (hopens : Opens workspace base directory name) (content : ByteArray) :
    (clearTemporary (base.holder.join ⟨temporaryName name⟩)).run
        (withTemporary workspace directory name content) =
      ((), withoutTemporary workspace directory name) := by
  rw [clearTemporary, Program.run_if (Program.run_present _ _),
    present_temporary hname hreach hopens, Program.run_bind, Program.run_perform,
    perform_removeTemporary hname hreach hopens]
  rfl

end

/-! ## Verdicts -/

/-- The course that a replacement takes in a ready directory. -/
inductive Verdict
  /-- The temporary file cannot be opened, and nothing happens. -/
  | refused (failure : Failure)
  /-- The finished file cannot be moved, and is removed. -/
  | givenUp (failure : Failure)
  /-- The file is written. -/
  | written

namespace Verdict

/-- What the replacement answers. -/
def answer : Verdict → Except Failure Unit
  | refused failure => .error failure
  | givenUp failure => .error failure
  | written => .ok ()

/-- The workspace that the replacement leaves. -/
def after (workspace : Workspace) (directory : Place) (name : String) (content : ByteArray) :
    Verdict → Workspace
  | refused _ => workspace
  | givenUp _ => withoutTemporary workspace directory name
  | written => withFile workspace directory name content

/-- The name gets its content. -/
def writes : Verdict → Bool
  | written => true
  | _ => false

/-- No temporary file stays behind. -/
def clears : Verdict → Bool
  | refused _ => false
  | _ => true

theorem clears_of_writes {verdict : Verdict} (hwrites : verdict.writes = true) :
    verdict.clears = true := by
  cases verdict <;> simp_all [writes, clears]

theorem writes_iff {verdict : Verdict} : verdict.writes = true ↔ verdict = .written := by
  cases verdict <;> simp [writes]

theorem answer_of_writes {verdict : Verdict} (hwrites : verdict.writes = true) :
    verdict.answer = .ok () := by
  cases verdict <;> simp_all [writes, answer]

theorem writes_of_answer {verdict : Verdict} (hanswer : verdict.answer = .ok ()) :
    verdict.writes = true := by
  cases verdict <;> simp_all [writes, answer]

theorem answer_of_not_writes {verdict : Verdict} (hwrites : verdict.writes = false) :
    ∃ failure, verdict.answer = .error failure := by
  cases verdict <;> simp_all [writes, answer]

/-- The workspace in which a failed replacement starts to clear. -/
def beforeClearing (workspace : Workspace) (directory : Place) (name : String)
    (content : ByteArray) : Verdict → Workspace
  | refused _ => workspace
  | givenUp _ => withTemporary workspace directory name content
  | written => withFile workspace directory name content

end Verdict

/-- The verdict on a name in a directory. -/
def verdictIn (files : FileSystem) (directory : Place) (base : Path) (name : String) : Verdict :=
  let temporary := base.holder.join ⟨temporaryName name⟩
  match writeRefusal? files directory temporary (temporaryName name) with
  | some refusal =>
      .refused (Failure.ofSystem ("Failed to create temp file: " ++ temporary.text ++
        "\n\nCheck file permissions and that directory exists") refusal)
  | none =>
      match writeRefusal? files directory (base.join ⟨name⟩) name with
      | some refusal =>
          .givenUp (Failure.ofSystem
            ("Failed to rename temp file to: " ++ (base.join ⟨name⟩).text) refusal)
      | none => .written

section

variable {workspace : Workspace} {base : Path} {name : String} {directory : Place}

theorem verdictIn_of_refused {files : FileSystem} {refusal : SystemError}
    (hrefused : writeRefusal? files directory (base.holder.join ⟨temporaryName name⟩)
      (temporaryName name) = some refusal) :
    verdictIn files directory base name =
      .refused (Failure.ofSystem ("Failed to create temp file: " ++
        (base.holder.join ⟨temporaryName name⟩).text ++
          "\n\nCheck file permissions and that directory exists") refusal) := by
  simp only [verdictIn, hrefused]

theorem verdictIn_of_givenUp {refusal : SystemError}
    (hopens : Opens workspace base directory name)
    (hrefused : writeRefusal? workspace.files directory (base.join ⟨name⟩) name =
      some refusal) :
    verdictIn workspace.files directory base name =
      .givenUp (Failure.ofSystem
        ("Failed to rename temp file to: " ++ (base.join ⟨name⟩).text) refusal) := by
  rw [Opens] at hopens
  simp only [verdictIn, hopens, hrefused]

theorem verdictIn_eq_written_iff :
    verdictIn workspace.files directory base name = .written ↔
      Opens workspace base directory name ∧
        writeRefusal? workspace.files directory (base.join ⟨name⟩) name = none := by
  cases hopens : writeRefusal? workspace.files directory
      (base.holder.join ⟨temporaryName name⟩) (temporaryName name) with
  | some refusal =>
    rw [verdictIn_of_refused hopens, Opens, hopens]
    simp
  | none =>
    cases hwrite : writeRefusal? workspace.files directory (base.join ⟨name⟩) name with
    | some refusal =>
      rw [verdictIn_of_givenUp hopens hwrite]
      simp
    | none => simp [verdictIn, Opens, hopens, hwrite]

theorem opens_of_verdictIn {failure : Failure}
    (hverdict : verdictIn workspace.files directory base name = .givenUp failure) :
    Opens workspace base directory name := by
  cases hopens : writeRefusal? workspace.files directory
      (base.holder.join ⟨temporaryName name⟩) (temporaryName name) with
  | some refusal =>
    rw [verdictIn_of_refused hopens] at hverdict
    cases hverdict
  | none => exact hopens

theorem clears_verdictIn_iff :
    (verdictIn workspace.files directory base name).clears = true ↔
      Opens workspace base directory name := by
  cases hopens : writeRefusal? workspace.files directory
      (base.holder.join ⟨temporaryName name⟩) (temporaryName name) with
  | some refusal =>
    rw [verdictIn_of_refused hopens, Opens, hopens]
    simp [Verdict.clears]
  | none =>
    refine iff_of_true ?_ hopens
    cases hwrite : writeRefusal? workspace.files directory (base.join ⟨name⟩) name with
    | some refusal =>
      rw [verdictIn_of_givenUp hopens hwrite]
      rfl
    | none =>
      rw [verdictIn_eq_written_iff.2 ⟨hopens, hwrite⟩]
      rfl

/-- The write and the move, before anything is cleared. -/
theorem outcome_writeAndMove (hname : IsName name)
    (hreach : workspace.reach base = .ok directory) (content : ByteArray) :
    (writeAndMove (base.join ⟨name⟩) (base.holder.join ⟨temporaryName name⟩) content).outcome
        workspace =
      ((verdictIn workspace.files directory base name).answer,
        (verdictIn workspace.files directory base name).beforeClearing workspace directory name
          content) := by
  simp only [writeAndMove, Attempt.outcome_bind, Attempt.outcome_during, Program.run_perform]
  cases hopens : writeRefusal? workspace.files directory
      (base.holder.join ⟨temporaryName name⟩) (temporaryName name) with
  | some refusal =>
    have hcreate := apply_createFile hname.temporary (reach_holder hreach)
    rw [hopens] at hcreate
    simp only [perform_of_error hcreate, mapError_error, verdictIn_of_refused hopens]
    rfl
  | none =>
    simp only [perform_createTemporary hname hreach hopens, mapError_ok,
      perform_writeTemporary hname hreach hopens, perform_moveTemporary hname hreach hopens]
    cases hwrite : writeRefusal? workspace.files directory (base.join ⟨name⟩) name with
    | some refusal =>
      rw [verdictIn_of_givenUp hopens hwrite]
      rfl
    | none =>
      rw [verdictIn_eq_written_iff.2 ⟨hopens, hwrite⟩]
      rfl

/-- What a failure leaves is cleared. -/
theorem run_clearTemporary_of_error {failure : Failure} (hname : IsName name)
    (hreach : workspace.reach base = .ok directory) (content : ByteArray)
    (hanswer : (verdictIn workspace.files directory base name).answer = .error failure) :
    ((clearTemporary (base.holder.join ⟨temporaryName name⟩)).run
        ((verdictIn workspace.files directory base name).beforeClearing workspace directory
          name content)).2 =
      (verdictIn workspace.files directory base name).after workspace directory name
        content := by
  cases hverdict : verdictIn workspace.files directory base name with
  | refused other =>
    cases hopens : writeRefusal? workspace.files directory
        (base.holder.join ⟨temporaryName name⟩) (temporaryName name) with
    | some refusal => exact congrArg Prod.snd (run_clearTemporary_of_refused hname hreach hopens)
    | none =>
      cases hwrite : writeRefusal? workspace.files directory (base.join ⟨name⟩) name with
      | some refusal => simp [verdictIn_of_givenUp hopens hwrite] at hverdict
      | none => simp [verdictIn_eq_written_iff.2 ⟨hopens, hwrite⟩] at hverdict
  | givenUp other =>
    exact congrArg Prod.snd
      (run_clearTemporary hname hreach (opens_of_verdictIn hverdict) content)
  | written =>
    rw [hverdict] at hanswer
    cases hanswer

/-- What a replacement in a ready directory comes to. -/
theorem outcome_replaceContent_of_ready (hready : Ready base workspace)
    (hreach : workspace.reach base = .ok directory) (hname : IsName name)
    (content : ByteArray) :
    (replaceContent (base.join ⟨name⟩) content).outcome workspace =
      ((verdictIn workspace.files directory base name).answer,
        (verdictIn workspace.files directory base name).after workspace directory name
          content) := by
  rw [replaceContent, Attempt.outcome_bind, requireParent_join hname,
    outcome_prepare_of_ready hready, temporaryPath_join hname]
  simp only [Attempt.outcome_bind, Attempt.outcome_always, Attempt.run_eq_outcome,
    outcome_writeAndMove hname hreach]
  cases hanswer : (verdictIn workspace.files directory base name).answer with
  | ok =>
    cases hverdict : verdictIn workspace.files directory base name with
    | refused failure => simp [hverdict, Verdict.answer] at hanswer
    | givenUp failure => simp [hverdict, Verdict.answer] at hanswer
    | written => rfl
  | error failure =>
    simp only [Attempt.outcome_bind, Attempt.outcome_always, Attempt.outcome_throw,
      run_clearTemporary_of_error hname hreach content hanswer]

/-! ## States -/

/-- What is seen of a replacement in a ready directory. -/
def Seen (workspace : Workspace) (directory : Place) (base : Path) (name : String)
    (content : ByteArray) (state : Workspace) : Prop :=
  state = workspace ∨ Opens workspace base directory name ∧
    ((∃ part, state = withTemporary workspace directory name part) ∨
      state = withoutTemporary workspace directory name ∨
      verdictIn workspace.files directory base name = .written ∧
        state = withFile workspace directory name content)

theorem writeAndMove_states (hname : IsName name)
    (hreach : workspace.reach base = .ok directory) (content : ByteArray) :
    ∀ state ∈ (writeAndMove (base.join ⟨name⟩) (base.holder.join ⟨temporaryName name⟩)
      content).states workspace, Seen workspace directory base name content state := by
  have hpart (hopens : Opens workspace base directory name) (part : ByteArray) :
      Seen workspace directory base name content (withTemporary workspace directory name part) :=
    .inr ⟨hopens, .inl ⟨part, rfl⟩⟩
  unfold writeAndMove
  cases hopens : writeRefusal? workspace.files directory
      (base.holder.join ⟨temporaryName name⟩) (temporaryName name) with
  | some refusal =>
    have hcreate := apply_createFile hname.temporary (reach_holder hreach)
    rw [hopens] at hcreate
    refine Attempt.forall_states_then.2 ⟨(Attempt.forall_states_during _ _ _).2 ?_, ?_⟩
    · rw [Program.forall_states_perform, perform_of_error hcreate]
      exact ⟨.inl rfl, nofun, .inl rfl⟩
    · simp [Attempt.outcome_during, perform_of_error hcreate, mapError_error]
  | none =>
    have hcreate := perform_createTemporary hname hreach hopens
    have hwrite := perform_writeTemporary hname hreach hopens .empty content
    have hmove := perform_moveTemporary hname hreach hopens content
    refine Attempt.forall_states_then.2 ⟨(Attempt.forall_states_during _ _ _).2 ?_, ?_⟩
    · rw [Program.forall_states_perform, hcreate]
      exact ⟨.inl rfl, nofun, hpart hopens _⟩
    intro _ created hcreated
    rw [Attempt.outcome_during, Program.run_perform, hcreate] at hcreated
    obtain ⟨-, rfl⟩ := Prod.mk.inj hcreated
    refine Attempt.forall_states_then.2 ⟨(Attempt.forall_states_during _ _ _).2 ?_, ?_⟩
    · rw [Program.forall_states_perform, hwrite]
      refine ⟨hpart hopens _, fun state hstate => ?_, hpart hopens _⟩
      obtain ⟨part, rfl⟩ := during_writeTemporary hname hreach hopens _ _ hstate
      exact hpart hopens part
    intro _ filled hfilled
    rw [Attempt.outcome_during, Program.run_perform, hwrite] at hfilled
    obtain ⟨-, rfl⟩ := Prod.mk.inj hfilled
    refine (Attempt.forall_states_during _ _ _).2 ?_
    rw [Program.forall_states_perform, hmove]
    refine ⟨hpart hopens _, nofun, ?_⟩
    cases hverdict : writeRefusal? workspace.files directory (base.join ⟨name⟩) name with
    | some refusal => exact hpart hopens _
    | none =>
      exact .inr ⟨hopens, .inr (.inr ⟨verdictIn_eq_written_iff.2 ⟨hopens, hverdict⟩, rfl⟩)⟩

/-- Clearing takes one step at most. -/
theorem clearTemporary_states {temporary : Path} {reached : Workspace}
    {holds : Workspace → Prop} (hstart : holds reached)
    (hend : holds ((clearTemporary temporary).run reached).2) :
    ∀ state ∈ (clearTemporary temporary).states reached, holds state := by
  rw [clearTemporary, Program.run_if (Program.run_present temporary reached), Program.run_bind,
    Program.run_perform] at hend
  unfold clearTemporary
  refine Program.forall_states_bind.2 ⟨?_, ?_⟩
  · intro state hstate
    rw [List.mem_singleton.1 hstate]
    exact hstart
  rw [Program.run_question]
  change ∀ state ∈ Program.states (if reached.present temporary = true then _ else _) reached, _
  split
  next hpresent =>
    rw [if_pos hpresent] at hend
    refine Program.forall_states_bind.2 ⟨Program.forall_states_perform.2
      ⟨hstart, nofun, hend⟩, ?_⟩
    intro state hstate
    rw [List.mem_singleton.1 hstate]
    exact hend
  next =>
    intro state hstate
    rw [List.mem_singleton.1 hstate]
    exact hstart

/-- Along a replacement in a ready directory nothing else is seen. -/
theorem replaceContent_states (hready : Ready base workspace)
    (hreach : workspace.reach base = .ok directory) (hname : IsName name)
    (content : ByteArray) :
    ∀ state ∈ (replaceContent (base.join ⟨name⟩) content).states workspace,
      Seen workspace directory base name content state := by
  have hend := Program.run_mem_states (ExceptT.run (writeAndMove (base.join ⟨name⟩)
    (base.holder.join ⟨temporaryName name⟩) content)) workspace
  have hmoves := writeAndMove_states hname hreach content
  have hbefore := hmoves _ hend
  unfold replaceContent
  rw [requireParent_join hname, temporaryPath_join hname]
  refine Attempt.forall_states_then.2 ⟨?_, ?_⟩
  · intro state hstate
    exact .inl (prepare_states_of_ready hready state hstate)
  intro _ prepared hprepared
  rw [outcome_prepare_of_ready hready] at hprepared
  obtain ⟨-, rfl⟩ := Prod.mk.inj hprepared
  refine Attempt.forall_states_then.2 ⟨(Attempt.forall_states_always _ _).2 hmoves, ?_⟩
  intro answer moved hmoved
  rw [Attempt.outcome_always, Attempt.run_eq_outcome, outcome_writeAndMove hname hreach]
    at hmoved
  rw [Attempt.run_eq_outcome, outcome_writeAndMove hname hreach] at hbefore
  obtain ⟨hanswer, rfl⟩ := Prod.mk.inj hmoved
  cases answer with
  | ok =>
    intro state hstate
    rw [List.mem_singleton.1 hstate]
    exact hbefore
  | error failure =>
    have hcleared := run_clearTemporary_of_error hname hreach content (Except.ok.inj hanswer)
    have hafter : Seen workspace directory base name content
        ((verdictIn workspace.files directory base name).after workspace directory name
          content) := by
      cases hverdict : verdictIn workspace.files directory base name with
      | refused other => exact .inl rfl
      | givenUp other => exact .inr ⟨opens_of_verdictIn hverdict, .inr (.inl rfl)⟩
      | written =>
        rw [hverdict] at hbefore
        exact hbefore
    refine Attempt.forall_states_then.2 ⟨(Attempt.forall_states_always _ _).2
      (clearTemporary_states hbefore (hcleared ▸ hafter)), ?_⟩
    intro _ cleared hclear state hstate
    rw [List.mem_singleton.1 hstate]
    rw [Attempt.outcome_always, hcleared] at hclear
    rw [← (Prod.mk.inj hclear).2]
    exact hafter

/-- No name beside the temporary one is touched but the name itself, which holds what it held or
all of its new content. -/
theorem Seen.beside {content : ByteArray} {state : Workspace}
    (hseen : Seen workspace directory base name content state) :
    state.current = workspace.current ∧ ∀ other, other ≠ temporaryName name →
      state.files.get? (other :: directory) = workspace.files.get? (other :: directory) ∨
        other = name ∧ state.files.get? (other :: directory) = some (.file content) := by
  rcases hseen with rfl | ⟨hopens, ⟨part, rfl⟩ | rfl | ⟨hwritten, rfl⟩⟩
  · exact ⟨rfl, fun other _ => .inl rfl⟩
  · refine ⟨rfl, fun other hother => .inl ?_⟩
    have hplace : temporaryName name :: directory ≠ other :: directory :=
      fun h => hother (List.cons.inj h).1.symm
    rw [get?_withTemporary hopens, if_neg hplace]
  · refine ⟨rfl, fun other hother => .inl ?_⟩
    have hplace : temporaryName name :: directory ≠ other :: directory :=
      fun h => hother (List.cons.inj h).1.symm
    rw [get?_withoutTemporary hopens, if_neg hplace]
  · refine ⟨rfl, fun other hother => ?_⟩
    have hplace : temporaryName name :: directory ≠ other :: directory :=
      fun h => hother (List.cons.inj h).1.symm
    have hwrite := writeRefusal?_eq_none_iff.1 (verdictIn_eq_written_iff.1 hwritten).2
    rw [get?_withFile (writeRefusal?_eq_none_iff.1 hopens).2
      (directory_of_lookupRefusal? hwrite.1) hwrite.2]
    by_cases hsame : other = name
    · exact .inr ⟨hsame, if_pos (by rw [hsame])⟩
    · rw [if_neg fun h => hsame (List.cons.inj h).1.symm, if_neg hplace]
      exact .inl rfl

end

end RecipeMatrix.Files
