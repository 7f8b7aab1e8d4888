import RecipeMatrix.Files.FileSystem
import RecipeMatrix.Path

/-!
# Workspaces

A file system together with the directory that relative paths start from, and what the single
operations on it see and do.  There are no links: `..` leads to the directory that holds the
one reached so far.  Every name on the way has to be a directory.  The current directory may have
been removed; it can still be stood on and left, but no name is found or made in it.

An operation that is refused changes nothing (`perform_of_error`).
-/

namespace RecipeMatrix

/-- A file system and the current directory. -/
structure Workspace where
  files : FileSystem
  current : Place

/-- The absolute path of a place. -/
def Place.path (place : Place) : Path := ⟨"/" ++ "/".intercalate place.reverse⟩

namespace Workspace

/-- A workspace is determined by its entries and its current directory. -/
theorem ext_get? {first second : Workspace} (hcurrent : first.current = second.current)
    (hentry : ∀ place, first.files.get? place = second.files.get? place) : first = second := by
  obtain ⟨files, current⟩ := first
  obtain rfl : current = second.current := hcurrent
  exact congrArg (Workspace.mk · second.current) (FileSystem.ext_get? hentry)

/-- The longest name, in bytes. -/
def maxNameSize : Nat := 255

/-- The longest path, in bytes. -/
def maxPathSize : Nat := 4095

/-- The number of bytes of a name. -/
def byteSize (name : List Char) : Nat := (String.ofList name).utf8ByteSize

/-- The place itself, if it is a directory. -/
def directoryAt (files : FileSystem) (place : Place) : Except SystemError Place :=
  match files.get? place with
  | none => .error .notFound
  | some (.file _) => .error .notDirectory
  | some .directory => .ok place

/-- A name that can be looked for in a directory: the directory is there, and the name is not too
long. -/
def nameIn (files : FileSystem) (directory : Place) (name : List Char) :
    Except SystemError String := do
  let _ ← directoryAt files directory
  if maxNameSize < byteSize name then .error .nameTooLong else .ok (String.ofList name)

/-- The directory that a list of parts leads to; every name among them is a directory. -/
def walk (files : FileSystem) : Place → List (List Char) → Except SystemError Place
  | place, [] => .ok place
  | place, part :: parts =>
      if Path.leadsNowhere part then walk files place parts
      else if part = ['.', '.'] then walk files place.tail parts
      else do
        let name ← nameIn files place part
        let inner ← directoryAt files (name :: place)
        walk files inner parts

/-- What a path points at: a name in a directory, or a directory reached by `.`, `..` or `/`. -/
inductive Target
  | name (directory : Place) (name : String) (asDirectory : Bool)
  | directory (place : Place)

/-- The target of a path.  All but the last part must lead through directories; a slash at the
end says that the last part should be a directory too. -/
def target (workspace : Workspace) (path : Path) : Except SystemError Target :=
  if path.isEmpty then .error .notFound
  else if path.chars.contains '\x00' then .error .nullInName
  else if maxPathSize < byteSize path.chars then .error .nameTooLong
  else
    let start := if path.isAbsolute then [] else workspace.current
    match path.parts.reverse.dropWhile List.isEmpty with
    | [] => .ok (.directory [])
    | last :: before => do
        let directory ← walk workspace.files start before.reverse
        if last = ['.'] then .ok (.directory directory)
        else if last = ['.', '.'] then .ok (.directory directory.tail)
        else
          let name ← nameIn workspace.files directory last
          .ok (.name directory name (path.chars.getLast? == some '/'))

/-- The entry that a path names, and its place. -/
def find (workspace : Workspace) (path : Path) : Except SystemError (Place × Entry) := do
  match ← workspace.target path with
  | .directory place => .ok (place, .directory)
  | .name directory name asDirectory =>
      match workspace.files.get? (name :: directory) with
      | none => .error .notFound
      | some .directory => .ok (name :: directory, .directory)
      | some (.file content) =>
          if asDirectory then .error .notDirectory else .ok (name :: directory, .file content)

/-! ## What can be asked -/

/-- Something stands at a path. -/
def present (workspace : Workspace) (path : Path) : Bool :=
  match workspace.find path with
  | .ok _ => true
  | .error _ => false

/-- A file stands at a path. -/
def isFile (workspace : Workspace) (path : Path) : Bool :=
  match workspace.find path with
  | .ok (_, .file _) => true
  | _ => false

/-- A directory stands at a path. -/
def isDirectory (workspace : Workspace) (path : Path) : Bool :=
  match workspace.find path with
  | .ok (_, .directory) => true
  | _ => false

/-- The content of the file at a path. -/
def content (workspace : Workspace) (path : Path) : Except SystemError ByteArray := do
  match ← workspace.find path with
  | (_, .file content) => .ok content
  | (_, .directory) => .error .isDirectory

/-- The absolute path of the current directory. -/
def currentPath (workspace : Workspace) : Except SystemError Path := do
  let place ← directoryAt workspace.files workspace.current
  .ok (Place.path place)

/-! ## What can be changed -/

/-- The primitive changes. -/
inductive Change
  /-- Make one directory. -/
  | makeDirectory (path : Path)
  /-- Make an empty file, or empty the one that is there. -/
  | createFile (path : Path)
  /-- Give a file its content. -/
  | writeFile (path : Path) (content : ByteArray)
  /-- Move a file to another name, in the place of a file that is there. -/
  | moveFile (source target : Path)
  /-- Remove a file. -/
  | removeFile (path : Path)

/-- The file system after one change, or why it is refused. -/
def apply (workspace : Workspace) : Change → Except SystemError FileSystem
  | .makeDirectory path => do
      match ← workspace.target path with
      | .directory _ => .error .alreadyExists
      | .name directory name _ =>
          match workspace.files.get? (name :: directory) with
          | some _ => .error .alreadyExists
          | none => .ok (workspace.files.put name directory .directory)
  | .createFile path => do
      match ← workspace.target path with
      | .directory _ => .error .isDirectory
      | .name directory name asDirectory =>
          if asDirectory || workspace.files.get? (name :: directory) == some .directory then
            .error .isDirectory
          else .ok (workspace.files.put name directory (.file .empty))
  | .writeFile path content => do
      match ← workspace.find path with
      | (name :: directory, .file _) => .ok (workspace.files.put name directory (.file content))
      | _ => .error .isDirectory
  | .moveFile source destination => do
      let fromTarget ← workspace.target source
      let toTarget ← workspace.target destination
      match fromTarget, toTarget with
      | .name fromDirectory fromName fromAsDirectory, .name toDirectory toName toAsDirectory =>
          match workspace.files.get? (fromName :: fromDirectory) with
          | none => .error .notFound
          | some .directory => .error .isDirectory
          | some (.file content) =>
              if fromAsDirectory || toAsDirectory then .error .notDirectory
              else if workspace.files.get? (toName :: toDirectory) == some .directory then
                .error .isDirectory
              else
                let without := workspace.files.erase (fromName :: fromDirectory)
                .ok (without.put toName toDirectory (.file content))
      | _, _ => .error .busy
  | .removeFile path => do
      match ← workspace.find path with
      | (_, .directory) => .error .isDirectory
      | (place, .file _) => .ok (workspace.files.erase place)

/-- The answer to one change and the workspace after it. -/
def perform (workspace : Workspace) (change : Change) : Except SystemError Unit × Workspace :=
  match workspace.apply change with
  | .error error => (.error error, workspace)
  | .ok files => (.ok (), { workspace with files })

/-- The workspaces in the middle of one change: only a file that is being written is seen
unfinished, with any proper part of its content. -/
def during (workspace : Workspace) : Change → List Workspace
  | .writeFile path content =>
      (List.range content.size).map fun size =>
        (workspace.perform (.writeFile path (content.extract 0 size))).2
  | _ => []

theorem perform_of_error {workspace : Workspace} {change : Change} {error : SystemError}
    (herror : workspace.apply change = .error error) :
    workspace.perform change = (.error error, workspace) := by
  simp [perform, herror]

theorem perform_of_ok {workspace : Workspace} {change : Change} {files : FileSystem}
    (hok : workspace.apply change = .ok files) :
    workspace.perform change = (.ok (), { workspace with files }) := by
  simp [perform, hok]

@[simp]
theorem perform_current (workspace : Workspace) (change : Change) :
    (workspace.perform change).2.current = workspace.current := by
  cases h : workspace.apply change <;> simp [perform, h]

/-! ## Preparing a workspace -/

/-- An empty current directory with the given name below the root. -/
def fresh (name : String) : Workspace where
  files := FileSystem.empty.put name [] .directory
  current := [name]

/-- The workspace without the file or the whole directory at a path. -/
def discard (workspace : Workspace) (path : Path) : Except SystemError Workspace := do
  let (place, _) ← workspace.find path
  .ok { workspace with files := workspace.files.eraseTree place }

/-- The workspace seen from the directory at a path. -/
def enter (workspace : Workspace) (path : Path) : Except SystemError Workspace := do
  match ← workspace.find path with
  | (place, .directory) => .ok { workspace with current := place }
  | (_, .file _) => .error .notDirectory

/-- The workspace with a file put at a path, in a directory that exists. -/
def store (workspace : Workspace) (path : Path) (content : ByteArray) :
    Except SystemError Workspace := do
  let files ← workspace.apply (.createFile path)
  let created : Workspace := { workspace with files }
  let files ← created.apply (.writeFile path content)
  .ok { workspace with files }

end Workspace

end RecipeMatrix
