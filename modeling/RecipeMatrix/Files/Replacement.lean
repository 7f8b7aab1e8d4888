import RecipeMatrix.Files.Attempt

/-!
# Replacing files

How recipes and manifests get onto the disk: directories are made on demand, and a file is
written under a temporary name beside its final one and moved into place when it is complete.
Under the final name there is at any moment either the old content or all of the new one.
-/

namespace RecipeMatrix.Files

/-! ## Directories -/

/-- A refusal to make a directory does not matter if the directory is there. -/
def unlessDirectory (path : Path) (refusal : SystemError) :
    Program (Except SystemError Unit) := do
  if ← Program.question (.isDirectory path) then pure (.ok ()) else pure (.error refusal)

/-- Makes a directory; `outer` are its outer paths, the nearest first, which are made where they
are missing. -/
def makeWithOuter (path : Path) (outer : List Path) : Program (Except SystemError Unit) :=
  if path.isEmpty then pure (.ok ())
  else do
    match ← Program.perform (.makeDirectory path) with
    | .ok () => pure (.ok ())
    | .error .notFound =>
        match outer with
        | [] => pure (.error .noStartingPoint)
        | nearest :: further =>
            match ← makeWithOuter nearest further with
            | .error refusal => pure (.error refusal)
            | .ok () =>
                match ← Program.perform (.makeDirectory path) with
                | .ok () => pure (.ok ())
                | .error refusal => unlessDirectory path refusal
    | .error refusal => unlessDirectory path refusal

/-- Makes a directory and all directories on the way to it. -/
def makeDirectories (path : Path) : Program (Except SystemError Unit) :=
  makeWithOuter path path.outerPaths

/-- Makes sure that a path is a directory. -/
def requireDirectory (path : Path) : Attempt Failure Unit := do
  if ← Attempt.always (Program.question (.present path)) then
    if ← Attempt.always (Program.question (.isDirectory path)) then pure ()
    else throw (.ofMessage ("Path exists but is not a directory: " ++ path.text))
  else
    Attempt.during
      ("Failed to create directory: " ++ path.text ++
        "\n\nCheck directory permissions and path validity")
      (makeDirectories path)

/-! ## Files -/

/-- What the name of a temporary file ends in. -/
def temporaryEnding : String := ".tmp"

/-- The temporary path of a file, beside the file itself. -/
def temporaryPath (path : Path) : Path :=
  path.withFileName (path.fileName?.getD "" ++ temporaryEnding)

/-- Writes a content under a temporary path and moves it to the final one. -/
def writeAndMove (path temporary : Path) (content : ByteArray) : Attempt Failure Unit := do
  Attempt.during
    ("Failed to create temp file: " ++ temporary.text ++
      "\n\nCheck file permissions and that directory exists")
    (Program.perform (.createFile temporary))
  Attempt.during ("Failed to write to temp file: " ++ temporary.text)
    (Program.perform (.writeFile temporary content))
  Attempt.during ("Failed to rename temp file to: " ++ path.text)
    (Program.perform (.moveFile temporary path))

/-- Removes what a failed replacement left under its temporary path, if it can be removed. -/
def clearTemporary (temporary : Path) : Program Unit := do
  if ← Program.question (.present temporary) then
    let _ ← Program.perform (.removeFile temporary)
    pure ()
  else pure ()

/-- Makes the directory that a path lies in, if the path names one. -/
def requireParent (path : Path) : Attempt Failure Unit :=
  match path.parent? with
  | none => pure ()
  | some parent => if parent.isEmpty then pure () else requireDirectory parent

/-- Gives a file its content, whatever was there before.  If that fails, the file is left alone
and no temporary file stays behind. -/
def replaceContent (path : Path) (content : ByteArray) : Attempt Failure Unit := do
  requireParent path
  let temporary := temporaryPath path
  match ← Attempt.always (writeAndMove path temporary content).run with
  | .ok () => pure ()
  | .error failure =>
      Attempt.always (clearTemporary temporary)
      throw failure

/-- The content of a file, if a file is there. -/
def content? (path : Path) : Attempt Failure (Option ByteArray) := do
  if ← Attempt.always (Program.question (.isFile path)) then
    let content ← Attempt.during ("Failed to read " ++ path.text)
      (Program.question (.content path))
    pure (some content)
  else pure none

end RecipeMatrix.Files
