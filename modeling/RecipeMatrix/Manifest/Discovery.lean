import RecipeMatrix.Files.Attempt
import RecipeMatrix.Manifest
import RecipeMatrix.Manifest.Decode

/-!
# Finding manifests

Which manifest a command works with: the one it is given, or else the nearest one in the current
directory and the directories around it, or else the built-in one.  A manifest that is there but
cannot be read is an error and is never passed over for another.
-/

namespace RecipeMatrix

namespace Manifest

/-! ## Looking for a manifest -/

/-- The first path in a list at which something stands. -/
def firstPresent : List Path → Program (Option Path)
  | [] => pure none
  | path :: paths => do
      if ← Program.question (.present path) then pure (some path) else firstPresent paths

/-- Where a manifest can be, seen from a directory: in it or in one of its outer paths. -/
def candidates (start : Path) : List Path := start.ancestors.map fun path => path.join ⟨fileName⟩

/-- The nearest manifest around a directory. -/
def nearest (start : Path) : Attempt Failure Path := do
  match ← Attempt.always (firstPresent (candidates start)) with
  | some path => pure path
  | none => throw (.ofError .manifestNotFound)

/-- The nearest manifest around the current directory, if there is one. -/
def nearest? : Attempt Failure (Option Path) := do
  let current ← Attempt.during "Cannot determine current working directory"
    (Program.question .currentPath)
  Attempt.always (firstPresent (candidates current))

/-- The nearest manifest around the current directory. -/
def nearestToCurrent : Attempt Failure Path := do
  match ← nearest? with
  | some path => pure path
  | none => throw (.ofError .manifestNotFound)

/-- A manifest path that was given, where something has to stand. -/
def given (path : Path) : Attempt Failure Path := do
  if ← Attempt.always (Program.question (.present path)) then pure path
  else throw (.ofError .manifestNotFound)

/-- The manifest path that was given, or else the nearest one. -/
def locate : Option Path → Attempt Failure Path
  | some path => given path
  | none => nearestToCurrent

/-! ## Loading a manifest -/

/-- The directory that a manifest lies in. -/
def directoryOf (path : Path) : Path :=
  match path.parent? with
  | none => ⟨"."⟩
  | some parent => if parent.isEmpty then ⟨"."⟩ else parent

/-- The text of a file. -/
def textOf (content : Except SystemError ByteArray) : Except SystemError String :=
  match content with
  | .error refusal => .error refusal
  | .ok bytes =>
      match String.fromUTF8? bytes with
      | some text => .ok text
      | none => .error .notText

/-- The manifest in a file. -/
def load (path : Path) : Attempt Failure Manifest := do
  let document ← Attempt.during ("Failed to read manifest file: " ++ path.text)
    (textOf <$> Program.question (.content path))
  let manifest ← Attempt.ofExcept ((parseFrom path document).mapError Failure.ofError)
  pure { manifest with directory := some (directoryOf path) }

end Manifest

/-- A manifest together with the file it comes from, if it is not the built-in one. -/
structure LoadedManifest where
  manifest : Manifest
  path : Option Path
  deriving DecidableEq

namespace LoadedManifest

/-- The built-in manifest. -/
def builtin : LoadedManifest := ⟨Manifest.builtin, none⟩

/-- Where the manifest comes from, as output says it. -/
def origin (loaded : LoadedManifest) : String :=
  match loaded.path with
  | some path => path.text
  | none => "built-in catalog"

/-- Where recipes go: to the directory that was asked for, or else where the manifest says. -/
def output (loaded : LoadedManifest) (asked : Option Path) : Path :=
  asked.getD loaded.manifest.defaultOutput

/-- The manifest in a file, with the file. -/
def ofFile (path : Path) : Attempt Failure LoadedManifest := do
  let manifest ← Manifest.load path
  pure ⟨manifest, some path⟩

/-- The manifest that a command works with. -/
def find : Option Path → Attempt Failure LoadedManifest
  | some path => do
      let path ← Manifest.given path
      ofFile path
  | none => do
      match ← Manifest.nearest? with
      | some path => ofFile path
      | none => pure builtin

end LoadedManifest

end RecipeMatrix
