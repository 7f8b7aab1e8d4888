import RecipeMatrix.Catalog.InstallCommand
import RecipeMatrix.Text

/-!
# Platforms and compilers

The entries of a catalog as they are written down, and what becomes of them once they are
checked.  The checks of one entry are made in a fixed order and the first that fails decides:
the name, then blank fields, then the install command, then the packages.
-/

namespace RecipeMatrix

/-- A target distribution as written in a manifest. -/
structure PlatformEntry where
  name : String
  image : String
  install : String
  dev : Packages
  runtime : Packages
  deriving DecidableEq, Repr

/-- A compiler as written in a manifest. -/
structure CompilerEntry where
  name : String
  package : String
  deriving DecidableEq, Repr

/-- A checked platform: its base image, how it installs packages, and which it needs to build
and to run. -/
structure Platform where
  name : String
  image : String
  install : InstallCommand
  dev : Packages
  runtime : Packages
  deriving DecidableEq, Repr

/-- A checked compiler and the package that brings it on every platform. -/
structure Compiler where
  name : String
  package : String
  deriving DecidableEq, Repr

/-! ## Checks of single fields -/

namespace Entry

/-- The characters of a name: ASCII letters and digits, dot, underscore and hyphen. -/
def isNameChar (c : Char) : Bool := c.isAlphanum || c == '.' || c == '_' || c == '-'

/-- Checks that a name can be part of a file name. -/
def checkName (kind name : String) : Except Error Unit :=
  if name.isEmpty then .error (.invalidName kind name "name must not be empty")
  else
    match name.toList.find? fun c => !isNameChar c with
    | none => .ok ()
    | some c =>
        .error (.invalidName kind name
          ("character " ++ Text.quotedChar c ++ " is not allowed in file names"))

/-- Checks that a field has something in it. -/
def checkFilled (entry field content : String) : Except Error Unit :=
  if Text.allBlank content then .error (.emptyField entry field) else .ok ()

/-- A package name that can stand in a command as one word. -/
def isPackage (package : String) : Bool := !package.isEmpty && !Text.hasBlank package

/-- Checks that every package is one word. -/
def checkPackages (entry : String) (packages : Packages) : Except Error Unit :=
  match packages.find? fun package => !isPackage package with
  | none => .ok ()
  | some package => .error (.invalidPackage entry package)

end Entry

/-! ## Checked entries -/

/-- The platform of an entry, if the entry is sound. -/
def PlatformEntry.check (entry : PlatformEntry) : Except Error Platform := do
  let label := "platform '" ++ entry.name ++ "'"
  Entry.checkName "platform" entry.name
  Entry.checkFilled label "image" entry.image
  Entry.checkFilled label "install-command" entry.install
  let install ← InstallCommand.parse entry.name entry.install
  Entry.checkPackages label entry.dev
  Entry.checkPackages label entry.runtime
  .ok ⟨entry.name, entry.image, install, entry.dev, entry.runtime⟩

/-- The compiler of an entry, if the entry is sound. -/
def CompilerEntry.check (entry : CompilerEntry) : Except Error Compiler := do
  let label := "compiler '" ++ entry.name ++ "'"
  Entry.checkName "compiler" entry.name
  Entry.checkFilled label "package" entry.package
  Entry.checkPackages label [entry.package]
  .ok ⟨entry.name, entry.package⟩

namespace Platform

/-- The packages of the build stage for one compiler package, which comes last. -/
def effectiveDev (platform : Platform) (compilerPackage : String) : Packages :=
  platform.dev.appended compilerPackage

/-- The install command of the build stage for one compiler package. -/
def installDev (platform : Platform) (compilerPackage : String) : String :=
  platform.install.render (platform.effectiveDev compilerPackage)

/-- The install command of the run-time stage. -/
def installRuntime (platform : Platform) : String := platform.install.render platform.runtime

end Platform

end RecipeMatrix
