import RecipeMatrix.Catalog
import RecipeMatrix.Path

/-!
# Manifests

What a project declares: its platforms and compilers as written, and where recipes go.  Reading a
manifest settles only its shape; whether its entries are sound is settled by `catalog`.

A project that has none gets the built-in manifest: three distributions and two compilers.
-/

namespace RecipeMatrix

/-- A directory name from outside.  A system may allow names that are no text; those cannot be
written down in a manifest. -/
inductive DirectoryName
  | text (path : Path)
  | bytes (content : List UInt8)
  deriving DecidableEq

namespace DirectoryName

/-- The name of some bytes. -/
def ofBytes (content : ByteArray) : DirectoryName :=
  match String.fromUTF8? content with
  | some decoded => .text ⟨decoded⟩
  | none => .bytes content.toList

/-- The name as it can be shown, with a replacement character for each byte outside ASCII if the
name is no text. -/
def shown : DirectoryName → Path
  | .text path => path
  | .bytes content =>
      ⟨String.ofList (content.map fun byte =>
        if byte < 0x80 then Char.ofNat byte.toNat else '\ufffd')⟩

end DirectoryName

/-- The settings of the generator. -/
structure GeneratorSettings where
  outputDirectory : Option DirectoryName
  deriving DecidableEq

/-- A manifest, and the directory it was found in. -/
structure Manifest where
  generator : Option GeneratorSettings
  platforms : List PlatformEntry
  compilers : List CompilerEntry
  directory : Option Path
  deriving DecidableEq

namespace Manifest

/-- The name of the file that holds a manifest. -/
def fileName : String := "dockgen.toml"

/-- The catalog of a manifest, if its entries are sound and go together. -/
def catalog (manifest : Manifest) : Except Error Catalog :=
  Catalog.ofEntries manifest.platforms manifest.compilers

/-- The output directory that the manifest asks for. -/
def outputDirectory? (manifest : Manifest) : Option DirectoryName :=
  manifest.generator.bind GeneratorSettings.outputDirectory

/-- Where recipes go unless something else is asked for: the output directory of the manifest,
seen from the directory of the manifest, or that directory itself. -/
def defaultOutput (manifest : Manifest) : Path :=
  let base := manifest.directory.getD ⟨"."⟩
  match manifest.outputDirectory? with
  | some name => base.join name.shown
  | none => base

/-- The manifest without the directory it was found in. -/
def detached (manifest : Manifest) : Manifest := { manifest with directory := none }

/-! ## The built-in manifest -/

/-- The platform that installs with `apt`.  The double space is part of its command. -/
def debian : PlatformEntry where
  name := "debian"
  image := "debian:bookworm"
  install :=
    "apt update && apt install " ++ InstallCommand.placeholder ++
      " --no-install-recommends -y  && rm -rf /var/lib/apt/lists/*"
  dev :=
    ["libvips-dev", "libmagic-dev", "libboost-dev", "cmake", "make", "git", "ca-certificates"]
  runtime := ["libvips", "libmagic1"]

/-- The platform that installs with `apk`. -/
def alpine : PlatformEntry where
  name := "alpine"
  image := "alpine:3"
  install := "apk add --no-cache " ++ InstallCommand.placeholder
  dev := ["openssl-dev", "vips-dev", "boost-dev", "file-dev", "cmake", "make", "git"]
  runtime := ["vips", "openssl", "libmagic"]

/-- The platform that installs with `dnf`. -/
def fedora : PlatformEntry where
  name := "fedora"
  image := "fedora:41"
  install :=
    "dnf install --setopt=install_weak_deps=False -y " ++ InstallCommand.placeholder ++
      " && dnf clean all"
  dev := ["openssl-devel", "vips-devel", "boost-devel", "file-devel", "cmake", "make", "git"]
  runtime := ["vips", "openssl"]

/-- The manifest of a project that has none. -/
def builtin : Manifest where
  generator := none
  platforms := [debian, alpine, fedora]
  compilers := [⟨"gcc", "g++"⟩, ⟨"clang", "clang"⟩]
  directory := none

end Manifest

end RecipeMatrix
