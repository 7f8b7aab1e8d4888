import RecipeMatrix.Manifest
import RecipeMatrix.Toml.Document

/-!
# Reading manifests

The manifest that a TOML document describes.  A table is checked key by key, in the order of the
bytes of the keys, and the first key that does not belong or holds the wrong kind of value
decides; only then is a required key missed.  An array may stand for a table and then gives the
values of the fields in their declared order; what it has beyond them is not looked at.
-/

namespace RecipeMatrix

/-- Why a document has not the shape of a manifest. -/
inductive ShapeError
  | unknownField (name : String) (known : List String)
  | missingField (name : String)
  | wrongType (found expected : String)
  | wrongLength (found : Nat) (record : String) (expected : Nat)
  deriving DecidableEq, Repr

namespace ShapeError

/-- A name in backticks. -/
def ticked (name : String) : String := "`" ++ name ++ "`"

/-- The names that would have been right. -/
def choice : List String → String
  | [name] => ticked name
  | [first, second] => ticked first ++ " or " ++ ticked second
  | names => "one of " ++ ", ".intercalate (names.map ticked)

/-- The wording of a shape error. -/
def message : ShapeError → String
  | unknownField name known => "unknown field " ++ ticked name ++ ", expected " ++ choice known
  | missingField name => "missing field " ++ ticked name
  | wrongType found expected => "invalid type: " ++ found ++ ", expected " ++ expected
  | wrongLength found record expected =>
      "invalid length " ++ toString found ++ ", expected struct " ++ record ++ " with " ++
        toString expected ++ " elements"

end ShapeError

/-- Why a text is not a manifest. -/
inductive ManifestFault
  /-- It is not well-formed TOML. -/
  | malformed
  /-- It is TOML of another shape. -/
  | misshapen (error : ShapeError)
  deriving DecidableEq, Repr

/-- The wording of a fault. -/
def ManifestFault.message : ManifestFault → String
  | malformed => "the document is not well formed"
  | misshapen error => error.message

namespace Manifest

open Toml (Value Table)

/-- Either a decoded value or why there is none. -/
abbrev Decoded (α : Type) := Except ShapeError α

/-! ## Single values -/

/-- A text. -/
def text : Value → Decoded String
  | .text content => .ok content
  | value => .error (.wrongType value.description "a string")

/-- A path. -/
def path : Value → Decoded Path
  | .text content => .ok ⟨content⟩
  | value => .error (.wrongType value.description "path string")

/-- A list, each item read alike. -/
def list {α : Type} (item : Value → Decoded α) : Value → Decoded (List α)
  | .array items => items.mapM item
  | value => .error (.wrongType value.description "a sequence")

/-- A list of texts. -/
def texts : Value → Decoded (List String) := list text

/-! ## Records -/

/-- Checks every entry of a table, in the order of the bytes of the keys. -/
def checkEntries (check : String → Value → Decoded Unit) (table : Table) : Decoded Unit :=
  table.sortedByKey.forM fun entry => check entry.1 entry.2

/-- The value of a key that has to be there. -/
def required {α : Type} (table : Table) (key : String) (read : Value → Decoded α) :
    Decoded α :=
  match table.get? key with
  | some value => read value
  | none => .error (.missingField key)

/-- The value of a key, or another one if the key is missing. -/
def optional {α : Type} (table : Table) (key : String) (read : Value → Decoded α)
    (otherwise : α) : Decoded α :=
  match table.get? key with
  | some value => read value
  | none => .ok otherwise

/-- A record, from a table or from an array of its fields.  A date or time reads as a table with
one key of its own. -/
def record {α : Type} (name : String) (ofTable : Table → Decoded α)
    (ofArray : List Value → Decoded α) : Value → Decoded α
  | .table table => ofTable table
  | .array items => ofArray items
  | .dateTime written => ofTable [(Toml.dateTimeKey, .text written)]
  | value => .error (.wrongType value.description ("struct " ++ name))

/-! ### Platforms -/

/-- The fields of a platform. -/
def platformFields : List String := ["name", "image", "install-command", "dev-deps", "runtime-deps"]

/-- Checks one entry of a platform table. -/
def checkPlatformEntry (key : String) (value : Value) : Decoded Unit :=
  if key = "name" ∨ key = "image" ∨ key = "install-command" then do
    let _ ← text value
  else if key = "dev-deps" ∨ key = "runtime-deps" then do
    let _ ← texts value
  else .error (.unknownField key platformFields)

/-- The platform of a table. -/
def platformOfTable (table : Table) : Decoded PlatformEntry := do
  checkEntries checkPlatformEntry table
  let name ← required table "name" text
  let image ← required table "image" text
  let install ← required table "install-command" text
  let dev ← optional table "dev-deps" texts []
  let runtime ← optional table "runtime-deps" texts []
  .ok ⟨name, image, install, dev, runtime⟩

/-- The platform of an array of fields; the two lists of packages may be missing. -/
def platformOfArray : List Value → Decoded PlatformEntry
  | name :: image :: install :: rest => do
      let name ← text name
      let image ← text image
      let install ← text install
      match rest with
      | [] => .ok ⟨name, image, install, [], []⟩
      | [dev] => do
          let dev ← texts dev
          .ok ⟨name, image, install, dev, []⟩
      | dev :: runtime :: _ => do
          let dev ← texts dev
          let runtime ← texts runtime
          .ok ⟨name, image, install, dev, runtime⟩
  | items => do
      let _ ← items.mapM text
      .error (.wrongLength items.length "PlatformEntry" 5)

/-- A platform. -/
def platform : Value → Decoded PlatformEntry :=
  record "PlatformEntry" platformOfTable platformOfArray

/-! ### Compilers -/

/-- The fields of a compiler. -/
def compilerFields : List String := ["name", "package"]

/-- Checks one entry of a compiler table. -/
def checkCompilerEntry (key : String) (value : Value) : Decoded Unit :=
  if key = "name" ∨ key = "package" then do
    let _ ← text value
  else .error (.unknownField key compilerFields)

/-- The compiler of a table. -/
def compilerOfTable (table : Table) : Decoded CompilerEntry := do
  checkEntries checkCompilerEntry table
  let name ← required table "name" text
  let package ← required table "package" text
  .ok ⟨name, package⟩

/-- The compiler of an array of fields. -/
def compilerOfArray : List Value → Decoded CompilerEntry
  | name :: package :: _ => do
      let name ← text name
      let package ← text package
      .ok ⟨name, package⟩
  | items => do
      let _ ← items.mapM text
      .error (.wrongLength items.length "CompilerEntry" 2)

/-- A compiler. -/
def compiler : Value → Decoded CompilerEntry :=
  record "CompilerEntry" compilerOfTable compilerOfArray

/-! ### Generator settings -/

/-- The fields of the generator settings. -/
def generatorFields : List String := ["output-dir"]

/-- Checks one entry of the table of generator settings. -/
def checkGeneratorEntry (key : String) (value : Value) : Decoded Unit :=
  if key = "output-dir" then do
    let _ ← path value
  else .error (.unknownField key generatorFields)

/-- The generator settings of a table. -/
def settingsOfTable (table : Table) : Decoded GeneratorSettings := do
  checkEntries checkGeneratorEntry table
  let directory ← optional table "output-dir" (fun value => some <$> path value) none
  .ok ⟨directory.map DirectoryName.text⟩

/-- The generator settings of an array of fields; the output directory may be missing. -/
def settingsOfArray : List Value → Decoded GeneratorSettings
  | [] => .ok ⟨none⟩
  | directory :: _ => do
      let directory ← path directory
      .ok ⟨some (.text directory)⟩

/-- The generator settings. -/
def settings : Value → Decoded GeneratorSettings :=
  record "GeneratorConfig" settingsOfTable settingsOfArray

/-! ## Manifests -/

/-- The fields of a manifest. -/
def fields : List String := ["generator", "platforms", "compilers"]

/-- Checks one entry of a manifest. -/
def checkEntry (key : String) (value : Value) : Decoded Unit :=
  if key = "generator" then do
    let _ ← settings value
  else if key = "platforms" then do
    let _ ← list platform value
  else if key = "compilers" then do
    let _ ← list compiler value
  else .error (.unknownField key fields)

/-- The manifest of a table. -/
def ofTable (table : Table) : Decoded Manifest := do
  checkEntries checkEntry table
  let generator ← optional table "generator" (fun value => some <$> settings value) none
  let platforms ← optional table "platforms" (list platform) []
  let compilers ← optional table "compilers" (list compiler) []
  .ok ⟨generator, platforms, compilers, none⟩

/-- The manifest of a text. -/
def parse (document : String) : Except ManifestFault Manifest :=
  match Toml.read? document with
  | none => .error .malformed
  | some table =>
      match ofTable table with
      | .ok manifest => .ok manifest
      | .error error => .error (.misshapen error)

/-- The manifest of a text, or an error that names where the text is from. -/
def parseFrom (origin : Path) (document : String) : Except Error Manifest :=
  match parse document with
  | .ok manifest => .ok manifest
  | .error fault => .error (.manifestMalformed origin.text fault.message)

end Manifest

end RecipeMatrix
