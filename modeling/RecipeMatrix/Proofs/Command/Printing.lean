import Mathlib.Data.List.Forall2
import RecipeMatrix.Command.Generate
import RecipeMatrix.Command.Listing
import RecipeMatrix.Command.Validation
import RecipeMatrix.Proofs.Json

/-!
# What commands print

The output of a command against the record that it shows.

* JSON.  The output is the text of an object, which has no other reading (`Json.pretty_injective`),
  so it is enough to say what the fields of the object are: `Validation.Told` for a validation,
  `Listing.Tells` for a listing.
* Text.  A listing ends with the lines of its recipes; a validation and a report have a line with
  their counts.
-/

namespace RecipeMatrix

/-! ## Listings -/

namespace RecipeEntry

/-- A JSON object says all that an entry says. -/
structure Told (entry : RecipeEntry) (object : Json) : Prop where
  output_eq : object.field? "output" = some (.text entry.output)
  platform_eq : object.field? "platform" = some (.text entry.platform)
  compiler_eq : object.field? "compiler" = some (.text entry.compiler)
  image_eq : object.field? "image" = some (.text entry.image)
  dev_eq : object.field? "dev_packages" = some (.texts entry.dev)
  runtime_eq : object.field? "runtime_packages" = some (.texts entry.runtime)

theorem told (entry : RecipeEntry) : entry.Told (Listing.recipeJson entry) where
  output_eq := rfl
  platform_eq := rfl
  compiler_eq := rfl
  image_eq := rfl
  dev_eq := rfl
  runtime_eq := rfl

/-- Three lines show an entry: its output name and its image with blanks in between, and below them
the packages of either stage. -/
def Lined (entry : RecipeEntry) (colored : Bool) (lines : String) : Prop :=
  ∃ blanks, lines =
    "  " ++ entry.output ++ String.ofList (List.replicate blanks ' ') ++ " " ++ entry.image ++
      "\n" ++
    "    " ++ Tint.dimmed.paint colored "dev:" ++ " " ++ " ".intercalate entry.dev ++ "\n" ++
    "    " ++ Tint.dimmed.paint colored "runtime:" ++ " " ++ " ".intercalate entry.runtime ++ "\n"

theorem lined (entry : RecipeEntry) (colored : Bool) :
    entry.Lined colored (Listing.recipeLines colored entry) := by
  refine ⟨Listing.outputWidth - entry.output.length, ?_⟩
  simp only [Listing.recipeLines, Terminal.line, Terminal.column, Packages.joined,
    String.append_assoc]

end RecipeEntry

namespace Listing

/-- A listing shows its recipes in both formats. -/
structure Tells (listing : Listing) : Prop where
  json : ∀ colored, ∃ (object : Json) (entries : List Json),
    listing.printed .json colored = object.pretty ++ "\n" ∧
      object.field? "recipes" = some (.array entries) ∧
        List.Forall₂ RecipeEntry.Told listing.recipes entries
  text : ∀ colored, ∃ heading blocks,
    listing.printed .text colored = heading ++ String.join blocks ∧
      List.Forall₂ (fun entry => entry.Lined colored) listing.recipes blocks

theorem tells (listing : Listing) : listing.Tells where
  json colored := by
    refine ⟨listing.json, _, rfl, rfl, ?_⟩
    rw [List.forall₂_map_right_iff, List.forall₂_same]
    exact fun entry _ => entry.told
  text colored := by
    refine ⟨_, _, rfl, ?_⟩
    rw [List.forall₂_map_right_iff, List.forall₂_same]
    exact fun entry _ => entry.lined colored

/-- An entry without packages at run time, in both formats. -/
example :
    let entry : RecipeEntry :=
      ⟨"Dockerfile.debian-gcc", "debian", "gcc", "debian:12", ["make", "g++"], []⟩
    recipeLines false entry =
      "  Dockerfile.debian-gcc        debian:12\n    dev: make g++\n    runtime: \n" ∧
    (recipeJson entry).pretty =
      "\x7b\n  \"output\": \"Dockerfile.debian-gcc\",\n  \"platform\": \"debian\",\n" ++
      "  \"compiler\": \"gcc\",\n  \"image\": \"debian:12\",\n" ++
      "  \"dev_packages\": [\n    \"make\",\n    \"g++\"\n  ],\n" ++
      "  \"runtime_packages\": []\n\x7d" := by
  decide +kernel

end Listing

/-! ## Validations -/

namespace Validation

/-- A JSON object says what a validation found. -/
structure Told (validation : Validation) (object : Json) : Prop where
  valid_eq : object.field? "valid" = some (.boolean validation.isValid)
  errors_eq : object.field? "errors" = some (.texts validation.errors)
  platforms_eq : object.field? "platforms" = some (.number validation.platforms)
  compilers_eq : object.field? "compilers" = some (.number validation.compilers)
  recipes_eq : object.field? "recipes" = some (.number validation.recipes)

theorem told (validation : Validation) : validation.Told validation.json where
  valid_eq := rfl
  errors_eq := rfl
  platforms_eq := rfl
  compilers_eq := rfl
  recipes_eq := rfl

/-- A text has a line with the counts of a validation. -/
def Counted (validation : Validation) (printed : String) : Prop :=
  ∃ above below, printed = above ++
    ("  " ++ toString validation.platforms ++ " platform(s) × " ++ toString validation.compilers ++
      " compiler(s) = " ++ toString validation.recipes ++ " recipe(s)" ++ "\n") ++ below

theorem counted_lines (validation : Validation) (colored : Bool) :
    validation.Counted (validation.lines colored) :=
  ⟨_, _, rfl⟩

/-- A validation without findings, in both formats. -/
example :
    let validation : Validation := ⟨"built-in catalog", 3, 2, 6, [], none⟩
    validation.json.pretty =
      "\x7b\n  \"valid\": true,\n  \"manifest\": \"built-in catalog\",\n" ++
      "  \"platforms\": 3,\n  \"compilers\": 2,\n  \"recipes\": 6,\n" ++
      "  \"errors\": [],\n  \"warnings\": []\n\x7d" ∧
    validation.lines false =
      "✓ Valid built-in catalog\n  3 platform(s) × 2 compiler(s) = 6 recipe(s)\n" := by
  decide +kernel

end Validation

/-! ## Reports -/

namespace Report

/-- The line with the total of a report on an output directory, up to the numbers by status. -/
def totalLine (report : Report) (output : Path) (counts : String) : String :=
  (if report.dryRun then "Checked" else "Generated") ++ " " ++ toString report.total ++
    " recipe(s) in " ++ output.text ++ ": " ++ counts

/-- A text ends with the line of the total. -/
def Counted (report : Report) (output : Path) (printed : String) : Prop :=
  ∃ above counts, printed = above ++ report.totalLine output counts

theorem counted_lines (report : Report) (colored : Bool) (output : Path) :
    report.Counted output (report.lines colored output) := by
  obtain ⟨counts, hcounts⟩ : ∃ counts,
      report.summaryLine output = report.totalLine output counts := by
    simp only [summaryLine, totalLine, Terminal.line, String.append_assoc]
    exact ⟨_, rfl⟩
  exact ⟨_, counts, by rw [lines, hcounts]⟩

end Report

end RecipeMatrix
