import RecipeMatrix.Command.Run
import RecipeMatrix.CommandLine.Reading
import RecipeMatrix.Main
import RecipeMatrix.Proofs.Catalog.Collisions
import RecipeMatrix.Proofs.Catalog.Selections
import RecipeMatrix.Proofs.Catalog.Soundness
import RecipeMatrix.Proofs.Catalog.Substitution
import RecipeMatrix.Proofs.Catalog.Suggestions
import RecipeMatrix.Proofs.Catalog.Violations
import RecipeMatrix.Proofs.Command.Agreement
import RecipeMatrix.Proofs.Command.Printing
import RecipeMatrix.Proofs.Command.Initialization
import RecipeMatrix.Proofs.Command.Location
import RecipeMatrix.Proofs.Command.NewManifest
import RecipeMatrix.Proofs.Command.Quietness
import RecipeMatrix.Proofs.Command.Reports
import RecipeMatrix.Proofs.Error.Explanations
import RecipeMatrix.Proofs.Files.Atomicity
import RecipeMatrix.Proofs.Generation.Confinement
import RecipeMatrix.Proofs.Generation.Modes
import RecipeMatrix.Proofs.Generation.Moments
import RecipeMatrix.Proofs.Generation.Parts
import RecipeMatrix.Proofs.Generation.Repetition
import RecipeMatrix.Proofs.Generation.Sequences
import RecipeMatrix.Proofs.Generation.Success
import RecipeMatrix.Proofs.Manifest.Discovery
import RecipeMatrix.Proofs.Manifest.RoundTrip
import RecipeMatrix.Proofs.Recipe.Filling
import RecipeMatrix.Proofs.Recipe.Installation
import RecipeMatrix.Proofs.Recipe.Stages
import RecipeMatrix.Proofs.Template.Rendering
