import RecipeMatrix.Manifest
import RecipeMatrix.Proofs.Catalog.Acceptance
import RecipeMatrix.Proofs.Catalog.Placeholder

/-!
# Sound manifests

The rules that a manifest has to keep, each stated on the entries as they are written, and the
proof that `Manifest.catalog` decides exactly these rules.

* Entries.  `PlatformEntry.Sound` and `CompilerEntry.Sound` are the rules of one entry.  A checked
  entry still says all that was written (`Platform.entry`, `Compiler.entry`).
* Cross-checks.  `Catalog.Fits` has the rules that need more than one entry.  They are the same
  for the entries as for what became of them (`coherent_iff_fits`).  An accepted catalog keeps the
  rules of its entries (`Accepted.sound_platform`, `Accepted.sound_compiler`), and it can be decided
  whether a catalog is accepted (`accepted_iff`).
* The assembly.  `Manifest.catalog_decides_sound` puts the two together.
-/

namespace RecipeMatrix

/-! ## The rules -/

namespace Entry

/-- A name that can be part of a file name: it has characters, and these are ASCII letters and
digits, dots, underscores and hyphens. -/
def WellNamed (name : String) : Prop :=
  name ≠ "" ∧ ∀ c ∈ name.toList,
    ('a' ≤ c ∧ c ≤ 'z') ∨ ('A' ≤ c ∧ c ≤ 'Z') ∨ ('0' ≤ c ∧ c ≤ '9') ∨
      c = '.' ∨ c = '_' ∨ c = '-'

/-- A package name that is one word. -/
def IsWord (package : String) : Prop :=
  package ≠ "" ∧ ∀ c ∈ package.toList, Text.isBlank c = false

end Entry

/-- The rules of a platform entry. -/
structure PlatformEntry.Sound (entry : PlatformEntry) : Prop where
  name : Entry.WellNamed entry.name
  image : ∃ c ∈ entry.image.toList, Text.isBlank c = false
  install : ∃! position, InstallCommand.OccursAt entry.install.toList position
  dev : ∀ package ∈ entry.dev, Entry.IsWord package
  runtime : ∀ package ∈ entry.runtime, Entry.IsWord package

/-- The rules of a compiler entry. -/
structure CompilerEntry.Sound (entry : CompilerEntry) : Prop where
  name : Entry.WellNamed entry.name
  package : Entry.IsWord entry.package

/-- The rules of entries together. -/
structure Catalog.Fits (platforms : List PlatformEntry) (compilers : List CompilerEntry) :
    Prop where
  nodup_platforms : (platforms.map (·.name)).Nodup
  nodup_compilers : (compilers.map (·.name)).Nodup
  runtime : ∀ platform ∈ platforms, ∀ compiler ∈ compilers, compiler.package ∉ platform.runtime
  /-- Different pairs are written to different files. -/
  outputs : ∀ platform ∈ platforms, ∀ compiler ∈ compilers, ∀ otherPlatform ∈ platforms,
    ∀ otherCompiler ∈ compilers,
    "Dockerfile." ++ platform.name ++ "-" ++ compiler.name =
      "Dockerfile." ++ otherPlatform.name ++ "-" ++ otherCompiler.name →
    platform = otherPlatform ∧ compiler = otherCompiler

/-- The rules of a manifest. -/
structure Manifest.Sound (manifest : Manifest) : Prop
    extends Catalog.Fits manifest.platforms manifest.compilers where
  platforms : ∀ entry ∈ manifest.platforms, entry.Sound
  compilers : ∀ entry ∈ manifest.compilers, entry.Sound

/-- A checked platform as it was written. -/
def Platform.entry (platform : Platform) : PlatformEntry where
  name := platform.name
  image := platform.image
  install := platform.install.source
  dev := platform.dev
  runtime := platform.runtime

/-- A checked compiler as it was written. -/
def Compiler.entry (compiler : Compiler) : CompilerEntry where
  name := compiler.name
  package := compiler.package

/-! ## Entries -/

namespace Entry

theorem isNameChar_iff {c : Char} : isNameChar c = true ↔
    ('a' ≤ c ∧ c ≤ 'z') ∨ ('A' ≤ c ∧ c ≤ 'Z') ∨ ('0' ≤ c ∧ c ≤ '9') ∨
      c = '.' ∨ c = '_' ∨ c = '-' := by
  unfold isNameChar Char.isAlphanum Char.isAlpha Char.isUpper Char.isLower Char.isDigit
  simp only [Bool.or_eq_true, Bool.and_eq_true, decide_eq_true_eq, beq_iff_eq, Char.le_def]
  tauto

theorem checkName_iff_wellNamed {kind name : String} :
    checkName kind name = .ok () ↔ WellNamed name := by
  rw [Catalog.checkName_eq_ok_iff]
  simp only [isNameChar_iff, WellNamed]

theorem checkFilled_eq_ok_iff {entry field content : String} :
    checkFilled entry field content = .ok () ↔
      ∃ c ∈ content.toList, Text.isBlank c = false := by
  have hfilled : ¬ Text.allBlank content = true ↔
      ∃ c ∈ content.toList, Text.isBlank c = false := by
    simp [Text.allBlank]
  unfold checkFilled
  rw [← hfilled]
  split
  next hblank => simp [hblank]
  next hfound => simp [hfound]

/-- A word is not blank. -/
theorem IsWord.filled {package : String} (hword : IsWord package) :
    ∃ c ∈ package.toList, Text.isBlank c = false := by
  obtain ⟨hne, hclear⟩ := hword
  have hcharacters : package.toList ≠ [] := by simpa using hne
  obtain ⟨c, rest, htext⟩ := List.exists_cons_of_ne_nil hcharacters
  have hc : c ∈ package.toList := by rw [htext]; exact List.mem_cons_self
  exact ⟨c, hc, hclear c hc⟩

theorem isPackage_iff {package : String} : isPackage package = true ↔ IsWord package := by
  simp [isPackage, Text.hasBlank, IsWord]

theorem checkPackages_eq_ok_iff {entry : String} {packages : Packages} :
    checkPackages entry packages = .ok () ↔ ∀ package ∈ packages, IsWord package := by
  have hnone : (packages.find? fun package => !isPackage package) = none ↔
      ∀ package ∈ packages, IsWord package := by
    simp [← isPackage_iff]
  unfold checkPackages
  rw [← hnone]
  cases packages.find? fun package => !isPackage package with
  | none => simp
  | some package => simp

end Entry

/-- A text with a placeholder is not blank. -/
theorem InstallCommand.filled_of_occursAt {command : String} {position : Nat}
    (hoccurs : OccursAt command.toList position) :
    ∃ c ∈ command.toList, Text.isBlank c = false := by
  have hbrace : '{' ∈ placeholder.toList := by decide
  exact ⟨'{', List.mem_of_mem_drop (hoccurs.subset hbrace), by decide⟩

theorem PlatformEntry.of_check {entry : PlatformEntry} {platform : Platform}
    (hcheck : entry.check = .ok platform) : entry.Sound ∧ platform.entry = entry := by
  unfold PlatformEntry.check at hcheck
  simp only [bind_eq_ok_iff] at hcheck
  obtain ⟨⟨⟩, hname, ⟨⟩, himage, ⟨⟩, -, install, hinstall, ⟨⟩, hdev, ⟨⟩, hruntime, hplatform⟩ :=
    hcheck
  obtain rfl := Except.ok.inj hplatform
  refine ⟨⟨Entry.checkName_iff_wellNamed.1 hname, Entry.checkFilled_eq_ok_iff.1 himage,
    InstallCommand.exists_parse_iff.1 ⟨install, hinstall⟩,
    Entry.checkPackages_eq_ok_iff.1 hdev, Entry.checkPackages_eq_ok_iff.1 hruntime⟩, ?_⟩
  unfold Platform.entry
  rw [InstallCommand.source_of_parse hinstall]

theorem PlatformEntry.exists_check {entry : PlatformEntry} (hsound : entry.Sound) :
    ∃ platform, entry.check = .ok platform := by
  obtain ⟨install, hinstall⟩ : ∃ install, InstallCommand.parse entry.name entry.install =
      .ok install := InstallCommand.exists_parse_iff.2 hsound.install
  obtain ⟨position, hoccurs, -⟩ := hsound.install
  have hfilled := InstallCommand.filled_of_occursAt hoccurs
  refine ⟨⟨entry.name, entry.image, install, entry.dev, entry.runtime⟩, ?_⟩
  unfold PlatformEntry.check
  simp only [bind_eq_ok_iff]
  exact ⟨(), Entry.checkName_iff_wellNamed.2 hsound.name,
    (), Entry.checkFilled_eq_ok_iff.2 hsound.image,
    (), Entry.checkFilled_eq_ok_iff.2 hfilled,
    install, hinstall,
    (), Entry.checkPackages_eq_ok_iff.2 hsound.dev,
    (), Entry.checkPackages_eq_ok_iff.2 hsound.runtime, rfl⟩

theorem CompilerEntry.of_check {entry : CompilerEntry} {compiler : Compiler}
    (hcheck : entry.check = .ok compiler) : entry.Sound ∧ compiler.entry = entry := by
  unfold CompilerEntry.check at hcheck
  simp only [bind_eq_ok_iff] at hcheck
  obtain ⟨⟨⟩, hname, ⟨⟩, -, ⟨⟩, hpackage, hcompiler⟩ := hcheck
  obtain rfl := Except.ok.inj hcompiler
  have hword := Entry.checkPackages_eq_ok_iff.1 hpackage entry.package List.mem_cons_self
  exact ⟨⟨Entry.checkName_iff_wellNamed.1 hname, hword⟩, rfl⟩

theorem CompilerEntry.exists_check {entry : CompilerEntry} (hsound : entry.Sound) :
    ∃ compiler, entry.check = .ok compiler := by
  have hpackages : ∀ package ∈ [entry.package], Entry.IsWord package := by
    intro package hpackage
    rw [List.mem_singleton.1 hpackage]
    exact hsound.package
  refine ⟨⟨entry.name, entry.package⟩, ?_⟩
  unfold CompilerEntry.check
  simp only [bind_eq_ok_iff]
  exact ⟨(), Entry.checkName_iff_wellNamed.2 hsound.name,
    (), Entry.checkFilled_eq_ok_iff.2 hsound.package.filled,
    (), Entry.checkPackages_eq_ok_iff.2 hpackages, trivial⟩

/-! ## Entries together -/

namespace Catalog

variable {platforms : List Platform} {compilers : List Compiler}

theorem nodup_cellsOf (hplatforms : platforms.Nodup) (hcompilers : compilers.Nodup) :
    (cellsOf platforms compilers).Nodup := by
  unfold cellsOf
  rw [List.nodup_flatMap]
  refine ⟨?_, hplatforms.imp ?_⟩
  · intro platform _
    exact hcompilers.map fun first second hsame => congrArg Cell.compiler hsame
  · intro first second hne cell hone hother
    obtain ⟨_, _, rfl⟩ := List.mem_map.1 hone
    obtain ⟨_, _, hsame⟩ := List.mem_map.1 hother
    exact hne (congrArg Cell.platform hsame).symm

/-- The rules that need more than one entry are the same before and after the entries are
checked. -/
theorem coherent_iff_fits : Coherent platforms compilers ↔
    Fits (platforms.map Platform.entry) (compilers.map Compiler.entry) := by
  have hplatformNames : (platforms.map Platform.entry).map (·.name) = platforms.map (·.name) := by
    rw [List.map_map]
    rfl
  have hcompilerNames : (compilers.map Compiler.entry).map (·.name) = compilers.map (·.name) := by
    rw [List.map_map]
    rfl
  constructor
  · intro hcoherent
    refine ⟨?_, ?_, ?_, ?_⟩
    · rw [hplatformNames]
      exact hcoherent.nodup_platforms
    · rw [hcompilerNames]
      exact hcoherent.nodup_compilers
    · intro entry hentry compilerEntry hcompilerEntry
      obtain ⟨platform, hplatform, rfl⟩ := List.mem_map.1 hentry
      obtain ⟨compiler, hcompiler, rfl⟩ := List.mem_map.1 hcompilerEntry
      exact hcoherent.runtime platform hplatform compiler hcompiler
    · intro entry hentry compilerEntry hcompilerEntry otherEntry hotherEntry
        otherCompilerEntry hotherCompilerEntry hsame
      obtain ⟨platform, hplatform, rfl⟩ := List.mem_map.1 hentry
      obtain ⟨compiler, hcompiler, rfl⟩ := List.mem_map.1 hcompilerEntry
      obtain ⟨other, hother, rfl⟩ := List.mem_map.1 hotherEntry
      obtain ⟨otherCompiler, hotherCompiler, rfl⟩ := List.mem_map.1 hotherCompilerEntry
      have hcell : (⟨platform, compiler⟩ : Cell) = ⟨other, otherCompiler⟩ :=
        List.inj_on_of_nodup_map hcoherent.nodup_outputNames
          (mem_cellsOf.2 ⟨hplatform, hcompiler⟩) (mem_cellsOf.2 ⟨hother, hotherCompiler⟩) hsame
      rw [Cell.mk.injEq] at hcell
      rw [hcell.1, hcell.2]
      exact ⟨rfl, rfl⟩
  · intro hfits
    have hplatforms : (platforms.map (·.name)).Nodup := hplatformNames ▸ hfits.nodup_platforms
    have hcompilers : (compilers.map (·.name)).Nodup := hcompilerNames ▸ hfits.nodup_compilers
    refine ⟨hplatforms, hcompilers, ?_, ?_⟩
    · intro platform hplatform compiler hcompiler
      exact hfits.runtime platform.entry (List.mem_map_of_mem hplatform) compiler.entry
        (List.mem_map_of_mem hcompiler)
    · rw [List.nodup_map_iff_inj_on (nodup_cellsOf hplatforms.of_map hcompilers.of_map)]
      intro ⟨platform, compiler⟩ hcell ⟨other, otherCompiler⟩ hother hsame
      obtain ⟨hplatform, hcompiler⟩ := mem_cellsOf.1 hcell
      obtain ⟨hotherPlatform, hotherCompiler⟩ := mem_cellsOf.1 hother
      obtain ⟨hplatformEntry, hcompilerEntry⟩ :=
        hfits.outputs platform.entry (List.mem_map_of_mem hplatform) compiler.entry
          (List.mem_map_of_mem hcompiler) other.entry (List.mem_map_of_mem hotherPlatform)
          otherCompiler.entry (List.mem_map_of_mem hotherCompiler) hsame
      have hplatformSame : platform = other :=
        List.inj_on_of_nodup_map hplatforms hplatform hotherPlatform
          (congrArg PlatformEntry.name hplatformEntry)
      have hcompilerSame : compiler = otherCompiler :=
        List.inj_on_of_nodup_map hcompilers hcompiler hotherCompiler
          (congrArg CompilerEntry.name hcompilerEntry)
      rw [hplatformSame, hcompilerSame]

theorem map_entry_of_check {entries : List PlatformEntry}
    (hchecked : entries.map PlatformEntry.check = platforms.map .ok) :
    platforms.map Platform.entry = entries := by
  have hentries : platforms.map Platform.entry = entries.map id :=
    map_eq_of_map_ok (fun _ _ hcheck => (PlatformEntry.of_check hcheck).2) hchecked
  rw [hentries, List.map_id]

theorem map_compilerEntry_of_check {entries : List CompilerEntry}
    (hchecked : entries.map CompilerEntry.check = compilers.map .ok) :
    compilers.map Compiler.entry = entries := by
  have hentries : compilers.map Compiler.entry = entries.map id :=
    map_eq_of_map_ok (fun _ _ hcheck => (CompilerEntry.of_check hcheck).2) hchecked
  rw [hentries, List.map_id]

/-- An accepted catalog is that of its own entries. -/
theorem accepted_iff {catalog : Catalog} : catalog.Accepted ↔
    ofEntries (catalog.platforms.map Platform.entry) (catalog.compilers.map Compiler.entry) =
      .ok catalog := by
  refine ⟨?_, fun hof => ⟨_, _, hof⟩⟩
  rintro ⟨platforms, compilers, hof⟩
  obtain ⟨hplatforms, hcompilers, -⟩ := ofEntries_eq_ok_iff.1 hof
  rwa [map_entry_of_check hplatforms, map_compilerEntry_of_check hcompilers]

instance (catalog : Catalog) : Decidable catalog.Accepted :=
  decidable_of_iff _ accepted_iff.symm

/-- The platforms of an accepted catalog keep the rules of an entry. -/
theorem Accepted.sound_platform {catalog : Catalog} (haccepted : catalog.Accepted)
    {platform : Platform} (hplatform : platform ∈ catalog.platforms) : platform.entry.Sound := by
  obtain ⟨entries, others, hof⟩ := haccepted
  obtain ⟨entry, -, hcheck⟩ := exists_of_map_ok (ofEntries_eq_ok_iff.1 hof).1 hplatform
  obtain ⟨hsound, rfl⟩ := PlatformEntry.of_check hcheck
  exact hsound

/-- The compilers of an accepted catalog keep the rules of an entry. -/
theorem Accepted.sound_compiler {catalog : Catalog} (haccepted : catalog.Accepted)
    {compiler : Compiler} (hcompiler : compiler ∈ catalog.compilers) : compiler.entry.Sound := by
  obtain ⟨others, entries, hof⟩ := haccepted
  obtain ⟨entry, -, hcheck⟩ := exists_of_map_ok (ofEntries_eq_ok_iff.1 hof).2.1 hcompiler
  obtain ⟨hsound, rfl⟩ := CompilerEntry.of_check hcheck
  exact hsound

end Catalog

/-! ## Manifests -/

namespace Manifest

theorem sound_of_catalog {manifest : Manifest} {catalog : Catalog}
    (hcatalog : manifest.catalog = .ok catalog) : manifest.Sound := by
  obtain ⟨hplatforms, hcompilers, hcoherent⟩ := Catalog.ofEntries_eq_ok_iff.1 hcatalog
  have haccepted : catalog.Accepted := ⟨_, _, hcatalog⟩
  have hfits := Catalog.coherent_iff_fits.1 hcoherent
  rw [Catalog.map_entry_of_check hplatforms, Catalog.map_compilerEntry_of_check hcompilers]
    at hfits
  refine ⟨hfits, ?_, ?_⟩
  · intro entry hentry
    rw [← Catalog.map_entry_of_check hplatforms] at hentry
    obtain ⟨platform, hplatform, rfl⟩ := List.mem_map.1 hentry
    exact haccepted.sound_platform hplatform
  · intro entry hentry
    rw [← Catalog.map_compilerEntry_of_check hcompilers] at hentry
    obtain ⟨compiler, hcompiler, rfl⟩ := List.mem_map.1 hentry
    exact haccepted.sound_compiler hcompiler

theorem exists_catalog_of_sound {manifest : Manifest} (hsound : manifest.Sound) :
    ∃ catalog, manifest.catalog = .ok catalog := by
  obtain ⟨platforms, hplatforms⟩ := exists_map_ok fun entry hentry =>
    PlatformEntry.exists_check (hsound.platforms entry hentry)
  obtain ⟨compilers, hcompilers⟩ := exists_map_ok fun entry hentry =>
    CompilerEntry.exists_check (hsound.compilers entry hentry)
  have hfits : Catalog.Fits (platforms.map Platform.entry) (compilers.map Compiler.entry) := by
    rw [Catalog.map_entry_of_check hplatforms, Catalog.map_compilerEntry_of_check hcompilers]
    exact hsound.toFits
  exact ⟨⟨platforms, compilers⟩, Catalog.ofEntries_eq_ok_iff.2
    ⟨hplatforms, hcompilers, Catalog.coherent_iff_fits.2 hfits⟩⟩

/-- A manifest has a catalog exactly when it keeps all rules, and its catalog then holds its
entries, field by field and in order. -/
theorem catalog_decides_sound (manifest : Manifest) :
    ((∃ catalog, manifest.catalog = .ok catalog) ↔ manifest.Sound) ∧
      ∀ catalog, manifest.catalog = .ok catalog →
        catalog.platforms.map Platform.entry = manifest.platforms ∧
          catalog.compilers.map Compiler.entry = manifest.compilers := by
  refine ⟨⟨?_, exists_catalog_of_sound⟩, ?_⟩
  · intro ⟨catalog, hcatalog⟩
    exact sound_of_catalog hcatalog
  · intro catalog hcatalog
    obtain ⟨hplatforms, hcompilers, -⟩ := Catalog.ofEntries_eq_ok_iff.1 hcatalog
    exact ⟨Catalog.map_entry_of_check hplatforms, Catalog.map_compilerEntry_of_check hcompilers⟩

end Manifest

end RecipeMatrix
