import RecipeMatrix.Generation
import RecipeMatrix.Proofs.Catalog.Selections
import RecipeMatrix.Proofs.Catalog.Soundness
import RecipeMatrix.Proofs.Recipe.Rendering

/-!
# Parts of a catalog

What is left of a catalog when entries are removed or put in another order.  The checks of a whole
catalog look at the entries one after another and stop at the first that offends; what they decide
does not depend on that order, and fewer entries offend less.

* Entries.  Names that are not repeated find their entry (`filter_admits_eq_singleton`), so a
  selection of two names is the cell of those names (`cells_pair`).
* Acceptance.  `IsPart` says what a part of a catalog is; it is as coherent as the whole
  (`Coherent.part`), and it keeps the cells whose two names it has (`IsPart.perm_cells`).
* Recipes.  The recipes that stay are those of the kept cells (`IsPart.exists_recipes_all`).
* The assembly.  `Inherits` says all that a part has from the whole, and `inherits_of_isPart` that
  every part has it.
-/

namespace RecipeMatrix

/-- What the items that are kept are mapped to, when the items and their results are kept alike. -/
theorem filter_map_ok {α β ε : Type} {f : α → Except ε β} {keepsItem : α → Bool}
    {keeps : β → Bool} (hsame : ∀ item result, f item = .ok result → keeps result = keepsItem item)
    {items : List α} {results : List β} (hresults : items.map f = results.map .ok) :
    (items.filter keepsItem).map f = (results.filter keeps).map .ok := by
  induction items generalizing results with
  | nil =>
    rw [List.map_nil, eq_comm, List.map_eq_nil_iff] at hresults
    rw [hresults]
    rfl
  | cons item items ih =>
    cases results with
    | nil => simp at hresults
    | cons result results =>
      rw [List.map_cons, List.map_cons, List.cons.injEq] at hresults
      have hkeeps := hsame item result hresults.1
      rw [List.filter_cons, List.filter_cons, hkeeps]
      split
      next => rw [List.map_cons, List.map_cons, hresults.1, ih hresults.2]
      next => exact ih hresults.2

/-! ## Entries -/

namespace Selection

/-- The selection of one pair. -/
def pair (platform compiler : String) : Selection := ⟨[platform], [compiler]⟩

/-- Without repeated names, the name of an entry finds nothing else. -/
theorem filter_admits_eq_singleton {α : Type} {entries : List α} {nameOf : α → String} {entry : α}
    (hnodup : (entries.map nameOf).Nodup) (hentry : entry ∈ entries) :
    (entries.filter fun other => admits [nameOf entry] (nameOf other)) = [entry] := by
  rw [← List.perm_singleton]
  refine (List.perm_ext_iff_of_nodup (hnodup.of_map.filter _) (List.nodup_singleton entry)).2
    fun other => ?_
  rw [List.mem_filter, admits_iff, List.mem_singleton, List.mem_singleton]
  constructor
  · intro ⟨hother, hname⟩
    exact List.inj_on_of_nodup_map hnodup hother hentry (hname.resolve_left nofun)
  · rintro rfl
    exact ⟨hentry, .inr rfl⟩

theorem cells_pair {catalog : Catalog}
    (hcoherent : Catalog.Coherent catalog.platforms catalog.compilers)
    {platform : Platform} (hplatform : platform ∈ catalog.platforms)
    {compiler : Compiler} (hcompiler : compiler ∈ catalog.compilers) :
    (pair platform.name compiler.name).cells catalog = .ok [⟨platform, compiler⟩] := by
  have hknown : Known catalog (pair platform.name compiler.name) :=
    ⟨fun name hname => List.mem_singleton.1 hname ▸ List.mem_map_of_mem hplatform,
      fun name hname => List.mem_singleton.1 hname ▸ List.mem_map_of_mem hcompiler⟩
  rw [cells_of_known hknown, picked, pair,
    filter_admits_eq_singleton hcoherent.nodup_platforms hplatform,
    filter_admits_eq_singleton hcoherent.nodup_compilers hcompiler]
  rfl

end Selection

/-! ## Acceptance -/

namespace Catalog

/-- A catalog of some entries of another, none of them twice, in any order. -/
structure IsPart (part whole : Catalog) : Prop where
  platforms : part.platforms ⊆ whole.platforms
  compilers : part.compilers ⊆ whole.compilers
  nodup_platforms : part.platforms.Nodup
  nodup_compilers : part.compilers.Nodup

/-- Both names of a pair are in a catalog. -/
def names (catalog : Catalog) (platform compiler : String) : Bool :=
  catalog.platformNames.contains platform && catalog.compilerNames.contains compiler

theorem names_iff {catalog : Catalog} {platform compiler : String} :
    catalog.names platform compiler = true ↔
      platform ∈ catalog.platformNames ∧ compiler ∈ catalog.compilerNames := by
  simp [names]

/-- Some of the entries that go together go together in any order. -/
theorem Coherent.part {part whole : Catalog} (hwhole : Coherent whole.platforms whole.compilers)
    (hpart : part.IsPart whole) : Coherent part.platforms part.compilers where
  nodup_platforms := hpart.nodup_platforms.map_on fun _ hone _ hother =>
    List.inj_on_of_nodup_map hwhole.nodup_platforms (hpart.platforms hone)
      (hpart.platforms hother)
  nodup_compilers := hpart.nodup_compilers.map_on fun _ hone _ hother =>
    List.inj_on_of_nodup_map hwhole.nodup_compilers (hpart.compilers hone)
      (hpart.compilers hother)
  runtime := fun platform hplatform compiler hcompiler =>
    hwhole.runtime platform (hpart.platforms hplatform) compiler (hpart.compilers hcompiler)
  nodup_outputNames := by
    refine (nodup_cellsOf hpart.nodup_platforms hpart.nodup_compilers).map_on ?_
    intro one hone other hother hsame
    have hmem (cell : Cell) (hcell : cell ∈ cellsOf part.platforms part.compilers) :
        cell ∈ cellsOf whole.platforms whole.compilers :=
      mem_cellsOf.2 ⟨hpart.platforms (mem_cellsOf.1 hcell).1,
        hpart.compilers (mem_cellsOf.1 hcell).2⟩
    exact List.inj_on_of_nodup_map hwhole.nodup_outputNames (hmem one hone) (hmem other hother)
      hsame

/-- The entries of a part of an accepted catalog are sound, since they were before. -/
theorem Accepted.part {part whole : Catalog} (hwhole : whole.Accepted)
    (hpart : part.IsPart whole) : part.Accepted := by
  rw [accepted_iff, ofEntries_eq_ok_iff]
  obtain ⟨platforms, compilers, hof⟩ := hwhole
  obtain ⟨hplatforms, hcompilers, hcoherent⟩ := ofEntries_eq_ok_iff.1 hof
  refine ⟨?_, ?_, hcoherent.part hpart⟩
  · rw [List.map_map]
    refine List.map_congr_left fun platform hplatform => ?_
    obtain ⟨entry, -, hcheck⟩ := exists_of_map_ok hplatforms (hpart.platforms hplatform)
    rw [Function.comp_apply, (PlatformEntry.of_check hcheck).2, hcheck]
  · rw [List.map_map]
    refine List.map_congr_left fun compiler hcompiler => ?_
    obtain ⟨entry, -, hcheck⟩ := exists_of_map_ok hcompilers (hpart.compilers hcompiler)
    rw [Function.comp_apply, (CompilerEntry.of_check hcheck).2, hcheck]

/-- The cells of a part are the cells of the whole whose two names it has. -/
theorem IsPart.mem_cells_iff {part whole : Catalog} (hpart : part.IsPart whole)
    (hwhole : Coherent whole.platforms whole.compilers) {cell : Cell} :
    cell ∈ part.cells ↔
      cell ∈ whole.cells ∧ part.names cell.platform.name cell.compiler.name = true := by
  simp only [cells, mem_cellsOf, names_iff]
  constructor
  · rintro ⟨hplatform, hcompiler⟩
    exact ⟨⟨hpart.platforms hplatform, hpart.compilers hcompiler⟩,
      List.mem_map_of_mem hplatform, List.mem_map_of_mem hcompiler⟩
  · rintro ⟨⟨hplatform, hcompiler⟩, hplatformName, hcompilerName⟩
    obtain ⟨platform, hkeptPlatform, hplatformSame⟩ := List.mem_map.1 hplatformName
    obtain ⟨compiler, hkeptCompiler, hcompilerSame⟩ := List.mem_map.1 hcompilerName
    have hplatformEq := List.inj_on_of_nodup_map hwhole.nodup_platforms
      (hpart.platforms hkeptPlatform) hplatform hplatformSame
    have hcompilerEq := List.inj_on_of_nodup_map hwhole.nodup_compilers
      (hpart.compilers hkeptCompiler) hcompiler hcompilerSame
    exact ⟨hplatformEq ▸ hkeptPlatform, hcompilerEq ▸ hkeptCompiler⟩

theorem IsPart.perm_cells {part whole : Catalog} (hpart : part.IsPart whole)
    (hwhole : Coherent whole.platforms whole.compilers) :
    part.cells.Perm
      (whole.cells.filter fun cell => part.names cell.platform.name cell.compiler.name) := by
  have hkept : part.cells.Nodup := nodup_cellsOf hpart.nodup_platforms hpart.nodup_compilers
  have hcells : whole.cells.Nodup := hwhole.nodup_outputNames.of_map
  refine (List.perm_ext_iff_of_nodup hkept (hcells.filter _)).2 fun cell => ?_
  rw [List.mem_filter, hpart.mem_cells_iff hwhole]

/-! ## Recipes -/

/-- A selection with the same cells in two catalogs has the same recipes. -/
theorem recipes_congr {part whole : Catalog} {renderer : Renderer} {selection : Selection}
    (hcells : selection.cells part = selection.cells whole) :
    (⟨part, renderer⟩ : Generator).recipes selection =
      (⟨whole, renderer⟩ : Generator).recipes selection := by
  simp only [Generator.recipes, Recipe.ofSelection, hcells]

theorem IsPart.exists_recipes_all {part whole : Catalog} (hpart : part.IsPart whole)
    (hwhole : Coherent whole.platforms whole.compilers) {renderer : Renderer}
    {recipes : List Recipe}
    (hrecipes : (⟨whole, renderer⟩ : Generator).recipes .all = .ok recipes) :
    ∃ kept, (⟨part, renderer⟩ : Generator).recipes .all = .ok kept ∧
      kept.Perm (recipes.filter fun recipe => part.names recipe.platform recipe.compiler) := by
  obtain ⟨cells, hcells, hmap⟩ := Recipe.ofSelection_eq_ok_iff.1 hrecipes
  obtain rfl : whole.cells = cells := Except.ok.inj ((Selection.cells_all whole).symm.trans hcells)
  have hnames : ∀ cell recipe, Recipe.ofCell renderer cell = .ok recipe →
      part.names recipe.platform recipe.compiler =
        part.names cell.platform.name cell.compiler.name := by
    intro cell recipe hof
    obtain ⟨hplatform, hcompiler, -⟩ := Recipe.ofCell_eq_ok hof
    rw [hplatform, hcompiler]
  have hfiltered : (whole.cells.filter fun cell =>
      part.names cell.platform.name cell.compiler.name).map (Recipe.ofCell renderer) =
        (recipes.filter fun recipe => part.names recipe.platform recipe.compiler).map .ok :=
    filter_map_ok hnames hmap
  have hperm := (hpart.perm_cells hwhole).map (Recipe.ofCell renderer)
  rw [hfiltered] at hperm
  obtain ⟨kept, hkept⟩ : ∃ kept : List Recipe,
      part.cells.map (Recipe.ofCell renderer) = kept.map .ok :=
    exists_map_ok fun cell hcell => by
      have hcell := ((hpart.mem_cells_iff hwhole).1 hcell).1
      have hresult : Recipe.ofCell renderer cell ∈ recipes.map .ok :=
        hmap ▸ List.mem_map_of_mem hcell
      obtain ⟨recipe, -, hrecipe⟩ := List.mem_map.1 hresult
      exact ⟨recipe, hrecipe.symm⟩
  refine ⟨kept, Recipe.ofSelection_eq_ok_iff.2 ⟨_, Selection.cells_all part, hkept⟩, ?_⟩
  rw [hkept] at hperm
  exact (List.map_perm_map_iff fun _ _ hsame => Except.ok.inj hsame).1 hperm

/-! ## The assembly -/

/-- What a part of a catalog has from the whole. -/
structure Inherits (part whole : Catalog) : Prop where
  /-- It passes the checks of a catalog. -/
  build_eq : build part.platforms part.compilers = .ok part
  /-- It is a catalog of entries, if the whole is. -/
  accepted : whole.Accepted → part.Accepted
  /-- A pair that stays has the recipe that it had, with any renderer. -/
  pair_eq : ∀ renderer, ∀ platform ∈ part.platforms, ∀ compiler ∈ part.compilers,
    (⟨part, renderer⟩ : Generator).recipes (.pair platform.name compiler.name) =
      (⟨whole, renderer⟩ : Generator).recipes (.pair platform.name compiler.name)
  /-- With the built-in template it has one, which is that of its cell. -/
  pair_builtin : ∀ platform ∈ part.platforms, ∀ compiler ∈ part.compilers, ∃ recipe,
    (⟨part, Recipe.builtin⟩ : Generator).recipes (.pair platform.name compiler.name) =
        .ok [recipe] ∧
      Recipe.ofCell Recipe.builtin ⟨platform, compiler⟩ = .ok recipe
  /-- All recipes of the part are those of the whole whose pair stays, each of them once. -/
  all_perm : ∀ renderer recipes,
    (⟨whole, renderer⟩ : Generator).recipes .all = .ok recipes →
    ∃ kept, (⟨part, renderer⟩ : Generator).recipes .all = .ok kept ∧
      kept.Perm (recipes.filter fun recipe => part.names recipe.platform recipe.compiler)

/-- Removing entries of a catalog that passes its checks, or putting them in another order, leaves
a catalog that passes them, and the recipes of the pairs that stay. -/
theorem inherits_of_isPart {platforms : List Platform} {compilers : List Compiler}
    {part whole : Catalog} (hwhole : build platforms compilers = .ok whole)
    (hpart : part.IsPart whole) : part.Inherits whole := by
  obtain ⟨hcoherent, rfl⟩ := build_eq_ok_iff.1 hwhole
  have hkept := hcoherent.part hpart
  have hcells {platform : Platform} (hplatform : platform ∈ part.platforms)
      {compiler : Compiler} (hcompiler : compiler ∈ part.compilers) :=
    Selection.cells_pair hkept hplatform hcompiler
  refine
    { build_eq := build_eq_ok_iff.2 ⟨hkept, rfl⟩
      accepted := fun haccepted => haccepted.part hpart
      pair_eq := fun renderer platform hplatform compiler hcompiler => recipes_congr ?_
      pair_builtin := fun platform hplatform compiler hcompiler =>
        ⟨_, Recipe.ofSelection_builtin (hcells hplatform hcompiler), Recipe.ofCell_builtin _⟩
      all_perm := fun renderer recipes => hpart.exists_recipes_all hcoherent }
  rw [hcells hplatform hcompiler, Selection.cells_pair hcoherent (hpart.platforms hplatform)
    (hpart.compilers hcompiler)]

/-- A catalog with two platforms and two compilers. -/
def square : Catalog where
  platforms := [.small, ⟨"alpine", "alpine:3", ⟨"apk add ", ""⟩, ["make"], ["vips"]⟩]
  compilers := [⟨"gcc", "g++"⟩, ⟨"clang", "clang"⟩]

/-- A part of it: the platforms change places and a compiler is gone. -/
def squarePart : Catalog where
  platforms := [⟨"alpine", "alpine:3", ⟨"apk add ", ""⟩, ["make"], ["vips"]⟩, .small]
  compilers := [⟨"clang", "clang"⟩]

theorem inherits_of_isPart_square :
    build square.platforms square.compilers = .ok square ∧ squarePart.IsPart square ∧
      squarePart.Inherits square := by
  have hbuild : build square.platforms square.compilers = .ok square := by decide +kernel
  have hpart : squarePart.IsPart square :=
    ⟨by simp [square, squarePart], by simp [square, squarePart], by decide, by decide⟩
  exact ⟨hbuild, hpart, inherits_of_isPart hbuild hpart⟩

end Catalog

end RecipeMatrix
