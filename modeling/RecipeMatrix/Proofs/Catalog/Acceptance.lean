import Mathlib.Data.List.Nodup
import RecipeMatrix.Catalog.Selection
import RecipeMatrix.Proofs.Path.Route

/-!
# Accepted catalogs

What the checks of a catalog decide, and what they guarantee about its cells.

* Single checks.  Each check passes exactly where its rule holds (`checkName_eq_ok_iff`,
  `checkRuntime_eq_ok_iff` and so on); together those of a whole catalog decide `Coherent`
  (`build_eq_ok_iff`).
* Names.  A platform or compiler name that passes its check is written in a few characters, so an
  output name made of two of them is one step of a path (`Accepted.isName_outputName`).
* Selections.  The selected cells are cells of the catalog, in the same order
  (`cells_sublist_of_selection`), so they share what is known of those.
-/

namespace RecipeMatrix

/-- A sequence without an error has none in its first step. -/
theorem bind_eq_ok_iff {α β ε : Type} {first : Except ε α} {next : α → Except ε β} {result : β} :
    first >>= next = .ok result ↔ ∃ value, first = .ok value ∧ next value = .ok result := by
  cases first with
  | error error => simp [Bind.bind, Except.bind]
  | ok value => simp [Bind.bind, Except.bind]

/-- A list that is mapped without an error is mapped item by item. -/
theorem mapM_eq_ok_iff {α β ε : Type} {f : α → Except ε β} {items : List α} {results : List β} :
    items.mapM f = .ok results ↔ items.map f = results.map .ok := by
  induction items generalizing results with
  | nil =>
    cases results with
    | nil => simp [pure, Except.pure]
    | cons result results => simp [pure, Except.pure]
  | cons item items ih =>
    rw [List.mapM_cons]
    cases hitem : f item with
    | error error =>
      cases results with
      | nil => simp [Bind.bind, Except.bind]
      | cons result results => simp [Bind.bind, Except.bind, hitem]
    | ok result =>
      cases hitems : items.mapM f with
      | error error =>
        cases results with
        | nil => simp [Bind.bind, Except.bind]
        | cons first rest =>
          have hrest : items.map f ≠ rest.map .ok := fun h => by
            rw [ih.2 h] at hitems
            cases hitems
          simp [Bind.bind, Except.bind, hrest]
      | ok mapped =>
        have hmapped := ih.1 hitems
        cases results with
        | nil => simp [Bind.bind, Except.bind, pure, Except.pure]
        | cons first rest =>
          have hrest : mapped = rest ↔ items.map f = rest.map .ok := by
            rw [← ih, hitems, Except.ok.injEq]
          simp [Bind.bind, Except.bind, pure, Except.pure, hitem, hrest]

/-- Items that each have a result have a list of results. -/
theorem exists_map_ok {α β ε : Type} {f : α → Except ε β} {items : List α}
    (hall : ∀ item ∈ items, ∃ result, f item = .ok result) :
    ∃ results : List β, items.map f = results.map .ok := by
  induction items with
  | nil => exact ⟨[], rfl⟩
  | cons item items ih =>
    obtain ⟨result, hresult⟩ := hall item List.mem_cons_self
    obtain ⟨results, hresults⟩ :=
      ih fun other hother => hall other (List.mem_cons_of_mem item hother)
    exact ⟨result :: results, by rw [List.map_cons, List.map_cons, hresult, hresults]⟩

/-- Every result is that of an item. -/
theorem exists_of_map_ok {α β ε : Type} {f : α → Except ε β} {items : List α} {results : List β}
    (hresults : items.map f = results.map .ok) {result : β} (hresult : result ∈ results) :
    ∃ item ∈ items, f item = .ok result := by
  have hmem : .ok result ∈ items.map f := hresults ▸ List.mem_map_of_mem hresult
  exact List.mem_map.1 hmem

/-- What every result has from its item, the results have from the items, in the same order. -/
theorem map_eq_of_map_ok {α β γ ε : Type} {f : α → Except ε β} {ofResult : β → γ} {ofItem : α → γ}
    (hsame : ∀ item result, f item = .ok result → ofResult result = ofItem item)
    {items : List α} {results : List β} (hresults : items.map f = results.map .ok) :
    results.map ofResult = items.map ofItem := by
  induction items generalizing results with
  | nil =>
    rw [List.map_nil, eq_comm, List.map_eq_nil_iff] at hresults
    rw [hresults]
    rfl
  | cons item items ih =>
    cases results with
    | nil => simp at hresults
    | cons result results =>
      rw [List.map_cons, List.map_cons, List.cons.injEq] at hresults
      rw [List.map_cons, List.map_cons, ih hresults.2, hsame item result hresults.1]

namespace Catalog

/-- A catalog that passed all checks. -/
def Accepted (catalog : Catalog) : Prop :=
  ∃ platforms compilers, ofEntries platforms compilers = .ok catalog

/-! ## Single checks -/

/-- A name passes when it is not empty and all its characters are allowed ones. -/
theorem checkName_eq_ok_iff {kind name : String} :
    Entry.checkName kind name = .ok () ↔
      name ≠ "" ∧ ∀ c ∈ name.toList, Entry.isNameChar c = true := by
  unfold Entry.checkName
  by_cases hempty : name = ""
  · simp [hempty]
  · rw [if_neg (by simpa using hempty)]
    have hallowed : (name.toList.find? fun c => !Entry.isNameChar c) = none ↔
        ∀ c ∈ name.toList, Entry.isNameChar c = true := by simp
    rw [← hallowed, and_iff_right hempty]
    cases name.toList.find? fun c => !Entry.isNameChar c with
    | none => simp
    | some c => simp

/-! ## Names -/

theorem platform_name_of_check {entry : PlatformEntry} {platform : Platform}
    (hcheck : entry.check = .ok platform) :
    ∀ c ∈ platform.name.toList, Entry.isNameChar c = true := by
  unfold PlatformEntry.check at hcheck
  simp only [bind_eq_ok_iff] at hcheck
  obtain ⟨⟨⟩, hname, ⟨⟩, -, ⟨⟩, -, install, -, ⟨⟩, -, ⟨⟩, -, hplatform⟩ := hcheck
  rw [← Except.ok.inj hplatform]
  exact (checkName_eq_ok_iff.1 hname).2

theorem compiler_name_of_check {entry : CompilerEntry} {compiler : Compiler}
    (hcheck : entry.check = .ok compiler) :
    ∀ c ∈ compiler.name.toList, Entry.isNameChar c = true := by
  unfold CompilerEntry.check at hcheck
  simp only [bind_eq_ok_iff] at hcheck
  obtain ⟨⟨⟩, hname, ⟨⟩, -, ⟨⟩, -, hcompiler⟩ := hcheck
  rw [← Except.ok.inj hcompiler]
  exact (checkName_eq_ok_iff.1 hname).2

/-- A character of a name is no slash. -/
theorem ne_slash_of_isNameChar {c : Char} (hc : Entry.isNameChar c = true) : c ≠ '/' := by
  rintro rfl
  exact absurd hc (by decide)

/-- An output name is one step of a path. -/
theorem isName_outputName {cell : Cell}
    (hplatform : ∀ c ∈ cell.platform.name.toList, Entry.isNameChar c = true)
    (hcompiler : ∀ c ∈ cell.compiler.name.toList, Entry.isNameChar c = true) :
    Path.IsName cell.outputName := by
  have htext : cell.outputName.toList =
      Cell.outputStem.toList ++ cell.platform.name.toList ++ ['-'] ++
        cell.compiler.name.toList := by
    simp [Cell.outputName]
  have hstem : Cell.outputStem.toList.length = 11 := by decide
  have hlength : 12 ≤ cell.outputName.toList.length := by
    rw [htext]
    simp only [List.length_append, hstem, List.length_singleton]
    omega
  refine ⟨?_, ?_, ?_⟩
  · rw [htext]
    intro hslash
    simp only [List.mem_append, List.mem_singleton] at hslash
    rcases hslash with ((hslash | hslash) | hslash) | hslash
    · exact absurd hslash (by decide)
    · exact ne_slash_of_isNameChar (hplatform _ hslash) rfl
    · cases hslash
    · exact ne_slash_of_isNameChar (hcompiler _ hslash) rfl
  · have hne (part : List Char) (hpart : part.length < 12) : cell.outputName.toList ≠ part := by
      rintro rfl
      omega
    simp [Path.leadsNowhere, hne [] (by decide), hne ['.'] (by decide)]
  · intro h
    simp [h] at hlength

/-! ## Checks of a whole catalog -/

/-- Without a repeated name the names differ from each other and from those seen before. -/
theorem firstRepeated_eq_none_iff {seen names : List String} :
    firstRepeated seen names = none ↔ names.Nodup ∧ ∀ name ∈ names, name ∉ seen := by
  induction names generalizing seen with
  | nil => simp [firstRepeated]
  | cons name names ih =>
    rw [firstRepeated]
    by_cases hname : name ∈ seen
    · simp [hname]
    · rw [if_neg (by simpa using hname), ih, List.nodup_cons]
      constructor
      · rintro ⟨hnodup, hseen⟩
        refine ⟨⟨fun hmem => hseen name hmem List.mem_cons_self, hnodup⟩, ?_⟩
        intro other hother
        rcases List.mem_cons.1 hother with rfl | hother
        · exact hname
        · exact fun hmem => hseen other hother (List.mem_cons_of_mem name hmem)
      · rintro ⟨⟨hnew, hnodup⟩, hseen⟩
        refine ⟨hnodup, fun other hother hmem => ?_⟩
        rcases List.mem_cons.1 hmem with rfl | hmem
        · exact hnew hother
        · exact hseen other (List.mem_cons_of_mem name hother) hmem

theorem firstRepeated_nil_eq_none_iff {names : List String} :
    firstRepeated [] names = none ↔ names.Nodup := by
  simp [firstRepeated_eq_none_iff]

/-- The search for a collision is the search for a repeated output name. -/
theorem firstCollision_eq_none_iff {seen cells : List Cell} :
    firstCollision seen cells = none ↔
      firstRepeated (seen.map Cell.outputName) (cells.map Cell.outputName) = none := by
  induction cells generalizing seen with
  | nil => simp [firstCollision, firstRepeated]
  | cons cell cells ih =>
    rw [firstCollision, List.map_cons, firstRepeated]
    cases hfind : seen.find? fun earlier => earlier.outputName == cell.outputName with
    | some earlier =>
      have hearlier := List.mem_of_find?_eq_some hfind
      have hsame : earlier.outputName = cell.outputName := by simpa using List.find?_some hfind
      have hmem : cell.outputName ∈ seen.map Cell.outputName :=
        List.mem_map.2 ⟨earlier, hearlier, hsame⟩
      rw [if_pos (by simpa using hmem)]
      simp
    | none =>
      have hnew : cell.outputName ∉ seen.map Cell.outputName := by
        simpa using List.find?_eq_none.1 hfind
      rw [if_neg (by simpa using hnew)]
      exact ih

theorem mem_cellsOf {platforms : List Platform} {compilers : List Compiler} {cell : Cell} :
    cell ∈ cellsOf platforms compilers ↔
      cell.platform ∈ platforms ∧ cell.compiler ∈ compilers := by
  simp only [cellsOf, List.mem_flatMap, List.mem_map]
  constructor
  · rintro ⟨platform, hplatform, compiler, hcompiler, rfl⟩
    exact ⟨hplatform, hcompiler⟩
  · rintro ⟨hplatform, hcompiler⟩
    exact ⟨cell.platform, hplatform, cell.compiler, hcompiler, rfl⟩

/-- What the checks of a whole catalog find: names are not repeated, no platform installs a
compiler at run time, and no two cells share an output name. -/
structure Coherent (platforms : List Platform) (compilers : List Compiler) : Prop where
  nodup_platforms : (platforms.map (·.name)).Nodup
  nodup_compilers : (compilers.map (·.name)).Nodup
  runtime : ∀ platform ∈ platforms, ∀ compiler ∈ compilers, compiler.package ∉ platform.runtime
  nodup_outputNames : ((cellsOf platforms compilers).map Cell.outputName).Nodup

theorem checkPlatformNames_eq_ok_iff {platforms : List Platform} :
    checkPlatformNames platforms = .ok () ↔ (platforms.map (·.name)).Nodup := by
  rw [checkPlatformNames, ← firstRepeated_nil_eq_none_iff]
  cases firstRepeated [] (platforms.map (·.name)) with
  | none => simp
  | some name => simp

theorem checkCompilerNames_eq_ok_iff {compilers : List Compiler} :
    checkCompilerNames compilers = .ok () ↔ (compilers.map (·.name)).Nodup := by
  rw [checkCompilerNames, ← firstRepeated_nil_eq_none_iff]
  cases firstRepeated [] (compilers.map (·.name)) with
  | none => simp
  | some name => simp

theorem checkRuntime_eq_ok_iff {platforms : List Platform} {compilers : List Compiler} :
    checkRuntime (cellsOf platforms compilers) = .ok () ↔
      ∀ platform ∈ platforms, ∀ compiler ∈ compilers, compiler.package ∉ platform.runtime := by
  have hcells : ((cellsOf platforms compilers).find? fun cell =>
        cell.platform.runtime.contains cell.compiler.package) = none ↔
      ∀ platform ∈ platforms, ∀ compiler ∈ compilers, compiler.package ∉ platform.runtime := by
    rw [List.find?_eq_none]
    constructor
    · intro hcells platform hplatform compiler hcompiler
      simpa using hcells ⟨platform, compiler⟩ (mem_cellsOf.2 ⟨hplatform, hcompiler⟩)
    · intro hnone cell hcell
      obtain ⟨hplatform, hcompiler⟩ := mem_cellsOf.1 hcell
      simpa using hnone cell.platform hplatform cell.compiler hcompiler
  rw [checkRuntime, ← hcells]
  cases (cellsOf platforms compilers).find? fun cell =>
      cell.platform.runtime.contains cell.compiler.package with
  | none => simp
  | some cell => simp

theorem checkOutputs_eq_ok_iff {cells : List Cell} :
    checkOutputs cells = .ok () ↔ (cells.map Cell.outputName).Nodup := by
  have hnone : firstCollision [] cells = none ↔ (cells.map Cell.outputName).Nodup := by
    rw [firstCollision_eq_none_iff, List.map_nil, firstRepeated_nil_eq_none_iff]
  rw [checkOutputs, ← hnone]
  cases firstCollision [] cells with
  | none => simp
  | some collision => simp

theorem build_eq_ok_iff {platforms : List Platform} {compilers : List Compiler}
    {catalog : Catalog} :
    build platforms compilers = .ok catalog ↔
      Coherent platforms compilers ∧ catalog = ⟨platforms, compilers⟩ := by
  simp only [build, bind_eq_ok_iff, Except.ok.injEq]
  constructor
  · rintro ⟨⟨⟩, hplatforms, ⟨⟩, hcompilers, ⟨⟩, hruntime, ⟨⟩, houtputs, hcatalog⟩
    exact ⟨⟨checkPlatformNames_eq_ok_iff.1 hplatforms, checkCompilerNames_eq_ok_iff.1 hcompilers,
      checkRuntime_eq_ok_iff.1 hruntime, checkOutputs_eq_ok_iff.1 houtputs⟩, hcatalog.symm⟩
  · rintro ⟨⟨hplatforms, hcompilers, hruntime, houtputs⟩, hcatalog⟩
    exact ⟨(), checkPlatformNames_eq_ok_iff.2 hplatforms,
      (), checkCompilerNames_eq_ok_iff.2 hcompilers,
      (), checkRuntime_eq_ok_iff.2 hruntime,
      (), checkOutputs_eq_ok_iff.2 houtputs, hcatalog.symm⟩

/-- The entries of a list that passed a check are the results of the check. -/
theorem ofEntries_eq_ok_iff {platforms : List PlatformEntry} {compilers : List CompilerEntry}
    {catalog : Catalog} :
    ofEntries platforms compilers = .ok catalog ↔
      platforms.map PlatformEntry.check = catalog.platforms.map .ok ∧
        compilers.map CompilerEntry.check = catalog.compilers.map .ok ∧
          Coherent catalog.platforms catalog.compilers := by
  simp only [ofEntries, bind_eq_ok_iff, mapM_eq_ok_iff, build_eq_ok_iff]
  constructor
  · rintro ⟨checked, hplatforms, found, hcompilers, hcoherent, rfl⟩
    exact ⟨hplatforms, hcompilers, hcoherent⟩
  · rintro ⟨hplatforms, hcompilers, hcoherent⟩
    exact ⟨catalog.platforms, hplatforms, catalog.compilers, hcompilers, hcoherent, rfl⟩

namespace Accepted

variable {catalog : Catalog}

theorem coherent (haccepted : Accepted catalog) :
    Coherent catalog.platforms catalog.compilers := by
  obtain ⟨platforms, compilers, hof⟩ := haccepted
  exact (ofEntries_eq_ok_iff.1 hof).2.2

theorem isName_outputName (haccepted : Accepted catalog) {cell : Cell}
    (hcell : cell ∈ catalog.cells) : Path.IsName cell.outputName := by
  obtain ⟨platforms, compilers, hof⟩ := haccepted
  obtain ⟨hplatforms, hcompilers, -⟩ := ofEntries_eq_ok_iff.1 hof
  obtain ⟨hplatform, hcompiler⟩ := mem_cellsOf.1 hcell
  obtain ⟨platform, -, hplatform⟩ := exists_of_map_ok hplatforms hplatform
  obtain ⟨compiler, -, hcompiler⟩ := exists_of_map_ok hcompilers hcompiler
  exact Catalog.isName_outputName (platform_name_of_check hplatform)
    (compiler_name_of_check hcompiler)

theorem nodup_outputNames (haccepted : Accepted catalog) :
    (catalog.cells.map Cell.outputName).Nodup :=
  haccepted.coherent.nodup_outputNames

end Accepted

/-! ## Selections -/

theorem cellsOf_sublist {platforms platforms' : List Platform}
    {compilers compilers' : List Compiler} (hplatforms : platforms.Sublist platforms')
    (hcompilers : compilers.Sublist compilers') :
    (cellsOf platforms compilers).Sublist (cellsOf platforms' compilers') := by
  unfold cellsOf
  induction hplatforms with
  | slnil => exact List.Sublist.refl _
  | cons platform _ ih =>
    rw [List.flatMap_cons]
    exact ih.trans (List.sublist_append_right _ _)
  | cons_cons platform _ ih =>
    rw [List.flatMap_cons, List.flatMap_cons]
    exact (hcompilers.map _).append ih

/-- The selected cells, in the order of the catalog. -/
theorem cells_sublist_of_selection {catalog : Catalog} {selection : Selection}
    {selected : List Cell} (hcells : selection.cells catalog = .ok selected) :
    selected.Sublist catalog.cells := by
  simp only [Selection.cells, bind_eq_ok_iff] at hcells
  obtain ⟨⟨⟩, -, ⟨⟩, -, hselected⟩ := hcells
  rw [← Except.ok.inj hselected]
  exact cellsOf_sublist List.filter_sublist List.filter_sublist

theorem mem_cells_of_selection {catalog : Catalog} {selection : Selection}
    {selected : List Cell} (hcells : selection.cells catalog = .ok selected) :
    ∀ cell ∈ selected, cell ∈ catalog.cells :=
  fun _ hcell => (cells_sublist_of_selection hcells).subset hcell

end Catalog

/-! ## A small catalog -/

/-- A platform of few words. -/
def Platform.small : Platform :=
  ⟨"debian", "debian:12", ⟨"apt-get install -y ", ""⟩, ["make"], []⟩

/-- A catalog with one platform and two compilers. -/
def Catalog.small (first second : String) : Catalog where
  platforms := [Platform.small]
  compilers := [⟨first, "g++"⟩, ⟨second, "clang"⟩]

theorem Catalog.accepted_small : (Catalog.small "gcc" "clang").Accepted :=
  ⟨[⟨"debian", "debian:12", "apt-get install -y \x7bdeps\x7d", ["make"], []⟩],
    [⟨"gcc", "g++"⟩, ⟨"clang", "clang"⟩], by decide +kernel⟩

end RecipeMatrix
