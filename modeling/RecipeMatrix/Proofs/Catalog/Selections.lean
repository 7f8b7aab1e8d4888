import Mathlib.Data.List.Dedup
import Mathlib.Data.List.Perm.Basic
import RecipeMatrix.Proofs.Catalog.Acceptance

/-!
# What a selection selects

The cells that a selection gives on an accepted catalog, for filters with any names in any order.

* Unknown names.  `checkPlatforms` and `checkCompilers` report the first name that is not known,
  and the platforms are checked first (`checkPlatforms_of_firstUnknown`).
* Order.  The cells of an accepted catalog are told apart by the positions of their platform and
  compiler, and they come platform by platform (`Accepted.cells_pairwise`).
* Counting.  A side keeps as many entries as its filter has distinct names
  (`length_filter_admits`), because no name is repeated in the catalog.
* The assembly.  `Resolves` says all that a selection promises, and `resolves_of_accepted` that
  every selection keeps it.
-/

namespace RecipeMatrix

namespace Catalog

/-- The names of the platforms, in order. -/
def platformNames (catalog : Catalog) : List String := catalog.platforms.map (·.name)

/-- The names of the compilers, in order. -/
def compilerNames (catalog : Catalog) : List String := catalog.compilers.map (·.name)

variable {catalog : Catalog}

theorem platform?_isNone {name : String} :
    (catalog.platform? name).isNone = true ↔ name ∉ catalog.platformNames := by
  simp [platform?, platformNames]

theorem compiler?_isNone {name : String} :
    (catalog.compiler? name).isNone = true ↔ name ∉ catalog.compilerNames := by
  simp [compiler?, compilerNames]

/-! ## Order -/

/-- Platform by platform, and for one platform compiler by compiler. -/
def Precedes (catalog : Catalog) (first second : Cell) : Prop :=
  catalog.platforms.idxOf first.platform < catalog.platforms.idxOf second.platform ∨
    first.platform = second.platform ∧
      catalog.compilers.idxOf first.compiler < catalog.compilers.idxOf second.compiler

/-- In a list without repetitions, positions grow from left to right. -/
theorem pairwise_idxOf {α : Type} [DecidableEq α] {items : List α} (hnodup : items.Nodup) :
    items.Pairwise fun first second => items.idxOf first < items.idxOf second := by
  rw [List.pairwise_iff_getElem]
  intro i j hi hj hij
  rw [hnodup.idxOf_getElem i hi, hnodup.idxOf_getElem j hj]
  exact hij

theorem Accepted.cells_pairwise (haccepted : Accepted catalog) :
    catalog.cells.Pairwise catalog.Precedes := by
  have hplatforms : catalog.platforms.Nodup := haccepted.coherent.nodup_platforms.of_map
  have hcompilers : catalog.compilers.Nodup := haccepted.coherent.nodup_compilers.of_map
  unfold cells cellsOf
  rw [List.pairwise_flatMap]
  refine ⟨?_, (pairwise_idxOf hplatforms).imp ?_⟩
  · intro platform _
    rw [List.pairwise_map]
    exact (pairwise_idxOf hcompilers).imp fun hlt => Or.inr ⟨rfl, hlt⟩
  · intro first second hlt one hone other hother
    obtain ⟨_, _, rfl⟩ := List.mem_map.1 hone
    obtain ⟨_, _, rfl⟩ := List.mem_map.1 hother
    exact Or.inl hlt

end Catalog

theorem length_cellsOf {platforms : List Platform} {compilers : List Compiler} :
    (Catalog.cellsOf platforms compilers).length = platforms.length * compilers.length := by
  induction platforms with
  | nil => simp [Catalog.cellsOf]
  | cons platform platforms ih =>
    unfold Catalog.cellsOf at ih ⊢
    rw [List.flatMap_cons, List.length_append, ih, List.length_map, List.length_cons,
      Nat.succ_mul]
    omega

namespace Selection

variable {catalog : Catalog} {selection : Selection}

/-! ## Unknown names -/

/-- The first name of a filter that is not known: all names before it are. -/
def FirstUnknown (known filter : List String) (name : String) : Prop :=
  ∃ before after, filter = before ++ name :: after ∧ (∀ earlier ∈ before, earlier ∈ known) ∧
    name ∉ known

theorem find?_eq_some_iff_firstUnknown {known filter : List String} {name : String}
    {unknown : String → Bool} (hunknown : ∀ name, unknown name = true ↔ name ∉ known) :
    filter.find? unknown = some name ↔ FirstUnknown known filter name := by
  have hfound (name : String) : unknown name = false ↔ name ∈ known := by
    rw [← not_iff_not, ← hunknown name]
    simp
  rw [List.find?_eq_some_iff_append]
  constructor
  · intro ⟨hname, before, after, hfilter, hbefore⟩
    refine ⟨before, after, hfilter, fun earlier hearlier => ?_, (hunknown name).1 hname⟩
    exact (hfound earlier).1 (by simpa using hbefore earlier hearlier)
  · intro ⟨before, after, hfilter, hbefore, hname⟩
    refine ⟨(hunknown name).2 hname, before, after, hfilter, fun earlier hearlier => ?_⟩
    simpa using (hfound earlier).2 (hbefore earlier hearlier)

theorem exists_firstUnknown {known filter : List String}
    (hunknown : ∃ name ∈ filter, name ∉ known) : ∃ name, FirstUnknown known filter name := by
  obtain ⟨name, hname, hnew⟩ := hunknown
  have hdecides (name : String) : (!known.contains name) = true ↔ name ∉ known := by simp
  have hfound : (filter.find? fun name => !known.contains name).isSome := by
    rw [List.find?_isSome]
    exact ⟨name, hname, (hdecides name).2 hnew⟩
  obtain ⟨first, hfirst⟩ := Option.isSome_iff_exists.1 hfound
  exact ⟨first, (find?_eq_some_iff_firstUnknown hdecides).1 hfirst⟩

theorem checkPlatforms_of_firstUnknown {names : List String} {name : String}
    (hfirst : FirstUnknown catalog.platformNames names name) :
    checkPlatforms catalog names =
      .error (.unknownPlatform name (suggestions name catalog.platformNames)) := by
  unfold checkPlatforms
  rw [(find?_eq_some_iff_firstUnknown fun _ => Catalog.platform?_isNone).2 hfirst]
  rfl

theorem checkCompilers_of_firstUnknown {names : List String} {name : String}
    (hfirst : FirstUnknown catalog.compilerNames names name) :
    checkCompilers catalog names =
      .error (.unknownCompiler name (suggestions name catalog.compilerNames)) := by
  unfold checkCompilers
  rw [(find?_eq_some_iff_firstUnknown fun _ => Catalog.compiler?_isNone).2 hfirst]
  rfl

theorem checkPlatforms_of_known {names : List String}
    (hknown : ∀ name ∈ names, name ∈ catalog.platformNames) :
    checkPlatforms catalog names = .ok () := by
  have hnone : (names.find? fun name => (catalog.platform? name).isNone) = none := by
    rw [List.find?_eq_none]
    intro name hname hunknown
    exact Catalog.platform?_isNone.1 hunknown (hknown name hname)
  unfold checkPlatforms
  rw [hnone]

theorem checkCompilers_of_known {names : List String}
    (hknown : ∀ name ∈ names, name ∈ catalog.compilerNames) :
    checkCompilers catalog names = .ok () := by
  have hnone : (names.find? fun name => (catalog.compiler? name).isNone) = none := by
    rw [List.find?_eq_none]
    intro name hname hunknown
    exact Catalog.compiler?_isNone.1 hunknown (hknown name hname)
  unfold checkCompilers
  rw [hnone]

/-- A selection of known names. -/
structure Known (catalog : Catalog) (selection : Selection) : Prop where
  platforms : ∀ name ∈ selection.platforms, name ∈ catalog.platformNames
  compilers : ∀ name ∈ selection.compilers, name ∈ catalog.compilerNames

/-- The cells of a catalog that pass both filters, side by side. -/
def picked (selection : Selection) (catalog : Catalog) : List Cell :=
  Catalog.cellsOf
    (catalog.platforms.filter fun platform => admits selection.platforms platform.name)
    (catalog.compilers.filter fun compiler => admits selection.compilers compiler.name)

theorem cells_of_known (hknown : Known catalog selection) :
    selection.cells catalog = .ok (selection.picked catalog) := by
  unfold cells
  rw [checkPlatforms_of_known hknown.platforms, checkCompilers_of_known hknown.compilers]
  rfl

theorem cells_all (catalog : Catalog) : Selection.all.cells catalog = .ok catalog.cells := by
  have hknown : Known catalog .all := ⟨nofun, nofun⟩
  have hpicked : Selection.all.picked catalog = catalog.cells := by
    simp [picked, Selection.all, admits, Catalog.cells]
  rw [cells_of_known hknown, hpicked]

/-! ## Counting -/

theorem admits_iff {filter : List String} {name : String} :
    admits filter name = true ↔ filter = [] ∨ name ∈ filter := by
  simp [admits]

/-- How many entries a filter keeps: all of them, or one for each of its distinct names. -/
def width (entries : Nat) (filter : List String) : Nat :=
  if filter = [] then entries else filter.dedup.length

/-- Without repeated names among the entries, a filter of known names keeps one entry for each
of its distinct names. -/
theorem length_filter_admits {α : Type} {entries : List α} {nameOf : α → String}
    {filter : List String} (hnodup : (entries.map nameOf).Nodup)
    (hknown : ∀ name ∈ filter, name ∈ entries.map nameOf) :
    (entries.filter fun entry => admits filter (nameOf entry)).length =
      width entries.length filter := by
  unfold width
  split
  next hempty => simp [hempty, admits]
  next hfilter =>
    let kept := entries.filter fun entry => admits filter (nameOf entry)
    have hkept : (kept.map nameOf).Nodup := hnodup.sublist (List.filter_sublist.map nameOf)
    have hmem (name : String) : name ∈ kept.map nameOf ↔ name ∈ filter.dedup := by
      rw [List.mem_dedup]
      constructor
      · intro hname
        obtain ⟨entry, hentry, rfl⟩ := List.mem_map.1 hname
        have hadmits := (List.mem_filter.1 hentry).2
        exact (admits_iff.1 hadmits).resolve_left hfilter
      · intro hname
        obtain ⟨entry, hentry, rfl⟩ := List.mem_map.1 (hknown name hname)
        have hadmits : admits filter (nameOf entry) = true := admits_iff.2 (Or.inr hname)
        exact List.mem_map.2 ⟨entry, List.mem_filter.2 ⟨hentry, hadmits⟩, rfl⟩
    have hperm : (kept.map nameOf).Perm filter.dedup :=
      (List.perm_ext_iff_of_nodup hkept (List.nodup_dedup filter)).2 hmem
    rw [← hperm.length_eq, List.length_map]

/-! ## The selected cells -/

/-- Filters that list the same names, in any order and any number of times. -/
def SameNames (one other : List String) : Prop := ∀ name, name ∈ one ↔ name ∈ other

theorem SameNames.admits_eq {one other : List String} (hsame : SameNames one other)
    (name : String) : admits one name = admits other name := by
  have hempty : one = [] ↔ other = [] := by
    rw [List.eq_nil_iff_forall_not_mem, List.eq_nil_iff_forall_not_mem]
    exact forall_congr' fun name => not_congr (hsame name)
  rw [Bool.eq_iff_iff, admits_iff, admits_iff, hempty, hsame name]

/-- What the cells of a selection of known names are. -/
structure Picked (catalog : Catalog) (selection : Selection) (selected : List Cell) : Prop where
  /-- They are the cells of the catalog that pass both filters. -/
  mem_iff : ∀ cell, cell ∈ selected ↔
    cell.platform ∈ catalog.platforms ∧ cell.compiler ∈ catalog.compilers ∧
      (selection.platforms = [] ∨ cell.platform.name ∈ selection.platforms) ∧
      (selection.compilers = [] ∨ cell.compiler.name ∈ selection.compilers)
  /-- They come platform by platform, in the order of the catalog. -/
  ordered : selected.Pairwise catalog.Precedes
  nodup : selected.Nodup
  /-- Their number is the product of the numbers of distinct names. -/
  length_eq : selected.length =
    width catalog.platforms.length selection.platforms *
      width catalog.compilers.length selection.compilers
  /-- Without filters all cells of the catalog are selected. -/
  length_all : selection.isAll = true → selected.length = catalog.cellCount
  nodup_outputNames : (selected.map Cell.outputName).Nodup
  /-- The order and the number of times in which names are listed make no difference. -/
  invariant : ∀ other : Selection, SameNames selection.platforms other.platforms →
    SameNames selection.compilers other.compilers → other.cells catalog = .ok selected

theorem mem_picked {cell : Cell} : cell ∈ selection.picked catalog ↔
    cell.platform ∈ catalog.platforms ∧ cell.compiler ∈ catalog.compilers ∧
      (selection.platforms = [] ∨ cell.platform.name ∈ selection.platforms) ∧
      (selection.compilers = [] ∨ cell.compiler.name ∈ selection.compilers) := by
  unfold picked
  rw [Catalog.mem_cellsOf, List.mem_filter, List.mem_filter, admits_iff, admits_iff]
  tauto

theorem length_picked (haccepted : catalog.Accepted) (hknown : Known catalog selection) :
    (selection.picked catalog).length =
      width catalog.platforms.length selection.platforms *
        width catalog.compilers.length selection.compilers := by
  have hcoherent := haccepted.coherent
  unfold picked
  rw [length_cellsOf, length_filter_admits hcoherent.nodup_platforms hknown.platforms,
    length_filter_admits hcoherent.nodup_compilers hknown.compilers]

theorem cells_of_sameNames {other : Selection} (hknown : Known catalog selection)
    (hplatforms : SameNames selection.platforms other.platforms)
    (hcompilers : SameNames selection.compilers other.compilers) :
    other.cells catalog = .ok (selection.picked catalog) := by
  have hother : Known catalog other :=
    ⟨fun name hname => hknown.platforms name ((hplatforms name).2 hname),
      fun name hname => hknown.compilers name ((hcompilers name).2 hname)⟩
  have hsame : other.picked catalog = selection.picked catalog := by
    unfold picked
    simp only [hplatforms.admits_eq, hcompilers.admits_eq]
  rw [cells_of_known hother, hsame]

theorem picked_of_known (haccepted : catalog.Accepted) (hknown : Known catalog selection) :
    Picked catalog selection (selection.picked catalog) := by
  have hsublist := Catalog.cells_sublist_of_selection (cells_of_known hknown)
  have hlength := length_picked haccepted hknown
  have hnames : ((selection.picked catalog).map Cell.outputName).Nodup :=
    haccepted.nodup_outputNames.sublist (hsublist.map _)
  refine
    { mem_iff := fun cell => mem_picked
      ordered := haccepted.cells_pairwise.sublist hsublist
      nodup := hnames.of_map
      length_eq := hlength
      length_all := ?_
      nodup_outputNames := hnames
      invariant := fun other => cells_of_sameNames hknown }
  intro hall
  have hempty : selection.platforms = [] ∧ selection.compilers = [] := by
    simpa [isAll] using hall
  rw [hlength, hempty.1, hempty.2]
  rfl

/-! ## Selections on accepted catalogs -/

/-- What becomes of a selection: the first unknown name is reported, platforms first, and known
names pick their cells. -/
structure Resolves (catalog : Catalog) (selection : Selection) : Prop where
  fails_iff : (∃ error, selection.cells catalog = .error error) ↔
    (∃ name ∈ selection.platforms, name ∉ catalog.platformNames) ∨
      ∃ name ∈ selection.compilers, name ∉ catalog.compilerNames
  unknownPlatform : ∀ name, FirstUnknown catalog.platformNames selection.platforms name →
    selection.cells catalog =
      .error (.unknownPlatform name (suggestions name catalog.platformNames))
  unknownCompiler : ∀ name,
    (∀ known ∈ selection.platforms, known ∈ catalog.platformNames) →
    FirstUnknown catalog.compilerNames selection.compilers name →
    selection.cells catalog =
      .error (.unknownCompiler name (suggestions name catalog.compilerNames))
  picks : Known catalog selection →
    ∃ selected, selection.cells catalog = .ok selected ∧ Picked catalog selection selected

theorem cells_of_unknownPlatform {name : String}
    (hfirst : FirstUnknown catalog.platformNames selection.platforms name) :
    selection.cells catalog =
      .error (.unknownPlatform name (suggestions name catalog.platformNames)) := by
  unfold cells
  rw [checkPlatforms_of_firstUnknown hfirst]
  rfl

theorem cells_of_unknownCompiler {name : String}
    (hplatforms : ∀ known ∈ selection.platforms, known ∈ catalog.platformNames)
    (hfirst : FirstUnknown catalog.compilerNames selection.compilers name) :
    selection.cells catalog =
      .error (.unknownCompiler name (suggestions name catalog.compilerNames)) := by
  unfold cells
  rw [checkPlatforms_of_known hplatforms, checkCompilers_of_firstUnknown hfirst]
  rfl

theorem fails_iff_unknown : (∃ error, selection.cells catalog = .error error) ↔
    (∃ name ∈ selection.platforms, name ∉ catalog.platformNames) ∨
      ∃ name ∈ selection.compilers, name ∉ catalog.compilerNames := by
  by_cases hplatforms : ∃ name ∈ selection.platforms, name ∉ catalog.platformNames
  · obtain ⟨name, hfirst⟩ := exists_firstUnknown hplatforms
    exact iff_of_true ⟨_, cells_of_unknownPlatform hfirst⟩ (Or.inl hplatforms)
  · have hknown : ∀ name ∈ selection.platforms, name ∈ catalog.platformNames := by
      simpa using hplatforms
    by_cases hcompilers : ∃ name ∈ selection.compilers, name ∉ catalog.compilerNames
    · obtain ⟨name, hfirst⟩ := exists_firstUnknown hcompilers
      exact iff_of_true ⟨_, cells_of_unknownCompiler hknown hfirst⟩ (Or.inr hcompilers)
    · have hcells := cells_of_known ⟨hknown, by simpa using hcompilers⟩
      refine iff_of_false ?_ (by simp only [hplatforms, hcompilers, or_self, not_false_eq_true])
      intro ⟨error, herror⟩
      rw [hcells] at herror
      cases herror

/-- Every selection resolves on an accepted catalog. -/
theorem resolves_of_accepted (haccepted : catalog.Accepted) (selection : Selection) :
    Resolves catalog selection where
  fails_iff := fails_iff_unknown
  unknownPlatform := fun _ => cells_of_unknownPlatform
  unknownCompiler := fun _ => cells_of_unknownCompiler
  picks := fun hknown => ⟨_, cells_of_known hknown, picked_of_known haccepted hknown⟩

theorem resolves_of_accepted_small :
    (Catalog.small "gcc" "clang").Accepted ∧
      Known (Catalog.small "gcc" "clang") ⟨["debian"], ["clang", "gcc", "clang"]⟩ ∧
      ∃ selected,
        Selection.cells ⟨["debian"], ["clang", "gcc", "clang"]⟩ (Catalog.small "gcc" "clang") =
          .ok selected ∧
        Picked (Catalog.small "gcc" "clang") ⟨["debian"], ["clang", "gcc", "clang"]⟩ selected := by
  have hknown : Known (Catalog.small "gcc" "clang") ⟨["debian"], ["clang", "gcc", "clang"]⟩ :=
    ⟨by decide, by decide⟩
  exact ⟨Catalog.accepted_small, hknown,
    (resolves_of_accepted Catalog.accepted_small _).picks hknown⟩

end Selection

end RecipeMatrix
