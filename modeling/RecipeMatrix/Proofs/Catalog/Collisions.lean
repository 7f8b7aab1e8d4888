import RecipeMatrix.Proofs.Catalog.Soundness

/-!
# Colliding output names

An output name joins the names of a platform and of a compiler with a hyphen.  Names have hyphens
of their own, so the same output name can be cut into two names in more than one place.

* Names.  Two cells share an output name when they agree in both names, or when one of them
  `Overlaps` the other: the longer platform name takes in a beginning of the longer compiler name
  (`Cell.outputName_eq_iff`).
* Catalogs.  `Catalog.build` compares the output names of all cells.  When everything else about
  its entries is in order, it reports a collision exactly when one cell overlaps another
  (`Catalog.collides_iff_overlaps`).
-/

namespace RecipeMatrix

/-! ## Names -/

/-- Two texts that are joined at a separator are the same text when the parts agree, or when the
separator of one text is a character inside a part of the other. -/
theorem append_cons_eq_append_cons_iff {α : Type} {separator : α}
    {before after first last : List α} :
    before ++ separator :: after = first ++ separator :: last ↔
      (before = first ∧ after = last) ∨
        (∃ middle, before = first ++ separator :: middle ∧ last = middle ++ separator :: after) ∨
        ∃ middle, first = before ++ separator :: middle ∧ after = middle ++ separator :: last := by
  constructor
  · intro hsame
    rcases List.append_eq_append_iff.1 hsame with
      ⟨excess, hfirst, hafter⟩ | ⟨excess, hbefore, hlast⟩
    · cases excess with
      | nil =>
        rw [List.append_nil] at hfirst
        exact Or.inl ⟨hfirst.symm, (List.cons.inj hafter).2⟩
      | cons c middle =>
        obtain ⟨rfl, hrest⟩ := List.cons.inj hafter
        exact Or.inr (Or.inr ⟨middle, hfirst, hrest⟩)
    · cases excess with
      | nil =>
        rw [List.append_nil] at hbefore
        exact Or.inl ⟨hbefore, (List.cons.inj hlast).2.symm⟩
      | cons c middle =>
        obtain ⟨rfl, hrest⟩ := List.cons.inj hlast
        exact Or.inr (Or.inl ⟨middle, hbefore, hrest⟩)
  · rintro (⟨rfl, rfl⟩ | ⟨middle, rfl, rfl⟩ | ⟨middle, rfl, rfl⟩)
    · rfl
    · simp
    · simp

namespace Cell

/-- The platform of the first cell takes in a beginning of the compiler name of the second cell: it
has the name of the other platform, a hyphen and some text, and the other compiler has that text, a
hyphen and the name of its own compiler.  The text may be empty. -/
def Overlaps (first second : Cell) : Prop :=
  ∃ shared : String, first.platform.name = second.platform.name ++ "-" ++ shared ∧
    second.compiler.name = shared ++ "-" ++ first.compiler.name

theorem toList_outputName (cell : Cell) : cell.outputName.toList =
    outputStem.toList ++ (cell.platform.name.toList ++ '-' :: cell.compiler.name.toList) := by
  simp [outputName]

theorem overlaps_iff {first second : Cell} : Overlaps first second ↔
    ∃ shared, first.platform.name.toList = second.platform.name.toList ++ '-' :: shared ∧
      second.compiler.name.toList = shared ++ '-' :: first.compiler.name.toList := by
  constructor
  · rintro ⟨shared, hplatform, hcompiler⟩
    refine ⟨shared.toList, ?_, ?_⟩
    · simp [hplatform]
    · simp [hcompiler]
  · rintro ⟨shared, hplatform, hcompiler⟩
    refine ⟨String.ofList shared, ?_, ?_⟩
    · rw [← String.toList_inj, hplatform]
      simp
    · rw [← String.toList_inj, hcompiler]
      simp

/-- Cells share an output name when they agree in both names or one of them overlaps the other. -/
theorem outputName_eq_iff {first second : Cell} : first.outputName = second.outputName ↔
    (first.platform.name = second.platform.name ∧ first.compiler.name = second.compiler.name) ∨
      Overlaps first second ∨ Overlaps second first := by
  rw [← String.toList_inj, toList_outputName, toList_outputName, List.append_cancel_left_eq,
    append_cons_eq_append_cons_iff, String.toList_inj, String.toList_inj, overlaps_iff,
    overlaps_iff]

theorem Overlaps.hyphen_mem_platform {first second : Cell} (hoverlaps : Overlaps first second) :
    '-' ∈ first.platform.name.toList := by
  obtain ⟨shared, hplatform, -⟩ := overlaps_iff.1 hoverlaps
  simp [hplatform]

theorem Overlaps.hyphen_mem_compiler {first second : Cell} (hoverlaps : Overlaps first second) :
    '-' ∈ second.compiler.name.toList := by
  obtain ⟨shared, -, hcompiler⟩ := overlaps_iff.1 hoverlaps
  simp [hcompiler]

/-- No cell overlaps itself, since the platform name of the first cell is the longer one. -/
theorem Overlaps.ne {first second : Cell} (hoverlaps : Overlaps first second) : first ≠ second := by
  rintro rfl
  obtain ⟨shared, hplatform, -⟩ := overlaps_iff.1 hoverlaps
  have hlength := congrArg List.length hplatform
  rw [List.length_append, List.length_cons] at hlength
  omega

end Cell

/-! ## Catalogs -/

namespace Catalog

variable {platforms : List Platform} {compilers : List Compiler}

/-- Cells of a catalog without repeated names that agree in both names are the same cell. -/
theorem eq_of_names_eq (hplatforms : (platforms.map (·.name)).Nodup)
    (hcompilers : (compilers.map (·.name)).Nodup) {first second : Cell}
    (hfirst : first ∈ cellsOf platforms compilers) (hsecond : second ∈ cellsOf platforms compilers)
    (hplatform : first.platform.name = second.platform.name)
    (hcompiler : first.compiler.name = second.compiler.name) : first = second := by
  obtain ⟨hfirstPlatform, hfirstCompiler⟩ := mem_cellsOf.1 hfirst
  obtain ⟨hsecondPlatform, hsecondCompiler⟩ := mem_cellsOf.1 hsecond
  have hsamePlatform : first.platform = second.platform :=
    List.inj_on_of_nodup_map hplatforms hfirstPlatform hsecondPlatform hplatform
  have hsameCompiler : first.compiler = second.compiler :=
    List.inj_on_of_nodup_map hcompilers hfirstCompiler hsecondCompiler hcompiler
  exact congrArg₂ Cell.mk hsamePlatform hsameCompiler

/-- Without repeated names, output names are repeated exactly when one cell overlaps another. -/
theorem nodup_outputNames_iff (hplatforms : (platforms.map (·.name)).Nodup)
    (hcompilers : (compilers.map (·.name)).Nodup) :
    ((cellsOf platforms compilers).map Cell.outputName).Nodup ↔
      ∀ first ∈ cellsOf platforms compilers, ∀ second ∈ cellsOf platforms compilers,
        ¬ first.Overlaps second := by
  rw [List.nodup_map_iff_inj_on (nodup_cellsOf hplatforms.of_map hcompilers.of_map)]
  constructor
  · intro hinjective first hfirst second hsecond hoverlaps
    have hsame : first.outputName = second.outputName :=
      Cell.outputName_eq_iff.2 (Or.inr (Or.inl hoverlaps))
    exact hoverlaps.ne (hinjective first hfirst second hsecond hsame)
  · intro hnone first hfirst second hsecond hsame
    rcases Cell.outputName_eq_iff.1 hsame with ⟨hplatform, hcompiler⟩ | hoverlaps | hoverlaps
    · exact eq_of_names_eq hplatforms hcompilers hfirst hsecond hplatform hcompiler
    · exact absurd hoverlaps (hnone first hfirst second hsecond)
    · exact absurd hoverlaps (hnone second hsecond first hfirst)

/-- With everything else in order, the output names decide. -/
theorem build_of_checkOutputs (hplatforms : (platforms.map (·.name)).Nodup)
    (hcompilers : (compilers.map (·.name)).Nodup)
    (hruntime : ∀ platform ∈ platforms, ∀ compiler ∈ compilers,
      compiler.package ∉ platform.runtime) :
    build platforms compilers =
      (checkOutputs (cellsOf platforms compilers)).map fun _ => ⟨platforms, compilers⟩ := by
  unfold build
  rw [checkPlatformNames_eq_ok_iff.2 hplatforms, checkCompilerNames_eq_ok_iff.2 hcompilers,
    checkRuntime_eq_ok_iff.2 hruntime]
  cases checkOutputs (cellsOf platforms compilers) with
  | ok => rfl
  | error error => rfl

/-- Cells whose output names are not all different have a collision. -/
theorem exists_checkOutputs_eq_error {cells : List Cell}
    (hrepeated : ¬ (cells.map Cell.outputName).Nodup) :
    ∃ output first second, checkOutputs cells = .error (.outputCollision output first second) := by
  cases hcollision : firstCollision [] cells with
  | none =>
    rw [firstCollision_eq_none_iff, List.map_nil, firstRepeated_nil_eq_none_iff] at hcollision
    exact absurd hcollision hrepeated
  | some collision =>
    refine ⟨collision.2.outputName, collision.1.label, collision.2.label, ?_⟩
    rw [checkOutputs, hcollision]

/-- Two cells share an output name exactly when they agree in both names or one overlaps the other.
So where no name is repeated and no platform installs a compiler at run time, a collision is
reported exactly when one cell overlaps another, and never when the names of the platforms, or
those of the compilers, have no hyphens. -/
theorem collides_iff_overlaps :
    (∀ first second : Cell, first.outputName = second.outputName ↔
      (first.platform.name = second.platform.name ∧ first.compiler.name = second.compiler.name) ∨
        first.Overlaps second ∨ second.Overlaps first) ∧
    ∀ (platforms : List Platform) (compilers : List Compiler),
      (platforms.map (·.name)).Nodup → (compilers.map (·.name)).Nodup →
      (∀ platform ∈ platforms, ∀ compiler ∈ compilers, compiler.package ∉ platform.runtime) →
      ((∃ output first second, build platforms compilers =
          .error (.outputCollision output first second)) ↔
        ∃ first ∈ cellsOf platforms compilers, ∃ second ∈ cellsOf platforms compilers,
          first.Overlaps second) ∧
      ((∀ platform ∈ platforms, '-' ∉ platform.name.toList) ∨
          (∀ compiler ∈ compilers, '-' ∉ compiler.name.toList) →
        build platforms compilers = .ok ⟨platforms, compilers⟩) := by
  refine ⟨fun first second => Cell.outputName_eq_iff, ?_⟩
  intro platforms compilers hplatforms hcompilers hruntime
  have hbuild := build_of_checkOutputs hplatforms hcompilers hruntime
  have hnodup := nodup_outputNames_iff hplatforms hcompilers
  refine ⟨⟨?_, ?_⟩, ?_⟩
  · rintro ⟨output, first, second, herror⟩
    by_contra hnone
    have hok : checkOutputs (cellsOf platforms compilers) = .ok () :=
      checkOutputs_eq_ok_iff.2 (hnodup.2 fun one hone other hother hoverlaps =>
        hnone ⟨one, hone, other, hother, hoverlaps⟩)
    rw [hbuild, hok] at herror
    cases herror
  · rintro ⟨first, hfirst, second, hsecond, hoverlaps⟩
    obtain ⟨output, one, other, herror⟩ := exists_checkOutputs_eq_error fun hnames =>
      hnodup.1 hnames first hfirst second hsecond hoverlaps
    exact ⟨output, one, other, by rw [hbuild, herror]; rfl⟩
  · intro hhyphens
    refine build_eq_ok_iff.2 ⟨⟨hplatforms, hcompilers, hruntime, hnodup.2 ?_⟩, rfl⟩
    intro first hfirst second hsecond hoverlaps
    rcases hhyphens with hclear | hclear
    · exact hclear _ (mem_cellsOf.1 hfirst).1 hoverlaps.hyphen_mem_platform
    · exact hclear _ (mem_cellsOf.1 hsecond).2 hoverlaps.hyphen_mem_compiler

/-- The text that an overlap shares can be empty, as for the platforms `debian-` and `debian` with
the compilers `gcc` and `-gcc`. -/
theorem collides_iff_overlaps_hyphens : ∃ output first second,
    build [{ Platform.small with name := "debian-" }, Platform.small]
        [⟨"gcc", "g++"⟩, ⟨"-gcc", "gcc"⟩] =
      .error (.outputCollision output first second) := by
  refine (collides_iff_overlaps.2 _ _ (by decide) (by decide) (by decide)).1.2
    ⟨⟨{ Platform.small with name := "debian-" }, ⟨"gcc", "g++"⟩⟩, by decide,
      ⟨Platform.small, ⟨"-gcc", "gcc"⟩⟩, by decide, "", by decide, by decide⟩

end Catalog

end RecipeMatrix
