import Mathlib.Data.List.ProdSigma
import RecipeMatrix.Proofs.Catalog.Requirements
import RecipeMatrix.Proofs.Catalog.Soundness

/-!
# The violation that is reported

`Manifest.requirements` lists the rules of a manifest in the order in which they are looked at: all
platforms one by one, all compilers one by one, then what concerns several entries.  A manifest can
break many of them at once; what is reported is always the first in the list that is broken
(`Manifest.catalog_reports_firstBroken`).

* Entries.  The checks of single fields enforce the requirements of these fields, so the check of
  an entry enforces those of the entry (`PlatformEntry.enforces_check`,
  `CompilerEntry.enforces_check`).
* Entries together.  `Catalog.build` enforces the requirements on repeated names, on the packages
  of compilers and on repeated output names (`Catalog.enforces_build`).
* The assembly.
-/

namespace RecipeMatrix

/-! ## Entries -/

namespace Entry

/-- A character that a name can have. -/
def NameChar (c : Char) : Prop :=
  ('a' ≤ c ∧ c ≤ 'z') ∨ ('A' ≤ c ∧ c ≤ 'Z') ∨ ('0' ≤ c ∧ c ≤ '9') ∨
    c = '.' ∨ c = '_' ∨ c = '-'

/-- A name is not empty, and its characters are allowed ones. -/
def nameRequirements (kind name : String) : List Requirement :=
  ⟨name ≠ "", .invalidName kind name "name must not be empty"⟩ ::
    name.toList.map fun c =>
      ⟨NameChar c, .invalidName kind name
        ("character " ++ Text.quotedChar c ++ " is not allowed in file names")⟩

/-- A field has a character that is not blank. -/
def filledRequirement (entry field content : String) : Requirement :=
  ⟨∃ c ∈ content.toList, Text.isBlank c = false, .emptyField entry field⟩

/-- A package is one word. -/
def packageRequirement (entry package : String) : Requirement :=
  ⟨IsWord package, .invalidPackage entry package⟩

/-- The placeholder stands in a command, and at no more than one position. -/
def installRequirements (platform command : String) : List Requirement :=
  [⟨∃ position, InstallCommand.OccursAt command.toList position,
      .missingPlaceholder platform command⟩,
    ⟨(InstallCommand.positions command.toList).length ≤ 1,
      .multiplePlaceholders platform (InstallCommand.positions command.toList).length⟩]

theorem enforces_checkName (kind name : String) :
    Enforces (nameRequirements kind name) (checkName kind name) := by
  intro error
  rw [nameRequirements, firstBroken_cons_iff]
  by_cases hempty : name = ""
  · simp [checkName, hempty]
  · have hcharacters : Enforces (name.toList.map fun c =>
        ⟨NameChar c, .invalidName kind name
          ("character " ++ Text.quotedChar c ++ " is not allowed in file names")⟩)
        (checkName kind name) := by
      have hbreaks (c : Char) : (!isNameChar c) = true ↔ ¬ NameChar c := by
        rw [NameChar, ← isNameChar_iff]
        simp
      refine Enforces.find? hbreaks (fun hnone => ?_) fun c hsome => ?_
      · simp only [checkName, String.isEmpty_iff, hempty, if_false, hnone]
      · simp only [checkName, String.isEmpty_iff, hempty, if_false, hsome]
    rw [hcharacters error]
    simp [hempty]

theorem enforces_checkFilled (entry field content : String) :
    Enforces [filledRequirement entry field content] (checkFilled entry field content) := by
  refine Enforces.rule checkFilled_eq_ok_iff.2 fun hblank => ?_
  have hall : Text.allBlank content = true := by simpa [Text.allBlank] using hblank
  rw [checkFilled, if_pos hall]

theorem enforces_checkPackages (entry : String) (packages : Packages) :
    Enforces (packages.map (packageRequirement entry)) (checkPackages entry packages) := by
  have hbreaks (package : String) : (!isPackage package) = true ↔ ¬ IsWord package := by
    rw [← isPackage_iff]
    simp
  refine Enforces.find? hbreaks (fun hnone => ?_) fun package hsome => ?_
  · simp only [checkPackages, hnone]
  · simp only [checkPackages, hsome]

end Entry

/-- A command without its placeholder is in one piece, and one more piece comes with every
position of the placeholder. -/
theorem InstallCommand.enforces_parse (platform command : String) :
    Enforces (Entry.installRequirements platform command) (parse platform command) := by
  have hlength := length_pieces command.toList
  have hoccurs : (∃ position, OccursAt command.toList position) ↔
      (positions command.toList).length ≠ 0 := by
    simp only [← mem_positions, ne_eq, List.length_eq_zero_iff, List.eq_nil_iff_forall_not_mem]
    simp
  intro error
  simp only [Entry.installRequirements, firstBroken_cons_iff, hoccurs, not_firstBroken_nil]
  unfold parse
  split
  next before after hpieces =>
    have hone : (positions command.toList).length = 1 := by simpa [hpieces] using hlength.symm
    simp [hone]
  next hpieces =>
    simp [hpieces] at hlength
  next piece hpieces =>
    have hnone : (positions command.toList).length = 0 := by simpa [hpieces] using hlength.symm
    simp [hnone]
  next hpair hnil hsingle =>
    have hmany : 2 ≤ (positions command.toList).length := by
      rcases hpieces : pieces command.toList with _ | ⟨first, _ | ⟨second, _ | ⟨third, rest⟩⟩⟩
      · exact absurd hpieces hnil
      · exact absurd hpieces (hsingle first)
      · exact absurd hpieces (hpair first second)
      · simp only [hpieces, List.length_cons] at hlength
        omega
    have hcount : (pieces command.toList).length - 1 = (positions command.toList).length := by
      omega
    have hne : (positions command.toList).length ≠ 0 := by omega
    have hnot : ¬ (positions command.toList).length ≤ 1 := by omega
    simp [hcount, hne, hnot]

/-- The rules of a platform: its name, its image, its install command, its packages. -/
def PlatformEntry.requirements (entry : PlatformEntry) : List Requirement :=
  let label := "platform '" ++ entry.name ++ "'"
  Entry.nameRequirements "platform" entry.name ++
    [Entry.filledRequirement label "image" entry.image] ++
    [Entry.filledRequirement label "install-command" entry.install] ++
    Entry.installRequirements entry.name entry.install ++
    entry.dev.map (Entry.packageRequirement label) ++
    entry.runtime.map (Entry.packageRequirement label)

/-- The rules of a compiler: its name, and its package. -/
def CompilerEntry.requirements (entry : CompilerEntry) : List Requirement :=
  let label := "compiler '" ++ entry.name ++ "'"
  Entry.nameRequirements "compiler" entry.name ++
    [Entry.filledRequirement label "package" entry.package] ++
    [Entry.packageRequirement label entry.package]

theorem PlatformEntry.enforces_check (entry : PlatformEntry) :
    Enforces entry.requirements entry.check := by
  unfold requirements check
  simp only [List.append_assoc]
  refine (Entry.enforces_checkName _ _).bind fun _ _ => ?_
  refine (Entry.enforces_checkFilled _ _ _).bind fun _ _ => ?_
  refine (Entry.enforces_checkFilled _ _ _).bind fun _ _ => ?_
  refine (InstallCommand.enforces_parse _ _).bind fun install _ => ?_
  refine (Entry.enforces_checkPackages _ _).bind fun _ _ => ?_
  exact (Entry.enforces_checkPackages _ _).map fun _ => _

theorem CompilerEntry.enforces_check (entry : CompilerEntry) :
    Enforces entry.requirements entry.check := by
  unfold requirements check
  simp only [List.append_assoc]
  refine (Entry.enforces_checkName _ _).bind fun _ _ => ?_
  refine (Entry.enforces_checkFilled _ _ _).bind fun _ _ => ?_
  exact (Entry.enforces_checkPackages _ [entry.package]).map fun _ => _

/-! ## Entries together -/

/-- A platform and a compiler as they are written. -/
abbrev EntryPair := PlatformEntry × CompilerEntry

namespace EntryPair

/-- The name of the file that the recipe of a pair is written to. -/
def outputName (pair : EntryPair) : String := "Dockerfile." ++ pair.1.name ++ "-" ++ pair.2.name

/-- The pair as messages name it. -/
def label (pair : EntryPair) : String := pair.1.name ++ "/" ++ pair.2.name

/-- The report that a pair would be written to the file of an earlier one. -/
def collision (earlier pair : EntryPair) : Error :=
  .outputCollision pair.outputName earlier.label pair.label

/-- The platform of a pair does not install its compiler at run time. -/
def runtimeRequirement (pair : EntryPair) : Requirement :=
  ⟨pair.2.package ∉ pair.1.runtime, .compilerInRuntime pair.1.name pair.2.package⟩

end EntryPair

namespace Catalog

/-- The rules for entries together: platform names differ, compiler names differ, no platform
installs a compiler at run time, and the output names of all pairs differ. -/
def requirements (platforms : List PlatformEntry) (compilers : List CompilerEntry) :
    List Requirement :=
  distinct PlatformEntry.name (fun _ entry => .duplicatePlatform entry.name) platforms ++
    distinct CompilerEntry.name (fun _ entry => .duplicateCompiler entry.name) compilers ++
    (platforms ×ˢ compilers).map EntryPair.runtimeRequirement ++
    distinct EntryPair.outputName EntryPair.collision (platforms ×ˢ compilers)

/-- The search for a repetition goes on behind names that do not repeat. -/
theorem firstRepeated_append {seen names rest : List String} (hnodup : names.Nodup)
    (hseen : ∀ name ∈ names, name ∉ seen) :
    firstRepeated seen (names ++ rest) = firstRepeated (names.reverse ++ seen) rest := by
  induction names generalizing seen with
  | nil => rfl
  | cons name names ih =>
    rw [List.nodup_cons] at hnodup
    have hnew : name ∉ seen := hseen name List.mem_cons_self
    rw [List.cons_append, firstRepeated, if_neg (by simpa using hnew), ih hnodup.2]
    · rw [List.reverse_cons, List.append_assoc, List.singleton_append]
    · intro other hother hmem
      rcases List.mem_cons.1 hmem with rfl | hmem
      · exact hnodup.1 hother
      · exact hseen other (List.mem_cons_of_mem name hother) hmem

theorem firstRepeated_of_firstRepeat {α : Type} {entries : List α} {nameOf : α → String}
    {earlier entry : α} (hrepeat : FirstRepeat nameOf entries earlier entry) :
    firstRepeated [] (entries.map nameOf) = some (nameOf entry) := by
  obtain ⟨before, after, rfl, hnodup, hearlier, hname⟩ := hrepeat
  have hmem : nameOf entry ∈ (before.map nameOf).reverse :=
    List.mem_reverse.2 (List.mem_map.2 ⟨earlier, hearlier, hname⟩)
  rw [List.map_append, firstRepeated_append hnodup (by simp), List.append_nil, List.map_cons,
    firstRepeated, if_pos (by simpa using hmem)]

/-- The search for a collision goes on behind cells that do not collide. -/
theorem firstCollision_append {seen cells rest : List Cell}
    (hnodup : (cells.map Cell.outputName).Nodup)
    (hseen : ∀ cell ∈ cells, cell.outputName ∉ seen.map Cell.outputName) :
    firstCollision seen (cells ++ rest) = firstCollision (cells.reverse ++ seen) rest := by
  induction cells generalizing seen with
  | nil => rfl
  | cons cell cells ih =>
    rw [List.map_cons, List.nodup_cons] at hnodup
    have hnew : (seen.find? fun earlier => earlier.outputName == cell.outputName) = none := by
      simpa using hseen cell List.mem_cons_self
    rw [List.cons_append, firstCollision, hnew]
    dsimp only
    rw [ih hnodup.2]
    · rw [List.reverse_cons, List.append_assoc, List.singleton_append]
    · intro other hother hmem
      rw [List.map_cons] at hmem
      rcases List.mem_cons.1 hmem with hsame | hmem
      · exact hnodup.1 (hsame ▸ List.mem_map_of_mem hother)
      · exact hseen other (List.mem_cons_of_mem cell hother) hmem

/-- The earlier cell of a collision is the only one of its output name, so it does not matter that
the search starts from the latest one. -/
theorem firstCollision_of_firstRepeat {cells : List Cell} {earlier cell : Cell}
    (hrepeat : FirstRepeat Cell.outputName cells earlier cell) :
    firstCollision [] cells = some (earlier, cell) := by
  obtain ⟨before, after, rfl, hnodup, hearlier, hname⟩ := hrepeat
  rw [firstCollision_append hnodup (by simp), List.append_nil, firstCollision]
  cases hfind : before.reverse.find? fun other => other.outputName == cell.outputName with
  | none =>
    have hnone := List.find?_eq_none.1 hfind earlier (List.mem_reverse.2 hearlier)
    simp [hname] at hnone
  | some other =>
    have hother : other ∈ before := List.mem_reverse.1 (List.mem_of_find?_eq_some hfind)
    have hsame : other.outputName = cell.outputName := by simpa using List.find?_some hfind
    rw [List.inj_on_of_nodup_map hnodup hother hearlier (hsame.trans hname.symm)]

variable {platforms : List Platform} {compilers : List Compiler}

/-- A cell as it was written. -/
theorem map_entries_cellsOf : (cellsOf platforms compilers).map
      (fun cell => (cell.platform.entry, cell.compiler.entry)) =
    platforms.map Platform.entry ×ˢ compilers.map Compiler.entry := by
  induction platforms with
  | nil => rfl
  | cons platform platforms ih =>
    rw [List.map_cons, List.product_cons, ← ih, cellsOf, List.flatMap_cons, List.map_append,
      List.map_map, List.map_map]
    rfl

theorem enforces_checkPlatformNames :
    Enforces (distinct PlatformEntry.name (fun _ entry => .duplicatePlatform entry.name)
      (platforms.map Platform.entry)) (checkPlatformNames platforms) := by
  have hnames : (platforms.map Platform.entry).map PlatformEntry.name =
      platforms.map (·.name) := by
    rw [List.map_map]
    rfl
  refine Enforces.distinct (fun hnodup => ?_) fun earlier entry hrepeat => ?_
  · rw [hnames] at hnodup
    exact checkPlatformNames_eq_ok_iff.2 hnodup
  · have hfirst := firstRepeated_of_firstRepeat hrepeat
    rw [hnames] at hfirst
    rw [checkPlatformNames, hfirst]

theorem enforces_checkCompilerNames :
    Enforces (distinct CompilerEntry.name (fun _ entry => .duplicateCompiler entry.name)
      (compilers.map Compiler.entry)) (checkCompilerNames compilers) := by
  have hnames : (compilers.map Compiler.entry).map CompilerEntry.name =
      compilers.map (·.name) := by
    rw [List.map_map]
    rfl
  refine Enforces.distinct (fun hnodup => ?_) fun earlier entry hrepeat => ?_
  · rw [hnames] at hnodup
    exact checkCompilerNames_eq_ok_iff.2 hnodup
  · have hfirst := firstRepeated_of_firstRepeat hrepeat
    rw [hnames] at hfirst
    rw [checkCompilerNames, hfirst]

theorem enforces_checkRuntime :
    Enforces ((platforms.map Platform.entry ×ˢ compilers.map Compiler.entry).map
      EntryPair.runtimeRequirement) (checkRuntime (cellsOf platforms compilers)) := by
  have hbreaks (cell : Cell) : cell.platform.runtime.contains cell.compiler.package = true ↔
      ¬ cell.compiler.package ∉ cell.platform.runtime := by simp
  rw [← map_entries_cellsOf, List.map_map]
  refine Enforces.find? hbreaks (fun hnone => ?_) fun cell hsome => ?_
  · rw [checkRuntime, hnone]
  · rw [checkRuntime, hsome]
    rfl

theorem enforces_checkOutputs :
    Enforces (distinct EntryPair.outputName EntryPair.collision
        (platforms.map Platform.entry ×ˢ compilers.map Compiler.entry))
      (checkOutputs (cellsOf platforms compilers)) := by
  have hcells : distinct EntryPair.outputName EntryPair.collision
        (platforms.map Platform.entry ×ˢ compilers.map Compiler.entry) =
      distinct Cell.outputName
        (fun earlier cell => .outputCollision cell.outputName earlier.label cell.label)
        (cellsOf platforms compilers) := by
    rw [← map_entries_cellsOf]
    exact distinctFrom_map _ _ [] _
  rw [hcells]
  refine Enforces.distinct checkOutputs_eq_ok_iff.2 fun earlier cell hrepeat => ?_
  rw [checkOutputs, firstCollision_of_firstRepeat hrepeat]

theorem enforces_build :
    Enforces (requirements (platforms.map Platform.entry) (compilers.map Compiler.entry))
      (build platforms compilers) := by
  unfold requirements build
  simp only [List.append_assoc]
  refine enforces_checkPlatformNames.bind fun _ _ => ?_
  refine enforces_checkCompilerNames.bind fun _ _ => ?_
  refine enforces_checkRuntime.bind fun _ _ => ?_
  exact enforces_checkOutputs.map fun _ => _

end Catalog

/-! ## Manifests -/

section Collisions

variable {requirement : Requirement} {output first second : String}

theorem PlatformEntry.violation_ne_collision {entry : PlatformEntry}
    (hmem : requirement ∈ entry.requirements) :
    requirement.violation ≠ .outputCollision output first second := by
  simp only [requirements, Entry.nameRequirements, Entry.installRequirements, List.mem_append,
    List.mem_cons, List.mem_map, List.not_mem_nil, or_false] at hmem
  rcases hmem with (((((rfl | ⟨c, -, rfl⟩) | rfl) | rfl) | rfl | rfl) | ⟨package, -, rfl⟩) |
    ⟨package, -, rfl⟩
  all_goals exact nofun

theorem CompilerEntry.violation_ne_collision {entry : CompilerEntry}
    (hmem : requirement ∈ entry.requirements) :
    requirement.violation ≠ .outputCollision output first second := by
  simp only [requirements, Entry.nameRequirements, List.mem_append, List.mem_cons, List.mem_map,
    List.not_mem_nil, or_false] at hmem
  rcases hmem with ((rfl | ⟨c, -, rfl⟩) | rfl) | rfl
  all_goals exact nofun

/-- When entries collide, the names of platforms and of compilers are not repeated. -/
theorem Catalog.exists_firstRepeat {platforms : List PlatformEntry}
    {compilers : List CompilerEntry}
    (hbroken : FirstBroken (requirements platforms compilers)
      (.outputCollision output first second)) :
    (platforms.map PlatformEntry.name).Nodup ∧ (compilers.map CompilerEntry.name).Nodup ∧
      ∃ earlier pair, FirstRepeat EntryPair.outputName (platforms ×ˢ compilers) earlier pair ∧
        EntryPair.collision earlier pair = .outputCollision output first second := by
  rw [requirements, firstBroken_append_iff, firstBroken_append_iff,
    firstBroken_append_iff] at hbroken
  rcases hbroken with ((hnames | ⟨-, hnames⟩) | ⟨-, hruntime⟩) | ⟨hholds, houtputs⟩
  · obtain ⟨requirement, hmem, hviolation⟩ := hnames.exists_mem
    obtain ⟨earlier, entry, hfault⟩ := exists_of_mem_distinctFrom hmem
    cases hfault.symm.trans hviolation
  · obtain ⟨requirement, hmem, hviolation⟩ := hnames.exists_mem
    obtain ⟨earlier, entry, hfault⟩ := exists_of_mem_distinctFrom hmem
    cases hfault.symm.trans hviolation
  · obtain ⟨requirement, hmem, hviolation⟩ := hruntime.exists_mem
    obtain ⟨pair, -, rfl⟩ := List.mem_map.1 hmem
    cases hviolation
  · simp only [List.forall_mem_append] at hholds
    exact ⟨nodup_of_distinct hholds.1.1, nodup_of_distinct hholds.1.2,
      firstBroken_distinct_iff.1 houtputs⟩

end Collisions

namespace Manifest

/-- All rules of a manifest, in the order in which their violations are reported. -/
def requirements (manifest : Manifest) : List Requirement :=
  manifest.platforms.flatMap PlatformEntry.requirements ++
    manifest.compilers.flatMap CompilerEntry.requirements ++
    Catalog.requirements manifest.platforms manifest.compilers

theorem enforces_catalog (manifest : Manifest) :
    Enforces manifest.requirements manifest.catalog := by
  unfold requirements catalog Catalog.ofEntries
  rw [List.append_assoc]
  refine (Enforces.mapM PlatformEntry.enforces_check).bind fun platforms hplatforms => ?_
  refine (Enforces.mapM CompilerEntry.enforces_check).bind fun compilers hcompilers => ?_
  rw [← Catalog.map_entry_of_check (mapM_eq_ok_iff.1 hplatforms),
    ← Catalog.map_compilerEntry_of_check (mapM_eq_ok_iff.1 hcompilers)]
  exact Catalog.enforces_build

/-- What is reported for a manifest is the first of its rules that is broken.  A collision is
reported for the first pair that has the output name of an earlier one, and there is just one such
earlier pair. -/
theorem catalog_reports_firstBroken (manifest : Manifest) :
    (∀ error, manifest.catalog = .error error ↔ FirstBroken manifest.requirements error) ∧
    ∀ output first second, manifest.catalog = .error (.outputCollision output first second) →
      ∃ before pair after, manifest.platforms ×ˢ manifest.compilers = before ++ pair :: after ∧
        (before.map EntryPair.outputName).Nodup ∧
        ∃ earlier ∈ before, earlier ≠ pair ∧
          (∀ other ∈ before, EntryPair.outputName other = EntryPair.outputName pair ↔
            other = earlier) ∧
          output = EntryPair.outputName pair ∧ first = EntryPair.label earlier ∧
          second = EntryPair.label pair := by
  refine ⟨manifest.enforces_catalog, fun output first second herror => ?_⟩
  have hbroken : FirstBroken manifest.requirements (.outputCollision output first second) :=
    (manifest.enforces_catalog _).1 herror
  rw [requirements, firstBroken_append_iff] at hbroken
  rcases hbroken with hentries | ⟨-, htogether⟩
  · obtain ⟨requirement, hmem, hviolation⟩ := hentries.exists_mem
    rcases List.mem_append.1 hmem with hmem | hmem
    · obtain ⟨entry, -, hmem⟩ := List.mem_flatMap.1 hmem
      exact absurd hviolation (PlatformEntry.violation_ne_collision hmem)
    · obtain ⟨entry, -, hmem⟩ := List.mem_flatMap.1 hmem
      exact absurd hviolation (CompilerEntry.violation_ne_collision hmem)
  · obtain ⟨hplatforms, hcompilers, earlier, pair, ⟨before, after, hpairs, hnodup, hearlier, hname⟩,
      hcollision⟩ := Catalog.exists_firstRepeat htogether
    have hdifferent : (manifest.platforms ×ˢ manifest.compilers).Nodup :=
      hplatforms.of_map.product hcompilers.of_map
    rw [hpairs, List.nodup_append] at hdifferent
    have hreport : pair.outputName = output ∧ earlier.label = first ∧ pair.label = second := by
      simpa [EntryPair.collision] using hcollision
    refine ⟨before, pair, after, hpairs, hnodup, earlier, hearlier, ?_, fun other hother => ?_,
      hreport.1.symm, hreport.2.1.symm, hreport.2.2.symm⟩
    · exact hdifferent.2.2 earlier hearlier pair List.mem_cons_self
    · constructor
      · exact fun hsame =>
          List.inj_on_of_nodup_map hnodup hother hearlier (hsame.trans hname.symm)
      · rintro rfl
        exact hname

/-- The platform `debian-x` with the compiler `gcc` has the output name of the platform `debian`
with the compiler `x-gcc`. -/
theorem catalog_reports_firstBroken_hyphens :
    ∃ before pair after, [(⟨"debian-x", "debian:12", "apt \x7bdeps\x7d", [], []⟩ : PlatformEntry),
        ⟨"debian", "debian:12", "apt \x7bdeps\x7d", [], []⟩] ×ˢ
        [(⟨"gcc", "g++"⟩ : CompilerEntry), ⟨"x-gcc", "gcc"⟩] = before ++ pair :: after ∧
      ∃ earlier ∈ before, earlier ≠ pair ∧ EntryPair.label earlier = "debian-x/gcc" ∧
        EntryPair.label pair = "debian/x-gcc" := by
  have herror : catalog ⟨none, [⟨"debian-x", "debian:12", "apt \x7bdeps\x7d", [], []⟩,
        ⟨"debian", "debian:12", "apt \x7bdeps\x7d", [], []⟩],
      [⟨"gcc", "g++"⟩, ⟨"x-gcc", "gcc"⟩], none⟩ =
      .error (.outputCollision "Dockerfile.debian-x-gcc" "debian-x/gcc" "debian/x-gcc") := by
    decide +kernel
  obtain ⟨before, pair, after, hpairs, -, earlier, hearlier, hne, -, -, hfirst, hsecond⟩ :=
    (catalog_reports_firstBroken _).2 _ _ _ herror
  exact ⟨before, pair, after, hpairs, earlier, hearlier, hne, hfirst.symm, hsecond.symm⟩

end Manifest

end RecipeMatrix
