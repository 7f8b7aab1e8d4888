import RecipeMatrix.Proofs.Catalog.Selections
import RecipeMatrix.Proofs.Text.EditDistance

/-!
# What is suggested for an unknown name

A filter that names nothing in the catalog is answered with the names nearest to it.

* The ranking.  `ranking` are all known names near enough to the typed one.  They come by their
  distance, and those at one distance in the order in which they are known, because the sort is
  stable (`pairwise_ranking`).
* The offer.  What is suggested are the first of them (`suggestions_eq`).  `Offers` says what this
  comes to: no name twice, none that is not known, and no other known name nearer
  (`offers_suggestions`).

`suggests_of_accepted` has it for the errors of every selection on an accepted catalog.
-/

namespace RecipeMatrix.Selection

/-! ## The ranking -/

/-- A known name comes before another if it is nearer to the typed one, or if it is as near and
known earlier. -/
def ComesBefore (typed : String) (known : List String) (first second : String) : Prop :=
  distance typed first < distance typed second ∨
    distance typed first = distance typed second ∧ known.idxOf first < known.idxOf second

/-- A name is at most as far from the typed one as another. -/
def nearer (typed first second : String) : Bool := distance typed first ≤ distance typed second

/-- The known names, the nearest to the typed one first. -/
def byDistance (typed : String) (known : List String) : List String :=
  known.mergeSort (nearer typed)

/-- The known names that are near enough to the typed one, the nearest first. -/
def ranking (typed : String) (known : List String) : List String :=
  (byDistance typed known).filter fun name => distance typed name ≤ tolerance typed

variable {typed : String} {known : List String}

theorem nearer_iff {first second : String} :
    nearer typed first second = true ↔ distance typed first ≤ distance typed second :=
  decide_eq_true_iff

theorem mem_ranking {name : String} :
    name ∈ ranking typed known ↔ name ∈ known ∧ distance typed name ≤ tolerance typed := by
  rw [ranking, List.mem_filter, byDistance, List.mem_mergeSort, decide_eq_true_eq]

/-- Each name is scored once, and the scores are dropped after the choice. -/
theorem suggestions_eq (typed : String) (known : List String) :
    suggestions typed known = (ranking typed known).take maxSuggestions := by
  have hsorted : (known.map fun name => (name, distance typed name)).mergeSort
        (fun first second => first.2 ≤ second.2) =
      (byDistance typed known).map fun name => (name, distance typed name) := by
    refine (List.map_mergeSort ?_).symm
    exact fun _ _ _ _ => rfl
  simp only [suggestions, hsorted, ranking, List.filter_map, List.map_take, List.map_map]
  congr 1
  exact List.map_id _

theorem idxOf_of_mem_zipIdx (hnodup : known.Nodup) {item : String × Nat}
    (hitem : item ∈ known.zipIdx) : known.idxOf item.1 = item.2 := by
  obtain ⟨hlt, hname⟩ := List.getElem?_eq_some_iff.1 (List.mem_zipIdx_iff_getElem?.1 hitem)
  rw [← hname, hnodup.idxOf_getElem item.2 hlt]

/-- Where ties are broken by position, what is sorted first comes before the rest. -/
theorem comesBefore_of_zipIdxLE (hnodup : known.Nodup) {first second : String × Nat}
    (hfirst : first ∈ known.zipIdx) (hsecond : second ∈ known.zipIdx) (hne : first ≠ second)
    (hle : List.zipIdxLE (nearer typed) first second = true) :
    ComesBefore typed known first.1 second.1 := by
  unfold ComesBefore
  rw [idxOf_of_mem_zipIdx hnodup hfirst, idxOf_of_mem_zipIdx hnodup hsecond]
  simp only [List.zipIdxLE, nearer_iff] at hle
  split at hle
  next hforward =>
    split at hle
    next hbackward =>
      refine .inr ⟨Nat.le_antisymm hforward hbackward, ?_⟩
      refine Nat.lt_of_le_of_ne (of_decide_eq_true hle) fun hposition => hne ?_
      have hnames := List.mem_zipIdx_iff_getElem?.1 hfirst
      rw [hposition, List.mem_zipIdx_iff_getElem?.1 hsecond] at hnames
      exact Prod.ext (Option.some.inj hnames).symm hposition
    next hbackward => exact .inl (Nat.lt_of_not_le hbackward)
  next => cases hle

/-- A stable sort is a sort of the names together with their positions. -/
theorem pairwise_byDistance (hnodup : known.Nodup) :
    (byDistance typed known).Pairwise (ComesBefore typed known) := by
  have hsorted : (known.zipIdx.mergeSort (List.zipIdxLE (nearer typed))).Pairwise
      fun first second => List.zipIdxLE (nearer typed) first second = true := by
    refine List.pairwise_mergeSort (List.zipIdxLE_trans fun _ _ _ hfirst hsecond => ?_)
      (List.zipIdxLE_total fun _ _ => ?_) known.zipIdx
    · exact nearer_iff.2 ((nearer_iff.1 hfirst).trans (nearer_iff.1 hsecond))
    · rw [Bool.or_eq_true, nearer_iff, nearer_iff]
      exact Nat.le_total _ _
  have hdistinct : (known.zipIdx.mergeSort (List.zipIdxLE (nearer typed))).Nodup := by
    rw [(List.mergeSort_perm _ _).nodup_iff]
    refine List.Nodup.of_map Prod.fst ?_
    rwa [List.zipIdx_map_fst]
  have hnames : byDistance typed known =
      (known.zipIdx.mergeSort (List.zipIdxLE (nearer typed))).map (·.1) :=
    List.mergeSort_zipIdx.symm
  rw [hnames, List.pairwise_map]
  refine (hsorted.and hdistinct).imp_of_mem fun hfirst hsecond hboth => ?_
  rw [List.mem_mergeSort] at hfirst hsecond
  exact comesBefore_of_zipIdxLE hnodup hfirst hsecond hboth.2 hboth.1

theorem pairwise_ranking (typed : String) (hnodup : known.Nodup) :
    (ranking typed known).Pairwise (ComesBefore typed known) :=
  (pairwise_byDistance hnodup).filter _

/-! ## The offer -/

/-- What is offered for a typed name, of the names that are known. -/
structure Offers (typed : String) (known offered : List String) : Prop where
  /-- The distance counts the single edits, as few as can be, that lead from name to name. -/
  distance_isLeast : ∀ name,
    IsLeast {count | Text.Edits count typed.toList name.toList} (distance typed name)
  /-- The offer is the first three, or fewer, of the names that are near, by distance and then by
  their order. -/
  exists_ranking : ∃ ranking : List String,
    (∀ name, name ∈ ranking ↔
      name ∈ known ∧ distance typed name ≤ max 1 (typed.utf8ByteSize / 2)) ∧
    ranking.Pairwise (ComesBefore typed known) ∧ offered = ranking.take 3
  nodup : offered.Nodup
  mem : ∀ name ∈ offered, name ∈ known
  not_mem : typed ∉ offered
  /-- No name that is left out is nearer than one that is offered. -/
  nearest : ∀ name ∈ offered, ∀ other ∈ known, other ∉ offered →
    distance typed name ≤ distance typed other

theorem ComesBefore.ne {first second : String} (hbefore : ComesBefore typed known first second) :
    first ≠ second := by
  rintro rfl
  rcases hbefore with hlt | ⟨-, hlt⟩
  · exact Nat.lt_irrefl _ hlt
  · exact Nat.lt_irrefl _ hlt

theorem ComesBefore.distance_le {first second : String}
    (hbefore : ComesBefore typed known first second) :
    distance typed first ≤ distance typed second := by
  rcases hbefore with hlt | ⟨hsame, -⟩
  · exact hlt.le
  · exact hsame.le

/-- Names that are left out come later in the ranking, or they are too far. -/
theorem distance_le_of_not_mem_suggestions (hnodup : known.Nodup) {name other : String}
    (hname : name ∈ suggestions typed known) (hother : other ∈ known)
    (hout : other ∉ suggestions typed known) : distance typed name ≤ distance typed other := by
  rw [suggestions_eq] at hname hout
  by_cases hnear : distance typed other ≤ tolerance typed
  · have hranked : other ∈ ranking typed known := mem_ranking.2 ⟨hother, hnear⟩
    have hparts := pairwise_ranking typed hnodup
    rw [← List.take_append_drop maxSuggestions (ranking typed known)] at hranked hparts
    have hlater := (List.mem_append.1 hranked).resolve_left hout
    exact ((List.pairwise_append.1 hparts).2.2 name hname other hlater).distance_le
  · have hclose := (mem_ranking.1 (List.mem_of_mem_take hname)).2
    omega

theorem offers_suggestions (hnodup : known.Nodup) (hunknown : typed ∉ known) :
    Offers typed known (suggestions typed known) := by
  have hmem : ∀ name ∈ suggestions typed known, name ∈ known := by
    intro name hname
    rw [suggestions_eq] at hname
    exact (mem_ranking.1 (List.mem_of_mem_take hname)).1
  have hranking := pairwise_ranking typed hnodup
  exact
    { distance_isLeast := fun name => Text.isLeast_editDistance typed.toList name.toList
      exists_ranking := ⟨_, fun _ => mem_ranking, hranking, suggestions_eq typed known⟩
      nodup := by
        rw [suggestions_eq]
        exact (hranking.imp ComesBefore.ne).sublist (List.take_sublist _ _)
      mem := hmem
      not_mem := fun htyped => hunknown (hmem typed htyped)
      nearest := fun _ hname _ => distance_le_of_not_mem_suggestions hnodup hname }

/-! ## Selections -/

/-- What the errors of a selection suggest. -/
structure Suggests (catalog : Catalog) (selection : Selection) : Prop where
  /-- For a platform that is not known, platforms are offered that can be selected. -/
  platform : ∀ typed, FirstUnknown catalog.platformNames selection.platforms typed →
    ∃ offered, selection.cells catalog = .error (.unknownPlatform typed offered) ∧
      Offers typed catalog.platformNames offered ∧
      ∀ name ∈ offered, ∃ selected, cells ⟨[name], []⟩ catalog = .ok selected
  /-- For a compiler, compilers. -/
  compiler : ∀ typed, (∀ name ∈ selection.platforms, name ∈ catalog.platformNames) →
    FirstUnknown catalog.compilerNames selection.compilers typed →
    ∃ offered, selection.cells catalog = .error (.unknownCompiler typed offered) ∧
      Offers typed catalog.compilerNames offered ∧
      ∀ name ∈ offered, ∃ selected, cells ⟨[], [name]⟩ catalog = .ok selected

theorem FirstUnknown.not_mem {filter : List String} (hfirst : FirstUnknown known filter typed) :
    typed ∉ known := by
  obtain ⟨_, _, -, -, hunknown⟩ := hfirst
  exact hunknown

/-- On an accepted catalog every unknown name is answered with the nearest known ones. -/
theorem suggests_of_accepted {catalog : Catalog} (haccepted : catalog.Accepted)
    (selection : Selection) : Suggests catalog selection where
  platform := by
    intro typed hfirst
    have hoffers := offers_suggestions haccepted.coherent.nodup_platforms hfirst.not_mem
    refine ⟨_, cells_of_unknownPlatform hfirst, hoffers, fun name hname => ?_⟩
    exact ⟨_, cells_of_known ⟨List.forall_mem_singleton.2 (hoffers.mem name hname), nofun⟩⟩
  compiler := by
    intro typed hplatforms hfirst
    have hoffers := offers_suggestions haccepted.coherent.nodup_compilers hfirst.not_mem
    refine ⟨_, cells_of_unknownCompiler hplatforms hfirst, hoffers, fun name hname => ?_⟩
    exact ⟨_, cells_of_known ⟨nofun, List.forall_mem_singleton.2 (hoffers.mem name hname)⟩⟩

/-- Two letters in the wrong order are two edits. -/
theorem suggests_of_accepted_small :
    (Catalog.small "gcc" "clang").Accepted ∧
      FirstUnknown (Catalog.small "gcc" "clang").platformNames ["debian", "debain"] "debain" ∧
      Selection.cells ⟨["debian", "debain"], []⟩ (Catalog.small "gcc" "clang") =
        .error (.unknownPlatform "debain" ["debian"]) ∧
      Offers "debain" ["debian"] ["debian"] := by
  have hfirst : FirstUnknown (Catalog.small "gcc" "clang").platformNames ["debian", "debain"]
      "debain" := ⟨["debian"], [], by decide⟩
  have hdistance : distance "debain" "debian" = 2 := by
    simp [distance, Text.editDistance_cons_cons]
  have htolerance : tolerance "debain" = 3 := by decide +kernel
  have hknown : (Catalog.small "gcc" "clang").platformNames = ["debian"] := rfl
  have hoffered : suggestions "debain" (Catalog.small "gcc" "clang").platformNames =
      ["debian"] := by
    rw [hknown, suggestions_eq, ranking, byDistance, List.mergeSort_singleton]
    simp [hdistance, htolerance, maxSuggestions]
  obtain ⟨offered, hcells, hoffers, -⟩ :=
    (suggests_of_accepted Catalog.accepted_small ⟨["debian", "debain"], []⟩).platform _ hfirst
  have hsame := hcells.symm.trans (cells_of_unknownPlatform hfirst)
  obtain ⟨-, rfl⟩ := Error.unknownPlatform.inj (Except.error.inj hsame)
  rw [hoffered] at hcells hoffers
  exact ⟨Catalog.accepted_small, hfirst, hcells, hoffers⟩

end RecipeMatrix.Selection
