import RecipeMatrix.Proofs.Path.Outward

/-!
# What a path stands for

A path is looked up in three steps: it may be refused as it is written (`Path.refusal?`), its
route may lead nowhere (`Workspace.reach`), and then an entry may stand in the directory that was
reached.

There are three groups.

* Walking.  `walk_append` walks a list of parts in two stretches, `walk_of_directories` says that
  more directories never spoil a walk, and `walk_eq_ok_iff` is what a walk without `..` comes to:
  the place is fixed by the names alone, and it only has to be a directory.
* Targets.  `target_shape` gives the two shapes of a target, `isDirectory_iff` reads a directory
  off its route, and `target_join` is the target of a name in a directory.
* Entries.  `found?` is what stands at a path.  For a name in a directory without `..` it is the
  entry of a fixed place (`found?_join_of_isPlain`), or nothing.
-/

namespace RecipeMatrix

open RecipeMatrix.Path

/-- Why a path is refused before any file is looked at. -/
def Path.refusal? (path : Path) : Option SystemError :=
  if path.isEmpty then some .notFound
  else if path.chars.contains '\x00' then some .nullInName
  else if Workspace.maxPathSize < Workspace.byteSize path.chars then some .nameTooLong
  else none

/-- The place that some names lead to, if all of them are directories. -/
def Place.below (place : Place) (names : List (List Char)) : Place :=
  (names.map String.ofList).reverse ++ place

@[simp]
theorem Place.below_nil (place : Place) : place.below [] = place := rfl

theorem Place.below_cons (place : Place) (name : List Char) (names : List (List Char)) :
    place.below (name :: names) = Place.below (String.ofList name :: place) names := by
  simp [Place.below]

theorem FileSystem.get?_parent_of_eq {files : FileSystem} {name : String} {place : Place}
    {entry : Entry} (hentry : files.get? (name :: place) = some entry) :
    files.get? place = some .directory := by
  refine files.get?_parent (?_ : files.get? (name :: place) ≠ none)
  simp [hentry]

theorem FileSystem.get?_suffix {files : FileSystem} {inner outer : Place}
    (hinner : files.get? inner ≠ none) (hsuffix : outer <:+ inner) (hne : outer ≠ inner) :
    files.get? outer = some .directory := by
  induction inner with
  | nil => exact absurd (List.suffix_nil.1 hsuffix) hne
  | cons name place ih =>
    have hplace := files.get?_parent hinner
    rcases List.suffix_cons_iff.1 hsuffix with rfl | hsuffix
    · exact absurd rfl hne
    · by_cases hsame : outer = place
      · rw [hsame, hplace]
      · exact ih (by simp [hplace]) hsuffix hsame

namespace Workspace

/-! ## Walking -/

/-- The place that a path is walked from. -/
def start (workspace : Workspace) (path : Path) : Place :=
  if path.isAbsolute then [] else workspace.current

/-- The directory that the steps of a path lead to. -/
def reach (workspace : Workspace) (path : Path) : Except SystemError Place :=
  walk workspace.files (workspace.start path) path.route

theorem directoryAt_eq_ok_iff {files : FileSystem} {place reached : Place} :
    directoryAt files place = .ok reached ↔
      files.get? place = some .directory ∧ reached = place := by
  unfold directoryAt
  split
  next h => simp [h]
  next h => simp [h]
  next h => simp [h, eq_comm]

theorem nameIn_eq_ok_iff {files : FileSystem} {directory : Place} {part : List Char}
    {name : String} :
    nameIn files directory part = .ok name ↔
      files.get? directory = some .directory ∧ byteSize part ≤ maxNameSize ∧
        name = String.ofList part := by
  unfold nameIn
  cases hplace : directoryAt files directory with
  | error refusal =>
    have hnot : files.get? directory ≠ some .directory := by
      intro h
      rw [directoryAt_eq_ok_iff.2 ⟨h, rfl⟩] at hplace
      cases hplace
    simp [Bind.bind, Except.bind, hnot]
  | ok place =>
    have hdirectory := (directoryAt_eq_ok_iff.1 hplace).1
    simp only [Bind.bind, Except.bind]
    split
    next hlong => simp [Nat.not_le.2 hlong]
    next hlong => simp [hdirectory, Nat.not_lt.1 hlong, eq_comm]

theorem walk_cons_nowhere {files : FileSystem} {place : Place} {part : List Char}
    {parts : List (List Char)} (hpart : leadsNowhere part = true) :
    walk files place (part :: parts) = walk files place parts := by
  rw [walk, if_pos hpart]

theorem walk_cons_outer {files : FileSystem} {place : Place} {parts : List (List Char)} :
    walk files place (['.', '.'] :: parts) = walk files place.tail parts := by
  rw [walk, if_neg (by decide), if_pos rfl]

theorem walk_cons_name {files : FileSystem} {place : Place} {part : List Char}
    {parts : List (List Char)} (hpart : leadsNowhere part = false)
    (houter : part ≠ ['.', '.']) :
    walk files place (part :: parts) =
      (nameIn files place part).bind fun name =>
        (directoryAt files (name :: place)).bind fun inner => walk files inner parts := by
  rw [walk, if_neg (by simp [hpart]), if_neg houter]
  rfl

/-- Parts that lead nowhere do not matter. -/
theorem walk_stepsOf (files : FileSystem) (place : Place) (parts : List (List Char)) :
    walk files place (stepsOf parts) = walk files place parts := by
  induction parts generalizing place with
  | nil => rfl
  | cons part parts ih =>
    cases hpart : leadsNowhere part with
    | true =>
      have hsteps : stepsOf (part :: parts) = stepsOf parts := by simp [stepsOf, hpart]
      rw [hsteps, walk_cons_nowhere hpart, ih]
    | false =>
      have hsteps : stepsOf (part :: parts) = part :: stepsOf parts := by simp [stepsOf, hpart]
      rw [hsteps]
      by_cases houter : part = ['.', '.']
      · rw [houter, walk_cons_outer, walk_cons_outer, ih]
      · simp only [walk_cons_name hpart houter, ih]

theorem walk_append (files : FileSystem) (place : Place) (first second : List (List Char)) :
    walk files place (first ++ second) =
      (walk files place first).bind fun reached => walk files reached second := by
  induction first generalizing place with
  | nil => rfl
  | cons part first ih =>
    rw [List.cons_append]
    cases hpart : leadsNowhere part with
    | true => rw [walk_cons_nowhere hpart, walk_cons_nowhere hpart, ih]
    | false =>
      by_cases houter : part = ['.', '.']
      · rw [houter, walk_cons_outer, walk_cons_outer, ih]
      · rw [walk_cons_name hpart houter, walk_cons_name hpart houter]
        cases hname : nameIn files place part with
        | error refusal => rfl
        | ok name =>
          cases hinner : directoryAt files (name :: place) with
          | error refusal => simp only [Except.bind, hinner]
          | ok inner => simp only [Except.bind, hinner, ih]

/-- More directories never spoil a walk. -/
theorem walk_of_directories {first second : FileSystem} {place reached : Place}
    {parts : List (List Char)}
    (hkept : ∀ other, first.get? other = some .directory → second.get? other = some .directory)
    (hwalk : walk first place parts = .ok reached) : walk second place parts = .ok reached := by
  induction parts generalizing place with
  | nil => exact hwalk
  | cons part parts ih =>
    cases hpart : leadsNowhere part with
    | true =>
      rw [walk_cons_nowhere hpart] at hwalk ⊢
      exact ih hwalk
    | false =>
      by_cases houter : part = ['.', '.']
      · subst houter
        rw [walk_cons_outer] at hwalk ⊢
        exact ih hwalk
      · rw [walk_cons_name hpart houter] at hwalk ⊢
        cases hname : nameIn first place part with
        | error refusal => simp [hname, Except.bind] at hwalk
        | ok name =>
          obtain ⟨hplace, hsize, rfl⟩ := nameIn_eq_ok_iff.1 hname
          cases hinner : directoryAt first (String.ofList part :: place) with
          | error refusal => simp [hname, hinner, Except.bind] at hwalk
          | ok inner =>
            obtain ⟨hentry, rfl⟩ := directoryAt_eq_ok_iff.1 hinner
            simp only [hname, hinner, Except.bind] at hwalk
            rw [nameIn_eq_ok_iff.2 ⟨hkept _ hplace, hsize, rfl⟩]
            simp only [Except.bind]
            rw [directoryAt_eq_ok_iff.2 ⟨hkept _ hentry, rfl⟩]
            exact ih hwalk

/-- A list of parts that are names. -/
def AreNames (parts : List (List Char)) : Prop :=
  ∀ part ∈ parts, leadsNowhere part = false ∧ part ≠ ['.', '.']

theorem areNames_route {path : Path} (hplain : path.IsPlain) : AreNames path.route :=
  fun _ hpart => ⟨(mem_route.1 hpart).2, fun h => isPlain_iff.1 hplain (h ▸ hpart)⟩

/-- Names that are short enough to be looked for. -/
def AreShort (parts : List (List Char)) : Prop := ∀ part ∈ parts, byteSize part ≤ maxNameSize

instance (parts : List (List Char)) : Decidable (AreShort parts) :=
  inferInstanceAs (Decidable (∀ part ∈ parts, byteSize part ≤ maxNameSize))

/-- A walk along names leads to the place of these names, which has to be a directory. -/
theorem walk_eq_ok_iff {files : FileSystem} {place reached : Place} {parts : List (List Char)}
    (hnames : AreNames parts) :
    walk files place parts = .ok reached ↔
      reached = place.below parts ∧ AreShort parts ∧
        (parts = [] ∨ files.get? reached = some .directory) := by
  induction parts generalizing place with
  | nil => simp [walk, AreShort, eq_comm]
  | cons part parts ih =>
    have hpart := hnames part List.mem_cons_self
    have hrest : AreNames parts := fun other h => hnames other (List.mem_cons_of_mem part h)
    rw [walk_cons_name hpart.1 hpart.2, Place.below_cons]
    constructor
    · intro hwalk
      cases hname : nameIn files place part with
      | error refusal => simp [hname, Except.bind] at hwalk
      | ok name =>
        obtain ⟨-, hsize, rfl⟩ := nameIn_eq_ok_iff.1 hname
        cases hinner : directoryAt files (String.ofList part :: place) with
        | error refusal => simp [hname, hinner, Except.bind] at hwalk
        | ok inner =>
          obtain ⟨hentry, rfl⟩ := directoryAt_eq_ok_iff.1 hinner
          simp only [hname, hinner, Except.bind] at hwalk
          obtain ⟨hplace, hshort, hdirectory⟩ := (ih hrest).1 hwalk
          refine ⟨hplace, List.forall_mem_cons.2 ⟨hsize, hshort⟩, .inr ?_⟩
          rcases hdirectory with rfl | hdirectory
          · rw [hplace]
            exact hentry
          · exact hdirectory
    · rintro ⟨hplace, hshort, hdirectory⟩
      obtain ⟨hsize, hshort⟩ := List.forall_mem_cons.1 hshort
      have hreached := hdirectory.resolve_left (List.cons_ne_nil part parts)
      have hbelow : String.ofList part :: place <:+ reached := by
        rw [hplace]
        exact List.suffix_append _ _
      have hentry : files.get? (String.ofList part :: place) = some .directory := by
        by_cases hsame : String.ofList part :: place = reached
        · rw [hsame, hreached]
        · exact files.get?_suffix (by simp [hreached]) hbelow hsame
      have hplace' := files.get?_parent_of_eq hentry
      rw [nameIn_eq_ok_iff.2 ⟨hplace', hsize, rfl⟩]
      simp only [Except.bind]
      rw [directoryAt_eq_ok_iff.2 ⟨hentry, rfl⟩]
      exact (ih hrest).2 ⟨hplace, hshort, .inr hreached⟩

/-! ## Targets -/

theorem refusal?_eq_none {path : Path} (hrefusal : path.refusal? = none) :
    path.isEmpty = false ∧ path.chars.contains '\x00' = false ∧
      byteSize path.chars ≤ maxPathSize := by
  unfold Path.refusal? at hrefusal
  split at hrefusal
  next => cases hrefusal
  next hempty =>
    split at hrefusal
    next => cases hrefusal
    next hnull =>
      split at hrefusal
      next => cases hrefusal
      next hlong => exact ⟨by simpa using hempty, by simpa using hnull, Nat.not_lt.1 hlong⟩

theorem target_of_refusal {workspace : Workspace} {path : Path} {refusal : SystemError}
    (hrefusal : path.refusal? = some refusal) : workspace.target path = .error refusal := by
  unfold Path.refusal? at hrefusal
  unfold target
  repeat' split at hrefusal
  all_goals simp_all

/-- The lookup of a path that is not refused, by its last part that is not empty. -/
theorem target_of_parts {workspace : Workspace} {path : Path} {before : List (List Char)}
    {last : List Char} (hrefusal : path.refusal? = none)
    (hparts : path.parts.reverse.dropWhile List.isEmpty = last :: before) :
    workspace.target path =
      (walk workspace.files (workspace.start path) (stepsOf before.reverse)).bind
        fun directory =>
          if last = ['.'] then .ok (.directory directory)
          else if last = ['.', '.'] then .ok (.directory directory.tail)
          else (nameIn workspace.files directory last).bind fun name =>
            .ok (.name directory name (path.chars.getLast? == some '/')) := by
  obtain ⟨hempty, hnull, hlong⟩ := refusal?_eq_none hrefusal
  unfold target
  rw [if_neg (by simp [hempty]), if_neg (by simpa using hnull), if_neg (Nat.not_lt.2 hlong),
    walk_stepsOf]
  simp only [hparts]
  rfl

theorem stepsOf_of_forall {parts : List (List Char)}
    (hparts : ∀ part ∈ parts, part.isEmpty = true) : stepsOf parts = [] := by
  rw [stepsOf, List.filter_eq_nil_iff]
  intro part hpart
  simp [leadsNowhere, List.isEmpty_iff.1 (hparts part hpart)]

/-- The route of a path is made of the parts up to the last one that is not empty. -/
theorem route_eq_dropWhile (path : Path) :
    path.route = stepsOf (path.parts.reverse.dropWhile List.isEmpty).reverse := by
  have hnowhere : stepsOf (path.parts.reverse.takeWhile List.isEmpty).reverse = [] :=
    stepsOf_of_forall fun part hpart =>
      List.all_eq_true.1 List.all_takeWhile part (List.mem_reverse.1 hpart)
  calc path.route
      = stepsOf (path.parts.reverse.takeWhile List.isEmpty ++
          path.parts.reverse.dropWhile List.isEmpty).reverse := by
        rw [List.takeWhile_append_dropWhile, List.reverse_reverse, route]
    _ = stepsOf (path.parts.reverse.dropWhile List.isEmpty).reverse := by
        rw [List.reverse_append, stepsOf_append, hnowhere, List.append_nil]

/-- A path of slashes only stands for the root directory. -/
theorem target_of_slashes {path : Path} (hrefusal : path.refusal? = none)
    (hparts : path.parts.reverse.dropWhile List.isEmpty = []) (workspace : Workspace) :
    workspace.target path = (workspace.reach path).map .directory := by
  obtain ⟨hempty, hnull, hlong⟩ := refusal?_eq_none hrefusal
  have hall : ∀ part ∈ path.parts, part.isEmpty = true := by
    have hsplit := List.takeWhile_append_dropWhile (p := List.isEmpty) (l := path.parts.reverse)
    rw [hparts, List.append_nil] at hsplit
    intro part hpart
    rw [← List.mem_reverse, ← hsplit] at hpart
    exact List.all_eq_true.1 List.all_takeWhile part hpart
  have htext : path.chars ≠ [] := by simpa [← Path.isEmpty_iff] using hempty
  have habsolute : path.isAbsolute = true := by
    cases hfirst : path.parts with
    | nil => exact absurd hfirst (splitAtSlashes_ne_nil path.chars)
    | cons part rest =>
      have hpart : part = [] := by
        rw [← List.isEmpty_iff]
        exact hall part (by simp [hfirst])
      have hhead := exists_splitAtSlashes_eq.1 ⟨rest, hpart ▸ hfirst⟩
      simpa [isAbsolute] using hhead.resolve_left htext
  unfold target
  rw [if_neg (by simp [hempty]), if_neg (by simpa using hnull), if_neg (Nat.not_lt.2 hlong)]
  simp only [hparts]
  rw [reach, route_eq_dropWhile, hparts, start, if_pos habsolute]
  rfl

/-- The two shapes of a target: the directory that the whole route leads to, or a name in the
directory before it. -/
theorem target_shape {path : Path} (hrefusal : path.refusal? = none) :
    (∀ workspace : Workspace,
      workspace.target path = (workspace.reach path).map .directory) ∨
    ∃ (route : List (List Char)) (part : List Char) (asDirectory : Bool),
      path.route = route ++ [part] ∧ leadsNowhere part = false ∧ part ≠ ['.', '.'] ∧
        ∀ workspace : Workspace, workspace.target path =
          (walk workspace.files (workspace.start path) route).bind fun directory =>
            (nameIn workspace.files directory part).bind fun name =>
              .ok (.name directory name asDirectory) := by
  have hroute := route_eq_dropWhile path
  cases hparts : path.parts.reverse.dropWhile List.isEmpty with
  | nil => exact .inl (target_of_slashes hrefusal hparts)
  | cons last before =>
    have htarget (workspace : Workspace) := @target_of_parts workspace path _ _ hrefusal hparts
    rw [hparts, List.reverse_cons, stepsOf_append] at hroute
    by_cases hdot : last = ['.']
    · refine .inl fun workspace => ?_
      rw [htarget, reach, hroute, hdot, stepsOf_of_leadsNowhere rfl, List.append_nil]
      cases walk workspace.files (workspace.start path) (stepsOf before.reverse) <;> rfl
    · by_cases houter : last = ['.', '.']
      · refine .inl fun workspace => ?_
        rw [htarget, reach, hroute, houter, stepsOf_of_step rfl, walk_append]
        cases walk workspace.files (workspace.start path) (stepsOf before.reverse) <;> rfl
      · have hlast : last ≠ [] := by
          have hhead := List.head?_dropWhile_not List.isEmpty path.parts.reverse
          rw [hparts] at hhead
          simpa using hhead
        have hstep := leadsNowhere_eq_false hlast hdot
        rw [stepsOf_of_step hstep] at hroute
        refine .inr ⟨stepsOf before.reverse, last, path.chars.getLast? == some '/', hroute,
          hstep, houter, fun workspace => ?_⟩
        simp only [htarget, if_neg hdot, if_neg houter]

theorem find_of_target {workspace : Workspace} {path : Path} :
    workspace.find path = (workspace.target path).bind fun target =>
      match target with
      | .directory place => .ok (place, .directory)
      | .name directory name asDirectory =>
          match workspace.files.get? (name :: directory) with
          | none => .error .notFound
          | some .directory => .ok (name :: directory, .directory)
          | some (.file content) =>
              if asDirectory then .error .notDirectory
              else .ok (name :: directory, .file content) := rfl

/-- A path stands for the directory that its route leads to. -/
theorem find_eq_directory_iff {workspace : Workspace} {path : Path} {place : Place} :
    workspace.find path = .ok (place, .directory) ↔
      path.refusal? = none ∧ workspace.reach path = .ok place := by
  rw [find_of_target]
  cases hrefusal : path.refusal? with
  | some refusal => simp [target_of_refusal hrefusal, Except.bind]
  | none =>
    rcases target_shape hrefusal with htarget | ⟨route, part, asDirectory, hroute, hstep, houter,
      htarget⟩
    · rw [htarget]
      cases workspace.reach path <;> simp [Except.bind, Except.map]
    · rw [htarget, reach, hroute, walk_append]
      cases walk workspace.files (workspace.start path) route with
      | error refusal => simp [Except.bind]
      | ok directory =>
        simp only [Except.bind, walk_cons_name hstep houter]
        cases hname : nameIn workspace.files directory part with
        | error refusal => simp
        | ok name =>
          simp only [directoryAt, walk]
          cases hentry : workspace.files.get? (name :: directory) with
          | none => simp
          | some entry =>
            cases entry with
            | directory => simp
            | file content => cases asDirectory <;> simp

theorem isDirectory_iff {workspace : Workspace} {path : Path} :
    workspace.isDirectory path = true ↔
      path.refusal? = none ∧ ∃ place, workspace.reach path = .ok place := by
  constructor
  · intro h
    unfold isDirectory at h
    split at h
    next place hfind => exact ⟨(find_eq_directory_iff.1 hfind).1, place,
      (find_eq_directory_iff.1 hfind).2⟩
    next => cases h
  · rintro ⟨hrefusal, place, hreach⟩
    rw [isDirectory, find_eq_directory_iff.2 ⟨hrefusal, hreach⟩]

theorem present_of_isDirectory {workspace : Workspace} {path : Path}
    (hdirectory : workspace.isDirectory path = true) : workspace.present path = true := by
  obtain ⟨hrefusal, place, hreach⟩ := isDirectory_iff.1 hdirectory
  rw [present, find_eq_directory_iff.2 ⟨hrefusal, hreach⟩]

/-! ## Names in a directory -/

/-- The lookup of a name looks for its directory and then for the name. -/
theorem target_join {workspace : Workspace} {base : Path} {name : String} (hname : IsName name)
    (hrefusal : (base.join ⟨name⟩).refusal? = none) :
    workspace.target (base.join ⟨name⟩) =
      (workspace.reach base).bind fun directory =>
        (nameIn workspace.files directory name.toList).bind fun found =>
          .ok (.name directory found false) := by
  have hlast : name.toList.isEmpty = false := by simpa using hname.ne_nil
  have hparts : (base.join ⟨name⟩).parts.reverse.dropWhile List.isEmpty =
      name.toList :: base.partsBefore.reverse := by
    rw [parts_join hname, List.reverse_append]
    simp [hlast]
  have hdot : name.toList ≠ ['.'] := by
    intro h
    have hstep := hname.not_nowhere
    simp [h, leadsNowhere] at hstep
  rw [target_of_parts hrefusal hparts, List.reverse_reverse, stepsOf_partsBefore,
    getLast?_chars_join hname]
  simp only [if_neg hdot, if_neg hname.ne_outer, reach, start, isAbsolute_join hname]

/-- A directory can be written down where a name in it can. -/
theorem refusal?_of_join {base : Path} {name : String} (hname : IsName name)
    (hempty : base.isEmpty = false) (hrefusal : (base.join ⟨name⟩).refusal? = none) :
    base.refusal? = none := by
  obtain ⟨-, hnull, hlong⟩ := refusal?_eq_none hrefusal
  rw [chars_join hname, List.append_assoc] at hnull hlong
  have hclean : base.chars.contains '\x00' = false := by
    rw [List.contains_eq_mem, decide_eq_false_iff_not] at hnull ⊢
    exact fun h => hnull (List.mem_append_left _ h)
  have hshort : byteSize base.chars ≤ maxPathSize := by
    rw [byteSize, String.ofList_append, String.utf8ByteSize_append] at hlong
    rw [byteSize]
    omega
  unfold Path.refusal?
  rw [if_neg (by simp [hempty]), if_neg (by simpa using hclean), if_neg (Nat.not_lt.2 hshort)]

/-- What stands at a path, if anything does. -/
def found? (workspace : Workspace) (path : Path) : Option Entry :=
  match workspace.find path with
  | .ok (_, entry) => some entry
  | .error _ => none

theorem found?_eq_some_iff {workspace : Workspace} {path : Path} {entry : Entry} :
    workspace.found? path = some entry ↔ ∃ place, workspace.find path = .ok (place, entry) := by
  unfold found?
  cases workspace.find path with
  | error refusal => simp
  | ok found => simp [Prod.ext_iff]

theorem content_eq_ok_iff {workspace : Workspace} {path : Path} {content : ByteArray} :
    workspace.content path = .ok content ↔ workspace.found? path = some (.file content) := by
  unfold Workspace.content found?
  cases hfind : workspace.find path with
  | error refusal => simp [Bind.bind, Except.bind]
  | ok found =>
    obtain ⟨place, entry⟩ := found
    cases entry with
    | directory => simp [Bind.bind, Except.bind]
    | file content => simp [Bind.bind, Except.bind]

theorem present_eq_false_iff {workspace : Workspace} {path : Path} :
    workspace.present path = false ↔ workspace.found? path = none := by
  unfold present found?
  cases workspace.find path <;> simp

theorem isFile_iff {workspace : Workspace} {path : Path} :
    workspace.isFile path = true ↔ ∃ content, workspace.found? path = some (.file content) := by
  unfold isFile found?
  cases hfind : workspace.find path with
  | error refusal => simp
  | ok found =>
    obtain ⟨place, entry⟩ := found
    cases entry <;> simp

/-- A name that can be looked for in a directory: neither the path nor the name is too long, and
the path is a sound text. -/
def Spells (base : Path) (name : String) : Prop :=
  (base.join ⟨name⟩).refusal? = none ∧ byteSize name.toList ≤ maxNameSize

instance (base : Path) (name : String) : Decidable (Spells base name) :=
  inferInstanceAs (Decidable (_ ∧ _))

theorem found?_eq_none {workspace : Workspace} {path : Path} {refusal : SystemError}
    (htarget : workspace.target path = .error refusal) : workspace.found? path = none := by
  simp [found?, find_of_target, htarget, Except.bind]

/-- What stands at a name in a directory that can be reached. -/
theorem found?_join {workspace : Workspace} {base : Path} {name : String} {directory : Place}
    (hname : IsName name) (hreach : workspace.reach base = .ok directory) :
    workspace.found? (base.join ⟨name⟩) =
      if Spells base name then workspace.files.get? (name :: directory) else none := by
  cases hrefusal : (base.join ⟨name⟩).refusal? with
  | some refusal =>
    rw [if_neg (by simp [Spells, hrefusal])]
    exact found?_eq_none (target_of_refusal hrefusal)
  | none =>
    have htarget := @target_join workspace base name hname hrefusal
    rw [hreach] at htarget
    cases hfound : nameIn workspace.files directory name.toList with
    | error refusal =>
      have hlookup : workspace.target (base.join ⟨name⟩) = .error refusal := by
        rw [htarget]
        simp only [Except.bind, hfound]
      rw [found?_eq_none hlookup]
      split
      next hspells =>
        cases hentry : workspace.files.get? (name :: directory) with
        | none => rfl
        | some entry =>
          have hdirectory := workspace.files.get?_parent_of_eq hentry
          rw [nameIn_eq_ok_iff.2 ⟨hdirectory, hspells.2, rfl⟩] at hfound
          cases hfound
      next => rfl
    | ok found =>
      obtain ⟨-, hsize, rfl⟩ := nameIn_eq_ok_iff.1 hfound
      rw [if_pos ⟨hrefusal, hsize⟩, found?, find_of_target, htarget]
      simp only [Except.bind, hfound, String.ofList_toList]
      cases hentry : workspace.files.get? (name :: directory) with
      | none => rfl
      | some entry => cases entry <;> rfl

/-- Nothing is found in a directory that cannot be reached. -/
theorem found?_join_of_error {workspace : Workspace} {base : Path} {name : String}
    {refusal : SystemError} (hname : IsName name) (hreach : workspace.reach base = .error refusal) :
    workspace.found? (base.join ⟨name⟩) = none := by
  cases hrefusal : (base.join ⟨name⟩).refusal? with
  | some refusal => exact found?_eq_none (target_of_refusal hrefusal)
  | none =>
    have hlookup := @target_join workspace base name hname hrefusal
    rw [hreach] at hlookup
    exact found?_eq_none hlookup

/-- What is found under a name stands in a directory that can be reached. -/
theorem exists_reach_of_found? {workspace : Workspace} {base : Path} {name : String}
    {entry : Entry} (hname : IsName name)
    (hentry : workspace.found? (base.join ⟨name⟩) = some entry) :
    ∃ directory, workspace.reach base = .ok directory ∧ Spells base name ∧
      workspace.files.get? (name :: directory) = some entry := by
  cases hreach : workspace.reach base with
  | error refusal =>
    rw [found?_join_of_error hname hreach] at hentry
    cases hentry
  | ok directory =>
    rw [found?_join hname hreach] at hentry
    split at hentry
    next hspells => exact ⟨directory, rfl, hspells, hentry⟩
    next => cases hentry

/-! ## Paths without `..` -/

/-- The place that a path without `..` stands for, whatever is there. -/
def place (workspace : Workspace) (path : Path) : Place :=
  (workspace.start path).below path.route

theorem place_congr {first second : Workspace} (hcurrent : second.current = first.current)
    (path : Path) : second.place path = first.place path := by
  simp only [place, start, hcurrent]

theorem place_holder (workspace : Workspace) (path : Path) :
    workspace.place path.holder = workspace.place path := by
  simp only [place, start, route_holder, isAbsolute_holder]

theorem reach_eq_ok_iff {workspace : Workspace} {path : Path} {reached : Place}
    (hplain : path.IsPlain) :
    workspace.reach path = .ok reached ↔
      reached = workspace.place path ∧ AreShort path.route ∧
        (path.route = [] ∨ workspace.files.get? reached = some .directory) :=
  walk_eq_ok_iff (areNames_route hplain)

theorem place_of_reach {workspace : Workspace} {path : Path} {reached : Place}
    (hplain : path.IsPlain) (hreach : workspace.reach path = .ok reached) :
    reached = workspace.place path :=
  ((reach_eq_ok_iff hplain).1 hreach).1

/-- What stands at a name in a directory without `..` is what stands at one fixed place, if the
path can be written down at all. -/
theorem found?_join_of_isPlain {workspace : Workspace} {base : Path} {name : String}
    (hname : IsName name) (hplain : base.IsPlain) :
    workspace.found? (base.join ⟨name⟩) =
      if Spells base name ∧ AreShort base.route then
        workspace.files.get? (name :: workspace.place base)
      else none := by
  cases hreach : workspace.reach base with
  | ok directory =>
    obtain ⟨rfl, hshort, -⟩ := (reach_eq_ok_iff hplain).1 hreach
    rw [found?_join hname hreach]
    simp [hshort]
  | error refusal =>
    rw [found?_join_of_error hname hreach]
    split
    next hshort =>
      cases hentry : workspace.files.get? (name :: workspace.place base) with
      | none => rfl
      | some entry =>
        have hdirectory := workspace.files.get?_parent_of_eq hentry
        rw [(reach_eq_ok_iff hplain).2 ⟨rfl, hshort.2, .inr hdirectory⟩] at hreach
        cases hreach
    next => rfl

end Workspace

end RecipeMatrix
