import RecipeMatrix.Proofs.Files.Resolution

/-!
# What of the spelling of a path matters

A path is used as it is written, so two spellings of one place are not the same to every
operation: a longer one may be refused, and one that ends in a slash or a `.` is looked up in
another way.  The paths outside a path are better behaved.

There are three groups.

* Outer paths.  The text of a path outside another one begins the text of that path and ends with
  a step (`stopsIn_of_mem_outerPaths`).
* Refusals.  A path is refused for its length or for a null character in one of its steps, and for
  nothing else (`refusal?_congr`).
* Targets.  A path that ends with its last step stands for what that step is in the directory
  before it (`target_of_isTrim`).
-/

namespace RecipeMatrix

/-- The first part of a text is all of it, or the others are those of the text behind a slash. -/
theorem splitAtSlashes_eq_cons {text part : List Char} {parts : List (List Char)}
    (hparts : splitAtSlashes text = part :: parts) :
    parts = [] ∧ text = part ∨
      ∃ rest, text = part ++ '/' :: rest ∧ splitAtSlashes rest = parts := by
  induction text generalizing part parts with
  | nil =>
    obtain ⟨rfl, rfl⟩ := List.cons.inj hparts
    exact .inl ⟨rfl, rfl⟩
  | cons c text ih =>
    by_cases hc : c = '/'
    · subst hc
      obtain ⟨rfl, rfl⟩ := List.cons.inj hparts
      exact .inr ⟨text, rfl, rfl⟩
    · cases htext : splitAtSlashes text with
      | nil => exact absurd htext (splitAtSlashes_ne_nil text)
      | cons first others =>
        rw [splitAtSlashes_cons hc, htext] at hparts
        obtain ⟨rfl, rfl⟩ := List.cons.inj hparts
        rcases ih htext with ⟨hnil, rfl⟩ | ⟨rest, rfl, hrest⟩
        · exact .inl ⟨hnil, rfl⟩
        · exact .inr ⟨rest, rfl, hrest⟩

/-- Every character but a slash stands in one of the parts. -/
theorem mem_iff_exists_mem_splitAtSlashes {c : Char} (hslash : c ≠ '/') {text : List Char} :
    c ∈ text ↔ ∃ part ∈ splitAtSlashes text, c ∈ part := by
  induction text with
  | nil => simp [splitAtSlashes]
  | cons first text ih =>
    by_cases hfirst : first = '/'
    · subst hfirst
      simp [splitAtSlashes, ih, hslash]
    · cases htext : splitAtSlashes text with
      | nil => exact absurd htext (splitAtSlashes_ne_nil text)
      | cons part parts =>
        rw [splitAtSlashes_cons hfirst, List.mem_cons, ih, htext]
        simp [or_assoc]

theorem Workspace.byteSize_append (first second : List Char) :
    byteSize (first ++ second) = byteSize first + byteSize second := by
  rw [byteSize, String.ofList_append, String.utf8ByteSize_append, byteSize, byteSize]

theorem Workspace.byteSize_cons (c : Char) (text : List Char) :
    byteSize (c :: text) = c.utf8Size + byteSize text := by
  have hfirst : byteSize [c] = c.utf8Size := by
    rw [byteSize, ← String.singleton_eq_ofList, String.utf8ByteSize_singleton]
  rw [← hfirst, ← byteSize_append, List.singleton_append]

namespace Path

/-! ## Outer paths -/

/-- A path that ends with its last step, or has none. -/
def IsTrim (path : Path) : Prop :=
  path.route = [] ∨
    ∃ before part, path.parts = before ++ [part] ∧ leadsNowhere part = false

/-- A text that begins another one and ends with a step. -/
structure StopsIn (whole text : List Char) : Prop where
  begins : text <+: whole
  isTrim : (ofChars text).IsTrim

/-- Before each step the text stops: it is read up to `done`, and `outer` is where it stopped
last. -/
theorem stopsIn_of_mem_pathsBefore {whole done outer rest : List Char}
    {before parts : List (List Char)} (hreads : Reads done before)
    (hwhole : done ++ rest = whole) (hparts : splitAtSlashes rest = parts)
    (houter : StopsIn whole outer) :
    ∀ text ∈ pathsBefore done outer parts, StopsIn whole text := by
  induction parts generalizing done outer before rest with
  | nil => exact absurd hparts (splitAtSlashes_ne_nil rest)
  | cons part parts ih =>
    have hslash : '/' ∉ part :=
      not_mem_of_mem_splitAtSlashes (hparts ▸ List.mem_cons_self : part ∈ splitAtSlashes rest)
    rcases splitAtSlashes_eq_cons hparts with ⟨rfl, rfl⟩ | ⟨behind, rfl, hbehind⟩
    · intro text htext
      simp only [pathsBefore] at htext
      split at htext
      next => exact absurd htext List.not_mem_nil
      next => exact List.mem_singleton.1 htext ▸ houter
    · have hnext : done ++ part ++ ['/'] ++ behind = whole := by simp [← hwhole]
      cases hpart : leadsNowhere part with
      | true =>
        simp only [pathsBefore, hpart, if_true]
        exact ih (hreads.push hslash) hnext hbehind houter
      | false =>
        have hstops : StopsIn whole (done ++ part) := by
          refine ⟨⟨'/' :: behind, by simp [← hwhole]⟩, .inr ⟨before, part, ?_, hpart⟩⟩
          rw [Path.parts, chars_ofChars, hreads.part hslash]
        simp only [pathsBefore, hpart, Bool.false_eq_true, if_false, List.forall_mem_cons]
        exact ⟨houter, ih (hreads.push hslash) hnext hbehind hstops⟩

theorem isTrim_nil : (ofChars []).IsTrim := .inl rfl

theorem stopsIn_of_mem_outerPaths {path other : Path} (hother : other ∈ path.outerPaths) :
    StopsIn path.chars other.chars := by
  have hroot : (ofChars ['/']).IsTrim := .inl rfl
  have hdot : (ofChars ['.']).IsTrim := .inl rfl
  unfold outerPaths at hother
  simp only [List.mem_reverse, List.mem_map] at hother
  obtain ⟨text, htext, rfl⟩ := hother
  rw [show (⟨String.ofList text⟩ : Path).chars = text from chars_ofChars text]
  split at htext
  next => exact absurd htext List.not_mem_nil
  next parts hparts =>
    split at htext
    next habsolute =>
      rcases splitAtSlashes_eq_cons hparts with ⟨-, hempty⟩ | ⟨rest, hchars, hrest⟩
      · simp [isAbsolute, hempty] at habsolute
      · exact stopsIn_of_mem_pathsBefore (reads_nil.push List.not_mem_nil)
          hchars.symm hrest ⟨⟨rest, hchars.symm⟩, hroot⟩ text htext
    next => exact absurd htext List.not_mem_nil
  next parts hparts =>
    rcases List.mem_cons.1 htext with rfl | htext
    · exact ⟨List.nil_prefix, isTrim_nil⟩
    · rcases splitAtSlashes_eq_cons hparts with ⟨rfl, -⟩ | ⟨rest, hchars, hrest⟩
      · exact absurd htext List.not_mem_nil
      · exact stopsIn_of_mem_pathsBefore (reads_nil.push (by decide : '/' ∉ ['.']))
          hchars.symm hrest ⟨⟨'/' :: rest, hchars.symm⟩, hdot⟩ text htext
  next parts _ _ _ =>
    exact stopsIn_of_mem_pathsBefore reads_nil (List.nil_append _) rfl
      ⟨List.nil_prefix, isTrim_nil⟩ text htext

theorem isTrim_of_mem_outerPaths {path other : Path} (hother : other ∈ path.outerPaths) :
    other.IsTrim := by
  have htrim := (stopsIn_of_mem_outerPaths hother).isTrim
  simpa [ofChars, chars] using htrim

/-- The holder of a directory is the first path outside of every name in it. -/
theorem holder_mem_outerPaths {base : Path} {name : String} (hname : IsName name) :
    base.holder ∈ (base.join ⟨name⟩).outerPaths :=
  List.mem_of_head? (parent?_join hname)

theorem isTrim_holder (path : Path) : path.holder.IsTrim := by
  have hname : IsName "name" := by constructor <;> decide
  exact isTrim_of_mem_outerPaths (holder_mem_outerPaths hname)

/-! ## Refusals -/

/-- A path that is not too long to be used. -/
def IsShort (path : Path) : Prop := Workspace.byteSize path.chars ≤ Workspace.maxPathSize

instance (path : Path) : Decidable path.IsShort := inferInstanceAs (Decidable (_ ≤ _))

/-- No path is too long inside which there is a shorter one. -/
theorem IsShort.of_mem_outerPaths {path other : Path} (hshort : path.IsShort)
    (hother : other ∈ path.outerPaths) : other.IsShort := by
  obtain ⟨rest, hrest⟩ := (stopsIn_of_mem_outerPaths hother).begins
  unfold IsShort at hshort ⊢
  rw [← hrest, Workspace.byteSize_append] at hshort
  omega

/-- Steps without null characters. -/
def IsClear (parts : List (List Char)) : Prop := ∀ part ∈ parts, '\x00' ∉ part

instance (parts : List (List Char)) : Decidable (IsClear parts) :=
  inferInstanceAs (Decidable (∀ part ∈ parts, _))

theorem isClear_append {first second : List (List Char)} :
    IsClear (first ++ second) ↔ IsClear first ∧ IsClear second := List.forall_mem_append

/-- Only a step can hold a null character. -/
theorem contains_null_eq_false_iff {path : Path} :
    path.chars.contains '\x00' = false ↔ IsClear path.route := by
  rw [List.contains_eq_mem, decide_eq_false_iff_not,
    mem_iff_exists_mem_splitAtSlashes (by decide)]
  simp only [IsClear, mem_route, Path.parts, not_exists, not_and]
  constructor
  · exact fun h part hpart => h part hpart.1
  · intro h part hpart hnull
    refine h part ⟨hpart, leadsNowhere_eq_false ?_ ?_⟩ hnull
    · rintro rfl
      exact List.not_mem_nil hnull
    · rintro rfl
      simp at hnull

theorem isEmpty_eq_false_of_route {path : Path} (hroute : path.route ≠ []) :
    path.isEmpty = false := by
  rw [← Bool.not_eq_true, isEmpty_iff]
  intro hchars
  exact hroute (by rw [route, Path.parts, hchars]; rfl)

theorem refusal?_eq {path : Path} (hempty : path.isEmpty = false) :
    path.refusal? =
      if path.chars.contains '\x00' then some .nullInName
      else if path.IsShort then none else some .nameTooLong := by
  unfold refusal? IsShort
  rw [if_neg (by simp [hempty])]
  simp only [← Nat.not_lt, ite_not]

/-- Which characters a path has beside its steps matters by their number only. -/
theorem refusal?_congr {first second : Path} (hfirst : first.isEmpty = false)
    (hsecond : second.isEmpty = false) (hclear : IsClear first.route ↔ IsClear second.route)
    (hshort : first.IsShort ↔ second.IsShort) : first.refusal? = second.refusal? := by
  have hnull : first.chars.contains '\x00' = second.chars.contains '\x00' := by
    rw [← contains_null_eq_false_iff, ← contains_null_eq_false_iff] at hclear
    exact Bool.eq_iff_iff.2 (by simpa using not_congr hclear)
  rw [refusal?_eq hfirst, refusal?_eq hsecond, hnull]
  simp only [hshort]

/-- A path that is too long is not empty, and is refused. -/
theorem exists_refusal?_of_not_isShort {path : Path} (hlong : ¬path.IsShort) :
    path.isEmpty = false ∧ ∃ refusal, path.refusal? = some refusal := by
  have hempty : path.isEmpty = false := by
    rw [← Bool.not_eq_true, isEmpty_iff]
    intro hchars
    exact hlong (by simp [IsShort, hchars, Workspace.byteSize])
  refine ⟨hempty, ?_⟩
  rw [refusal?_eq hempty, if_neg hlong]
  split
  next => exact ⟨_, rfl⟩
  next => exact ⟨_, rfl⟩

/-- Joining adds one slash at most. -/
theorem byteSize_join_le {base inner : Path} (hrelative : inner.isAbsolute = false) :
    Workspace.byteSize (base.join inner).chars ≤
      Workspace.byteSize base.chars + 1 + Workspace.byteSize inner.chars := by
  have hslash : Workspace.byteSize ['/'] = 1 := rfl
  rw [chars_join_of_relative hrelative, Workspace.byteSize_append, Workspace.byteSize_append]
  split
  next =>
    have hnil : Workspace.byteSize [] = 0 := rfl
    omega
  next => omega

/-- The bytes of some parts, each with a slash behind it. -/
def room : List (List Char) → Nat
  | [] => 0
  | part :: parts => Workspace.byteSize part + 1 + room parts

theorem room_cons (part : List Char) (parts : List (List Char)) :
    room (part :: parts) = Workspace.byteSize part + 1 + room parts := rfl

theorem room_append (first second : List (List Char)) :
    room (first ++ second) = room first + room second := by
  induction first with
  | nil => exact (Nat.zero_add _).symm
  | cons part first ih =>
    rw [List.cons_append, room_cons, room_cons, ih]
    omega

theorem room_splitAtSlashes (text : List Char) :
    room (splitAtSlashes text) = Workspace.byteSize text + 1 := by
  induction text with
  | nil => rfl
  | cons c text ih =>
    by_cases hc : c = '/'
    · have hslash : '/'.utf8Size = 1 := rfl
      have hnil : Workspace.byteSize [] = 0 := rfl
      subst hc
      rw [splitAtSlashes, room_cons, ih, Workspace.byteSize_cons]
      omega
    · cases htext : splitAtSlashes text with
      | nil => exact absurd htext (splitAtSlashes_ne_nil text)
      | cons part parts =>
        rw [htext, room_cons] at ih
        rw [splitAtSlashes_cons hc, htext, List.headD_cons, List.tail_cons, room_cons,
          Workspace.byteSize_cons, Workspace.byteSize_cons]
        omega

theorem room_stepsOf_le (parts : List (List Char)) : room (stepsOf parts) ≤ room parts := by
  induction parts with
  | nil => exact Nat.le_refl _
  | cons part parts ih =>
    rw [stepsOf, List.filter_cons, room_cons]
    split
    next =>
      rw [room_cons]
      exact Nat.add_le_add_left ih _
    next => exact Nat.le_trans ih (Nat.le_add_left _ _)

/-- A path is no shorter than its steps, however they are written. -/
theorem not_isShort_of_room {path : Path} (hroom : Workspace.maxPathSize + 1 < room path.route) :
    ¬path.IsShort := by
  have hsteps := room_stepsOf_le path.parts
  rw [Path.parts, room_splitAtSlashes] at hsteps
  exact Nat.not_le.2 (Nat.lt_of_succ_lt_succ (Nat.lt_of_lt_of_le hroom hsteps))

theorem isShort_of_refusal? {path : Path} (hrefusal : path.refusal? = none) : path.IsShort :=
  (Workspace.refusal?_eq_none hrefusal).2.2

end Path

namespace Workspace

open RecipeMatrix.Path

/-! ## Targets -/

/-- What a step stands for in a directory. -/
def stepIn (files : FileSystem) (directory : Place) (part : List Char) :
    Except SystemError Target :=
  if part = ['.', '.'] then .ok (.directory directory.tail)
  else (nameIn files directory part).map fun name => .name directory name false

/-- A path that ends with its last step does not end in a slash. -/
theorem getLast?_chars_of_parts {path : Path} {before : List (List Char)} {part : List Char}
    (hparts : path.parts = before ++ [part]) (hstep : leadsNowhere part = false) :
    (path.chars.getLast? == some '/') = false := by
  rw [beq_eq_false_iff_ne]
  intro hlast
  obtain ⟨init, hinit⟩ := List.getLast?_eq_some_iff.1 hlast
  rw [Path.parts, hinit, splitAtSlashes_append_slash] at hparts
  obtain ⟨-, hpart⟩ := List.append_inj' hparts rfl
  obtain rfl : [] = part := (List.cons.inj hpart).1
  simp [leadsNowhere] at hstep

theorem target_of_isTrim {workspace : Workspace} {path : Path} {steps : List (List Char)}
    {part : List Char} (htrim : path.IsTrim) (hrefusal : path.refusal? = none)
    (hroute : path.route = steps ++ [part]) :
    workspace.target path =
      (walk workspace.files (workspace.start path) steps).bind fun directory =>
        stepIn workspace.files directory part := by
  obtain ⟨before, last, hparts, hstep⟩ := htrim.resolve_left (by simp [hroute])
  rw [route, hparts, stepsOf_append, stepsOf_of_step hstep] at hroute
  obtain ⟨rfl, hlast⟩ := List.append_inj' hroute rfl
  obtain rfl := (List.cons.inj hlast).1
  have hfilled : last.isEmpty = false := by
    rw [List.isEmpty_eq_false_iff]
    rintro rfl
    simp [leadsNowhere] at hstep
  have hdot : last ≠ ['.'] := by
    rintro rfl
    simp [leadsNowhere] at hstep
  have hreversed : path.parts.reverse.dropWhile List.isEmpty = last :: before.reverse := by
    simp [hparts, hfilled]
  rw [target_of_parts hrefusal hreversed, List.reverse_reverse,
    getLast?_chars_of_parts hparts hstep]
  simp only [if_neg hdot]
  rfl

end Workspace

end RecipeMatrix
