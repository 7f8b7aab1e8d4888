import RecipeMatrix.Path

/-!
# Routes

The route of a path is the list of its parts that lead somewhere: the names and the `..` parts.
A directory is found by walking the route, so two paths with one route and one starting point
stand for the same place, however they are spelled.

There are two groups.

* Cutting at slashes.  `splitAtSlashes_append_slash` cuts a text at a slash, and `Reads` says of
  a text that whatever is written behind it is cut on its own.
* Names in a directory.  `parts_join` and `route_join` say what the path of a name in a directory
  consists of.  The name has to be a `Path.IsName`: one part that is no `.` and no `..`.  They are
  cases of what holds for every relative path in a directory (`route_join_of_relative`).
-/

namespace RecipeMatrix

/-! ## Cutting at slashes -/

theorem splitAtSlashes_ne_nil (text : List Char) : splitAtSlashes text ≠ [] := by
  fun_cases splitAtSlashes text <;> simp_all

theorem splitAtSlashes_cons {c : Char} (hc : c ≠ '/') (text : List Char) :
    splitAtSlashes (c :: text) =
      (c :: (splitAtSlashes text).headD []) :: (splitAtSlashes text).tail := by
  rw [splitAtSlashes.eq_3 c text hc]
  cases htext : splitAtSlashes text with
  | nil => exact absurd htext (splitAtSlashes_ne_nil text)
  | cons part parts => rfl

/-- A text is cut at each slash in it. -/
theorem splitAtSlashes_append_slash (first second : List Char) :
    splitAtSlashes (first ++ '/' :: second) = splitAtSlashes first ++ splitAtSlashes second := by
  induction first with
  | nil => rfl
  | cons c first ih =>
    by_cases hc : c = '/'
    · subst hc
      simp only [List.cons_append, splitAtSlashes, ih]
    · rw [List.cons_append, splitAtSlashes_cons hc, splitAtSlashes_cons hc, ih]
      cases hfirst : splitAtSlashes first with
      | nil => exact absurd hfirst (splitAtSlashes_ne_nil first)
      | cons part parts => rfl

theorem splitAtSlashes_of_not_mem {text : List Char} (htext : '/' ∉ text) :
    splitAtSlashes text = [text] := by
  induction text with
  | nil => rfl
  | cons c text ih =>
    have hc : c ≠ '/' := fun h => htext (by simp [h])
    rw [splitAtSlashes_cons hc, ih fun h => htext (List.mem_cons_of_mem c h)]
    rfl

/-- The parts of a text have no slashes in them. -/
theorem not_mem_of_mem_splitAtSlashes {text part : List Char}
    (hpart : part ∈ splitAtSlashes text) : '/' ∉ part := by
  induction text generalizing part with
  | nil => simp_all [splitAtSlashes]
  | cons c text ih =>
    by_cases hc : c = '/'
    · subst hc
      rw [splitAtSlashes, List.mem_cons] at hpart
      rcases hpart with rfl | hpart
      · exact List.not_mem_nil
      · exact ih hpart
    · rw [splitAtSlashes_cons hc] at hpart
      cases htext : splitAtSlashes text with
      | nil => exact absurd htext (splitAtSlashes_ne_nil text)
      | cons first parts =>
        rw [htext] at hpart ih
        rcases List.mem_cons.1 hpart with rfl | hpart
        · have hfirst := ih List.mem_cons_self
          simpa [Ne.symm hc] using hfirst
        · exact ih (List.mem_cons_of_mem first hpart)

/-- What stands behind `done` is cut on its own, after the parts `before`. -/
def Reads (done : List Char) (before : List (List Char)) : Prop :=
  ∀ rest, splitAtSlashes (done ++ rest) = before ++ splitAtSlashes rest

theorem reads_nil : Reads [] [] := fun _ => rfl

theorem Reads.part {done part : List Char} {before : List (List Char)}
    (hdone : Reads done before) (hpart : '/' ∉ part) :
    splitAtSlashes (done ++ part) = before ++ [part] := by
  rw [hdone part, splitAtSlashes_of_not_mem hpart]

theorem Reads.push {done part : List Char} {before : List (List Char)}
    (hdone : Reads done before) (hpart : '/' ∉ part) :
    Reads (done ++ part ++ ['/']) (before ++ [part]) := by
  intro rest
  have hrest : done ++ part ++ ['/'] ++ rest = done ++ (part ++ '/' :: rest) := by simp
  rw [hrest, hdone, splitAtSlashes_append_slash, splitAtSlashes_of_not_mem hpart,
    List.append_assoc]

namespace Path

/-! ## Routes -/

/-- The parts that lead somewhere. -/
def stepsOf (parts : List (List Char)) : List (List Char) :=
  parts.filter fun part => !leadsNowhere part

/-- The parts of a path that lead somewhere. -/
def route (path : Path) : List (List Char) := stepsOf path.parts

@[simp]
theorem stepsOf_nil : stepsOf [] = [] := rfl

@[simp]
theorem stepsOf_append (first second : List (List Char)) :
    stepsOf (first ++ second) = stepsOf first ++ stepsOf second := List.filter_append ..

theorem stepsOf_of_leadsNowhere {part : List Char} (hpart : leadsNowhere part = true) :
    stepsOf [part] = [] := by
  simp [stepsOf, hpart]

theorem stepsOf_of_step {part : List Char} (hpart : leadsNowhere part = false) :
    stepsOf [part] = [part] := by
  simp [stepsOf, hpart]

theorem mem_route {path : Path} {part : List Char} :
    part ∈ path.route ↔ part ∈ path.parts ∧ leadsNowhere part = false := by
  simp [route, stepsOf]

/-- A path that never leads back to an outer directory. -/
def IsPlain (path : Path) : Prop := ['.', '.'] ∉ path.parts

instance (path : Path) : Decidable path.IsPlain :=
  inferInstanceAs (Decidable (['.', '.'] ∉ path.parts))

theorem isPlain_iff {path : Path} : path.IsPlain ↔ ['.', '.'] ∉ path.route := by
  rw [IsPlain, mem_route]
  simp [leadsNowhere]

/-! ## Names in a directory -/

/-- A text that is one step of a path and leads to an entry of a directory. -/
structure IsName (name : String) : Prop where
  no_slash : '/' ∉ name.toList
  not_nowhere : leadsNowhere name.toList = false
  ne_outer : name.toList ≠ ['.', '.']

theorem IsName.ne_nil {name : String} (hname : IsName name) : name.toList ≠ [] := by
  intro hnil
  have hstep := hname.not_nowhere
  simp [hnil, leadsNowhere] at hstep

theorem IsName.not_isAbsolute {name : String} (hname : IsName name) :
    (⟨name⟩ : Path).isAbsolute = false := by
  cases hchars : name.toList with
  | nil => simp [isAbsolute, chars, hchars]
  | cons c rest =>
    have hc : c ≠ '/' := fun h => hname.no_slash (by simp [hchars, h])
    simp [isAbsolute, chars, hchars, hc]

theorem isEmpty_iff {path : Path} : path.isEmpty = true ↔ path.chars = [] := by
  simp [isEmpty, chars]

/-- The parts that a path gives to the paths of the names in it. -/
def partsBefore (path : Path) : List (List Char) :=
  if path.isEmpty then []
  else if path.chars.getLast? = some '/' then path.parts.dropLast
  else path.parts

/-- The characters of a joined path: the directory, a slash where one is missing, the rest. -/
theorem chars_join_of_relative {base inner : Path} (hrelative : inner.isAbsolute = false) :
    (base.join inner).chars =
      base.chars ++ (if base.isEmpty || base.chars.getLast? == some '/' then [] else ['/']) ++
        inner.chars := by
  unfold join
  rw [if_neg (by simp [hrelative])]
  split
  next => simp [chars]
  next => simp [chars]

theorem parts_join_of_relative {base inner : Path} (hrelative : inner.isAbsolute = false) :
    (base.join inner).parts = base.partsBefore ++ inner.parts := by
  rw [parts, chars_join_of_relative hrelative, partsBefore]
  by_cases hempty : base.isEmpty = true
  · rw [if_pos hempty, isEmpty_iff.1 hempty, hempty]
    rfl
  · by_cases hlast : base.chars.getLast? = some '/'
    · obtain ⟨init, hinit⟩ := List.getLast?_eq_some_iff.1 hlast
      rw [if_neg hempty, if_pos hlast, parts, hinit, splitAtSlashes_append_slash]
      simp [splitAtSlashes_append_slash, splitAtSlashes, parts]
    · rw [if_neg hempty, if_neg hlast, if_neg (by simp [hempty, hlast]), List.append_assoc,
        List.singleton_append, splitAtSlashes_append_slash, parts, parts]

theorem chars_join {base : Path} {name : String} (hname : IsName name) :
    (base.join ⟨name⟩).chars =
      base.chars ++ (if base.isEmpty || base.chars.getLast? == some '/' then [] else ['/']) ++
        name.toList :=
  chars_join_of_relative hname.not_isAbsolute

theorem parts_join {base : Path} {name : String} (hname : IsName name) :
    (base.join ⟨name⟩).parts = base.partsBefore ++ [name.toList] := by
  rw [parts_join_of_relative hname.not_isAbsolute, parts]
  exact congrArg _ (splitAtSlashes_of_not_mem hname.no_slash)

theorem stepsOf_partsBefore (path : Path) : stepsOf path.partsBefore = path.route := by
  unfold partsBefore route parts
  split
  next hempty =>
    rw [isEmpty_iff.1 hempty]
    rfl
  next =>
    split
    next hlast =>
      obtain ⟨init, hinit⟩ := List.getLast?_eq_some_iff.1 hlast
      rw [hinit, splitAtSlashes_append_slash]
      simp [stepsOf, splitAtSlashes, leadsNowhere]
    next => rfl

/-- The route of a joined path is that of the directory and then the rest. -/
theorem route_join_of_relative {base inner : Path} (hrelative : inner.isAbsolute = false) :
    (base.join inner).route = base.route ++ inner.route := by
  rw [route, parts_join_of_relative hrelative, stepsOf_append, stepsOf_partsBefore, ← route]

theorem route_of_isName {name : String} (hname : IsName name) :
    (⟨name⟩ : Path).route = [name.toList] := by
  rw [route, parts]
  change stepsOf (splitAtSlashes name.toList) = _
  rw [splitAtSlashes_of_not_mem hname.no_slash, stepsOf_of_step hname.not_nowhere]

theorem route_join {base : Path} {name : String} (hname : IsName name) :
    (base.join ⟨name⟩).route = base.route ++ [name.toList] := by
  rw [route_join_of_relative hname.not_isAbsolute, route_of_isName hname]

theorem IsPlain.join {base : Path} {name : String} (hplain : base.IsPlain) (hname : IsName name) :
    (base.join ⟨name⟩).IsPlain := by
  rw [isPlain_iff] at hplain ⊢
  rw [route_join hname, List.mem_append, List.mem_singleton, not_or]
  exact ⟨hplain, hname.ne_outer.symm⟩

/-- A joined path starts where the directory does. -/
theorem isAbsolute_join_of_relative {base inner : Path} (hrelative : inner.isAbsolute = false) :
    (base.join inner).isAbsolute = base.isAbsolute := by
  have hhead := hrelative
  unfold isAbsolute at hhead ⊢
  rw [chars_join_of_relative hrelative]
  cases hbase : base.chars with
  | nil => simpa [isEmpty_iff.2 hbase] using hhead
  | cons c rest => simp

theorem isAbsolute_join {base : Path} {name : String} (hname : IsName name) :
    (base.join ⟨name⟩).isAbsolute = base.isAbsolute :=
  isAbsolute_join_of_relative hname.not_isAbsolute

/-- The path of a name does not end in a slash. -/
theorem getLast?_chars_join {base : Path} {name : String} (hname : IsName name) :
    ((base.join ⟨name⟩).chars.getLast? == some '/') = false := by
  rw [beq_eq_false_iff_ne, chars_join hname, List.getLast?_append,
    List.getLast?_eq_some_getLast hname.ne_nil, Option.some_or]
  exact fun hlast => hname.no_slash (Option.some.inj hlast ▸ List.getLast_mem hname.ne_nil)

end Path

end RecipeMatrix
