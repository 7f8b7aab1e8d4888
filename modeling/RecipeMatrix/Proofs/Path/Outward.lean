import RecipeMatrix.Files.Replacement
import RecipeMatrix.Proofs.Path.Route

/-!
# Outer paths

What the paths outside a path are, and where the paths of the names in one directory lie.

There are three groups.

* `Outward path outer`: every path of the list `outer` has the route of the path inside it
  without the last step, up to a path without steps.  `outward_outerPaths` says that the outer
  paths of any path are such a list.
* `holder`: the path that all names in a directory have as their parent (`parent?_join`).  It is
  the directory without the parts behind its last step, so it has the same route.
* Temporary paths.  `temporaryPath_join` says that the temporary path of a name is the path of
  another name in the same directory.
-/

namespace RecipeMatrix.Path

/-! ## Lists of outer paths -/

/-- A path with its outer paths, nearest first: each one has a step less. -/
inductive Outward : Path → List Path → Prop
  /-- A path without steps, which has no steps outside it either. -/
  | root {path : Path} {outer : List Path} (hroute : path.route = [])
      (houter : ∀ other ∈ outer, other.route = []) : Outward path outer
  /-- The nearest outer path has all steps but the last one. -/
  | step {path nearest : Path} {further : List Path} {part : List Char}
      (hroute : path.route = nearest.route ++ [part])
      (habsolute : path.isAbsolute = nearest.isAbsolute)
      (hnearest : Outward nearest further) : Outward path (nearest :: further)

theorem Outward.congr {first second : Path} {outer : List Path} (hfirst : Outward first outer)
    (hroute : second.route = first.route) (habsolute : second.isAbsolute = first.isAbsolute) :
    Outward second outer := by
  cases hfirst with
  | root hnil houter => exact .root (hroute.trans hnil) houter
  | step hparts hsame hnearest =>
    exact .step (hroute.trans hparts) (habsolute.trans hsame) hnearest

/-- Outer paths have no other steps than the path inside them. -/
theorem Outward.mem {path other : Path} {outer : List Path} (hout : Outward path outer)
    (hother : other ∈ path :: outer) :
    other.route = [] ∨ other.route <+: path.route ∧ other.isAbsolute = path.isAbsolute := by
  induction hout with
  | root hroute houter =>
    rcases List.mem_cons.1 hother with rfl | hother
    · exact .inl hroute
    · exact .inl (houter other hother)
  | step hroute habsolute _ ih =>
    rcases List.mem_cons.1 hother with rfl | hother
    · exact .inr ⟨List.prefix_refl _, rfl⟩
    · rcases ih hother with hnil | ⟨hbegins, hsame⟩
      · exact .inl hnil
      · refine .inr ⟨hbegins.trans ?_, hsame.trans habsolute.symm⟩
        rw [hroute]
        exact List.prefix_append _ _

/-- The path to the last step among some parts.  `done` is the text before them and `outer` the
path to the last step in it. -/
def lastStep (done outer : List Char) : List (List Char) → List Char
  | [] => outer
  | part :: parts =>
      if leadsNowhere part then lastStep (done ++ part ++ ['/']) outer parts
      else lastStep (done ++ part ++ ['/']) (done ++ part) parts

/-- A text as a path. -/
def ofChars (text : List Char) : Path := ⟨String.ofList text⟩

@[simp]
theorem chars_ofChars (text : List Char) : (ofChars text).chars = text := by
  simp [ofChars, chars]

theorem pathsBefore_append_step {name : List Char} (hname : leadsNowhere name = false)
    (done outer : List Char) (parts : List (List Char)) :
    pathsBefore done outer (parts ++ [name]) =
      pathsBefore done outer parts ++ [lastStep done outer parts] := by
  induction parts generalizing done outer with
  | nil => simp [pathsBefore, lastStep, hname]
  | cons part parts ih =>
    simp only [List.cons_append, pathsBefore, lastStep]
    split
    next => exact ih _ _
    next => rw [ih, List.cons_append]

/-- What is known of a text that is read up to its last step: how it is cut, where its last step
is, and whether it is absolute. -/
structure ReadsTo (done outer : List Char) (before : List (List Char)) (absolute : Bool) :
    Prop where
  reads : Reads done before
  route_eq : (ofChars outer).route = stepsOf before
  isAbsolute_eq : (ofChars outer).isAbsolute = absolute
  start_eq : ∀ rest : List Char, rest.head? ≠ some '/' →
    ((done ++ rest).head? == some '/') = absolute

theorem ReadsTo.head?_part {part : List Char} (hslash : '/' ∉ part) :
    part.head? ≠ some '/' := by
  intro hhead
  exact hslash (List.mem_of_head? hhead)

theorem ReadsTo.start_push {done outer part : List Char} {before : List (List Char)}
    {absolute : Bool} (h : ReadsTo done outer before absolute) (hslash : '/' ∉ part)
    (hdone : done ++ part ≠ []) (rest : List Char) :
    ((done ++ part ++ ['/'] ++ rest).head? == some '/') = absolute := by
  rw [← h.start_eq part (head?_part hslash)]
  cases htext : done ++ part with
  | nil => exact absurd htext hdone
  | cons c text => rfl

/-- A part that leads nowhere is passed over.  It has to stand behind another part, since a text
that it starts would be absolute. -/
theorem ReadsTo.pass {done outer part : List Char} {before : List (List Char)} {absolute : Bool}
    (h : ReadsTo done outer before absolute) (hslash : '/' ∉ part) (hdone : done ≠ [])
    (hpart : leadsNowhere part = true) :
    ReadsTo (done ++ part ++ ['/']) outer (before ++ [part]) absolute where
  reads := h.reads.push hslash
  route_eq := by rw [h.route_eq, stepsOf_append, stepsOf_of_leadsNowhere hpart, List.append_nil]
  isAbsolute_eq := h.isAbsolute_eq
  start_eq rest _ := h.start_push hslash (by simp [hdone]) rest

/-- A step moves the end of the path on. -/
theorem ReadsTo.step {done outer part : List Char} {before : List (List Char)} {absolute : Bool}
    (h : ReadsTo done outer before absolute) (hslash : '/' ∉ part)
    (hpart : leadsNowhere part = false) :
    ReadsTo (done ++ part ++ ['/']) (done ++ part) (before ++ [part]) absolute where
  reads := h.reads.push hslash
  route_eq := by simp only [route, parts, chars_ofChars, h.reads.part hslash]
  isAbsolute_eq := by
    simp only [isAbsolute, chars_ofChars]
    exact h.start_eq part (head?_part hslash)
  start_eq rest _ := by
    refine h.start_push hslash ?_ rest
    intro hnil
    rw [(List.append_eq_nil_iff.1 hnil).2] at hpart
    simp [leadsNowhere] at hpart

/-- The induction over the parts still to read: where the path to the last step among them lies,
and that the paths before it lie outside it. -/
theorem ReadsTo.lastStep {done outer : List Char} {before parts : List (List Char)}
    {absolute : Bool} {further : List Path} (h : ReadsTo done outer before absolute)
    (hparts : ∀ part ∈ parts, '/' ∉ part)
    (hfirst : done = [] → ∀ part ∈ parts.head?, leadsNowhere part = false)
    (hout : Outward (ofChars outer) further) :
    (ofChars (lastStep done outer parts)).route = stepsOf (before ++ parts) ∧
      (ofChars (lastStep done outer parts)).isAbsolute = absolute ∧
      Outward (ofChars (lastStep done outer parts))
        (((pathsBefore done outer parts).map ofChars).reverse ++ further) := by
  induction parts generalizing done outer before further with
  | nil => exact ⟨by simpa [Path.lastStep] using h.route_eq, h.isAbsolute_eq, hout⟩
  | cons part parts ih =>
    have hslash : '/' ∉ part := hparts part List.mem_cons_self
    have hrest : ∀ other ∈ parts, '/' ∉ other :=
      fun other hother => hparts other (List.mem_cons_of_mem part hother)
    have hbefore : before ++ part :: parts = before ++ [part] ++ parts := by simp
    rw [hbefore]
    cases hpart : leadsNowhere part with
    | true =>
      have hdone : done ≠ [] := by
        intro hnil
        rw [hfirst hnil part rfl] at hpart
        exact Bool.false_ne_true hpart
      simp only [Path.lastStep, pathsBefore, hpart, if_true]
      exact ih (h.pass hslash hdone hpart) hrest (by simp) hout
    | false =>
      have hstep := h.step hslash hpart
      have houter : Outward (ofChars (done ++ part)) (ofChars outer :: further) := by
        have hroute : (ofChars (done ++ part)).route = (ofChars outer).route ++ [part] := by
          rw [hstep.route_eq, h.route_eq, stepsOf_append, stepsOf_of_step hpart]
        exact .step hroute (hstep.isAbsolute_eq.trans h.isAbsolute_eq.symm) hout
      simpa only [Path.lastStep, pathsBefore, hpart, Bool.false_eq_true, if_false, List.map_cons,
        List.reverse_cons, List.append_assoc, List.singleton_append]
        using ih hstep hrest (by simp) houter

/-! ## Where the reading begins -/

/-- How the parts of a path are read: the text `done` of the parts `before`, the path to the last
step in it with the texts outside that path, and the parts that are left. -/
structure Beginning where
  done : List Char
  outer : List Char
  further : List (List Char)
  before : List (List Char)
  rest : List (List Char)

/-- A leading empty part stands for the root directory, a leading `.` for the current one. -/
def beginning : List (List Char) → Beginning
  | [] :: parts => ⟨['/'], ['/'], [], [[]], parts⟩
  | ['.'] :: parts => ⟨['.', '/'], ['.'], [[]], [['.']], parts⟩
  | parts => ⟨[], [], [], [], parts⟩

theorem beginning_before_append_rest (parts : List (List Char)) :
    (beginning parts).before ++ (beginning parts).rest = parts := by
  fun_cases beginning parts <;> rfl

theorem leadsNowhere_eq_false {part : List Char} (hnil : part ≠ []) (hdot : part ≠ ['.']) :
    leadsNowhere part = false := by
  simp [leadsNowhere, hnil, hdot]

/-- Only a part that leads somewhere can be the first one that is left. -/
theorem beginning_first_step {parts : List (List Char)} (hdone : (beginning parts).done = []) :
    ∀ part ∈ (beginning parts).rest.head?, leadsNowhere part = false := by
  revert hdone
  fun_cases beginning parts
  case case1 => simp
  case case2 => simp
  case case3 hempty hdot =>
    intro _ part hpart
    obtain ⟨rest, hrest⟩ := List.head?_eq_some_iff.1 hpart
    refine leadsNowhere_eq_false ?_ ?_
    · rintro rfl
      exact hempty rest hrest
    · rintro rfl
      exact hdot rest hrest

theorem beginning_append_step {name : List Char} (hname : leadsNowhere name = false)
    (parts : List (List Char)) :
    beginning (parts ++ [name]) =
      { beginning parts with rest := (beginning parts).rest ++ [name] } := by
  have hnil : name ≠ [] := by
    rintro rfl
    simp [leadsNowhere] at hname
  have hdot : name ≠ ['.'] := by
    rintro rfl
    simp [leadsNowhere] at hname
  fun_cases beginning parts
  case case1 => rfl
  case case2 => rfl
  case case3 hempty hrelative =>
    cases parts with
    | nil => exact beginning.eq_3 [name] (by simp [hnil]) (by simp [hdot])
    | cons part parts =>
      refine beginning.eq_3 _ ?_ ?_
      · intro rest hrest
        exact hempty parts (by rw [(List.cons.inj hrest).1])
      · intro rest hrest
        exact hrelative parts (by rw [(List.cons.inj hrest).1])

/-- A text is cut into an empty part and others exactly if it is empty or starts at the root. -/
theorem exists_splitAtSlashes_eq {text : List Char} :
    (∃ parts, splitAtSlashes text = [] :: parts) ↔ text = [] ∨ text.head? = some '/' := by
  cases text with
  | nil => simp [splitAtSlashes]
  | cons c text =>
    by_cases hc : c = '/'
    · subst hc
      simp [splitAtSlashes]
    · simp [splitAtSlashes_cons hc, hc]

theorem readsTo_beginning {parts : List (List Char)} {absolute : Bool}
    (habsolute : (∃ rest, parts = [] :: rest) ↔ absolute = true) :
    ReadsTo (beginning parts).done (beginning parts).outer (beginning parts).before
      absolute := by
  revert habsolute
  fun_cases beginning parts
  case case1 parts =>
    intro habsolute
    rw [habsolute.1 ⟨parts, rfl⟩]
    exact
      { reads := reads_nil.push List.not_mem_nil
        route_eq := by simp [route, Path.parts, splitAtSlashes, stepsOf, leadsNowhere]
        isAbsolute_eq := by simp [isAbsolute]
        start_eq := fun rest _ => by simp }
  case case2 parts =>
    intro habsolute
    have hfalse : absolute = false := by simpa using habsolute
    have hdot : '/' ∉ ['.'] := by decide
    rw [hfalse]
    exact
      { reads := reads_nil.push hdot
        route_eq := by simp [route, Path.parts, splitAtSlashes, stepsOf, leadsNowhere]
        isAbsolute_eq := by simp [isAbsolute]
        start_eq := fun rest _ => by simp }
  case case3 hempty hdot =>
    intro habsolute
    have hfalse : absolute = false := by
      rw [← Bool.not_eq_true, ← habsolute]
      rintro ⟨rest, hrest⟩
      exact hempty rest hrest
    rw [hfalse]
    exact
      { reads := reads_nil
        route_eq := by simp [route, Path.parts, splitAtSlashes, stepsOf, leadsNowhere]
        isAbsolute_eq := by simp [isAbsolute]
        start_eq := fun rest hrest => by simpa using hrest }

/-- The path to the last step among some parts of a path. -/
def pathOf (parts : List (List Char)) : Path :=
  ofChars (lastStep (beginning parts).done (beginning parts).outer (beginning parts).rest)

/-- The paths outside it, nearest first. -/
def outsideOf (parts : List (List Char)) : List Path :=
  (((beginning parts).further ++ pathsBefore (beginning parts).done (beginning parts).outer
    (beginning parts).rest).map ofChars).reverse

theorem pathOf_spec {parts : List (List Char)} {absolute : Bool}
    (hslash : ∀ part ∈ parts, '/' ∉ part)
    (habsolute : (∃ rest, parts = [] :: rest) ↔ absolute = true) :
    (pathOf parts).route = stepsOf parts ∧ (pathOf parts).isAbsolute = absolute ∧
      Outward (pathOf parts) (outsideOf parts) := by
  have hreads := readsTo_beginning habsolute
  have hparts := beginning_before_append_rest parts
  have houter : Outward (ofChars (beginning parts).outer)
      ((beginning parts).further.map ofChars).reverse := by
    fun_cases beginning parts <;>
      exact .root (by simp [route, Path.parts, splitAtSlashes, stepsOf, leadsNowhere])
        (by simp [route, Path.parts, splitAtSlashes, stepsOf, leadsNowhere])
  have hrest : ∀ part ∈ (beginning parts).rest, '/' ∉ part := fun part hpart =>
    hslash part (by rw [← hparts]; exact List.mem_append_right _ hpart)
  obtain ⟨hroute, hsame, hout⟩ := hreads.lastStep hrest beginning_first_step houter
  rw [hparts] at hroute
  refine ⟨hroute, hsame, ?_⟩
  rw [outsideOf, List.map_append, List.reverse_append]
  exact hout

theorem outerPaths_eq {path : Path} (htext : path.chars ≠ []) :
    path.outerPaths = outsideOf path.parts := by
  unfold outerPaths outsideOf
  split
  next hparts => rw [hparts]; rfl
  next parts hparts =>
    have habsolute : path.isAbsolute = true := by
      have hhead := exists_splitAtSlashes_eq.1 ⟨parts, hparts⟩
      simpa [isAbsolute] using hhead.resolve_left htext
    rw [hparts, if_pos habsolute]
    rfl
  next parts hparts =>
    rw [hparts]
    rfl
  next hnil hempty hdot =>
    rw [beginning.eq_3 path.parts hempty hdot]
    rfl

theorem not_mem_of_mem_parts {path : Path} {part : List Char} (hpart : part ∈ path.parts) :
    '/' ∉ part :=
  not_mem_of_mem_splitAtSlashes hpart

/-- The outer paths of a path have ever fewer of its steps. -/
theorem outward_outerPaths (path : Path) : Outward path path.outerPaths := by
  by_cases htext : path.chars = []
  · have hrelative : path.isAbsolute = false := by simp [isAbsolute, htext]
    refine .root (by simp [route, Path.parts, htext, splitAtSlashes, stepsOf, leadsNowhere]) ?_
    simp [outerPaths, Path.parts, htext, splitAtSlashes, hrelative]
  · have habsolute : (∃ rest, path.parts = [] :: rest) ↔ path.isAbsolute = true := by
      rw [Path.parts, exists_splitAtSlashes_eq]
      simp [htext, isAbsolute]
    obtain ⟨hroute, hsame, hout⟩ := pathOf_spec (fun _ => not_mem_of_mem_parts) habsolute
    rw [outerPaths_eq htext]
    exact hout.congr hroute.symm hsame.symm

/-! ## The path that holds the names of a directory -/

/-- The path of a directory without the parts behind its last step. -/
def holder (path : Path) : Path := pathOf path.partsBefore

theorem mem_parts_of_mem_partsBefore {path : Path} {part : List Char}
    (hpart : part ∈ path.partsBefore) : part ∈ path.parts := by
  unfold partsBefore at hpart
  split at hpart
  next => exact absurd hpart List.not_mem_nil
  next =>
    split at hpart
    next => exact (List.dropLast_sublist _).subset hpart
    next => exact hpart

theorem exists_partsBefore_eq {path : Path} :
    (∃ rest, path.partsBefore = [] :: rest) ↔ path.isAbsolute = true := by
  unfold partsBefore isAbsolute parts
  split
  next hempty => simp [isEmpty_iff.1 hempty]
  next hempty =>
    split
    next hlast =>
      obtain ⟨init, hinit⟩ := List.getLast?_eq_some_iff.1 hlast
      rw [hinit, splitAtSlashes_append_slash, splitAtSlashes, List.dropLast_concat,
        exists_splitAtSlashes_eq]
      cases init <;> simp
    next =>
      have htext : path.chars ≠ [] := fun h => hempty (isEmpty_iff.2 h)
      rw [exists_splitAtSlashes_eq]
      simp [htext]

/-- The holder of a directory has the same steps from the same starting point. -/
theorem holder_spec (path : Path) :
    path.holder.route = path.route ∧ path.holder.isAbsolute = path.isAbsolute := by
  have hslash : ∀ part ∈ path.partsBefore, '/' ∉ part :=
    fun _ hpart => not_mem_of_mem_parts (mem_parts_of_mem_partsBefore hpart)
  obtain ⟨hroute, hsame, -⟩ := pathOf_spec hslash exists_partsBefore_eq
  exact ⟨hroute.trans (stepsOf_partsBefore path), hsame⟩

@[simp]
theorem route_holder (path : Path) : path.holder.route = path.route := (holder_spec path).1

@[simp]
theorem isAbsolute_holder (path : Path) : path.holder.isAbsolute = path.isAbsolute :=
  (holder_spec path).2

theorem IsPlain.holder {path : Path} (hplain : path.IsPlain) : path.holder.IsPlain := by
  rw [isPlain_iff] at hplain ⊢
  rwa [route_holder]

/-- All names in a directory have its holder as their parent. -/
theorem parent?_join {base : Path} {name : String} (hname : IsName name) :
    (base.join ⟨name⟩).parent? = some base.holder := by
  have htext : (base.join ⟨name⟩).chars ≠ [] := by
    simp [chars_join hname, hname.ne_nil]
  rw [parent?, outerPaths_eq htext, parts_join hname, outsideOf,
    beginning_append_step hname.not_nowhere, pathsBefore_append_step hname.not_nowhere,
    ← List.append_assoc, List.map_append, List.reverse_append]
  rfl

theorem fileName?_join {base : Path} {name : String} (hname : IsName name) :
    (base.join ⟨name⟩).fileName? = some name := by
  have hstep : leadsNowhere name.toList = false := hname.not_nowhere
  have hlast : (base.join ⟨name⟩).steps.getLast? = some name.toList := by
    unfold steps
    rw [parts_join hname]
    split
    next parts hparts =>
      cases hbefore : base.partsBefore with
      | nil =>
        rw [hbefore, List.nil_append, List.cons.injEq] at hparts
        rw [hparts.1] at hstep
        simp [leadsNowhere] at hstep
      | cons part before =>
        rw [hbefore, List.cons_append, List.cons.injEq] at hparts
        rw [← hparts.2, List.filter_append]
        simp [hstep, List.getLast?_cons]
    next => simp [hstep]
  have hdot : name.toList ≠ ['.'] := by
    intro hname
    simp [hname, leadsNowhere] at hstep
  simp [fileName?, hlast, hdot, hname.ne_outer]

/-- The name of the temporary file beside a name. -/
def temporaryName (name : String) : String := name ++ Files.temporaryEnding

theorem length_temporaryName (name : String) :
    (temporaryName name).toList.length = name.toList.length + 4 := by
  simp [temporaryName, Files.temporaryEnding]

theorem temporaryName_inj {first second : String} :
    temporaryName first = temporaryName second ↔ first = second :=
  String.append_left_inj _

/-- The temporary path of a name is that of a longer name in the same directory. -/
theorem temporaryPath_join {base : Path} {name : String} (hname : IsName name) :
    Files.temporaryPath (base.join ⟨name⟩) = base.holder.join ⟨temporaryName name⟩ := by
  rw [Files.temporaryPath, withFileName, fileName?_join hname, parent?_join hname]
  rfl

/-- A name stays a name with the ending of temporary files. -/
theorem IsName.temporary {name : String} (hname : IsName name) :
    IsName (temporaryName name) := by
  have hlength := length_temporaryName name
  refine ⟨?_, leadsNowhere_eq_false ?_ ?_, ?_⟩
  · have hslash := hname.no_slash
    simp [temporaryName, Files.temporaryEnding, hslash]
  · intro h
    simp [h] at hlength
  · intro h
    simp [h] at hlength
  · intro h
    simp [h] at hlength

end RecipeMatrix.Path
