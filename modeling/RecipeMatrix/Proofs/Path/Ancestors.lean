import Mathlib.Data.List.Induction
import RecipeMatrix.Proofs.Path.Outward

/-!
# Ancestors

The ancestors of a path are the path itself, its parent, the parent of its parent and so on, until
there is no parent (`ancestors_eq`).  No level is left out and none comes twice, so the search
upwards ends: the parent has fewer steps, except that the outermost path has none at all
(`length_outerPaths_le`).

The parts of a path are read from the left, and its last step is at their right.  So the proofs go
through the parts from the right (`pathOf_concat_nowhere`, `outsideOf_concat_step`).
-/

namespace RecipeMatrix.Path

/-! ## Parts from the right -/

theorem pathsBefore_concat_nowhere {part : List Char} (hpart : leadsNowhere part = true)
    (done outer : List Char) (parts : List (List Char)) :
    pathsBefore done outer (parts ++ [part]) = pathsBefore done outer parts := by
  induction parts generalizing done outer with
  | nil => simp [pathsBefore, hpart]
  | cons first parts ih =>
    simp only [List.cons_append, pathsBefore]
    split
    next => exact ih _ _
    next => rw [ih]

theorem lastStep_concat_nowhere {part : List Char} (hpart : leadsNowhere part = true)
    (done outer : List Char) (parts : List (List Char)) :
    lastStep done outer (parts ++ [part]) = lastStep done outer parts := by
  induction parts generalizing done outer with
  | nil => simp [lastStep, hpart]
  | cons first parts ih =>
    simp only [List.cons_append, lastStep]
    split
    next => exact ih _ _
    next => exact ih _ _

/-- The last of several parts does not matter to where their reading begins. -/
theorem beginning_concat {parts : List (List Char)} (hparts : parts ≠ []) (part : List Char) :
    beginning (parts ++ [part]) =
      { beginning parts with rest := (beginning parts).rest ++ [part] } := by
  fun_cases beginning parts
  case case1 => rfl
  case case2 => rfl
  case case3 hempty hdot =>
    obtain ⟨first, parts, rfl⟩ := List.exists_cons_of_ne_nil hparts
    refine beginning.eq_3 _ ?_ ?_
    · intro rest hrest
      exact hempty parts (by rw [(List.cons.inj hrest).1])
    · intro rest hrest
      exact hdot parts (by rw [(List.cons.inj hrest).1])

/-- A last part that leads nowhere is not part of the path to the last step. -/
theorem pathOf_concat_nowhere {parts : List (List Char)} {part : List Char} (hparts : parts ≠ [])
    (hpart : leadsNowhere part = true) :
    pathOf (parts ++ [part]) = pathOf parts ∧ outsideOf (parts ++ [part]) = outsideOf parts := by
  constructor
  · rw [pathOf, pathOf, beginning_concat hparts, lastStep_concat_nowhere hpart]
  · rw [outsideOf, outsideOf, beginning_concat hparts, pathsBefore_concat_nowhere hpart]

/-- Outside a last step lies the path to the step before it. -/
theorem outsideOf_concat_step {part : List Char} (hpart : leadsNowhere part = false)
    (parts : List (List Char)) :
    outsideOf (parts ++ [part]) = pathOf parts :: outsideOf parts := by
  rw [outsideOf, beginning_append_step hpart, pathsBefore_append_step hpart, ← List.append_assoc,
    List.map_append, List.reverse_append]
  rfl

/-- The path to a last step is written out up to the end of that step. -/
theorem exists_lastStep_concat_eq {part : List Char} (hpart : leadsNowhere part = false)
    {done : List Char} {before parts : List (List Char)} (hdone : Reads done before)
    (hparts : ∀ other ∈ parts, '/' ∉ other) (outer : List Char) :
    ∃ text, lastStep done outer (parts ++ [part]) = text ++ part ∧
      Reads text (before ++ parts) := by
  induction parts generalizing done before outer with
  | nil => exact ⟨done, by simp [lastStep, hpart], by rwa [List.append_nil]⟩
  | cons first parts ih =>
    have hfirst := hdone.push (hparts first List.mem_cons_self)
    have hrest : ∀ other ∈ parts, '/' ∉ other :=
      fun other hother => hparts other (List.mem_cons_of_mem first hother)
    have hbefore : before ++ first :: parts = before ++ [first] ++ parts := by simp
    rw [hbefore]
    simp only [List.cons_append, lastStep]
    split
    next => exact ih hfirst hrest _
    next => exact ih hfirst hrest _

theorem reads_beginning (parts : List (List Char)) :
    Reads (beginning parts).done (beginning parts).before := by
  fun_cases beginning parts
  case case1 => exact reads_nil.push List.not_mem_nil
  case case2 => exact reads_nil.push (by decide : '/' ∉ ['.'])
  case case3 => exact reads_nil

/-- The path to a last step has the same parts. -/
theorem parts_pathOf_concat_step {parts : List (List Char)} {part : List Char}
    (hslash : ∀ other ∈ parts ++ [part], '/' ∉ other) (hpart : leadsNowhere part = false) :
    (pathOf (parts ++ [part])).parts = parts ++ [part] := by
  have hparts := beginning_before_append_rest parts
  have hrest : ∀ other ∈ (beginning parts).rest, '/' ∉ other := fun other hother =>
    hslash other (List.mem_append_left _ (by rw [← hparts]; exact List.mem_append_right _ hother))
  obtain ⟨text, htext, hreads⟩ := exists_lastStep_concat_eq hpart (reads_beginning parts) hrest
    (beginning parts).outer
  rw [hparts] at hreads
  rw [pathOf, beginning_append_step hpart, Path.parts, chars_ofChars, htext,
    hreads.part (hslash part (by simp))]

/-- The paths outside the last step among some parts. -/
theorem outerPaths_pathOf {parts : List (List Char)} (hslash : ∀ part ∈ parts, '/' ∉ part) :
    (pathOf parts).outerPaths = outsideOf parts := by
  induction parts using List.reverseRecOn with
  | nil => rfl
  | append_singleton parts part ih =>
    cases hpart : leadsNowhere part with
    | true =>
      by_cases hparts : parts = []
      · subst hparts
        obtain rfl | rfl : part = [] ∨ part = ['.'] := by simpa [leadsNowhere] using hpart
        · decide
        · decide
      · obtain ⟨hpath, houtside⟩ := pathOf_concat_nowhere hparts hpart
        rw [hpath, houtside, ih fun other hother => hslash other (List.mem_append_left _ hother)]
    | false =>
      have hsame := parts_pathOf_concat_step hslash hpart
      have htext : (pathOf (parts ++ [part])).chars ≠ [] := by
        intro hnil
        have hmem : part ∈ splitAtSlashes [] := by
          rw [← hnil, ← Path.parts, hsame]
          exact List.mem_concat_self
        rw [List.mem_singleton.1 hmem] at hpart
        simp [leadsNowhere] at hpart
      rw [outerPaths_eq htext, hsame]

/-! ## Parents -/

variable {path : Path}

theorem outsideOf_eq_parents {parts : List (List Char)} (hslash : ∀ part ∈ parts, '/' ∉ part) :
    outsideOf parts = [] ∨ ∃ parent, outsideOf parts = parent :: parent.outerPaths := by
  induction parts using List.reverseRecOn with
  | nil => exact .inl rfl
  | append_singleton parts part ih =>
    have hbefore : ∀ other ∈ parts, '/' ∉ other :=
      fun other hother => hslash other (List.mem_append_left _ hother)
    cases hpart : leadsNowhere part with
    | true =>
      by_cases hparts : parts = []
      · subst hparts
        obtain rfl | rfl : part = [] ∨ part = ['.'] := by simpa [leadsNowhere] using hpart
        · exact .inl rfl
        · exact .inr ⟨⟨""⟩, by decide⟩
      · rw [(pathOf_concat_nowhere hparts hpart).2]
        exact ih hbefore
    | false =>
      refine .inr ⟨pathOf parts, ?_⟩
      rw [outsideOf_concat_step hpart, outerPaths_pathOf hbefore]

/-- The outer paths are the parent and its outer paths, if there is a parent. -/
theorem outerPaths_eq_parents (path : Path) :
    path.outerPaths = match path.parent? with
      | none => []
      | some parent => parent :: parent.outerPaths := by
  have houter : path.outerPaths = [] ∨
      ∃ parent, path.outerPaths = parent :: Path.outerPaths parent := by
    by_cases htext : path.chars = []
    · exact .inl (by simp [outerPaths, Path.parts, htext, splitAtSlashes, isAbsolute])
    · rw [outerPaths_eq htext]
      exact outsideOf_eq_parents fun _ => not_mem_of_mem_parts
  rcases houter with hnone | ⟨parent, hparent⟩
  · simp [parent?, hnone]
  · rw [parent?, hparent]
    rfl

theorem outerPaths_of_parent? {path parent : Path} (hparent : path.parent? = some parent) :
    path.outerPaths = parent :: parent.outerPaths := by
  rw [outerPaths_eq_parents, hparent]

/-- The ancestors of a path are the path and the ancestors of its parent. -/
theorem ancestors_eq (path : Path) :
    path.ancestors = path :: (path.parent?.map ancestors).getD [] := by
  rw [ancestors, outerPaths_eq_parents]
  cases path.parent? with
  | none => rfl
  | some parent => rfl

/-- The parent of a path with steps has all but the last of them. -/
theorem exists_parent?_eq (hroute : path.route ≠ []) :
    ∃ parent part, path.parent? = some parent ∧ path.route = parent.route ++ [part] ∧
      path.isAbsolute = parent.isAbsolute := by
  have hout := outward_outerPaths path
  rw [parent?]
  generalize path.outerPaths = outer at hout
  cases hout with
  | root hnil _ => exact absurd hnil hroute
  | step hlast habsolute _ => exact ⟨_, _, rfl, hlast, habsolute⟩

theorem pathsBefore_eq_nil {parts : List (List Char)} (hparts : stepsOf parts = [])
    (done outer : List Char) : pathsBefore done outer parts = [] := by
  induction parts generalizing done with
  | nil => rfl
  | cons part parts ih =>
    have hpart : leadsNowhere part = true := by
      cases hpart : leadsNowhere part with
      | true => rfl
      | false => simp [stepsOf, hpart] at hparts
    have hrest : stepsOf parts = [] := by simpa [stepsOf, hpart] using hparts
    simp only [pathsBefore, hpart, if_true, ih hrest]

/-- There is nothing outside a root. -/
theorem outerPaths_root (hroute : path.route = []) (habsolute : path.isAbsolute = true) :
    path.outerPaths = [] := by
  obtain ⟨rest, hparts⟩ : ∃ rest, path.parts = [] :: rest :=
    exists_splitAtSlashes_eq.2 (.inr (by simpa [isAbsolute] using habsolute))
  have hrest : stepsOf rest = [] := by
    rw [route, hparts] at hroute
    simpa [stepsOf, leadsNowhere] using hroute
  unfold outerPaths
  simp only [hparts, habsolute, if_true, pathsBefore_eq_nil hrest]
  rfl

/-- There is nothing to be written outside a path without steps. -/
theorem isEmpty_of_parent?_eq {parent : Path} (hroute : path.route = [])
    (hparent : path.parent? = some parent) : parent.isEmpty = true := by
  have hmem := List.mem_of_head? hparent
  unfold outerPaths at hmem
  rw [route] at hroute
  simp only [List.mem_reverse, List.mem_map] at hmem
  obtain ⟨text, htext, rfl⟩ := hmem
  split at htext
  next => exact absurd htext List.not_mem_nil
  next parts hparts =>
    have hrest : stepsOf parts = [] := by simpa [hparts, stepsOf, leadsNowhere] using hroute
    rw [pathsBefore_eq_nil hrest] at htext
    simp at htext
  next parts hparts =>
    have hrest : stepsOf parts = [] := by simpa [hparts, stepsOf, leadsNowhere] using hroute
    rw [pathsBefore_eq_nil hrest, List.mem_singleton] at htext
    rw [htext]
    rfl
  next =>
    rw [pathsBefore_eq_nil hroute] at htext
    exact absurd htext List.not_mem_nil

theorem IsPlain.of_route_eq {parent : Path} {part : List Char} (hplain : path.IsPlain)
    (hroute : path.route = parent.route ++ [part]) : parent.IsPlain := by
  rw [isPlain_iff] at hplain ⊢
  exact fun hmem => hplain (by rw [hroute]; exact List.mem_append_left _ hmem)

/-- A path has a parent for each of its steps, and one more at most. -/
theorem length_outerPaths_le (path : Path) : path.outerPaths.length ≤ path.route.length + 1 := by
  by_cases hroute : path.route = []
  · cases hparent : path.parent? with
    | none => simp [outerPaths_eq_parents path, hparent]
    | some parent =>
      have hempty := isEmpty_iff.1 (isEmpty_of_parent?_eq hroute hparent)
      have hnone : parent.outerPaths = [] := by
        simp [outerPaths, Path.parts, hempty, splitAtSlashes, isAbsolute]
      simp [outerPaths_of_parent? hparent, hnone]
  · obtain ⟨parent, part, hparent, hlast, -⟩ := exists_parent?_eq hroute
    have hlength : parent.route.length < path.route.length := by simp [hlast]
    have hrest := length_outerPaths_le parent
    rw [outerPaths_of_parent? hparent, List.length_cons]
    omega
termination_by path.route.length

end RecipeMatrix.Path
