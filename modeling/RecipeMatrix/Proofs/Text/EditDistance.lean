import Mathlib.Order.Bounds.Basic
import Mathlib.Order.MinMax
import RecipeMatrix.Text

/-!
# Edit distance is the least number of edits

An edit inserts, deletes or replaces one element, anywhere in a list.  `editDistance` is the least
number of edits that lead from one list to another (`isLeast_editDistance`).

* Rows.  What the computation keeps for a list and one of its suffixes are distances again, so the
  distance obeys the recurrence on both heads (`editDistance_cons_cons`).
* So many edits are enough.  Each choice that the recurrence takes is one edit, or none where the
  heads are equal (`edits_editDistance`).
* Fewer are not.  One edit changes the distance to any third list by one at most
  (`Edit.editDistance_le`), and a list has the distance 0 to itself.
-/

namespace RecipeMatrix.Text

/-- One list becomes another when one of its elements is deleted or replaced, or when one is
inserted. -/
inductive Edit {α : Type} : List α → List α → Prop
  | insert (x : α) (xs : List α) : Edit xs (x :: xs)
  | delete (x : α) (xs : List α) : Edit (x :: xs) xs
  | replace (x y : α) (xs : List α) : Edit (x :: xs) (y :: xs)
  /-- The edit is further on. -/
  | later (x : α) {xs ys : List α} (hedit : Edit xs ys) : Edit (x :: xs) (x :: ys)

/-- One list becomes another by so many edits, one after the other. -/
inductive Edits {α : Type} : Nat → List α → List α → Prop
  | none (xs : List α) : Edits 0 xs xs
  | more {count : Nat} {xs ys zs : List α} (hedit : Edit xs ys) (hedits : Edits count ys zs) :
      Edits (count + 1) xs zs

section

variable {α : Type} [DecidableEq α]

/-! ## Rows -/

/-- Without its first entry, a row is the row for the shorter suffix. -/
theorem tail_distances (xs : List α) (y : α) (ys : List α) :
    (distances xs (y :: ys)).tail = distances xs ys := by
  induction xs with
  | nil => rw [distances, List.tail_cons]
  | cons x xs ih => rw [distances, distanceRow, List.tail_cons, ih, distances]

@[simp]
theorem editDistance_nil_left (ys : List α) : editDistance [] ys = ys.length := by
  cases ys <;> simp [editDistance, distances]

@[simp]
theorem editDistance_cons_nil (x : α) (xs : List α) :
    editDistance (x :: xs) [] = editDistance xs [] + 1 := by
  simp [editDistance, distances, distanceRow]

theorem editDistance_cons_cons (x : α) (xs : List α) (y : α) (ys : List α) :
    editDistance (x :: xs) (y :: ys) =
      min (min (editDistance xs (y :: ys) + 1) (editDistance (x :: xs) ys + 1))
        (editDistance xs ys + if x = y then 0 else 1) := by
  have hrow := tail_distances xs y ys
  simp only [editDistance, distances, distanceRow, List.headD_cons, hrow]

/-! ## So many edits are enough -/

omit [DecidableEq α] in
/-- Edits can be made behind an element that stays. -/
theorem Edits.behind {count : Nat} {xs ys : List α} (hedits : Edits count xs ys) (x : α) :
    Edits count (x :: xs) (x :: ys) := by
  induction hedits with
  | none xs => exact .none (x :: xs)
  | more hedit _ ih => exact .more (.later x hedit) ih

omit [DecidableEq α] in
/-- An element can be inserted first. -/
theorem Edits.inserting {count : Nat} {xs ys : List α} (hedits : Edits count xs ys) (y : α) :
    Edits (count + 1) xs (y :: ys) :=
  .more (.insert y xs) (hedits.behind y)

theorem edits_editDistance (xs ys : List α) : Edits (editDistance xs ys) xs ys := by
  induction xs generalizing ys with
  | nil =>
    induction ys with
    | nil =>
      rw [editDistance_nil_left]
      exact .none []
    | cons y ys ih =>
      rw [editDistance_nil_left] at ih ⊢
      exact ih.inserting y
  | cons x xs ihx =>
    induction ys with
    | nil =>
      rw [editDistance_cons_nil]
      exact .more (.delete x xs) (ihx [])
    | cons y ys ihy =>
      rw [editDistance_cons_cons]
      -- The least of the three says which edit comes first.
      rcases min_choice (min (editDistance xs (y :: ys) + 1) (editDistance (x :: xs) ys + 1))
        (editDistance xs ys + if x = y then 0 else 1) with hleast | hleast
      · rw [hleast]
        rcases min_choice (editDistance xs (y :: ys) + 1) (editDistance (x :: xs) ys + 1) with
          hdelete | hinsert
        · rw [hdelete]
          exact .more (.delete x xs) (ihx (y :: ys))
        · rw [hinsert]
          exact ihy.inserting y
      · rw [hleast]
        split
        next hsame =>
          subst hsame
          exact (ihx ys).behind x
        next => exact .more (.replace x y xs) ((ihx ys).behind y)

/-! ## Fewer are not -/

theorem editDistance_self (xs : List α) : editDistance xs xs = 0 := by
  induction xs with
  | nil => exact editDistance_nil_left []
  | cons x xs ih =>
    rw [editDistance_cons_cons, if_pos rfl, ih]
    exact Nat.min_zero _

theorem editDistance_cons_right_le (xs : List α) (y : α) (ys : List α) :
    editDistance xs (y :: ys) ≤ editDistance xs ys + 1 := by
  cases xs with
  | nil => simp
  | cons x xs =>
    rw [editDistance_cons_cons]
    omega

theorem editDistance_cons_left_le (x : α) (xs ys : List α) :
    editDistance (x :: xs) ys ≤ editDistance xs ys + 1 := by
  cases ys with
  | nil => rw [editDistance_cons_nil]
  | cons y ys =>
    rw [editDistance_cons_cons]
    omega

theorem editDistance_le_cons_left (x : α) (xs ys : List α) :
    editDistance xs ys ≤ editDistance (x :: xs) ys + 1 := by
  induction ys with
  | nil =>
    rw [editDistance_cons_nil]
    omega
  | cons y ys ih =>
    have hlonger := editDistance_cons_right_le xs y ys
    rw [editDistance_cons_cons]
    omega

/-- One edit brings a list closer to another by one at most. -/
theorem Edit.editDistance_le {xs ys : List α} (hedit : Edit xs ys) (zs : List α) :
    editDistance xs zs ≤ editDistance ys zs + 1 := by
  induction hedit generalizing zs with
  | insert x xs => exact editDistance_le_cons_left x xs zs
  | delete x xs => exact editDistance_cons_left_le x xs zs
  | replace x y xs =>
    induction zs with
    | nil =>
      rw [editDistance_cons_nil, editDistance_cons_nil]
      exact Nat.le_succ _
    | cons z zs ih =>
      rw [editDistance_cons_cons, editDistance_cons_cons]
      split <;> split <;> omega
  | @later x xs ys hedit ihedit =>
    induction zs with
    | nil =>
      have hrest := ihedit []
      rw [editDistance_cons_nil, editDistance_cons_nil]
      omega
    | cons z zs ih =>
      have hboth := ihedit zs
      have hrest := ihedit (z :: zs)
      rw [editDistance_cons_cons, editDistance_cons_cons]
      omega

theorem Edits.editDistance_le {count : Nat} {xs ys : List α} (hedits : Edits count xs ys) :
    editDistance xs ys ≤ count := by
  induction hedits with
  | none xs => exact (editDistance_self xs).le
  | @more count xs ys zs hedit hedits ih =>
    have hstep := hedit.editDistance_le zs
    omega

/-- The edit distance is the least number of edits between two lists. -/
theorem isLeast_editDistance (xs ys : List α) :
    IsLeast {count | Edits count xs ys} (editDistance xs ys) :=
  ⟨edits_editDistance xs ys, fun _ hedits => hedits.editDistance_le⟩

end

end RecipeMatrix.Text
