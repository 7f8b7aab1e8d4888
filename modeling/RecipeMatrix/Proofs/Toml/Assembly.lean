import Mathlib.Data.List.Nodup
import RecipeMatrix.Toml.Document

/-!
# Assembling tables

What statements of the simplest kinds add to the entries of a document: values under keys of one
step, a table under a header, and a list of tables under a header for each.

All assignments are treated alike, wherever they go: `Focused` says that a path of header keys
leads to a place in the entries, and `foldlM_assignments` adds the values to the table in that
place.
-/

namespace RecipeMatrix.Toml

/-! ## Values of drafts -/

theorem entryValues_eq_map (entries : Drafts) :
    entryValues entries = entries.map fun entry => (entry.1, entry.2.value) := by
  induction entries with
  | nil => simp [entryValues]
  | cons entry entries ih => simp [entryValues, ih]

theorem tableValues_eq_map (tables : List Drafts) :
    tableValues tables = tables.map fun entries => .table (entryValues entries) := by
  induction tables with
  | nil => simp [tableValues]
  | cons entries tables ih => simp [tableValues, ih]

namespace Drafts

/-- The entries of a table that is written as values. -/
def closed (table : Table) : Drafts := table.map fun entry => (entry.1, .closed entry.2)

theorem entryValues_closed (table : Table) : entryValues (closed table) = table := by
  induction table with
  | nil => simp [closed, entryValues]
  | cons entry table ih =>
    rw [closed] at ih
    simp [closed, entryValues, Draft.value, ih]

theorem table_append (first second : Drafts) :
    Drafts.table (first ++ second) = Drafts.table first ++ Drafts.table second := by
  simp [Drafts.table, entryValues_eq_map]

/-! ## The open table -/

variable {before : Drafts} {key : String}

theorem lookup_append_last (hbefore : before.lookup key = none) (draft : Draft) :
    (before ++ [(key, draft)]).lookup key = some draft := by
  simp [List.lookup_append, hbefore]

theorem replace_append_last (hbefore : before.lookup key = none) (old new : Draft) :
    Drafts.replace (before ++ [(key, old)]) key new = before ++ [(key, new)] := by
  have hsame : ∀ entry ∈ before, (if entry.1 = key then (key, new) else entry) = entry := by
    intro entry hentry
    have hne := List.lookup_eq_none_iff.mp hbefore entry hentry
    rw [if_neg]
    intro heq
    simp [heq] at hne
  rw [Drafts.replace, List.map_append, List.map_congr_left hsame]
  simp

/-- A path leads to a place in some entries: what is done to the table there is done to what
stands in that place. -/
def Focused (path : Key) (fill : Drafts → Drafts) : Prop :=
  ∀ change inner, alter change path (fill inner) = (change inner).map fill

theorem focused_nil : Focused [] id := by
  intro change inner
  simp [alter]

theorem focused_table (hbefore : before.lookup key = none) :
    Focused [key] fun inner => before ++ [(key, .table .headed inner)] := by
  intro change inner
  simp only [alter, lookup_append_last hbefore, replace_append_last hbefore]
  cases change inner <;> rfl

theorem focused_list (hbefore : before.lookup key = none) (tables : List Drafts) :
    Focused [key] fun inner => before ++ [(key, .list (tables ++ [inner]))] := by
  intro change inner
  simp only [alter, lookup_append_last hbefore, replace_append_last hbefore,
    List.getLast?_concat, List.dropLast_concat]
  cases change inner <;> rfl

end Drafts

open Drafts

/-! ## Assignments -/

/-- The statements that give a table its entries. -/
def assignments (table : Table) : List Statement :=
  table.map fun entry => .assign [entry.1] entry.2

theorem addPair_of_lookup_eq_none {entries : Drafts} {key : String}
    (hkey : entries.lookup key = none) (value : Value) :
    addPair entries [key] value = some (entries ++ [(key, .closed value)]) := by
  simp [addPair, Drafts.insert, hkey]

theorem foldlM_assignments {path : Key} {fill : Drafts → Drafts} (hfocused : Focused path fill)
    {table : Table} (hkeys : (table.map Prod.fst).Nodup) (inner : Drafts)
    (hnew : ∀ key ∈ table.map Prod.fst, inner.lookup key = none) :
    (assignments table).foldlM Progress.add ⟨fill inner, path⟩ =
      some ⟨fill (inner ++ closed table), path⟩ := by
  induction table generalizing inner with
  | nil => simp [assignments, closed]
  | cons entry table ih =>
    obtain ⟨key, value⟩ := entry
    rw [List.map_cons, List.nodup_cons] at hkeys
    have hkey := hnew key List.mem_cons_self
    have hadd : Progress.add ⟨fill inner, path⟩ (.assign [key] value) =
        some ⟨fill (inner ++ [(key, .closed value)]), path⟩ := by
      simp [Progress.add, hfocused _ inner, addPair_of_lookup_eq_none hkey]
    have hrest : ∀ other ∈ table.map Prod.fst,
        (inner ++ [(key, Draft.closed value)]).lookup other = none := by
      intro other hother
      have hne : other ≠ key := fun heq => hkeys.1 (heq ▸ hother)
      have hinner := hnew other (List.mem_cons_of_mem _ hother)
      simp [List.lookup_append, hinner, List.lookup_cons, beq_false_of_ne hne]
    have hfold := ih hkeys.2 _ hrest
    rw [assignments, List.map_cons, List.foldlM_cons, hadd]
    simpa [assignments, closed] using hfold

/-! ## Headers -/

/-- The statements of a table under a header of its own. -/
def headed (key : String) (table : Table) : List Statement :=
  .header [key] :: assignments table

/-- The statements of a list of tables, each under a header of its own. -/
def elements (key : String) (tables : List Table) : List Statement :=
  tables.flatMap fun table => .element [key] :: assignments table

theorem foldlM_headed {entries : Drafts} {key : String} (hkey : entries.lookup key = none)
    (path : Key) {table : Table} (hkeys : (table.map Prod.fst).Nodup) :
    (headed key table).foldlM Progress.add ⟨entries, path⟩ =
      some ⟨entries ++ [(key, .table .headed (closed table))], [key]⟩ := by
  have hadd : Progress.add ⟨entries, path⟩ (.header [key]) =
      some ⟨entries ++ [(key, .table .headed [])], [key]⟩ := by
    simp [Progress.add, alter, openTable, hkey]
  rw [headed, List.foldlM_cons, hadd]
  exact foldlM_assignments (focused_table hkey) hkeys [] (fun _ _ => rfl)

/-- One more table of a list, once its header has opened it. -/
theorem foldlM_element {before : Drafts} {key : String} (hkey : before.lookup key = none)
    {opened : List Drafts} {progress : Progress}
    (hadd : progress.add (.element [key]) =
      some ⟨before ++ [(key, .list (opened ++ [[]]))], [key]⟩)
    {table : Table} (hkeys : (table.map Prod.fst).Nodup) :
    (.element [key] :: assignments table).foldlM Progress.add progress =
      some ⟨before ++ [(key, .list (opened ++ [closed table]))], [key]⟩ := by
  rw [List.foldlM_cons, hadd]
  exact foldlM_assignments (focused_list hkey opened) hkeys [] (fun _ _ => rfl)

theorem foldlM_more_elements {before : Drafts} {key : String} (hkey : before.lookup key = none)
    {tables : List Table} (hkeys : ∀ table ∈ tables, (table.map Prod.fst).Nodup)
    (opened : List Drafts) :
    (elements key tables).foldlM Progress.add ⟨before ++ [(key, .list opened)], [key]⟩ =
      some ⟨before ++ [(key, .list (opened ++ tables.map closed))], [key]⟩ := by
  induction tables generalizing opened with
  | nil => simp [elements]
  | cons table tables ih =>
    have hadd : Progress.add ⟨before ++ [(key, .list opened)], [key]⟩ (.element [key]) =
        some ⟨before ++ [(key, .list (opened ++ [[]]))], [key]⟩ := by
      simp [Progress.add, alter, openElement, lookup_append_last hkey, replace_append_last hkey]
    have hrest := ih (fun table htable => hkeys table (List.mem_cons_of_mem _ htable))
      (opened ++ [closed table])
    rw [List.append_assoc, List.singleton_append, ← List.map_cons] at hrest
    rw [elements, List.flatMap_cons, List.foldlM_append,
      foldlM_element hkey hadd (hkeys table List.mem_cons_self)]
    exact hrest

/-- The entry of a list of tables; a list without any is not in the document. -/
def listEntry (key : String) (tables : List Table) : Drafts :=
  if tables = [] then [] else [(key, .list (tables.map closed))]

/-- The value of that entry. -/
def listTable (key : String) (tables : List Table) : Table :=
  if tables = [] then [] else [(key, .array (tables.map .table))]

theorem table_listEntry (key : String) (tables : List Table) :
    Drafts.table (listEntry key tables) = listTable key tables := by
  by_cases hempty : tables = []
  · simp [listEntry, listTable, hempty, Drafts.table, entryValues]
  · simp [listEntry, listTable, hempty, Drafts.table, entryValues, Draft.value, tableValues_eq_map,
      entryValues_closed]

theorem exists_foldlM_elements {entries : Drafts} {key : String} {tables : List Table}
    (hkey : tables ≠ [] → entries.lookup key = none) (path : Key)
    (hkeys : ∀ table ∈ tables, (table.map Prod.fst).Nodup) :
    ∃ last, (elements key tables).foldlM Progress.add ⟨entries, path⟩ =
      some ⟨entries ++ listEntry key tables, last⟩ := by
  cases tables with
  | nil => exact ⟨path, by simp [elements, listEntry]⟩
  | cons table tables =>
    have hnone := hkey (List.cons_ne_nil _ _)
    have hadd : Progress.add ⟨entries, path⟩ (.element [key]) =
        some ⟨entries ++ [(key, .list ([] ++ [[]]))], [key]⟩ := by
      simp [Progress.add, alter, openElement, hnone]
    have hrest := foldlM_more_elements hnone
      (fun table htable => hkeys table (List.mem_cons_of_mem _ htable)) [closed table]
    refine ⟨[key], ?_⟩
    rw [elements, List.flatMap_cons, List.foldlM_append,
      foldlM_element hnone hadd (hkeys table List.mem_cons_self)]
    exact hrest

end RecipeMatrix.Toml
