import Std.Data.ExtTreeMap
import RecipeMatrix.Files.SystemError

/-!
# File systems

A tree of directories and files as a value: a finite map from places to entries.  A place is the
list of the names that lead to it, the innermost first, so that the directory that holds
`name :: place` is `place`, and `[]` is the root.  The root is a directory, and whatever has an
entry lies in a directory.

`ext_get?` says that a file system is determined by its entries; `get?_put` and `get?_erase` say
what the updates do to them.  An update that would leave an entry outside a directory does
nothing.
-/

namespace RecipeMatrix

/-- The names that lead to an entry, innermost first. -/
abbrev Place := List String

/-- What a name can stand for. -/
inductive Entry
  | directory
  | file (content : ByteArray)

/-- Files are told apart by their bytes. -/
instance : DecidableEq Entry
  | .directory, .directory => isTrue rfl
  | .directory, .file _ => isFalse Entry.noConfusion
  | .file _, .directory => isFalse Entry.noConfusion
  | .file first, .file second =>
      if hdata : first.data = second.data then
        isTrue (congrArg Entry.file (ByteArray.ext hdata))
      else
        isFalse fun hfile => hdata (congrArg ByteArray.data (Entry.file.inj hfile))

/-- A tree of directories and files. -/
structure FileSystem where
  entries : Std.ExtTreeMap Place Entry compare
  root_eq : entries[([] : Place)]? = some .directory
  parent_eq : ∀ (name : String) (place : Place), entries[name :: place]? ≠ none →
    entries[place]? = some .directory

namespace FileSystem

/-- A file system with nothing below the root. -/
def empty : FileSystem where
  entries := (∅ : Std.ExtTreeMap Place Entry compare).insert [] .directory
  root_eq := by simp
  parent_eq := by simp [Std.ExtTreeMap.getElem?_insert]

/-- What stands at a place. -/
def get? (files : FileSystem) (place : Place) : Option Entry := files.entries[place]?

@[simp]
theorem get?_root (files : FileSystem) : files.get? [] = some .directory := files.root_eq

theorem get?_parent (files : FileSystem) {name : String} {place : Place}
    (hentry : files.get? (name :: place) ≠ none) : files.get? place = some .directory :=
  files.parent_eq name place hentry

/-- An entry can be put at a place: it lies in a directory, and no file takes the place of a
directory. -/
def Admits (files : FileSystem) (name : String) (place : Place) (entry : Entry) : Prop :=
  files.get? place = some .directory ∧
    (files.get? (name :: place) = some .directory → entry = .directory)

instance (files : FileSystem) (name : String) (place : Place) (entry : Entry) :
    Decidable (files.Admits name place entry) := by
  unfold Admits
  infer_instance

/-- The entry at a place after another one was put in. -/
theorem getElem?_insert_place (entries : Std.ExtTreeMap Place Entry compare)
    (place other : Place) (entry : Entry) :
    (entries.insert place entry)[other]? =
      if place = other then some entry else entries[other]? := by
  simp only [Std.ExtTreeMap.getElem?_insert, Std.compare_eq_iff_eq]

/-- The entry at a place after another one was taken out. -/
theorem getElem?_erase_place (entries : Std.ExtTreeMap Place Entry compare)
    (place other : Place) :
    (entries.erase place)[other]? = if place = other then none else entries[other]? := by
  simp only [Std.ExtTreeMap.getElem?_erase, Std.compare_eq_iff_eq]

/-- The file system with an entry put under a name in a directory. -/
def put (files : FileSystem) (name : String) (place : Place) (entry : Entry) : FileSystem :=
  if hadmits : files.Admits name place entry then
    { entries := files.entries.insert (name :: place) entry
      root_eq := by rw [getElem?_insert_place, if_neg (List.cons_ne_nil name place), files.root_eq]
      parent_eq := by
        intro other outer hother
        have houter : files.entries[outer]? = some .directory := by
          by_cases hsame : name :: place = other :: outer
          · obtain ⟨-, rfl⟩ := List.cons.inj hsame
            exact hadmits.1
          · rw [getElem?_insert_place, if_neg hsame] at hother
            exact files.parent_eq other outer hother
        rw [getElem?_insert_place]
        split
        next hsame =>
          subst hsame
          rw [hadmits.2 houter]
        next => exact houter }
  else files

/-- The file system without the file at a place. -/
def erase (files : FileSystem) (place : Place) : FileSystem :=
  if hplace : files.get? place = some .directory then files
  else
    have hkeep (other : Place) (hother : files.entries[other]? = some .directory) :
        (files.entries.erase place)[other]? = some .directory := by
      have hne : place ≠ other := by
        rintro rfl
        exact hplace hother
      rw [getElem?_erase_place, if_neg hne, hother]
    { entries := files.entries.erase place
      root_eq := hkeep [] files.root_eq
      parent_eq := by
        intro name outer hname
        refine hkeep outer (files.parent_eq name outer fun hnone => hname ?_)
        rw [getElem?_erase_place, hnone, ite_self] }

/-- The file system without the entry at a place below the root and all that is inside it. -/
def eraseTree (files : FileSystem) (place : Place) : FileSystem :=
  if hplace : place = [] then files
  else
    { entries := files.entries.filter fun other _ => ¬place <:+ other
      root_eq := by
        rw [Std.ExtTreeMap.getElem?_filter', files.root_eq]
        simp [hplace]
      parent_eq := by
        intro name outer hname
        rw [Std.ExtTreeMap.getElem?_filter'] at hname ⊢
        cases hentry : files.entries[name :: outer]? with
        | none => simp [hentry] at hname
        | some entry =>
          have houter := files.parent_eq name outer (by simp [hentry])
          have hkept : ¬place <:+ name :: outer := by
            intro hsuffix
            simp [hentry, hsuffix] at hname
          have hkeeps : ¬place <:+ outer :=
            fun hsuffix => hkept (hsuffix.trans (List.suffix_cons name outer))
          simp [houter, hkeeps] }

theorem ext_get? {first second : FileSystem}
    (hentry : ∀ place, first.get? place = second.get? place) : first = second := by
  cases first with
  | mk firstEntries _ _ =>
    cases second with
    | mk secondEntries _ _ =>
      congr 1
      exact Std.ExtTreeMap.ext_getElem? fun {place} => hentry place

theorem get?_put {files : FileSystem} {name : String} {place other : Place} {entry : Entry}
    (hadmits : files.Admits name place entry) :
    (files.put name place entry).get? other =
      if name :: place = other then some entry else files.get? other := by
  simp only [put, dif_pos hadmits, get?, getElem?_insert_place]

theorem get?_erase {files : FileSystem} {place other : Place}
    (hplace : files.get? place ≠ some .directory) :
    (files.erase place).get? other = if place = other then none else files.get? other := by
  unfold erase
  rw [dif_neg hplace]
  exact getElem?_erase_place files.entries place other

/-- The entries below a place, each with the names that lead to it from there, outermost first,
in the order of those names. -/
def below (files : FileSystem) (place : Place) : List (List String × Entry) :=
  let inside := files.entries.toList.filter fun item =>
    place.isSuffixOf item.1 && item.1.length != place.length
  let relative := inside.map fun item =>
    ((item.1.take (item.1.length - place.length)).reverse, item.2)
  relative.mergeSort fun first second => (compare first.1 second.1).isLE

end FileSystem

end RecipeMatrix
