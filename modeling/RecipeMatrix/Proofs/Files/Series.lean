import RecipeMatrix.Proofs.Files.Replacement

/-!
# Series of replacements

What many replacements in one directory come to, whatever their order is.

There are two groups.

* One delivery.  `get?_after` is the effect of a verdict on every place, and `Fits` says that a
  table of verdicts suits a file system; a delivery keeps it (`Fits.mono`).
* Many deliveries.  `Settled` describes what they leave, place by place, from the set of them
  alone.  It is extended by one more delivery (`Settled.deliver`), and two workspaces that are
  settled by the same deliveries are the same (`Settled.unique`).
-/

namespace RecipeMatrix.Files

open Workspace RecipeMatrix.Path

/-- A name and the content that goes under it. -/
structure Delivery where
  name : String
  content : ByteArray

/-! ## One delivery -/

/-- No directory stands where a verdict has a file written or cleared. -/
structure Fits (verdict : String → Verdict) (directory : Place) (files : FileSystem) : Prop where
  cleared : ∀ name, (verdict name).clears = true →
    files.get? (temporaryName name :: directory) ≠ some .directory
  written : ∀ name, (verdict name).writes = true →
    files.get? directory = some .directory ∧ files.get? (name :: directory) ≠ some .directory

section

variable {verdict : String → Verdict} {directory : Place} {workspace : Workspace}

/-- The same directories everywhere, and the same entry at one place. -/
structure KeepsDirectories (place : Place) (first second : Workspace) : Prop where
  current_eq : second.current = first.current
  directory_iff : ∀ other, second.files.get? other = some .directory ↔
    first.files.get? other = some .directory
  place_eq : second.files.get? place = first.files.get? place

theorem KeepsDirectories.refl (place : Place) (workspace : Workspace) :
    KeepsDirectories place workspace workspace := ⟨rfl, fun _ => Iff.rfl, rfl⟩

theorem KeepsDirectories.trans {place : Place} {first second third : Workspace}
    (hfirst : KeepsDirectories place first second)
    (hsecond : KeepsDirectories place second third) : KeepsDirectories place first third :=
  ⟨hsecond.current_eq.trans hfirst.current_eq,
    fun other => (hsecond.directory_iff other).trans (hfirst.directory_iff other),
    hsecond.place_eq.trans hfirst.place_eq⟩

theorem Fits.mono {reached : Workspace} (hfits : Fits verdict directory workspace.files)
    (hkeeps : KeepsDirectories directory workspace reached) :
    Fits verdict directory reached.files where
  cleared name hclears h := hfits.cleared name hclears ((hkeeps.directory_iff _).1 h)
  written name hwrites :=
    ⟨(hkeeps.directory_iff _).2 (hfits.written name hwrites).1,
      fun h => (hfits.written name hwrites).2 ((hkeeps.directory_iff _).1 h)⟩

/-- What a verdict does to every place. -/
theorem get?_after (hfits : Fits verdict directory workspace.files) (name : String)
    (content : ByteArray) (place : Place) :
    ((verdict name).after workspace directory name content).files.get? place =
      if (verdict name).writes = true ∧ name :: directory = place then some (.file content)
      else if (verdict name).clears = true ∧ temporaryName name :: directory = place then none
      else workspace.files.get? place := by
  cases hverdict : verdict name with
  | refused failure => simp [Verdict.after, Verdict.writes, Verdict.clears]
  | givenUp failure =>
    have hclears := hfits.cleared name (by simp [hverdict, Verdict.clears])
    simp [Verdict.after, Verdict.writes, Verdict.clears, withoutTemporary,
      FileSystem.get?_erase hclears]
  | written =>
    have hclears := hfits.cleared name (by simp [hverdict, Verdict.clears])
    obtain ⟨hdirectory, hnot⟩ := hfits.written name (by simp [hverdict, Verdict.writes])
    simp [Verdict.after, Verdict.writes, Verdict.clears, get?_withFile hclears hdirectory hnot]

/-- A verdict leaves all directories as they are. -/
theorem keepsDirectories_after (hfits : Fits verdict directory workspace.files) (name : String)
    (content : ByteArray) :
    KeepsDirectories directory workspace
      ((verdict name).after workspace directory name content) where
  current_eq := by cases verdict name <;> rfl
  place_eq := by
    rw [get?_after hfits, if_neg fun h => List.cons_ne_self _ _ h.2,
      if_neg fun h => List.cons_ne_self _ _ h.2]
  directory_iff other := by
    rw [get?_after hfits]
    split
    next hwritten =>
      obtain ⟨hwrites, rfl⟩ := hwritten
      simp [(hfits.written name hwrites).2]
    next =>
      split
      next hcleared =>
        obtain ⟨hclears, rfl⟩ := hcleared
        simp [hfits.cleared name hclears]
      next => rfl

theorem after_current (name : String) (content : ByteArray) :
    ((verdict name).after workspace directory name content).current = workspace.current := by
  cases verdict name <;> rfl

end

/-! ## Many deliveries -/

/-- What deliveries leave, place by place. -/
structure Settled (verdict : String → Verdict) (directory : Place) (deliveries : List Delivery)
    (start reached : Workspace) : Prop where
  current_eq : reached.current = start.current
  written : ∀ delivery ∈ deliveries, (verdict delivery.name).writes = true →
    reached.files.get? (delivery.name :: directory) = some (.file delivery.content)
  cleared : ∀ delivery ∈ deliveries, (verdict delivery.name).clears = true →
    reached.files.get? (temporaryName delivery.name :: directory) = none
  kept : ∀ place,
    (∀ delivery ∈ deliveries, (verdict delivery.name).writes = true →
      delivery.name :: directory ≠ place) →
    (∀ delivery ∈ deliveries, (verdict delivery.name).clears = true →
      temporaryName delivery.name :: directory ≠ place) →
    reached.files.get? place = start.files.get? place

/-- Deliveries that do not get in each other's way: no name is the temporary name of another, and
a name has one content. -/
structure Compatible (deliveries : List Delivery) : Prop where
  apart : ∀ first ∈ deliveries, ∀ second ∈ deliveries, first.name ≠ temporaryName second.name
  content_eq : ∀ first ∈ deliveries, ∀ second ∈ deliveries, first.name = second.name →
    first.content = second.content

theorem Compatible.mono {first second : List Delivery} (hsecond : Compatible second)
    (hsubset : ∀ delivery ∈ first, delivery ∈ second) : Compatible first where
  apart one hone other hother := hsecond.apart one (hsubset one hone) other (hsubset other hother)
  content_eq one hone other hother :=
    hsecond.content_eq one (hsubset one hone) other (hsubset other hother)

/-- Among compatible deliveries the name says which delivery it is. -/
theorem Compatible.eq_of_name_eq {delivery item : Delivery} {first : List Delivery}
    (hcompatible : Compatible (delivery :: first)) (hitem : item ∈ first)
    (hsame : item.name = delivery.name) : item = delivery := by
  have hcontent := hcompatible.content_eq item (List.mem_cons_of_mem _ hitem) delivery
    List.mem_cons_self hsame
  cases item
  cases delivery
  simp_all

namespace Settled

variable {verdict : String → Verdict} {directory : Place} {first second : List Delivery}
  {start reached other : Workspace}

theorem nil (start : Workspace) : Settled verdict directory [] start start :=
  ⟨rfl, nofun, nofun, fun _ _ _ => rfl⟩

theorem congr (hsettled : Settled verdict directory first start reached)
    (hmem : ∀ delivery, delivery ∈ second ↔ delivery ∈ first) :
    Settled verdict directory second start reached where
  current_eq := hsettled.current_eq
  written delivery hdelivery := hsettled.written delivery ((hmem delivery).1 hdelivery)
  cleared delivery hdelivery := hsettled.cleared delivery ((hmem delivery).1 hdelivery)
  kept place hwritten hcleared :=
    hsettled.kept place (fun delivery h => hwritten delivery ((hmem delivery).2 h))
      (fun delivery h => hcleared delivery ((hmem delivery).2 h))

/-- The deliveries alone say what is left. -/
theorem unique (hreached : Settled verdict directory first start reached)
    (hother : Settled verdict directory second start other)
    (hmem : ∀ delivery, delivery ∈ second ↔ delivery ∈ first) : reached = other := by
  have hsame := hother.congr fun delivery => (hmem delivery).symm
  refine Workspace.ext_get? (hreached.current_eq.trans hother.current_eq.symm) fun place => ?_
  by_cases hwritten : ∃ delivery ∈ first, (verdict delivery.name).writes = true ∧
      delivery.name :: directory = place
  · obtain ⟨delivery, hdelivery, hwrites, rfl⟩ := hwritten
    rw [hreached.written delivery hdelivery hwrites, hsame.written delivery hdelivery hwrites]
  · by_cases hcleared : ∃ delivery ∈ first, (verdict delivery.name).clears = true ∧
        temporaryName delivery.name :: directory = place
    · obtain ⟨delivery, hdelivery, hclears, rfl⟩ := hcleared
      rw [hreached.cleared delivery hdelivery hclears, hsame.cleared delivery hdelivery hclears]
    · have hnotWritten := fun delivery hdelivery hwrites hplace =>
        hwritten ⟨delivery, hdelivery, hwrites, hplace⟩
      have hnotCleared := fun delivery hdelivery hclears hplace =>
        hcleared ⟨delivery, hdelivery, hclears, hplace⟩
      rw [hreached.kept place hnotWritten hnotCleared, hsame.kept place hnotWritten hnotCleared]

/-- A name that is not delivered keeps its entry. -/
theorem kept_name {delivery : Delivery} (hcompatible : Compatible (delivery :: first))
    (hsettled : Settled verdict directory first start reached)
    (hnew : ∀ item ∈ first, (verdict item.name).writes = true → item.name ≠ delivery.name) :
    reached.files.get? (delivery.name :: directory) =
      start.files.get? (delivery.name :: directory) := by
  refine hsettled.kept _ ?_ ?_
  · intro item hitem hwrites hplace
    exact hnew item hitem hwrites (List.cons.inj hplace).1
  · intro item hitem _ hplace
    exact hcompatible.apart delivery List.mem_cons_self item (List.mem_cons_of_mem _ hitem)
      (List.cons.inj hplace).1.symm

/-- Deliveries that are all refused leave nothing behind. -/
theorem eq_start (hsettled : Settled verdict directory first start reached)
    (hrefused : ∀ delivery ∈ first, (verdict delivery.name).clears = false) :
    reached = start := by
  have hnone : Settled verdict directory [] start reached := by
    refine ⟨hsettled.current_eq, nofun, nofun, fun place _ _ => hsettled.kept place ?_ ?_⟩
    · intro delivery hdelivery hwrites
      have hclears := Verdict.clears_of_writes hwrites
      rw [hrefused delivery hdelivery] at hclears
      cases hclears
    · intro delivery hdelivery hclears
      rw [hrefused delivery hdelivery] at hclears
      cases hclears
  exact hnone.unique (nil start) fun _ => Iff.rfl

/-- Settled workspaces have the same directories. -/
theorem keepsDirectories (hfits : Fits verdict directory start.files)
    (hsettled : Settled verdict directory first start reached) :
    KeepsDirectories directory start reached where
  current_eq := hsettled.current_eq
  place_eq := hsettled.kept directory (fun _ _ _ => List.cons_ne_self _ _)
    (fun _ _ _ => List.cons_ne_self _ _)
  directory_iff place := by
    by_cases hwritten : ∃ delivery ∈ first, (verdict delivery.name).writes = true ∧
        delivery.name :: directory = place
    · obtain ⟨delivery, hdelivery, hwrites, rfl⟩ := hwritten
      rw [hsettled.written delivery hdelivery hwrites]
      simp [(hfits.written delivery.name hwrites).2]
    · by_cases hcleared : ∃ delivery ∈ first, (verdict delivery.name).clears = true ∧
          temporaryName delivery.name :: directory = place
      · obtain ⟨delivery, hdelivery, hclears, rfl⟩ := hcleared
        rw [hsettled.cleared delivery hdelivery hclears]
        simp [hfits.cleared delivery.name hclears]
      · rw [hsettled.kept place
          (fun delivery hdelivery hwrites hplace =>
            hwritten ⟨delivery, hdelivery, hwrites, hplace⟩)
          (fun delivery hdelivery hclears hplace =>
            hcleared ⟨delivery, hdelivery, hclears, hplace⟩)]

/-- One more delivery. -/
theorem deliver {delivery : Delivery} (hfits : Fits verdict directory start.files)
    (hcompatible : Compatible (delivery :: first))
    (hsettled : Settled verdict directory first start reached) :
    Settled verdict directory (delivery :: first) start
      ((verdict delivery.name).after reached directory delivery.name delivery.content) := by
  have hget := get?_after (hfits.mono (hsettled.keepsDirectories hfits)) delivery.name
    delivery.content
  have hself : delivery ∈ delivery :: first := List.mem_cons_self
  constructor
  · rw [after_current, hsettled.current_eq]
  · intro item hitem hwrites
    have hapart := hcompatible.apart item hitem delivery hself
    rw [hget]
    by_cases hsame : delivery.name = item.name
    · rw [if_pos ⟨hsame ▸ hwrites, by rw [hsame]⟩,
        hcompatible.content_eq delivery hself item hitem hsame]
    · rw [if_neg fun h => hsame (List.cons.inj h.2).1,
        if_neg fun h => hapart (List.cons.inj h.2).1.symm]
      rcases List.mem_cons.1 hitem with rfl | hitem
      · exact absurd rfl hsame
      · exact hsettled.written item hitem hwrites
  · intro item hitem hclears
    rw [hget, if_neg fun h => hcompatible.apart delivery hself item hitem (List.cons.inj h.2).1]
    split
    next => rfl
    next hnot =>
      rcases List.mem_cons.1 hitem with rfl | hitem
      · exact absurd ⟨hclears, rfl⟩ hnot
      · exact hsettled.cleared item hitem hclears
  · intro place hwritten hcleared
    rw [hget, if_neg fun h => hwritten delivery hself h.1 h.2,
      if_neg fun h => hcleared delivery hself h.1 h.2]
    exact hsettled.kept place
      (fun item hitem => hwritten item (List.mem_cons_of_mem delivery hitem))
      (fun item hitem => hcleared item (List.mem_cons_of_mem delivery hitem))

end Settled

end RecipeMatrix.Files
