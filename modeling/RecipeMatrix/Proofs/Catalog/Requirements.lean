import Mathlib.Data.List.Induction
import Mathlib.Data.List.Nodup
import RecipeMatrix.Error

/-!
# Lists of requirements

Many rules can be broken at once, and a check reports one of them.  Here rules are put in a list,
and a check is compared with the first rule in the list that is broken.

* Requirements.  A `Requirement` is a rule with the error that reports its violation.  A check
  `Enforces` a list of requirements when it fails exactly with the error of the first that is
  broken.  Checks one after another enforce their lists one after the other (`Enforces.bind`,
  `Enforces.mapM`).
* Repetitions.  `distinct` requires that no item repeats an earlier one.  Where this fails there is
  a first item that repeats, and just one that it repeats (`FirstRepeat.unique`); a check that
  finds these two enforces the requirement (`Enforces.distinct`).
-/

namespace RecipeMatrix

/-! ## Requirements -/

/-- A rule, and the error that reports its violation. -/
structure Requirement where
  holds : Prop
  violation : Error

/-- The error reports the first requirement that is broken: all before it hold. -/
def FirstBroken (requirements : List Requirement) (error : Error) : Prop :=
  ∃ before requirement after, requirements = before ++ requirement :: after ∧
    (∀ earlier ∈ before, earlier.holds) ∧ ¬ requirement.holds ∧ requirement.violation = error

/-- A check fails exactly where a requirement is broken, with the error of the first such. -/
def Enforces {α : Type} (requirements : List Requirement) (result : Except Error α) : Prop :=
  ∀ error, result = .error error ↔ FirstBroken requirements error

section Requirements

variable {requirement : Requirement} {requirements others : List Requirement} {error : Error}

theorem not_firstBroken_nil : ¬ FirstBroken [] error := by
  rintro ⟨before, requirement, after, hnil, -⟩
  simp at hnil

theorem firstBroken_cons_iff : FirstBroken (requirement :: requirements) error ↔
    (¬ requirement.holds ∧ requirement.violation = error) ∨
      (requirement.holds ∧ FirstBroken requirements error) := by
  constructor
  · rintro ⟨before, broken, after, hsplit, hbefore, hbroken, herror⟩
    cases before with
    | nil =>
      obtain ⟨rfl, rfl⟩ := List.cons.inj hsplit
      exact Or.inl ⟨hbroken, herror⟩
    | cons first before =>
      obtain ⟨rfl, rfl⟩ := List.cons.inj hsplit
      refine Or.inr ⟨hbefore _ List.mem_cons_self, before, broken, after, rfl, ?_, hbroken, herror⟩
      exact fun earlier hearlier => hbefore earlier (List.mem_cons_of_mem _ hearlier)
  · rintro (⟨hbroken, herror⟩ | ⟨hholds, before, broken, after, rfl, hbefore, hbroken, herror⟩)
    · exact ⟨[], requirement, requirements, rfl, nofun, hbroken, herror⟩
    · exact ⟨requirement :: before, broken, after, rfl,
        List.forall_mem_cons.2 ⟨hholds, hbefore⟩, hbroken, herror⟩

theorem firstBroken_append_iff : FirstBroken (requirements ++ others) error ↔
    FirstBroken requirements error ∨
      (∀ requirement ∈ requirements, requirement.holds) ∧ FirstBroken others error := by
  induction requirements with
  | nil => simp [not_firstBroken_nil]
  | cons requirement requirements ih =>
    rw [List.cons_append, firstBroken_cons_iff, firstBroken_cons_iff, ih, List.forall_mem_cons]
    tauto

theorem FirstBroken.exists_mem (hbroken : FirstBroken requirements error) :
    ∃ requirement ∈ requirements, requirement.violation = error := by
  obtain ⟨before, requirement, after, rfl, -, -, herror⟩ := hbroken
  exact ⟨requirement, by simp, herror⟩

/-- Requirements hold unless one is the first that is broken. -/
theorem forall_holds_iff : (∀ requirement ∈ requirements, requirement.holds) ↔
    ∀ error, ¬ FirstBroken requirements error := by
  induction requirements with
  | nil => simp [not_firstBroken_nil]
  | cons requirement requirements ih =>
    simp only [List.forall_mem_cons, ih, firstBroken_cons_iff, not_or, not_and]
    constructor
    · intro ⟨hholds, hrest⟩ error
      exact ⟨fun hbroken => absurd hholds hbroken, fun _ => hrest error⟩
    · intro hnone
      have hholds : requirement.holds := by
        by_contra hbroken
        exact (hnone requirement.violation).1 hbroken rfl
      exact ⟨hholds, fun error => (hnone error).2 hholds⟩

namespace Enforces

variable {α β : Type} {first : Except Error α} {next : α → Except Error β}

theorem forall_holds {value : α} (hfirst : Enforces requirements first) (hok : first = .ok value) :
    ∀ requirement ∈ requirements, requirement.holds := by
  refine forall_holds_iff.2 fun error hbroken => ?_
  have herror := (hfirst error).2 hbroken
  rw [hok] at herror
  cases herror

theorem ok (value : α) : Enforces [] (.ok value) := by
  intro error
  simp [not_firstBroken_nil]

/-- A check of one rule. -/
theorem rule {holds : Prop} {violation : Error} {result : Except Error Unit}
    (hok : holds → result = .ok ()) (herror : ¬ holds → result = .error violation) :
    Enforces [⟨holds, violation⟩] result := by
  intro error
  rw [firstBroken_cons_iff]
  by_cases hholds : holds
  · simp [hok hholds, hholds, not_firstBroken_nil]
  · simp [herror hholds, hholds]

/-- Checks one after another. -/
theorem bind (hfirst : Enforces requirements first)
    (hnext : ∀ value, first = .ok value → Enforces others (next value)) :
    Enforces (requirements ++ others) (first >>= next) := by
  intro error
  rw [firstBroken_append_iff]
  cases hresult : first with
  | error found =>
    have hbroken : FirstBroken requirements found := (hfirst found).1 hresult
    have hnot : ¬ ∀ requirement ∈ requirements, requirement.holds :=
      fun hholds => forall_holds_iff.1 hholds found hbroken
    rw [← hfirst error, hresult]
    simp [Bind.bind, Except.bind, hnot]
  | ok value =>
    have hholds := hfirst.forall_holds hresult
    have hnone : ¬ FirstBroken requirements error := forall_holds_iff.1 hholds error
    rw [← hnext value hresult error, or_iff_right hnone, and_iff_right hholds]
    rfl

/-- A check whose result is taken further. -/
theorem map (hfirst : Enforces requirements first) (f : α → β) :
    Enforces requirements (first >>= fun value => .ok (f value)) := by
  have hbind := hfirst.bind fun value _ => Enforces.ok (f value)
  rwa [List.append_nil] at hbind

/-- Checks of the items of a list, one after another. -/
theorem mapM {items : List α} {check : α → Except Error β} {rules : α → List Requirement}
    (hcheck : ∀ item, Enforces (rules item) (check item)) :
    Enforces (items.flatMap rules) (items.mapM check) := by
  induction items with
  | nil => exact Enforces.ok []
  | cons item items ih =>
    rw [List.mapM_cons, List.flatMap_cons]
    exact (hcheck item).bind fun result _ => ih.map fun results => result :: results

/-- A search for an item that breaks a rule. -/
theorem find? {items : List α} {breaks : α → Bool} {holds : α → Prop} {violation : α → Error}
    {result : Except Error Unit} (hbreaks : ∀ item, breaks item = true ↔ ¬ holds item)
    (hnone : items.find? breaks = none → result = .ok ())
    (hsome : ∀ item, items.find? breaks = some item → result = .error (violation item)) :
    Enforces (items.map fun item => ⟨holds item, violation item⟩) result := by
  induction items with
  | nil =>
    rw [hnone rfl]
    exact Enforces.ok ()
  | cons item items ih =>
    intro error
    rw [List.map_cons, firstBroken_cons_iff]
    by_cases hbroken : breaks item = true
    · have hfind : (item :: items).find? breaks = some item := by simp [hbroken]
      have hnot : ¬ holds item := (hbreaks item).1 hbroken
      simp [hsome item hfind, hnot]
    · have hfind : (item :: items).find? breaks = items.find? breaks := by simp [hbroken]
      have hholds : holds item := not_not.1 fun hnot => hbroken ((hbreaks item).2 hnot)
      rw [hfind] at hnone hsome
      rw [ih hnone hsome error]
      simp [hholds]

end Enforces

end Requirements

/-! ## Repetitions -/

section Repetitions

variable {α β γ : Type} {key : α → β} {items before : List α}

/-- The first item whose key is that of an earlier item, and that earlier item. -/
def FirstRepeat (key : α → β) (items : List α) (earlier item : α) : Prop :=
  ∃ before after, items = before ++ item :: after ∧ (before.map key).Nodup ∧ earlier ∈ before ∧
    key earlier = key item

/-- Every item has another key than each of the items before it, and `fault` reports the two that
have not.  The items in `before` come before all others. -/
def distinctFrom (key : α → β) (fault : α → α → Error) (before : List α) :
    List α → List Requirement
  | [] => []
  | item :: rest =>
      before.map (fun earlier => ⟨key earlier ≠ key item, fault earlier item⟩) ++
        distinctFrom key fault (before ++ [item]) rest

/-- No two items have one key. -/
def distinct (key : α → β) (fault : α → α → Error) (items : List α) : List Requirement :=
  distinctFrom key fault [] items

theorem distinctFrom_map (f : γ → α) (fault : α → α → Error) (before items : List γ) :
    distinctFrom key fault (before.map f) (items.map f) =
      distinctFrom (fun item => key (f item)) (fun earlier item => fault (f earlier) (f item))
        before items := by
  induction items generalizing before with
  | nil => rfl
  | cons item items ih =>
    rw [List.map_cons, distinctFrom, distinctFrom, List.map_map, ← List.map_singleton,
      ← List.map_append, ih]
    rfl

theorem exists_of_mem_distinctFrom {fault : α → α → Error} {requirement : Requirement}
    (hmem : requirement ∈ distinctFrom key fault before items) :
    ∃ earlier item, requirement.violation = fault earlier item := by
  induction items generalizing before with
  | nil => cases hmem
  | cons item items ih =>
    rcases List.mem_append.1 hmem with hmem | hmem
    · obtain ⟨earlier, -, rfl⟩ := List.mem_map.1 hmem
      exact ⟨earlier, item, rfl⟩
    · exact ih hmem

/-- With no key among the first items repeated, one item after them is the first to repeat. -/
theorem FirstRepeat.of_split {earlier item : α} {after : List α}
    (hnodup : (before.map key).Nodup) (hearlier : earlier ∈ before)
    (hkey : key earlier = key item) : FirstRepeat key (before ++ item :: after) earlier item :=
  ⟨before, after, rfl, hnodup, hearlier, hkey⟩

theorem not_firstRepeat_of_nodup (hnodup : (items.map key).Nodup) {earlier item : α} :
    ¬ FirstRepeat key items earlier item := by
  rintro ⟨before, after, rfl, -, hearlier, hkey⟩
  rw [List.map_append, List.map_cons, List.nodup_append] at hnodup
  exact hnodup.2.2 _ (List.mem_map_of_mem hearlier) _ List.mem_cons_self hkey

/-- There is one first repetition at most: of two, one would stand in the part before the other, in
which nothing is repeated. -/
theorem FirstRepeat.unique {earlier item other again : α}
    (hfirst : FirstRepeat key items earlier item) (hsecond : FirstRepeat key items other again) :
    other = earlier ∧ again = item := by
  obtain ⟨before, after, hitems, hnodup, hearlier, hkey⟩ := hfirst
  obtain ⟨prior, rest, hsplit, hprior, hother, hagain⟩ := hsecond
  rw [hitems] at hsplit
  rcases List.append_eq_append_iff.1 hsplit with ⟨excess, rfl, hexcess⟩ | ⟨excess, rfl, hexcess⟩
  · cases excess with
    | nil =>
      obtain ⟨rfl, -⟩ := List.cons.inj hexcess
      rw [List.append_nil] at hother hprior
      exact ⟨List.inj_on_of_nodup_map hprior hother hearlier (hagain.trans hkey.symm), rfl⟩
    | cons c excess =>
      obtain ⟨rfl, -⟩ := List.cons.inj hexcess
      exact absurd (FirstRepeat.of_split hnodup hearlier hkey) (not_firstRepeat_of_nodup hprior)
  · cases excess with
    | nil =>
      obtain ⟨rfl, -⟩ := List.cons.inj hexcess
      rw [List.append_nil] at hearlier hnodup
      exact ⟨List.inj_on_of_nodup_map hnodup hother hearlier (hagain.trans hkey.symm), rfl⟩
    | cons c excess =>
      obtain ⟨rfl, -⟩ := List.cons.inj hexcess
      exact absurd (FirstRepeat.of_split hprior hother hagain) (not_firstRepeat_of_nodup hnodup)

/-- An item that repeats one of several items with different keys repeats just that one. -/
theorem firstBroken_map_iff {fault : α → Error} {item earlier : α} {error : Error}
    (hnodup : (before.map key).Nodup) (hearlier : earlier ∈ before)
    (hkey : key earlier = key item) :
    FirstBroken (before.map fun earlier => ⟨key earlier ≠ key item, fault earlier⟩) error ↔
      fault earlier = error := by
  induction before with
  | nil => cases hearlier
  | cons first before ih =>
    rw [List.map_cons, List.nodup_cons] at hnodup
    rw [List.map_cons, firstBroken_cons_iff]
    rcases List.mem_cons.1 hearlier with rfl | hearlier
    · simp [hkey]
    · have hne : key first ≠ key item := by
        intro hsame
        exact hnodup.1 (List.mem_map.2 ⟨earlier, hearlier, hkey.trans hsame.symm⟩)
      rw [ih hnodup.2 hearlier]
      simp [hne]

theorem firstBroken_distinctFrom_iff {fault : α → α → Error} {error : Error}
    (hnodup : (before.map key).Nodup) :
    FirstBroken (distinctFrom key fault before items) error ↔
      ∃ earlier item, FirstRepeat key (before ++ items) earlier item ∧
        fault earlier item = error := by
  induction items generalizing before with
  | nil =>
    rw [distinctFrom, List.append_nil]
    refine iff_of_false not_firstBroken_nil ?_
    rintro ⟨earlier, item, hrepeat, -⟩
    exact not_firstRepeat_of_nodup hnodup hrepeat
  | cons item items ih =>
    rw [distinctFrom, firstBroken_append_iff]
    by_cases hmem : ∃ earlier ∈ before, key earlier = key item
    · obtain ⟨earlier, hearlier, hkey⟩ := hmem
      have hrepeat : FirstRepeat key (before ++ item :: items) earlier item :=
        FirstRepeat.of_split hnodup hearlier hkey
      have hbroken : FirstBroken (before.map fun earlier =>
          ⟨key earlier ≠ key item, fault earlier item⟩) error ↔ fault earlier item = error :=
        firstBroken_map_iff hnodup hearlier hkey
      rw [hbroken]
      constructor
      · rintro (herror | ⟨hholds, -⟩)
        · exact ⟨earlier, item, hrepeat, herror⟩
        · exact absurd hkey (hholds _ (List.mem_map_of_mem hearlier))
      · rintro ⟨other, again, hother, herror⟩
        obtain ⟨rfl, rfl⟩ := hrepeat.unique hother
        exact Or.inl herror
    · have hnew : ∀ earlier ∈ before, key earlier ≠ key item := by simpa using hmem
      have hholds : ∀ requirement ∈ before.map
          (fun earlier => (⟨key earlier ≠ key item, fault earlier item⟩ : Requirement)),
          requirement.holds := by
        simpa using hnew
      have hnext : ((before ++ [item]).map key).Nodup := by
        rw [List.map_append, List.map_singleton, ← List.concat_eq_append]
        exact hnodup.concat (by simpa using hnew)
      have hnone := forall_holds_iff.1 hholds error
      rw [ih hnext, List.append_assoc, List.singleton_append]
      simp only [hnone, false_or, and_iff_right hholds]

theorem firstBroken_distinct_iff {fault : α → α → Error} {error : Error} :
    FirstBroken (distinct key fault items) error ↔
      ∃ earlier item, FirstRepeat key items earlier item ∧ fault earlier item = error := by
  have hnodup : (([] : List α).map key).Nodup := List.nodup_nil
  exact firstBroken_distinctFrom_iff hnodup

/-- Where nothing is the first to repeat, nothing repeats. -/
theorem nodup_of_not_firstRepeat (hnone : ∀ earlier item, ¬ FirstRepeat key items earlier item) :
    (items.map key).Nodup := by
  induction items using List.reverseRecOn with
  | nil => exact List.nodup_nil
  | append_singleton items last ih =>
    have hnodup : (items.map key).Nodup := by
      refine ih fun earlier item ⟨before, after, hsplit, hbefore, hearlier, hkey⟩ => ?_
      refine hnone earlier item ⟨before, after ++ [last], ?_, hbefore, hearlier, hkey⟩
      rw [hsplit, List.append_assoc, List.cons_append]
    have hnew : key last ∉ items.map key := by
      intro hmem
      obtain ⟨earlier, hearlier, hkey⟩ := List.mem_map.1 hmem
      exact hnone earlier last (FirstRepeat.of_split hnodup hearlier hkey)
    rw [List.map_append, List.map_singleton, ← List.concat_eq_append]
    exact hnodup.concat hnew

theorem nodup_of_distinct {fault : α → α → Error}
    (hholds : ∀ requirement ∈ distinct key fault items, requirement.holds) :
    (items.map key).Nodup := by
  refine nodup_of_not_firstRepeat fun earlier item hrepeat => ?_
  refine forall_holds_iff.1 hholds (fault earlier item) ?_
  exact firstBroken_distinct_iff.2 ⟨earlier, item, hrepeat, rfl⟩

/-- A search for the first repetition. -/
theorem Enforces.distinct {fault : α → α → Error} {result : Except Error Unit}
    (hok : (items.map key).Nodup → result = .ok ())
    (herror : ∀ earlier item, FirstRepeat key items earlier item →
      result = .error (fault earlier item)) :
    Enforces (distinct key fault items) result := by
  intro error
  rw [firstBroken_distinct_iff]
  by_cases hrepeats : ∃ earlier item, FirstRepeat key items earlier item
  · obtain ⟨earlier, item, hrepeat⟩ := hrepeats
    rw [herror earlier item hrepeat, Except.error.injEq]
    constructor
    · exact fun hfault => ⟨earlier, item, hrepeat, hfault⟩
    · rintro ⟨other, again, hother, hfault⟩
      obtain ⟨rfl, rfl⟩ := hrepeat.unique hother
      exact hfault
  · have hnone : ∀ earlier item, ¬ FirstRepeat key items earlier item := by simpa using hrepeats
    rw [hok (nodup_of_not_firstRepeat hnone)]
    simp [hnone]

end Repetitions

end RecipeMatrix
