import Mathlib.Data.List.TakeWhile
import RecipeMatrix.Json

/-!
# What can be read from JSON output

The text that is printed of a value is not the text of any other value (`pretty_injective`), so
whoever reads it finds what was printed.  `field?` is how a field is found.

Texts are compared from the left, together with what follows them.

* Strings.  Every character between the quotes can be told from its escaped form
  (`unescape_escaped`), and none of them is taken for the closing quote.
* Numbers.  A number does not show where it ends.  All that is asked of what follows a value is
  therefore that it does not go on with a digit (`Ends`).
* Values.  The first character says of which kind a value is (`exists_head`).  Lists of items and of
  fields are treated alike, by the text of a single one (`Unmistakable`).
-/

namespace RecipeMatrix.Json

/-- The value of a field of an object. -/
def field? (name : String) : Json → Option Json
  | object fields => fields.lookup name
  | _ => none

/-! ## Strings -/

/-- The value of a hexadecimal digit in lower case. -/
def digitValue (c : Char) : Nat :=
  if c.isDigit then c.toNat - '0'.toNat else c.toNat - 'a'.toNat + 10

/-- The character that the start of a string stands for, and the text after it. -/
def unescape : List Char → Option (Char × List Char)
  | '\\' :: '"' :: rest => some ('"', rest)
  | '\\' :: '\\' :: rest => some ('\\', rest)
  | '\\' :: 'b' :: rest => some ('\x08', rest)
  | '\\' :: 'f' :: rest => some ('\x0c', rest)
  | '\\' :: 'n' :: rest => some ('\n', rest)
  | '\\' :: 'r' :: rest => some ('\r', rest)
  | '\\' :: 't' :: rest => some ('\t', rest)
  | '\\' :: 'u' :: '0' :: '0' :: first :: second :: rest =>
      some (Char.ofNat (16 * digitValue first + digitValue second), rest)
  | c :: rest => some (c, rest)
  | [] => none

theorem twoHexDigits_of_control : ∀ number < 0x20,
    twoHexDigits number = [Nat.digitChar (number / 16), Nat.digitChar (number % 16)] ∧
      16 * digitValue (Nat.digitChar (number / 16)) + digitValue (Nat.digitChar (number % 16)) =
        number := by
  decide

theorem unescape_escaped (c : Char) (rest : List Char) :
    unescape (escaped c ++ rest) = some (c, rest) := by
  unfold escaped
  split_ifs with hquote hbackslash hb hf hn hr ht hcontrol
  · rw [hquote]; rfl
  · rw [hbackslash]; rfl
  · rw [hb]; rfl
  · rw [hf]; rfl
  · rw [hn]; rfl
  · rw [hr]; rfl
  · rw [ht]; rfl
  · obtain ⟨hdigits, hvalue⟩ := twoHexDigits_of_control c.toNat hcontrol
    rw [hdigits]
    simp only [List.cons_append, List.nil_append, unescape, hvalue, Char.ofNat_toNat]
  · simp [unescape, hbackslash]

theorem escaped_append_ne_quote (c : Char) (rest tail : List Char) :
    escaped c ++ rest ≠ '"' :: tail := by
  intro hsame
  have hread := congrArg unescape hsame
  rw [unescape_escaped] at hread
  obtain ⟨rfl, rfl⟩ := Prod.mk.inj (Option.some.inj hread)
  exact absurd hsame (by simp [escaped])

theorem content_cancel {first second rest tail : List Char}
    (hsame : first.flatMap escaped ++ '"' :: rest = second.flatMap escaped ++ '"' :: tail) :
    first = second ∧ rest = tail := by
  induction first generalizing second with
  | nil =>
    cases second with
    | nil => exact ⟨rfl, (List.cons.inj hsame).2⟩
    | cons d second =>
      rw [List.flatMap_cons, List.append_assoc] at hsame
      exact absurd hsame.symm (escaped_append_ne_quote d _ _)
  | cons c first ih =>
    cases second with
    | nil =>
      rw [List.flatMap_cons, List.append_assoc] at hsame
      exact absurd hsame (escaped_append_ne_quote c _ _)
    | cons d second =>
      rw [List.flatMap_cons, List.append_assoc, List.flatMap_cons, List.append_assoc] at hsame
      have hread := congrArg unescape hsame
      rw [unescape_escaped, unescape_escaped] at hread
      obtain ⟨rfl, hrest⟩ := Prod.mk.inj (Option.some.inj hread)
      obtain ⟨rfl, hcontent⟩ := ih hrest
      exact ⟨rfl, hcontent⟩

theorem toList_stringLiteral (text : String) :
    (stringLiteral text).toList = '"' :: (text.toList.flatMap escaped ++ ['"']) := by
  rw [stringLiteral, String.toList_ofList]
  rfl

theorem stringLiteral_cancel {first second : String} {rest tail : List Char}
    (hsame : (stringLiteral first).toList ++ rest = (stringLiteral second).toList ++ tail) :
    first = second ∧ rest = tail := by
  simp only [toList_stringLiteral, List.cons_append, List.append_assoc, List.nil_append,
    List.cons.injEq, true_and] at hsame
  obtain ⟨hcontent, hrest⟩ := content_cancel hsame
  exact ⟨String.ext hcontent, hrest⟩

/-! ## Numbers -/

/-- A value may stand before this text: it does not go on with a digit. -/
def Ends (rest : List Char) : Prop := ∀ c ∈ rest.head?, c.isDigit = false

theorem takeWhile_isDigit_repr (number : Nat) {rest : List Char} (hrest : Ends rest) :
    ((toString number).toList ++ rest).takeWhile Char.isDigit = (toString number).toList := by
  have hdigits : ∀ c ∈ (toString number).toList, c.isDigit = true := by
    rw [Nat.toString_eq_ofList_toDigits, String.toList_ofList]
    exact fun c hc => Nat.isDigit_of_mem_toDigits (by decide) (by decide) hc
  rw [List.takeWhile_append_of_pos hdigits]
  cases rest with
  | nil => simp
  | cons c rest => simp [hrest c rfl]

theorem number_cancel {first second : Nat} {rest tail : List Char} (hrest : Ends rest)
    (htail : Ends tail)
    (hsame : (toString first).toList ++ rest = (toString second).toList ++ tail) :
    first = second ∧ rest = tail := by
  have hdigits := congrArg (List.takeWhile Char.isDigit) hsame
  rw [takeWhile_isDigit_repr first hrest, takeWhile_isDigit_repr second htail] at hdigits
  rw [hdigits] at hsame
  have hvalue := congrArg (fun digits => Nat.ofDigitChars 10 digits 0) hdigits
  simp only [Nat.toString_eq_ofList_toDigits, String.toList_ofList,
    Nat.ofDigitChars_ten_toDigits] at hvalue
  exact ⟨hvalue, List.append_cancel_left hsame⟩

/-! ## Lists -/

/-- The text of an item shows where it ends, and no other item has the same. -/
def Unmistakable {α : Type} (text : α → String) (item : α) : Prop :=
  ∀ other rest tail, Ends rest → Ends tail →
    (text item).toList ++ rest = (text other).toList ++ tail → item = other ∧ rest = tail

/-- The further items of a list, each on a new line behind a comma. -/
def further (depth : Nat) (items : List String) : List Char :=
  items.flatMap fun item => ',' :: ((indent depth).toList ++ item.toList)

/-- What stands between the brackets of a list. -/
def between (depth : Nat) : List String → List Char
  | [] => []
  | first :: items =>
      (indent (depth + 1)).toList ++
        (first.toList ++ (further (depth + 1) items ++ (indent depth).toList))

theorem toList_indent (depth : Nat) :
    (indent depth).toList = '\n' :: List.replicate (2 * depth) ' ' := by
  simp [indent]

theorem toList_intercalate_cons (depth : Nat) (first : String) (items : List String) :
    (("," ++ indent depth).intercalate (first :: items)).toList =
      first.toList ++ further depth items := by
  induction items generalizing first with
  | nil => simp [further]
  | cons second items ih =>
    rw [String.intercalate_cons_cons, String.toList_append, ih, String.toList_append, further,
      further, List.flatMap_cons, String.toList_append]
    simp

theorem toList_bracketed (opening closing : String) (depth : Nat) (items : List String) :
    (bracketed opening closing depth items).toList =
      opening.toList ++ (between depth items ++ closing.toList) := by
  cases items with
  | nil => simp [bracketed, between]
  | cons first items =>
    simp only [bracketed, List.isEmpty_cons, Bool.false_eq_true, if_false, String.toList_append,
      toList_intercalate_cons, between, List.append_assoc]

theorem ends_further (depth : Nat) (items : List String) (rest : List Char) :
    Ends (further depth items ++ '\n' :: rest) := by
  cases items with
  | nil => simp [Ends, further]
  | cons item items => simp [Ends, further]

section

variable {α : Type} {text : α → String} {items others : List α} {depth : Nat}
  {rest tail : List Char}

theorem further_cancel (hitems : ∀ item ∈ items, Unmistakable text item)
    (hsame : further depth (items.map text) ++ '\n' :: rest =
      further depth (others.map text) ++ '\n' :: tail) :
    items = others ∧ rest = tail := by
  induction items generalizing others with
  | nil =>
    cases others with
    | nil => exact ⟨rfl, (List.cons.inj hsame).2⟩
    | cons other others => cases hsame
  | cons item items ih =>
    cases others with
    | nil => cases hsame
    | cons other others =>
      simp only [further, List.map_cons, List.flatMap_cons, List.cons_append, List.append_assoc,
        List.cons.injEq, true_and, List.append_cancel_left_eq] at hsame
      obtain ⟨rfl, hrest⟩ := hitems item List.mem_cons_self other _ _
        (ends_further depth _ rest) (ends_further depth _ tail) hsame
      obtain ⟨rfl, htail⟩ := ih (fun item hitem => hitems item (List.mem_cons_of_mem _ hitem)) hrest
      exact ⟨rfl, htail⟩

/-- Lists of items that show where they end do so too, once their bracket is closed. -/
theorem between_cancel {closing : Char} (hclosing : closing ≠ '\n')
    (hitems : ∀ item ∈ items, Unmistakable text item)
    (hsame : between depth (items.map text) ++ closing :: rest =
      between depth (others.map text) ++ closing :: tail) :
    items = others ∧ rest = tail := by
  cases items with
  | nil =>
    cases others with
    | nil => exact ⟨rfl, (List.cons.inj hsame).2⟩
    | cons other others =>
      rw [List.map_cons, between, toList_indent] at hsame
      exact absurd (List.cons.inj hsame).1 hclosing
  | cons item items =>
    cases others with
    | nil =>
      rw [List.map_cons, between, toList_indent] at hsame
      exact absurd (List.cons.inj hsame).1.symm hclosing
    | cons other others =>
      simp only [between, List.map_cons, List.append_assoc, List.append_cancel_left_eq,
        toList_indent depth, List.cons_append] at hsame
      obtain ⟨rfl, hrest⟩ := hitems item List.mem_cons_self other _ _
        (ends_further _ _ _) (ends_further _ _ _) hsame
      obtain ⟨rfl, htail⟩ := further_cancel
        (fun item hitem => hitems item (List.mem_cons_of_mem _ hitem)) hrest
      exact ⟨rfl, (List.cons.inj (List.append_cancel_left htail)).2⟩

end

/-! ## Values -/

/-- The kinds of values, by numbers. -/
def kind : Json → Nat
  | boolean _ => 0
  | number _ => 1
  | text _ => 2
  | array _ => 3
  | object _ => 4

/-- The kind of a value that starts with a character. -/
def kindOf (c : Char) : Nat :=
  if c = '"' then 2 else if c = '[' then 3 else if c = '{' then 4
  else if c.isDigit then 1 else 0

/-- The text of a field of an object. -/
def fieldText (depth : Nat) (field : String × Json) : String :=
  stringLiteral field.1 ++ ": " ++ prettyAt depth field.2

theorem prettyItems_eq (depth : Nat) (items : List Json) :
    prettyItems depth items = items.map (prettyAt depth) := by
  induction items with
  | nil => rfl
  | cons item items ih => rw [prettyItems, ih, List.map_cons]

theorem prettyFields_eq (depth : Nat) (fields : List (String × Json)) :
    prettyFields depth fields = fields.map (fieldText depth) := by
  induction fields with
  | nil => rfl
  | cons field fields ih => rw [prettyFields, ih, List.map_cons, fieldText]

theorem exists_head (depth : Nat) (value : Json) :
    ∃ c rest, (prettyAt depth value).toList = c :: rest ∧ kindOf c = value.kind := by
  cases value with
  | boolean truth =>
    cases truth with
    | false => exact ⟨'f', ['a', 'l', 's', 'e'], by simp [prettyAt], rfl⟩
    | true => exact ⟨'t', ['r', 'u', 'e'], by simp [prettyAt], rfl⟩
  | number size =>
    rw [prettyAt, Nat.toString_eq_ofList_toDigits, String.toList_ofList]
    obtain ⟨c, rest, hdigits⟩ :=
      List.exists_cons_of_ne_nil (Nat.toDigits_ne_nil (b := 10) (n := size))
    have hdigit : c.isDigit = true :=
      Nat.isDigit_of_mem_toDigits (by decide) (by decide) (hdigits ▸ List.mem_cons_self)
    refine ⟨c, rest, hdigits, ?_⟩
    unfold kindOf
    split_ifs with hquote hsquare hcurly
    · cases hquote ▸ hdigit
    · cases hsquare ▸ hdigit
    · cases hcurly ▸ hdigit
    · rfl
  | text content =>
    rw [prettyAt, toList_stringLiteral]
    exact ⟨_, _, rfl, rfl⟩
  | array items =>
    rw [prettyAt, toList_bracketed]
    exact ⟨_, _, rfl, rfl⟩
  | object fields =>
    rw [prettyAt, toList_bracketed]
    exact ⟨_, _, rfl, rfl⟩

theorem kind_eq_of_append {first second : Json} {depth : Nat} {rest tail : List Char}
    (hsame : (prettyAt depth first).toList ++ rest = (prettyAt depth second).toList ++ tail) :
    first.kind = second.kind := by
  obtain ⟨c, firstRest, hfirst, hc⟩ := exists_head depth first
  obtain ⟨d, secondRest, hsecond, hd⟩ := exists_head depth second
  rw [hfirst, hsecond] at hsame
  rw [← hc, ← hd, (List.cons.inj hsame).1]

theorem unmistakable_fieldText {depth : Nat} {name : String} {value : Json}
    (hvalue : Unmistakable (prettyAt depth) value) :
    Unmistakable (fieldText depth) (name, value) := by
  rintro ⟨otherName, other⟩ rest tail hrest htail hsame
  simp only [fieldText, String.toList_append, List.append_assoc] at hsame
  obtain ⟨rfl, hbehind⟩ := stringLiteral_cancel hsame
  obtain ⟨rfl, hend⟩ := hvalue other rest tail hrest htail (List.append_cancel_left hbehind)
  exact ⟨rfl, hend⟩

section

variable {depth : Nat}

theorem unmistakable_boolean (truth : Bool) : Unmistakable (prettyAt depth) (boolean truth) := by
  intro other rest tail _ _ hsame
  have hkind := kind_eq_of_append hsame
  cases other with
  | boolean otherTruth =>
    cases truth <;> cases otherTruth <;> simp [prettyAt] at hsame <;> exact ⟨rfl, hsame⟩
  | _ => cases hkind

theorem unmistakable_number (size : Nat) : Unmistakable (prettyAt depth) (number size) := by
  intro other rest tail hrest htail hsame
  have hkind := kind_eq_of_append hsame
  cases other with
  | number otherSize =>
    obtain ⟨rfl, hend⟩ := number_cancel hrest htail hsame
    exact ⟨rfl, hend⟩
  | _ => cases hkind

theorem unmistakable_text (content : String) : Unmistakable (prettyAt depth) (text content) := by
  intro other rest tail _ _ hsame
  have hkind := kind_eq_of_append hsame
  cases other with
  | text otherContent =>
    obtain ⟨rfl, hend⟩ := stringLiteral_cancel hsame
    exact ⟨rfl, hend⟩
  | _ => cases hkind

theorem unmistakable_array {items : List Json}
    (hitems : ∀ item ∈ items, Unmistakable (prettyAt (depth + 1)) item) :
    Unmistakable (prettyAt depth) (array items) := by
  intro other rest tail _ _ hsame
  have hkind := kind_eq_of_append hsame
  cases other with
  | array others =>
    simp only [prettyAt, toList_bracketed, prettyItems_eq, List.append_assoc,
      List.append_cancel_left_eq] at hsame
    obtain ⟨rfl, hend⟩ := between_cancel (by decide) hitems hsame
    exact ⟨rfl, hend⟩
  | _ => cases hkind

theorem unmistakable_object {fields : List (String × Json)}
    (hfields : ∀ field ∈ fields, Unmistakable (prettyAt (depth + 1)) field.2) :
    Unmistakable (prettyAt depth) (object fields) := by
  intro other rest tail _ _ hsame
  have hkind := kind_eq_of_append hsame
  cases other with
  | object others =>
    simp only [prettyAt, toList_bracketed, prettyFields_eq, List.append_assoc,
      List.append_cancel_left_eq] at hsame
    obtain ⟨rfl, hend⟩ := between_cancel (by decide)
      (fun field hfield => unmistakable_fieldText (hfields field hfield)) hsame
    exact ⟨rfl, hend⟩
  | _ => cases hkind

end

theorem unmistakable_prettyAt : ∀ (value : Json) (depth : Nat),
    Unmistakable (prettyAt depth) value
  | boolean truth, _ => unmistakable_boolean truth
  | number size, _ => unmistakable_number size
  | text content, _ => unmistakable_text content
  | array items, depth =>
      unmistakable_array fun item _ => unmistakable_prettyAt item (depth + 1)
  | object fields, depth =>
      unmistakable_object fun field _ => unmistakable_prettyAt field.2 (depth + 1)
termination_by value => sizeOf value
decreasing_by
  · rename_i hitem
    have hsize := List.sizeOf_lt_of_mem hitem
    simp only [array.sizeOf_spec]
    omega
  · rename_i hfield
    have hsize := List.sizeOf_lt_of_mem hfield
    cases field
    simp only [object.sizeOf_spec, Prod.mk.sizeOf_spec] at hsize ⊢
    omega

/-- No two values are printed alike. -/
theorem pretty_injective {first second : Json} (hsame : first.pretty = second.pretty) :
    first = second :=
  (unmistakable_prettyAt first 0 second [] [] nofun nofun
    (by rw [List.append_nil, List.append_nil]; exact congrArg String.toList hsame)).1

end RecipeMatrix.Json
