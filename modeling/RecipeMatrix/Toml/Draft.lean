import RecipeMatrix.Toml.Value

/-!
# Tables under construction

A document adds to its tables statement by statement, and each table remembers how it came
about, because that decides what may still be added to it:

* a table made by dotted keys takes more dotted keys;
* a table that only stands above a headed one may get a header of its own, once;
* a headed table takes no second header;
* a list of headed tables grows by one with each of its headers, and the last one is open;
* everything that is written as a value is closed.
-/

namespace RecipeMatrix.Toml

/-- How a table came about. -/
inductive Making
  /-- By standing above the table of a header. -/
  | implied
  /-- By a header of its own. -/
  | headed
  /-- By dotted keys. -/
  | dotted
  deriving DecidableEq, Repr

/-- What a key stands for while a document is read. -/
inductive Draft
  | closed (value : Value)
  | table (making : Making) (entries : List (String × Draft))
  | list (tables : List (List (String × Draft)))

/-- The entries of a table under construction. -/
abbrev Drafts := List (String × Draft)

namespace Drafts

/-- The entries with the draft of one key replaced. -/
def replace (entries : Drafts) (key : String) (draft : Draft) : Drafts :=
  entries.map fun entry => if entry.1 = key then (key, draft) else entry

/-- Changes the table that a path of header keys leads to, making tables on the way.  In a list
of tables the way leads through the last one. -/
def alter (change : Drafts → Option Drafts) : List String → Drafts → Option Drafts
  | [], entries => change entries
  | key :: path, entries =>
      match entries.lookup key with
      | none => do
          let inner ← alter change path []
          some (entries ++ [(key, .table .implied inner)])
      | some (.table making inner) => do
          let inner ← alter change path inner
          some (entries.replace key (.table making inner))
      | some (.list tables) =>
          match tables.getLast? with
          | none => none
          | some last => do
              let last ← alter change path last
              some (entries.replace key (.list (tables.dropLast ++ [last])))
      | some (.closed _) => none

/-- Adds a value under a dotted key, making tables on the way.  The way may not lead through a
headed table or a list, and the table it ends at must be made by dotted keys. -/
def insert (key : String) (value : Value) : List String → Drafts → Option Drafts
  | [], entries =>
      match entries.lookup key with
      | none => some (entries ++ [(key, .closed value)])
      | some _ => none
  | step :: path, entries =>
      match entries.lookup step with
      | none => do
          let inner ← insert key value path []
          some (entries ++ [(step, .table .dotted inner)])
      | some (.table making inner) =>
          if making = .headed ∨ (making = .implied ∧ path = []) then none
          else do
            let inner ← insert key value path inner
            some (entries.replace step (.table making inner))
      | some _ => none

/-- Gives the table of a key its header. -/
def openTable (key : String) (entries : Drafts) : Option Drafts :=
  match entries.lookup key with
  | none => some (entries ++ [(key, .table .headed [])])
  | some (.table .implied inner) => some (entries.replace key (.table .headed inner))
  | some _ => none

/-- Adds an empty table to the list of a key. -/
def openElement (key : String) (entries : Drafts) : Option Drafts :=
  match entries.lookup key with
  | none => some (entries ++ [(key, .list [[]])])
  | some (.list tables) => some (entries.replace key (.list (tables ++ [[]])))
  | some _ => none

end Drafts

mutual

/-- The value that a draft has become. -/
def Draft.value : Draft → Value
  | .closed value => value
  | .table _ entries => .table (entryValues entries)
  | .list tables => .array (tableValues tables)

/-- The values of the entries of a table. -/
def entryValues : List (String × Draft) → Table
  | [] => []
  | (key, draft) :: rest => (key, draft.value) :: entryValues rest

/-- The values of a list of tables. -/
def tableValues : List (List (String × Draft)) → List Value
  | [] => []
  | entries :: rest => .table (entryValues entries) :: tableValues rest

end

/-- The table of the values of its entries. -/
def Drafts.table (entries : Drafts) : Table := entryValues entries

end RecipeMatrix.Toml
