import Stencil.Value.Basic

/-! # Tables of TOML

A document grows by headers and assignments. A table that a header or a key has defined cannot
be defined again, but a table that is only implied by a longer header can.
-/

namespace Stencil.Toml

/-- How a table came about. -/
inductive Origin where
  /-- It lies on the way of a header. -/
  | implied
  /-- It lies on the way of a key with points. -/
  | dotted
  /-- It has a header of its own. -/
  | defined
deriving DecidableEq, Repr

/-- What a key stands for: a value, a table, or tables with the same header, the last one
first. -/
inductive Item where
  | value (v : Value)
  | table (origin : Origin) (entries : List (String × Item))
  | tables (elements : List (List (String × Item)))

/-- The keys of a table in order of their first appearance. -/
abbrev Entries := List (String × Item)

namespace Entries

/-- Sets what a key stands for. -/
def put (key : String) (item : Item) : Entries → Entries
  | [] => [(key, item)]
  | (k, old) :: rest => if k = key then (key, item) :: rest else (k, old) :: put key item rest

/-- A change of a table, which may be refused. -/
abbrev Change := Origin → Entries → Option (Origin × Entries)

/-- Changes the table at the end of a header. Missing tables on the way are implied, and of
several tables with one header the last one is meant. -/
def within (change : Change) : List String → Change
  | [] => change
  | key :: path => fun origin entries =>
    match entries.lookup key with
    | none => do
      let (inner, es) ← within change path .implied []
      some (origin, put key (.table inner es) entries)
    | some (.table inner es) => do
      let (inner, es) ← within change path inner es
      some (origin, put key (.table inner es) entries)
    | some (.tables (last :: earlier)) => do
      let (_, es) ← within change path .defined last
      some (origin, put key (.tables (es :: earlier)) entries)
    | some _ => none

/-- Defines a table by a header that ends in a key. -/
def define (key : String) : Change := fun origin entries =>
  match entries.lookup key with
  | none => some (origin, put key (.table .defined []) entries)
  | some (.table .implied es) => some (origin, put key (.table .defined es) entries)
  | some _ => none

/-- Adds a table to those with the same header, which ends in a key. -/
def append (key : String) : Change := fun origin entries =>
  match entries.lookup key with
  | none => some (origin, put key (.tables [[]]) entries)
  | some (.tables elements) => some (origin, put key (.tables ([] :: elements)) entries)
  | some _ => none

/-- Assigns a value to a key that is still free. The table belongs to the way of a key with
points exactly if there is such a way. -/
def assign (onWay : Bool) (key : String) (v : Value) : Change := fun origin entries =>
  if (origin == .dotted) ≠ onWay then none
  else
    match entries.lookup key with
    | none => some (origin, put key (.value v) entries)
    | some _ => none

/-- Changes the table at the end of a key with points. Missing tables on the way are made, and a
table with a header of its own cannot be entered. -/
def along (change : Change) : List String → Change
  | [] => change
  | key :: path => fun origin entries =>
    match entries.lookup key with
    | none => do
      let (inner, es) ← along change path .dotted []
      some (origin, put key (.table inner es) entries)
    | some (.table .defined _) => none
    | some (.table inner es) => do
      let (inner, es) ← along change path inner es
      some (origin, put key (.table inner es) entries)
    | some (.tables (last :: earlier)) => do
      let (_, es) ← along change path .defined last
      some (origin, put key (.tables (es :: earlier)) entries)
    | some _ => none

/-- Assigns a value to a key with points. -/
def assignAlong (path : List String) (v : Value) : Change :=
  match path.reverse with
  | [] => fun _ _ => none
  | key :: before => along (assign (!before.isEmpty) key v) before.reverse

end Entries

mutual

/-- The value of an item. -/
def Item.toValue : Item → Value
  | .value v => v
  | .table _ entries => .ofFields (Item.fieldsOf entries)
  | .tables elements => .array (Item.elementsOf elements).reverse

/-- The fields of a table. -/
def Item.fieldsOf : List (String × Item) → List (String × Value)
  | [] => []
  | (key, item) :: rest => (key, item.toValue) :: Item.fieldsOf rest

/-- The values of several tables. -/
def Item.elementsOf : List (List (String × Item)) → List Value
  | [] => []
  | entries :: rest => .ofFields (Item.fieldsOf entries) :: Item.elementsOf rest

end

/-- The value of the entries of a table. -/
def Entries.toValue (entries : Entries) : Value := .ofFields (Item.fieldsOf entries)

end Stencil.Toml
