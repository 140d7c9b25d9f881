/-! Tables under construction. A table remembers how it came about, since that decides what may
still be added to it: a header defines a table once, and dotted keys reach only into tables
that dotted keys have made. -/
namespace ServerForge.Toml

/-- Only texts are kept as such. -/
inductive Value where
  | text (value : String)
  | other
  deriving DecidableEq

inductive Origin where
  /-- The root, the table of a header, or a row of an array of tables. -/
  | header
  /-- A table that a longer header passes through. -/
  | passed
  /-- A table that a dotted key passes through. -/
  | dotted
  deriving DecidableEq

inductive Item where
  | value (value : Value)
  | table (origin : Origin) (items : List (String × Item))
  /-- The rows of an array of tables, the last one first. -/
  | rows (rows : List (List (String × Item)))

abbrev Items := List (String × Item)

structure Table where
  origin : Origin
  items : Items

namespace Table

def empty : Table := ⟨.header, []⟩

/-- Puts an item at its key, in place of the one that is there. -/
def set (key : String) (item : Item) : Items → Items
  | [] => [(key, item)]
  | (k, old) :: rest => if k = key then (key, item) :: rest else (k, old) :: set key item rest

/-- Changes the table that a path leads to. Tables that are missing are made on the way, and of
an array of tables the last row is taken. -/
def within (origin : Origin) : List String → (Table → Option Table) → Table → Option Table
  | [], change, table => change table
  | key :: path, change, table => do
    match table.items.lookup key with
    | none =>
      let inner ← within origin path change ⟨origin, []⟩
      return { table with items := set key (.table inner.origin inner.items) table.items }
    | some (.table found items) =>
      if origin = .dotted ∧ found = .header then none
      else
        let inner ← within origin path change ⟨found, items⟩
        return { table with items := set key (.table inner.origin inner.items) table.items }
    | some (.rows (row :: rows)) =>
      let inner ← within origin path change ⟨.header, row⟩
      return { table with items := set key (.rows (inner.items :: rows)) table.items }
    | some _ => none

/-- Gives a new key its value. `path` leads to the key by dotted keys. -/
def add (path : List String) (key : String) (value : Value) (table : Table) : Option Table :=
  within .dotted path (fun inner =>
    if decide (inner.origin = .dotted) == path.isEmpty then none
    else if (inner.items.lookup key).isSome then none
    else some { inner with items := set key (.value value) inner.items }) table

/-- Starts the table of a header, which must not have been defined before. -/
def define (path : List String) (key : String) (table : Table) : Option Table :=
  within .passed path (fun parent =>
    match parent.items.lookup key with
    | none => some { parent with items := set key (.table .header []) parent.items }
    | some (.table .passed items) =>
      some { parent with items := set key (.table .header items) parent.items }
    | some _ => none) table

/-- Starts a further row of an array of tables. -/
def addRow (path : List String) (key : String) (table : Table) : Option Table :=
  within .passed path (fun parent =>
    match parent.items.lookup key with
    | none => some { parent with items := set key (.rows [[]]) parent.items }
    | some (.rows rows) => some { parent with items := set key (.rows ([] :: rows)) parent.items }
    | some _ => none) table

end Table

end ServerForge.Toml
