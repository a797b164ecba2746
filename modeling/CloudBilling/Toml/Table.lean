import CloudBilling.Toml.Value

/-!
# Tables under construction

The lines of a document add to one tree of tables. A table is opened by a header at most once,
tables that are only on the way to others can be opened later, and tables that dotted keys have
made can only be extended by dotted keys. An array of tables grows by one for each of its
headers, and further headers see its last table.
-/

namespace CloudBilling.Toml

/-- How a table came about. -/
inductive Standing where
  /-- A header opened it. -/
  | opened
  /-- It is on the way to a table that a header opened. -/
  | implied
  /-- A dotted key made it. -/
  | dotted
  deriving DecidableEq, Repr

/-- A part of the tree. -/
inductive Node where
  | leaf (value : Value)
  | table (standing : Standing) (entries : List (String × Node))
  /-- An array of tables, the last one first. -/
  | series (tables : List (List (String × Node)))

/-- The entries of a table under construction. -/
abbrev Entries := List (String × Node)

namespace Entries

/-- The entry under a name, replaced or added. -/
def put (entries : Entries) (name : String) (node : Node) : Entries :=
  match entries with
  | [] => [(name, node)]
  | (other, old) :: rest =>
      if other = name then (name, node) :: rest else (other, old) :: put rest name node

/-- Add a value under a key, in a table that came about in some way. -/
def insert (value : Value) : Standing → List String → Entries → Option Entries
  | _, [], _ => none
  | standing, [name], entries =>
      if standing = .dotted ∧ (entries.lookup name).isNone then
        some (entries.put name (.leaf value))
      else none
  | _, name :: path, entries =>
      match entries.lookup name with
      | none => do return entries.put name (.table .dotted (← insert value .dotted path []))
      | some (.table .opened _) => none
      | some (.table standing inner) => do
          return entries.put name (.table standing (← insert value standing path inner))
      | some (.series (last :: earlier)) => do
          return entries.put name (.series ((← insert value .opened path last) :: earlier))
      | some (.series []) | some (.leaf _) => none

/-- Add the pairs that follow a header. -/
def insertAll (pairs : List (List String × Value)) (entries : Entries) : Option Entries :=
  pairs.foldlM (fun entries pair => insert pair.2 .dotted pair.1 entries) entries

/-- Change what stands at the end of a header's path. -/
def reach (change : Option Node → Option Node) : List String → Entries → Option Entries
  | [], _ => none
  | [name], entries => do return entries.put name (← change (entries.lookup name))
  | name :: path, entries =>
      match entries.lookup name with
      | none => do return entries.put name (.table .implied (← reach change path []))
      | some (.table standing inner) => do
          return entries.put name (.table standing (← reach change path inner))
      | some (.series (last :: earlier)) => do
          return entries.put name (.series ((← reach change path last) :: earlier))
      | some (.series []) | some (.leaf _) => none

end Entries

/-- Open a table and add pairs to it. -/
def openTable (pairs : List (List String × Value)) : Option Node → Option Node
  | none => do return .table .opened (← Entries.insertAll pairs [])
  | some (.table .implied entries) => do return .table .opened (← Entries.insertAll pairs entries)
  | some _ => none

/-- Add a table with some pairs to an array of tables. -/
def extendSeries (pairs : List (List String × Value)) : Option Node → Option Node
  | none => do return .series [← Entries.insertAll pairs []]
  | some (.series tables) => do return .series ((← Entries.insertAll pairs []) :: tables)
  | some _ => none

mutual

/-- A finished part of the tree. -/
def Node.finish : Node → Value
  | .leaf value => value
  | .table _ entries => .table (finishEntries entries)
  | .series tables => .array (finishSeries tables).reverse

/-- The finished entries of a table. -/
def finishEntries : List (String × Node) → List (String × Value)
  | [] => []
  | (name, node) :: rest => (name, node.finish) :: finishEntries rest

/-- The finished tables of an array. -/
def finishSeries : List (List (String × Node)) → List Value
  | [] => []
  | entries :: rest => .table (finishEntries entries) :: finishSeries rest

end

end CloudBilling.Toml
