import Multilink.Data
/-!
# Tables of TOML

A table comes about by a header, by a dotted key, or as a step on the way to another table, and it
depends on this who may add to it. A dotted key adds only to tables that dotted keys made, or that
are steps on the way to others; a header opens a table at most once, and no table that a dotted key
made.

`Table.define` is the rule for a key with a value; `Table.open?` and `Table.close` are those for the
table that a header opens, which is apart from the others while it is filled.
-/

namespace Multilink.Toml

mutual

/-- What stands under a key of a table. -/
inductive Item where
  | value (d : Data)
  | table (t : Table)
  /-- The tables of headers in double brackets, the latest first. -/
  | tables (ts : List Table)

/-- A table. -/
inductive Table where
  /-- A table with these entries. Is it only a step on the way to another table, and did a dotted
  key make it? -/
  | mk (implicit dotted : Bool) (entries : List (String × Item))

end

namespace Table

/-- Is this table only a step on the way to another one? -/
def implicit : Table → Bool
  | mk i _ _ => i

/-- Did a dotted key make this table? -/
def dotted : Table → Bool
  | mk _ d _ => d

/-- The entries. -/
def entries : Table → List (String × Item)
  | mk _ _ es => es

/-- A table that a header or braces make, without entries. -/
def empty : Table :=
  mk false false []

/-- What stands under a key. -/
def get? (t : Table) (key : String) : Option Item :=
  t.entries.lookup key

/-- The table with this under a key, in the place of what stood there. -/
def put (key : String) (item : Item) : Table → Table
  | mk i d es => mk i d ((key, item) :: es.filter (·.1 != key))

/-- Changes the table at the end of a path. Tables that are missing on the way are made. The path
goes on in the latest of several tables, and does not lead through values; that of a dotted key does
not lead through tables that a header made. -/
def changeAt (change : Table → Option Table) (isDotted : Bool) :
    List String → Table → Option Table
  | [], t => change t
  | key :: path, t =>
    match t.get? key with
    | none =>
      (changeAt change isDotted path (mk true isDotted [])).map fun u => t.put key (.table u)
    | some (.value _) => none
    | some (.table u) =>
      if isDotted && !u.implicit then none
      else (changeAt change isDotted path u).map fun u => t.put key (.table u)
    | some (.tables []) => none
    | some (.tables (u :: us)) =>
      (changeAt change isDotted path u).map fun u => t.put key (.tables (u :: us))

/-- Puts a value under a key, behind the path of the dotted key that it ends. -/
def define (path : List String) (key : String) (d : Data) (t : Table) : Option Table :=
  changeAt
    (fun u =>
      if u.dotted == path.isEmpty || (u.get? key).isSome then none
      else some (u.put key (.value d)))
    true path t

/-- Changes nothing but looks at the table at the end of a path of headers, which is made if it is
missing. -/
def look? {α : Type} (view : Table → Option α) : List String → Table → Option α
  | [], t => view t
  | key :: path, t =>
    match t.get? key with
    | none => look? view path (mk true false [])
    | some (.value _) | some (.tables []) => none
    | some (.table u) | some (.tables (u :: _)) => look? view path u

/-- The table that a header in single brackets opens: what stands there must be a step on the way to
other tables, which no dotted key made. -/
def open? (path : List String) (key : String) (root : Table) : Option Table :=
  look?
    (fun t =>
      match t.get? key with
      | none => some empty
      | some (.table u) =>
        if u.implicit && !u.dotted then some (mk false false u.entries) else none
      | some _ => none)
    path root

/-- Can a header in double brackets add a table here? -/
def extendable (path : List String) (key : String) (root : Table) : Bool :=
  (look?
    (fun t =>
      match t.get? key with
      | none | some (.tables _) => some ()
      | some _ => none)
    path root).isSome

/-- Puts a table that has been filled where its header says, as a further one of several or by
itself. -/
def close (several : Bool) (path : List String) (key : String) (root t : Table) : Option Table :=
  changeAt
    (fun u =>
      match several, u.get? key with
      | true, some (.tables us) => some (u.put key (.tables (t :: us)))
      | true, none => some (u.put key (.tables [t]))
      | true, some _ => none
      | false, _ => some (u.put key (.table t)))
    false path root

end Table

mutual

/-- What an item is as data. -/
def Item.toData : Item → Data
  | .value d => d
  | .table t => t.toData
  | .tables ts => .list (tablesData ts).reverse

/-- A table as data. -/
def Table.toData : Table → Data
  | .mk _ _ es => .record (entriesData es)

/-- Tables as data. -/
def tablesData : List Table → List Data
  | [] => []
  | t :: ts => t.toData :: tablesData ts

/-- Entries as data. -/
def entriesData : List (String × Item) → List (String × Data)
  | [] => []
  | (key, item) :: es => (key, item.toData) :: entriesData es

end

end Multilink.Toml
