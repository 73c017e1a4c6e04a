set_option autoImplicit false

namespace TemplateManual.Toml

mutual

inductive Value where
  | string (value : String)
  | bool (value : Bool)
  | other
  | array (items : List Value)
  | inline (table : Table)

inductive Item where
  | value (value : Value)
  | table (table : Table)
  | tables (elements : List Table)

-- A table comes from its own header, from the header of a table below it, or from a dotted key. Only a table that
-- nothing has defined yet may be defined, and only dotted keys add to what dotted keys began.
structure Table where
  items : List (String × Item)
  implicit : Bool
  dotted : Bool

end

namespace Table

def empty : Table := ⟨[], false, false⟩

def get? (table : Table) (key : String) : Option Item :=
  (table.items.find? fun entry => entry.1 == key).map Prod.snd

def erase (table : Table) (key : String) : Table :=
  { table with items := table.items.filter fun entry => entry.1 != key }

def put (table : Table) (key : String) (item : Item) : Table :=
  let erased := table.erase key
  { erased with items := erased.items ++ [(key, item)] }

-- Changes the table at the end of a path, which is made where it is missing. `dotted` says whether
-- the path is that of a dotted key.
def updateAt (dotted : Bool) (change : Table → Option Table) : List String → Table → Option Table
  | [], table => change table
  | key :: path, table =>
    match table.get? key with
    | none => do
      let child ← updateAt dotted change path ⟨[], true, dotted⟩
      some (table.put key (.table child))
    | some (.table child) =>
      if dotted && !child.implicit then none
      else do
        let child ← updateAt dotted change path child
        some (table.put key (.table child))
    | some (.tables elements) =>
      match elements.getLast? with
      | none => none
      | some last => do
        let last ← updateAt dotted change path last
        some (table.put key (.tables (elements.dropLast ++ [last])))
    | some (.value _) => none

def add (table : Table) (key : String) (value : Value) : Option Table :=
  match table.get? key with
  | none => some (table.put key (.value value))
  | some _ => none

def addAt (table : Table) (path : List String) (key : String) (value : Value) : Option Table :=
  if path.isEmpty then table.add key value
  else updateAt true (fun inner => if inner.dotted then inner.add key value else none) path table

end Table

inductive Place where
  | top
  | table (path : List String) (key : String)
  | element (path : List String) (key : String)

structure Draft where
  root : Table
  current : Table
  place : Place

namespace Draft

def empty : Draft := ⟨.empty, .empty, .top⟩

def finish (draft : Draft) : Option Table :=
  match draft.place with
  | .top => some draft.current
  | .table path key =>
    Table.updateAt false (fun parent =>
      match parent.get? key with
      | none => some (parent.put key (.table draft.current))
      | some _ => none) path draft.root
  | .element path key =>
    Table.updateAt false (fun parent =>
      match parent.get? key with
      | none => some (parent.put key (.tables [draft.current]))
      | some (.tables elements) => some (parent.put key (.tables (elements ++ [draft.current])))
      | some _ => none) path draft.root

def add (draft : Draft) (path : List String) (key : String) (value : Value) : Option Draft := do
  let current ← draft.current.addAt path key value
  some { draft with current := current }

def tableAt? : List String → Table → Option Table
  | [], table => some table
  | key :: path, table =>
    match table.get? key with
    | some (.table child) => tableAt? path child
    | some (.tables elements) => elements.getLast?.bind fun last => tableAt? path last
    | _ => none

def beginTable (draft : Draft) (path : List String) (key : String) : Option Draft := do
  let root ← draft.finish
  let root ← Table.updateAt false some path root
  let parent ← tableAt? path root
  match parent.get? key with
  | none => some ⟨root, .empty, .table path key⟩
  | some (.table implied) =>
    if implied.implicit && !implied.dotted then do
      let root ← Table.updateAt false (fun parent => some (parent.erase key)) path root
      some ⟨root, { implied with implicit := false }, .table path key⟩
    else none
  | some _ => none

def beginElement (draft : Draft) (path : List String) (key : String) : Option Draft := do
  let root ← draft.finish
  let root ← Table.updateAt false some path root
  let parent ← tableAt? path root
  match parent.get? key with
  | none | some (.tables _) => some ⟨root, .empty, .element path key⟩
  | some _ => none

end Draft

end TemplateManual.Toml
