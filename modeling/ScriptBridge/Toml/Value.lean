/-
This file holds the values of a TOML document and the rules by which a document
grows. A table is defined once: by a header, by dotted keys, or inline. A header
may still define a table that so far only lies on the way to another one; dotted
keys extend tables made by dotted keys and no others; an inline table is closed.
-/

namespace ScriptBridge.Toml

/-- What has defined a table. -/
inductive Origin
  /-- Nothing yet: the table lies on the way to one that a header defines. -/
  | passed
  /-- Dotted keys. -/
  | dotted
  | header
  | inline
  deriving DecidableEq, Repr, Inhabited

/-- A value of a document. -/
inductive Value
  | text (value : String)
  | integer (value : Int)
  | float
  | flag (value : Bool)
  /-- A date, a time or both. -/
  | moment
  | list (items : List Value)
  | table (origin : Origin) (entries : List (String × Value))
  /-- The tables that headers of a list of tables define. -/
  | tables (items : List Value)
  deriving Repr, Inhabited

namespace Value

/-- The entries of a table. -/
def entries : Value → List (String × Value)
  | table _ entries => entries
  | _ => []

/-- The entry of a name. -/
def entry? (value : Value) (name : String) : Option Value :=
  (value.entries.find? fun entry => entry.1 == name).map (·.2)

/-- What has defined the value, if it is a table. -/
def origin? : Value → Option Origin
  | table origin _ => some origin
  | _ => none

/-- The entries with a name's value set. -/
def put (entries : List (String × Value)) (name : String) (value : Value) :
    List (String × Value) :=
  if entries.any fun entry => entry.1 == name then
    entries.map fun entry => if entry.1 == name then (name, value) else entry
  else entries ++ [(name, value)]

/-- The table with a name's value set. -/
def set (value : Value) (name : String) (contents : Value) : Value :=
  match value with
  | table origin entries => table origin (put entries name contents)
  | other => other

/-- The table without a name. -/
def erase (value : Value) (name : String) : Value :=
  match value with
  | table origin entries => table origin (entries.filter fun entry => entry.1 != name)
  | other => other

/-- The table changed at the end of a path, whose missing tables are made on the way. Dotted keys
do not enter tables that a header defines, and nothing enters what is not a table. -/
def changeAt (dotted : Bool) (change : Value → Option Value) : List String → Value → Option Value
  | [], value => change value
  | name :: rest, value => do
    let made := table (if dotted then .dotted else .passed) []
    let changed ← match value.entry? name with
      | none => changeAt dotted change rest made
      | some inner@(table origin _) =>
        if origin == .inline || (dotted && origin == .header) then none
        else changeAt dotted change rest inner
      | some (tables items) =>
        match items.getLast? with
        | some last => do
          some (tables (items.dropLast ++ [← changeAt dotted change rest last]))
        | none => none
      | some _ => none
    some (value.set name changed)

/-- The table with a value added under a key of one or more names. -/
def add (root : Value) (key : List String) (contents : Value) : Option Value := do
  let path := key.dropLast
  let name ← key.getLast?
  root.changeAt true (fun target =>
    if (target.origin? == some .dotted) == path.isEmpty then none
    else if (target.entry? name).isSome then none
    else some (target.set name contents)) path

end Value

/-! ### Documents -/

/-- A document as far as it is read: the finished tables, and the table that is being read with
its place. -/
structure Document where
  root : Value := .table .header []
  current : Value := .table .header []
  path : List String := []
  /-- Is the current table one of a list of tables? -/
  isListed : Bool := false
  deriving Repr, Inhabited

namespace Document

/-- The document with its current table put in its place. -/
def finish (document : Document) : Option Value :=
  match document.path.getLast? with
  | none => some document.current
  | some name =>
    document.root.changeAt false (fun parent =>
      match document.isListed, parent.entry? name with
      | false, none => some (parent.set name document.current)
      | true, none => some (parent.set name (.tables [document.current]))
      | true, some (.tables items) =>
        some (parent.set name (.tables (items ++ [document.current])))
      | _, some _ => none) document.path.dropLast

/-- The document after the header of a table. -/
def openTable (document : Document) (key : List String) : Option Document := do
  let root ← document.finish
  let name ← key.getLast?
  let parent ← root.changeAt false some key.dropLast
  let found ← place? parent key.dropLast
  match found.entry? name with
  | none => some { root := parent, path := key }
  | some (.table .passed entries) =>
    let cleared ← parent.changeAt false (fun table => some (table.erase name)) key.dropLast
    some { root := cleared, current := .table .header entries, path := key }
  | some _ => none
where
  /-- The table at the end of a path. -/
  place? (value : Value) : List String → Option Value
    | [] => some value
    | name :: rest =>
      match value.entry? name with
      | some (.tables items) => items.getLast?.bind (place? · rest)
      | some inner => place? inner rest
      | none => none

/-- The document after the header of a list of tables. -/
def openListed (document : Document) (key : List String) : Option Document := do
  let root ← document.finish
  let name ← key.getLast?
  let checked ← root.changeAt false (fun parent =>
    match parent.entry? name with
    | none | some (.tables _) => some parent
    | some _ => none) key.dropLast
  some { root := checked, path := key, isListed := true }

/-- The document after a key with its value. -/
def add (document : Document) (key : List String) (value : Value) : Option Document := do
  some { document with current := ← document.current.add key value }

end Document

end ScriptBridge.Toml
