/-!
# TOML documents

A document is a table of keys and values. Its lines put values under dotted keys, into the table
that the last header opened. Where a table came from decides how it may grow: a table that has been
opened by a header, or written in braces, takes no further dotted keys from outside, and a header
opens a table only once.
-/

namespace Attestation

/-- How a table came to be. -/
inductive TableOrigin where
  /-- A header opened it. -/
  | header
  /-- A header went through it. -/
  | path
  /-- A dotted key went through it. -/
  | dotted
  /-- It is written in braces. -/
  | braces
deriving DecidableEq

/-- A value of a document. -/
inductive Toml where
  | text (value : String)
  | integer (value : Int)
  /-- A boolean, a float or a date. Settings have none of them. -/
  | other
  | array (items : List Toml)
  /-- The tables that headers in double brackets opened under one key. -/
  | series (tables : List Toml)
  | table (origin : TableOrigin) (entries : List (String × Toml))

namespace Toml

/-- The value under a key. -/
def find? (key : String) (entries : List (String × Toml)) : Option Toml :=
  (entries.find? (·.1 == key)).map (·.2)

/-- Puts a value under a key, replacing the one that stood there. -/
def put (key : String) (value : Toml) : List (String × Toml) → List (String × Toml)
  | [] => [(key, value)]
  | e :: rest => if e.1 = key then (key, value) :: rest else e :: put key value rest

/-- Changes the table that a path leads to. Tables on the way are made where there are none, and of
a series the last one is taken. A dotted key leads into no table that a header opened. -/
def alter (dotted : Bool) (change : Toml → Option Toml) : List String → Toml → Option Toml
  | [], t => change t
  | key :: path, .table origin entries =>
    let changed (t : Toml) (make : Toml → Toml) : Option Toml :=
      (alter dotted change path t).map fun t => .table origin (put key (make t) entries)
    match find? key entries with
    | none => changed (.table (if dotted then .dotted else .path) []) id
    | some (.series tables) =>
      match tables.getLast? with
      | some last => changed last fun t => .series (tables.dropLast ++ [t])
      | none => none
    | some (.table inner innerEntries) =>
      if inner = .braces ∨ (dotted ∧ inner = .header) then none
      else changed (.table inner innerEntries) id
    | some _ => none
  | _ :: _, _ => none

/-- Puts a value under a new key of a table. Behind a dotted key the table has to be one that
dotted keys made. -/
def addEntry (dotted : Bool) (key : String) (value : Toml) : Toml → Option Toml
  | .table origin entries =>
    if dotted = (origin == .dotted) ∧ find? key entries matches none then
      some (.table origin (put key value entries))
    else none
  | _ => none

/-- Puts a value under a dotted key of a table: `path` leads to the key. -/
def assign (path : List String) (key : String) (value : Toml) (t : Toml) : Option Toml :=
  alter true (addEntry (!path.isEmpty) key value) path t

/-- Opens a table under a key. -/
def openEntry (key : String) : Toml → Option Toml
  | .table origin entries =>
    match find? key entries with
    | none => some (.table origin (put key (.table .header []) entries))
    | some (.table .path inner) => some (.table origin (put key (.table .header inner) entries))
    | some _ => none
  | _ => none

/-- Opens a further table of the series under a key. -/
def extendEntry (key : String) : Toml → Option Toml
  | .table origin entries =>
    match find? key entries with
    | none => some (.table origin (put key (.series [.table .header []]) entries))
    | some (.series tables) =>
      some (.table origin (put key (.series (tables ++ [.table .header []])) entries))
    | some _ => none
  | _ => none

end Toml

/-- A document that is being read: what it holds, and the header of the table that is open. -/
structure TomlDraft where
  /-- What was read. -/
  root : Toml := .table .header []
  /-- The path of the open table. -/
  header : List String := []

namespace TomlDraft

/-- Puts a value under a dotted key of the open table. -/
def assign (d : TomlDraft) (path : List String) (key : String) (value : Toml) :
    Option TomlDraft :=
  (Toml.alter false (Toml.assign path key value) d.header d.root).map ({ d with root := · })

/-- Opens a table. -/
def openTable (d : TomlDraft) (path : List String) (key : String) : Option TomlDraft :=
  (Toml.alter false (Toml.openEntry key) path d.root).map (⟨·, path ++ [key]⟩)

/-- Opens a further table of a series. -/
def extendSeries (d : TomlDraft) (path : List String) (key : String) : Option TomlDraft :=
  (Toml.alter false (Toml.extendEntry key) path d.root).map (⟨·, path ++ [key]⟩)

end TomlDraft

end Attestation
