/-!
# TOML values

The values that a TOML text writes, and the rules on which tables may still be added to.

- `Toml.define` puts a value under a dotted key of a table;
- `Toml.openTable` and `Toml.openItem` make the table of a header, `[a.b]` or `[[a.b]]`.

All three work from a table whose place a header has given. A table remembers how it came to be,
since that decides who may add to it.
-/

namespace Emend

/-- How a table came to be. -/
inductive TableOrigin where
  /-- Written in braces, and closed for good. -/
  | inline
  /-- Made by its own header. -/
  | header
  /-- Made on the way to the table of a longer header. -/
  | implied
  /-- Made by a dotted key. -/
  | dotted
  deriving DecidableEq, Repr, Inhabited

/-- The kinds of values whose content is not kept. -/
inductive TomlScalar where
  | integer
  | float
  | dateTime
  deriving DecidableEq, Repr, Inhabited

/-- A value. -/
inductive Toml where
  | string (s : String)
  | boolean (b : Bool)
  | scalar (kind : TomlScalar)
  /-- Values in brackets. -/
  | array (items : List Toml)
  /-- The tables of headers in double brackets. -/
  | tables (items : List Toml)
  | table (origin : TableOrigin) (entries : List (String × Toml))
  deriving Inhabited, Repr

/-- Why a text is no TOML. -/
inductive TomlFault where
  | malformed
  | nestedTooDeep
  | duplicateKey (key : String)
  | notExtensible (key : String)
  deriving DecidableEq, Repr, Inhabited

namespace Toml

/-- The entry of a table under a key. -/
def get? (key : String) : Toml → Option Toml
  | table _ entries => entries.lookup key
  | _ => none

/-- The text of a string. -/
def string? : Toml → Option String
  | string s => some s
  | _ => none

/-- The entries of a table while it grows, and its origin. -/
structure Growing where
  origin : TableOrigin
  entries : List (String × Toml)
  deriving Inhabited

namespace Growing

/-- The table as a value. -/
def toToml (g : Growing) : Toml := .table g.origin g.entries

/-- Puts a value under a key, in the place of the one that is there. -/
def set (g : Growing) (key : String) (value : Toml) : Growing :=
  if g.entries.any (·.1 == key) then
    { g with entries := g.entries.map fun entry => if entry.1 == key then (key, value) else entry }
  else { g with entries := g.entries ++ [(key, value)] }

/-- Changes the table at the end of a path. Missing tables are made, by headers as `implied` and by
dotted keys as `dotted`. A header passes through the last table of an array of tables; a dotted key
does not, nor does it pass through a table that has a header of its own. -/
def change (byKey : Bool) (f : Growing → Except TomlFault Growing) :
    (path : List String) → Growing → Except TomlFault Growing
  | [], g => f g
  | key :: path, g => do
    match g.entries.lookup key with
    | none =>
      let inner ← change byKey f path ⟨if byKey then .dotted else .implied, []⟩
      return g.set key inner.toToml
    | some (.table .inline _) => throw (.notExtensible key)
    | some (.table .header entries) =>
      if byKey then throw (.duplicateKey key)
      else return g.set key (← change byKey f path ⟨.header, entries⟩).toToml
    | some (.table origin entries) =>
      return g.set key (← change byKey f path ⟨origin, entries⟩).toToml
    | some (.tables items) =>
      match byKey, items.getLast? with
      | false, some (.table origin entries) =>
        let last ← change byKey f path ⟨origin, entries⟩
        return g.set key (.tables (items.dropLast ++ [last.toToml]))
      | _, _ => throw (.notExtensible key)
    | some _ => throw (.notExtensible key)

/-- Adds an entry under a new key. -/
def add (key : String) (value : Toml) (g : Growing) : Except TomlFault Growing :=
  if g.entries.any (·.1 == key) then .error (.duplicateKey key)
  else .ok { g with entries := g.entries ++ [(key, value)] }

/-- Puts a value under a dotted key. The last table on the way has to be made by dotted keys. -/
def define (path : List String) (key : String) (value : Toml) (g : Growing) :
    Except TomlFault Growing :=
  if path.isEmpty then g.add key value
  else
    g.change true (fun inner =>
      if inner.origin = .dotted then inner.add key value else .error (.duplicateKey key)) path

/-- Makes the table of a header, or takes over one that was only implied. -/
def openTable (path : List String) (key : String) (g : Growing) : Except TomlFault Growing :=
  g.change false (fun inner =>
    match inner.entries.lookup key with
    | none => .ok (inner.set key (.table .header []))
    | some (.table .implied entries) => .ok (inner.set key (.table .header entries))
    | some _ => .error (.duplicateKey key)) path

/-- Makes a new table at the end of an array of tables. -/
def openItem (path : List String) (key : String) (g : Growing) : Except TomlFault Growing :=
  g.change false (fun inner =>
    match inner.entries.lookup key with
    | none => .ok (inner.set key (.tables [.table .header []]))
    | some (.tables items) => .ok (inner.set key (.tables (items ++ [.table .header []])))
    | some _ => .error (.duplicateKey key)) path

end Growing

end Toml

end Emend
