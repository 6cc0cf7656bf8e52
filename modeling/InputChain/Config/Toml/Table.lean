import InputChain.Config.Toml.Scalar

/-!
# Values and tables of a TOML document

A document is a table. Its tables come about in several ways, and how a table has come about decides
what may still be added to it: no key may be there twice, and no table may be opened twice.

* `Toml.Fault`: what can be wrong with a document.
* `Toml.mostDepth`: how deep a document may be.
* `Toml.Origin`, `Toml.Value`, `Toml.Entries`.
* `Toml.define`: adds a value under a path of keys.
* `Toml.openTable`, `Toml.openElement`: add what a header names.
* `Toml.Value.isInRange`.
-/

namespace InputChain.Toml

/-- What can be wrong with a document. -/
inductive Fault where
  /-- The text is no TOML. -/
  | malformed
  /-- Values are in each other too deeply, or a path has too many keys. -/
  | tooDeep
  /-- Something under this key may not be added to what is already there. -/
  | taken (key : String)
  /-- The document is no description. -/
  | mismatch
  deriving DecidableEq, Repr

/-- How many values may be in each other, and how many keys in a path. -/
def mostDepth : Nat := 80

/-- How a table has come about. -/
inductive Origin where
  /-- It has a header, or is the document. -/
  | header
  /-- A table in it has a header. -/
  | around
  /-- A path of keys goes through it. -/
  | path
  /-- It is a value, in braces. -/
  | braces
  deriving DecidableEq, Repr

/-- A value of a document. -/
inductive Value where
  | text (value : String)
  | scalar (value : Scalar)
  | sequence (items : List Value)
  /-- A table, with its entries in the order in which they were added. -/
  | table (origin : Origin) (entries : List (String × Value))
  /-- Several tables, each with a header for an element. -/
  | elements (tables : List (List (String × Value)))

/-- The entries of a table. -/
abbrev Entries := List (String × Value)

/-- The value under a key. -/
def Entries.get? (entries : Entries) (key : String) : Option Value :=
  entries.lookup key

/-- The entries with another value under a key, made from the earlier one if there is one. -/
def Entries.alter (key : String) (change : Option Value → Except Fault Value) :
    Entries → Except Fault Entries
  | [] => return [(key, ← change none)]
  | (first, value) :: rest => do
    if first = key then return (first, ← change (some value)) :: rest
    else return (first, value) :: (← alter key change rest)

/-- Changes the table at the end of a path. On the way no values in braces are entered, of several
tables the last one is entered, and tables that are not there are made with the origin `made`. -/
def changeAt (enters : Origin → Bool) (made : Origin)
    (change : Origin → Entries → Except Fault Entries) :
    (path : List String) → Origin → Entries → Except Fault Entries
  | [], origin, entries => change origin entries
  | key :: path, _, entries =>
    entries.alter key fun
      | none => return .table made (← changeAt enters made change path made [])
      | some (.table origin inner) =>
        if enters origin then
          return .table origin (← changeAt enters made change path origin inner)
        else throw (.taken key)
      | some (.elements tables) =>
        match tables.getLast? with
        | some last =>
          return .elements
            (tables.dropLast ++ [← changeAt enters made change path .header last])
        | none => throw (.taken key)
      | some _ => throw (.taken key)

/-- Changes the table that the keys of a header lead to. -/
def changeAtHeader (header : List String) (change : Origin → Entries → Except Fault Entries) :
    Entries → Except Fault Entries :=
  changeAt (· ≠ .braces) .around change header .header

/-- Adds a value under a path of keys, of which `key` is the last. The path goes through tables made
by paths. It may go on through one made by a header in it, but may not end there. -/
def define (path : List String) (key : String) (value : Value) (origin : Origin)
    (entries : Entries) : Except Fault Entries :=
  changeAt (fun origin => origin = .path ∨ origin = .around) .path
    (fun origin entries =>
      if path ≠ [] ∧ origin ≠ .path then throw (.taken key)
      else
        entries.alter key fun
          | none => return value
          | some _ => throw (.taken key))
    path origin entries

/-- Adds the table of a header. It may be there only as what is around other tables. -/
def openTable (path : List String) (key : String) : Entries → Except Fault Entries :=
  changeAtHeader path fun _ entries =>
    entries.alter key fun
      | none => return .table .header []
      | some (.table .around inner) => return .table .header inner
      | some _ => throw (.taken key)

/-- Adds the table of a header for one more of several tables. -/
def openElement (path : List String) (key : String) : Entries → Except Fault Entries :=
  changeAtHeader path fun _ entries =>
    entries.alter key fun
      | none => return .elements [[]]
      | some (.elements tables) => return .elements (tables ++ [[]])
      | some _ => throw (.taken key)

mutual

/-- Whether the numbers in a value are in range. -/
def Value.isInRange : Value → Bool
  | .text _ => true
  | .scalar value => value.isInRange
  | .sequence items => areItemsInRange items
  | .table _ entries => areEntriesInRange entries
  | .elements tables => areTablesInRange tables

/-- Whether the numbers in some values are in range. -/
def areItemsInRange : List Value → Bool
  | [] => true
  | item :: rest => item.isInRange && areItemsInRange rest

/-- Whether the numbers in some entries are in range. -/
def areEntriesInRange : List (String × Value) → Bool
  | [] => true
  | (_, value) :: rest => value.isInRange && areEntriesInRange rest

/-- Whether the numbers in some tables are in range. -/
def areTablesInRange : List (List (String × Value)) → Bool
  | [] => true
  | table :: rest => areEntriesInRange table && areTablesInRange rest

end

end InputChain.Toml
