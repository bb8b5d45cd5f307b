/-
# TOML values and tables

A document is a table of values. How a table came to be decides what may still be added to it:
a table in braces is complete, a table with a header may be written once, and a table that is only
named on the way to another one stays open.

* `Table.openHeader`, `Table.openItem` : what the headers `[a.b]` and `[[a.b]]` do;
* `Table.assign` : what a line `a.b = value` does.
-/

namespace PortForward.Toml

/-- How a table came to be. -/
inductive Origin where
  /-- Written in braces. -/
  | braces
  /-- Written with a header of its own. -/
  | header
  /-- Named on the way to a table with a header. -/
  | implied
  /-- Named on the way to a value with a dotted key. -/
  | dotted
deriving DecidableEq, Repr

/-- A value. Of a fraction and of a date only the kind is kept, as no setting is one. -/
inductive Value where
  | string (value : String)
  | integer (value : Int)
  | fraction
  | boolean (value : Bool)
  | moment
  | array (items : List Value)
  | table (origin : Origin) (members : List (String × Value))
  /-- A list of tables with double brackets around their header; the last is still open. -/
  | tables (earlier : List (List (String × Value))) (last : List (String × Value))
deriving Repr, Inhabited

/-- The members of a table, each key once. -/
abbrev Table := List (String × Value)

namespace Table

/-- Puts a value under a key, in the place of the older one if there is one. -/
def put (key : String) (value : Value) : Table → Table
  | [] => [(key, value)]
  | (k, v) :: ms => if k = key then (key, value) :: ms else (k, v) :: put key value ms

/-- A table inside another one, and the value that it becomes again after a change. -/
abbrev Inner := Table × (Table → Value)

/-- Steps into the table under a key on the way to a header. -/
def enterHeader : Option Value → Option Inner
  | none => some ([], .table .implied)
  | some (.table .braces _) => none
  | some (.table origin ms) => some (ms, .table origin)
  | some (.tables earlier last) => some (last, .tables earlier)
  | some _ => none

/-- Steps into the table under a key on the way along a dotted key. -/
def enterDotted : Option Value → Option Inner
  | none => some ([], .table .dotted)
  | some (.table .implied ms) => some (ms, .table .implied)
  | some (.table .dotted ms) => some (ms, .table .dotted)
  | some (.tables earlier last) => some (last, .tables earlier)
  | some _ => none

/-- Steps into the table that gets the value of a dotted key: it was made by such keys only. -/
def enterOwner : Option Value → Option Inner
  | none => some ([], .table .dotted)
  | some (.table .dotted ms) => some (ms, .table .dotted)
  | some _ => none

/-- Changes the table under a key. -/
def within (enter : Option Value → Option Inner) (key : String) (change : Table → Option Table)
    (t : Table) : Option Table := do
  let (inner, back) ← enter (t.lookup key)
  return t.put key (back (← change inner))

/-- Changes the table at the end of a path. -/
def descend (enter : Option Value → Option Inner) : List String → (Table → Option Table) →
    Table → Option Table
  | [], change => change
  | key :: path, change => within enter key (descend enter path change)

/-- Opens the table under the last key for a header: it must not have been written before. -/
def openHeader (path : List String) (key : String) : Table → Option Table :=
  descend enterHeader path fun t =>
    match t.lookup key with
    | none => some (t.put key (.table .header []))
    | some (.table .implied ms) => some (t.put key (.table .header ms))
    | some _ => none

/-- Opens one more table in the list under the last key. -/
def openItem (path : List String) (key : String) : Table → Option Table :=
  descend enterHeader path fun t =>
    match t.lookup key with
    | none => some (t.put key (.tables [] []))
    | some (.tables earlier last) => some (t.put key (.tables (earlier ++ [last]) []))
    | some _ => none

/-- Puts a value under a key that is not in use. -/
def insertNew (key : String) (value : Value) (t : Table) : Option Table :=
  match t.lookup key with
  | none => some (t.put key value)
  | some _ => none

/-- Puts a value under a dotted key, given as the parts before the last and the last part. -/
def assign (path : List String) (key : String) (value : Value) (t : Table) : Option Table :=
  match path.getLast? with
  | none => t.insertNew key value
  | some owner => t.descend enterDotted path.dropLast (within enterOwner owner (insertNew key value))

end Table
end PortForward.Toml
