import Archiver.Text.Blank

namespace Archiver

/-- How a table came to be, which decides what may still be added to it. -/
inductive TableOrigin where
  | header
  | implied
  | dotted
  | inline
deriving DecidableEq, Inhabited

/-- A value of a TOML text; `tables` are those with headers in double brackets, and the content of
a `moment` is of no use to anyone here. -/
inductive Toml where
  | text (value : List Char)
  | integer (value : Int)
  | float (value : Float)
  | boolean (value : Bool)
  | moment
  | array (items : List Toml)
  | tables (items : List Toml)
  | table (origin : TableOrigin) (entries : List (List Char × Toml))
deriving Inhabited

namespace Toml

def emptyTable (origin : TableOrigin) : Toml := .table origin []

def setEntry (key : List Char) (value : Toml) :
    List (List Char × Toml) → List (List Char × Toml)
  | [] => [(key, value)]
  | e :: rest => if e.1 == key then (key, value) :: rest else e :: setEntry key value rest

/-- True if keys with dots, or headers, may lead through a table of this origin. -/
def mayPass (dotted : Bool) : TableOrigin → Bool
  | .header => !dotted
  | .implied => true
  | .dotted => true
  | .inline => false

/-- Changes the table that a path leads to, making the tables on the way; of tables with one header
the last is meant. -/
def alterAt (dotted : Bool) (change : Toml → Option Toml) : List (List Char) → Toml → Option Toml
  | [], t => change t
  | key :: path, .table origin entries =>
    let new := .emptyTable (if dotted then .dotted else .implied)
    let inner := (entries.lookup key).getD new
    let changed : Option Toml := match inner with
      | .table inside _ => if mayPass dotted inside then alterAt dotted change path inner else none
      | .tables items =>
        match items.getLast? with
        | some last => (alterAt dotted change path last).map fun t => .tables (items.dropLast ++ [t])
        | none => none
      | _ => none
    changed.map fun t => .table origin (setEntry key t entries)
  | _ :: _, _ => none

/-- Adds a value under a new key. A table made by dotted keys takes values through dots alone, and
any other through none. -/
def addValue (hasDots : Bool) (key : List Char) (value : Toml) : Toml → Option Toml
  | .table origin entries =>
    if (entries.lookup key).isSome || (origin == .dotted) != hasDots then none
    else some (.table origin (entries ++ [(key, value)]))
  | _ => none

/-- Opens the table of a header; one that was only implied so far counts as new. -/
def openTable (key : List Char) : Toml → Option Toml
  | .table origin entries =>
    match entries.lookup key with
    | none => some (.table origin (entries ++ [(key, .emptyTable .header)]))
    | some (.table .implied inner) => some (.table origin (setEntry key (.table .header inner) entries))
    | some _ => none
  | _ => none

/-- Opens one more table of a header in double brackets. -/
def openItem (key : List Char) : Toml → Option Toml
  | .table origin entries =>
    match entries.lookup key with
    | none => some (.table origin (entries ++ [(key, .tables [.emptyTable .header])]))
    | some (.tables items) =>
      some (.table origin (setEntry key (.tables (items ++ [.emptyTable .header])) entries))
    | some _ => none
  | _ => none

/-- Changes the innermost table of a path, whose last key is left out. -/
def alterParent (change : List Char → Toml → Option Toml) (path : List (List Char)) (t : Toml) :
    Option Toml :=
  match path.getLast? with
  | none => none
  | some key => alterAt false (change key) path.dropLast t

/-- Adds what `keys` is set to. -/
def assign (keys : List (List Char)) (value : Toml) (t : Toml) : Option Toml :=
  match keys.getLast? with
  | none => none
  | some key => alterAt true (addValue (1 < keys.length) key value) keys.dropLast t

/-- Changes a table that is already open, whatever its origin. -/
def alterOpen (change : Toml → Option Toml) : List (List Char) → Toml → Option Toml
  | path, t => alterAt false change path t

end Toml

end Archiver
