import ImportLint.Text.Basic

/-!
# TOML values

Numbers, truth values, dates and times are kept by their spelling: a configuration has no use for
them, and all that matters is that they are not texts.
-/

namespace ImportLint

namespace Toml

inductive Value where
  | text (t : Text)
  /-- A number, truth value, date or time, as it is spelled. -/
  | scalar (spelling : Text)
  | array (items : List Value)
  | table (entries : List (Text × Value))

/-- A table, as its keys and values in the order in which they were written. -/
abbrev Table := List (Text × Value)

def Value.isContainer : Value → Bool
  | array _ | table _ => true
  | _ => false

def texts? : List Value → Option (List Text)
  | [] => some []
  | .text t :: rest => (texts? rest).map (t :: ·)
  | _ :: _ => none

namespace Table

def put (key : Text) (value : Value) : Table → Table
  | [] => [(key, value)]
  | (other, old) :: rest =>
    if other = key then (other, value) :: rest else (other, old) :: put key value rest

/-- Changes the table at a path of keys. Tables that are missing on the way are made; an array on
the way stands for its last table if `throughArrays` allows. Any other value blocks the way. -/
def change (throughArrays : Bool) (f : Table → Option Table) : List Text → Table → Option Table
  | [], table => f table
  | key :: path, table =>
    match table.lookup key with
    | none => (change throughArrays f path []).map fun inner => put key (.table inner) table
    | some (.table inner) =>
      (change throughArrays f path inner).map fun inner => put key (.table inner) table
    | some (.array items) =>
      match throughArrays, items.getLast? with
      | true, some (.table inner) =>
        (change throughArrays f path inner).map fun inner =>
          put key (.array (items.dropLast ++ [.table inner])) table
      | _, _ => none
    | some _ => none

def add? (key : Text) (value : Value) (table : Table) : Option Table :=
  match table.lookup key with
  | none => some (put key value table)
  | some _ => none

/-- The table with one more empty table in the array under `key`. -/
def addToArray? (key : Text) (table : Table) : Option Table :=
  match table.lookup key with
  | none => some (put key (.array [.table []]) table)
  | some (.array items) => some (put key (.array (items ++ [.table []])) table)
  | some _ => none

end Table

end Toml

end ImportLint
