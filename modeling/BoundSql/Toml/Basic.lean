import BoundSql.Power

/-! TOML documents as trees; a table remembers how it was made, which decides who may add to it. -/

namespace BoundSql

inductive TableKind where
  | header
  /-- On the path of a header only. -/
  | implicit
  /-- On the path of a dotted key. -/
  | dotted
  /-- Written in braces, and closed for good. -/
  | inline
  deriving DecidableEq

inductive Toml where
  | string (s : String)
  | integer (n : Int)
  | boolean (b : Bool)
  | float (finite : Bool)
  | dateTime
  | array (ofTables : Bool) (items : List Toml)
  | table (kind : TableKind) (fields : List (String × Toml))
  deriving Inhabited

namespace Toml

mutual

def readable : Toml → Bool
  | integer n => -2 ^ 127 ≤ n && n < 2 ^ 128
  | float finite => finite
  | array _ items => itemsReadable items
  | table _ fields => fieldsReadable fields
  | string _ | boolean _ | dateTime => true

def itemsReadable : List Toml → Bool
  | [] => true
  | item :: items => readable item && itemsReadable items

def fieldsReadable : List (String × Toml) → Bool
  | [] => true
  | (_, value) :: fields => readable value && fieldsReadable fields

end

def lookup (key : String) (fields : List (String × Toml)) : Option Toml :=
  (fields.find? (·.1 == key)).map (·.2)

def assign (key : String) (value : Toml) : List (String × Toml) → List (String × Toml)
  | [] => [(key, value)]
  | (k, v) :: rest => if k = key then (k, value) :: rest else (k, v) :: assign key value rest

/-- Change the table at the end of a path, making the tables on the way as needed. An array of tables
is entered at its last table. `kind` is that of the tables made; of the tables that a header has opened
a dotted key may pass only those in arrays. -/
def descend (kind : TableKind) (change : TableKind → List (String × Toml) → Option Toml) :
    (path : List String) → TableKind → List (String × Toml) → Option Toml
  | [], here, fields => change here fields
  | key :: path, here, fields =>
    let within (barred : TableKind → Bool) : Toml → Option Toml
      | table k inner => if barred k then none else descend kind change path k inner
      | _ => none
    let changed : Option Toml :=
      match lookup key fields with
      | none => descend kind change path kind []
      | some (array true items) =>
        match items.reverse with
        | [] => none
        | last :: before => (within (· == .inline) last).map fun t => array true (t :: before).reverse
      | some t => within (fun k => k == .inline || (kind == .dotted && k == .header)) t
    changed.map fun t => table here (assign key t fields)

/-- Set a key in a table. A table made by a dotted key takes keys in dotted form only, every other
table in plain form. -/
def insertAt (dotted : Bool) (key : String) (value : Toml) (here : TableKind)
    (fields : List (String × Toml)) : Option Toml :=
  if (here == .dotted) != dotted || (lookup key fields).isSome then none
  else some (table here (fields ++ [(key, value)]))

def insert (path : List String) (key : String) (value : Toml) : Toml → Option Toml
  | table here fields => descend .dotted (insertAt (!path.isEmpty) key value) path here fields
  | _ => none

def under (path : List String) (change : Toml → Option Toml) : Toml → Option Toml
  | table here fields => descend .implicit (fun k inner => change (table k inner)) path here fields
  | _ => none

def openTable (path : List String) (key : String) : Toml → Option Toml :=
  under path fun
    | table here fields =>
      match lookup key fields with
      | none => some (table here (fields ++ [(key, table .header [])]))
      | some (table .implicit inner) => some (table here (assign key (table .header inner) fields))
      | some _ => none
    | _ => none

def openItem (path : List String) (key : String) : Toml → Option Toml :=
  under path fun
    | table here fields =>
      match lookup key fields with
      | none => some (table here (fields ++ [(key, array true [table .header []])]))
      | some (array true items) =>
        some (table here (assign key (array true (items ++ [table .header []])) fields))
      | some _ => none
    | _ => none

end Toml

end BoundSql
