/-!
# TOML values

A document is a table. Of numbers, truth values and dates only the kind is kept; tables remember how
they came to be, since that decides whether they can still be extended.

* `Toml`, `TableOrigin`: the values.
* `Toml.insertKey?`, `Toml.openTable?`, `Toml.openArrayTable?`: extending a table.
-/

namespace CompilerHints

/-- How a table came to be. -/
inductive TableOrigin where
  /-- By a header of its own. -/
  | header
  /-- By the header of a table inside it. -/
  | implied
  /-- By a dotted key. -/
  | dotted
  /-- As a value between braces. -/
  | inlined
deriving DecidableEq, Repr

/-- A TOML value. -/
inductive Toml where
  | string (text : String)
  | number
  | boolean
  | dateTime
  | array (items : List Toml)
  | table (origin : TableOrigin) (members : List (String × Toml))
  /-- The tables of one array header, in order. -/
  | tables (items : List Toml)
deriving Repr

namespace Toml

/-- The members of a table with a new value for a key that is there. -/
def replaceKey (key : String) (value : Toml) (members : List (String × Toml)) :
    List (String × Toml) :=
  members.map fun member => if member.1 = key then (key, value) else member

/-- Changes the members of the table at a path of keys below a table. Tables on the way that are
missing are made. A dotted key does not lead into a table that has a header of its own, and nothing
leads into an inlined table or a value; an array of tables leads to its last one. -/
def changeAt? (byDots : Bool)
    (change : TableOrigin → List (String × Toml) → Option (List (String × Toml))) :
    List String → TableOrigin → List (String × Toml) → Option (List (String × Toml))
  | [], origin, members => change origin members
  | key :: rest, _, members =>
    match members.lookup key with
    | none =>
      let origin := if byDots then .dotted else .implied
      (changeAt? byDots change rest origin []).map fun inner =>
        members ++ [(key, table origin inner)]
    | some (table .inlined _) => none
    | some (table origin inner) =>
      if byDots && origin = .header then none
      else
        (changeAt? byDots change rest origin inner).map fun inner =>
          replaceKey key (table origin inner) members
    | some (tables items) =>
      match items.getLast? with
      | some (table origin inner) =>
        (changeAt? byDots change rest origin inner).map fun inner =>
          replaceKey key (tables (items.dropLast ++ [table origin inner])) members
      | _ => none
    | some _ => none

/-- Gives a value to a dotted key below a table. The key must be new, and its table must be made by
dots alone. -/
def insertKey? (origin : TableOrigin) (members : List (String × Toml)) (path : List String)
    (key : String) (value : Toml) : Option (List (String × Toml)) :=
  changeAt? true
    (fun inner found =>
      if !path.isEmpty && inner ≠ .dotted then none
      else if (found.lookup key).isSome then none
      else some (found ++ [(key, value)]))
    path origin members

/-- Opens the table of a header. It must be new or only be implied so far. -/
def openTable? (root : List (String × Toml)) (path : List String) (key : String) :
    Option (List (String × Toml)) :=
  changeAt? false
    (fun _ found =>
      match found.lookup key with
      | none => some (found ++ [(key, table .header [])])
      | some (table .implied inner) => some (replaceKey key (table .header inner) found)
      | some _ => none)
    path .header root

/-- Opens another table of an array header. -/
def openArrayTable? (root : List (String × Toml)) (path : List String) (key : String) :
    Option (List (String × Toml)) :=
  changeAt? false
    (fun _ found =>
      match found.lookup key with
      | none => some (found ++ [(key, tables [table .header []])])
      | some (tables items) => some (replaceKey key (tables (items ++ [table .header []])) found)
      | some _ => none)
    path .header root

end Toml

end CompilerHints
