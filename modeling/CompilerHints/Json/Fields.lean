import CompilerHints.Json.Basic

/-!
# Structures in JSON

A structure is written as an object of its fields or as an array of their values in order.

* `Json.fields?`: the values of known fields, in the order in which they are known.
* `Json.text?`, `Json.texts?`, `Json.all?`: values of one form.
-/

namespace CompilerHints

namespace Json

/-- The values that members give to a key. -/
def valuesOf (key : String) (members : List (Option String × Json)) : List Json :=
  members.filterMap fun (key?, value) => if key? = some key then some value else none

/-- The value of a key among members, which must not give it twice. The outer `none` is a
repetition. -/
def member? (key : String) (members : List (Option String × Json)) : Option (Option Json) :=
  match valuesOf key members with
  | [] => some none
  | [value] => some (some value)
  | _ => none

/-- The values of known keys among members. Other keys do not matter, but every key has to be a
text. -/
def memberFields? (known : List String) (members : List (Option String × Json)) :
    Option (List (Option Json)) :=
  if members.all fun (key?, _) => key?.isSome then known.mapM fun key => member? key members
  else none

/-- Values as those of known fields in order; the last ones may be left out. -/
def itemFields? (known : List String) (items : List Json) : Option (List (Option Json)) :=
  if items.length ≤ known.length then
    some (items.map some ++ List.replicate (known.length - items.length) none)
  else none

/-- The values of known fields of a structure. -/
def fields? (known : List String) : Json → Option (List (Option Json))
  | object members => memberFields? known members
  | array items => itemFields? known items
  | _ => none

/-- The text of a string. -/
def text? : Json → Option String
  | string text => some text
  | _ => none

/-- The items of an array, each read in the same way. -/
def all? {α : Type} (read? : Json → Option α) : Json → Option (List α)
  | array items => items.mapM read?
  | _ => none

/-- The texts of an array of strings. -/
def texts? (value : Json) : Option (List String) :=
  value.all? text?

/-- A value that may be left out, for which there is a default. -/
def orElse {α : Type} (value? : Option Json) (read? : Json → Option α) (default : α) :
    Option α :=
  match value? with
  | some value => read? value
  | none => some default

/-- A value that may be left out or null. -/
def optional {α : Type} (value? : Option Json) (read? : Json → Option α) : Option (Option α) :=
  match value? with
  | none => some none
  | some null => some none
  | some value => (read? value).map some

end Json

end CompilerHints
