import CompilerHints.Json.Number

/-!
# JSON values

A JSON value as it was written: members of an object keep their order and may repeat, numbers keep
their digits, and a string may hold half of a surrogate pair, so that no text stands for it.

* `Json`: the values.
* `Json.depth`: how deep arrays and objects are nested.
* `Json.isReadable`: whether every number is read as a finite double and every string is a text.
-/

namespace CompilerHints

/-- A JSON value as it was written. -/
inductive Json where
  | null
  | bool (value : Bool)
  | number (value : JsonNumber)
  | string (text : String)
  /-- A string with half of a surrogate pair in it. -/
  | brokenString
  | array (items : List Json)
  /-- Members in order; a key can be broken as a string can. -/
  | object (members : List (Option String × Json))
deriving Repr, Inhabited

namespace Json

/-- A natural number. -/
def ofNat (n : Nat) : Json :=
  number { significand := n }

/-- An object with the given members. -/
def ofMembers (members : List (String × Json)) : Json :=
  object (members.map fun (key, value) => (some key, value))

mutual

/-- How deep arrays and objects are nested. -/
def depth : Json → Nat
  | array items => itemsDepth items + 1
  | object members => membersDepth members + 1
  | _ => 0

/-- The greatest depth among values. -/
def itemsDepth : List Json → Nat
  | [] => 0
  | item :: rest => max item.depth (itemsDepth rest)

/-- The greatest depth among the values of members. -/
def membersDepth : List (Option String × Json) → Nat
  | [] => 0
  | (_, value) :: rest => max value.depth (membersDepth rest)

end

mutual

/-- Whether every number inside is read as a finite double and every string inside is a text. -/
def isReadable : Json → Bool
  | number value => value.isFinite
  | brokenString => false
  | array items => itemsReadable items
  | object members => membersReadable members
  | _ => true

/-- Whether all values are readable. -/
def itemsReadable : List Json → Bool
  | [] => true
  | item :: rest => item.isReadable && itemsReadable rest

/-- Whether the keys and the values of all members are readable. -/
def membersReadable : List (Option String × Json) → Bool
  | [] => true
  | (key?, value) :: rest => key?.isSome && value.isReadable && membersReadable rest

end

/-- The deepest nesting that is read. -/
def maxDepth : Nat := 127

end Json

end CompilerHints
