import CompilerHints.Toml.Quoted

/-!
# TOML documents

The grammar of TOML 1.0. A document is a sequence of lines: headers that open a table, and keys with
their values, which go into the table that was opened last.

* `Toml.readValue?`: the value at the front, and what follows it.
* `Toml.parse?`: the members of a document's table.
-/

namespace CompilerHints

namespace Toml

/-- Whether a character is a blank within a line. -/
def isLineBlank (c : Char) : Bool :=
  c == ' ' || c == '\t'

/-- Characters without the blanks in front. -/
def skipBlanks (cs : List Char) : List Char :=
  cs.dropWhile isLineBlank

/-- Characters without the blanks, line ends and comments in front. -/
def skipGaps? (inComment : Bool) : List Char → Option (List Char)
  | [] => some []
  | '\n' :: rest => skipGaps? false rest
  | '\r' :: '\n' :: rest => skipGaps? false rest
  | c :: rest =>
    if inComment then if isPlain c then skipGaps? true rest else none
    else if isLineBlank c then skipGaps? false rest
    else if c == '#' then skipGaps? true rest
    else some (c :: rest)

/-- What follows the end of a line, if nothing but blanks and a comment is in front of it. -/
def skipLine? (inComment : Bool) : List Char → Option (List Char)
  | [] => some []
  | '\n' :: rest => some rest
  | '\r' :: '\n' :: rest => some rest
  | c :: rest =>
    if inComment then if isPlain c then skipLine? true rest else none
    else if isLineBlank c then skipLine? false rest
    else if c == '#' then skipLine? true rest
    else none

/-! ### Keys -/

/-- Whether a character may stand in a key without quotes. -/
def isBareChar (c : Char) : Bool :=
  c.isAlphanum || c == '_' || c == '-'

/-- One part of a key. -/
def readKeyPart? (cs : List Char) : Option (String × List Char) :=
  match readLineString? cs with
  | some found => some found
  | none =>
    match cs.takeWhile isBareChar with
    | [] => none
    | part => some (String.ofList part, cs.dropWhile isBareChar)

/-- A key of parts with dots between them: all but the last one, the last one, and what follows,
without the blanks in front. -/
def readKey? (fuel : Nat) (cs : List Char) : Option (List String × String × List Char) :=
  match fuel with
  | 0 => none
  | fuel + 1 =>
    match readKeyPart? (skipBlanks cs) with
    | none => none
    | some (part, rest) =>
      match skipBlanks rest with
      | '.' :: rest =>
        (readKey? fuel rest).map fun (path, key, rest) => (part :: path, key, rest)
      | rest => some ([], part, rest)

/-! ### Values -/

/-- How deep arrays and inlined tables may be nested. -/
def maxDepth : Nat := 79

mutual

/-- The value at the front, and what follows it. The fuel bounds the number of steps, and the depth
how many levels may still come. -/
def readFueled? (fuel depth : Nat) (cs : List Char) : Option (Toml × List Char) :=
  match fuel with
  | 0 => none
  | fuel + 1 =>
    match cs with
    | '[' :: rest =>
      match depth with
      | 0 => none
      | depth + 1 =>
        (readItems? fuel depth rest).map fun (items, rest) => (array items, rest)
    | '{' :: rest =>
      match depth with
      | 0 => none
      | depth + 1 =>
        match skipBlanks rest with
        | '}' :: rest => some (table .inlined [], rest)
        | rest =>
          (readPairs? fuel depth [] rest).map fun (members, rest) =>
            (table .inlined members, rest)
    | '"' :: _ => (readString? cs).map fun (text, rest) => (string text, rest)
    | '\'' :: _ => (readString? cs).map fun (text, rest) => (string text, rest)
    | _ => readScalar? cs

/-- The items up to the closing bracket. A comma may stand behind the last one. -/
def readItems? (fuel depth : Nat) (cs : List Char) : Option (List Toml × List Char) :=
  match fuel with
  | 0 => none
  | fuel + 1 =>
    match skipGaps? false cs with
    | none => none
    | some (']' :: rest) => some ([], rest)
    | some cs =>
      match readFueled? fuel depth cs with
      | none => none
      | some (item, rest) =>
        match skipGaps? false rest with
        | some (',' :: rest) =>
          (readItems? fuel depth rest).map fun (items, rest) => (item :: items, rest)
        | some (']' :: rest) => some ([item], rest)
        | _ => none

/-- The keys with values up to the closing brace, added to members. -/
def readPairs? (fuel depth : Nat) (members : List (String × Toml)) (cs : List Char) :
    Option (List (String × Toml) × List Char) :=
  match fuel with
  | 0 => none
  | fuel + 1 =>
    match readKey? cs.length cs with
    | some (path, key, '=' :: rest) =>
      match readFueled? fuel depth (skipBlanks rest) with
      | none => none
      | some (value, rest) =>
        match insertKey? .inlined members path key value with
        | none => none
        | some members =>
          match skipBlanks rest with
          | ',' :: rest => readPairs? fuel depth members rest
          | '}' :: rest => some (members, rest)
          | _ => none
    | _ => none

end

/-- The value at the front, and what follows it. Every two steps take a character away. -/
def readValue? (cs : List Char) : Option (Toml × List Char) :=
  readFueled? (2 * cs.length + 2) maxDepth cs

/-! ### Lines -/

/-- A document that was read up to some line: its members, and the path to the open table. -/
structure Draft where
  root : List (String × Toml) := []
  openPath : List String := []

/-- Takes a header, behind its opening brackets. -/
def Draft.takeHeader? (draft : Draft) (isArray : Bool) (cs : List Char) :
    Option (Draft × List Char) := do
  let (path, key, rest) ← readKey? cs.length cs
  let rest ←
    match isArray, rest with
    | false, ']' :: rest => some rest
    | true, ']' :: ']' :: rest => some rest
    | _, _ => none
  let root ←
    if isArray then openArrayTable? draft.root path key
    else openTable? draft.root path key
  some ({ root := root, openPath := path ++ [key] }, ← skipLine? false rest)

/-- Takes a key with its value. -/
def Draft.takePair? (draft : Draft) (cs : List Char) : Option (Draft × List Char) := do
  let (path, key, rest) ← readKey? cs.length cs
  let '=' :: rest := rest | none
  let (value, rest) ← readValue? (skipBlanks rest)
  let root ←
    changeAt? false (fun origin members => insertKey? origin members path key value)
      draft.openPath .header draft.root
  some ({ draft with root := root }, ← skipLine? false rest)

/-- Takes all lines. The fuel bounds their number. -/
def Draft.takeLines? (draft : Draft) (fuel : Nat) (cs : List Char) : Option Draft :=
  match fuel with
  | 0 => none
  | fuel + 1 =>
    match skipGaps? false cs with
    | none => none
    | some [] => some draft
    | some ('[' :: '[' :: rest) => do
      let (draft, rest) ← draft.takeHeader? true rest
      draft.takeLines? fuel rest
    | some ('[' :: rest) => do
      let (draft, rest) ← draft.takeHeader? false rest
      draft.takeLines? fuel rest
    | some cs => do
      let (draft, rest) ← draft.takePair? cs
      draft.takeLines? fuel rest

/-- The members of a document's table. A byte order mark may stand in front. -/
def parse? (text : String) : Option (List (String × Toml)) :=
  let cs :=
    match text.toList with
    | '\uFEFF' :: rest => rest
    | cs => cs
  (({} : Draft).takeLines? (cs.length + 1) cs).map Draft.root

end Toml

end CompilerHints
