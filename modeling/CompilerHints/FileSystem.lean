import CompilerHints.Path
import Std.Data.ExtTreeMap

/-!
# File systems

A file system is a finite map from locations to directories and files, with a directory in which
relative paths begin. Two file systems are equal when every location holds the same.

* `FileSystem.entry?`: what a location holds; the root always holds a directory.
* `FileSystem.currentDirectory?`: the working directory, by its path from the root.
* `FileSystem.locate?`: where a path leads, if everything on the way exists.
* `FileSystem.write?`: writing a file whose directory exists.
* `FileSystem.createDirectories`: creating a directory and what is missing above it. On a failure
  the directories that were already made stay.
* `FileSystem.list?`: the entries directly inside a directory.
-/

namespace CompilerHints

open Text

/-- What a location can hold. -/
inductive Entry where
  | directory
  | file (content : Bytes)
deriving DecidableEq, Repr

/-- Whether an entry is a file. -/
def Entry.isFile : Entry → Bool
  | file _ => true
  | directory => false

/-- A place in a file system: the names from the root down. -/
abbrev Location := List String

/-- Directories and files, and the directory in which relative paths begin. -/
structure FileSystem where
  entries : Std.ExtTreeMap Location Entry
  workingDirectory : Location
deriving DecidableEq

namespace FileSystem

/-- What a location holds. -/
def entry? (fs : FileSystem) (loc : Location) : Option Entry :=
  if loc = [] then some .directory else fs.entries[loc]?

/-- Whether a location holds a directory. -/
def isDirectoryAt (fs : FileSystem) (loc : Location) : Bool :=
  fs.entry? loc == some .directory

/-- The file system in which a location holds a given entry and all others what they held. -/
def put (fs : FileSystem) (loc : Location) (entry : Entry) : FileSystem :=
  { fs with entries := fs.entries.insert loc entry }

/-- The file system in which a location holds nothing and all others what they held. -/
def erase (fs : FileSystem) (loc : Location) : FileSystem :=
  { fs with entries := fs.entries.erase loc }

/-! ### Following paths -/

/-- The path to a location from the root. -/
def absolutePath (loc : Location) : Path :=
  ⟨String.ofList ('/' :: joinSlashes (loc.map String.toList))⟩

/-- The path to the working directory from the root, as long as there is a directory. -/
def currentDirectory? (fs : FileSystem) : Option Path :=
  if fs.isDirectoryAt fs.workingDirectory then some (absolutePath fs.workingDirectory) else none

/-- Follows one step from a location, which has to be a directory. -/
def follow? (fs : FileSystem) (loc : Location) : Component → Option Location
  | .root => some []
  | .current => if fs.isDirectoryAt loc then some loc else none
  | .parent => if fs.isDirectoryAt loc then some loc.dropLast else none
  | .child name =>
    if fs.isDirectoryAt loc && (fs.entry? (loc ++ [name])).isSome then some (loc ++ [name])
    else none

/-- Follows steps one after the other. -/
def walk? (fs : FileSystem) (loc : Location) (steps : List Component) : Option Location :=
  steps.foldlM fs.follow? loc

/-- Where a path leads. The empty path leads nowhere, and a path that ends in a slash leads to a
directory or nowhere. -/
def locate? (fs : FileSystem) (p : Path) : Option Location :=
  if p.text = "" || !p.isUsable then none
  else
    match fs.walk? fs.workingDirectory p.steps with
    | none => none
    | some loc => if p.endsInSlash && !fs.isDirectoryAt loc then none else some loc

/-- What a path leads to. -/
def find? (fs : FileSystem) (p : Path) : Option Entry :=
  (fs.locate? p).bind fs.entry?

/-- Whether a path leads to a directory. -/
def isDirectory (fs : FileSystem) (p : Path) : Bool :=
  fs.find? p == some .directory

/-- Whether a path leads to a file. -/
def isFile (fs : FileSystem) (p : Path) : Bool :=
  (fs.find? p).any Entry.isFile

/-- The content of the file that a path leads to. -/
def read? (fs : FileSystem) (p : Path) : Option Bytes :=
  match fs.find? p with
  | some (.file content) => some content
  | _ => none

/-- The text of the file that a path leads to, if it is well-formed UTF-8. -/
def readText? (fs : FileSystem) (p : Path) : Option String :=
  (fs.read? p).bind ofUtf8Bytes?

/-! ### Listing -/

/-- The entries directly inside a location, with their names. -/
def children (fs : FileSystem) (loc : Location) : List (String × Entry) :=
  fs.entries.toList.filterMap fun (key, entry) =>
    match key.getLast? with
    | some name => if key.dropLast = loc then some (name, entry) else none
    | none => none

/-- The entries directly inside the directory that a path leads to. -/
def list? (fs : FileSystem) (p : Path) : Option (List (String × Entry)) :=
  match fs.locate? p with
  | some loc => if fs.isDirectoryAt loc then some (fs.children loc) else none
  | none => none

/-! ### Changing -/

/-- The longest name of an entry, in bytes. -/
def maxNameLength : Nat := 255

/-- Whether an entry can have a given name. -/
def isValidName (name : String) : Bool :=
  decide (name.utf8ByteSize ≤ maxNameLength)

/-- The location of the file that writing to a path would create or overwrite. Its directory has to
exist, and a directory must not be in its place. -/
def target? (fs : FileSystem) (p : Path) : Option Location :=
  if !p.isUsable || p.endsInSlash then none
  else
    match p.steps.getLast? with
    | some (.child name) =>
      match fs.walk? fs.workingDirectory p.steps.dropLast with
      | some dir =>
        if fs.isDirectoryAt dir && isValidName name && !fs.isDirectoryAt (dir ++ [name]) then
          some (dir ++ [name])
        else none
      | none => none
    | _ => none

/-- Writes a file, creating or overwriting it. -/
def write? (fs : FileSystem) (p : Path) (content : Bytes) : Option FileSystem :=
  (fs.target? p).map fun loc => fs.put loc (.file content)

/-- Follows steps from a directory and makes the directories that are missing, with the answer
whether all went well. A name is not made when something follows it and all that follows are steps
to the same directory. -/
def makeAll (fs : FileSystem) (loc : Location) : List Component → FileSystem × Bool
  | [] => (fs, true)
  | .root :: rest => fs.makeAll [] rest
  | .current :: rest => fs.makeAll loc rest
  | .parent :: rest => fs.makeAll loc.dropLast rest
  | .child name :: rest =>
    match fs.entry? (loc ++ [name]) with
    | some .directory => fs.makeAll (loc ++ [name]) rest
    | some (.file _) => (fs, false)
    | none =>
      if isValidName name && (rest.isEmpty || rest.any (· ≠ .current)) then
        (fs.put (loc ++ [name]) .directory).makeAll (loc ++ [name]) rest
      else (fs, false)

/-- Creates the directory that a path names and what is missing above it, with the answer whether
that went well. The empty path asks for nothing. -/
def createDirectories (fs : FileSystem) (p : Path) : FileSystem × Bool :=
  if p.isUsable then fs.makeAll fs.workingDirectory p.steps else (fs, false)

/-- The file system that holds nothing but a working directory and the directories above it. -/
def inDirectory (loc : Location) : FileSystem :=
  (makeAll ⟨∅, loc⟩ [] (loc.map .child)).1

/-- Removes the files directly inside a location that have chosen names, and nothing else. -/
def removeFiles (fs : FileSystem) (loc : Location) (chosen : String → Bool) : FileSystem :=
  { fs with entries := fs.entries.filter fun key entry =>
      !(entry.isFile && key.getLast?.any chosen && key.dropLast == loc) }

/-- Removes what a path leads to, a directory with all that is inside. -/
def remove (fs : FileSystem) (p : Path) : FileSystem :=
  match fs.locate? p with
  | some loc => { fs with entries := fs.entries.filter fun key _ => !loc.isPrefixOf key }
  | none => fs

/-! ### Everything below the working directory -/

/-- A location as a path text, with a slash behind a directory. -/
def label (loc : Location) (entry : Entry) : String :=
  String.ofList (joinSlashes (loc.map String.toList)) ++ if entry.isFile then "" else "/"

/-- All directories and files below the working directory, by their paths from there, in the byte
order of the paths. -/
def listing (fs : FileSystem) : List (String × Entry) :=
  let below := fs.entries.toList.filterMap fun (key, entry) =>
    if fs.workingDirectory.isPrefixOf key && key ≠ fs.workingDirectory then
      some (label (key.drop fs.workingDirectory.length) entry, entry)
    else none
  below.mergeSort fun a b => (byteOrder a.1 b.1).isLE

end FileSystem

end CompilerHints
