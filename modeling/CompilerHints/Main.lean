import CompilerHints.CommandLine.Reach

/-!
# The program

The outer layer: it presents the parts of the file system that a command looks at, carries the
command out, and puts into effect what has changed.
-/

namespace CompilerHints

/-- Presents what a location holds, if anything. -/
def present (fs : FileSystem) (loc : Location) : IO FileSystem := do
  let path := (← IO.currentDir) / (FileSystem.absolutePath loc).text
  if ← path.isDir then
    return fs.put loc .directory
  else if ← path.pathExists then
    return fs.put loc (.file (← IO.FS.readBinFile path).data.toList)
  else
    return fs

/-- Presents all that lies on a path. -/
def presentAlong (fs : FileSystem) (loc : Location) : List Component → IO FileSystem
  | [] => return fs
  | .root :: rest => presentAlong fs [] rest
  | .current :: rest => presentAlong fs loc rest
  | .parent :: rest => presentAlong fs loc.dropLast rest
  | .child name :: rest => do
    presentAlong (← present fs (loc ++ [name])) (loc ++ [name]) rest

/-- Presents what lies on a path and directly inside the directory it leads to. -/
def presentPath (fs : FileSystem) (p : Path) : IO FileSystem := do
  let fs ← presentAlong fs fs.workingDirectory p.steps
  match fs.locate? p with
  | none => return fs
  | some loc =>
    if fs.isDirectoryAt loc then
      let entries ← ((← IO.currentDir) / (FileSystem.absolutePath loc).text).readDir
      entries.foldlM (fun fs entry => present fs (loc ++ [entry.fileName])) fs
    else return fs

/-- Puts into effect what holds in one file system and not in another. -/
def putIntoEffect (old new : FileSystem) : IO Unit := do
  for (loc, entry) in new.entries.toList do
    if old.entry? loc ≠ some entry then
      match entry with
      | .directory => IO.FS.createDirAll (FileSystem.absolutePath loc).text
      | .file content => IO.FS.writeBinFile (FileSystem.absolutePath loc).text ⟨content.toArray⟩

/-- Everything up to the end of a stream. -/
partial def readAll (stream : IO.FS.Stream) (text : String) : IO String := do
  let line ← stream.getLine
  if line.isEmpty then return text else readAll stream (text ++ line)

/-- The text of the standard input, if a command reads it and it is one. -/
def readStdin (i : Invocation) : IO (Option String) :=
  match i.command with
  | .process "-" _ _ _ => do
    try
      return some (← readAll (← IO.getStdin) "")
    catch _ =>
      return none
  | _ => return none

/-- Carries out what the arguments ask for on the parts of the file system that matter. -/
def carryOut (args : List String) : IO UInt32 := do
  let here := ((← IO.currentDir).components.filter (· ≠ ""))
  let fs := FileSystem.inDirectory here
  let (stdin?, fs) ←
    match parseArguments args with
    | .error _ => pure (none, fs)
    | .ok i => do
      let fs ← (i.sources fs).foldlM presentPath fs
      let fs ← (i.places fs).foldlM presentPath fs
      pure (← readStdin i, fs)
  let done := runProgram args (← (← IO.getStderr).isTty) stdin? fs
  putIntoEffect fs done.files
  IO.print done.stdout
  IO.eprint done.stderr
  return done.exitCode.toUInt32

end CompilerHints

/-- Runs the program on its arguments. -/
def main (args : List String) : IO UInt32 := do
  try
    CompilerHints.carryOut args
  catch error =>
    IO.eprintln s!"error: I/O error: {error}"
    return 1
