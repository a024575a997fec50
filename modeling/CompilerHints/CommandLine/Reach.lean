import CompilerHints.CommandLine.Run

/-!
# What a command looks at

A command is a function of the whole file system, but it looks at few paths. Knowing them, a caller
can present those parts alone.

* `Invocation.sources`: the files that are read before anything else.
* `Invocation.places`: the artifact and the directories of fragments, which the files above decide.
-/

namespace CompilerHints

/-- The files that are read first: the settings and the input. -/
def Invocation.sources (i : Invocation) (fs : FileSystem) : List Path :=
  let settings :=
    match i.settings.config? with
    | some path => [⟨path⟩]
    | none => fs.currentDirectory?.toList.map fun dir => dir.join ⟨Configuration.fileName⟩
  match i.command with
  | .process input _ _ _ => settings ++ [⟨input⟩]
  | .merge _ _ _ => settings

/-- Where results are written, and where fragments are found. -/
def Invocation.places (i : Invocation) (fs : FileSystem) : List Path :=
  match i.command with
  | .merge dir output _ => [⟨dir⟩, ⟨output⟩]
  | .process _ root options _ =>
    match i.settings.loadWith options fs with
    | .error _ => []
    | .ok c =>
      match (c.resolve root.path).destination with
      | .artifact path => [path]
      | .fragments dir => [dir]

end CompilerHints
