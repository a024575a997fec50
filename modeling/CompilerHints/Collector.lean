import CompilerHints.FragmentDirectory

/-!
# Collectors

The directives of one build unit. In an incremental build a line is also kept as a fragment when it
is accepted, unless the unit accepted it before; a `quiet` is always kept, under the name of its
scope, since another unit may not see that scope.

* `Collector.accept`: takes a line; the answer is whether it is new.
-/

namespace CompilerHints

/-- The directives of one build unit. -/
structure Collector where
  /-- The lines accepted so far. -/
  commands : CommandSet := .empty
  /-- Where fragments are kept, in an incremental build. -/
  fragments? : Option FragmentDirectory := none
  /-- How often a directive was accepted. -/
  accepted : Nat := 0
deriving DecidableEq

namespace Collector

/-- A collector that accepted nothing yet and keeps everything in memory. -/
def inMemory : Collector := {}

/-- A collector that accepted nothing yet and keeps fragments in a directory. -/
def incremental (dir : FragmentDirectory) : Collector where
  fragments? := some dir

/-- Takes a line; the answer is whether it is new. A fragment that cannot be written is a failure,
and the line counts as accepted all the same. -/
def accept (c : Collector) (line : Line) (fs : FileSystem) :
    Except Failure Bool × Collector × FileSystem :=
  let (isNew, commands) := c.commands.insert line
  let next : Collector := { c with commands := commands, accepted := c.accepted + 1 }
  match c.fragments? with
  | none => (.ok isNew, next, fs)
  | some dir =>
    if isNew || line.isQuiet then
      match dir.write line fs with
      | (.ok _, fs) => (.ok isNew, next, fs)
      | (.error failure, fs) => (.error failure, next, fs)
    else (.ok isNew, next, fs)

end Collector

end CompilerHints
