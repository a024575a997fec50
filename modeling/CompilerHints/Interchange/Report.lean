import CompilerHints.Interchange.Diagnostic
import CompilerHints.Json.Printer
import CompilerHints.Processing.Processor

/-!
# Reports in JSON

* `Report.toJson`: an object of the fields, in the order in which they are printed.
* `Report.document`: the text that a run prints, with its diagnostics.
-/

namespace CompilerHints

/-- An object of the mode and what belongs to it. -/
def Written.toJson : Written → Json
  | artifact path bytes =>
    .ofMembers
      [("mode", .string "artifact"), ("path", .string path.text), ("bytes", .ofNat bytes)]
  | fragments dir => .ofMembers [("mode", .string "fragments"), ("dir", .string dir.text)]

namespace Report

/-- An object of the fields. -/
def toJson (r : Report) : Json :=
  .ofMembers
    [("accepted", .ofNat r.accepted), ("lines", .ofNat r.lines), ("quiet", .bool r.quiet),
     ("output", r.output.toJson)]

/-- A report with diagnostics, over several lines. -/
def document (r : Report) (diagnostics : List Diagnostic) : String :=
  Json.pretty <| .ofMembers
    [("report", r.toJson), ("diagnostics", .array (diagnostics.map Diagnostic.toJson))]

end Report

end CompilerHints
