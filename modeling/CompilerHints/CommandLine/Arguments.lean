import CompilerHints.Configuration.Output

/-!
# Command-line arguments

The program has two commands, `process` and `merge`. Switches come with one hyphen and a letter,
several of them together, or with two hyphens and a word; a value follows directly, behind an equals
sign, or as the next argument. After `--` there are no switches any more. Arguments are texts here,
so the output root that is read off them is one too.

* `Invocation`: what the program is asked to do.
* `parseArguments`: reading the arguments, or why there is nothing to do.
-/

namespace CompilerHints

/-- When output is colored. -/
inductive ColorChoice where
  | auto
  | always
  | never
deriving DecidableEq, Repr

/-- How a run is reported. -/
inductive ReportFormat where
  | text
  | json
deriving DecidableEq, Repr

/-- What holds for every command. -/
structure GlobalSettings where
  /-- Whether summaries are left out. -/
  quiet : Bool := false
  /-- Whether more is logged. -/
  verbose : Bool := false
  color : ColorChoice := .auto
  /-- The path of the file with the settings, if not the usual one. -/
  config? : Option String := none
deriving DecidableEq, Repr

/-- One of the two commands. -/
inductive Command where
  /-- Processes the rounds of an input, below an output root and with options. -/
  | process (input : String) (root : OutputRoot) (options : List String) (format : ReportFormat)
  /-- Merges a directory of fragments into an artifact. -/
  | merge (dir output : String) (charset? : Option String)
deriving DecidableEq, Repr

/-- What the program is asked to do. -/
structure Invocation where
  settings : GlobalSettings
  command : Command
deriving DecidableEq, Repr

/-- Why there is no command to carry out. -/
inductive Halt where
  /-- The arguments are not understood. -/
  | usage
  /-- Only help is asked for. -/
  | help
  /-- Only the version is asked for. -/
  | version
deriving DecidableEq, Repr

/-! ### Switches -/

/-- The switches of the program and its commands. -/
inductive Switch where
  | quiet
  | verbose
  | color
  | config
  | root
  | option
  | format
  | charset
  | help
  | version
deriving DecidableEq, Repr

/-- Where arguments stand: before a command, or behind one. -/
inductive Stage where
  | program
  | process
  | merge
deriving DecidableEq, Repr

namespace Switch

/-- All switches. -/
def all : List Switch :=
  [quiet, verbose, color, config, root, option, format, charset, help, version]

/-- The letter of a switch. -/
def letter? : Switch → Option Char
  | quiet => some 'q'
  | verbose => some 'v'
  | root => some 'o'
  | option => some 'A'
  | format => some 'f'
  | help => some 'h'
  | version => some 'V'
  | _ => none

/-- The word of a switch. -/
def word? : Switch → Option String
  | quiet => some "quiet"
  | verbose => some "verbose"
  | color => some "color"
  | config => some "config"
  | root => some "out-dir"
  | option => none
  | format => some "format"
  | charset => some "charset"
  | help => some "help"
  | version => some "version"

/-- Whether a switch is known at a stage. Those for every command are known everywhere. -/
def isKnownAt (stage : Stage) : Switch → Bool
  | root => stage = .process
  | option => stage = .process
  | format => stage = .process
  | charset => stage = .merge
  | version => stage = .program
  | _ => true

/-- Whether a switch has a value. -/
def takesValue : Switch → Bool
  | quiet => false
  | verbose => false
  | help => false
  | version => false
  | _ => true

/-- Whether a switch may be given more than once. -/
def isRepeatable : Switch → Bool
  | option => true
  | _ => false

/-- Whether a switch can have a given value. A path must not be empty. -/
def admits (value : String) : Switch → Bool
  | color => ["auto", "always", "never"].contains value
  | format => ["text", "json"].contains value
  | config => value ≠ ""
  | root => value ≠ ""
  | _ => true

/-- The switch of a letter at a stage. -/
def ofLetter? (stage : Stage) (letter : Char) : Option Switch :=
  all.find? fun s => s.isKnownAt stage && s.letter? == some letter

/-- The switch of a word at a stage. -/
def ofWord? (stage : Stage) (word : String) : Option Switch :=
  all.find? fun s => s.isKnownAt stage && s.word? == some word

end Switch

/-! ### Reading -/

/-- What was read of the arguments at a stage. -/
structure Reading where
  /-- Switches with their values, in order; those without a value have an empty one. -/
  given : List (Switch × String) := []
  /-- The other arguments in order. -/
  positionals : List String := []
deriving DecidableEq, Repr

namespace Reading

/-- Notes a switch with its value. Help and version end the reading. -/
def give (r : Reading) (s : Switch) (value : String) : Except Halt Reading :=
  if s = .help then .error .help
  else if s = .version then .error .version
  else if !s.admits value then .error .usage
  else if !s.isRepeatable && r.given.any (·.1 = s) then .error .usage
  else .ok { r with given := r.given ++ [(s, value)] }

/-- Notes an argument that is no switch. Input, directory and output are all there is, and the
paths of a merge must not be empty. -/
def place (r : Reading) (stage : Stage) (value : String) : Except Halt Reading :=
  let limit :=
    match stage with
    | .program => 0
    | .process => 1
    | .merge => 2
  if r.positionals.length < limit && !(stage = .merge && value = "") then
    .ok { r with positionals := r.positionals ++ [value] }
  else .error .usage

/-- Reads letters behind one hyphen; the answer may be a switch that waits for its value. -/
def takeLetters (r : Reading) (stage : Stage) :
    List Char → Except Halt (Reading × Option Switch)
  | [] => .ok (r, none)
  | letter :: rest =>
    match Switch.ofLetter? stage letter with
    | none => .error .usage
    | some s =>
      if s.takesValue then
        match rest with
        | [] => .ok (r, some s)
        | '=' :: value => (r.give s (String.ofList value)).map fun r => (r, none)
        | value => (r.give s (String.ofList value)).map fun r => (r, none)
      else
        match r.give s "" with
        | .ok r => r.takeLetters stage rest
        | .error halt => .error halt

/-- Reads what stands behind two hyphens; the answer may be a switch that waits for its value. -/
def takeWord (r : Reading) (stage : Stage) (cs : List Char) :
    Except Halt (Reading × Option Switch) :=
  let word := String.ofList (cs.takeWhile (· ≠ '='))
  let value? := (cs.dropWhile (· ≠ '=')).tail?.map String.ofList
  match Switch.ofWord? stage word with
  | none => .error .usage
  | some s =>
    match s.takesValue, value? with
    | true, none => .ok (r, some s)
    | true, some value => (r.give s value).map fun r => (r, none)
    | false, none => (r.give s "").map fun r => (r, none)
    | false, some _ => .error .usage

/-- Whether an argument can be a value that a switch waits for: anything but another switch. A
single hyphen is no switch. -/
def isValue (arg : String) : Bool :=
  match arg.toList with
  | '-' :: _ :: _ => false
  | _ => true

/-- Reads all arguments of a stage. Before a command, the first argument that is no switch is
returned with those behind it. -/
def takeAll (r : Reading) (stage : Stage) (waiting? : Option Switch) (trailing : Bool) :
    List String → Except Halt (Reading × List String)
  | [] => if waiting?.isSome then .error .usage else .ok (r, [])
  | arg :: rest =>
    if trailing then
      if waiting?.isSome then .error .usage
      else
        match r.place stage arg with
        | .ok r => r.takeAll stage none true rest
        | .error halt => .error halt
    else
      match waiting?, arg.toList with
      | none, ['-', '-'] => r.takeAll stage none true rest
      | none, '-' :: '-' :: cs =>
        match r.takeWord stage cs with
        | .ok (r, waiting?) => r.takeAll stage waiting? false rest
        | .error halt => .error halt
      | none, '-' :: c :: cs =>
        match r.takeLetters stage (c :: cs) with
        | .ok (r, waiting?) => r.takeAll stage waiting? false rest
        | .error halt => .error halt
      | none, _ =>
        if stage = .program then .ok (r, arg :: rest)
        else
          match r.place stage arg with
          | .ok r => r.takeAll stage none false rest
          | .error halt => .error halt
      | some s, _ =>
        if isValue arg then
          match r.give s arg with
          | .ok r => r.takeAll stage none false rest
          | .error halt => .error halt
        else .error .usage

/-- Whether a switch was given. -/
def has (r : Reading) (s : Switch) : Bool :=
  r.given.any (·.1 = s)

/-- The values of a switch in order. -/
def values (r : Reading) (s : Switch) : List String :=
  (r.given.filter (·.1 = s)).map (·.2)

/-- The value of a switch that is given at most once. -/
def value? (r : Reading) (s : Switch) : Option String :=
  (r.values s).head?

end Reading

/-! ### Commands -/

/-- The choice of a word. -/
def ColorChoice.ofWord (word : String) : ColorChoice :=
  if word = "always" then always else if word = "never" then never else auto

/-- The settings from before and behind the command. The latter count where both are given. -/
def GlobalSettings.ofReadings (before behind : Reading) : GlobalSettings where
  quiet := before.has .quiet || behind.has .quiet
  verbose := before.has .verbose || behind.has .verbose
  color := ColorChoice.ofWord ((behind.value? .color <|> before.value? .color).getD "auto")
  config? := behind.value? .config <|> before.value? .config

/-- Reads the arguments behind `process`. -/
def parseProcess (before : Reading) (args : List String) : Except Halt Invocation :=
  match ({} : Reading).takeAll .process none false args with
  | .error halt => .error halt
  | .ok (r, _) =>
    match r.positionals with
    | [input] =>
      let format := if r.value? .format = some "json" then .json else .text
      .ok ⟨.ofReadings before r,
        .process input { path := ⟨(r.value? .root).getD "."⟩ } (r.values .option) format⟩
    | _ => .error .usage

/-- Reads the arguments behind `merge`. -/
def parseMerge (before : Reading) (args : List String) : Except Halt Invocation :=
  match ({} : Reading).takeAll .merge none false args with
  | .error halt => .error halt
  | .ok (r, _) =>
    match r.positionals with
    | [dir, output] => .ok ⟨.ofReadings before r, .merge dir output (r.value? .charset)⟩
    | _ => .error .usage

/-- Reads all arguments: switches for every command, the command, and what is behind it. -/
def parseArguments (args : List String) : Except Halt Invocation :=
  match ({} : Reading).takeAll .program none false args with
  | .error halt => .error halt
  | .ok (before, command :: rest) =>
    if command = "process" then parseProcess before rest
    else if command = "merge" then parseMerge before rest
    else if command = "help" then
      .error (if rest ∈ [[], ["process"], ["merge"], ["help"]] then .help else .usage)
    else .error .usage
  | .ok (_, []) => .error .usage

end CompilerHints
