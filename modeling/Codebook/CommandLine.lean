import Codebook.Command.Examine
import Codebook.Command.Serve
import Codebook.Text.Integer

/-!
# The command line

`CommandLine.parse` reads the arguments of the program: a command and its options. Long options are
written in full and may have their value after an equals sign; short ones may stand together, and a
value may follow at once. An option that takes one value takes the last one given.

A command that ran exits with zero, whatever came of it; arguments that cannot be read exit with
two.
-/

namespace Codebook.CommandLine

open Text

/-! ## Options -/

/-- The options of all commands. -/
inductive Key
  | directory | format | output | exclude | dotfiles | tests | section | ignoreFile | noIgnoreFile
  | port | help
  deriving DecidableEq, Repr

/-- The option is followed by a value. -/
def Key.takesValue : Key → Bool
  | .directory => true
  | .format => true
  | .output => true
  | .exclude => true
  | .section => true
  | .port => true
  | _ => false

/-- The options that a command knows, by their long and short names. -/
structure Options where
  long : List (String × Key)
  short : List (Char × Key)

/-- The options of the command that examines. -/
def examineOptions : Options where
  long := [("--directory", .directory), ("--format", .format), ("--output", .output),
    ("--exclude", .exclude), ("--include-dotfiles", .dotfiles), ("--include-test-files", .tests),
    ("--section", .section), ("--use-gitignore", .ignoreFile), ("--no-gitignore", .noIgnoreFile),
    ("--help", .help)]
  short := [('d', .directory), ('f', .format), ('o', .output), ('e', .exclude), ('s', .section)]

/-- The options of the command that serves at a port. -/
def serveOptions : Options where
  long := [("--port", .port), ("--help", .help)]
  short := [('p', .port)]

/-- The options of the command that serves over standard input and output, and of the program. -/
def helpOptions : Options where
  long := [("--help", .help)]
  short := []

/-! ## Reading options -/

/-- The options given, with their values, and the other arguments. -/
structure Given where
  options : List (Key × String)
  others : List String

/-- An option in front. -/
def Given.with (g : Given) (k : Key) (value : String) : Given :=
  { g with options := (k, value) :: g.options }

/-- What a group of short options needs: nothing more, or a value for its last one, which may follow
at once. -/
inductive Group
  | done (keys : List Key)
  | needs (keys : List Key) (last : Key) (value : Option String)

/-- The short options that stand together. -/
def group (o : Options) : List Char → Option Group
  | [] => some (.done [])
  | c :: cs =>
    match o.short.lookup c with
    | none => none
    | some k =>
      if k.takesValue then
        some (.needs [] k (if cs.isEmpty then none else some (String.ofList cs)))
      else
        match group o cs with
        | some (.done ks) => some (.done (k :: ks))
        | some (.needs ks last v) => some (.needs (k :: ks) last v)
        | none => none

/-- A long option and the value after its equals sign. -/
def cutEquals (arg : String) : String × Option String :=
  let cs := arg.toList
  let name := cs.takeWhile (· != '=')
  if name.length == cs.length then (arg, none)
  else (String.ofList name, some (String.ofList (cs.drop (name.length + 1))))

/-- What one argument is. -/
inductive Piece
  | other
  | stop
  | option (keys : List Key)
  | valued (keys : List Key) (last : Key) (value : Option String)
  | wrong

/-- One argument among the options of a command. -/
def piece (o : Options) (arg : String) : Piece :=
  if arg == "--" then .stop
  else if !arg.startsWith "-" || arg == "-" then .other
  else
    let (name, value) := cutEquals arg
    match o.long.lookup name with
    | some k =>
      if k.takesValue then .valued [] k value
      else if value.isSome then .wrong else .option [k]
    | none =>
      if arg.startsWith "--" then .wrong
      else
        match group o (arg.toList.drop 1) with
        | some (.done ks) => .option ks
        | some (.needs ks last v) => .valued ks last v
        | none => .wrong

/-- Options in front. -/
def Given.withAll (g : Given) (ks : List Key) : Given :=
  ks.foldr (fun k g => g.with k "") g

/-- The options and other arguments of a command. With `mixed` false the first other argument ends
the options. -/
def read (o : Options) (mixed : Bool) : List String → Option Given
  | [] => some ⟨[], []⟩
  | arg :: rest =>
    match piece o arg with
    | .stop => some ⟨[], rest⟩
    | .other =>
      if mixed then (read o mixed rest).map fun g => { g with others := arg :: g.others }
      else some ⟨[], arg :: rest⟩
    | .option ks => (read o mixed rest).map (·.withAll ks)
    | .valued ks last (some v) => (read o mixed rest).map fun g => (g.with last v).withAll ks
    | .valued ks last none =>
      match rest with
      | [] => none
      | v :: rest => (read o mixed rest).map fun g => (g.with last v).withAll ks
    | .wrong => none

/-! ## Commands -/

/-- The commands of the program. -/
inductive Command
  | examine (r : Command.Examine.Request)
  | serve (channel : Command.Serve.Channel)
  deriving DecidableEq, Repr

/-- What the arguments ask for. -/
inductive Invocation
  | run (c : Command)
  | help
  | misuse
  deriving DecidableEq, Repr

/-- The values given for an option, in order. -/
def Given.values (g : Given) (k : Key) : List String :=
  (g.options.filter (·.1 == k)).map (·.2)

/-- The last value given for an option. -/
def Given.last? (g : Given) (k : Key) : Option String :=
  (g.values k).getLast?

/-- The option is given. -/
def Given.has (g : Given) (k : Key) : Bool :=
  g.options.any (·.1 == k)

/-- The request that options ask for, if the format is one. -/
def examineRequest (g : Given) : Option Command.Examine.Request := do
  let format ← match g.last? .format with
    | none => some .markdown
    | some f => Document.Format.ofName? f
  let several := fun k => if g.has k then some (g.values k) else none
  let switches := g.options.filter fun x => x.1 == .ignoreFile || x.1 == .noIgnoreFile
  return {
    directory := (g.last? .directory).getD "."
    format
    outputFile := g.last? .output
    excluded := several .exclude
    includeDotfiles := g.has .dotfiles
    includeTests := g.has .tests
    sections := several .section
    useIgnoreFile := match switches.getLast? with
      | some (k, _) => k == .ignoreFile
      | none => true }

/-- What options and arguments ask of a command, once help is looked after. -/
def invoke (o : Options) (args : List String) (make : Given → Option Command) : Invocation :=
  match read o true args with
  | none => .misuse
  | some g =>
    if g.has .help then .help
    else if !g.others.isEmpty then .misuse
    else
      match make g with
      | some c => .run c
      | none => .misuse

/-- What the arguments of the program ask for. -/
def parse (args : List String) : Invocation :=
  match read helpOptions false args with
  | none => .misuse
  | some g =>
    if g.has .help then .help
    else
      match g.others with
      | "examine" :: rest => invoke examineOptions rest fun g => (examineRequest g).map .examine
      | "serve" :: rest =>
        invoke serveOptions rest fun g =>
          match g.last? .port with
          | none => some (.serve (.port Command.Serve.usualPort))
          | some p => (integer? p.toList).map fun n => .serve (.port n)
      | "serve-stdio" :: rest => invoke helpOptions rest fun _ => some (.serve .standard)
      | _ => .misuse

/-! ## Running -/

/-- The exit code of an exception that stopped the program, and what is printed with it. A request
to exit may name a code; one that names anything else prints it. -/
def exitOf (e : Live.Raised) : Int × String :=
  if e.kinds.contains "SystemExit" then
    match e.arguments with
    | [] => (0, "")
    | [.none] => (0, "")
    | [.int n] => (n, "")
    | [.bool b] => (if b then 1 else 0, "")
    | _ => (1, e.message ++ "\n")
  else if e.kinds.contains "KeyboardInterrupt" then (130, "")
  else (1, "")

/-- The status of a process that exits with a code: its last eight bits, all of them set for a code
that is no machine word. -/
def status (code : Int) : Nat :=
  if -0x8000000000000000 ≤ code && code < 0x8000000000000000 then (code % 256).toNat else 255

/-- What the program leaves behind, with the code that it exits with. -/
def run (registry : Registry) (server : Command.Serve.Server) (d : Disk) (args : List String)
    (s : Live.Store) : Command.Report :=
  match parse args with
  | .help => ⟨0, [], "", d, none⟩
  | .misuse => ⟨2, [], "", d, none⟩
  | .run (.examine r) =>
    let report := Command.Examine.run registry d r s
    match report.escaped with
    | none => { report with code := 0 }
    | some e =>
      let (code, shown) := exitOf e
      { report with code, output := report.output ++ shown }
  | .run (.serve channel) =>
    let result := Command.Serve.run channel server
    ⟨0, result.console, "", d, none⟩

end Codebook.CommandLine
