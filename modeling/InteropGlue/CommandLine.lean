import InteropGlue.AccessBridge.Generate
/-!
# Command lines

The two programs: one turns a schema file into a source file, the other writes the source for the
Access Bridge.

* Options may stand before and after the one plain argument; after `--` every argument is plain.
* A value follows its option as the next argument, which then must not look like an option, or in
  the same argument: after `=`, and after the letter of a short option also directly.
* An argument has its effect in its turn: a request for help wins over what comes after it, and a
  misuse before it wins over the request.

## Main Definitions

* `Program` — the programs, with their texts.
* `Invocation`, `Program.parse` — what arguments ask for.
* `Report` — the exit code and the texts of a run.
* `Program.execute` — a run with arguments.
-/

namespace InteropGlue

/-- The programs. -/
inductive Program
  /-- Turns a schema file into a source file. -/
  | generator
  /-- Writes the source for the Access Bridge. -/
  | accessBridge
  deriving DecidableEq, Repr

/-- What arguments ask for. -/
inductive Invocation
  | help
  | version
  /-- Work with the plain argument and the value of the output option. -/
  | work (path : String) (output : Option String)
  | misuse
  deriving DecidableEq, Repr

namespace Program

/-- The name of a program. -/
def name : Program → String
  | .generator => "abgen"
  | .accessBridge => "jab-interop-gen"

/-- The answer to a request for the version. -/
def versionText (program : Program) : String := program.name ++ " 0.1.0\n"

/-- The lines of the answer to a request for help. -/
def helpLines : Program → List String
  | .generator =>
    ["Generate dual-surface P/Invoke interop glue from a declarative ABI schema",
      "",
      "Usage: abgen [OPTIONS] <SCHEMA>",
      "",
      "Arguments:",
      "  <SCHEMA>  Path to the schema TOML file",
      "",
      "Options:",
      "  -o, --output <OUTPUT>  Output file path (overrides the schema's `output.file`)",
      "  -h, --help             Print help",
      "  -V, --version          Print version"]
  | .accessBridge =>
    ["Generator that produces the Java Access Bridge interop source from access_bridge.toml",
      "",
      "Usage: jab-interop-gen <OUTPUT>",
      "",
      "Arguments:",
      "  <OUTPUT>  Destination C# file",
      "",
      "Options:",
      "  -h, --help     Print help",
      "  -V, --version  Print version"]

/-- The answer to a request for help. -/
def helpText (program : Program) : String := String.join (program.helpLines.map (· ++ "\n"))

/-- The program has an output option. -/
def hasOutput : Program → Bool
  | .generator => true
  | .accessBridge => false

end Program

/-! ### Arguments -/

/-- The arguments seen so far. -/
structure Seen where
  path : Option String
  output : Option String
  deriving DecidableEq, Repr

/-- What an argument leads to: the next argument, a value that the next argument must be, plain
arguments from here on, or a result. -/
inductive ArgumentStep
  | next (seen : Seen)
  | awaitOutput
  | plainOnly
  | finish (invocation : Invocation)

/-- An argument that looks like an option. -/
def looksLikeOption (arg : String) : Bool := arg.startsWith "-" && arg != "-"

/-- A value for the plain argument. There is one, and it is not empty. -/
def Seen.addPath (seen : Seen) (value : String) : ArgumentStep :=
  if seen.path.isSome ∨ value.isEmpty then .finish .misuse
  else .next { seen with path := some value }

/-- A value for the output option. There is one, and it is not empty. -/
def Seen.addOutput (seen : Seen) (value : String) : ArgumentStep :=
  if seen.output.isSome ∨ value.isEmpty then .finish .misuse
  else .next { seen with output := some value }

/-- The effect of an option with a long name, given without its dashes. -/
def Program.longOption (program : Program) (seen : Seen) (text : List Char) : ArgumentStep :=
  match String.ofList (text.takeWhile (· != '=')), text.dropWhile (· != '=') with
  | "help", [] => .finish .help
  | "version", [] => .finish .version
  | "output", [] => if program.hasOutput then .awaitOutput else .finish .misuse
  | "output", _ :: value =>
    if program.hasOutput then seen.addOutput (String.ofList value) else .finish .misuse
  | _, _ => .finish .misuse

/-- The effect of options with short names, given without their dash. -/
def Program.shortOptions (program : Program) (seen : Seen) (text : List Char) : ArgumentStep :=
  match text with
  | 'h' :: _ => .finish .help
  | 'V' :: _ => .finish .version
  | 'o' :: attached =>
    if program.hasOutput then
      match attached with
      | [] => .awaitOutput
      | '=' :: value => seen.addOutput (String.ofList value)
      | value => seen.addOutput (String.ofList value)
    else .finish .misuse
  | _ => .finish .misuse

/-- The effect of an argument. -/
def Program.step (program : Program) (seen : Seen) (arg : String) : ArgumentStep :=
  if looksLikeOption arg then
    match arg.toList with
    | ['-', '-'] => .plainOnly
    | '-' :: '-' :: text => program.longOption seen text
    | _ :: text => program.shortOptions seen text
    | [] => .finish .misuse
  else seen.addPath arg

/-- What arguments ask for, all of them plain. -/
def Seen.parsePlain (seen : Seen) : List String → Invocation
  | [] =>
    match seen.path with
    | some path => .work path seen.output
    | none => .misuse
  | arg :: rest =>
    match seen.addPath arg with
    | .next seen => seen.parsePlain rest
    | _ => .misuse

/-- What arguments ask for, after those seen so far. `awaiting` tells that the next one is the value
of the output option. -/
def Program.parseFrom (program : Program) (seen : Seen) (awaiting : Bool) : List String → Invocation
  | [] => if awaiting then .misuse else seen.parsePlain []
  | arg :: rest =>
    let step :=
      if awaiting then
        if looksLikeOption arg then .finish .misuse else seen.addOutput arg
      else program.step seen arg
    match step with
    | .next seen => program.parseFrom seen false rest
    | .awaitOutput => program.parseFrom seen true rest
    | .plainOnly => seen.parsePlain rest
    | .finish invocation => invocation

/-- What the arguments of a program ask for. -/
def Program.parse (program : Program) (args : List String) : Invocation :=
  program.parseFrom ⟨none, none⟩ false args

/-! ### Runs -/

/-- The exit code and the texts of a run. -/
structure Report where
  code : Nat
  stdout : String
  stderr : String
  deriving DecidableEq, Repr

/-- The text that reports a fault: what was attempted, and below it what went wrong. -/
def faultText (chain : List String) : String :=
  match chain with
  | [] => ""
  | [message] => "Error: " ++ message ++ "\n"
  | context :: causes =>
    let lines := (": ".intercalate causes).splitOn "\n"
    "Error: " ++ context ++ "\n\nCaused by:\n" ++
      String.join (lines.map fun line => "    " ++ line ++ "\n")

/-- The report of a fault. -/
def RunFault.report (fault : RunFault) : Report :=
  { code := 1, stdout := "", stderr := faultText fault.chain }

/-- The report of a run that went well. -/
def Program.success (program : Program) (path : String) : Report :=
  { code := 0
    stdout :=
      match program with
      | .generator => ""
      | .accessBridge => "Generated Access Bridge interop source at " ++ path ++ "\n"
    stderr := "" }

/-- The report of a misuse. -/
def Program.misuseReport (program : Program) : Report :=
  { code := 2
    stdout := ""
    stderr := "For more information, try '" ++ program.name ++ " --help'.\n" }

variable {m : Type → Type} [Monad m] [FileSystem m]

/-- The work of a program. -/
def Program.perform (program : Program) (path : String) (output : Option String) : Run m Unit :=
  match program with
  | .generator => discard (run path output)
  | .accessBridge => AccessBridge.generate path

/-- What a run comes to: its report, and the fault that ended it, if any. -/
structure Outcome where
  report : Report
  fault : Option RunFault

/-- A run with arguments. -/
def Program.execute (program : Program) (args : List String) : m Outcome := do
  match program.parse args with
  | .help => return ⟨{ code := 0, stdout := program.helpText, stderr := "" }, none⟩
  | .version => return ⟨{ code := 0, stdout := program.versionText, stderr := "" }, none⟩
  | .misuse => return ⟨program.misuseReport, none⟩
  | .work path output =>
    match ← (program.perform path output).run with
    | .ok () => return ⟨program.success path, none⟩
    | .error fault => return ⟨fault.report, some fault⟩

end InteropGlue
