import ScaffoldRunner.CommandLine.Arguments
import ScaffoldRunner.Text.Basic

/-!
# What a command line asks for

The program runs a scaffold, lists what is registered, or checks the configuration. Options of the
whole program stand before the command.
-/

namespace ScaffoldRunner

inductive Listing where
  | scaffolds
  | frames
  deriving DecidableEq, Repr

/-- What the program is asked to do. -/
inductive Request where
  | run (scaffold : String) (input : Option String)
  | list (what : Listing)
  | checkConfig (shows : Bool)
  deriving DecidableEq, Repr

structure CommandLine where
  configPath : Option String
  verbose : Bool
  request : Request
  deriving DecidableEq, Repr

/-- A command line that is answered without doing anything. -/
inductive CommandLineStop where
  /-- What was asked for is a text. -/
  | shown (text : String)
  /-- The command line cannot be followed. -/
  | refused (text : String)
  deriving DecidableEq, Repr

namespace CommandLine

def versionText : String := "octospine 0.1.0"

def helpOption : OptionSpec := ⟨some 'h', "help", .help⟩

def programSpec : CommandSpec where
  options := [⟨some 'c', "config", .value false⟩, ⟨some 'v', "verbose", .counted⟩, helpOption,
    ⟨some 'V', "version", .version⟩]
  subcommands := ["run", "list", "config", "help"]

/-- What the command takes that runs a scaffold. -/
def runSpec : CommandSpec where
  options := [⟨some 's', "scaffold", .value true⟩, ⟨some 'i', "input", .value true⟩, helpOption]

def listings : List (String × Listing) := [("scaffolds", .scaffolds), ("frames", .frames)]

def listSpec : CommandSpec where
  options := [helpOption]
  operands := [listings.map (·.1)]

/-- What the command takes that checks the configuration. -/
def configSpec : CommandSpec where
  options := [⟨none, "show", .once⟩, helpOption]

def programHelp : List String :=
  ["Run scaffolds of external frames through a ten-stage pipeline", "",
    "Usage: octospine [OPTIONS] <COMMAND>", "", "Commands:", "  run     Execute a scaffold",
    "  list    List registered scaffolds or frames", "  config  Validate configuration",
    "  help    Print this message or the help of the given subcommand(s)", "", "Options:",
    "  -c, --config <FILE>  Configuration file path", "  -v, --verbose...     Verbose logging",
    "  -h, --help           Print help", "  -V, --version        Print version"]

def runHelp : List String :=
  ["Execute a scaffold", "", "Usage: octospine run [OPTIONS] --scaffold <SCAFFOLD>", "",
    "Options:", "  -s, --scaffold <SCAFFOLD>  Scaffold id",
    "  -i, --input <JSON>         Input data as a JSON object",
    "  -h, --help                 Print help"]

def listHelp : List String :=
  ["List registered scaffolds or frames", "", "Usage: octospine list <WHAT>", "", "Arguments:",
    "  <WHAT>  [possible values: scaffolds, frames]", "", "Options:", "  -h, --help  Print help"]

def configHelp : List String :=
  ["Validate configuration", "", "Usage: octospine config [OPTIONS]", "", "Options:",
    "      --show  Show current configuration", "  -h, --help  Print help"]

def helpHelp : List String :=
  ["Print this message or the help of the given subcommand(s)", "",
    "Usage: octospine help [COMMAND]...", "", "Arguments:",
    "  [COMMAND]...  Print help for the subcommand(s)"]

def helpOn? (command : String) : Option (List String) :=
  Dict.get? [("run", runHelp), ("list", listHelp), ("config", configHelp), ("help", helpHelp)]
    command

/-- The text of an error in a command line. -/
def refusal (reason : String) : CommandLineStop :=
  .refused ("error: " ++ reason ++ "\n\nFor more information, try '--help'.")

/-- What comes of a command whose arguments stopped the reading. -/
def stopOf (help : List String) : ArgumentStop → CommandLineStop
  | .help => .shown (Text.join "\n" help)
  | .version => .shown versionText
  | .refused reason => refusal reason

def arguments (spec : CommandSpec) (help : List String) (args : List String) :
    Except CommandLineStop Arguments :=
  (Arguments.read spec args).mapError (stopOf help)

def readRequest (command : String) (args : List String) : Except CommandLineStop Request := do
  match command with
  | "run" =>
      let found ← arguments runSpec runHelp args
      match found.values.get? "scaffold" with
      | some scaffold => return .run scaffold (found.values.get? "input")
      | none =>
          throw (refusal
            "the following required arguments were not provided:\n  --scaffold <SCAFFOLD>")
  | "list" =>
      let found ← arguments listSpec listHelp args
      match (found.operands.head?).bind (Dict.get? listings) with
      | some what => return .list what
      | none => throw (refusal "the following required arguments were not provided:\n  <WHAT>")
  | "config" =>
      let found ← arguments configSpec configHelp args
      return .checkConfig (found.count "show" ≠ 0)
  | _ =>
      match args with
      | [] => throw (.shown (Text.join "\n" programHelp))
      | [other] =>
          match helpOn? other with
          | some help => throw (.shown (Text.join "\n" help))
          | none => throw (refusal ("unrecognized subcommand '" ++ other ++ "'"))
      | _ :: other :: _ => throw (refusal ("unrecognized subcommand '" ++ other ++ "'"))

def read (args : List String) : Except CommandLineStop CommandLine := do
  let found ← arguments programSpec programHelp args
  match found.subcommand with
  | some (command, args) =>
      let request ← readRequest command args
      return {
        configPath := found.values.get? "config"
        verbose := found.count "verbose" ≠ 0
        request := request }
  | none =>
      if args.isEmpty then throw (.refused (Text.join "\n" programHelp))
      else throw (refusal "'octospine' requires a subcommand but one was not provided")

end CommandLine

end ScaffoldRunner
