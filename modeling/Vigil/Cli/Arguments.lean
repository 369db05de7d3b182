/-!
# Cli — Arguments

The arguments of the command line.  Options for all commands stand before the command; `parse`
reads them from left to right, and the first mistake or request for help decides.
-/

namespace Vigil.Cli

/-- How the log is written. -/
inductive LogFormat where
  | text
  | json
  deriving DecidableEq, Repr

/-- What the program is to do. -/
inductive Command where
  /-- Run the diagnostics until a signal ends them. -/
  | run
  /-- Show what earlier sessions left. -/
  | status (json : Bool)
  deriving DecidableEq, Repr

/-- The arguments of a proper call. -/
structure Arguments where
  configPath : String
  logFormat : LogFormat
  command : Command
  deriving DecidableEq, Repr

/-- What the program can explain. -/
inductive Topic where
  | program
  | run
  | status
  | version
  deriving DecidableEq, Repr

/-- What the arguments ask for. -/
inductive Request where
  | execute (args : Arguments)
  | explain (topic : Topic)
  /-- The call is a mistake. -/
  | misuse
  deriving DecidableEq, Repr

/-- The name of the program. -/
def programName : String := "whisperer-diag"

/-- The version of the program. -/
def programVersion : String := "0.3.0"

/-- The explanation of a topic. -/
def Topic.text : Topic → String
  | program =>
    "Whisperer runtime diagnostics\n\n" ++
    "Usage: " ++ programName ++ " [OPTIONS] --config <CONFIG> <COMMAND>\n\n" ++
    "Commands:\n" ++
    "  run     Host the diagnostics subsystem until Ctrl-C or SIGTERM\n" ++
    "  status  Report the marker and crash log state left by previous sessions\n" ++
    "  help    Print this message or the help of the given subcommand(s)\n\n" ++
    "Options:\n" ++
    "      --config <CONFIG>          Path to the TOML configuration file\n" ++
    "      --log-format <LOG_FORMAT>  " ++
    "Log output format (text or json) [default: text] [possible values: text, json]\n" ++
    "  -h, --help                     Print help\n" ++
    "  -V, --version                  Print version\n"
  | run =>
    "Host the diagnostics subsystem until Ctrl-C or SIGTERM\n\n" ++
    "Usage: " ++ programName ++ " --config <CONFIG> run\n\n" ++
    "Options:\n" ++
    "  -h, --help  Print help\n"
  | status =>
    "Report the marker and crash log state left by previous sessions\n\n" ++
    "Usage: " ++ programName ++ " --config <CONFIG> status [OPTIONS]\n\n" ++
    "Options:\n" ++
    "      --json  Print machine-readable JSON\n" ++
    "  -h, --help  Print help\n"
  | version => programName ++ " " ++ programVersion ++ "\n"

/-- The options that were read so far. -/
structure Options where
  configPath : Option String := none
  logFormat : Option LogFormat := none
  deriving DecidableEq, Repr

/-- Reads a log format. -/
def LogFormat.ofName? (name : String) : Option LogFormat :=
  if name = "text" then some .text
  else if name = "json" then some .json
  else none

/-- Whether an argument can only be an option. -/
def looksLikeOption (arg : String) : Bool := arg.startsWith "-" && arg ≠ "-"

/-- Takes in the path of the configuration, which is given once and is not empty. -/
def Options.setConfig (o : Options) (path : String) : Option Options :=
  if o.configPath.isSome || path.isEmpty then none else some { o with configPath := some path }

/-- Takes in the log format, which is given once. -/
def Options.setLogFormat (o : Options) (name : String) : Option Options :=
  match o.logFormat, LogFormat.ofName? name with
  | none, some format => some { o with logFormat := some format }
  | _, _ => none

/-- A call that is proper if the configuration is named. -/
def Options.request (o : Options) (command : Command) : Request :=
  match o.configPath with
  | some configPath => .execute ⟨configPath, o.logFormat.getD .text, command⟩
  | none => .misuse

/-- Reads what follows the command to run. -/
def parseRun (o : Options) : List String → Request
  | [] | ["--"] => o.request .run
  | arg :: _ => if arg = "--help" || arg.startsWith "-h" then .explain .run else .misuse

/-- Reads what follows the command about the status. -/
def parseStatus (o : Options) (json : Bool) : List String → Request
  | [] | ["--"] => o.request (.status json)
  | arg :: rest =>
    if arg = "--json" && !json then parseStatus o true rest
    else if arg = "--help" || arg.startsWith "-h" then .explain .status
    else .misuse

/-- Reads what follows the command for help. -/
def parseHelp : List String → Request
  | [] => .explain .program
  | ["run"] => .explain .run
  | ["status"] => .explain .status
  | _ => .misuse

/-- The value of an option of the form `name=value`. -/
def attached? (name arg : String) : Option String :=
  if arg.startsWith (name ++ "=") then
    some (String.ofList (arg.toList.drop (name.length + 1)))
  else none

/-- Reads options and then a command. -/
def parseFrom (o : Options) : List String → Request
  | [] => .misuse
  | "run" :: rest => parseRun o rest
  | "status" :: rest => parseStatus o false rest
  | "help" :: rest => parseHelp rest
  | "--config" :: value :: rest =>
    if looksLikeOption value then .misuse
    else match o.setConfig value with
      | some o => parseFrom o rest
      | none => .misuse
  | "--log-format" :: value :: rest =>
    if looksLikeOption value then .misuse
    else match o.setLogFormat value with
      | some o => parseFrom o rest
      | none => .misuse
  | arg :: rest =>
    if arg = "--help" || arg.startsWith "-h" then .explain .program
    else if arg = "--version" || arg.startsWith "-V" then .explain .version
    else
      let o := match attached? "--config" arg with
        | some value => o.setConfig value
        | none => (attached? "--log-format" arg).bind o.setLogFormat
      match o with
      | some o => parseFrom o rest
      | none => .misuse

/-- Reads the arguments of a call. -/
def parse (args : List String) : Request := parseFrom {} args

end Vigil.Cli
