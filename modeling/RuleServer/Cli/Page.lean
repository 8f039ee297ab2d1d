import RuleServer.Cli.CliOption

/-!
What the program prints about itself: its version, and its help in a short and in a full form.
-/

namespace RuleServer

inductive Page
  | summary
  | manual
  | version
deriving DecidableEq, Repr

namespace Page

def programName : String := "yarals"

def programVersion : String := "0.1.0"

def intro : String :=
  "YARA language server CLI - serves rule-file intelligence to editors over TCP\n\n" ++
    "Usage: " ++ programName ++ " [OPTIONS]\n\nOptions:\n"

def about (full : Bool) : CliOption → String
  | .config => "Path to configuration file"
  | .host => "Address to listen on, overriding the configuration file"
  | .port => "Port to listen on, overriding the configuration file"
  | .logLevel => "Logging level"
  | .logJson => "Output logs as JSON (for structured logging)"
  | .help => if full then "Print help (see a summary with '-h')" else "Print help (see more with '--help')"
  | .version => "Print version"

def more? : CliOption → Option String
  | .config => some
    ("If not specified, searches for yarals.toml in: 1. $YARALS_CONFIG environment variable " ++
      "2. Current directory 3. ~/.config/yarals/yarals.toml")
  | .logLevel => some "Valid values: trace, debug, info, warn, error"
  | _ => none

def notes (environment : List (String × String)) (o : CliOption) : List String :=
  (o.variableName?.map fun name =>
    "[env: " ++ name ++ "=" ++ (environment.lookup name).getD "" ++ "]").toList ++
  (o.standard?.map fun value => "[default: " ++ value ++ "]").toList

def head (o : CliOption) : String :=
  "  " ++ (match o.letter? with
    | some c => String.ofList ['-', c, ',', ' ']
    | none => "    ") ++ o.usage

def column : Nat :=
  (CliOption.all.map fun o => (head o).length).foldl max 0 + 2

def summaryLine (environment : List (String × String)) (o : CliOption) : String :=
  let left := head o
  left ++ String.ofList (List.replicate (column - left.length) ' ') ++
    " ".intercalate (about false o :: notes environment o) ++ "\n"

def indent : String := "          "

def manualEntry (environment : List (String × String)) (o : CliOption) : String :=
  let noted := match notes environment o with
    | [] => []
    | lines => [("\n" ++ indent).intercalate lines]
  head o ++ "\n" ++ indent ++
    ("\n" ++ indent ++ "\n" ++ indent).intercalate (about true o :: (more? o).toList ++ noted) ++ "\n"

def text (environment : List (String × String)) : Page → String
  | summary => intro ++ String.join (CliOption.all.map (summaryLine environment))
  | manual => intro ++ "\n".intercalate (CliOption.all.map (manualEntry environment))
  | version => programName ++ " " ++ programVersion ++ "\n"

end Page

end RuleServer
