/-
This file reads the arguments of the command and decides what it prints.
-/
import Bitemporal.Json.Printer
import Bitemporal.Node.Client
import Bitemporal.Settings.Basic

namespace Bitemporal.CommandLine

/-- What the arguments ask for. -/
structure Options where
  uri : Option String
  config : Option String
  pretty : Bool
deriving DecidableEq, Repr

def Options.none : Options := ⟨.none, .none, false⟩

/-- The arguments ask for a run, for the version or for help, or they cannot be understood. -/
inductive Wish where
  | run (options : Options)
  | version
  | help
  | misuse
deriving DecidableEq, Repr

/-- The options that take a value. -/
inductive Valued where
  | uri
  | config
deriving DecidableEq, Repr

/-- A value is taken once, and the name of a file is not empty. -/
def Options.set (options : Options) (option : Valued) (value : String) : Option Options :=
  match option with
  | .uri => if options.uri.isSome then .none else some { options with uri := some value }
  | .config =>
      if options.config.isSome || value.isEmpty then .none
      else some { options with config := some value }

/-- A flag is given once. -/
def Options.setPretty (options : Options) : Option Options :=
  if options.pretty then .none else some { options with pretty := true }

/-- An argument that starts with a dash is no value, unless it is the dash alone. -/
def isValue (argument : String) : Bool :=
  argument == "-" || !(['-'].isPrefixOf argument.toList)

/-- What one argument comes to. -/
inductive Step where
  | proceed (options : Options)
  | await (options : Options) (option : Valued)
  | finish (wish : Wish)

def Step.ofOptions : Option Options → Step
  | some options => .proceed options
  | none => .finish .misuse

/-- The value of an attached option may follow an equals sign. -/
def attached : List Char → String
  | '=' :: value => String.ofList value
  | value => String.ofList value

/-- Letters behind a single dash are flags, up to an option that takes what is left as its value. -/
def shortStep (options : Options) : List Char → Step
  | [] => .proceed options
  | 'p' :: rest =>
      match options.setPretty with
      | some changed => shortStep changed rest
      | none => .finish .misuse
  | 'V' :: _ => .finish .version
  | 'h' :: _ => .finish .help
  | 'c' :: [] => .await options .config
  | 'c' :: value => .ofOptions (options.set .config (attached value))
  | _ => .finish .misuse

/-- A word behind two dashes, with its value if an equals sign is part of it. -/
def longStep (options : Options) (name : String) (value : Option String) : Step :=
  match name, value with
  | "uri", some given => .ofOptions (options.set .uri given)
  | "uri", none => .await options .uri
  | "config", some given => .ofOptions (options.set .config given)
  | "config", none => .await options .config
  | "pretty", none => .ofOptions options.setPretty
  | "version", none => .finish .version
  | "help", none => .finish .help
  | _, _ => .finish .misuse

/-- One argument that is not the value of the one before it. -/
def argumentStep (options : Options) (argument : String) : Step :=
  match argument.toList with
  | '-' :: '-' :: rest =>
      let name := String.ofList (rest.takeWhile (· != '='))
      match rest.dropWhile (· != '=') with
      | '=' :: value => longStep options name (some (String.ofList value))
      | _ => longStep options name none
  | '-' :: letter :: rest => shortStep options (letter :: rest)
  | _ => .finish .misuse

/-- Nothing may follow two dashes alone. -/
def wishAfter (options : Options) : List String → Wish
  | [] => .run options
  | "--" :: rest => if rest.isEmpty then .run options else .misuse
  | argument :: rest =>
      match argumentStep options argument with
      | .proceed changed => wishAfter changed rest
      | .finish wish => wish
      | .await kept option =>
          match rest with
          | [] => .misuse
          | value :: more =>
              if isValue value then
                match kept.set option value with
                | some changed => wishAfter changed more
                | none => .misuse
              else .misuse

/-- What the arguments ask for. -/
def wish (arguments : List String) : Wish := wishAfter .none arguments

/-- The file that settings are read from, and whether it has to exist. -/
def settingsFile (options : Options) : String × Bool :=
  match options.config with
  | some name => (name, true)
  | none => ("xtdb.toml", false)

/-- The address given as an argument comes before the one of the settings. -/
def address (options : Options) (settings : Settings) : String :=
  options.uri.getD settings.uri

/-- The query without blanks around it. -/
def call (query : String) : Call Json := Client.query (Blank.trim query) .latest

/-- The result in the form that was asked for, with a line end behind it. -/
def output (options : Options) (result : Json) : String :=
  (if options.pretty then result.prettyText else result.text) ++ "\n"

/-- The line that tells the version. -/
def versionLine : String := "xtdb 0.1.0\n"

/-- The lines that tell how the command is used. -/
def helpText : String :=
  "Reads a query from stdin, runs it against an XTDB node and prints the JSON result\n\n" ++
  "Usage: xtdb [OPTIONS]\n\n" ++
  "Options:\n" ++
  "      --uri <URI>        Node URI, overrides the configuration\n" ++
  "  -c, --config <CONFIG>  Configuration file (./xtdb.toml is read when present)\n" ++
  "  -p, --pretty           Pretty-print the output\n" ++
  "  -h, --help             Print help\n" ++
  "  -V, --version          Print version\n"

/-- What a finished command leaves behind. -/
structure Ending where
  exitCode : UInt8
  output : String
deriving DecidableEq, Repr

def success (output : String) : Ending := ⟨0, output⟩

/-- A command that fails prints nothing. -/
def failure : Ending := ⟨1, ""⟩

def misuse : Ending := ⟨2, ""⟩

/-- The files, the environment and the input that a command finds, the latter if it is text. -/
structure Surroundings where
  file : String → Option String
  environment : List (String × String)
  input : Option String

/-- What can fail before the query is sent: the address of the node and the text of the query. -/
def prepare (options : Options) (surroundings : Surroundings) : Outcome (String × String) := do
  let (name, required) := settingsFile options
  let settings ← Settings.load required (surroundings.file name) surroundings.environment
  match surroundings.input with
  | some text => return (address options settings, text)
  | none => throw .input

/-- The result decides how the command ends. -/
def ending (options : Options) : Outcome Json → Ending
  | .ok result => success (output options result)
  | .error _ => failure

/-- A command ends at once or after a conversation with the node under a base. -/
inductive Plan where
  | finished (ending : Ending)
  | ask (base : String) (exchange : Exchange Ending)

/-- A run that could be prepared asks the node. -/
def runPlan (options : Options) (surroundings : Surroundings) : Plan :=
  match prepare options surroundings with
  | .error _ => .finished failure
  | .ok (address, text) =>
      .ask (Client.base address) do
        let outcome ← (call text).run
        return ending options outcome

/-- The whole command. -/
def plan (arguments : List String) (surroundings : Surroundings) : Plan :=
  match wish arguments with
  | .version => .finished (success versionLine)
  | .help => .finished (success helpText)
  | .misuse => .finished misuse
  | .run options => runPlan options surroundings

end Bitemporal.CommandLine
