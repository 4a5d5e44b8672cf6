import DesignToCode.Workspace.Path

/-!
The arguments of the command: input paths and options in any order.
-/

namespace DesignToCode.CommandLine

structure Options where
  inputs : List Path
  url : Option String
  fileKey : Option String
  output : Option Path
  toStdout : Bool
  dump : Bool
  config : Option Path
  verbosity : Nat
  deriving DecidableEq, Repr, Inhabited

def Options.none : Options :=
  ⟨[], .none, .none, .none, false, false, .none, 0⟩

inductive UsageError where
  | unknown (argument : String)
  | missingValue (option : String)
  | unexpectedValue (option : String)
  | repeated (option : String)
  | emptyPath
  | noInputs
  deriving DecidableEq, Repr

def UsageError.message : UsageError → String
  | .unknown argument => "unexpected argument '" ++ argument ++ "' found"
  | .missingValue option => "a value is required for '" ++ option ++ "' but none was supplied"
  | .unexpectedValue option => "no value is allowed for '" ++ option ++ "'"
  | .repeated option => "the argument '" ++ option ++ "' cannot be used multiple times"
  | .emptyPath => "a path must not be empty"
  | .noInputs => "at least one input is required"

def usageLine : String :=
  "Usage: figma-codegen [OPTIONS] <INPUTS>..."

def UsageError.text (error : UsageError) : String :=
  "error: " ++ error.message ++ "\n\n" ++ usageLine ++ "\n\nFor more information, try '--help'."

def helpText : String :=
  "Figma Codegen: generate React components, CSS modules and Storybook stories from Figma node " ++
  "JSON\n\n" ++ usageLine ++ "\n\nArguments:\n" ++
  "  <INPUTS>...  Input JSON file(s) or directory: Figma `/nodes` responses or bare node " ++
  "documents\n\nOptions:\n" ++
  "      --url <URL>            Figma URL the input was fetched from (single input only)\n" ++
  "      --file-key <FILE_KEY>  Figma file key; the URL is built from it and each input's node " ++
  "id\n" ++
  "  -o, --output <OUTPUT>      Output root directory (default: from config or src/components)\n" ++
  "      --stdout               Print the generated files to stdout instead of writing them\n" ++
  "      --dump-ir              Print the parsed IR as JSON and exit\n" ++
  "      --config <CONFIG>      Config file path\n" ++
  "  -v, --verbose...           Increase log verbosity (-v info, -vv debug, -vvv trace)\n" ++
  "  -h, --help                 Print help\n"

inductive Invocation where
  | run (options : Options)
  | help
  | wrong (error : UsageError)
  deriving DecidableEq, Repr

inductive Valued where
  | url
  | fileKey
  | output
  | config
  deriving DecidableEq, Repr

def Valued.name : Valued → String
  | .url => "--url"
  | .fileKey => "--file-key"
  | .output => "--output"
  | .config => "--config"

inductive Switch where
  | toStdout
  | dump
  | verbose
  | help
  deriving DecidableEq, Repr

inductive LongOption where
  | valued (option : Valued)
  | switch (option : Switch)

def longOption? (name : List Char) : Option LongOption :=
  if name == "url".toList then some (.valued .url)
  else if name == "file-key".toList then some (.valued .fileKey)
  else if name == "output".toList then some (.valued .output)
  else if name == "config".toList then some (.valued .config)
  else if name == "stdout".toList then some (.switch .toStdout)
  else if name == "dump-ir".toList then some (.switch .dump)
  else if name == "verbose".toList then some (.switch .verbose)
  else if name == "help".toList then some (.switch .help)
  else none

abbrev Step := Except Invocation Options

def refuse (error : UsageError) : Step :=
  .error (.wrong error)

def path? (text : String) : Except Invocation Path :=
  if text.isEmpty then .error (.wrong .emptyPath) else .ok ⟨text⟩

def Options.assign (options : Options) (option : Valued) (value : String) : Step :=
  match option with
  | .url =>
    if options.url.isSome then refuse (.repeated option.name)
    else .ok { options with url := some value }
  | .fileKey =>
    if options.fileKey.isSome then refuse (.repeated option.name)
    else .ok { options with fileKey := some value }
  | .output =>
    if options.output.isSome then refuse (.repeated option.name)
    else (path? value).map fun path => { options with output := some path }
  | .config =>
    if options.config.isSome then refuse (.repeated option.name)
    else (path? value).map fun path => { options with config := some path }

/-- Only `verbose` may be repeated, and counts. -/
def Options.turnOn (options : Options) : Switch → Step
  | .toStdout =>
    if options.toStdout then refuse (.repeated "--stdout")
    else .ok { options with toStdout := true }
  | .dump =>
    if options.dump then refuse (.repeated "--dump-ir") else .ok { options with dump := true }
  | .verbose => .ok { options with verbosity := options.verbosity + 1 }
  | .help => .error .help

def Options.addInput (options : Options) (text : String) : Step :=
  (path? text).map fun path => { options with inputs := options.inputs ++ [path] }

/-- An argument that is read as options and cannot be a value; `-` by itself can. -/
def looksLikeOption (argument : String) : Bool :=
  match argument.toList with
  | '-' :: _ :: _ => true
  | _ => false

def readShort (options : Options) : List Char → Except Invocation (Options × Option Valued)
  | [] => .ok (options, none)
  | 'v' :: rest =>
    match options.turnOn .verbose with
    | .ok next => readShort next rest
    | .error stop => .error stop
  | 'h' :: _ => .error .help
  | ['o'] => .ok (options, some .output)
  | 'o' :: '=' :: value => (options.assign .output (String.ofList value)).map (·, none)
  | 'o' :: value => (options.assign .output (String.ofList value)).map (·, none)
  | c :: _ => .error (.wrong (.unknown ("-" ++ c.toString)))

def splitLong (text : List Char) : List Char × Option String :=
  match text.dropWhile (· != '=') with
  | _ :: value => (text.takeWhile (· != '='), some (String.ofList value))
  | [] => (text, none)

/-- Reads one argument; `some` option still waits for its value. -/
def readArgument (options : Options) (argument : String) :
    Except Invocation (Options × Option Valued) :=
  match argument.toList with
  | '-' :: '-' :: text =>
    let (name, value) := splitLong text
    match longOption? name, value with
    | some (.valued option), some value => (options.assign option value).map (·, none)
    | some (.valued option), none => .ok (options, some option)
    | some (.switch option), none => (options.turnOn option).map (·, none)
    | some (.switch _), some _ => .error (.wrong (.unexpectedValue argument))
    | none, _ => .error (.wrong (.unknown argument))
  | '-' :: first :: rest => readShort options (first :: rest)
  | _ => (options.addInput argument).map (·, none)

def readInputs (options : Options) : List String → Step
  | [] => .ok options
  | argument :: rest =>
    match options.addInput argument with
    | .ok next => readInputs next rest
    | .error stop => .error stop

def readArguments (options : Options) : List String → Step
  | [] => .ok options
  | argument :: rest =>
    if argument == "--" then readInputs options rest
    else
      match readArgument options argument, rest with
      | .error stop, _ => .error stop
      | .ok (next, none), rest => readArguments next rest
      | .ok (_, some option), [] => refuse (.missingValue option.name)
      | .ok (next, some option), value :: rest =>
        if looksLikeOption value then refuse (.missingValue option.name)
        else
          match next.assign option value with
          | .ok next => readArguments next rest
          | .error stop => .error stop

def Invocation.ofArguments (arguments : List String) : Invocation :=
  match readArguments .none arguments with
  | .error stop => stop
  | .ok options => if options.inputs.isEmpty then .wrong .noInputs else .run options

end DesignToCode.CommandLine
