import DesignToCode.CommandLine.Options
import DesignToCode.Component.Dump
import DesignToCode.Trace
import DesignToCode.Workspace

/-!
What a run does, decided from what it has read and before it writes anything.
-/

namespace DesignToCode.CommandLine

inductive RunError where
  | configUnreadable (error : FileError)
  | configInvalid (fault : Json.Fault)
  | noInputFiles
  | urlForSeveral
  | unreadable (path : Path) (error : FileError)
  | badInput (path : Path) (error : DesignError)
  | noLink (error : DesignError)
  | cannotCreate (path : Path) (error : FileError)
  | cannotWrite (path : Path) (error : FileError)
  deriving Repr

def RunError.message : RunError → String
  | .configUnreadable error => "cannot read config: " ++ error.message
  | .configInvalid fault => "invalid config JSON: " ++ DesignError.faultText fault
  | .noInputFiles => "no input files found"
  | .urlForSeveral => "--url applies to a single input; use --file-key for several"
  | .unreadable path error => "cannot read " ++ path.spelling ++ ": " ++ error.message
  | .badInput path error => path.spelling ++ ": " ++ error.message
  | .noLink error => error.message
  | .cannotCreate path error => "cannot create " ++ path.spelling ++ ": " ++ error.message
  | .cannotWrite path error => "cannot write " ++ path.spelling ++ ": " ++ error.message

inductive Notice where
  | event (event : Event)
  | generated (path : Path)
  | failure (error : RunError)
  | misuse (error : UsageError)
  deriving Repr

def harmless (c : Char) : String :=
  let n := c.toNat
  if n = 0x1B || n = 0x07 || n = 0x08 || n = 0x0C || n = 0x7F then
    "\\x" ++ String.ofList [Nat.digitChar (n / 16), Nat.digitChar (n % 16)]
  else if 0x80 ≤ n && n ≤ 0x9F then "\\u\x7b" ++ Text.hexText n ++ "\x7d"
  else c.toString

def Notice.text : Notice → String
  | .event found =>
    found.level.label ++ " " ++ found.target ++ ": " ++
      Text.join "" (found.message.toList.map harmless)
  | .generated path => "✓ " ++ path.spelling ++ " generated"
  | .failure error => "error: " ++ error.message
  | .misuse error => error.text

def standardConfigs : List Path :=
  [⟨"figma-codegen.config.json"⟩, ⟨"config/figma-codegen.config.json"⟩]

def settingsOf (options : Options) (found : Option (Except FileError String)) :
    Except RunError Settings :=
  let settings : Except RunError Settings :=
    match found with
    | none => .ok .standard
    | some (.error error) => .error (.configUnreadable error)
    | some (.ok text) =>
      match Settings.ofText text with
      | .ok settings => .ok settings
      | .error fault => .error (.configInvalid fault)
  settings.map fun settings =>
    match options.output with
    | some path => { settings with outputDirectory := path.spelling }
    | none => settings

/-- The link that a document's catalog shows: the one given, or one built from the file key and the
id of the node. -/
def linkFor (options : Options) (path : Path) (input : DesignInput) : Except DesignError String :=
  match options.url with
  | some url => if (DesignLink.parse? url).isSome then .ok url else .error (.invalidLink url)
  | none =>
    match options.fileKey, input.nodeId with
    | some key, some id => .ok (DesignLink.share key id)
    | _, _ => .error (.missingLink path.spelling)

inductive Product where
  | dump (text : String)
  | artifacts (artifacts : Artifacts)
  deriving DecidableEq, Repr

structure Made where
  product : Product
  events : List Event
  deriving DecidableEq, Repr

def make (options : Options) (settings : Settings) (path : Path)
    (content : Except FileError String) : Except RunError Made :=
  match content with
  | .error error => .error (.unreadable path error)
  | .ok text =>
    match DesignInput.ofText text with
    | .error fault => .error (.badInput path (.json fault))
    | .ok input =>
      match input.theDocument with
      | .error error => .error (.badInput path error)
      | .ok document =>
        if options.dump then
          .ok ⟨.dump (Component.ofNode document).dump, Trace.ofDocument document⟩
        else
          match linkFor options path input with
          | .error error => .error (.noLink error)
          | .ok url =>
            .ok ⟨.artifacts (Artifacts.generate document url settings),
              Trace.ofGeneration document url settings⟩

def makeAll (options : Options) (settings : Settings) :
    List (Path × Except FileError String) → List Made × Option RunError
  | [] => ([], none)
  | (path, content) :: rest =>
    match make options settings path content with
    | .error error => ([], some error)
    | .ok made =>
      let later := makeAll options settings rest
      (made :: later.1, later.2)

def refusal? (options : Options) (count : Nat) : Option RunError :=
  if count = 0 then some .noInputFiles
  else if options.url.isSome && 1 < count then some .urlForSeveral
  else none

structure Plan where
  made : List Made
  failure : Option RunError
  settings : Settings
  deriving Repr

namespace Plan

def of (options : Options) (found : Option (Except FileError String))
    (contents : List (Path × Except FileError String)) : Plan :=
  match settingsOf options found with
  | .error error => ⟨[], some error, .standard⟩
  | .ok settings =>
    match refusal? options contents.length with
    | some error => ⟨[], some error, settings⟩
    | none =>
      let all := makeAll options settings contents
      ⟨all.1, all.2, settings⟩

def artifacts (plan : Plan) : List Artifacts :=
  plan.made.filterMap fun made =>
    match made.product with
    | .artifacts artifacts => some artifacts
    | .dump _ => none

def dumps (plan : Plan) : List String :=
  plan.made.filterMap fun made =>
    match made.product with
    | .dump text => some text
    | .artifacts _ => none

def complete (plan : Plan) : List Artifacts :=
  if plan.failure.isSome then [] else plan.artifacts

def shownFile (file : OutputFile) : String :=
  "// ── " ++ file.name ++ " ──\n" ++ file.content

/-- Dumps are printed as they are made, files only when nothing has failed. -/
def printed (plan : Plan) (options : Options) : String :=
  Text.join "" (plan.dumps.map (· ++ "\n")) ++
    if options.toStdout then
      Text.join "" (plan.complete.flatMap fun artifacts => artifacts.files.map shownFile)
    else ""

def threshold (verbosity : Nat) : Level :=
  match verbosity with
  | 0 => .warn
  | 1 => .info
  | 2 => .debug
  | _ => .trace

def isTold (options : Options) (event : Event) : Bool :=
  (threshold options.verbosity).rank ≤ event.level.rank

def notices (plan : Plan) (options : Options) : List Notice :=
  ((plan.made.flatMap Made.events).filter (isTold options)).map .event ++
    (plan.failure.map .failure).toList

def deliveries (plan : Plan) (options : Options) : List Artifacts :=
  if options.toStdout then [] else plan.complete

def folderOf (settings : Settings) (artifacts : Artifacts) : Path :=
  (Path.mk settings.outputDirectory).join artifacts.name

end Plan

end DesignToCode.CommandLine
