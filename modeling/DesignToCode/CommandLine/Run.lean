import DesignToCode.CommandLine.Plan

/-!
A run of the command against anything that has files, and in particular against a workspace.
-/

namespace DesignToCode.CommandLine

/-- What a run asks of its surroundings. -/
class Surroundings (m : Type → Type) where
  look : Path → m (Option Shape)
  read : Path → m (Except FileError String)
  makeFolders : Path → m (Except FileError Unit)
  write : Path → String → m (Except FileError Unit)
  print : String → m Unit
  tell : Notice → m Unit

section

variable {m : Type → Type} [Monad m] [Surroundings m]

open Surroundings

def readFirst : List Path → m (Option (Except FileError String))
  | [] => pure none
  | path :: rest => do
    match ← look path with
    | some .file => return some (← read path)
    | _ => readFirst rest

def readConfig (options : Options) : m (Option (Except FileError String)) := do
  match options.config with
  | some path => return some (← read path)
  | none => readFirst standardConfigs

def lookAll : List Path → m (List (Path × Option Shape))
  | [] => pure []
  | path :: rest => do
    let shape ← look path
    return (path, shape) :: (← lookAll rest)

def readAll : List Path → m (List (Path × Except FileError String))
  | [] => pure []
  | path :: rest => do
    let content ← read path
    return (path, content) :: (← readAll rest)

def tellAll : List Notice → m Unit
  | [] => pure ()
  | notice :: rest => do
    tell notice
    tellAll rest

def writeFiles (folder : Path) : List OutputFile → m (Option RunError)
  | [] => pure none
  | file :: rest => do
    let path := folder.join file.name
    match ← write path file.content with
    | .error error => return some (.cannotWrite path error)
    | .ok () =>
      tell (.generated path)
      writeFiles folder rest

def deliver (settings : Settings) : List Artifacts → m (Option RunError)
  | [] => pure none
  | artifacts :: rest => do
    let folder := Plan.folderOf settings artifacts
    match ← makeFolders folder with
    | .error error => return some (.cannotCreate folder error)
    | .ok () =>
      match ← writeFiles folder artifacts.files with
      | some error => return some error
      | none => deliver settings rest

def run (options : Options) : m Nat := do
  let found ← readConfig options
  let shapes ← lookAll options.inputs
  let contents ← readAll (listFiles shapes)
  let plan := Plan.of options found contents
  print (plan.printed options)
  tellAll (plan.notices options)
  if plan.failure.isSome then return 1
  match ← deliver plan.settings (plan.deliveries options) with
  | some error =>
    tell (.failure error)
    return 1
  | none => return 0

def runCommand (arguments : List String) : m Nat := do
  match Invocation.ofArguments arguments with
  | .wrong error =>
    tell (.misuse error)
    return 2
  | .help =>
    print helpText
    return 0
  | .run options => run options

end

structure Session where
  workspace : Workspace
  printed : String
  told : List Notice

namespace Session

def begin (workspace : Workspace) : Session :=
  ⟨workspace, "", []⟩

def change (operation : Workspace → Except FileError Workspace) :
    StateM Session (Except FileError Unit) := fun session =>
  match operation session.workspace with
  | .ok workspace => (.ok (), { session with workspace })
  | .error error => (.error error, session)

instance : Surroundings (StateM Session) where
  look path := fun session => (session.workspace.look path, session)
  read path := fun session => (session.workspace.read path, session)
  makeFolders path := change fun workspace => workspace.makeFolders path
  write path text := change fun workspace => workspace.write path text
  print text := fun session => ((), { session with printed := session.printed ++ text })
  tell notice := fun session => ((), { session with told := session.told ++ [notice] })

end Session

structure Outcome where
  exitCode : Nat
  session : Session

def runIn (workspace : Workspace) (arguments : List String) : Outcome :=
  let result := (runCommand arguments : StateM Session Nat) (Session.begin workspace)
  ⟨result.1, result.2⟩

end DesignToCode.CommandLine
