import DesignToCode.CommandLine.Run

/-!
What a run of the command reads in a workspace.
-/

namespace DesignToCode.CommandLine

open Surroundings

namespace Session

variable {α β : Type}

@[simp] theorem bind_apply (first : StateM Session α) (next : α → StateM Session β)
    (session : Session) :
    (first >>= next) session = next (first session).1 (first session).2 := rfl

@[simp] theorem pure_apply (value : α) (session : Session) :
    (pure value : StateM Session α) session = (value, session) := rfl

@[simp] theorem look_apply (path : Path) (session : Session) :
    (look path : StateM Session _) session = (session.workspace.look path, session) := rfl

@[simp] theorem read_apply (path : Path) (session : Session) :
    (read path : StateM Session _) session = (session.workspace.read path, session) := rfl

@[simp] theorem print_apply (text : String) (session : Session) :
    (print text : StateM Session _) session =
      ((), { session with printed := session.printed ++ text }) := rfl

@[simp] theorem tell_apply (notice : Notice) (session : Session) :
    (tell notice : StateM Session _) session =
      ((), { session with told := session.told ++ [notice] }) := rfl

end Session

open Session (bind_apply pure_apply look_apply read_apply print_apply tell_apply)

def firstFile (workspace : Workspace) : List Path → Option (Except FileError String)
  | [] => none
  | path :: rest =>
    match workspace.look path with
    | some .file => some (workspace.read path)
    | _ => firstFile workspace rest

def configIn (workspace : Workspace) (options : Options) : Option (Except FileError String) :=
  match options.config with
  | some path => some (workspace.read path)
  | none => firstFile workspace standardConfigs

def inputFiles (workspace : Workspace) (options : Options) : List Path :=
  listFiles (options.inputs.map fun path => (path, workspace.look path))

def planIn (workspace : Workspace) (options : Options) : Plan :=
  Plan.of options (configIn workspace options)
    ((inputFiles workspace options).map fun path => (path, workspace.read path))

section

variable (session : Session)

theorem readFirst_eq (paths : List Path) :
    (readFirst paths : StateM Session _) session =
      (firstFile session.workspace paths, session) := by
  induction paths with
  | nil => rfl
  | cons path rest ih =>
      rw [readFirst, bind_apply, look_apply, firstFile]
      cases session.workspace.look path with
      | none => exact ih
      | some shape =>
          cases shape with
          | file => rfl
          | folder entries => exact ih

theorem readConfig_eq (options : Options) :
    (readConfig options : StateM Session _) session =
      (configIn session.workspace options, session) := by
  rw [readConfig, configIn]
  cases options.config with
  | none => exact readFirst_eq session standardConfigs
  | some path => rfl

theorem lookAll_eq (paths : List Path) :
    (lookAll paths : StateM Session _) session =
      (paths.map fun path => (path, session.workspace.look path), session) := by
  induction paths with
  | nil => rfl
  | cons path rest ih =>
      rw [lookAll, bind_apply, look_apply, bind_apply, ih]
      rfl

theorem readAll_eq (paths : List Path) :
    (readAll paths : StateM Session _) session =
      (paths.map fun path => (path, session.workspace.read path), session) := by
  induction paths with
  | nil => rfl
  | cons path rest ih =>
      rw [readAll, bind_apply, read_apply, bind_apply, ih]
      rfl

end

theorem tellAll_eq (notices : List Notice) (session : Session) :
    (tellAll notices : StateM Session _) session =
      ((), { session with told := session.told ++ notices }) := by
  induction notices generalizing session with
  | nil =>
      rw [List.append_nil]
      rfl
  | cons notice rest ih =>
      rw [tellAll, bind_apply, tell_apply, ih, List.append_assoc, List.singleton_append]

/-- A session once everything is decided and told, and nothing is written yet. -/
def decided (options : Options) (session : Session) : Session :=
  let plan := planIn session.workspace options
  { session with
    printed := session.printed ++ plan.printed options
    told := session.told ++ plan.notices options }

def finish (plan : Plan) (options : Options) : StateM Session Nat := do
  if plan.failure.isSome then return 1
  match ← deliver plan.settings (plan.deliveries options) with
  | some error =>
    tell (.failure error)
    return 1
  | none => return 0

theorem run_eq (options : Options) (session : Session) :
    (run options : StateM Session Nat) session =
      finish (planIn session.workspace options) options (decided options session) := by
  rw [run, bind_apply, readConfig_eq, bind_apply, lookAll_eq, bind_apply, readAll_eq]
  change ((do
    print ((planIn session.workspace options).printed options)
    tellAll ((planIn session.workspace options).notices options)
    finish (planIn session.workspace options) options) : StateM Session Nat) session = _
  rw [bind_apply, print_apply, bind_apply, tellAll_eq]
  rfl

theorem finish_of_failure {plan : Plan} (failed : plan.failure.isSome = true) (options : Options)
    (session : Session) : finish plan options session = (1, session) := by
  rw [finish, if_pos failed]
  rfl

theorem finish_of_plan {plan : Plan} (planned : plan.failure = none) (options : Options)
    (session : Session) :
    finish plan options session =
      match (deliver plan.settings (plan.deliveries options) : StateM Session _) session with
      | (some error, written) => (1, { written with told := written.told ++ [.failure error] })
      | (none, written) => (0, written) := by
  have writes : ¬plan.failure.isSome = true := by simp [planned]
  rw [finish, if_neg writes, bind_apply]
  rcases (deliver plan.settings (plan.deliveries options) : StateM Session _) session
    with ⟨_ | error, written⟩ <;> rfl

theorem runIn_eq {arguments : List String} {options : Options}
    (parsed : Invocation.ofArguments arguments = .run options) (workspace : Workspace) :
    runIn workspace arguments =
      let result := finish (planIn workspace options) options
        (decided options (Session.begin workspace))
      ⟨result.1, result.2⟩ := by
  rw [runIn, runCommand, parsed]
  dsimp only
  rw [run_eq]
  rfl

end DesignToCode.CommandLine
