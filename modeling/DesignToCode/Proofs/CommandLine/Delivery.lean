import DesignToCode.Proofs.CommandLine.Obstacles
import DesignToCode.Proofs.Workspace.Writing
import Mathlib.Data.List.Forall2
import Mathlib.Data.List.Nodup

/-!
What a run leaves behind: every path that it tells leads to what was written there last.
-/

namespace DesignToCode.CommandLine

open Surroundings
open Session (bind_apply pure_apply tell_apply)

def placed (folder : Path) (file : OutputFile) : Path × String :=
  (folder.join file.name, file.content)

def placedFiles (settings : Settings) (artifacts : List Artifacts) : List (Path × String) :=
  artifacts.flatMap fun each => each.files.map (placed (Plan.folderOf settings each))

/-- The path of a written file leads to the last of the files that were written there. -/
structure LeadsTo (workspace : Workspace) (written : List (Path × String)) (path : Path)
    (last : Path × String) (location : List String) : Prop where
  located : workspace.locate path = .ok location
  lastLocated : workspace.locate last.1 = .ok location
  isLast : ∃ before later, written = before ++ last :: later ∧
    ∀ other ∈ later, workspace.locate other.1 ≠ .ok location
  content : workspace.root.at? location = some (.file (.text last.2))

def LastWins (workspace : Workspace) (written : List (Path × String)) : Prop :=
  ∀ file ∈ written, ∃ last location, LeadsTo workspace written file.1 last location

section

variable {workspace after : Workspace} {written : List (Path × String)}

theorem locate_ne_of_grows (grows : workspace.Grows after) (wins : LastWins workspace written)
    {other : Path × String} (isWritten : other ∈ written) {location : List String}
    (elsewhere : workspace.locate other.1 ≠ .ok location) :
    after.locate other.1 ≠ .ok location := by
  obtain ⟨last, place, leads⟩ := wins other isWritten
  rw [grows.locate leads.located]
  rwa [leads.located] at elsewhere

theorem LeadsTo.grows (grows : workspace.Grows after) (wins : LastWins workspace written)
    {path : Path} {last : Path × String} {location : List String}
    (leads : LeadsTo workspace written path last location)
    (kept : after.root.at? location = some (.file (.text last.2))) :
    LeadsTo after written path last location := by
  obtain ⟨before, later, split, elsewhere⟩ := leads.isLast
  refine ⟨grows.locate leads.located, grows.locate leads.lastLocated, ⟨before, later, split, ?_⟩,
    kept⟩
  intro other isLater
  have isWritten : other ∈ written := by
    rw [split]
    exact List.mem_append_right _ (List.mem_cons_of_mem _ isLater)
  exact locate_ne_of_grows grows wins isWritten (elsewhere other isLater)

theorem lastWins_makeFolders (wins : LastWins workspace written) {path : Path}
    (made : workspace.makeFolders path = .ok after) : LastWins after written := by
  obtain ⟨grows, keeps⟩ := Workspace.grows_makeFolders made
  intro file isWritten
  obtain ⟨last, location, leads⟩ := wins file isWritten
  exact ⟨last, location, leads.grows grows wins (keeps location _ leads.content)⟩

theorem lastWins_write (wins : LastWins workspace written) {path : Path} {text : String}
    (wrote : workspace.write path text = .ok after) :
    LastWins after (written ++ [(path, text)]) := by
  obtain ⟨grows, target, located, content, elsewhere⟩ := Workspace.grows_write wrote
  have isLast : ∃ before later, written ++ [(path, text)] = before ++ (path, text) :: later ∧
      ∀ other ∈ later, after.locate other.1 ≠ .ok target := by
    refine ⟨written, [], rfl, ?_⟩
    intro other impossible
    cases impossible
  intro file isWritten
  rcases List.mem_append.mp isWritten with old | new
  · obtain ⟨last, location, leads⟩ := wins file old
    by_cases same : location = target
    · subst location
      exact ⟨(path, text), target, grows.locate leads.located, located, isLast, content⟩
    · have stays := leads.grows grows wins (elsewhere location _ same leads.content)
      obtain ⟨before, later, split, apart⟩ := stays.isLast
      refine ⟨last, location, stays.located, stays.lastLocated,
        ⟨before, later ++ [(path, text)], by rw [split]; simp, ?_⟩, stays.content⟩
      intro other found
      rcases List.mem_append.mp found with isLater | isNew
      · exact apart other isLater
      · rw [List.mem_singleton.mp isNew, located]
        exact fun equal => same (Except.ok.inj equal).symm
  · rw [List.mem_singleton.mp new]
    exact ⟨(path, text), target, located, located, isLast, content⟩

end

theorem writeFiles_cons_eq_none {folder : Path} {file : OutputFile} {rest : List OutputFile}
    {session after : Session}
    (succeeded : (writeFiles folder (file :: rest) : StateM Session _) session = (none, after)) :
    ∃ workspace, session.workspace.write (folder.join file.name) file.content = .ok workspace ∧
      (writeFiles folder rest : StateM Session _)
        { session with
          workspace, told := session.told ++ [.generated (folder.join file.name)] } =
        (none, after) := by
  rw [writeFiles, bind_apply] at succeeded
  simp only [write, Session.change] at succeeded
  cases wrote : session.workspace.write (folder.join file.name) file.content with
  | error error =>
      rw [wrote] at succeeded
      cases succeeded
  | ok workspace =>
      rw [wrote] at succeeded
      exact ⟨workspace, rfl, succeeded⟩

theorem deliver_cons_eq_none {settings : Settings} {first : Artifacts} {rest : List Artifacts}
    {session after : Session}
    (succeeded : (deliver settings (first :: rest) : StateM Session _) session = (none, after)) :
    ∃ workspace middle,
      session.workspace.makeFolders (Plan.folderOf settings first) = .ok workspace ∧
      (writeFiles (Plan.folderOf settings first) first.files : StateM Session _)
        { session with workspace } = (none, middle) ∧
      (deliver settings rest : StateM Session _) middle = (none, after) := by
  rw [deliver, bind_apply] at succeeded
  simp only [makeFolders, Session.change] at succeeded
  cases made : session.workspace.makeFolders (Plan.folderOf settings first) with
  | error error =>
      rw [made] at succeeded
      cases succeeded
  | ok workspace =>
      rw [made] at succeeded
      dsimp only at succeeded
      rw [bind_apply] at succeeded
      rcases wrote : (writeFiles (Plan.folderOf settings first) first.files : StateM Session _)
        { session with workspace } with ⟨_ | error, middle⟩
      · rw [wrote] at succeeded
        exact ⟨workspace, middle, rfl, wrote, succeeded⟩
      · rw [wrote] at succeeded
        cases succeeded

theorem writeFiles_of_success {folder : Path} {files : List OutputFile} {session after : Session}
    {written : List (Path × String)} (wins : LastWins session.workspace written)
    (succeeded : (writeFiles folder files : StateM Session _) session = (none, after)) :
    LastWins after.workspace (written ++ files.map (placed folder)) ∧
      after.told = session.told ++ (files.map (placed folder)).map fun file =>
        .generated file.1 := by
  induction files generalizing session written with
  | nil =>
      cases succeeded
      simpa using wins
  | cons file rest ih =>
      obtain ⟨workspace, wrote, later⟩ := writeFiles_cons_eq_none succeeded
      obtain ⟨restWins, told⟩ := ih (lastWins_write wins wrote) later
      rw [List.append_assoc] at restWins told
      exact ⟨restWins, told⟩

theorem deliver_of_success {settings : Settings} {artifacts : List Artifacts}
    {session after : Session} {written : List (Path × String)}
    (wins : LastWins session.workspace written)
    (succeeded : (deliver settings artifacts : StateM Session _) session = (none, after)) :
    LastWins after.workspace (written ++ placedFiles settings artifacts) ∧
      after.told = session.told ++ (placedFiles settings artifacts).map fun file =>
        .generated file.1 := by
  induction artifacts generalizing session written with
  | nil =>
      cases succeeded
      simpa [placedFiles] using wins
  | cons first rest ih =>
      obtain ⟨workspace, middle, made, wrote, later⟩ := deliver_cons_eq_none succeeded
      obtain ⟨firstWins, firstTold⟩ := writeFiles_of_success (lastWins_makeFolders wins made) wrote
      obtain ⟨restWins, restTold⟩ := ih firstWins later
      rw [List.append_assoc] at restWins
      rw [firstTold, List.append_assoc, ← List.map_append] at restTold
      exact ⟨restWins, restTold⟩

theorem delivery_of_success {workspace : Workspace} {arguments : List String} {options : Options}
    (parsed : Invocation.ofArguments arguments = .run options)
    (success : (runIn workspace arguments).exitCode = 0) :
    (planIn workspace options).failure = none ∧
      (deliver (planIn workspace options).settings ((planIn workspace options).deliveries options) :
        StateM Session _) (decided options (Session.begin workspace)) =
          (none, (runIn workspace arguments).session) := by
  rw [runIn_eq parsed] at success ⊢
  dsimp only at success ⊢
  cases planned : (planIn workspace options).failure with
  | some error =>
      rw [finish_of_failure (by rw [planned]; rfl)] at success
      cases success
  | none =>
      refine ⟨rfl, ?_⟩
      change _ = (none, (finish (planIn workspace options) options
        (decided options (Session.begin workspace))).2)
      rw [finish_of_plan planned] at success ⊢
      rcases delivered : (deliver (planIn workspace options).settings
        ((planIn workspace options).deliveries options) : StateM Session _)
        (decided options (Session.begin workspace)) with ⟨_ | error, written⟩
      · rfl
      · rw [delivered] at success
        cases success

theorem made_of_makeAll {options : Options} {settings : Settings}
    {contents : List (Path × Except FileError String)}
    (succeeded : (makeAll options settings contents).2 = none) :
    List.Forall₂ (fun entry made => make options settings entry.1 entry.2 = .ok made) contents
      (makeAll options settings contents).1 := by
  induction contents with
  | nil => exact .nil
  | cons entry rest ih =>
      obtain ⟨path, content⟩ := entry
      rw [makeAll] at succeeded ⊢
      cases made : make options settings path content with
      | error error =>
          rw [made] at succeeded
          cases succeeded
      | ok product =>
          rw [made] at succeeded
          exact .cons made (ih succeeded)

theorem plan_of_no_failure {options : Options} {found : Option (Except FileError String)}
    {contents : List (Path × Except FileError String)}
    (planned : (Plan.of options found contents).failure = none) :
    settingsOf options found = .ok (Plan.of options found contents).settings ∧
      List.Forall₂ (fun entry made => make options (Plan.of options found contents).settings
        entry.1 entry.2 = .ok made) contents (Plan.of options found contents).made := by
  rcases plan_cases options found contents with
    ⟨_, plan⟩ | ⟨_, _, plan⟩ | ⟨settings, chosen, plan⟩ <;> rw [plan] at planned ⊢
  · cases planned
  · cases planned
  · exact ⟨chosen, made_of_makeAll planned⟩

theorem generates_of_made {workspace : Workspace} {options : Options} {settings : Settings}
    (forFiles : options.dump = false) {paths : List Path} {plan : Plan}
    (each : List.Forall₂ (fun path made =>
      make options settings path (workspace.read path) = .ok made) paths plan.made) :
    List.Forall₂ (Generates workspace options settings) paths plan.artifacts := by
  rw [Plan.artifacts]
  generalize plan.made = all at each
  induction each with
  | nil => exact .nil
  | cons isMade _ ih =>
      obtain ⟨artifacts, product, generates⟩ := generates_of_make forFiles isMade
      simp only [List.filterMap_cons, product]
      exact .cons generates ih

theorem generates_of_plan {workspace : Workspace} {options : Options}
    (planned : (planIn workspace options).failure = none) (forFiles : options.dump = false) :
    settingsOf options (configIn workspace options) = .ok (planIn workspace options).settings ∧
      List.Forall₂ (Generates workspace options (planIn workspace options).settings)
        (inputFiles workspace options) (planIn workspace options).artifacts := by
  obtain ⟨chosen, each⟩ := plan_of_no_failure planned
  rw [List.forall₂_map_left_iff] at each
  exact ⟨chosen, generates_of_made forFiles each⟩

theorem lastWins_of_success {workspace : Workspace} {arguments : List String} {options : Options}
    (parsed : Invocation.ofArguments arguments = .run options)
    (toFiles : options.toStdout = false) (success : (runIn workspace arguments).exitCode = 0) :
    let plan := planIn workspace options
    let files := placedFiles plan.settings plan.artifacts
    LastWins (runIn workspace arguments).session.workspace files ∧
      (runIn workspace arguments).session.told =
        (decided options (Session.begin workspace)).told ++
          files.map fun file => .generated file.1 := by
  obtain ⟨planned, delivered⟩ := delivery_of_success parsed success
  have deliveries : (planIn workspace options).deliveries options =
      (planIn workspace options).artifacts := by
    rw [Plan.deliveries, toFiles, Plan.complete, planned]
    rfl
  rw [deliveries] at delivered
  have nothing : LastWins (decided options (Session.begin workspace)).workspace [] := by
    intro file impossible
    cases impossible
  exact deliver_of_success nothing delivered

def Collide (workspace : Workspace) (first second : Path × String) : Prop :=
  workspace.locate first.1 = workspace.locate second.1

theorem read_of_lastWins {workspace : Workspace} {written : List (Path × String)}
    (wins : LastWins workspace written) {file : Path × String} (isWritten : file ∈ written) :
    ∃ last ∈ written, Collide workspace file last ∧ workspace.read file.1 = .ok last.2 := by
  obtain ⟨last, location, leads⟩ := wins file isWritten
  obtain ⟨before, later, split, _⟩ := leads.isLast
  refine ⟨last, ?_, leads.located.trans leads.lastLocated.symm,
    Workspace.read_eq leads.located leads.content⟩
  rw [split]
  exact List.mem_append_right _ List.mem_cons_self

theorem read_congr {workspace : Workspace} {first second : Path}
    (same : workspace.locate first = workspace.locate second) :
    workspace.read first = workspace.read second := by
  rw [Workspace.read, Workspace.read, same]

theorem kept_iff_of_lastWins {workspace : Workspace} {written : List (Path × String)}
    (wins : LastWins workspace written) :
    (∀ file ∈ written, workspace.read file.1 = .ok file.2) ↔
      ∀ first ∈ written, ∀ second ∈ written, Collide workspace first second →
        first.2 = second.2 := by
  constructor
  · intro kept first isFirst second isSecond collide
    have same := (kept first isFirst).symm.trans
      ((read_congr collide).trans (kept second isSecond))
    exact Except.ok.inj same
  · intro apart file isWritten
    obtain ⟨last, isLast, collide, found⟩ := read_of_lastWins wins isWritten
    rw [found, apart file isWritten last isLast collide]

theorem artifacts_kept_iff {workspace : Workspace} {arguments : List String} {options : Options}
    (parsed : Invocation.ofArguments arguments = .run options)
    (toFiles : options.toStdout = false) (forFiles : options.dump = false)
    (success : (runIn workspace arguments).exitCode = 0) :
    let plan := planIn workspace options
    let files := placedFiles plan.settings plan.artifacts
    let final := (runIn workspace arguments).session
    settingsOf options (configIn workspace options) = .ok plan.settings ∧
      List.Forall₂ (Generates workspace options plan.settings) (inputFiles workspace options)
        plan.artifacts ∧
      (∀ file ∈ files, .generated file.1 ∈ final.told) ∧
      ((∀ file ∈ files, final.workspace.read file.1 = .ok file.2) ↔
        ∀ first ∈ files, ∀ second ∈ files, Collide final.workspace first second →
          first.2 = second.2) := by
  obtain ⟨planned, _⟩ := delivery_of_success parsed success
  obtain ⟨chosen, generates⟩ := generates_of_plan planned forFiles
  obtain ⟨wins, told⟩ := lastWins_of_success parsed toFiles success
  refine ⟨chosen, generates, ?_, kept_iff_of_lastWins wins⟩
  intro file isFile
  rw [told]
  exact List.mem_append_right _ (List.mem_map_of_mem isFile)

def planFrom (workspace : Workspace) (options : Options) (paths : List Path) : Plan :=
  Plan.of options (configIn workspace options) (paths.map fun path => (path, workspace.read path))

def runFrom (workspace : Workspace) (options : Options) (paths : List Path) : Outcome :=
  let plan := planFrom workspace options paths
  let session := Session.begin workspace
  let result := finish plan options { session with
    printed := session.printed ++ plan.printed options
    told := session.told ++ plan.notices options }
  ⟨result.1, result.2⟩

section

variable {workspace : Workspace} {options : Options} {paths : List Path}

theorem planFrom_eq (collected : inputFiles workspace options = paths) :
    planFrom workspace options paths = planIn workspace options := by
  rw [planFrom, planIn, collected]

theorem runFrom_eq {arguments : List String}
    (parsed : Invocation.ofArguments arguments = .run options)
    (collected : inputFiles workspace options = paths) :
    runFrom workspace options paths = runIn workspace arguments := by
  rw [runFrom, runIn_eq parsed, planFrom_eq collected]
  rfl

end

def cards : Workspace where
  root := .folder [
    ("a.json", .file (.text ("\x7b\"id\": \"1:1\", \"name\": \"Card\", \"type\": \"FRAME\", " ++
      "\"layoutMode\": \"HORIZONTAL\"\x7d"))),
    ("b.json", .file (.text "\x7b\"id\": \"1:2\", \"name\": \"Card\", \"type\": \"FRAME\"\x7d"))]
  current := []

def keyed (inputs : List Path) : Options :=
  { Options.none with inputs, fileKey := some "ABC123", output := some ⟨"ui"⟩ }

theorem artifacts_kept_iff_oneCard :
    let arguments := ["a.json", "--file-key", "ABC123", "-o", "ui"]
    let options := keyed [⟨"a.json"⟩]
    let plan := planIn cards options
    Invocation.ofArguments arguments = .run options ∧ options.toStdout = false ∧
      options.dump = false ∧ (runIn cards arguments).exitCode = 0 ∧
      (placedFiles plan.settings plan.artifacts).length = 3 ∧
      ∀ file ∈ placedFiles plan.settings plan.artifacts,
        (runIn cards arguments).session.workspace.read file.1 = .ok file.2 := by
  intro arguments options plan
  have parsed : Invocation.ofArguments arguments = .run options := by rfl
  have collected : inputFiles cards options = [⟨"a.json"⟩] := by
    rw [inputFiles, listFiles, List.mergeSort_of_pairwise] <;> decide +kernel
  obtain ⟨ran, three, apart⟩ :
      let plan := planFrom cards options [⟨"a.json"⟩]
      let files := placedFiles plan.settings plan.artifacts
      let outcome := runFrom cards options [⟨"a.json"⟩]
      outcome.exitCode = 0 ∧ files.length = 3 ∧
        (files.map fun file =>
          (outcome.session.workspace.locate file.1).toOption).Nodup := by decide +kernel
  rw [runFrom_eq parsed collected] at ran apart
  rw [planFrom_eq collected] at three apart
  obtain ⟨_, _, _, kept⟩ := artifacts_kept_iff parsed rfl rfl ran
  refine ⟨parsed, rfl, rfl, ran, three, kept.mpr ?_⟩
  intro first isFirst second isSecond collide
  rw [Collide] at collide
  rw [List.inj_on_of_nodup_map apart isFirst isSecond (by rw [collide])]

theorem not_kept_cards :
    let arguments := ["a.json", "b.json", "--file-key", "ABC123", "-o", "ui"]
    let options := keyed [⟨"a.json"⟩, ⟨"b.json"⟩]
    let plan := planIn cards options
    Invocation.ofArguments arguments = .run options ∧ options.toStdout = false ∧
      options.dump = false ∧ (runIn cards arguments).exitCode = 0 ∧
      List.Forall₂ (Generates cards options plan.settings) (inputFiles cards options)
        plan.artifacts ∧
      ¬∀ file ∈ placedFiles plan.settings plan.artifacts,
        (runIn cards arguments).session.workspace.read file.1 = .ok file.2 := by
  intro arguments options plan
  have parsed : Invocation.ofArguments arguments = .run options := by rfl
  have collected : inputFiles cards options = [⟨"a.json"⟩, ⟨"b.json"⟩] := by
    rw [inputFiles, listFiles, List.mergeSort_of_pairwise] <;> decide +kernel
  obtain ⟨ran, overwritten⟩ :
      let plan := planFrom cards options [⟨"a.json"⟩, ⟨"b.json"⟩]
      let files := placedFiles plan.settings plan.artifacts
      (runFrom cards options [⟨"a.json"⟩, ⟨"b.json"⟩]).exitCode = 0 ∧
        ∃ first ∈ files, ∃ second ∈ files, first.1 = second.1 ∧ first.2 ≠ second.2 := by
    decide +kernel
  rw [runFrom_eq parsed collected] at ran
  rw [planFrom_eq collected] at overwritten
  obtain ⟨planned, _⟩ := delivery_of_success parsed ran
  refine ⟨parsed, rfl, rfl, ran, (generates_of_plan planned rfl).2, ?_⟩
  intro kept
  obtain ⟨first, isFirst, second, isSecond, samePath, differ⟩ := overwritten
  have same := (kept first isFirst).symm.trans (samePath ▸ kept second isSecond)
  exact differ (Except.ok.inj same)

end DesignToCode.CommandLine
