import DesignToCode.Proofs.CommandLine.Delivery
import DesignToCode.Proofs.Naming.Entries
import DesignToCode.Proofs.Workspace.Contents

/-!
Where a run can write: directly into folders of plain names below its output folder.
-/

namespace DesignToCode

def Settings.extensions (settings : Settings) : List String :=
  [settings.componentExtension, settings.stylesheetExtension, settings.catalogExtension]

namespace Workspace

/-- The path of a file in the folder `name` directly below another folder, both as it is spelled and
where it leads. -/
structure LiesIn (workspace : Workspace) (outer : Path) (name file : String) (path : Path) :
    Prop where
  components : path.components = outer.components ++ [.name name.toList, .name file.toList]
  located : ∃ base, workspace.walk (workspace.start outer) outer.slashed = .ok base ∧
    workspace.locate path = .ok (base ++ [name, file])

theorem LiesIn.grows {before after : Workspace} (grows : Grows before after) {outer path : Path}
    {name file : String} (lies : before.LiesIn outer name file path) :
    after.LiesIn outer name file path := by
  obtain ⟨base, walked, located⟩ := lies.located
  refine ⟨lies.components, base, ?_, grows.locate located⟩
  rw [grows.start]
  exact grows.walk walked

theorem liesIn_of_write {workspace after : Workspace} {outer : Path} {name file text : String}
    (folderName : IsEntryName name) (fileName : IsEntryName file)
    (written : workspace.write ((outer.join name).join file) text = .ok after) :
    after.LiesIn outer name file ((outer.join name).join file) := by
  obtain ⟨grows, target, located, -, -⟩ := grows_write written
  refine ⟨?_, ?_⟩
  · rw [Path.components_join _ fileName, Path.components_join _ folderName, List.append_assoc]
    rfl
  · obtain ⟨_, walked⟩ := locate_eq_ok.mp located
    obtain ⟨inner, walked, insideInner⟩ := walk_join fileName walked
    obtain ⟨base, walked, insideBase⟩ := walk_join folderName walked
    have sameStart : after.start ((outer.join name).join file) = after.start outer := by
      rw [start, start, Path.isAbsolute_join _ fileName, Path.isAbsolute_join _ folderName]
    rw [sameStart] at walked
    refine ⟨base, walked, ?_⟩
    rw [located, insideInner, insideBase, List.append_assoc]
    rfl

end Workspace

namespace CommandLine

open Naming
open Session (bind_apply pure_apply tell_apply)

inductive Holds (workspace : Workspace) (path : Path) (document : Node) : Prop
  | intro {text : String} {input : DesignInput} (found : workspace.read path = .ok text)
      (accepted : DesignInput.ofText text = .ok input)
      (isDocument : input.theDocument = .ok document)

/-- The names of a folder and of a file in it that belong to the document of an input file: the
folder is named after the component, and the file after the folder with an extension. -/
inductive Belongs (workspace : Workspace) (options : Options) (settings : Settings) :
    String → String → Prop
  | intro {source : Path} {document : Node} {extension : String}
      (isInput : source ∈ inputFiles workspace options) (holds : Holds workspace source document)
      (isExtension : extension ∈ settings.extensions) :
      Belongs workspace options settings (componentName document.name)
        (componentName document.name ++ "." ++ extension)

def AdmitsEntryNames (allowed : String → String → Prop) : Prop :=
  ∀ name file, allowed name file → IsEntryName name ∧ IsEntryName file

/-- What a session has written since it was in the workspace `before`: every path that it tells lies
in a folder below `outer` under names that are allowed, and no content has changed elsewhere. -/
structure Confined (before : Workspace) (outer : Path) (allowed : String → String → Prop)
    (session : Session) : Prop where
  grows : before.Grows session.workspace
  told : ∀ path, .generated path ∈ session.told →
    ∃ name file, allowed name file ∧ session.workspace.LiesIn outer name file path
  changed : ∀ location, session.workspace.contentAt location ≠ before.contentAt location →
    ∃ path, .generated path ∈ session.told ∧ session.workspace.locate path = .ok location

namespace Confined

variable {before : Workspace} {outer : Path} {allowed : String → String → Prop} {session : Session}

theorem makeFolders (confined : Confined before outer allowed session) {path : Path}
    {workspace : Workspace} (made : session.workspace.makeFolders path = .ok workspace) :
    Confined before outer allowed { session with workspace } := by
  have grows := (Workspace.grows_makeFolders made).1
  refine ⟨confined.grows.trans grows, ?_, ?_⟩
  · intro path told
    obtain ⟨name, file, isAllowed, lies⟩ := confined.told path told
    exact ⟨name, file, isAllowed, lies.grows grows⟩
  · intro location changed
    rw [Workspace.contentAt_makeFolders made] at changed
    obtain ⟨path, told, located⟩ := confined.changed location changed
    exact ⟨path, told, grows.locate located⟩

theorem write (confined : Confined before outer allowed session) {name file text : String}
    (isAllowed : allowed name file) (proper : AdmitsEntryNames allowed) {workspace : Workspace}
    (written : session.workspace.write ((outer.join name).join file) text = .ok workspace) :
    Confined before outer allowed { session with
      workspace, told := session.told ++ [.generated ((outer.join name).join file)] } := by
  obtain ⟨folderName, fileName⟩ := proper name file isAllowed
  have grows := (Workspace.grows_write written).1
  refine ⟨confined.grows.trans grows, ?_, ?_⟩
  · intro path told
    rcases List.mem_append.mp told with old | new
    · obtain ⟨name, file, isAllowed, lies⟩ := confined.told path old
      exact ⟨name, file, isAllowed, lies.grows grows⟩
    · cases List.mem_singleton.mp new
      exact ⟨name, file, isAllowed, Workspace.liesIn_of_write folderName fileName written⟩
  · intro location changed
    obtain ⟨target, located, elsewhere⟩ := Workspace.contentAt_write written
    by_cases here : location = target
    · subst location
      exact ⟨_, List.mem_append_right _ (List.mem_singleton_self _), located⟩
    · rw [elsewhere location here] at changed
      obtain ⟨path, told, located⟩ := confined.changed location changed
      exact ⟨path, List.mem_append_left _ told, grows.locate located⟩

theorem writeFiles (confined : Confined before outer allowed session)
    (proper : AdmitsEntryNames allowed) {name : String} {files : List OutputFile}
    (isAllowed : ∀ file ∈ files, allowed name file.name) :
    Confined before outer allowed
      ((CommandLine.writeFiles (outer.join name) files : StateM Session _) session).2 := by
  induction files generalizing session with
  | nil => exact confined
  | cons file rest ih =>
      rw [CommandLine.writeFiles, bind_apply]
      simp only [Surroundings.write, Session.change]
      cases wrote : session.workspace.write ((outer.join name).join file.name) file.content with
      | error error => exact confined
      | ok workspace =>
          exact ih (confined.write (isAllowed file List.mem_cons_self) proper wrote)
            fun file later => isAllowed file (List.mem_cons_of_mem _ later)

theorem deliver {settings : Settings} {artifacts : List Artifacts}
    (confined : Confined before ⟨settings.outputDirectory⟩ allowed session)
    (proper : AdmitsEntryNames allowed)
    (isAllowed : ∀ each ∈ artifacts, ∀ file ∈ each.files, allowed each.name file.name) :
    Confined before ⟨settings.outputDirectory⟩ allowed
      ((CommandLine.deliver settings artifacts : StateM Session _) session).2 := by
  induction artifacts generalizing session with
  | nil => exact confined
  | cons first rest ih =>
      rw [CommandLine.deliver, bind_apply]
      simp only [Surroundings.makeFolders, Session.change]
      cases made : session.workspace.makeFolders (Plan.folderOf settings first) with
      | error error => exact confined
      | ok workspace =>
          have wrote : Confined before ⟨settings.outputDirectory⟩ allowed
              ((CommandLine.writeFiles (Plan.folderOf settings first) first.files :
                StateM Session _) { session with workspace }).2 :=
            (confined.makeFolders made).writeFiles proper (isAllowed first List.mem_cons_self)
          dsimp only
          rw [bind_apply]
          rcases ended : (CommandLine.writeFiles (Plan.folderOf settings first) first.files :
            StateM Session _) { session with workspace } with ⟨_ | error, middle⟩
          all_goals rw [ended] at wrote
          · exact ih wrote fun each later => isAllowed each (List.mem_cons_of_mem _ later)
          · exact wrote

theorem tell (confined : Confined before outer allowed session) {notices : List Notice}
    (others : ∀ path, .generated path ∉ notices) :
    Confined before outer allowed { session with told := session.told ++ notices } := by
  refine ⟨confined.grows, ?_, ?_⟩
  · intro path told
    rcases List.mem_append.mp told with old | new
    · exact confined.told path old
    · exact absurd new (others path)
  · intro location changed
    obtain ⟨path, told, located⟩ := confined.changed location changed
    exact ⟨path, List.mem_append_left _ told, located⟩

end Confined

theorem not_generated_mem_notices (plan : Plan) (options : Options) (path : Path) :
    .generated path ∉ plan.notices options := by
  simp [Plan.notices]

theorem confined_decided (workspace : Workspace) (options : Options) (outer : Path)
    (allowed : String → String → Prop) :
    Confined workspace outer allowed (decided options (Session.begin workspace)) := by
  have nothing : Confined workspace outer allowed { Session.begin workspace with
      printed := "" ++ (planIn workspace options).printed options } := by
    refine ⟨.refl workspace, ?_, ?_⟩
    · intro path impossible
      cases impossible
    · intro location changed
      exact absurd rfl changed
  exact nothing.tell (not_generated_mem_notices _ options)

theorem confined_finish {plan : Plan} (options : Options) {before : Workspace}
    {allowed : String → String → Prop} {session : Session}
    (confined : Confined before ⟨plan.settings.outputDirectory⟩ allowed session)
    (proper : AdmitsEntryNames allowed)
    (isAllowed : ∀ each ∈ plan.artifacts, ∀ file ∈ each.files, allowed each.name file.name) :
    Confined before ⟨plan.settings.outputDirectory⟩ allowed (finish plan options session).2 := by
  cases planned : plan.failure with
  | some error =>
      rw [finish_of_failure (by rw [planned]; rfl)]
      exact confined
  | none =>
      have delivered : ∀ each ∈ plan.deliveries options, each ∈ plan.artifacts := by
        intro each isDelivered
        rw [Plan.deliveries, Plan.complete, planned] at isDelivered
        cases toFiles : options.toStdout <;> simp_all
      have ended := confined.deliver proper
        fun each isDelivered => isAllowed each (delivered each isDelivered)
      rw [finish_of_plan planned]
      rcases wrote : (deliver plan.settings (plan.deliveries options) : StateM Session _) session
        with ⟨_ | error, written⟩
      · rw [wrote] at ended
        exact ended
      · rw [wrote] at ended
        exact ended.tell (by simp)

theorem name_generate (document : Node) (url : String) (settings : Settings) :
    (Artifacts.generate document url settings).name = componentName document.name := by
  rw [Artifacts.generate, Artifacts.ofComponent]

theorem exists_extension_of_mem_files {document : Node} {url : String} {settings : Settings}
    {file : OutputFile} (isFile : file ∈ (Artifacts.generate document url settings).files) :
    ∃ extension ∈ settings.extensions,
      file.name = componentName document.name ++ "." ++ extension := by
  simp only [Artifacts.files, List.mem_cons, List.not_mem_nil, or_false] at isFile
  rcases isFile with rfl | rfl | rfl
  · exact ⟨settings.componentExtension, by simp [Settings.extensions], rfl⟩
  · exact ⟨settings.stylesheetExtension, by simp [Settings.extensions], rfl⟩
  · exact ⟨settings.catalogExtension, by simp [Settings.extensions], rfl⟩

theorem belongs_of_mem_artifacts {workspace : Workspace} {options : Options} {each : Artifacts}
    (planned : each ∈ (planIn workspace options).artifacts) :
    ∀ file ∈ each.files, Belongs workspace options (planIn workspace options).settings each.name
      file.name := by
  obtain ⟨made, isMade, product⟩ := List.mem_filterMap.mp planned
  obtain ⟨entry, isEntry, succeeded⟩ := exists_make_of_mem_made isMade
  obtain ⟨source, isInput, rfl⟩ := List.mem_map.mp isEntry
  have isProduct : made.product = .artifacts each := by
    cases found : made.product with
    | artifacts artifacts => simp_all
    | dump text => simp [found] at product
  have generates := generates_of_artifacts succeeded isProduct
  rw [← planIn] at generates
  generalize (planIn workspace options).settings = settings at generates
  cases generates with
  | @intro text url input document found accepted isDocument linked =>
      intro file isFile
      obtain ⟨extension, isExtension, named⟩ := exists_extension_of_mem_files isFile
      rw [named, name_generate]
      exact .intro isInput ⟨found, accepted, isDocument⟩ isExtension

theorem admitsEntryNames_belongs {workspace : Workspace} {options : Options} {settings : Settings}
    (flat : ∀ extension ∈ settings.extensions, '/' ∉ extension.toList) :
    AdmitsEntryNames (Belongs workspace options settings) := by
  rintro _ _ ⟨_, _, isExtension⟩
  exact ⟨.componentName _, .fileName _ (flat _ isExtension)⟩

/-- With extensions that have no slash a run, however it ends, writes every artifact directly into a
folder of its component's name directly below the output folder, and no other content changes. -/
theorem artifacts_confined :
    (∀ normal text, NamedPlainly normal text) ∧
      ∀ {workspace : Workspace} {arguments : List String} {options : Options},
        Invocation.ofArguments arguments = .run options →
        (∀ extension ∈ (planIn workspace options).settings.extensions, '/' ∉ extension.toList) →
        let settings := (planIn workspace options).settings
        let final := (runIn workspace arguments).session
        (∀ path, .generated path ∈ final.told →
          ∃ name file, Belongs workspace options settings name file ∧
            final.workspace.LiesIn ⟨settings.outputDirectory⟩ name file path) ∧
        ∀ location, final.workspace.contentAt location ≠ workspace.contentAt location →
          ∃ path, .generated path ∈ final.told ∧ final.workspace.locate path = .ok location := by
  refine ⟨namedPlainly, fun {workspace arguments options} parsed flat => ?_⟩
  have begins := confined_decided workspace options
    ⟨(planIn workspace options).settings.outputDirectory⟩
    (Belongs workspace options (planIn workspace options).settings)
  have ends := confined_finish options begins (admitsEntryNames_belongs flat)
    fun each planned => belongs_of_mem_artifacts planned
  rw [runIn_eq parsed]
  exact ⟨ends.told, ends.changed⟩

def climber : Workspace where
  root := .folder [("a.json", .file (.text
    "\x7b\"id\": \"1:1\", \"name\": \"../../etc/Card\", \"type\": \"FRAME\"\x7d"))]
  current := []

theorem artifacts_confined_climber :
    let arguments := ["a.json", "--file-key", "ABC123", "-o", "ui"]
    let options := keyed [⟨"a.json"⟩]
    let settings := (planIn climber options).settings
    let final := (runIn climber arguments).session
    Invocation.ofArguments arguments = .run options ∧
      (∀ extension ∈ settings.extensions, '/' ∉ extension.toList) ∧
      .generated ⟨"ui/Etccard/Etccard.tsx"⟩ ∈ final.told ∧
      ∃ name file, Belongs climber options settings name file ∧
        final.workspace.LiesIn ⟨settings.outputDirectory⟩ name file ⟨"ui/Etccard/Etccard.tsx"⟩ := by
  intro arguments options settings final
  have parsed : Invocation.ofArguments arguments = .run options := by rfl
  have collected : inputFiles climber options = [⟨"a.json"⟩] := by
    rw [inputFiles, listFiles, List.mergeSort_of_pairwise] <;> decide +kernel
  obtain ⟨ran, flat, isPlaced⟩ :
      let plan := planFrom climber options [⟨"a.json"⟩]
      (runFrom climber options [⟨"a.json"⟩]).exitCode = 0 ∧
        (∀ extension ∈ plan.settings.extensions, '/' ∉ extension.toList) ∧
        ⟨"ui/Etccard/Etccard.tsx"⟩ ∈ (placedFiles plan.settings plan.artifacts).map Prod.fst := by
    decide +kernel
  rw [runFrom_eq parsed collected] at ran
  rw [planFrom_eq collected] at flat isPlaced
  have told : .generated ⟨"ui/Etccard/Etccard.tsx"⟩ ∈ final.told := by
    obtain ⟨file, isFile, samePath⟩ := List.mem_map.mp isPlaced
    rw [(lastWins_of_success parsed rfl ran).2, ← samePath]
    exact List.mem_append_right _ (List.mem_map_of_mem isFile)
  exact ⟨parsed, flat, told, (artifacts_confined.2 parsed flat).1 _ told⟩

end CommandLine

end DesignToCode
