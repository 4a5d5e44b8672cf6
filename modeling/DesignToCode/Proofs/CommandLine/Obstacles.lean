import DesignToCode.Proofs.CommandLine.Reading

/-!
What can keep a run from being carried out.
-/

namespace DesignToCode.CommandLine

/-- An input from which no files can be made. A link is asked for only when there are files to be
made, not for a dump. -/
inductive Spoils (workspace : Workspace) (options : Options) (path : Path) : Prop
  | unreadable {error : FileError} (unread : workspace.read path = .error error)
  | malformed {text : String} {fault : Json.Fault} (found : workspace.read path = .ok text)
      (rejected : DesignInput.ofText text = .error fault)
  | empty {text : String} {input : DesignInput} {error : DesignError}
      (found : workspace.read path = .ok text) (accepted : DesignInput.ofText text = .ok input)
      (noDocument : input.theDocument = .error error)
  | invalidLink {text url : String} {input : DesignInput}
      (found : workspace.read path = .ok text) (accepted : DesignInput.ofText text = .ok input)
      (forFiles : options.dump = false) (given : options.url = some url)
      (invalid : DesignLink.parse? url = none)
  | missingLink {text : String} {input : DesignInput}
      (found : workspace.read path = .ok text) (accepted : DesignInput.ofText text = .ok input)
      (forFiles : options.dump = false) (noUrl : options.url = none)
      (missing : options.fileKey = none ∨ input.nodeId = none)

inductive Generates (workspace : Workspace) (options : Options) (settings : Settings)
    (path : Path) : Artifacts → Prop
  | intro {text url : String} {input : DesignInput} {document : Node}
      (found : workspace.read path = .ok text) (accepted : DesignInput.ofText text = .ok input)
      (isDocument : input.theDocument = .ok document)
      (linked : linkFor options path input = .ok url) :
      Generates workspace options settings path (Artifacts.generate document url settings)

/-- Whatever keeps a run from being carried out before it writes anything. -/
inductive Obstacle (workspace : Workspace) (options : Options) : Prop
  | configUnreadable {error : FileError}
      (unread : configIn workspace options = some (.error error))
  | configInvalid {text : String} {fault : Json.Fault}
      (found : configIn workspace options = some (.ok text))
      (rejected : Settings.ofText text = .error fault)
  | noInputFiles (nothing : inputFiles workspace options = [])
  | urlForSeveral {url : String} (given : options.url = some url)
      (several : 1 < (inputFiles workspace options).length)
  | input {path : Path} (isInput : path ∈ inputFiles workspace options)
      (spoils : Spoils workspace options path)

theorem mem_listFiles {inputs : List (Path × Option Shape)} {path : Path} :
    path ∈ listFiles inputs ↔
      ∃ input shape, (input, some shape) ∈ inputs ∧ path ∈ shape.jsonFiles input := by
  rw [listFiles, List.mem_mergeSort, List.mem_flatMap]
  constructor
  · rintro ⟨⟨input, _ | shape⟩, isInput, found⟩
    · cases found
    · exact ⟨input, shape, isInput, found⟩
  · rintro ⟨input, shape, isInput, found⟩
    exact ⟨(input, some shape), isInput, found⟩

theorem settingsOf_error_iff {options : Options} {found : Option (Except FileError String)} :
    (∃ error, settingsOf options found = .error error) ↔
      (∃ error, found = some (.error error)) ∨
        ∃ text fault, found = some (.ok text) ∧ Settings.ofText text = .error fault := by
  cases found with
  | none => simp [settingsOf, Except.map]
  | some content =>
      cases content with
      | error error => simp [settingsOf, Except.map]
      | ok text =>
          cases read : Settings.ofText text <;> simp [settingsOf, Except.map, read]

theorem refusal?_isSome_iff {options : Options} {count : Nat} :
    (refusal? options count).isSome = true ↔
      count = 0 ∨ (∃ url, options.url = some url) ∧ 1 < count := by
  rw [refusal?]
  by_cases none : count = 0
  · simp [none]
  · cases options.url <;> by_cases several : 1 < count <;> simp [none, several]

theorem linkFor_error_iff {options : Options} {path : Path} {input : DesignInput} :
    (∃ error, linkFor options path input = .error error) ↔
      (∃ url, options.url = some url ∧ DesignLink.parse? url = none) ∨
        options.url = none ∧ (options.fileKey = none ∨ input.nodeId = none) := by
  rw [linkFor]
  cases options.url with
  | some url => cases valid : DesignLink.parse? url <;> simp [valid]
  | none => cases options.fileKey <;> cases input.nodeId <;> simp

theorem make_error_iff {workspace : Workspace} {options : Options} {settings : Settings}
    {path : Path} :
    (∃ error, make options settings path (workspace.read path) = .error error) ↔
      Spoils workspace options path := by
  constructor
  · rintro ⟨error, failed⟩
    unfold make at failed
    cases found : workspace.read path with
    | error unread => exact .unreadable found
    | ok text =>
        cases accepted : DesignInput.ofText text with
        | error fault => exact .malformed found accepted
        | ok input =>
            cases isDocument : input.theDocument with
            | error error => exact .empty found accepted isDocument
            | ok document =>
                simp only [found, accepted, isDocument] at failed
                by_cases forFiles : options.dump = false
                · cases linked : linkFor options path input with
                  | error error =>
                      rcases linkFor_error_iff.mp ⟨error, linked⟩ with
                        ⟨url, given, invalid⟩ | ⟨noUrl, missing⟩
                      · exact .invalidLink found accepted forFiles given invalid
                      · exact .missingLink found accepted forFiles noUrl missing
                  | ok url => simp [forFiles, linked] at failed
                · simp [forFiles] at failed
  · have unlinked {text : String} {input : DesignInput} (found : workspace.read path = .ok text)
        (accepted : DesignInput.ofText text = .ok input) (forFiles : options.dump = false)
        (noLink : ∃ error, linkFor options path input = .error error) :
        ∃ error, make options settings path (workspace.read path) = .error error := by
      obtain ⟨error, failed⟩ := noLink
      unfold make
      rw [found]
      cases isDocument : input.theDocument with
      | error error => simp [accepted, isDocument]
      | ok document => simp [accepted, isDocument, forFiles, failed]
    intro spoils
    cases spoils with
    | unreadable unread => simp [make, unread]
    | malformed found rejected => simp [make, found, rejected]
    | empty found accepted noDocument => simp [make, found, accepted, noDocument]
    | invalidLink found accepted forFiles given invalid =>
        exact unlinked found accepted forFiles
          (linkFor_error_iff.mpr (Or.inl ⟨_, given, invalid⟩))
    | missingLink found accepted forFiles noUrl missing =>
        exact unlinked found accepted forFiles
          (linkFor_error_iff.mpr (Or.inr ⟨noUrl, missing⟩))

theorem isSome_failure_makeAll {options : Options} {settings : Settings}
    {contents : List (Path × Except FileError String)} :
    (makeAll options settings contents).2.isSome = true ↔
      ∃ entry ∈ contents, ∃ error, make options settings entry.1 entry.2 = .error error := by
  induction contents with
  | nil => simp [makeAll]
  | cons entry rest ih =>
      obtain ⟨path, content⟩ := entry
      rw [makeAll]
      cases made : make options settings path content with
      | error error => simp [made]
      | ok product => simp [made, ih]

theorem mem_makeAll {options : Options} {settings : Settings}
    {contents : List (Path × Except FileError String)} {made : Made}
    (found : made ∈ (makeAll options settings contents).1) :
    ∃ entry ∈ contents, make options settings entry.1 entry.2 = .ok made := by
  induction contents with
  | nil => cases found
  | cons entry rest ih =>
      obtain ⟨path, content⟩ := entry
      rw [makeAll] at found
      cases first : make options settings path content with
      | error error =>
          rw [first] at found
          cases found
      | ok product =>
          rw [first] at found
          rcases List.mem_cons.mp found with same | later
          · exact ⟨(path, content), List.mem_cons_self, same ▸ first⟩
          · obtain ⟨entry, isEntry, made⟩ := ih later
            exact ⟨entry, List.mem_cons_of_mem _ isEntry, made⟩

theorem isSome_failure_of {options : Options} {found : Option (Except FileError String)}
    {contents : List (Path × Except FileError String)} :
    (Plan.of options found contents).failure.isSome = true ↔
      (∃ error, settingsOf options found = .error error) ∨
        (refusal? options contents.length).isSome = true ∨
        ∃ settings, settingsOf options found = .ok settings ∧
          (makeAll options settings contents).2.isSome = true := by
  rw [Plan.of]
  cases settingsOf options found with
  | error error => simp
  | ok settings =>
      cases refusal? options contents.length <;> simp

theorem isSome_failure_planIn {workspace : Workspace} {options : Options} :
    (planIn workspace options).failure.isSome = true ↔ Obstacle workspace options := by
  rw [planIn, isSome_failure_of, settingsOf_error_iff, refusal?_isSome_iff, List.length_map,
    List.length_eq_zero_iff]
  constructor
  · rintro ((⟨error, unread⟩ | ⟨text, fault, found, rejected⟩) |
      (nothing | ⟨⟨url, given⟩, several⟩) | ⟨settings, _, failed⟩)
    · exact .configUnreadable unread
    · exact .configInvalid found rejected
    · exact .noInputFiles nothing
    · exact .urlForSeveral given several
    · obtain ⟨entry, isEntry, failed⟩ := isSome_failure_makeAll.mp failed
      obtain ⟨path, isInput, rfl⟩ := List.mem_map.mp isEntry
      exact .input isInput (make_error_iff.mp failed)
  · intro obstacle
    cases obstacle with
    | configUnreadable unread => exact Or.inl (Or.inl ⟨_, unread⟩)
    | configInvalid found rejected => exact Or.inl (Or.inr ⟨_, _, found, rejected⟩)
    | noInputFiles nothing => exact Or.inr (Or.inl (Or.inl nothing))
    | urlForSeveral given several => exact Or.inr (Or.inl (Or.inr ⟨⟨_, given⟩, several⟩))
    | @input path isInput spoils =>
        cases chosen : settingsOf options (configIn workspace options) with
        | error error => exact Or.inl (settingsOf_error_iff.mp ⟨error, chosen⟩)
        | ok settings =>
            refine Or.inr (Or.inr ⟨settings, rfl, isSome_failure_makeAll.mpr ?_⟩)
            exact ⟨_, List.mem_map_of_mem isInput, make_error_iff.mpr spoils⟩

theorem make_eq_ok {workspace : Workspace} {options : Options} {settings : Settings} {path : Path}
    {made : Made} (isMade : make options settings path (workspace.read path) = .ok made) :
    (options.dump = true ∧ ∃ text, made.product = .dump text) ∨
      options.dump = false ∧ ∃ artifacts, made.product = .artifacts artifacts ∧
        Generates workspace options settings path artifacts := by
  unfold make at isMade
  split at isMade
  · cases isMade
  · rename_i text found
    split at isMade
    · cases isMade
    · rename_i input accepted
      split at isMade
      · cases isMade
      · rename_i document isDocument
        cases forDump : options.dump with
        | true =>
            rw [forDump, if_pos rfl] at isMade
            cases isMade
            exact Or.inl ⟨rfl, _, rfl⟩
        | false =>
            rw [forDump, if_neg Bool.false_ne_true] at isMade
            split at isMade
            · cases isMade
            · rename_i url linked
              cases isMade
              exact Or.inr ⟨rfl, _, rfl, .intro found accepted isDocument linked⟩

theorem generates_of_make {workspace : Workspace} {options : Options} {settings : Settings}
    {path : Path} {made : Made} (forFiles : options.dump = false)
    (isMade : make options settings path (workspace.read path) = .ok made) :
    ∃ artifacts, made.product = .artifacts artifacts ∧
      Generates workspace options settings path artifacts := by
  rcases make_eq_ok isMade with ⟨forDump, _⟩ | ⟨_, generates⟩
  · rw [forFiles] at forDump
    contradiction
  · exact generates

theorem generates_of_artifacts {workspace : Workspace} {options : Options} {settings : Settings}
    {path : Path} {made : Made} {artifacts : Artifacts}
    (isMade : make options settings path (workspace.read path) = .ok made)
    (product : made.product = .artifacts artifacts) :
    Generates workspace options settings path artifacts := by
  rcases make_eq_ok isMade with ⟨_, text, isDump⟩ | ⟨_, others, isProduct, generates⟩
  · rw [product] at isDump
    cases isDump
  · rw [product] at isProduct
    cases isProduct
    exact generates

theorem plan_cases (options : Options) (found : Option (Except FileError String))
    (contents : List (Path × Except FileError String)) :
    (∃ error, Plan.of options found contents = ⟨[], some error, .standard⟩) ∨
      (∃ settings error, Plan.of options found contents = ⟨[], some error, settings⟩) ∨
      ∃ settings, settingsOf options found = .ok settings ∧
        Plan.of options found contents =
          ⟨(makeAll options settings contents).1, (makeAll options settings contents).2,
            settings⟩ := by
  rw [Plan.of]
  cases settingsOf options found with
  | error error => exact Or.inl ⟨error, rfl⟩
  | ok settings =>
      dsimp only
      cases refusal? options contents.length with
      | some error => exact Or.inr (Or.inl ⟨settings, error, rfl⟩)
      | none => exact Or.inr (Or.inr ⟨settings, rfl, rfl⟩)

theorem exists_make_of_mem_made {options : Options} {found : Option (Except FileError String)}
    {contents : List (Path × Except FileError String)} {made : Made}
    (isMade : made ∈ (Plan.of options found contents).made) :
    ∃ entry ∈ contents,
      make options (Plan.of options found contents).settings entry.1 entry.2 = .ok made := by
  rcases plan_cases options found contents with
    ⟨_, plan⟩ | ⟨_, _, plan⟩ | ⟨settings, _, plan⟩ <;> rw [plan] at isMade ⊢
  · cases isMade
  · cases isMade
  · exact mem_makeAll isMade

theorem printed_of_failure {workspace : Workspace} {options : Options}
    (failed : (planIn workspace options).failure.isSome = true) (forFiles : options.dump = false) :
    (planIn workspace options).printed options = "" := by
  have noDumps : (planIn workspace options).dumps = [] := by
    rw [Plan.dumps, List.filterMap_eq_nil_iff]
    intro made isMade
    obtain ⟨entry, isEntry, succeeded⟩ := exists_make_of_mem_made isMade
    obtain ⟨path, _, rfl⟩ := List.mem_map.mp isEntry
    obtain ⟨artifacts, product, _⟩ := generates_of_make forFiles succeeded
    rw [product]
  rw [Plan.printed, noDumps, Plan.complete, if_pos failed]
  cases options.toStdout <;> rfl

/-- An obstacle anywhere ends a run with exit code 1 before it has changed any file, and unless
elements were to be dumped it has printed nothing. -/
theorem unchanged_of_obstacle {workspace : Workspace} {arguments : List String}
    {options : Options} (parsed : Invocation.ofArguments arguments = .run options)
    (obstacle : Obstacle workspace options) :
    let outcome := runIn workspace arguments
    outcome.exitCode = 1 ∧ outcome.session.workspace = workspace ∧
      (options.dump = false → outcome.session.printed = "") := by
  have failed := isSome_failure_planIn.mpr obstacle
  rw [runIn_eq parsed, finish_of_failure failed]
  refine ⟨rfl, rfl, fun forFiles => ?_⟩
  exact String.empty_append.trans (printed_of_failure failed forFiles)

def brokenKit : Workspace where
  root := .folder [("kit", .folder [
    ("card.json", .file (.text "\x7b\"id\": \"1:1\", \"name\": \"Card\", \"type\": \"FRAME\"\x7d")),
    ("chip.json", .file (.text "\x7b\"id\": "))])]
  current := []

theorem unchanged_of_obstacle_brokenKit :
    let options := { Options.none with inputs := [⟨"kit"⟩], fileKey := some "ABC" }
    Invocation.ofArguments ["kit", "--file-key", "ABC"] = .run options ∧
      Obstacle brokenKit options ∧ ¬Spoils brokenKit options ⟨"kit/card.json"⟩ ∧
      (runIn brokenKit ["kit", "--file-key", "ABC"]).exitCode = 1 ∧
      (runIn brokenKit ["kit", "--file-key", "ABC"]).session.workspace = brokenKit ∧
      (runIn brokenKit ["kit", "--file-key", "ABC"]).session.printed = "" := by
  intro options
  have parsed : Invocation.ofArguments ["kit", "--file-key", "ABC"] = .run options := by rfl
  have isInput : (⟨"kit/chip.json"⟩ : Path) ∈ inputFiles brokenKit options := by
    refine mem_listFiles.mpr ⟨⟨"kit"⟩, .folder [("card.json", .file), ("chip.json", .file)], ?_, ?_⟩
    · exact List.mem_singleton_self _
    · decide +kernel
  have found : brokenKit.read ⟨"kit/chip.json"⟩ = .ok "\x7b\"id\": " := by rfl
  have broken : (DesignInput.ofText "\x7b\"id\": ").isOk = false := by decide +kernel
  have obstacle : Obstacle brokenKit options := by
    cases rejected : DesignInput.ofText "\x7b\"id\": " with
    | error fault => exact .input isInput (.malformed found rejected)
    | ok input => simp [rejected, Except.isOk, Except.toBool] at broken
  have ends := unchanged_of_obstacle parsed obstacle
  have fine : ¬Spoils brokenKit options ⟨"kit/card.json"⟩ := by
    rw [← @make_error_iff _ _ .standard]
    rintro ⟨error, failed⟩
    have made : (make options .standard ⟨"kit/card.json"⟩
        (brokenKit.read ⟨"kit/card.json"⟩)).isOk = true := by decide +kernel
    simp [failed, Except.isOk, Except.toBool] at made
  exact ⟨parsed, obstacle, fine, ends.1, ends.2.1, ends.2.2 rfl⟩

end DesignToCode.CommandLine
