import DesignToCode.Output.Artifacts
import DesignToCode.Proofs.Output.ExportedNames

/-!
The values that the module of a catalog binds at its top level.
-/

namespace DesignToCode

open DesignToCode.Naming DesignToCode.Text
open CodeReader (Scans scan)

namespace ModuleReader

/-- Where a reader of a module stands: among statements, after `const` or `import`, between the
braces of an import, or inside of further brackets. -/
inductive Position where
  | statement
  | constant
  | importing
  | imported
  | inside (depth : Nat)
  deriving DecidableEq, Repr

def opens (c : Char) : Bool :=
  c == '\x7b' || c == '(' || c == '['

def closes (c : Char) : Bool :=
  c == '\x7d' || c == ')' || c == ']'

def outer : Nat → Position
  | 0 => .statement
  | depth + 1 => .inside depth

def step : Position → Token → Position
  | .statement, .word keyword =>
    if keyword = "const" then .constant
    else if keyword = "import" then .importing
    else .statement
  | .statement, .sign c => if opens c then .inside 0 else .statement
  | .statement, .quoted _ => .statement
  | .constant, _ => .statement
  | .importing, .sign c => if c = '\x7b' then .imported else .statement
  | .importing, _ => .statement
  | .imported, .sign c => if c = '\x7d' then .statement else .imported
  | .imported, _ => .imported
  | .inside depth, .sign c =>
    if opens c then .inside (depth + 1) else if closes c then outer depth else .inside depth
  | .inside depth, _ => .inside depth

def isFlat : Token → Bool
  | .sign c => !opens c && !closes c
  | _ => true

theorem step_of_isFlat {token : Token} (flat : isFlat token = true) {depth : Nat} :
    step (.inside depth) token = .inside depth := by
  cases token with
  | word name => rfl
  | quoted value => rfl
  | sign c =>
      simp only [isFlat, Bool.and_eq_true, Bool.not_eq_true'] at flat
      simp [step, flat]

theorem all_isFlat_ofRun (run : List Char) : (Token.ofRun run).all isFlat = true := by
  cases run with
  | nil => rfl
  | cons c rest => rfl

def bound? : Position → Token → Option String
  | .constant, .word name => some name
  | .imported, .word name => some name
  | .importing, .word name => if name = "type" then none else some name
  | _, _ => none

def run (position : Position) : List Token → List String × Position
  | [] => ([], position)
  | token :: rest =>
    let later := run (step position token) rest
    ((bound? position token).toList ++ later.1, later.2)

theorem run_append (position : Position) (first second : List Token) :
    run position (first ++ second) =
      ((run position first).1 ++ (run (run position first).2 second).1,
        (run (run position first).2 second).2) := by
  induction first generalizing position with
  | nil => simp [run]
  | cons token rest ih => simp [run, ih]

/-- The names of the values that a module binds at its top level. -/
def boundNames? (text : String) : Option (List String) :=
  (scan .code [] text.toList).map fun tokens => (run .statement tokens).1

def Binds (start : Position) (text : String) (names : List String) (last : Position) : Prop :=
  ∃ tokens, Scans text.toList tokens ∧ run start tokens = (names, last)

namespace Binds

theorem append {start middle last : Position} {first second : String} {names others : List String}
    (binds : Binds start first names middle) (more : Binds middle second others last) :
    Binds start (first ++ second) (names ++ others) last := by
  obtain ⟨firstTokens, firstScans, firstRun⟩ := binds
  obtain ⟨secondTokens, secondScans, secondRun⟩ := more
  refine ⟨firstTokens ++ secondTokens, ?_, ?_⟩
  · rw [String.toList_append]
    exact firstScans.append secondScans
  · rw [run_append, firstRun, secondRun]

theorem nil {position : Position} : Binds position "" [] position :=
  ⟨[], Scans.nil, rfl⟩

theorem fixed {start last : Position} {text : String} {names : List String}
    (read : (scan .code [] text.toList).map (run start) = some (names, last) ∧
      CodeReader.endsBroken text = true) :
    Binds start text names last := by
  obtain ⟨tokens, found, same⟩ := Option.map_eq_some_iff.mp read.1
  exact ⟨tokens, CodeReader.scans_of_scan ⟨found, read.2⟩, same⟩

theorem congr {start last : Position} {text other : String} {names : List String}
    (binds : Binds start text names last) (same : other.toList = text.toList) :
    Binds start other names last := by
  rwa [String.toList_inj.mp same]

theorem quoted {position : Position} (text : String)
    (stays : step position (.quoted text) = position) :
    Binds position (Literal.quote text) [] position := by
  refine ⟨[.quoted text], CodeReader.scans_quote text, ?_⟩
  simp [run, stays, bound?]

theorem named {start last : Position} {name : String} {names : List String} {c : Char}
    (plain : IsPlain name) (ends : c.isAlphanum = false) (isSign : c ≠ '\'')
    (same : run start (Token.ofRun name.toList ++ Token.ofBreak c) = (names, last)) :
    Binds start (name ++ String.singleton c) names last := by
  refine ⟨_, ?_, same⟩
  simpa using CodeReader.scans_word plain ends isSign

theorem mentioned {name : String} {c : Char} (plain : IsPlain name)
    (large : startsSmall name.toList = false) (ends : c.isAlphanum = false) (isSign : c ≠ '\'')
    (flat : run .statement (Token.ofBreak c) = ([], .statement)) :
    Binds .statement (name ++ String.singleton c) [] .statement := by
  refine named plain ends isSign ?_
  have noKeyword (keyword : String) (small : startsSmall keyword.toList = true) :
      name ≠ keyword := by
    rintro rfl
    simp [large] at small
  rw [Token.ofRun_toList]
  split
  · exact flat
  · have noConst := noKeyword "const" (by decide)
    have noImport := noKeyword "import" (by decide)
    simp [run, step, bound?, noConst, noImport, flat]

theorem inside {text : String} {tokens : List Token} (scans : Scans text.toList tokens)
    (flat : tokens.all isFlat = true) (depth : Nat) :
    Binds (.inside depth) text [] (.inside depth) := by
  refine ⟨tokens, scans, ?_⟩
  clear scans
  induction tokens with
  | nil => rfl
  | cons token rest ih =>
      rw [List.all_cons, Bool.and_eq_true] at flat
      rw [run, step_of_isFlat flat.1, ih flat.2]
      rfl

theorem word {name : String} {c : Char} (plain : IsPlain name) (ends : c.isAlphanum = false)
    (isSign : c ≠ '\'') (flat : (Token.ofBreak c).all isFlat = true) (depth : Nat) :
    Binds (.inside depth) (name ++ String.singleton c) [] (.inside depth) := by
  have scans := CodeReader.scans_word plain ends isSign
  refine @inside _ (Token.ofRun name.toList ++ Token.ofBreak c) (by simpa using scans) ?_ depth
  rw [List.all_append, all_isFlat_ofRun, flat]
  rfl

theorem lined_flatMap {α : Type} {items : List α} {written : α → List String}
    {position : Position}
    (each : ∀ item ∈ items, Binds position (lined (written item)) [] position) :
    Binds position (lined (items.flatMap written)) [] position := by
  induction items with
  | nil => exact Binds.nil
  | cons item rest ih =>
      rw [List.flatMap_cons, lined_append]
      exact (each item List.mem_cons_self).append
        (ih fun other later => each other (List.mem_cons_of_mem _ later))

theorem boundNames?_eq {text : String} {names : List String} {last : Position}
    (binds : Binds .statement text names last) : boundNames? text = some names := by
  obtain ⟨tokens, scans, same⟩ := binds
  rw [boundNames?, scans.scan_eq, Option.map_some, same]

end Binds

end ModuleReader

open ModuleReader (Binds)

namespace Catalog

theorem quote_import {name : String} (plain : IsPlain name) :
    Literal.quote ("./" ++ name) = "'./" ++ name ++ "'" := by
  have kept : name.toList.flatMap Literal.escapedChar = name.toList := by
    have each : ∀ c ∈ name.toList, Literal.escapedChar c = [c] := by
      intro c found
      have isWord := plain c found
      have apart (sign : Char) (noWord : sign.isAlphanum = false) : c ≠ sign := by
        rintro rfl
        simp [isWord] at noWord
      rw [Literal.escapedChar, if_neg (apart _ (by decide)), if_neg (apart _ (by decide)),
        if_neg (apart _ (by decide))]
    rw [List.flatMap_congr each]
    simp
  have dots : "./".toList.flatMap Literal.escapedChar = "./".toList := by decide
  rw [← String.toList_inj, Literal.quote, String.toList_append, List.flatMap_append, kept, dots]
  simp

theorem binds_imports {name : String} (plain : IsPlain name) (nonempty : name ≠ "") :
    Binds .statement (lined [
      "import type \x7b Meta, StoryObj \x7d from '@storybook/react-vite';",
      "import \x7b fn \x7d from 'storybook/test';",
      "import \x7b " ++ name ++ " \x7d from './" ++ name ++ "';",
      ""]) ["fn", name] .statement := by
  have types : Binds .statement (lined [
      "import type \x7b Meta, StoryObj \x7d from '@storybook/react-vite';",
      "import \x7b fn \x7d from 'storybook/test';"]) ["fn"] .statement :=
    Binds.fixed (by decide)
  have opened : Binds .statement "import \x7b " [] .imported :=
    Binds.fixed (by decide)
  have imported : Binds .imported (name ++ String.singleton ' ') [name] .imported := by
    refine Binds.named plain (by decide) (by decide) ?_
    rw [Token.ofRun_toList, if_neg nonempty]
    rfl
  have source : Binds .imported "\x7d from " [] .statement :=
    Binds.fixed (by decide)
  have path : Binds .statement (Literal.quote ("./" ++ name)) [] .statement :=
    Binds.quoted _ rfl
  have ended : Binds .statement ";\n\n" [] .statement :=
    Binds.fixed (by decide)
  have component := opened.append (imported.append (source.append (path.append ended)))
  rw [quote_import plain] at component
  exact types.append (component.congr (by simp [lined]))

theorem binds_entry {depth : Nat} {key : String}
    (opened : Binds (.inside depth) key [] (.inside depth)) (text : String) :
    Binds (.inside depth) (lined [key ++ Literal.quote text ++ ","]) [] (.inside depth) := by
  have ended : Binds (.inside depth) ",\n" [] (.inside depth) :=
    @Binds.inside _ [.sign ','] (CodeReader.scans_of_scan (by decide)) (by decide) depth
  have whole := opened.append ((Binds.quoted text rfl).append ended)
  exact whole.congr (by simp [lined])

theorem binds_argumentLine {argument : String × Literal} (plain : IsPlain argument.1)
    (depth : Nat) :
    Binds (.inside depth) (lined [argumentLine argument]) [] (.inside depth) := by
  refine @Binds.inside _ (CodeReader.bindingTokens ':' argument) ?_ ?_ depth
  · simpa [lined] using scans_argumentLine plain
  · rw [CodeReader.bindingTokens, List.all_append, ModuleReader.all_isFlat_ofRun]
    cases argument.2 with
    | flag value => rfl
    | quoted value => rfl

theorem binds_arguments {arguments : List (String × Literal)}
    (plain : ∀ argument ∈ arguments, IsPlain argument.1) (depth : Nat) :
    Binds (.inside depth) (lined (arguments.map argumentLine)) [] (.inside depth) := by
  rw [List.map_eq_flatMap]
  exact Binds.lined_flatMap fun argument isArgument =>
    binds_argumentLine (plain argument isArgument) depth

theorem all_isFlat_choiceTokens (values : List String) :
    (CodeReader.choiceTokens ',' values).all ModuleReader.isFlat = true := by
  induction values with
  | nil => rfl
  | cons value rest ih =>
      cases rest with
      | nil => rfl
      | cons next later => exact ih

theorem binds_choices (values : List String) (depth : Nat) :
    Binds (.inside depth) (literalList ", " (values.map .quoted)) [] (.inside depth) := by
  exact Binds.inside (CodeReader.scans_literalList CodeReader.scans_comma values)
    (all_isFlat_choiceTokens values) depth

theorem choices_of_controlOf {property : Property} {choices : List Literal}
    (control : controlOf property = .select choices) :
    choices = property.choices.map .quoted := by
  rw [controlOf, Property.choiceLiterals?] at control
  split at control
  · rename_i found
    split at found
    · cases found
      cases control
      rfl
    · cases found
  · split at control
    · cases control
    · cases control

theorem binds_control (property : Property) :
    Binds (.inside 1) (lined (controlLines property)) [] (.inside 1) := by
  have indented : Binds (.inside 1) "    " [] (.inside 1) :=
    Binds.fixed (by decide)
  have name : Binds (.inside 1) (property.identifier ++ String.singleton ':') [] (.inside 1) :=
    Binds.word (isPlain_camelCase property.name) (by decide) (by decide) (by decide) 1
  rw [controlLines]
  cases control : controlOf property with
  | select choices =>
      have opened : Binds (.inside 1) " \x7b\n      control: 'select',\n      options: [" []
          (.inside 3) := Binds.fixed (by decide)
      have closed : Binds (.inside 3) "],\n    \x7d,\n" [] (.inside 1) :=
        Binds.fixed (by decide)
      have whole := indented.append (name.append (opened.append
        ((binds_choices property.choices 3).append closed)))
      rw [choices_of_controlOf control]
      exact whole.congr (by simp [lined])
  | toggle =>
      have shown : Binds (.inside 1) " \x7b control: 'boolean' \x7d,\n" [] (.inside 1) :=
        Binds.fixed (by decide)
      exact (indented.append (name.append shown)).congr (by simp [lined])
  | text =>
      have shown : Binds (.inside 1) " \x7b control: 'text' \x7d,\n" [] (.inside 1) :=
        Binds.fixed (by decide)
      exact (indented.append (name.append shown)).congr (by simp [lined])

theorem binds_argTypes (component : Component) :
    Binds (.inside 0) (lined (argTypesLines component)) [] (.inside 0) := by
  rw [argTypesLines]
  split
  · exact Binds.nil
  · have opened : Binds (.inside 0) (lined ["  argTypes: \x7b"]) [] (.inside 1) :=
      Binds.fixed (by decide)
    have closed : Binds (.inside 1) (lined ["  \x7d,"]) [] (.inside 0) :=
      Binds.fixed (by decide)
    have controls : Binds (.inside 1) (lined (component.properties.flatMap controlLines)) []
        (.inside 1) := Binds.lined_flatMap fun property _ => binds_control property
    rw [lined_append, lined_append]
    exact (opened.append controls).append closed

theorem binds_subject {name : String} (plain : IsPlain name) :
    Binds (.inside 0) (lined ["  component: " ++ name ++ ","]) [] (.inside 0) := by
  have key : Binds (.inside 0) "  component: " [] (.inside 0) := Binds.fixed (by decide)
  have value : Binds (.inside 0) (name ++ String.singleton ',') [] (.inside 0) :=
    Binds.word plain (by decide) (by decide) (by decide) 0
  have ended : Binds (.inside 0) "\n" [] (.inside 0) := Binds.fixed (by decide)
  exact (key.append (value.append ended)).congr (by simp [lined])

theorem binds_presentation (layout url : String) :
    Binds (.inside 0) (lined ["  parameters: \x7b",
      "    layout: " ++ Literal.quote layout ++ ",",
      "    design: \x7b",
      "      type: 'figma',",
      "      url: " ++ Literal.quote url ++ ",",
      "    \x7d,",
      "  \x7d,"]) [] (.inside 0) := by
  have opened : Binds (.inside 0) (lined ["  parameters: \x7b"]) [] (.inside 1) :=
    Binds.fixed (by decide)
  have shown : Binds (.inside 1) (lined ["    layout: " ++ Literal.quote layout ++ ","]) []
      (.inside 1) := binds_entry (Binds.fixed (by decide)) layout
  have design : Binds (.inside 1) (lined ["    design: \x7b", "      type: 'figma',"]) []
      (.inside 2) := Binds.fixed (by decide)
  have link : Binds (.inside 2) (lined ["      url: " ++ Literal.quote url ++ ","]) []
      (.inside 2) := binds_entry (Binds.fixed (by decide)) url
  have closed : Binds (.inside 2) (lined ["    \x7d,", "  \x7d,"]) [] (.inside 0) :=
    Binds.fixed (by decide)
  have whole := opened.append (shown.append (design.append (link.append closed)))
  exact whole.congr (by simp only [← lined_append, List.cons_append, List.nil_append])

theorem binds_tags (settings : Settings) :
    Binds (.inside 0) (lined (if settings.autodocs then ["  tags: ['autodocs'],"] else [])) []
      (.inside 0) := by
  cases settings.autodocs with
  | false => exact Binds.nil
  | true => exact Binds.fixed (by decide)

theorem binds_presets (component : Component) :
    Binds (.inside 0) (lined (["  args: \x7b", "    onClick: fn(),"] ++
      component.parameters.map argumentLine)) [] (.inside 1) := by
  have opened : Binds (.inside 0) (lined ["  args: \x7b", "    onClick: fn(),"]) [] (.inside 1) :=
    Binds.fixed (by decide)
  rw [lined_append]
  exact opened.append (binds_arguments (fun _ => isPlain_of_mem_parameters) 1)

theorem binds_type {name : String} (plain : IsPlain name)
    (large : startsSmall name.toList = false) :
    Binds (.inside 1) (lined ["  \x7d,", "\x7d satisfies Meta<typeof " ++ name ++ ">;"]) []
      .statement := by
  have kind : Binds (.inside 1) "  \x7d,\n\x7d satisfies Meta<typeof " [] .statement :=
    Binds.fixed (by decide)
  have value : Binds .statement (name ++ String.singleton '>') [] .statement :=
    Binds.mentioned plain large (by decide) (by decide) (by decide)
  have ended : Binds .statement ";\n" [] .statement := Binds.fixed (by decide)
  exact (kind.append (value.append ended)).congr (by simp [lined])

theorem binds_meta {name : String} (plain : IsPlain name)
    (large : startsSmall name.toList = false) (component : Component) (url : String)
    (settings : Settings) :
    Binds .statement (lined (metaLines name component url settings)) ["meta"] .statement := by
  have opened : Binds .statement (lined ["const meta = \x7b"]) ["meta"] (.inside 0) :=
    Binds.fixed (by decide)
  have title : Binds (.inside 0)
      (lined ["  title: " ++ Literal.quote (settings.catalogGroup ++ "/" ++ name) ++ ","]) []
      (.inside 0) := binds_entry (Binds.fixed (by decide)) _
  have whole := ((((((opened.append title).append (binds_subject plain)).append
    (binds_presentation settings.catalogLayout url)).append (binds_tags settings)).append
    (binds_argTypes component)).append (binds_presets component)).append (binds_type plain large)
  refine whole.congr ?_
  simp only [metaLines, ← lined_append, List.append_assoc, List.cons_append, List.nil_append]

theorem binds_storyBody {story : Story} (plain : IsPlain story.name) (nonempty : story.name ≠ "")
    (plainArgs : ∀ args, story.args = some args → ∀ argument ∈ args, IsPlain argument.1) :
    Binds .statement (lined (storyBody story)) [story.name] .statement := by
  have exported : Binds .statement "export const " [] .constant :=
    Binds.fixed (by decide)
  have named : Binds .constant (story.name ++ String.singleton ':') [story.name] .statement := by
    refine Binds.named plain (by decide) (by decide) ?_
    rw [Token.ofRun_toList, if_neg nonempty]
    rfl
  rw [storyBody]
  cases args : story.args with
  | none =>
      have empty : Binds .statement " Story = \x7b\x7d;\n" [] .statement :=
        Binds.fixed (by decide)
      exact (exported.append (named.append empty)).congr (by simp [lined])
  | some arguments =>
      have opened : Binds .statement " Story = \x7b\n  args: \x7b\n" [] (.inside 1) :=
        Binds.fixed (by decide)
      have closed : Binds (.inside 1) (lined ["  \x7d,", "\x7d;"]) [] .statement :=
        Binds.fixed (by decide)
      have whole := exported.append (named.append (opened.append
        ((binds_arguments (plainArgs arguments args) 1).append closed)))
      rw [lined_append, lined_append]
      exact whole.congr (by simp [lined])

theorem binds_stories {stories : List Story} (nonempty : stories ≠ [])
    (each : ∀ story ∈ stories, Binds .statement (lined (storyBody story)) [story.name] .statement) :
    Binds .statement (join "\n" (stories.flatMap storyLines)) (stories.map Story.name)
      .statement := by
  induction stories with
  | nil => contradiction
  | cons story rest ih =>
      have body := each story List.mem_cons_self
      have blank : Binds .statement "\n" [] .statement :=
        Binds.fixed (by decide)
      rw [List.flatMap_cons, storyLines_eq, List.append_assoc]
      cases rest with
      | nil =>
          rw [List.flatMap_nil, List.append_nil, join_append _ (List.cons_ne_nil _ _)]
          exact body.congr (by simp [join])
      | cons next later =>
          have others := ih (List.cons_ne_nil _ _) fun other found =>
            each other (List.mem_cons_of_mem _ found)
          have written : (next :: later).flatMap storyLines ≠ [] := by
            simp [storyLines_eq]
          rw [join_append _ (List.append_ne_nil_of_right_ne_nil _ written), join_append _ written]
          exact body.append (blank.append others)

theorem binds_storyBody_of_mem {document : Node} {story : Story}
    (isStory : story ∈ stories (Component.ofNode document)) :
    Binds .statement (lined (storyBody story)) [story.name] .statement := by
  rw [stories] at isStory
  split at isStory
  · rw [List.mem_singleton.mp isStory]
    exact binds_storyBody (List.all_eq_true.mp (by decide)) (by decide) (by simp)
  · obtain ⟨variant, isTold, rfl⟩ := List.mem_map.mp isStory
    rw [firstOfEach_eq] at isTold
    have isVariant := firstWins_sublist.subset isTold
    refine binds_storyBody (isPlain_storyName isVariant) (storyName_ne_empty variant) ?_
    rintro args same argument isArgument
    cases same
    obtain ⟨entry, _, rfl⟩ := List.mem_map.mp isArgument
    exact isPlain_camelCase entry.1

def boundNames (name : String) (component : Component) : List String :=
  ["fn", name, "meta"] ++ storyNames component

theorem boundNames?_render {name : String} (plain : IsPlain name) (nonempty : name ≠ "")
    (large : startsSmall name.toList = false) (document : Node) (url : String)
    (settings : Settings) :
    ModuleReader.boundNames? (render name (Component.ofNode document) url settings) =
      some (boundNames name (Component.ofNode document)) := by
  have imports := binds_imports plain nonempty
  have entry := binds_meta plain large (Component.ofNode document) url settings
  have types : Binds .statement (lined ["", "export default meta;",
      "type Story = StoryObj<typeof meta>;", ""]) [] .statement :=
    Binds.fixed (by decide)
  have told := binds_stories (stories_ne_nil (Component.ofNode document)) fun _ =>
    binds_storyBody_of_mem
  have whole := ((imports.append entry).append types).append told
  have more : (stories (Component.ofNode document)).flatMap storyLines ≠ [] := by
    simpa [storyLines_eq] using List.exists_mem_of_ne_nil _ (stories_ne_nil _)
  rw [render, lines, join_append _ more, lined_append, lined_append]
  exact whole.boundNames?_eq

theorem nodup_boundNames_iff {document : Node} {name : String}
    (large : startsSmall name.toList = false) :
    (boundNames name (Component.ofNode document)).Nodup ↔
      name ∉ storyNames (Component.ofNode document) := by
  have noStory {word : String} (small : startsSmall word.toList = true) :
      word ∉ storyNames (Component.ofNode document) := by
    intro isStory
    simp [startsSmall_of_mem_storyNames isStory] at small
  have other {word : String} (small : startsSmall word.toList = true) : word ≠ name := by
    rintro rfl
    simp [large] at small
  have noFn : "fn" ∉ storyNames (Component.ofNode document) := noStory (by decide)
  have noMeta : "meta" ∉ storyNames (Component.ofNode document) := noStory (by decide)
  have notFn : "fn" ≠ name := other (by decide)
  have notMeta : "meta" ≠ name := other (by decide)
  simp [boundNames, noFn, noMeta, notFn, notMeta.symm, nodup_storyNames]

end Catalog

theorem catalogNames_distinct_iff (document : Node) (url : String) (settings : Settings) :
    let component := Component.ofNode document
    let artifacts := Artifacts.generate document url settings
    let names := Catalog.boundNames artifacts.name component
    ModuleReader.boundNames? artifacts.catalog.content = some names ∧
    (names.Nodup ↔ (component.variants = [] → artifacts.name ≠ "Default") ∧
      ∀ variant ∈ component.variants, Catalog.storyName variant ≠ artifacts.name) := by
  intro component artifacts names
  have large := startsSmall_componentName document.name
  refine ⟨Catalog.boundNames?_render (isPlain_componentName document.name)
    (componentName_ne_empty document.name) large document url settings, ?_⟩
  refine (Catalog.nodup_boundNames_iff large).trans ?_
  rw [Catalog.mem_storyNames, not_or]
  constructor
  · rintro ⟨noDefault, noVariant⟩
    refine ⟨fun empty same => noDefault ⟨empty, same⟩, ?_⟩
    intro variant isVariant same
    exact noVariant ⟨variant, isVariant, same.symm⟩
  · rintro ⟨noDefault, noVariant⟩
    refine ⟨fun both => noDefault both.1 both.2, ?_⟩
    rintro ⟨variant, isVariant, same⟩
    exact noVariant variant isVariant same.symm

def largeSet : Node :=
  let member (name : String) : Node := { Node.blank with name, type := .component }
  { Node.blank with
    name := "Large", type := .componentSet, children := [member "Size=Large", member "Size=Small"] }

theorem not_nodup_largeSet :
    let url := "https://www.figma.com/design/ABC123/Kit?node-id=11-4"
    let artifacts := Artifacts.generate largeSet url .standard
    let names := ["fn", "Large", "meta", "Large", "Small"]
    ModuleReader.boundNames? artifacts.catalog.content = some names ∧ ¬names.Nodup := by
  intro url artifacts names
  have bound : Catalog.boundNames artifacts.name (Component.ofNode largeSet) = names := by rfl
  refine ⟨?_, by decide⟩
  rw [← bound]
  exact Catalog.boundNames?_render (isPlain_componentName _) (componentName_ne_empty _)
    (startsSmall_componentName _) _ _ _

end DesignToCode
