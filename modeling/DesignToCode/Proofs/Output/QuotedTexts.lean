import DesignToCode.Proofs.Output.ModuleNames
import DesignToCode.Proofs.Output.ScriptReader

/-!
The quoted texts of the generated scripts.
-/

namespace DesignToCode

open DesignToCode.Naming DesignToCode.Text
open ScriptReader (Quotes ReadsAs Denotes hasReturn values literals? quotes_word quotes_quote
  quotes_of_readsAs)

namespace ScriptReader

theorem quotes_lined_append {first second : List String} {texts others : List String}
    (firstQuotes : Quotes (lined first) texts) (secondQuotes : Quotes (lined second) others) :
    Quotes (lined (first ++ second)) (texts ++ others) := by
  rw [lined_append]
  exact firstQuotes.append secondQuotes

theorem quotes_lined_flatMap {α : Type} {items : List α} {lines : α → List String}
    {texts : α → List String} (each : ∀ item ∈ items, Quotes (lined (lines item)) (texts item)) :
    Quotes (lined (items.flatMap lines)) (items.flatMap texts) := by
  induction items with
  | nil => exact Quotes.nil
  | cons item rest ih =>
      rw [List.flatMap_cons, List.flatMap_cons]
      exact quotes_lined_append (each item List.mem_cons_self)
        (ih fun other later => each other (List.mem_cons_of_mem _ later))

theorem quotes_lined {lines : List String} {texts : List (List String)}
    (each : List.Forall₂ Quotes lines texts) : Quotes (lined lines) texts.flatten := by
  induction each with
  | nil => exact Quotes.nil
  | cons first _ later =>
      have lineFeed : Quotes "\n" [] := quotes_of_readsAs (by decide)
      have whole := (first.append lineFeed).append later
      rwa [List.append_nil] at whole

theorem Quotes.between {opening source closing : String} {texts : List String}
    (before : Quotes opening []) (quotes : Quotes source texts) (after : Quotes closing []) :
    Quotes (opening ++ source ++ closing) texts := by
  have whole := (before.append quotes).append after
  rwa [List.append_nil] at whole

theorem literals?_join {lines texts : List String} (nonempty : lines ≠ [])
    (quotes : Quotes (lined lines) texts) :
    literals? (join "\n" lines).toList =
      if texts.any hasReturn then none else some (values texts) := by
  have whole := quotes.literals?_eq
  rw [lined_eq_join nonempty, String.toList_append] at whole
  exact (literals?_lineFeed _).symm.trans whole

end ScriptReader

open ScriptReader (quotes_lined quotes_lined_append quotes_lined_flatMap)

def Literal.texts : Literal → List String
  | .flag _ => []
  | .quoted text => [text]

theorem Literal.quotes_text (literal : Literal) : Quotes literal.text literal.texts := by
  cases literal with
  | flag value => cases value <;> exact quotes_of_readsAs (by decide)
  | quoted text => exact quotes_quote text

theorem quotes_literalList {separator : String} (apart : Quotes separator [])
    (literals : List Literal) :
    Quotes (literalList separator literals) (literals.flatMap Literal.texts) := by
  induction literals with
  | nil => exact Quotes.nil
  | cons literal rest ih =>
      cases rest with
      | nil => simpa [literalList, join] using literal.quotes_text
      | cons next later =>
          have whole := (literal.quotes_text.append apart).append ih
          rwa [List.append_nil] at whole

def Property.choiceTexts (property : Property) : List String :=
  (property.choiceLiterals?.getD []).flatMap Literal.texts

namespace Catalog

def controlTexts (property : Property) : List String :=
  match controlOf property with
  | .select choices => "select" :: choices.flatMap Literal.texts
  | .toggle => ["boolean"]
  | .text => ["text"]

def storyTexts (story : Story) : List String :=
  (story.args.getD []).flatMap fun argument => argument.2.texts

def metaTexts (name : String) (component : Component) (url : String) (settings : Settings) :
    List String :=
  [settings.catalogGroup ++ "/" ++ name, settings.catalogLayout, "figma", url] ++
  (if settings.autodocs then ["autodocs"] else []) ++
  component.properties.flatMap controlTexts ++
  component.parameters.flatMap fun parameter => parameter.2.texts

/-- The texts of a catalog in the order in which they stand in it. -/
def texts (name : String) (component : Component) (url : String) (settings : Settings) :
    List String :=
  ["@storybook/react-vite", "storybook/test", "./" ++ name] ++
  metaTexts name component url settings ++
  (stories component).flatMap storyTexts

theorem quotes_argumentLine {argument : String × Literal} (plain : IsPlain argument.1) :
    Quotes (argumentLine argument) argument.2.texts := by
  have indent : Quotes "    " [] := quotes_of_readsAs (by decide)
  have colon : Quotes ": " [] := quotes_of_readsAs (by decide)
  have comma : Quotes "," [] := quotes_of_readsAs (by decide)
  exact ((indent.append (quotes_word plain)).append colon).between argument.2.quotes_text comma

theorem quotes_argumentLines {arguments : List (String × Literal)}
    (plain : ∀ argument ∈ arguments, IsPlain argument.1) :
    Quotes (lined (arguments.map argumentLine))
      (arguments.flatMap fun argument => argument.2.texts) := by
  have each : List.Forall₂ Quotes (arguments.map argumentLine)
      (arguments.map fun argument => argument.2.texts) := by
    rw [List.forall₂_map_left_iff, List.forall₂_map_right_iff, List.forall₂_same]
    exact fun argument isArgument => quotes_argumentLine (plain argument isArgument)
  exact quotes_lined each

theorem quotes_controlLines (property : Property) :
    Quotes (lined (controlLines property)) (controlTexts property) := by
  have indent : Quotes "    " [] := quotes_of_readsAs (by decide)
  have name : Quotes property.identifier [] := quotes_word (isPlain_camelCase property.name)
  have named := indent.append name
  rw [controlLines, controlTexts]
  cases controlOf property with
  | select choices =>
      have opening : Quotes ": \x7b" [] := quotes_of_readsAs (by decide)
      have control : Quotes "      control: 'select'," ["select"] := quotes_of_readsAs (by decide)
      have before : Quotes "      options: [" [] := quotes_of_readsAs (by decide)
      have after : Quotes "]," [] := quotes_of_readsAs (by decide)
      have closing : Quotes "    \x7d," [] := quotes_of_readsAs (by decide)
      have apart : Quotes ", " [] := quotes_of_readsAs (by decide)
      have whole := quotes_lined <| .cons (named.append opening) <| .cons control <|
        .cons (before.between (quotes_literalList apart choices) after) <| .cons closing .nil
      simpa using whole
  | toggle =>
      have control : Quotes ": \x7b control: 'boolean' \x7d," ["boolean"] :=
        quotes_of_readsAs (by decide)
      exact quotes_lined (.cons (named.append control) .nil)
  | text =>
      have control : Quotes ": \x7b control: 'text' \x7d," ["text"] :=
        quotes_of_readsAs (by decide)
      exact quotes_lined (.cons (named.append control) .nil)

theorem quotes_argTypesLines (component : Component) :
    Quotes (lined (argTypesLines component)) (component.properties.flatMap controlTexts) := by
  rw [argTypesLines]
  cases properties : component.properties with
  | nil => exact Quotes.nil
  | cons first later =>
      have opening : Quotes (lined ["  argTypes: \x7b"]) [] := quotes_of_readsAs (by decide)
      have closing : Quotes (lined ["  \x7d,"]) [] := quotes_of_readsAs (by decide)
      have controls : Quotes (lined ((first :: later).flatMap controlLines))
          ((first :: later).flatMap controlTexts) :=
        quotes_lined_flatMap fun property _ => quotes_controlLines property
      have whole := quotes_lined_append (quotes_lined_append opening controls) closing
      rwa [List.append_nil] at whole

theorem quotes_entry (opening : String) (before : Quotes opening []) (text : String) :
    Quotes (opening ++ Literal.quote text ++ ",") [text] :=
  before.between (quotes_quote text) (quotes_of_readsAs (by decide))

theorem quotes_titleLines {name : String} (plain : IsPlain name) (title layout url : String) :
    Quotes (lined ["const meta = \x7b",
        "  title: " ++ Literal.quote title ++ ",",
        "  component: " ++ name ++ ",",
        "  parameters: \x7b",
        "    layout: " ++ Literal.quote layout ++ ",",
        "    design: \x7b",
        "      type: 'figma',",
        "      url: " ++ Literal.quote url ++ ",",
        "    \x7d,",
        "  \x7d,"])
      [title, layout, "figma", url] := by
  have opening : Quotes "const meta = \x7b" [] := quotes_of_readsAs (by decide)
  have titled := quotes_entry "  title: " (quotes_of_readsAs (by decide)) title
  have component : Quotes ("  component: " ++ name ++ ",") [] :=
    Quotes.between (quotes_of_readsAs (by decide)) (quotes_word plain)
      (quotes_of_readsAs (by decide))
  have parameters : Quotes "  parameters: \x7b" [] := quotes_of_readsAs (by decide)
  have placed := quotes_entry "    layout: " (quotes_of_readsAs (by decide)) layout
  have design : Quotes "    design: \x7b" [] := quotes_of_readsAs (by decide)
  have kind : Quotes "      type: 'figma'," ["figma"] := quotes_of_readsAs (by decide)
  have linked := quotes_entry "      url: " (quotes_of_readsAs (by decide)) url
  have designEnd : Quotes "    \x7d," [] := quotes_of_readsAs (by decide)
  have parametersEnd : Quotes "  \x7d," [] := quotes_of_readsAs (by decide)
  exact quotes_lined <| .cons opening <| .cons titled <| .cons component <| .cons parameters <|
    .cons placed <| .cons design <| .cons kind <| .cons linked <| .cons designEnd <|
    .cons parametersEnd .nil

theorem quotes_metaLines {name : String} (plain : IsPlain name) (component : Component)
    (url : String) (settings : Settings) :
    Quotes (lined (metaLines name component url settings))
      (metaTexts name component url settings) := by
  have titled := quotes_titleLines plain (settings.catalogGroup ++ "/" ++ name)
    settings.catalogLayout url
  have tagged : Quotes (lined (if settings.autodocs then ["  tags: ['autodocs'],"] else []))
      (if settings.autodocs then ["autodocs"] else []) := by
    split <;> exact quotes_of_readsAs (by decide)
  have opened : Quotes (lined ["  args: \x7b", "    onClick: fn(),"]) [] :=
    quotes_of_readsAs (by decide)
  have defaults : Quotes (lined (component.parameters.map argumentLine))
      (component.parameters.flatMap fun parameter => parameter.2.texts) :=
    quotes_argumentLines fun _ => isPlain_of_mem_parameters
  have closed : Quotes "  \x7d," [] := quotes_of_readsAs (by decide)
  have satisfies : Quotes ("\x7d satisfies Meta<typeof " ++ name ++ ">;") [] :=
    Quotes.between (quotes_of_readsAs (by decide)) (quotes_word plain)
      (quotes_of_readsAs (by decide))
  have ended := quotes_lined (.cons closed (.cons satisfies .nil))
  have whole := quotes_lined_append (quotes_lined_append (quotes_lined_append
    (quotes_lined_append (quotes_lined_append titled tagged) (quotes_argTypesLines component))
    opened) defaults) ended
  simp only [List.flatten_cons, List.flatten_nil, List.append_nil] at whole
  exact whole

theorem quotes_storyLines {name : String} {args : Option (List (String × Literal))}
    (plainName : IsPlain name) (plainArguments : ∀ argument ∈ args.getD [], IsPlain argument.1) :
    Quotes (lined (storyLines ⟨name, args⟩)) (storyTexts ⟨name, args⟩) := by
  have exporting : Quotes "export const " [] := quotes_of_readsAs (by decide)
  have exported := exporting.append (quotes_word plainName)
  cases args with
  | none =>
      have closed : Quotes ": Story = \x7b\x7d;" [] := quotes_of_readsAs (by decide)
      have whole := quotes_lined (.cons (exported.append closed) (.cons Quotes.nil .nil))
      exact whole
  | some arguments =>
      have opens : Quotes ": Story = \x7b" [] := quotes_of_readsAs (by decide)
      have given : Quotes "  args: \x7b" [] := quotes_of_readsAs (by decide)
      have closed : Quotes (lined ["  \x7d,", "\x7d;", ""]) [] := quotes_of_readsAs (by decide)
      have opened := quotes_lined (.cons (exported.append opens) (.cons given .nil))
      have whole := quotes_lined_append
        (quotes_lined_append opened (quotes_argumentLines plainArguments)) closed
      rwa [List.append_nil] at whole

theorem quotes_stories (document : Node) :
    Quotes (lined ((stories (Component.ofNode document)).flatMap storyLines))
      ((stories (Component.ofNode document)).flatMap storyTexts) := by
  refine quotes_lined_flatMap fun story isStory => ?_
  rw [stories] at isStory
  split at isStory
  · rw [List.mem_singleton.mp isStory]
    exact quotes_of_readsAs (by decide)
  · obtain ⟨variant, isTold, rfl⟩ := List.mem_map.mp isStory
    rw [firstOfEach_eq] at isTold
    refine quotes_storyLines (isPlain_storyName (firstWins_sublist.subset isTold)) ?_
    intro argument isArgument
    obtain ⟨entry, _, rfl⟩ := List.mem_map.mp isArgument
    exact isPlain_camelCase entry.1

theorem quotes_importLines {name : String} (plain : IsPlain name) :
    Quotes (lined ["import type \x7b Meta, StoryObj \x7d from '@storybook/react-vite';",
        "import \x7b fn \x7d from 'storybook/test';",
        "import \x7b " ++ name ++ " \x7d from './" ++ name ++ "';",
        ""])
      ["@storybook/react-vite", "storybook/test", "./" ++ name] := by
  have types : Quotes "import type \x7b Meta, StoryObj \x7d from '@storybook/react-vite';"
      ["@storybook/react-vite"] :=
    quotes_of_readsAs (by decide)
  have handler : Quotes "import \x7b fn \x7d from 'storybook/test';" ["storybook/test"] :=
    quotes_of_readsAs (by decide)
  have opening : Quotes "import \x7b " [] := quotes_of_readsAs (by decide)
  have middle : Quotes " \x7d from " [] := quotes_of_readsAs (by decide)
  have ending : Quotes ";" [] := quotes_of_readsAs (by decide)
  have written : "import \x7b " ++ name ++ " \x7d from './" ++ name ++ "';" =
      "import \x7b " ++ name ++ " \x7d from " ++ Literal.quote ("./" ++ name) ++ ";" := by
    rw [quote_import plain]
    apply String.toList_inj.mp
    simp
  have imported := ((opening.append (quotes_word plain)).append middle).between
    (quotes_quote ("./" ++ name)) ending
  rw [written]
  exact quotes_lined (.cons types (.cons handler (.cons imported (.cons Quotes.nil .nil))))

theorem quotes_lines (document : Node) {name : String} (plain : IsPlain name) (url : String)
    (settings : Settings) :
    Quotes (lined (lines name (Component.ofNode document) url settings))
      (texts name (Component.ofNode document) url settings) := by
  have types : Quotes (lined ["", "export default meta;", "type Story = StoryObj<typeof meta>;",
      ""]) [] :=
    quotes_of_readsAs (by decide)
  have whole := quotes_lined_append (quotes_lined_append (quotes_lined_append
    (quotes_importLines plain) (quotes_metaLines plain (Component.ofNode document) url settings))
    types) (quotes_stories document)
  rwa [List.append_nil] at whole

theorem lines_ne_nil (name : String) (component : Component) (url : String)
    (settings : Settings) : lines name component url settings ≠ [] := by
  rw [lines, List.append_assoc, List.append_assoc]
  exact List.cons_ne_nil _ _

theorem literals?_render (document : Node) {name : String} (plain : IsPlain name) (url : String)
    (settings : Settings) :
    literals? (render name (Component.ofNode document) url settings).toList =
      if (texts name (Component.ofNode document) url settings).any hasReturn then none
      else some (values (texts name (Component.ofNode document) url settings)) :=
  ScriptReader.literals?_join (lines_ne_nil _ _ _ _) (quotes_lines document plain url settings)

end Catalog

namespace ComponentFile

def typeLine (property : Property) : String :=
  "  " ++ property.identifier ++ "?: " ++ (formOf property).type ++ ";"

def defaultLine (property : Property) : String :=
  "  " ++ property.identifier ++ " = " ++ property.defaultLiteral.text ++ ","

theorem quotes_indented (property : Property) : Quotes ("  " ++ property.identifier) [] :=
  have indent : Quotes "  " [] := quotes_of_readsAs (by decide)
  indent.append (quotes_word (isPlain_camelCase property.name))

theorem quotes_type (property : Property) :
    Quotes (formOf property).type property.choiceTexts := by
  rw [formOf, Property.choiceTexts]
  cases property.choiceLiterals? with
  | some choices => exact quotes_literalList (quotes_of_readsAs (by decide)) choices
  | none =>
      by_cases toggle : property.kind = .toggle
      · rw [if_pos toggle]
        exact quotes_of_readsAs (by decide)
      · rw [if_neg toggle]
        exact quotes_of_readsAs (by decide)

theorem quotes_typeLine (property : Property) :
    Quotes (typeLine property) property.choiceTexts :=
  have mark : Quotes "?: " [] := quotes_of_readsAs (by decide)
  Quotes.between ((quotes_indented property).append mark) (quotes_type property)
    (quotes_of_readsAs (by decide))

theorem quotes_defaultLine (property : Property) :
    Quotes (defaultLine property) property.defaultLiteral.texts :=
  have mark : Quotes " = " [] := quotes_of_readsAs (by decide)
  Quotes.between ((quotes_indented property).append mark) property.defaultLiteral.quotes_text
    (quotes_of_readsAs (by decide))

theorem hasLine_typeLine {component : Component} {property : Property}
    (isProperty : property ∈ component.properties) (name : String) (settings : Settings) :
    HasLine (typeLine property) (render name component settings) := by
  refine OccurIn.hasLine ?_
  simp only [lines, interfaceLines, List.append_assoc]
  refine ((OccurIn.flatMap isProperty fun more => OccurIn.later
    (OccurIn.here ?_) ["  /** " ++ property.name ++ " */"]).later _).later _
  simp

theorem hasLine_defaultLine {component : Component} {property : Property}
    (isProperty : property ∈ component.properties) (name : String) (settings : Settings) :
    HasLine (defaultLine property) (render name component settings) := by
  have isParameter : (property.identifier, property.defaultLiteral) ∈ component.parameters :=
    List.mem_map_of_mem isProperty
  refine OccurIn.hasLine ?_
  simp only [lines, parameterLines, List.map_eq_flatMap, List.append_assoc]
  refine (((OccurIn.flatMap isParameter fun more => OccurIn.here ?_).later _).later _).later _
  simp

end ComponentFile

/-- The catalog, and in the component the lines with the choices and the defaults of the properties,
are read as script with just the literals of their texts exactly if none of these has a carriage
return. -/
theorem quotedTexts_read_iff (document : Node) (url : String) (settings : Settings) :
    let component := Component.ofNode document
    let artifacts := Artifacts.generate document url settings
    let texts := Catalog.texts artifacts.name component url settings
    (∀ text other, Denotes (Literal.quote text) other ↔ '\r' ∉ text.toList ∧ text = other) ∧
    (ReadsAs artifacts.catalog.content texts ↔ ∀ text ∈ texts, '\r' ∉ text.toList) ∧
    ∀ property ∈ component.properties,
      HasLine (ComponentFile.typeLine property) artifacts.component.content ∧
      (ReadsAs (ComponentFile.typeLine property) property.choiceTexts ↔
        ∀ text ∈ property.choiceTexts, '\r' ∉ text.toList) ∧
      HasLine (ComponentFile.defaultLine property) artifacts.component.content ∧
      (ReadsAs (ComponentFile.defaultLine property) property.defaultLiteral.texts ↔
        ∀ text ∈ property.defaultLiteral.texts, '\r' ∉ text.toList) := by
  intro component artifacts texts
  refine ⟨ScriptReader.denotes_quote_iff,
    ScriptReader.readsAs_iff_of_literals?
      (Catalog.literals?_render document (isPlain_componentName document.name) url settings), ?_⟩
  intro property isProperty
  exact ⟨ComponentFile.hasLine_typeLine isProperty _ settings,
    (ComponentFile.quotes_typeLine property).readsAs_iff,
    ComponentFile.hasLine_defaultLine isProperty _ settings,
    (ComponentFile.quotes_defaultLine property).readsAs_iff⟩

def quoteProperty : Property :=
  ⟨"Tone", .variant, .text "It's", some ["It's", "a\\b\nc"]⟩

def quoteSet : Node :=
  { Node.blank with
    name := "Chip", type := .componentSet
    properties := .ofList [("Tone", ⟨.variant, .text "It's", some ["It's", "a\\b\nc"]⟩)] }

theorem quotedTexts_read_iff_quoteSet :
    let artifacts := Artifacts.generate quoteSet "https://www.figma.com/design/ABC123?node-id=1-1"
      .standard
    ReadsAs artifacts.catalog.content ["@storybook/react-vite", "storybook/test", "./Chip",
      "Components/Chip", "centered", "figma", "https://www.figma.com/design/ABC123?node-id=1-1",
      "autodocs", "select", "it's", "a\\b\nc", "it's"] ∧
    HasLine "  tone?: 'it\\'s' | 'a\\\\b\\nc';" artifacts.component.content ∧
    ReadsAs "  tone?: 'it\\'s' | 'a\\\\b\\nc';" ["it's", "a\\b\nc"] ∧
    HasLine "  tone = 'it\\'s'," artifacts.component.content ∧
    ReadsAs "  tone = 'it\\'s'," ["it's"] := by
  intro artifacts
  have isProperty : quoteProperty ∈ (Component.ofNode quoteSet).properties := by
    decide
  obtain ⟨_, catalog, component⟩ :=
    quotedTexts_read_iff quoteSet "https://www.figma.com/design/ABC123?node-id=1-1" .standard
  obtain ⟨typed, choices, preset, default⟩ := component quoteProperty isProperty
  exact ⟨catalog.mpr (by decide), typed, choices.mpr (by decide), preset, default.mpr (by decide)⟩

def returnSet : Node :=
  { Node.blank with
    name := "Chip", type := .componentSet
    properties := .ofList [("Label", ⟨.text, .text "a\rb", none⟩)] }

theorem not_denotes_returnSet :
    let url := "https://www.figma.com/design/ABC123/Kit?node-id=11-4"
    let artifacts := Artifacts.generate returnSet url .standard
    ScriptReader.pieces? (Literal.quote "a\rb").toList = none ∧
    HasLine "  label = 'a\rb'," artifacts.component.content ∧
    literals? "  label = 'a\rb',".toList = none ∧
    literals? artifacts.catalog.content.toList = none := by
  intro url artifacts
  have isProperty : (⟨"Label", .text, .text "a\rb", none⟩ : Property) ∈
      (Component.ofNode returnSet).properties := by
    decide
  have broken : (Catalog.texts artifacts.name (Component.ofNode returnSet) url .standard).any
      hasReturn = true := by
    decide
  have read := Catalog.literals?_render returnSet (isPlain_componentName returnSet.name) url
    .standard
  exact ⟨by decide, ComponentFile.hasLine_defaultLine isProperty _ _, by decide,
    read.trans (if_pos broken)⟩

end DesignToCode
