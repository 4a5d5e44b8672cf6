import DesignToCode.Output.Artifacts
import DesignToCode.Proofs.Output.Excerpt
import DesignToCode.Proofs.Output.ValueRules
import Mathlib.Data.List.Forall2

/-!
What the three files of a component say about the same things.
-/

namespace DesignToCode

open DesignToCode.Naming DesignToCode.Text
open CodeReader (Scans readBindings readChoices)

/-- The component binds the names to the defaults in its parameter pattern. -/
def Destructures (name text : String) (parameters : List (String × Literal)) : Prop :=
  ∃ pattern,
    Excerpt (lined ["export const " ++ name ++ " = (\x7b"]) pattern
      (lined ["  onClick,", "  ...props", "\x7d: " ++ name ++ "Props) => \x7b"]) text ∧
    readBindings '=' pattern = some parameters

def Presets (name text : String) (parameters : List (String × Literal)) : Prop :=
  ∃ args,
    Excerpt (lined ["  args: \x7b", "    onClick: fn(),"]) args
      (lined ["  \x7d,", "\x7d satisfies Meta<typeof " ++ name ++ ">;"]) text ∧
    readBindings ':' args = some parameters

def Allows (property : Property) (text : String) (choices : List Literal) : Prop :=
  ∃ union,
    Excerpt (lined ["  /** " ++ property.name ++ " */"] ++ "  " ++ property.identifier ++ "?: ")
      union (lined [";"]) text ∧
    readChoices '|' union = some choices

/-- The catalog offers the choices for the property. -/
def Offers (property : Property) (text : String) (choices : List Literal) : Prop :=
  ∃ options,
    Excerpt (lined ["    " ++ property.identifier ++ ": \x7b", "      control: 'select',"] ++
      "      options: [") options (lined ["],", "    \x7d,"]) text ∧
    readChoices ',' options = some choices

def Tells (story text : String) (arguments : List (String × Literal)) : Prop :=
  ∃ args,
    Excerpt (lined ["export const " ++ story ++ ": Story = \x7b", "  args: \x7b"]) args
      (lined ["  \x7d,", "\x7d;"]) text ∧
    readBindings ':' args = some arguments

theorem isPlain_of_mem_parameters {component : Component} {parameter : String × Literal}
    (isParameter : parameter ∈ component.parameters) : IsPlain parameter.1 := by
  obtain ⟨property, _, rfl⟩ := List.mem_map.mp isParameter
  exact isPlain_camelCase property.name

def patternLines (component : Component) : List String :=
  component.parameters.map fun parameter =>
    "  " ++ parameter.1 ++ " = " ++ parameter.2.text ++ ","

theorem scans_patternLine {parameter : String × Literal} (plain : IsPlain parameter.1) :
    Scans (("  " ++ parameter.1 ++ " = " ++ parameter.2.text ++ ",").toList ++ ['\n'])
      (CodeReader.bindingTokens '=' parameter) := by
  have indented : Scans [' ', ' '] [] := CodeReader.scans_blank.append CodeReader.scans_blank
  have scans := CodeReader.scans_line indented (CodeReader.scans_equals plain) parameter.2
  simpa using scans

theorem destructures_render (name : String) (component : Component) (settings : Settings) :
    Destructures name (ComponentFile.render name component settings) component.parameters := by
  refine ⟨lined (patternLines component), OccurIn.excerpt_lined ?_, ?_⟩
  · simp only [ComponentFile.lines, ComponentFile.parameterLines, List.append_assoc]
    exact (((OccurIn.between (List.cons_ne_nil _ _)).later [""]).later _).later _
  · exact CodeReader.readBindings_lined fun parameter isParameter =>
      scans_patternLine (isPlain_of_mem_parameters isParameter)

theorem scans_argumentLine {argument : String × Literal} (plain : IsPlain argument.1) :
    Scans ((Catalog.argumentLine argument).toList ++ ['\n'])
      (CodeReader.bindingTokens ':' argument) := by
  have two : Scans [' ', ' '] [] := CodeReader.scans_blank.append CodeReader.scans_blank
  have scans := CodeReader.scans_line (two.append two) (CodeReader.scans_colon plain) argument.2
  simpa [Catalog.argumentLine] using scans

theorem readBindings_argumentLines {arguments : List (String × Literal)}
    (plain : ∀ argument ∈ arguments, IsPlain argument.1) :
    readBindings ':' (lined (arguments.map Catalog.argumentLine)) = some arguments :=
  CodeReader.readBindings_lined fun argument isArgument =>
    scans_argumentLine (plain argument isArgument)

theorem presets_render (name : String) (component : Component) (url : String)
    (settings : Settings) :
    Presets name (Catalog.render name component url settings) component.parameters := by
  refine ⟨lined (component.parameters.map Catalog.argumentLine), OccurIn.excerpt_lined ?_,
    readBindings_argumentLines fun _ => isPlain_of_mem_parameters⟩
  simp only [Catalog.lines, Catalog.metaLines, List.append_assoc]
  exact ((((OccurIn.between (List.cons_ne_nil _ _)).later _).later _).later _).later _

theorem tells_render (name : String) (component : Component) (url : String)
    (settings : Settings) {variant : Variant}
    (isTold : variant ∈ Catalog.firstOfEach [] component.variants) :
    Tells (Catalog.storyName variant) (Catalog.render name component url settings)
      (variant.values.entries.map fun entry => Catalog.argument component entry.1 entry.2) := by
  refine ⟨lined ((variant.values.entries.map fun entry =>
    Catalog.argument component entry.1 entry.2).map Catalog.argumentLine),
    OccurIn.excerpt_lined ?_, ?_⟩
  · have hasVariants : component.variants.isEmpty = false := by
      cases variants : component.variants with
      | nil => simp [variants, Catalog.firstOfEach] at isTold
      | cons first later => rfl
    have isStory : Catalog.storyOf component variant ∈ Catalog.stories component := by
      rw [Catalog.stories, hasVariants, if_neg Bool.false_ne_true]
      exact List.mem_map_of_mem isTold
    refine OccurIn.later ?_ _
    rw [← List.append_nil (List.flatMap _ _)]
    refine OccurIn.flatMap isStory fun more => ?_
    simp only [Catalog.storyLines, Catalog.storyOf, List.append_assoc]
    exact OccurIn.between (List.cons_ne_nil "" (more ++ []))
  · refine readBindings_argumentLines fun argument isArgument => ?_
    obtain ⟨entry, _, rfl⟩ := List.mem_map.mp isArgument
    exact isPlain_camelCase entry.1

theorem choiceLiterals?_eq {property : Property} {option : String} {others : List String}
    (isVariant : property.kind = .variant)
    (hasOptions : property.options = some (option :: others)) :
    property.choiceLiterals? = some ((lower option :: others.map lower).map .quoted) := by
  rw [Property.choiceLiterals?, Property.choices, isVariant, hasOptions]
  rfl

theorem allows_render {property : Property} {option : String} {others : List String}
    (name : String) {component : Component} (settings : Settings)
    (isProperty : property ∈ component.properties) (isVariant : property.kind = .variant)
    (hasOptions : property.options = some (option :: others)) :
    Allows property (ComponentFile.render name component settings)
      ((lower option :: others.map lower).map .quoted) := by
  have bar : Scans " | ".toList [.sign '|'] := CodeReader.scans_of_scan (by decide)
  have union : (ComponentFile.formOf property).type =
      literalList " | " ((lower option :: others.map lower).map .quoted) := by
    rw [ComponentFile.formOf, choiceLiterals?_eq isVariant hasOptions]
    rfl
  have occurs : OccurIn ["  /** " ++ property.name ++ " */",
      "  " ++ property.identifier ++ "?: " ++ (ComponentFile.formOf property).type ++ ";"]
      (ComponentFile.lines name component settings) := by
    simp only [ComponentFile.lines, ComponentFile.interfaceLines, List.append_assoc]
    refine ((OccurIn.flatMap isProperty fun more => OccurIn.here ?_).later _).later _
    simp
  refine ⟨_, occurs.excerpt ?_,
    CodeReader.readChoices_literalList bar (lower option) (others.map lower)⟩
  rw [union]
  simp only [lined, String.append_assoc, String.empty_append, -String.reduceAppend]

theorem offers_render {property : Property} {option : String} {others : List String}
    (name : String) {component : Component} (url : String) (settings : Settings)
    (isProperty : property ∈ component.properties) (isVariant : property.kind = .variant)
    (hasOptions : property.options = some (option :: others)) :
    Offers property (Catalog.render name component url settings)
      ((lower option :: others.map lower).map .quoted) := by
  have control : Catalog.controlOf property =
      .select ((lower option :: others.map lower).map .quoted) := by
    rw [Catalog.controlOf, choiceLiterals?_eq isVariant hasOptions]
  have hasProperties : component.properties.isEmpty = false := by
    rw [List.isEmpty_eq_false_iff]
    exact List.ne_nil_of_mem isProperty
  have occurs : OccurIn (Catalog.controlLines property)
      (Catalog.lines name component url settings) := by
    simp only [Catalog.lines, Catalog.metaLines, Catalog.argTypesLines, hasProperties,
      Bool.false_eq_true, if_false, List.append_assoc]
    refine ((((OccurIn.flatMap isProperty fun more => OccurIn.here ?_).later _).later _).later
      _).later _
    simp
  refine ⟨_, occurs.excerpt ?_,
    CodeReader.readChoices_literalList CodeReader.scans_comma (lower option) (others.map lower)⟩
  simp only [Catalog.controlLines, control]
  simp only [lined, String.append_assoc, String.empty_append, -String.reduceAppend]

def Defines (className text : String) : Prop :=
  ∃ declarations, Excerpt (lined ["." ++ className ++ " \x7b"]) declarations (lined ["\x7d"]) text

theorem Stylesheet.occurIn_lines {rules : List StyleRule} {rule : StyleRule}
    (isRule : rule ∈ rules) : OccurIn (Stylesheet.ruleLines rule) (Stylesheet.lines rules) := by
  induction rules with
  | nil => cases isRule
  | cons first rest ih =>
      cases rest with
      | nil =>
          rw [List.mem_singleton.mp isRule]
          exact OccurIn.here (List.cons_ne_nil "" [])
      | cons next others =>
          rcases List.mem_cons.mp isRule with same | later
          · rw [same]
            exact OccurIn.here (List.cons_ne_nil "" _)
          · exact ((ih later).later [""]).later (Stylesheet.ruleLines first)

theorem defines_render {component : Component} {rule : StyleRule}
    (isRule : rule ∈ Stylesheet.variantRules component) :
    Defines rule.className (Stylesheet.render component) :=
  ⟨lined (rule.declarations.entries.map Stylesheet.declarationLine), OccurIn.excerpt_lined
    (Stylesheet.occurIn_lines (List.mem_cons_of_mem _ (List.mem_append_left _ isRule)))⟩

def TellsValue (component : Component) (artifacts : Artifacts) (entry : String × String)
    (argument : String × Literal) : Prop :=
  argument.1 = camelCase entry.1 ∧
  ((∀ property ∈ component.properties, property.kind = .toggle →
      property.identifier ≠ camelCase entry.1) →
    ∃ className, argument.2 = .quoted className ∧
      (∀ rule, Stylesheet.WrittenFor component entry.2 rule →
        rule.className = className ∧ Defines className artifacts.stylesheet.content) ∧
      ∀ property ∈ component.properties, property.kind = .variant →
        property.identifier = camelCase entry.1 →
        ∀ options, property.options = some options → entry.2 ∈ options →
          ∃ choices, Allows property artifacts.component.content choices ∧
            Offers property artifacts.catalog.content choices ∧ .quoted className ∈ choices)

theorem Catalog.argument_of_findProperty? {component : Component} {key : String}
    (notToggle : ∀ property, component.findProperty? (camelCase key) = some property →
      property.kind ≠ .toggle) (value : String) :
    argument component key value = (camelCase key, .quoted (lower value)) := by
  rw [argument]
  cases found : component.findProperty? (camelCase key) with
  | none => simp
  | some property => simp [notToggle property found]

theorem argument_eq_quoted {component : Component} {key : String}
    (noToggle : ∀ property ∈ component.properties, property.kind = .toggle →
      property.identifier ≠ camelCase key) (value : String) :
    Catalog.argument component key value = (camelCase key, .quoted (lower value)) := by
  refine Catalog.argument_of_findProperty? (fun property found toggle => ?_) value
  have isProperty := List.mem_of_find?_eq_some found
  have same : property.identifier = camelCase key := by simpa using List.find?_some found
  exact noToggle property isProperty toggle same

theorem tellsValue_argument {document : Node} {url : String} {settings : Settings}
    (entry : String × String) :
    TellsValue (Component.ofNode document) (Artifacts.generate document url settings) entry
      (Catalog.argument (Component.ofNode document) entry.1 entry.2) := by
  refine ⟨rfl, fun noToggle => ⟨lower entry.2, ?_, ?_, ?_⟩⟩
  · rw [argument_eq_quoted noToggle]
  · intro rule written
    rw [← written.className]
    exact ⟨rfl, defines_render written.mem⟩
  · intro property isProperty isVariant _ options hasOptions isOption
    obtain ⟨option, others, rfl⟩ := List.exists_cons_of_ne_nil (List.ne_nil_of_mem isOption)
    refine ⟨_, allows_render _ settings isProperty isVariant hasOptions,
      offers_render _ url settings isProperty isVariant hasOptions, ?_⟩
    exact List.mem_map_of_mem (List.mem_map_of_mem isOption)

theorem artifacts_agree (document : Node) (url : String) (settings : Settings) :
    let component := Component.ofNode document
    let artifacts := Artifacts.generate document url settings
    (∃ parameters, Destructures artifacts.name artifacts.component.content parameters ∧
      Presets artifacts.name artifacts.catalog.content parameters ∧
      parameters = component.properties.map fun property =>
        (property.identifier, property.defaultLiteral)) ∧
    (∀ property ∈ component.properties, property.kind = .variant →
      ∀ options, property.options = some options → options ≠ [] →
        ∃ choices, Allows property artifacts.component.content choices ∧
          Offers property artifacts.catalog.content choices ∧
          choices = options.map fun option => .quoted (lower option)) ∧
    (∀ variant ∈ Catalog.firstOfEach [] component.variants, ∃ arguments,
      Tells (Catalog.storyName variant) artifacts.catalog.content arguments ∧
      List.Forall₂ (TellsValue component artifacts) variant.values.entries arguments) ∧
    (∀ rule ∈ Stylesheet.variantRules component, ∃ value,
      Stylesheet.WrittenFor component value rule) := by
  intro component artifacts
  refine ⟨⟨component.parameters, destructures_render _ component settings,
    presets_render _ component url settings, rfl⟩, ?_, ?_, fun _ => Stylesheet.exists_writtenFor⟩
  · intro property isProperty isVariant options hasOptions nonempty
    obtain ⟨option, others, rfl⟩ := List.exists_cons_of_ne_nil nonempty
    exact ⟨_, allows_render _ settings isProperty isVariant hasOptions,
      offers_render _ url settings isProperty isVariant hasOptions, by simp⟩
  · intro variant isTold
    refine ⟨_, tells_render _ component url settings isTold, ?_⟩
    rw [List.forall₂_map_right_iff, List.forall₂_same]
    exact fun entry _ => tellsValue_argument entry

def sizeSet : Node :=
  let member (name mode : String) : Node :=
    { Node.blank with
      name, type := .component, layout := { (default : AutoLayout) with mode := some mode } }
  { Node.blank with
    name := "Chip", type := .componentSet
    properties := .ofList [("Size", ⟨.variant, .text "Large", some ["Large", "Small"]⟩)]
    children := [member "Size=Large" "HORIZONTAL", member "Size=Small" "VERTICAL"] }

def sizeProperty : Property :=
  ⟨"Size", .variant, .text "Large", some ["Large", "Small"]⟩

def smallRule : StyleRule :=
  ⟨"small", .ofList [("flex-direction", .text "column")]⟩

theorem properties_sizeSet : (Component.ofNode sizeSet).properties = [sizeProperty] := by
  rfl

theorem writtenFor_sizeSet :
    Stylesheet.WrittenFor (Component.ofNode sizeSet) "Small" smallRule :=
  ⟨[], smallRule.declarations, [], by rfl, by rfl⟩

theorem exists_small :
    ∃ small ∈ Catalog.firstOfEach [] (Component.ofNode sizeSet).variants,
      small.values.entries = [("Size", "Small")] := by
  have found : ((Catalog.firstOfEach [] (Component.ofNode sizeSet).variants).any
      fun variant => variant.values.entries == [("Size", "Small")]) = true := by rfl
  obtain ⟨small, isTold, entries⟩ := List.any_eq_true.mp found
  exact ⟨small, isTold, beq_iff_eq.mp entries⟩

theorem artifacts_agree_sizeSet :
    let url := "https://www.figma.com/design/ABC123?node-id=1-1"
    let component := Component.ofNode sizeSet
    let artifacts := Artifacts.generate sizeSet url .standard
    sizeProperty ∈ component.properties ∧
      Stylesheet.WrittenFor component "Small" smallRule ∧
      (∃ choices, Allows sizeProperty artifacts.component.content choices ∧
        Offers sizeProperty artifacts.catalog.content choices ∧
        choices = [.quoted "large", .quoted "small"]) ∧
      ∃ small ∈ Catalog.firstOfEach [] component.variants,
        Tells (Catalog.storyName small) artifacts.catalog.content
          [("size", .quoted smallRule.className)] ∧
        Defines smallRule.className artifacts.stylesheet.content ∧
        ∃ choices, Allows sizeProperty artifacts.component.content choices ∧
          Offers sizeProperty artifacts.catalog.content choices ∧
          .quoted smallRule.className ∈ choices := by
  intro url component artifacts
  obtain ⟨small, isTold, entries⟩ := exists_small
  obtain ⟨_, offered, stories, _⟩ := artifacts_agree sizeSet url .standard
  obtain ⟨arguments, tells, each⟩ := stories small isTold
  rw [entries] at each
  have isProperty : sizeProperty ∈ component.properties := by
    rw [properties_sizeSet]
    exact List.mem_singleton_self _
  have noToggle : ∀ property ∈ component.properties, property.kind = .toggle →
      property.identifier ≠ camelCase "Size" := by
    rw [properties_sizeSet]
    simp [sizeProperty]
  have size : camelCase "Size" = "size" := by rfl
  have lowered : ["Large", "Small"].map (fun option => Literal.quoted (lower option)) =
      [.quoted "large", .quoted "small"] := by rfl
  have both := offered sizeProperty isProperty rfl _ rfl (List.cons_ne_nil _ _)
  rw [lowered] at both
  cases each with
  | @cons _ argument _ others first rest =>
      cases rest
      obtain ⟨named, tellsClass⟩ := first
      obtain ⟨className, isQuoted, rules, choices⟩ := tellsClass noToggle
      obtain ⟨sameClass, defined⟩ := rules smallRule writtenFor_sizeSet
      have isChoice := choices sizeProperty isProperty rfl rfl _ rfl
        (List.mem_cons_of_mem _ (List.mem_singleton_self "Small"))
      subst sameClass
      have whole : argument = ("size", .quoted smallRule.className) :=
        Prod.ext (named.trans size) isQuoted
      rw [whole] at tells
      exact ⟨isProperty, writtenFor_sizeSet, both, small, isTold, tells, defined, isChoice⟩

end DesignToCode
