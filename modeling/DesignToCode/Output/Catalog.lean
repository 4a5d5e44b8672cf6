import DesignToCode.Output.Literal
import DesignToCode.Settings

/-!
The Storybook module of a component: its meta entry and one story for each variant name.
-/

namespace DesignToCode

inductive Control where
  | select (choices : List Literal)
  | toggle
  | text
  deriving DecidableEq, Repr

/-- Without arguments a story shows the defaults. -/
structure Story where
  name : String
  args : Option (List (String × Literal))
  deriving DecidableEq, Repr

namespace Catalog

open DesignToCode.Text

def defaultStory : String :=
  "Default"

def controlOf (property : Property) : Control :=
  match property.choiceLiterals? with
  | some choices => .select choices
  | none => if property.kind = .toggle then .toggle else .text

/-- The argument for one value of a variant: a boolean for a toggle, else the value in small
letters. -/
def argument (component : Component) (key value : String) : String × Literal :=
  let identifier := Naming.camelCase key
  let isToggle : Bool :=
    match component.findProperty? identifier with
    | some property => property.kind == .toggle
    | none => false
  (identifier,
    if isToggle then .flag (PropertyValue.isTrue (.text value)) else .quoted (lower value))

def storyName (variant : Variant) : String :=
  if variant.displayName.isEmpty then defaultStory else variant.displayName

def storyOf (component : Component) (variant : Variant) : Story :=
  ⟨storyName variant,
    some (variant.values.entries.map fun entry => argument component entry.1 entry.2)⟩

def firstOfEach (seen : List String) : List Variant → List Variant
  | [] => []
  | variant :: rest =>
    if seen.contains (storyName variant) then firstOfEach seen rest
    else variant :: firstOfEach (storyName variant :: seen) rest

def repeated (seen : List String) : List Variant → List String
  | [] => []
  | variant :: rest =>
    if seen.contains (storyName variant) then storyName variant :: repeated seen rest
    else repeated (storyName variant :: seen) rest

def stories (component : Component) : List Story :=
  if component.variants.isEmpty then [⟨defaultStory, none⟩]
  else (firstOfEach [] component.variants).map (storyOf component)

def controlLines (property : Property) : List String :=
  let name := property.identifier
  match controlOf property with
  | .select choices =>
    ["    " ++ name ++ ": \x7b", "      control: 'select',",
      "      options: [" ++ literalList ", " choices ++ "],", "    \x7d,"]
  | .toggle => ["    " ++ name ++ ": \x7b control: 'boolean' \x7d,"]
  | .text => ["    " ++ name ++ ": \x7b control: 'text' \x7d,"]

def argTypesLines (component : Component) : List String :=
  if component.properties.isEmpty then []
  else ["  argTypes: \x7b"] ++ component.properties.flatMap controlLines ++ ["  \x7d,"]

def argumentLine (argument : String × Literal) : String :=
  "    " ++ argument.1 ++ ": " ++ argument.2.text ++ ","

def metaLines (name : String) (component : Component) (url : String) (settings : Settings) :
    List String :=
  ["const meta = \x7b",
    "  title: " ++ Literal.quote (settings.catalogGroup ++ "/" ++ name) ++ ",",
    "  component: " ++ name ++ ",",
    "  parameters: \x7b",
    "    layout: " ++ Literal.quote settings.catalogLayout ++ ",",
    "    design: \x7b",
    "      type: 'figma',",
    "      url: " ++ Literal.quote url ++ ",",
    "    \x7d,",
    "  \x7d,"] ++
  (if settings.autodocs then ["  tags: ['autodocs'],"] else []) ++
  argTypesLines component ++
  ["  args: \x7b", "    onClick: fn(),"] ++
  component.parameters.map argumentLine ++
  ["  \x7d,", "\x7d satisfies Meta<typeof " ++ name ++ ">;"]

def storyLines (story : Story) : List String :=
  match story.args with
  | none => ["export const " ++ story.name ++ ": Story = \x7b\x7d;", ""]
  | some args =>
    ["export const " ++ story.name ++ ": Story = \x7b", "  args: \x7b"] ++
      args.map argumentLine ++ ["  \x7d,", "\x7d;", ""]

def lines (name : String) (component : Component) (url : String) (settings : Settings) :
    List String :=
  ["import type \x7b Meta, StoryObj \x7d from '@storybook/react-vite';",
    "import \x7b fn \x7d from 'storybook/test';",
    "import \x7b " ++ name ++ " \x7d from './" ++ name ++ "';",
    ""] ++
  metaLines name component url settings ++
  ["", "export default meta;", "type Story = StoryObj<typeof meta>;", ""] ++
  (stories component).flatMap storyLines

def render (name : String) (component : Component) (url : String) (settings : Settings) :
    String :=
  join "\n" (lines name component url settings)

end Catalog

end DesignToCode
