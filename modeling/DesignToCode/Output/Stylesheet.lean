import DesignToCode.Component
import DesignToCode.Text.Pieces

/-!
The style sheet of a component: the base rule, a rule for each variant value that changes something,
and a rule for each element class.
-/

namespace DesignToCode

mutual

def Element.descendants : Element → List Element
  | ⟨_, _, _, _, children, _⟩ => Element.forestElements children

def Element.forestElements : List Element → List Element
  | [] => []
  | element :: rest => element :: (element.descendants ++ Element.forestElements rest)

end

structure StyleRule where
  className : String
  declarations : StyleMap
  deriving Inhabited

namespace Stylesheet

open DesignToCode.Text

/-- The first rule of each class; those in `written` have had theirs. -/
def firstOfEach (written : List String) : List StyleRule → List StyleRule
  | [] => []
  | rule :: rest =>
    if written.contains rule.className then firstOfEach written rest
    else rule :: firstOfEach (rule.className :: written) rest

def baseRule (component : Component) : StyleRule :=
  ⟨baseClass, component.root.styles⟩

def delta (component : Component) (variant : Variant) : StyleMap :=
  component.root.styles.diff variant.root.styles

/-- The values of the variants that change something, each with the change. -/
def changes (component : Component) : List (String × StyleMap) :=
  component.variants.flatMap fun variant =>
    let change := delta component variant
    if change.isEmpty then []
    else variant.values.values.map fun value => (value, change)

def isBase (value : String) : Bool :=
  lower value == baseClass

/-- Values that would redefine the base class, which they may not. -/
def clashes (component : Component) : List String :=
  ((changes component).map Prod.fst).filter isBase

def variantRules (component : Component) : List StyleRule :=
  firstOfEach [] (((changes component).filter fun change => !isBase change.1).map
    fun change => ⟨lower change.1, change.2⟩)

def styled (elements : List Element) : List StyleRule :=
  (elements.filter fun element => !element.styles.isEmpty).map
    fun element => ⟨element.className, element.styles⟩

def elementRules (component : Component) : List StyleRule :=
  firstOfEach [] (styled (component.root.descendants ++
    component.variants.flatMap fun variant => variant.root.descendants))

def rules (component : Component) : List StyleRule :=
  baseRule component :: (variantRules component ++ elementRules component)

def declarationLine (entry : String × StyleValue) : String :=
  "  " ++ entry.1 ++ ": " ++ entry.2.display ++ ";"

def ruleLines (rule : StyleRule) : List String :=
  ("." ++ rule.className ++ " \x7b") :: (rule.declarations.entries.map declarationLine ++ ["\x7d"])

def lines : List StyleRule → List String
  | [] => [""]
  | [rule] => ruleLines rule ++ [""]
  | rule :: next :: rest => ruleLines rule ++ "" :: lines (next :: rest)

def render (component : Component) : String :=
  join "\n" (lines (rules component))

end Stylesheet

end DesignToCode
