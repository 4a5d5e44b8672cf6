import DesignToCode.OrderedMap
import DesignToCode.Text.Blank
import DesignToCode.Text.Casing

/-!
The node tree of a Figma design, with the attributes that generated code depends on.
-/

namespace DesignToCode

inductive NodeType where
  | document
  | canvas
  | frame
  | group
  | sectionFrame
  | component
  | componentSet
  | componentInstance
  | rectangle
  | ellipse
  | line
  | regularPolygon
  | star
  | vector
  | booleanOperation
  | slice
  | text
  | other
  deriving DecidableEq, Repr, Inhabited

namespace NodeType

def names : List (NodeType × String × String) := [
  (.document, "DOCUMENT", "Document"),
  (.canvas, "CANVAS", "Canvas"),
  (.frame, "FRAME", "Frame"),
  (.group, "GROUP", "Group"),
  (.sectionFrame, "SECTION", "Section"),
  (.component, "COMPONENT", "Component"),
  (.componentSet, "COMPONENT_SET", "ComponentSet"),
  (.componentInstance, "INSTANCE", "Instance"),
  (.rectangle, "RECTANGLE", "Rectangle"),
  (.ellipse, "ELLIPSE", "Ellipse"),
  (.line, "LINE", "Line"),
  (.regularPolygon, "REGULAR_POLYGON", "RegularPolygon"),
  (.star, "STAR", "Star"),
  (.vector, "VECTOR", "Vector"),
  (.booleanOperation, "BOOLEAN_OPERATION", "BooleanOperation"),
  (.slice, "SLICE", "Slice"),
  (.text, "TEXT", "Text")]

def ofName (name : String) : NodeType :=
  match names.find? fun entry => entry.2.1 == name with
  | some (type, _) => type
  | none => .other

def label (type : NodeType) : String :=
  match names.find? fun entry => entry.1 == type with
  | some (_, _, label) => label
  | none => "Other"

end NodeType

/-- How a node is treated: text is a leaf, containers hold children, and skipped nodes are left out
together with what is in them. -/
inductive NodeKind where
  | text
  | container
  | componentSet
  | componentMember
  | skipped
  deriving DecidableEq, Repr

structure Box where
  x : Float
  y : Float
  width : Float
  height : Float
  deriving Repr, Inhabited

structure Color where
  red : Float
  green : Float
  blue : Float
  alpha : Option Float
  deriving Repr, Inhabited

structure Paint where
  type : String
  visible : Bool
  opacity : Option Float
  color : Option Color
  deriving Repr, Inhabited

structure Offset where
  x : Float
  y : Float
  deriving Repr, Inhabited

structure Effect where
  type : String
  visible : Bool
  color : Option Color
  offset : Option Offset
  radius : Option Float
  spread : Option Float
  deriving Repr, Inhabited

structure TypeStyle where
  fontFamily : Option String
  fontSize : Option Float
  fontWeight : Option Float
  lineHeight : Option Float
  letterSpacing : Option Float
  align : Option String
  deriving Repr, Inhabited

inductive PropertyValue where
  | flag (value : Bool)
  | text (value : String)
  deriving DecidableEq, Repr, Inhabited

namespace PropertyValue

def display : PropertyValue → String
  | .flag value => if value then "true" else "false"
  | .text value => value

/-- Of texts only `true` counts as true, in any case and with blanks around it. -/
def isTrue : PropertyValue → Bool
  | .flag value => value
  | .text value => (Text.trimList value.toList).map Char.toLower == "true".toList

def lower (value : PropertyValue) : String :=
  Text.lower value.display

end PropertyValue

inductive PropertyType where
  | variant
  | toggle
  | text
  | instanceSwap
  | other
  deriving DecidableEq, Repr, Inhabited

namespace PropertyType

def ofName (name : String) : PropertyType :=
  if name == "VARIANT" then .variant
  else if name == "BOOLEAN" then .toggle
  else if name == "TEXT" then .text
  else if name == "INSTANCE_SWAP" then .instanceSwap
  else .other

end PropertyType

structure PropertyDefinition where
  type : PropertyType
  default : PropertyValue
  options : Option (List String)
  deriving Repr, Inhabited

structure AutoLayout where
  mode : Option String
  wrap : Option String
  primaryAlign : Option String
  counterAlign : Option String
  gap : Option Float
  paddingLeft : Option Float
  paddingRight : Option Float
  paddingTop : Option Float
  paddingBottom : Option Float
  deriving Repr, Inhabited

structure Sizing where
  horizontal : Option String
  vertical : Option String
  box : Option Box
  deriving Repr, Inhabited

structure Appearance where
  fills : List Paint
  strokes : List Paint
  strokeWeight : Option Float
  cornerRadius : Option Float
  cornerRadii : Option (List Float)
  opacity : Option Float
  effects : List Effect
  deriving Repr, Inhabited

structure Node where
  id : String
  name : String
  type : NodeType
  visible : Bool
  children : List Node
  layout : AutoLayout
  sizing : Sizing
  appearance : Appearance
  characters : Option String
  typeStyle : Option TypeStyle
  properties : OrderedMap PropertyDefinition
  deriving Inhabited

namespace Node

def blank : Node where
  id := ""
  name := ""
  type := .other
  visible := true
  children := []
  layout := default
  sizing := default
  appearance := default
  characters := none
  typeStyle := none
  properties := .empty

def kind (node : Node) : NodeKind :=
  match node.type with
  | .vector | .booleanOperation | .slice | .group => .skipped
  | .text => .text
  | .componentSet => .componentSet
  | .component => .componentMember
  | _ => .container

end Node

end DesignToCode
