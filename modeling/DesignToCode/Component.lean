import DesignToCode.Component.Element
import DesignToCode.Component.Property
import DesignToCode.Component.VariantName

/-!
Components: one variant for each visible member of a set, the first of which is the base.
-/

namespace DesignToCode

structure Variant where
  displayName : String
  values : OrderedMap String
  root : Element
  deriving Inhabited

structure Component where
  root : Element
  properties : List Property
  variants : List Variant
  deriving Inhabited

namespace Component

def textProperty? (component : Component) : Option Property :=
  component.properties.find? (·.kind == .text)

def findProperty? (component : Component) (identifier : String) : Option Property :=
  component.properties.find? (·.identifier == identifier)

def members (node : Node) : List Node :=
  node.children.filter fun child => child.visible && child.kind == .componentMember

/-- The classes that a style sheet has beside those of elements: one for each value of a member, and
one for each toggle. -/
def reservedNames (members : List Node) (properties : List Property) : List String :=
  members.flatMap (fun member => (VariantName.parse member.name).values.map Text.lower) ++
    (properties.filter (·.kind == .toggle)).map Property.identifier

def scope (reserved : List String) : Naming.ClassScope :=
  (Naming.ClassScope.empty.reserve baseClass).reserveAll reserved

def variantOf (scope : Naming.ClassScope) (member : Node) : Variant :=
  let values := VariantName.parse member.name
  ⟨VariantName.display values, values, (Element.ofNode scope member).1⟩

/-- All variants draw their class names from the same scope. A set without members is built like any
other node. -/
def ofSet (node : Node) : Component :=
  let properties := Property.ofDefinitions node.properties
  let scope := scope (reservedNames (members node) properties)
  let variants := (members node).map (variantOf scope)
  let base :=
    match variants with
    | first :: _ => first.root
    | [] => (Element.ofNode scope node).1
  ⟨{ base with source := node.name }, properties, variants⟩

def ofNode (node : Node) : Component :=
  if node.kind = .componentSet then ofSet node
  else ⟨(Element.ofNode (scope []) node).1, [], []⟩

end Component

end DesignToCode
