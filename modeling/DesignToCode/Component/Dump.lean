import DesignToCode.Component
import DesignToCode.Json.Printer

/-!
A component as JSON, for looking at what was made of a design.
-/

namespace DesignToCode

open Json

def StyleValue.toJson : StyleValue → Json
  | .text value => .text value
  | .number value => .number (.real value)

def StyleMap.toJson (styles : StyleMap) : Json :=
  .record (styles.entries.map fun entry => (entry.1, entry.2.toJson))

def PropertyValue.toJson : PropertyValue → Json
  | .flag value => .flag value
  | .text value => .text value

def PropertyKind.label : PropertyKind → String
  | .variant => "variant"
  | .toggle => "boolean"
  | .text => "text"

def Property.toJson (property : Property) : Json :=
  .record ([("name", .text property.name), ("kind", .text property.kind.label),
    ("defaultValue", property.default.toJson)] ++
    match property.options with
    | some options => [("options", .list (options.map .text))]
    | none => [])

def Tag.label : Tag → String
  | .block => "block"
  | .inline => "inline"

namespace Element

def record (element : Element) (children : List Json) (extra : List (String × Json)) : Json :=
  .record ([("tag", .text element.tag.label), ("className", .text element.className),
    ("styles", StyleMap.toJson element.styles)] ++
    (match element.text with
      | some text => [("text", .text text)]
      | none => []) ++
    [("children", .list children)] ++ extra ++ [("sourceName", .text element.source)])

mutual

def toJson : Element → Json
  | element@⟨_, _, _, _, children, _⟩ => element.record (toJsons children) []

def toJsons : List Element → List Json
  | [] => []
  | element :: rest => element.toJson :: toJsons rest

end

end Element

def Variant.toJson (variant : Variant) : Json :=
  .record [("displayName", .text variant.displayName),
    ("propertyValues", .record (variant.values.entries.map fun entry => (entry.1, .text entry.2))),
    ("node", variant.root.toJson)]

def listField (name : String) (items : List Json) : List (String × Json) :=
  if items.isEmpty then [] else [(name, .list items)]

def Component.toJson (component : Component) : Json :=
  component.root.record (Element.toJsons component.root.children)
    (listField "componentProps" (component.properties.map Property.toJson) ++
      listField "variants" (component.variants.map Variant.toJson))

def Component.dump (component : Component) : String :=
  Json.pretty 0 component.toJson

end DesignToCode
