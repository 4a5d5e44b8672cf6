import DesignToCode.Design.Node
import DesignToCode.Json.Reader

/-!
Design nodes read from JSON: the fields of each record in their order.
-/

namespace DesignToCode

open Json

variable {ν : Type} [Readable ν]

def Box.fields : List (Field ν Box) := [
  defaulted "x" readNumber fun box x => { box with x },
  defaulted "y" readNumber fun box y => { box with y },
  required "width" readNumber fun box width => { box with width },
  required "height" readNumber fun box height => { box with height }]

def Box.read (value : ν) : Except Fault Box :=
  readRecord "BoundingBox" ⟨0, 0, 0, 0⟩ Box.fields value

def Color.fields : List (Field ν Color) := [
  required "r" readNumber fun color red => { color with red },
  required "g" readNumber fun color green => { color with green },
  required "b" readNumber fun color blue => { color with blue },
  optional "a" readNumber fun color alpha => { color with alpha }]

def Color.read (value : ν) : Except Fault Color :=
  readRecord "Color" ⟨0, 0, 0, none⟩ Color.fields value

def Paint.fields : List (Field ν Paint) := [
  required "type" readString? fun paint type => { paint with type },
  defaulted "visible" readFlag fun paint visible => { paint with visible },
  optional "opacity" readNumber fun paint opacity => { paint with opacity },
  optional "color" Color.read fun paint color => { paint with color }]

def Paint.read (value : ν) : Except Fault Paint :=
  readRecord "Paint" ⟨"", true, none, none⟩ Paint.fields value

def Offset.fields : List (Field ν Offset) := [
  required "x" readNumber fun offset x => { offset with x },
  required "y" readNumber fun offset y => { offset with y }]

def Offset.read (value : ν) : Except Fault Offset :=
  readRecord "Offset" ⟨0, 0⟩ Offset.fields value

def Effect.fields : List (Field ν Effect) := [
  required "type" readString? fun effect type => { effect with type },
  defaulted "visible" readFlag fun effect visible => { effect with visible },
  optional "color" Color.read fun effect color => { effect with color },
  optional "offset" Offset.read fun effect offset => { effect with offset },
  optional "radius" readNumber fun effect radius => { effect with radius },
  optional "spread" readNumber fun effect spread => { effect with spread }]

def Effect.read (value : ν) : Except Fault Effect :=
  readRecord "Effect" ⟨"", true, none, none, none, none⟩ Effect.fields value

def TypeStyle.fields : List (Field ν TypeStyle) := [
  optional "fontFamily" readString? fun style fontFamily => { style with fontFamily },
  optional "fontSize" readNumber fun style fontSize => { style with fontSize },
  optional "fontWeight" readNumber fun style fontWeight => { style with fontWeight },
  optional "lineHeightPx" readNumber fun style lineHeight => { style with lineHeight },
  optional "letterSpacing" readNumber fun style letterSpacing => { style with letterSpacing },
  optional "textAlignHorizontal" readString? fun style align => { style with align }]

def TypeStyle.read (value : ν) : Except Fault TypeStyle :=
  readRecord "TypeStyle" ⟨none, none, none, none, none, none⟩ TypeStyle.fields value

def PropertyValue.read (value : ν) : Except Fault PropertyValue := do
  match ← Readable.whole value with
  | .flag found => .ok (.flag found)
  | .text found => .ok (.text found)
  | _ => .error (.mismatch (.noAlternative "PropValue"))

def PropertyType.read (value : ν) : Except Fault PropertyType :=
  (Readable.choice value).map PropertyType.ofName

def PropertyDefinition.fields : List (Field ν PropertyDefinition) := [
  required "type" PropertyType.read fun definition type => { definition with type },
  defaulted "defaultValue" PropertyValue.read fun definition value =>
    { definition with default := value },
  optional "variantOptions" (readList readString?) fun definition options =>
    { definition with options }]

def PropertyDefinition.read (value : ν) : Except Fault PropertyDefinition :=
  readRecord "PropertyDefinition" ⟨.other, .text "", none⟩ PropertyDefinition.fields value

def NodeType.read (value : ν) : Except Fault NodeType :=
  (Readable.choice value).map NodeType.ofName

namespace Node

def setLayout (node : Node) (change : AutoLayout → AutoLayout) : Node :=
  { node with layout := change node.layout }

def setSizing (node : Node) (change : Sizing → Sizing) : Node :=
  { node with sizing := change node.sizing }

def setAppearance (node : Node) (change : Appearance → Appearance) : Node :=
  { node with appearance := change node.appearance }

def layoutFields : List (Field ν Node) := [
  optional "layoutMode" readString? fun node mode =>
    node.setLayout ({ · with mode }),
  optional "layoutWrap" readString? fun node wrap =>
    node.setLayout ({ · with wrap }),
  optional "primaryAxisAlignItems" readString? fun node primaryAlign =>
    node.setLayout ({ · with primaryAlign }),
  optional "counterAxisAlignItems" readString? fun node counterAlign =>
    node.setLayout ({ · with counterAlign }),
  optional "layoutSizingHorizontal" readString? fun node horizontal =>
    node.setSizing ({ · with horizontal }),
  optional "layoutSizingVertical" readString? fun node vertical =>
    node.setSizing ({ · with vertical }),
  optional "itemSpacing" readNumber fun node gap =>
    node.setLayout ({ · with gap }),
  optional "paddingLeft" readNumber fun node paddingLeft =>
    node.setLayout ({ · with paddingLeft }),
  optional "paddingRight" readNumber fun node paddingRight =>
    node.setLayout ({ · with paddingRight }),
  optional "paddingTop" readNumber fun node paddingTop =>
    node.setLayout ({ · with paddingTop }),
  optional "paddingBottom" readNumber fun node paddingBottom =>
    node.setLayout ({ · with paddingBottom }),
  optional "absoluteBoundingBox" Box.read fun node box =>
    node.setSizing ({ · with box })]

def appearanceFields : List (Field ν Node) := [
  defaulted "fills" (readList Paint.read) fun node fills =>
    node.setAppearance ({ · with fills }),
  defaulted "strokes" (readList Paint.read) fun node strokes =>
    node.setAppearance ({ · with strokes }),
  optional "strokeWeight" readNumber fun node strokeWeight =>
    node.setAppearance ({ · with strokeWeight }),
  optional "cornerRadius" readNumber fun node cornerRadius =>
    node.setAppearance ({ · with cornerRadius }),
  optional "rectangleCornerRadii" (readList readNumber) fun node cornerRadii =>
    node.setAppearance ({ · with cornerRadii }),
  optional "opacity" readNumber fun node opacity =>
    node.setAppearance ({ · with opacity }),
  defaulted "effects" (readList Effect.read) fun node effects =>
    node.setAppearance ({ · with effects })]

def fields (child : ν → Except Fault Node) : List (Field ν Node) :=
  [ defaulted "id" readString? fun node id => { node with id },
    defaulted "name" readString? fun node name => { node with name },
    defaulted "type" NodeType.read fun node type => { node with type },
    defaulted "visible" readFlag fun node visible => { node with visible },
    defaulted "children" (readList child) fun node children => { node with children } ] ++
  layoutFields ++ appearanceFields ++
  [ optional "characters" readString? fun node characters => { node with characters },
    optional "style" TypeStyle.read fun node typeStyle => { node with typeStyle },
    defaulted "componentPropertyDefinitions" (readMap PropertyDefinition.read)
      fun node properties => { node with properties } ]

def read : Nat → ν → Except Fault Node
  | 0, _ => .error .malformed
  | depth + 1, value => readRecord "RawNode" blank (fields (read depth)) value

end Node

def Json.depth : Json → Nat
  | .list items => depths items + 1
  | .record fields => depthsOfFields fields + 1
  | _ => 1
where
  depths : List Json → Nat
    | [] => 0
    | item :: rest => if item.depth < depths rest then depths rest else item.depth
  depthsOfFields : List (String × Json) → Nat
    | [] => 0
    | (_, value) :: rest =>
      if value.depth < depthsOfFields rest then depthsOfFields rest else value.depth

def Node.ofJson (value : Json) : Except Fault Node :=
  Node.read value.depth value

/-- Reads a text in one pass, so that the first fault of either kind decides. -/
def Node.ofText (text : String) : Except Fault Node :=
  Json.readText (fun draft => Node.read (deepest + 1) (Place.mk draft deepest)) text

end DesignToCode
