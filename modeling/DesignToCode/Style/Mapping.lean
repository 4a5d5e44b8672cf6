import DesignToCode.Style.Measure
import DesignToCode.Style.StyleMap
import DesignToCode.Text.Pieces

/-!
The CSS declarations for the visual attributes of a node.
-/

namespace DesignToCode.Style

open DesignToCode.Text

def primaryAlignments : List (String × String) := [
  ("MIN", "flex-start"), ("CENTER", "center"), ("MAX", "flex-end"),
  ("SPACE_BETWEEN", "space-between")]

def counterAlignments : List (String × String) := [
  ("MIN", "flex-start"), ("CENTER", "center"), ("MAX", "flex-end"), ("BASELINE", "baseline")]

def textAlignments : List (String × String) := [
  ("LEFT", "left"), ("CENTER", "center"), ("RIGHT", "right"), ("JUSTIFIED", "justify")]

def lookUp (table : List (String × String)) (key : Option String) : Option String :=
  key.bind fun key => table.lookup key

def layout (node : Node) : StyleMap :=
  match node.layout.mode with
  | none => .empty
  | some mode =>
    if mode == "NONE" then .empty
    else
      let direction := if mode == "VERTICAL" then "column" else "row"
      let flex := (StyleMap.text "display" "flex").insert "flex-direction" (.text direction)
      if node.layout.wrap == some "WRAP" then flex.insert "flex-wrap" (.text "wrap") else flex

def alignment (node : Node) : StyleMap :=
  (StyleMap.textWhen "justify-content" (lookUp primaryAlignments node.layout.primaryAlign)).merge
    (StyleMap.textWhen "align-items" (lookUp counterAlignments node.layout.counterAlign))

structure Sides where
  top : Float
  right : Float
  bottom : Float
  left : Float

def Sides.ofPadding (layout : AutoLayout) : Sides where
  top := layout.paddingTop.getD 0
  right := layout.paddingRight.getD 0
  bottom := layout.paddingBottom.getD 0
  left := layout.paddingLeft.getD 0

/-- One value when all sides agree, two when opposite sides do, else all four. -/
def Sides.shorthand (sides : Sides) : String :=
  if sides.top == sides.right && sides.right == sides.bottom && sides.bottom == sides.left then
    px sides.top
  else if sides.top == sides.bottom && sides.left == sides.right then
    px sides.top ++ " " ++ px sides.right
  else
    px sides.top ++ " " ++ px sides.right ++ " " ++ px sides.bottom ++ " " ++ px sides.left

def padding (sides : Sides) : StyleMap :=
  if sides.top != 0 || sides.right != 0 || sides.bottom != 0 || sides.left != 0 then
    StyleMap.text "padding" sides.shorthand
  else .empty

def above (limit : Float) (x : Option Float) : Option Float :=
  x.filter fun x => x > limit

def nonZero (x : Option Float) : Option Float :=
  x.filter fun x => x != 0

def spacing (node : Node) : StyleMap :=
  (StyleMap.textWhen "gap" ((above 0 node.layout.gap).map px)).merge
    (padding (Sides.ofPadding node.layout))

def extent (mode : Option String) (size : Option Float) : Option String :=
  match mode with
  | none => none
  | some mode =>
    if mode == "FIXED" then size.map px
    else if mode == "FILL" then some "100%"
    else none

def size (node : Node) : StyleMap :=
  let box := node.sizing.box
  (StyleMap.textWhen "width" (extent node.sizing.horizontal (box.map (·.width)))).merge
    (StyleMap.textWhen "height" (extent node.sizing.vertical (box.map (·.height))))

def firstSolid : List Paint → Option (Paint × Color)
  | [] => none
  | paint :: rest =>
    if paint.visible && paint.type == "SOLID" then
      match paint.color with
      | some color => some (paint, color)
      | none => firstSolid rest
    else firstSolid rest

/-- The fill colours the letters of a text and the background of anything else. The paint's own
opacity goes before the alpha value of its colour. -/
def fill (node : Node) (isText : Bool) : StyleMap :=
  match firstSolid node.appearance.fills with
  | none => .empty
  | some (paint, color) =>
    let alpha := (paint.opacity.or color.alpha).getD 1
    StyleMap.text (if isText then "color" else "background-color") (cssColor color alpha)

/-- A border has the alpha value of its colour alone. -/
def border (node : Node) : StyleMap :=
  match above 0 node.appearance.strokeWeight, firstSolid node.appearance.strokes with
  | some weight, some (_, color) =>
    StyleMap.text "border" (px weight ++ " solid " ++ cssColor color (color.alpha.getD 1))
  | _, _ => .empty

def cornerRadius (node : Node) : StyleMap :=
  match node.appearance.cornerRadii with
  | some [topLeft, topRight, bottomRight, bottomLeft] =>
    if topLeft == topRight && topRight == bottomRight && bottomRight == bottomLeft then
      if topLeft > 0 then StyleMap.text "border-radius" (px topLeft) else .empty
    else
      StyleMap.text "border-radius"
        (px topLeft ++ " " ++ px topRight ++ " " ++ px bottomRight ++ " " ++ px bottomLeft)
  | _ => StyleMap.textWhen "border-radius" ((above 0 node.appearance.cornerRadius).map px)

def fontFamily (style : TypeStyle) : StyleMap :=
  StyleMap.textWhen "font-family"
    ((style.fontFamily.filter fun family => !family.isEmpty).map
      fun family => "'" ++ family ++ "', sans-serif")

def fontWeight (style : TypeStyle) : StyleMap :=
  match nonZero style.fontWeight with
  | some weight => StyleMap.one "font-weight" (.number weight)
  | none => .empty

def lineHeight (style : TypeStyle) : StyleMap :=
  match nonZero style.lineHeight, nonZero style.fontSize with
  | some height, some size => StyleMap.text "line-height" (Decimal.plain (round2 (height / size)))
  | _, _ => .empty

def textStyle (node : Node) : StyleMap :=
  match node.typeStyle with
  | none => .empty
  | some style =>
    (fontFamily style)
      |>.merge (StyleMap.textWhen "font-size" ((nonZero style.fontSize).map px))
      |>.merge (fontWeight style)
      |>.merge (lineHeight style)
      |>.merge (StyleMap.textWhen "letter-spacing"
        ((nonZero style.letterSpacing).map fun spacing => px (round2 spacing)))
      |>.merge (StyleMap.textWhen "text-align" (lookUp textAlignments style.align))

def dropShadow (effect : Effect) : Option String :=
  if effect.visible && effect.type == "DROP_SHADOW" then
    effect.color.map fun color =>
      let offset := effect.offset.getD ⟨0, 0⟩
      px offset.x ++ " " ++ px offset.y ++ " " ++ px (effect.radius.getD 0) ++ " " ++
        px (effect.spread.getD 0) ++ " " ++ cssColor color (color.alpha.getD 1)
  else none

def effects (node : Node) : StyleMap :=
  let shadows := node.appearance.effects.filterMap dropShadow
  if shadows.isEmpty then .empty else StyleMap.text "box-shadow" (join ", " shadows)

def opacity (node : Node) : StyleMap :=
  match node.appearance.opacity.filter fun x => x < 1 with
  | some x => StyleMap.one "opacity" (.number (round2 x))
  | none => .empty

def aspects (node : Node) (isText : Bool) : List StyleMap :=
  [layout node, alignment node, spacing node, size node, fill node isText, border node,
    cornerRadius node] ++
  (if isText then [textStyle node] else []) ++
  [effects node, opacity node]

def styles (node : Node) (isText : Bool) : StyleMap :=
  (aspects node isText).foldl OrderedMap.merge .empty

end DesignToCode.Style
