import DesignToCode.Component
import DesignToCode.Text.Pieces

/-!
Markup of element trees: what is written between the tags of the root.
-/

namespace DesignToCode

inductive Content where
  | literal (text : String)
  | property (identifier : String)
  deriving DecidableEq, Repr, Inhabited

inductive Markup where
  | textual (tag : Tag) (className : String) (content : Content)
  | parent (tag : Tag) (className : String) (children : List Markup)
  | closed (className : String)
  deriving Repr, Inhabited

namespace Markup

def escapedChar (c : Char) : List Char :=
  if c = '&' then "&amp;".toList
  else if c = '<' then "&lt;".toList
  else if c = '>' then "&gt;".toList
  else if c = '\x7b' then "&#123;".toList
  else if c = '\x7d' then "&#125;".toList
  else [c]

/-- Text in which nothing can be taken for a tag, an entity or an expression. -/
def escape (text : String) : String :=
  String.ofList (text.toList.flatMap escapedChar)

def braced (expression : String) : String :=
  "\x7b" ++ expression ++ "\x7d"

end Markup

def Content.text : Content → String
  | .literal text => Markup.escape text
  | .property identifier => Markup.braced identifier

namespace Markup

/-- The property named `standIn`, if there is one, takes the place of every text. -/
def contentOf (standIn : Option String) (text : String) : Content :=
  match standIn with
  | some identifier => .property identifier
  | none => .literal text

def hasText (element : Element) : Bool :=
  match element.text with
  | some text => !text.isEmpty
  | none => false

mutual

def ofElement (standIn : Option String) : Element → Markup
  | element@⟨tag, className, _, text, children, _⟩ =>
    if hasText element then .textual tag className (contentOf standIn (text.getD ""))
    else if children.isEmpty then .closed className
    else .parent tag className (ofElements standIn children)

def ofElements (standIn : Option String) : List Element → List Markup
  | [] => []
  | element :: rest => ofElement standIn element :: ofElements standIn rest

end

def classRef (className : String) : String :=
  "styles." ++ className

def openTag (tag : Tag) (className : String) : String :=
  "<" ++ tag.element ++ " className=" ++ braced (classRef className) ++ ">"

def closeTag (tag : Tag) : String :=
  "</" ++ tag.element ++ ">"

def closedTag (className : String) : String :=
  "<" ++ Tag.block.element ++ " className=" ++ braced (classRef className) ++ " />"

def indent (level : Nat) : String :=
  String.ofList (List.replicate (2 * level) ' ')

mutual

def lines (level : Nat) : Markup → List String
  | .textual tag className content =>
    [indent level ++ openTag tag className ++ content.text ++ closeTag tag]
  | .parent tag className children =>
    (indent level ++ openTag tag className) ::
      (forestLines (level + 1) children ++ [indent level ++ closeTag tag])
  | .closed className => [indent level ++ closedTag className]

def forestLines (level : Nat) : List Markup → List String
  | [] => []
  | markup :: rest => lines level markup ++ forestLines level rest

end

end Markup

namespace Component

def standIn (component : Component) : Option String :=
  component.textProperty?.map Property.identifier

def forest (component : Component) : List Markup :=
  Markup.ofElements component.standIn component.root.children

def rootContent? (component : Component) : Option Content :=
  if Markup.hasText component.root then
    some (Markup.contentOf component.standIn (component.root.text.getD ""))
  else none

end Component

end DesignToCode
