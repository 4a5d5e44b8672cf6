import DesignToCode.Naming.ClassScope
import DesignToCode.Style.Mapping

/-!
The element tree that every generated file is made from.
-/

namespace DesignToCode

inductive Tag where
  | block
  | inline
  deriving DecidableEq, Repr, Inhabited

def Tag.element : Tag → String
  | .block => "div"
  | .inline => "span"

structure Element where
  tag : Tag
  className : String
  styles : StyleMap
  text : Option String
  children : List Element
  source : String
  deriving Inhabited

def baseClass : String :=
  "base"

def Node.isKept (node : Node) : Bool :=
  node.visible && node.kind != .skipped

mutual

/-- The element of a node. A node claims its class name before its children do. -/
def Element.ofNode (scope : Naming.ClassScope) : Node → Element × Naming.ClassScope
  | node@⟨_, _, _, _, children, _, _, _, _, _, _⟩ =>
    let claimed := scope.claim node.name
    if node.kind = .text then
      ({ tag := .inline
         className := claimed.1
         styles := Style.styles node true
         text := some (node.characters.getD "")
         children := []
         source := node.name }, claimed.2)
    else
      let built := Element.ofNodes claimed.2 children
      ({ tag := .block
         className := claimed.1
         styles := Style.styles node false
         text := none
         children := built.1
         source := node.name }, built.2)

def Element.ofNodes (scope : Naming.ClassScope) : List Node → List Element × Naming.ClassScope
  | [] => ([], scope)
  | node :: rest =>
    if node.isKept then
      let first := Element.ofNode scope node
      let later := Element.ofNodes first.2 rest
      (first.1 :: later.1, later.2)
    else Element.ofNodes scope rest

end

end DesignToCode
