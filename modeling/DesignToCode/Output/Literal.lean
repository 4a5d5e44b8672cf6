import DesignToCode.Component
import DesignToCode.Text.Pieces

/-!
Values as they stand in generated modules.
-/

namespace DesignToCode

inductive Literal where
  | flag (value : Bool)
  | quoted (value : String)
  deriving DecidableEq, Repr, Inhabited

namespace Literal

def escapedChar (c : Char) : List Char :=
  if c = '\\' then ['\\', '\\']
  else if c = '\'' then ['\\', '\'']
  else if c = '\n' then ['\\', 'n']
  else [c]

def quote (text : String) : String :=
  String.ofList ('\'' :: text.toList.flatMap escapedChar ++ ['\''])

def text : Literal → String
  | .flag value => if value then "true" else "false"
  | .quoted value => quote value

end Literal

namespace Property

def defaultLiteral (property : Property) : Literal :=
  match property.kind with
  | .toggle => .flag property.default.isTrue
  | .variant | .text => .quoted property.default.lower

def choiceLiterals? (property : Property) : Option (List Literal) :=
  match property.kind, property.options with
  | .variant, some (_ :: _) => some (property.choices.map .quoted)
  | _, _ => none

end Property

def Component.parameters (component : Component) : List (String × Literal) :=
  component.properties.map fun property => (property.identifier, property.defaultLiteral)

def literalList (separator : String) (literals : List Literal) : String :=
  Text.join separator (literals.map Literal.text)

end DesignToCode
