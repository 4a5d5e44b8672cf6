import DesignToCode.Design.Node
import DesignToCode.Naming

/-!
The properties that a component takes, out of those that its set declares.
-/

namespace DesignToCode

open DesignToCode.Text

inductive PropertyKind where
  | variant
  | toggle
  | text
  deriving DecidableEq, Repr, Inhabited

structure Property where
  name : String
  kind : PropertyKind
  default : PropertyValue
  options : Option (List String)
  deriving DecidableEq, Repr, Inhabited

namespace Property

def identifier (property : Property) : String :=
  Naming.camelCase property.name

def choices (property : Property) : List String :=
  (property.options.getD []).map lower

/-- The declared key without the number that `#` sets off. -/
def nameOfKey (key : String) : String :=
  String.ofList (key.toList.takeWhile (· != '#'))

def ofDefinition? (key : String) (definition : PropertyDefinition) : Option Property :=
  match definition.type with
  | .variant =>
    some ⟨nameOfKey key, .variant, .text definition.default.display, definition.options⟩
  | .toggle => some ⟨nameOfKey key, .toggle, .flag definition.default.isTrue, none⟩
  | .text => some ⟨nameOfKey key, .text, .text definition.default.display, none⟩
  | .instanceSwap | .other => none

inductive Ruling where
  | kept (property : Property)
  | unsupported (key : String)
  | repeated (key : String)
  deriving DecidableEq, Repr

/-- Of definitions with one identifier only the first is kept; `seen` holds the identifiers so far.
-/
def rulings (seen : List String) : List (String × PropertyDefinition) → List Ruling
  | [] => []
  | (key, definition) :: rest =>
    match ofDefinition? key definition with
    | none => .unsupported key :: rulings seen rest
    | some property =>
      if seen.contains property.identifier then .repeated key :: rulings seen rest
      else .kept property :: rulings (property.identifier :: seen) rest

def Ruling.property? : Ruling → Option Property
  | .kept property => some property
  | _ => none

def ofDefinitions (definitions : OrderedMap PropertyDefinition) : List Property :=
  (rulings [] definitions.entries).filterMap Ruling.property?

end Property

end DesignToCode
