import DesignToCode.Output.Literal
import DesignToCode.Output.Markup
import DesignToCode.Settings

/-!
The module of a React component.
-/

namespace DesignToCode.ComponentFile

open DesignToCode.Text

def clickHandler : String :=
  "onClick"

inductive PropertyForm where
  | union (choices : List Literal)
  | toggle
  | text
  deriving DecidableEq, Repr

def formOf (property : Property) : PropertyForm :=
  match property.choiceLiterals? with
  | some choices => .union choices
  | none => if property.kind = .toggle then .toggle else .text

def PropertyForm.type : PropertyForm → String
  | .union choices => literalList " | " choices
  | .toggle => "boolean"
  | .text => "string"

/-- The classes that a property adds to the root: a variant property looks one up by its value, and
a toggle turns on the one of its own name. -/
def classPart? (property : Property) : Option String :=
  match property.kind with
  | .variant => some ("styles[" ++ property.identifier ++ "]")
  | .toggle =>
    some (property.identifier ++ " ? " ++ Markup.classRef property.identifier ++ " : ''")
  | .text => none

def classExpression (component : Component) : String :=
  let base := Markup.classRef baseClass
  match component.properties.filterMap classPart? with
  | [] => base
  | parts => "[" ++ join ", " (base :: parts) ++ "].filter(Boolean).join(' ')"

def interfaceLines (name : String) (component : Component) : List String :=
  ["export interface " ++ name ++ "Props \x7b"] ++
  component.properties.flatMap (fun property =>
    ["  /** " ++ property.name ++ " */",
      "  " ++ property.identifier ++ "?: " ++ (formOf property).type ++ ";"]) ++
  ["  /** Optional click handler */", "  " ++ clickHandler ++ "?: () => void;", "\x7d"]

def parameterLines (component : Component) : List String :=
  component.parameters.map (fun parameter =>
    "  " ++ parameter.1 ++ " = " ++ parameter.2.text ++ ",") ++
  ["  " ++ clickHandler ++ ",", "  ...props"]

def rootTag (component : Component) : String :=
  "    <div className=" ++ Markup.braced (classExpression component) ++ " " ++ clickHandler ++
    "=" ++ Markup.braced clickHandler ++ " " ++ Markup.braced "...props" ++ ">"

def bodyLines (component : Component) : List String :=
  (match component.rootContent? with
    | some content => ["      " ++ content.text]
    | none => []) ++
  Markup.forestLines 3 component.forest

def lines (name : String) (component : Component) (settings : Settings) : List String :=
  ["import React from 'react';",
    "import styles from './" ++ name ++ "." ++ settings.stylesheetExtension ++ "';",
    ""] ++
  interfaceLines name component ++
  ["", "export const " ++ name ++ " = (\x7b"] ++
  parameterLines component ++
  ["\x7d: " ++ name ++ "Props) => \x7b", "  return (", rootTag component] ++
  bodyLines component ++
  ["    </div>", "  );", "\x7d;", ""]

def render (name : String) (component : Component) (settings : Settings) : String :=
  join "\n" (lines name component settings)

end DesignToCode.ComponentFile
