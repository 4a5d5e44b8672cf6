import DesignToCode.Text.Blank
import DesignToCode.Text.Normal
import DesignToCode.Text.Pieces

/-!
Names for generated code, made from the free text that designers give to layers.
-/

namespace DesignToCode.Naming

open DesignToCode.Text

def isWordChar (c : Char) : Bool :=
  c.isAlphanum

def isSeparator (c : Char) : Bool :=
  isBlank c || c == '_' || c == '-'

def capitalize : List Char → List Char
  | [] => []
  | first :: rest => first.toUpper :: rest.map Char.toLower

section

variable (normal : List Char → List Char)

def wordsBy (name : String) : List (List Char) :=
  let kept := (normal name.toList).filter fun c => isWordChar c || isSeparator c
  (pieces isSeparator kept).filter fun word => !word.isEmpty

def pascalBy (name : String) : List Char :=
  (wordsBy normal name).flatMap capitalize

def camelBy (name : String) : List Char :=
  match pascalBy normal name with
  | [] => []
  | first :: rest => first.toLower :: rest

def classNameBy (name : String) : String :=
  if (camelBy normal name).isEmpty then "element" else String.ofList (camelBy normal name)

def componentNameBy (name : String) : String :=
  if (pascalBy normal name).isEmpty then "Component" else String.ofList (pascalBy normal name)

end

def words (name : String) : List (List Char) :=
  wordsBy compatible name

def pascalChars (name : String) : List Char :=
  pascalBy compatible name

def camelChars (name : String) : List Char :=
  camelBy compatible name

/-- Turns `primary button` into `PrimaryButton`. -/
def pascalCase (name : String) : String :=
  String.ofList (pascalChars name)

def camelCase (name : String) : String :=
  String.ofList (camelChars name)

def className (name : String) : String :=
  classNameBy compatible name

def componentName (name : String) : String :=
  componentNameBy compatible name

theorem camelChars_eq (name : String) : camelChars name =
    match pascalChars name with
    | [] => []
    | first :: rest => first.toLower :: rest :=
  rfl

theorem className_eq (name : String) :
    className name = if (camelChars name).isEmpty then "element" else camelCase name :=
  rfl

theorem componentName_eq (name : String) :
    componentName name = if (pascalChars name).isEmpty then "Component" else pascalCase name :=
  rfl

end DesignToCode.Naming
