import DesignToCode.Json.Reader

/-!
What a project can choose about the generated files.
-/

namespace DesignToCode

open Json

structure Settings where
  catalogGroup : String
  catalogLayout : String
  autodocs : Bool
  componentExtension : String
  stylesheetExtension : String
  catalogExtension : String
  outputDirectory : String
  deriving DecidableEq, Repr

namespace Settings

def standard : Settings where
  catalogGroup := "Components"
  catalogLayout := "centered"
  autodocs := true
  componentExtension := "tsx"
  stylesheetExtension := "module.css"
  catalogExtension := "stories.ts"
  outputDirectory := "src/components"

instance : Inhabited Settings :=
  ⟨standard⟩

variable {ν : Type} [Readable ν]

def fields : List (Field ν Settings) := [
  defaulted "catalog_group" readString? fun settings catalogGroup =>
    { settings with catalogGroup },
  defaulted "catalog_layout" readString? fun settings catalogLayout =>
    { settings with catalogLayout },
  defaulted "autodocs" readFlag fun settings autodocs =>
    { settings with autodocs },
  defaulted "component_ext" readString? fun settings componentExtension =>
    { settings with componentExtension },
  defaulted "stylesheet_ext" readString? fun settings stylesheetExtension =>
    { settings with stylesheetExtension },
  defaulted "catalog_ext" readString? fun settings catalogExtension =>
    { settings with catalogExtension },
  defaulted "output_dir" readString? fun settings outputDirectory =>
    { settings with outputDirectory }]

def read (value : ν) : Except Fault Settings :=
  readRecord "Config" standard fields value

def ofText (text : String) : Except Fault Settings :=
  Json.readText (fun draft => read (Place.mk draft deepest)) text

end Settings

end DesignToCode
