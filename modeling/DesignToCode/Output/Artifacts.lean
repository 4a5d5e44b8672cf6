import DesignToCode.Design.Source
import DesignToCode.DesignLink
import DesignToCode.Output.Catalog
import DesignToCode.Output.ComponentFile
import DesignToCode.Output.Stylesheet

/-!
The three files that a design document becomes.
-/

namespace DesignToCode

structure OutputFile where
  name : String
  content : String
  deriving DecidableEq, Repr, Inhabited

structure Artifacts where
  name : String
  component : OutputFile
  stylesheet : OutputFile
  catalog : OutputFile
  deriving DecidableEq, Repr, Inhabited

namespace Artifacts

def files (artifacts : Artifacts) : List OutputFile :=
  [artifacts.component, artifacts.stylesheet, artifacts.catalog]

def ofComponent (name : String) (component : Component) (url : String) (settings : Settings) :
    Artifacts where
  name := name
  component :=
    ⟨name ++ "." ++ settings.componentExtension, ComponentFile.render name component settings⟩
  stylesheet := ⟨name ++ "." ++ settings.stylesheetExtension, Stylesheet.render component⟩
  catalog :=
    ⟨name ++ "." ++ settings.catalogExtension, Catalog.render name component url settings⟩

def generate (document : Node) (url : String) (settings : Settings) : Artifacts :=
  ofComponent (Naming.componentName document.name) (Component.ofNode document) url settings

/-- Generates from a response, once the link is found to be good and a node to be there. -/
def compile (url : String) (response : Response) (settings : Settings) :
    Except DesignError Artifacts :=
  match DesignLink.parse? url with
  | none => .error (.invalidLink url)
  | some _ => response.firstDocument.map fun found => generate found.2 url settings

end Artifacts

end DesignToCode
