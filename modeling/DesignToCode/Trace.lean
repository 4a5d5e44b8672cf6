import DesignToCode.Output.Artifacts

/-!
What is reported while a document is turned into files, in the order in which it happens.
-/

namespace DesignToCode

open DesignToCode.Text

inductive Level where
  | trace
  | debug
  | info
  | warn
  deriving DecidableEq, Repr

def Level.label : Level → String
  | .trace => "TRACE"
  | .debug => "DEBUG"
  | .info => "INFO"
  | .warn => "WARN"

def Level.rank : Level → Nat
  | .trace => 0
  | .debug => 1
  | .info => 2
  | .warn => 3

structure Event where
  level : Level
  target : String
  message : String
  deriving DecidableEq, Repr

namespace Event

def line (event : Event) : String :=
  event.level.label ++ " " ++ event.target ++ ": " ++ event.message

end Event

namespace Trace

def parsing (message : String) : Event :=
  ⟨.debug, "figma_codegen::parse", message⟩

def ofVariantName (name : String) : List Event :=
  (VariantName.dropped name).map fun segment =>
    parsing ("dropping variant segment " ++ quoted segment ++ " of " ++ quoted name)

def ofRuling : Property.Ruling → List Event
  | .kept _ => []
  | .unsupported key => [parsing ("skipping unsupported component property " ++ quoted key)]
  | .repeated key =>
    [parsing ("duplicate component property " ++ quoted key ++ ", keeping the first")]

def ofProperties (definitions : OrderedMap PropertyDefinition) : List Event :=
  (Property.rulings [] definitions.entries).flatMap ofRuling

def ofClaim (scope : Naming.ClassScope) (name : String) : List Event :=
  let base := Naming.className name
  let issued := scope.issue name
  if issued = base then []
  else
    [⟨.debug, "figma_codegen::naming",
      "class name " ++ quoted base ++ " taken, using " ++ quoted issued⟩]

def ofLeftOut (node : Node) : List Event :=
  if node.visible then
    [parsing ("eliding " ++ node.type.label ++ " node " ++ quoted node.name ++
      " (" ++ node.id ++ ")")]
  else [parsing ("eliding hidden node " ++ quoted node.name ++ " (" ++ node.id ++ ")")]

mutual

def ofNode (scope : Naming.ClassScope) : Node → List Event
  | node@⟨_, _, _, _, children, _, _, _, _, _, _⟩ =>
    ofClaim scope node.name ++
      if node.kind = .text then [] else ofNodes (scope.claim node.name).2 children

def ofNodes (scope : Naming.ClassScope) : List Node → List Event
  | [] => []
  | node :: rest =>
    if node.isKept then ofNode scope node ++ ofNodes (Element.ofNode scope node).2 rest
    else ofLeftOut node ++ ofNodes scope rest

end

def ofSet (node : Node) : List Event :=
  let component := Component.ofSet node
  let members := Component.members node
  let scope := Component.scope (Component.reservedNames members component.properties)
  let ofTrees :=
    if members.isEmpty then
      ⟨.warn, "figma_codegen::parse", "component set " ++ quoted node.name ++
        " has no visible variants, parsing it as a container"⟩ :: ofNode scope node
    else members.flatMap (ofNode scope)
  ofProperties node.properties ++ members.flatMap (fun member => ofVariantName member.name) ++
    ofTrees ++
    [parsing ("component set " ++ quoted node.name ++ ": " ++
      Decimal.natText component.properties.length ++ " props, " ++
      Decimal.natText component.variants.length ++ " variants")]

def ofDocument (document : Node) : List Event :=
  if document.kind = .componentSet then ofSet document
  else ofNode (Component.scope []) document

def ofStylesheet (component : Component) : List Event :=
  (Stylesheet.clashes component).map fun value =>
    ⟨.debug, "figma_codegen::emit::stylesheet",
      "variant value " ++ quoted value ++ " clashes with the base class, skipping"⟩

def ofCatalog (component : Component) : List Event :=
  (Catalog.repeated [] component.variants).map fun name =>
    ⟨.debug, "figma_codegen::emit::catalog",
      "duplicate story name " ++ quoted name ++ ", keeping the first"⟩

def overall (message : String) : Event :=
  ⟨.info, "figma_codegen", message⟩

def byteCount (file : OutputFile) : String :=
  Decimal.natText file.content.utf8ByteSize ++ " bytes"

def ofGeneration (document : Node) (url : String) (settings : Settings) : List Event :=
  let component := Component.ofNode document
  let artifacts := Artifacts.generate document url settings
  [overall ("generating " ++ artifacts.name ++ " from " ++ quoted document.name ++
    " (" ++ document.id ++ ")")] ++
  ofDocument document ++
  [overall ("parsed IR: " ++ Decimal.natText component.root.children.length ++ " children, " ++
    Decimal.natText component.properties.length ++ " props, " ++
    Decimal.natText component.variants.length ++ " variants")] ++
  ofStylesheet component ++ ofCatalog component ++
  [overall ("emitted component (" ++ byteCount artifacts.component ++ "), stylesheet (" ++
    byteCount artifacts.stylesheet ++ "), catalog (" ++ byteCount artifacts.catalog ++ ")")]

end Trace

end DesignToCode
