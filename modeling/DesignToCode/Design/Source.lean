import DesignToCode.Design.Reader

/-!
Where a document comes from: a bare node, or the response of the API to a request for nodes.
-/

namespace DesignToCode

open Json

inductive DesignError where
  | invalidLink (url : String)
  | emptyResponse
  | missingLink (path : String)
  | json (fault : Fault)
  deriving Repr

namespace DesignError

def faultText : Fault → String
  | .incomplete => "the text ends too early"
  | .malformed => "the text is not JSON"
  | .mismatch reason => reason.message

def message : DesignError → String
  | .invalidLink url =>
    "Invalid Figma URL: " ++ url ++ ". Expected format: " ++
      "https://www.figma.com/design/<file-key>/...?node-id=<node-id>"
  | .emptyResponse => "No nodes returned from Figma API."
  | .missingLink path => "no design URL for " ++ path ++ " (pass --url or --file-key)"
  | .json fault => "JSON error: " ++ faultText fault

end DesignError

structure Response where
  name : String
  nodes : OrderedMap (Option Node)
  deriving Inhabited

namespace Response

variable {ν : Type} [Readable ν]

def entryFields (document : ν → Except Fault Node) : List (Field ν Node) :=
  [required "document" document fun _ node => node]

def readEntry (document : ν → Except Fault Node) (value : ν) : Except Fault Node :=
  readRecord "NodeEntry" Node.blank (entryFields document) value

def fields (document : ν → Except Fault Node) : List (Field ν Response) := [
  defaulted "name" readString? fun response name => { response with name },
  defaulted "nodes" (readMap (readOption (readEntry document))) fun response nodes =>
    { response with nodes }]

def read (depth : Nat) (value : ν) : Except Fault Response :=
  readRecord "ApiResponse" ⟨"", .empty⟩ (fields (Node.read depth)) value

def ofJson (value : Json) : Except Fault Response :=
  read value.depth value

def ofText (text : String) : Except Fault Response :=
  Json.readText (fun draft => read (deepest + 1) (Place.mk draft deepest)) text

def firstDocument (response : Response) : Except DesignError (String × Node) :=
  match response.nodes.entries with
  | (id, some node) :: _ => .ok (id, node)
  | _ => .error .emptyResponse

end Response

inductive DesignInput where
  | response (response : Response)
  | document (node : Node)

namespace DesignInput

def hasNodes : Json → Bool
  | .record fields => fields.any fun field => field.1 == "nodes"
  | _ => false

/-- A record with a field `nodes` is a response, everything else a node. -/
def ofJson (value : Json) : Except Fault DesignInput :=
  if hasNodes value then (Response.ofJson value).map .response
  else (Node.ofJson value).map .document

def ofText (text : String) : Except Fault DesignInput :=
  match Json.parse text with
  | .error fault => .error fault
  | .ok value => ofJson value

def nodeId : DesignInput → Option String
  | .response found => found.nodes.keys.head?
  | .document node => if node.id.isEmpty then none else some node.id

def theDocument : DesignInput → Except DesignError Node
  | .response found => found.firstDocument.map Prod.snd
  | .document node => .ok node

end DesignInput

end DesignToCode
