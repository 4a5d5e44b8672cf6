import DesignToCode.Text.Pieces

/-!
Share links of Figma designs, which name a file by its key and one of its nodes by an id.
-/

namespace DesignToCode

open DesignToCode.Text

structure DesignLink where
  fileKey : String
  nodeId : String
  deriving DecidableEq, Repr

namespace DesignLink

def afterStart? : List Char → List Char → Option (List Char)
  | [], cs => some cs
  | _ :: _, [] => none
  | s :: start, c :: cs => if s == c then afterStart? start cs else none

def nonEmpty? (cs : List Char) : Option (List Char) :=
  if cs.isEmpty then none else some cs

def firstMatch (here : List Char → Option (List Char)) : List Char → Option (List Char)
  | [] => none
  | c :: rest =>
    match here (c :: rest) with
    | some found => some found
    | none => firstMatch here rest

def isKeyChar (c : Char) : Bool :=
  c.isAlphanum

def isIdChar (c : Char) : Bool :=
  c != '&' && c != '#'

def keyHere (cs : List Char) : Option (List Char) :=
  let rest :=
    match afterStart? "figma.com/design/".toList cs with
    | some rest => some rest
    | none => afterStart? "figma.com/file/".toList cs
  rest.bind fun rest => nonEmpty? (rest.takeWhile isKeyChar)

def idHere (cs : List Char) : Option (List Char) :=
  let rest :=
    match afterStart? "?node-id=".toList cs with
    | some rest => some rest
    | none => afterStart? "&node-id=".toList cs
  rest.bind fun rest => nonEmpty? (rest.takeWhile isIdChar)

/-- Writes `-` for every colon, also for one that is percent-encoded. -/
def dashed : List Char → List Char
  | [] => []
  | '%' :: '3' :: 'A' :: rest => '-' :: dashed rest
  | '%' :: '3' :: 'a' :: rest => '-' :: dashed rest
  | c :: rest => (if c == ':' then '-' else c) :: dashed rest

/-- The file key and the node id of a link; both must be there, at any places. -/
def parse? (url : String) : Option DesignLink :=
  match firstMatch keyHere url.toList, firstMatch idHere url.toList with
  | some key, some id => some ⟨String.ofList key, String.ofList (dashed id)⟩
  | _, _ => none

def replace (old : Char) (new : List Char) (text : String) : String :=
  String.ofList (replaceChar old new text.toList)

/-- The node id as the API takes it. -/
def apiNodeId (link : DesignLink) : String :=
  replace '-' [':'] link.nodeId

def nodesEndpoint (link : DesignLink) : String :=
  "https://api.figma.com/v1/files/" ++ link.fileKey ++ "/nodes?ids=" ++
    replace ':' ['%', '3', 'A'] link.apiNodeId

def share (fileKey nodeId : String) : String :=
  "https://www.figma.com/design/" ++ fileKey ++ "?node-id=" ++ replace ':' ['-'] nodeId

end DesignLink

end DesignToCode
