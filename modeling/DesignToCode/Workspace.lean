import DesignToCode.OrderedMap
import DesignToCode.Workspace.Shape

/-!
A tree of files and folders and what can be done in it.
-/

namespace DesignToCode

inductive FileError where
  | notFound
  | alreadyExists
  | notDirectory
  | isDirectory
  | nameTooLong
  | nulCharacter
  | notText
  | other (message : String)
  deriving DecidableEq, Repr

def FileError.message : FileError → String
  | .notFound => "No such file or directory (os error 2)"
  | .alreadyExists => "File exists (os error 17)"
  | .notDirectory => "Not a directory (os error 20)"
  | .isDirectory => "Is a directory (os error 21)"
  | .nameTooLong => "File name too long (os error 36)"
  | .nulCharacter => "file name contained an unexpected NUL byte"
  | .notText => "stream did not contain valid UTF-8"
  | .other message => message

inductive FileContent where
  | text (value : String)
  | bytes (data : List UInt8)
  deriving DecidableEq, Repr

inductive Entry where
  | file (content : FileContent)
  | folder (entries : List (String × Entry))
  deriving Inhabited

namespace Entry

mutual

def shape : Entry → Shape
  | .file _ => .file
  | .folder entries => .folder (shapes entries)

def shapes : List (String × Entry) → List (String × Shape)
  | [] => []
  | (name, entry) :: rest => (name, entry.shape) :: shapes rest

end

def at? (entry : Entry) : List String → Option Entry
  | [] => some entry
  | name :: rest =>
    match entry with
    | .file _ => none
    | .folder entries => (entries.lookup name).bind fun inner => inner.at? rest

def isFolder : Entry → Bool
  | .folder _ => true
  | .file _ => false

def put (new : Entry) (entry : Entry) : List String → Entry
  | [] => new
  | name :: rest =>
    match entry with
    | .file content => .file content
    | .folder entries =>
      match entries.lookup name with
      | some inner => .folder (OrderedMap.put name (put new inner rest) entries)
      | none => .folder (if rest.isEmpty then OrderedMap.put name new entries else entries)

end Entry

/-- The whole tree, and the location of the folder from which relative paths start. -/
structure Workspace where
  root : Entry
  current : List String
  deriving Inhabited

namespace Workspace

def folderAt (workspace : Workspace) (location : List String) : Bool :=
  match workspace.root.at? location with
  | some entry => entry.isFolder
  | none => false

def longestName : Nat := 255

def longestPath : Nat := 4095

def enter (workspace : Workspace) (location : List String) (name : String) :
    Except FileError (List String) :=
  if longestName < name.utf8ByteSize then .error .nameTooLong
  else if (workspace.root.at? (location ++ [name])).isSome then .ok (location ++ [name])
  else .error .notFound

def walk (workspace : Workspace) (location : List String) :
    List (List Char) → Except FileError (List String)
  | [] => .ok location
  | piece :: rest =>
    if workspace.folderAt location then
      if piece.isEmpty || piece == ['.'] then walk workspace location rest
      else if piece == ['.', '.'] then walk workspace location.dropLast rest
      else
        match workspace.enter location (String.ofList piece) with
        | .error error => .error error
        | .ok inner => walk workspace inner rest
    else .error .notDirectory

def start (workspace : Workspace) (path : Path) : List String :=
  if path.isAbsolute then [] else workspace.current

def refused? (path : Path) : Option FileError :=
  if path.spelling.isEmpty then some .notFound
  else if path.spelling.toList.contains (Char.ofNat 0) then some .nulCharacter
  else if longestPath < path.spelling.utf8ByteSize then some .nameTooLong
  else none

def locate (workspace : Workspace) (path : Path) : Except FileError (List String) :=
  match refused? path with
  | some error => .error error
  | none => workspace.walk (workspace.start path) path.slashed

def look (workspace : Workspace) (path : Path) : Option Shape :=
  match workspace.locate path with
  | .ok location => (workspace.root.at? location).map Entry.shape
  | .error _ => none

def read (workspace : Workspace) (path : Path) : Except FileError String :=
  match workspace.locate path with
  | .error error => .error error
  | .ok location =>
    match workspace.root.at? location with
    | some (.file (.text value)) => .ok value
    | some (.file (.bytes _)) => .error .notText
    | some (.folder _) => .error .isDirectory
    | none => .error .notFound

def put (workspace : Workspace) (location : List String) (entry : Entry) : Workspace :=
  { workspace with root := Entry.put entry workspace.root location }

/-- Where the last piece of a path would be put: the folder that the pieces before it lead to, and
that piece. -/
def place (workspace : Workspace) (path : Path) (before : List (List Char)) :
    Except FileError (List String) :=
  match refused? path with
  | some error => .error error
  | none =>
    match workspace.walk (workspace.start path) before with
    | .error error => .error error
    | .ok location =>
      if workspace.folderAt location then .ok location else .error .notDirectory

/-- Pieces that name no entry of their own. -/
def isStep (piece : List Char) : Bool :=
  piece.isEmpty || piece == ['.'] || piece == ['.', '.']

def makeFolder (workspace : Workspace) (path : Path) (pieces : List (List Char)) :
    Except FileError Workspace :=
  match workspace.place path pieces.dropLast with
  | .error error => .error error
  | .ok location =>
    let piece := pieces.getLast?.getD []
    if isStep piece then .error .alreadyExists
    else
      match workspace.enter location (String.ofList piece) with
      | .ok _ => .error .alreadyExists
      | .error .notFound => .ok (workspace.put (location ++ [String.ofList piece]) (.folder []))
      | .error error => .error error

def leadsToFolder (workspace : Workspace) (path : Path) (pieces : List (List Char)) : Bool :=
  match workspace.walk (workspace.start path) pieces with
  | .ok location => workspace.folderAt location
  | .error _ => false

def ensureFolder (workspace : Workspace) (path : Path) (pieces : List (List Char)) :
    Except FileError Workspace :=
  match workspace.makeFolder path pieces with
  | .error .alreadyExists =>
    if workspace.leadsToFolder path pieces then .ok workspace else .error .alreadyExists
  | result => result

def makeFoldersUpTo (workspace : Workspace) (path : Path) (pieces : List (List Char)) :
    Nat → Except FileError Workspace
  | 0 => .ok workspace
  | count + 1 =>
    match workspace.ensureFolder path (pieces.take (count + 1)) with
    | .error .notFound =>
      match makeFoldersUpTo workspace path pieces count with
      | .error error => .error error
      | .ok made => made.ensureFolder path (pieces.take (count + 1))
    | result => result

def stepsOf (path : Path) : List (List Char) :=
  path.slashed.filter fun piece => !(piece.isEmpty || piece == ['.'])

def makeFolders (workspace : Workspace) (path : Path) : Except FileError Workspace :=
  let steps := stepsOf path
  workspace.makeFoldersUpTo path steps steps.length

def withoutEnd (path : Path) : List (List Char) :=
  (path.slashed.reverse.dropWhile List.isEmpty).reverse

def write (workspace : Workspace) (path : Path) (text : String) : Except FileError Workspace :=
  let pieces := withoutEnd path
  match workspace.place path pieces.dropLast with
  | .error error => .error error
  | .ok location =>
    let piece := pieces.getLast?.getD []
    let target := location ++ [String.ofList piece]
    if pieces.length < path.slashed.length || isStep piece || workspace.folderAt target then
      .error .isDirectory
    else if longestName < (String.ofList piece).utf8ByteSize then .error .nameTooLong
    else .ok (workspace.put target (.file (.text text)))

end Workspace

end DesignToCode
