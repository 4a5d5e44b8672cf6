import DesignToCode.Text.Pieces

/-!
Paths as they are spelled.
-/

namespace DesignToCode

open DesignToCode.Text

structure Path where
  spelling : String
  deriving DecidableEq, Repr, Inhabited

namespace Path

inductive Component where
  | root
  | here
  | up
  | name (text : List Char)
  deriving DecidableEq, Repr

def component? (piece : List Char) : Option Component :=
  if piece.isEmpty || piece == ['.'] then none
  else if piece == ['.', '.'] then some .up
  else some (.name piece)

def slashed (path : Path) : List (List Char) :=
  pieces (· == '/') path.spelling.toList

def isAbsolute (path : Path) : Bool :=
  path.spelling.toList.head? == some '/'

/-- Of the pieces `.` only one at the very start counts. -/
def components (path : Path) : List Component :=
  let start :=
    if path.isAbsolute then [.root]
    else if path.slashed.head? == some ['.'] then [.here]
    else []
  start ++ path.slashed.filterMap component?

def Component.key : Component → List Nat
  | .root => [0]
  | .here => [1]
  | .up => [2]
  | .name text => 3 :: text.map Char.toNat

def compareNat (a b : Nat) : Ordering :=
  if a < b then .lt else if b < a then .gt else .eq

def compare (a b : Path) : Ordering :=
  List.compareLex (List.compareLex compareNat) (a.components.map Component.key)
    (b.components.map Component.key)

def atMost (a b : Path) : Bool :=
  (compare a b).isLE

def join (folder : Path) (name : String) : Path :=
  if name.toList.head? == some '/' then ⟨name⟩
  else if folder.spelling.isEmpty || folder.spelling.toList.getLast? == some '/' then
    ⟨folder.spelling ++ name⟩
  else ⟨folder.spelling ++ "/" ++ name⟩

def fileName? (path : Path) : Option (List Char) :=
  match path.components.getLast? with
  | some (.name text) => some text
  | _ => none

/-- What follows the last dot of the file name, unless the name begins with that dot. -/
def extension? (path : Path) : Option (List Char) :=
  path.fileName?.bind fun name =>
    match (pieces (· == '.') name).reverse with
    | last :: next :: rest =>
      if rest.isEmpty && next.isEmpty then none else some last
    | _ => none

def isJson (path : Path) : Bool :=
  match path.extension? with
  | some text => text.map Char.toLower == "json".toList
  | none => false

end Path

end DesignToCode
