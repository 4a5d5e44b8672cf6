import DesignToCode.Workspace.Path

/-!
The files and folders below a path, and the JSON files among them.
-/

namespace DesignToCode

inductive Shape where
  | file
  | folder (entries : List (String × Shape))
  deriving Repr, Inhabited

mutual

/-- The JSON files that `path`, which has this shape, is or holds at any depth. A file is listed
even if its path is too long for it to be read. -/
def Shape.jsonFiles (path : Path) : Shape → List Path
  | .file => if path.isJson then [path] else []
  | .folder entries => jsonFilesIn path entries

def jsonFilesIn (folder : Path) : List (String × Shape) → List Path
  | [] => []
  | (name, shape) :: rest => shape.jsonFiles (folder.join name) ++ jsonFilesIn folder rest

end

/-- The JSON files that inputs reach, in the order of their paths. An input that does not exist
reaches none, and a file that several inputs reach is listed for each of them. -/
def listFiles (inputs : List (Path × Option Shape)) : List Path :=
  (inputs.flatMap fun input =>
    match input.2 with
    | some shape => shape.jsonFiles input.1
    | none => []).mergeSort Path.atMost

end DesignToCode
