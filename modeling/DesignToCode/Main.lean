import DesignToCode.CommandLine.Run

/-!
The command on the files of the machine.
-/

namespace DesignToCode.CommandLine

def fileError : IO.Error → FileError
  | .noFileOrDirectory .. => .notFound
  | .alreadyExists .. => .alreadyExists
  | .inappropriateType _ code _ => if code = 20 then .notDirectory else .isDirectory
  | error => .other (toString error)

def attempt {α : Type} (action : IO α) : IO (Except FileError α) := do
  match ← action.toBaseIO with
  | .ok value => return .ok value
  | .error error => return .error (fileError error)

partial def shapeAt (path : Path) : IO (Option Shape) := do
  let location := (← IO.currentDir) / path.spelling
  match ← attempt location.metadata with
  | .error _ => return none
  | .ok found =>
    match found.type with
    | .file => return some .file
    | .dir =>
      let mut entries : Array (String × Shape) := #[]
      for entry in ← location.readDir do
        if let some shape ← shapeAt (path.join entry.fileName) then
          entries := entries.push (entry.fileName, shape)
      return some (.folder entries.toList)
    | _ => return none

def readText (path : Path) : IO (Except FileError String) := do
  match ← attempt (IO.FS.readBinFile path.spelling) with
  | .error error => return .error error
  | .ok bytes =>
    match String.fromUTF8? bytes with
    | some text => return .ok text
    | none => return .error .notText

def ensureFolder (path : Path) : IO (Except FileError Unit) := do
  match ← attempt (IO.FS.createDir path.spelling) with
  | .error error =>
    match ← shapeAt path with
    | some (.folder _) => return .ok ()
    | _ => return .error error
  | made => return made

def ensureFolders (path : Path) (steps : List (List Char)) : Nat → IO (Except FileError Unit)
  | 0 => return .ok ()
  | count + 1 => do
    let start := if path.isAbsolute then "/" else ""
    let names := (steps.take (count + 1)).map String.ofList
    let folder : Path := ⟨start ++ Text.join "/" names⟩
    match ← ensureFolder folder with
    | .error .notFound =>
      match ← ensureFolders path steps count with
      | .ok () => ensureFolder folder
      | failed => return failed
    | result => return result

instance : Surroundings IO where
  look := shapeAt
  read := readText
  makeFolders path :=
    let steps := Workspace.stepsOf path
    ensureFolders path steps steps.length
  write path text := attempt (IO.FS.writeFile path.spelling text)
  print text := IO.print text
  tell notice := IO.eprintln notice.text

end DesignToCode.CommandLine

def main (arguments : List String) : IO UInt32 := do
  return (← DesignToCode.CommandLine.runCommand arguments).toUInt32
