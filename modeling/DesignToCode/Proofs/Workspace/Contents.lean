import DesignToCode.Proofs.Workspace.Writing

/-!
Which contents a change of a workspace leaves as they were.
-/

namespace DesignToCode.Workspace

def contentAt (workspace : Workspace) (location : List String) : Option FileContent :=
  match workspace.root.at? location with
  | some (.file content) => some content
  | _ => none

theorem contentAt_eq_none {workspace : Workspace} {location : List String}
    (nothing : workspace.root.at? location = none) : workspace.contentAt location = none := by
  rw [contentAt, nothing]

variable {workspace after : Workspace} {path : Path} {location other : List String} {name : String}
  {new : Entry}

theorem contentAt_put (isFolder : workspace.folderAt location = true)
    (noFolder : workspace.folderAt (location ++ [name]) = false)
    (bare : ∀ first rest, new.at? (first :: rest) = none) (elsewhere : other ≠ location ++ [name]) :
    (workspace.put (location ++ [name]) new).contentAt other = workspace.contentAt other := by
  rcases above_or_below_or_apart elsewhere with ⟨first, rest, same⟩ | ⟨first, rest, same⟩ | apart
  · rw [contentAt, contentAt, put, same, Entry.at?_put_above]
    cases workspace.root.at? other with
    | none => rfl
    | some entry =>
        cases entry with
        | file content => rw [Option.map_some, Entry.put]
        | folder entries =>
            obtain ⟨entriesAfter, into, _⟩ := Entry.exists_put_folder new entries first rest
            rw [Option.map_some, into]
  · obtain ⟨entries, found⟩ := folderAt_iff.mp isFolder
    have below := Entry.at?_put_below new found name (first :: rest)
    rw [same, contentAt_eq_none (at?_below_of_not_folderAt noFolder first rest),
      contentAt_eq_none]
    rw [put, List.append_assoc, List.singleton_append, below, bare]
  · rw [contentAt, contentAt, put, Entry.at?_put_apart new apart.1 apart.2]

theorem contentAt_makeFolder {pieces : List (List Char)}
    (made : workspace.makeFolder path pieces = .ok after) (other : List String) :
    after.contentAt other = workspace.contentAt other := by
  obtain ⟨location, name, isFolder, absent, rfl⟩ := makeFolder_eq_ok made
  by_cases here : other = location ++ [name]
  · rw [here, contentAt_eq_none absent, contentAt, at?_put_target isFolder]
  · exact contentAt_put isFolder (folderAt_of_absent absent) (fun first rest => rfl) here

theorem contentAt_makeFolders (made : workspace.makeFolders path = .ok after)
    (other : List String) : after.contentAt other = workspace.contentAt other :=
  makeFolders_induction (fun _ _ => rfl)
    (fun first second other => (second other).trans (first other)) contentAt_makeFolder made other

theorem contentAt_write {text : String} (written : workspace.write path text = .ok after) :
    ∃ target, after.locate path = .ok target ∧
      ∀ other, other ≠ target → after.contentAt other = workspace.contentAt other := by
  obtain ⟨location, piece, target, rfl⟩ := write_eq_ok written
  refine ⟨_, target.locate (grows_put_file target.isFolder target.noFolder) ?_, ?_⟩
  · rw [at?_put_target target.isFolder]
    rfl
  · intro other elsewhere
    exact contentAt_put target.isFolder target.noFolder (fun first rest => rfl) elsewhere

end DesignToCode.Workspace
