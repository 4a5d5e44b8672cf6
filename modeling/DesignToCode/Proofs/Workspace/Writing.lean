import DesignToCode.Proofs.Workspace.Growth

/-!
What making folders and writing a file do to a workspace.
-/

namespace DesignToCode.Workspace

open DesignToCode.Text

variable {workspace after : Workspace} {path : Path}

theorem place_eq_ok {before : List (List Char)} {location : List String}
    (placed : workspace.place path before = .ok location) :
    refused? path = none ∧ workspace.walk (workspace.start path) before = .ok location ∧
      workspace.folderAt location = true := by
  rw [place] at placed
  split at placed
  · cases placed
  · rename_i accepted
    split at placed
    · cases placed
    · rename_i found walked
      split at placed
      · rename_i isFolder
        cases placed
        exact ⟨accepted, walked, isFolder⟩
      · cases placed

theorem absent_of_enter {location : List String} {name : String}
    (missing : workspace.enter location name = .error .notFound) :
    workspace.root.at? (location ++ [name]) = none := by
  rw [enter] at missing
  split at missing
  · cases missing
  · split at missing
    · cases missing
    · rename_i nothing
      simpa using nothing

theorem makeFolder_eq_ok {pieces : List (List Char)}
    (made : workspace.makeFolder path pieces = .ok after) :
    ∃ location name, workspace.folderAt location = true ∧
      workspace.root.at? (location ++ [name]) = none ∧
      after = workspace.put (location ++ [name]) (.folder []) := by
  unfold makeFolder at made
  split at made
  · cases made
  · rename_i location placed
    simp only at made
    split at made
    · cases made
    · split at made
      · cases made
      · rename_i missing
        cases made
        exact ⟨location, _, (place_eq_ok placed).2.2, absent_of_enter missing, rfl⟩
      · cases made

theorem grows_makeFolder {pieces : List (List Char)}
    (made : workspace.makeFolder path pieces = .ok after) :
    Grows workspace after ∧ KeepsFiles workspace after := by
  obtain ⟨location, name, _, absent, rfl⟩ := makeFolder_eq_ok made
  exact ⟨grows_put_absent absent, keepsFiles_put_absent absent⟩

section

variable {relation : Workspace → Workspace → Prop}

theorem ensureFolder_induction (stay : ∀ workspace, relation workspace workspace)
    (one : ∀ {before after pieces}, before.makeFolder path pieces = .ok after →
      relation before after)
    {pieces : List (List Char)} (made : workspace.ensureFolder path pieces = .ok after) :
    relation workspace after := by
  rw [ensureFolder] at made
  split at made
  · split at made
    · cases made
      exact stay workspace
    · cases made
  · exact one made

theorem makeFolders_induction (stay : ∀ workspace, relation workspace workspace)
    (more : ∀ {first second third}, relation first second → relation second third →
      relation first third)
    (one : ∀ {before after pieces}, before.makeFolder path pieces = .ok after →
      relation before after)
    (made : workspace.makeFolders path = .ok after) : relation workspace after := by
  rw [makeFolders] at made
  generalize stepsOf path = pieces at made
  generalize pieces.length = count at made
  induction count generalizing workspace after with
  | zero =>
      cases made
      exact stay workspace
  | succ count ih =>
      rw [makeFoldersUpTo] at made
      split at made
      · split at made
        · cases made
        · rename_i middle above
          exact more (ih above) (ensureFolder_induction stay one made)
      · exact ensureFolder_induction stay one made

end

theorem grows_makeFolders (made : workspace.makeFolders path = .ok after) :
    Grows workspace after ∧ KeepsFiles workspace after := by
  refine makeFolders_induction ?_ ?_ grows_makeFolder made
  · exact fun workspace => ⟨Grows.refl workspace, fun _ _ found => found⟩
  · exact fun first second => ⟨first.1.trans second.1, first.2.trans second.2⟩

theorem walk_append_eq_ok {location target : List String} {first rest : List (List Char)} :
    workspace.walk location (first ++ rest) = .ok target ↔
      ∃ middle, workspace.walk location first = .ok middle ∧
        workspace.walk middle rest = .ok target := by
  induction first generalizing location with
  | nil => simp [walk]
  | cons piece later ih =>
      rw [List.cons_append, walk_cons_eq_ok]
      simp only [ih, walk_cons_eq_ok]
      constructor
      · rintro ⟨next, stepped, middle, walked, onward⟩
        exact ⟨middle, ⟨next, stepped, walked⟩, onward⟩
      · rintro ⟨middle, ⟨next, stepped, walked⟩, onward⟩
        exact ⟨next, stepped, middle, walked, onward⟩

theorem locate_eq_ok {location : List String} :
    workspace.locate path = .ok location ↔
      refused? path = none ∧ workspace.walk (workspace.start path) path.slashed = .ok location := by
  rw [locate]
  cases refused? path <;> simp

/-- A written path names a file by its last piece, in a folder that the pieces before lead to. -/
structure Target (workspace : Workspace) (path : Path) (location : List String)
    (piece : List Char) : Prop where
  accepted : refused? path = none
  pieces : ∃ before, path.slashed = before ++ [piece] ∧
    workspace.walk (workspace.start path) before = .ok location
  isFolder : workspace.folderAt location = true
  noFolder : workspace.folderAt (location ++ [String.ofList piece]) = false
  isName : isStep piece = false
  short : ¬longestName < (String.ofList piece).utf8ByteSize

theorem withoutEnd_eq (path : Path) (same : ¬(withoutEnd path).length < path.slashed.length) :
    withoutEnd path = path.slashed := by
  have suffix := List.dropWhile_suffix (l := path.slashed.reverse) List.isEmpty
  have length : (withoutEnd path).length =
      (path.slashed.reverse.dropWhile List.isEmpty).length := List.length_reverse
  have atMost := suffix.length_le
  rw [List.length_reverse] at atMost
  have whole := suffix.eq_of_length (by rw [List.length_reverse]; omega)
  rw [withoutEnd, whole, List.reverse_reverse]

theorem write_eq_ok {text : String} (written : workspace.write path text = .ok after) :
    ∃ location piece, Target workspace path location piece ∧
      after = workspace.put (location ++ [String.ofList piece]) (.file (.text text)) := by
  unfold write at written
  dsimp only at written
  split at written
  · cases written
  · rename_i location placed
    split at written
    · cases written
    · rename_i proper
      split at written
      · cases written
      · rename_i short
        cases written
        simp only [Bool.or_eq_true, decide_eq_true_eq, not_or, Bool.not_eq_true] at proper
        obtain ⟨⟨whole, isName⟩, noFolder⟩ := proper
        rw [withoutEnd_eq path whole] at placed isName noFolder short ⊢
        obtain ⟨accepted, walked, isFolder⟩ := place_eq_ok placed
        refine ⟨location, _, ⟨accepted, ⟨_, ?_, walked⟩, isFolder, noFolder, isName, short⟩, rfl⟩
        have nonempty : path.slashed ≠ [] := pieces_ne_nil _ _
        rw [List.getLast?_eq_some_getLast nonempty, Option.getD_some]
        exact (List.dropLast_concat_getLast nonempty).symm

namespace Target

variable {location : List String} {piece : List Char}

theorem locate (target : Target workspace path location piece) (grows : Grows workspace after)
    (isThere : (after.root.at? (location ++ [String.ofList piece])).isSome = true) :
    after.locate path = .ok (location ++ [String.ofList piece]) := by
  obtain ⟨before, split, walked⟩ := target.pieces
  have isName := target.isName
  simp only [isStep, Bool.or_eq_false_iff] at isName
  -- The walk to the folder is the one before the write; only the last step finds something new.
  refine locate_eq_ok.mpr ⟨target.accepted, ?_⟩
  rw [split, grows.start path, walk_append_eq_ok]
  refine ⟨location, grows.walk walked, walk_cons_eq_ok.mpr ⟨_, ?_, rfl⟩⟩
  rw [stepFrom, if_pos (grows.folderAt target.isFolder), isName.1.1, isName.1.2, isName.2, enter,
    if_neg target.short, if_pos isThere]
  rfl

end Target

theorem read_eq {location : List String} (located : workspace.locate path = .ok location)
    {text : String} (found : workspace.root.at? location = some (.file (.text text))) :
    workspace.read path = .ok text := by
  rw [read, located]
  simp only [found]

theorem grows_write {text : String} (written : workspace.write path text = .ok after) :
    Grows workspace after ∧ ∃ target, after.locate path = .ok target ∧
      after.root.at? target = some (.file (.text text)) ∧
      ∀ location content, location ≠ target →
        workspace.root.at? location = some (.file content) →
          after.root.at? location = some (.file content) := by
  obtain ⟨location, piece, target, rfl⟩ := write_eq_ok written
  let place := location ++ [String.ofList piece]
  have grows : Grows workspace (workspace.put place (.file (.text text))) :=
    grows_put_file target.isFolder target.noFolder
  have here : (workspace.put place (.file (.text text))).root.at? place =
      some (.file (.text text)) := at?_put_target target.isFolder
  refine ⟨grows, _, target.locate grows (by rw [here]; rfl), here, ?_⟩
  intro other content elsewhere found
  exact at?_put_file target.noFolder found elsewhere

end DesignToCode.Workspace
