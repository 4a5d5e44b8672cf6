import DesignToCode.Proofs.Workspace.Tree

/-!
How a workspace grows. Making folders and writing files takes nothing away.
-/

namespace DesignToCode.Workspace

def kindAt (workspace : Workspace) (location : List String) : Option Bool :=
  (workspace.root.at? location).map Entry.isFolder

theorem folderAt_iff {workspace : Workspace} {location : List String} :
    workspace.folderAt location = true ↔
      ∃ entries, workspace.root.at? location = some (.folder entries) := by
  rw [folderAt]
  cases workspace.root.at? location with
  | none => simp
  | some entry => cases entry <;> simp [Entry.isFolder]

theorem kindAt_of_folderAt {workspace : Workspace} {location : List String}
    (isFolder : workspace.folderAt location = true) : workspace.kindAt location = some true := by
  obtain ⟨entries, found⟩ := folderAt_iff.mp isFolder
  rw [kindAt, found]
  rfl

theorem folderAt_of_kindAt {workspace : Workspace} {location : List String}
    (isFolder : workspace.kindAt location = some true) : workspace.folderAt location = true := by
  obtain ⟨entry, found, kind⟩ := Option.map_eq_some_iff.mp isFolder
  rw [folderAt, found]
  exact kind

def stepFrom (workspace : Workspace) (location : List String) (piece : List Char) :
    Except FileError (List String) :=
  if workspace.folderAt location then
    if piece.isEmpty || piece == ['.'] then .ok location
    else if piece == ['.', '.'] then .ok location.dropLast
    else workspace.enter location (String.ofList piece)
  else .error .notDirectory

theorem walk_cons (workspace : Workspace) (location : List String) (piece : List Char)
    (rest : List (List Char)) :
    workspace.walk location (piece :: rest) =
      match workspace.stepFrom location piece with
      | .error error => .error error
      | .ok next => workspace.walk next rest := by
  rw [walk, stepFrom]
  by_cases isFolder : workspace.folderAt location = true
  · rw [if_pos isFolder, if_pos isFolder]
    by_cases stays : (piece.isEmpty || piece == ['.']) = true
    · rw [if_pos stays, if_pos stays]
    · rw [if_neg stays, if_neg stays]
      by_cases up : (piece == ['.', '.']) = true
      · rw [if_pos up, if_pos up]
      · cases workspace.enter location (String.ofList piece) <;> rw [if_neg up, if_neg up]
  · rw [if_neg isFolder, if_neg isFolder]

theorem walk_cons_eq_ok {workspace : Workspace} {location target : List String}
    {piece : List Char} {rest : List (List Char)} :
    workspace.walk location (piece :: rest) = .ok target ↔
      ∃ next, workspace.stepFrom location piece = .ok next ∧
        workspace.walk next rest = .ok target := by
  rw [walk_cons]
  cases workspace.stepFrom location piece <;> simp

/-- Everything that stands in the one workspace stands in the other as a thing of the same kind. -/
structure Grows (before after : Workspace) : Prop where
  current : after.current = before.current
  kinds : ∀ location kind, before.kindAt location = some kind → after.kindAt location = some kind

def KeepsFiles (before after : Workspace) : Prop :=
  ∀ location content, before.root.at? location = some (.file content) →
    after.root.at? location = some (.file content)

namespace Grows

variable {before middle after : Workspace}

theorem refl (workspace : Workspace) : Grows workspace workspace :=
  ⟨rfl, fun _ _ found => found⟩

theorem trans (first : Grows before middle) (second : Grows middle after) : Grows before after :=
  ⟨second.current.trans first.current,
    fun location kind found => second.kinds location kind (first.kinds location kind found)⟩

theorem folderAt (grows : Grows before after) {location : List String}
    (isFolder : before.folderAt location = true) : after.folderAt location = true :=
  folderAt_of_kindAt (grows.kinds location true (kindAt_of_folderAt isFolder))

theorem isSome_at? (grows : Grows before after) {location : List String}
    (stands : (before.root.at? location).isSome = true) :
    (after.root.at? location).isSome = true := by
  obtain ⟨entry, found⟩ := Option.isSome_iff_exists.mp stands
  have kind := grows.kinds location entry.isFolder (by rw [kindAt, found]; rfl)
  obtain ⟨other, foundAfter, _⟩ := Option.map_eq_some_iff.mp kind
  rw [foundAfter]
  rfl

theorem enter (grows : Grows before after) {location inner : List String} {name : String}
    (entered : before.enter location name = .ok inner) : after.enter location name = .ok inner := by
  rw [Workspace.enter] at entered ⊢
  split at entered
  · cases entered
  · rename_i short
    rw [if_neg short]
    split at entered
    · rename_i stands
      rw [if_pos (grows.isSome_at? stands)]
      exact entered
    · cases entered

theorem stepFrom (grows : Grows before after) {location next : List String} {piece : List Char}
    (stepped : before.stepFrom location piece = .ok next) :
    after.stepFrom location piece = .ok next := by
  rw [Workspace.stepFrom] at stepped ⊢
  by_cases isFolder : before.folderAt location = true
  · rw [if_pos isFolder] at stepped
    rw [if_pos (grows.folderAt isFolder)]
    by_cases stays : (piece.isEmpty || piece == ['.']) = true
    · rw [if_pos stays] at stepped ⊢
      exact stepped
    · rw [if_neg stays] at stepped ⊢
      by_cases up : (piece == ['.', '.']) = true
      · rw [if_pos up] at stepped ⊢
        exact stepped
      · rw [if_neg up] at stepped ⊢
        exact grows.enter stepped
  · rw [if_neg isFolder] at stepped
    cases stepped

theorem walk (grows : Grows before after) {location target : List String}
    {pieces : List (List Char)} (walked : before.walk location pieces = .ok target) :
    after.walk location pieces = .ok target := by
  induction pieces generalizing location with
  | nil => exact walked
  | cons piece rest ih =>
      obtain ⟨next, stepped, walked⟩ := walk_cons_eq_ok.mp walked
      exact walk_cons_eq_ok.mpr ⟨next, grows.stepFrom stepped, ih walked⟩

theorem start (grows : Grows before after) (path : Path) :
    after.start path = before.start path := by
  rw [Workspace.start, Workspace.start, grows.current]

theorem locate (grows : Grows before after) {path : Path} {location : List String}
    (located : before.locate path = .ok location) : after.locate path = .ok location := by
  rw [Workspace.locate] at located ⊢
  split at located
  · cases located
  · rename_i fine
    rw [grows.start path]
    exact grows.walk located

end Grows

theorem KeepsFiles.trans {before middle after : Workspace} (first : KeepsFiles before middle)
    (second : KeepsFiles middle after) : KeepsFiles before after :=
  fun location content found => second location content (first location content found)

section

variable {workspace : Workspace} {location : List String} {name : String} {new : Entry}

theorem at?_below_of_not_folderAt {target : List String}
    (noFolder : workspace.folderAt target = false) (first : String) (rest : List String) :
    workspace.root.at? (target ++ first :: rest) = none := by
  cases found : workspace.root.at? target with
  | none => rw [Entry.at?_append, found, Option.bind_none]
  | some entry =>
      cases entry with
      | file content => exact Entry.at?_below_file found first rest
      | folder entries =>
          rw [folderAt_iff.mpr ⟨entries, found⟩] at noFolder
          contradiction

theorem at?_put_target (isFolder : workspace.folderAt location = true) :
    (workspace.put (location ++ [name]) new).root.at? (location ++ [name]) = some new := by
  obtain ⟨entries, found⟩ := folderAt_iff.mp isFolder
  rw [put, Entry.at?_put_below new found name [], Entry.at?_nil]

theorem above_or_below_or_apart {target other : List String} (elsewhere : other ≠ target) :
    (∃ first rest, target = other ++ first :: rest) ∨
      (∃ first rest, other = target ++ first :: rest) ∨
      (¬target <+: other ∧ ¬other <+: target) := by
  by_cases isAbove : other <+: target
  · obtain ⟨_ | ⟨first, rest⟩, same⟩ := isAbove
    · rw [List.append_nil] at same
      exact absurd same elsewhere
    · exact Or.inl ⟨first, rest, same.symm⟩
  · by_cases isBelow : target <+: other
    · obtain ⟨_ | ⟨first, rest⟩, same⟩ := isBelow
      · rw [List.append_nil] at same
        exact absurd same.symm elsewhere
      · exact Or.inr (Or.inl ⟨first, rest, same.symm⟩)
    · exact Or.inr (Or.inr ⟨isBelow, isAbove⟩)

theorem at?_put_file (noFolder : workspace.folderAt (location ++ [name]) = false)
    {other : List String} {content : FileContent}
    (found : workspace.root.at? other = some (.file content))
    (elsewhere : other ≠ location ++ [name]) :
    (workspace.put (location ++ [name]) new).root.at? other = some (.file content) := by
  rcases above_or_below_or_apart elsewhere with ⟨first, rest, same⟩ | ⟨first, rest, same⟩ | apart
  · rw [put, same, Entry.at?_put_above, found, Option.map_some, Entry.put]
  · rw [same, at?_below_of_not_folderAt noFolder] at found
    contradiction
  · rw [put, Entry.at?_put_apart new apart.1 apart.2]
    exact found

theorem kindAt_put (noFolder : workspace.folderAt (location ++ [name]) = false)
    {other : List String} {kind : Bool} (found : workspace.kindAt other = some kind)
    (elsewhere : other ≠ location ++ [name]) :
    (workspace.put (location ++ [name]) new).kindAt other = some kind := by
  rcases above_or_below_or_apart elsewhere with ⟨first, rest, same⟩ | ⟨first, rest, same⟩ | apart
  · rw [kindAt] at found
    rw [kindAt, put, same, Entry.at?_put_above, Option.map_map]
    simpa only [Function.comp_def, Entry.isFolder_put] using found
  · rw [same, kindAt, at?_below_of_not_folderAt noFolder] at found
    contradiction
  · rw [kindAt, put, Entry.at?_put_apart new apart.1 apart.2]
    exact found

theorem grows_put_file {content : FileContent} (isFolder : workspace.folderAt location = true)
    (noFolder : workspace.folderAt (location ++ [name]) = false) :
    Grows workspace (workspace.put (location ++ [name]) (.file content)) := by
  refine ⟨rfl, fun other kind found => ?_⟩
  by_cases here : other = location ++ [name]
  · -- Only a file can have stood where the new file stands, so the kind is the same.
    subst other
    have isFile : kind = false := by
      cases kind with
      | false => rfl
      | true =>
          rw [folderAt_of_kindAt found] at noFolder
          contradiction
    rw [kindAt, at?_put_target isFolder, isFile]
    rfl
  · exact kindAt_put noFolder found here

theorem folderAt_of_absent {target : List String}
    (absent : workspace.root.at? target = none) : workspace.folderAt target = false := by
  rw [folderAt, absent]

theorem grows_put_absent (absent : workspace.root.at? (location ++ [name]) = none) :
    Grows workspace (workspace.put (location ++ [name]) new) := by
  refine ⟨rfl, fun other kind found => ?_⟩
  refine kindAt_put (folderAt_of_absent absent) found ?_
  rintro rfl
  rw [kindAt, absent] at found
  contradiction

theorem keepsFiles_put_absent (absent : workspace.root.at? (location ++ [name]) = none) :
    KeepsFiles workspace (workspace.put (location ++ [name]) new) := by
  intro other content found
  refine at?_put_file (folderAt_of_absent absent) found ?_
  rintro rfl
  rw [absent] at found
  contradiction

end

end DesignToCode.Workspace
