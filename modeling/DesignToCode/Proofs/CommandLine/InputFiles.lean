import DesignToCode.Proofs.CommandLine.Reading
import DesignToCode.Proofs.Workspace.Contents
import DesignToCode.Proofs.Workspace.JsonFiles
import DesignToCode.Proofs.Workspace.PathOrder
import Mathlib.Data.List.Perm.Basic

/-!
Which files a run collects: the JSON files that its inputs reach, in the order of their paths.
-/

namespace DesignToCode.CommandLine

/-- An input reaches a file if it is the file or leads to a folder above it, and the path of the
file goes on from that of the input with the names on the way. Only files ending in `json` count. -/
inductive Reaches (workspace : Workspace) (input : Path) (components : List Path.Component) : Prop
  | intro {location names : List String} (located : workspace.locate input = .ok location)
      (isFile : (workspace.contentAt (location ++ names)).isSome = true)
      (spelled : components = input.components ++ namesOf names)
      (json : Path.EndsInJson components)

/-- The files of the one tree and those of the other are the same, and so are the folders, but
entries may be listed in another order. -/
structure SameTree (first second : Workspace) : Prop where
  current : second.current = first.current
  kinds : ∀ location, second.kindAt location = first.kindAt location

def reached (workspace : Workspace) (input : Path) : List (List Path.Component) :=
  match workspace.look input with
  | some shape => shape.found input
  | none => []

section

variable {workspace : Workspace}

theorem isSome_contentAt_iff {location : List String} :
    (workspace.contentAt location).isSome = true ↔
      ∃ content, workspace.root.at? location = some (.file content) := by
  rw [Workspace.contentAt]
  cases workspace.root.at? location with
  | none => simp
  | some entry => cases entry <;> simp

theorem isSome_contentAt_iff_kindAt {location : List String} :
    (workspace.contentAt location).isSome = true ↔ workspace.kindAt location = some false := by
  rw [Workspace.contentAt, Workspace.kindAt]
  cases workspace.root.at? location with
  | none => simp
  | some entry => cases entry <;> simp [Entry.isFolder]

theorem reached_of_located {input : Path} {location : List String}
    (located : workspace.locate input = .ok location) :
    reached workspace input = ((workspace.root.at? location).map fun entry =>
      entry.shape.found input).getD [] := by
  rw [reached, Workspace.look, located]
  dsimp only
  cases workspace.root.at? location <;> rfl

theorem mem_reached_iff (tree : workspace.root.shape.IsTree) {input : Path}
    {components : List Path.Component} :
    components ∈ reached workspace input ↔ Reaches workspace input components := by
  cases located : workspace.locate input with
  | error error =>
      rw [reached, Workspace.look, located]
      constructor
      · rintro ⟨⟩
      · rintro ⟨found, -, -, -⟩
        rw [located] at found
        cases found
  | ok location =>
      rw [reached_of_located located]
      cases stands : workspace.root.at? location with
      | none =>
          constructor
          · rintro ⟨⟩
          · rintro ⟨found, isFile, -, -⟩
            rw [located] at found
            cases found
            obtain ⟨content, found⟩ := isSome_contentAt_iff.mp isFile
            rw [Entry.at?_append, stands] at found
            cases found
      | some entry =>
          have below := Entry.isTree_at? tree stands
          have inEntry (names : List String) :
              (workspace.contentAt (location ++ names)).isSome = true ↔
                entry.shape.HoldsFile names := by
            rw [isSome_contentAt_iff, Entry.holdsFile_iff below, Entry.at?_append, stands]
            rfl
          rw [Option.map_some, Option.getD_some, Shape.mem_found below]
          constructor
          · rintro ⟨names, holds, spelled, json⟩
            exact ⟨located, (inEntry names).mpr holds, spelled, json⟩
          · rintro ⟨found, isFile, spelled, json⟩
            rw [located] at found
            cases found
            exact ⟨_, (inEntry _).mp isFile, spelled, json⟩

theorem nodup_reached (tree : workspace.root.shape.IsTree) (input : Path) :
    (reached workspace input).Nodup := by
  cases located : workspace.locate input with
  | error error =>
      rw [reached, Workspace.look, located]
      exact List.nodup_nil
  | ok location =>
      rw [reached_of_located located]
      cases stands : workspace.root.at? location with
      | none => exact List.nodup_nil
      | some entry => exact Shape.nodup_found (Entry.isTree_at? tree stands) input

theorem components_perm (workspace : Workspace) (options : Options) :
    ((inputFiles workspace options).map Path.components).Perm
      (options.inputs.flatMap (reached workspace)) := by
  rw [inputFiles, listFiles, List.flatMap_map]
  refine ((List.mergeSort_perm _ _).map _).trans ?_
  rw [List.map_flatMap]
  refine List.Perm.of_eq (congrArg (List.flatMap · options.inputs) ?_)
  funext input
  rw [reached]
  cases workspace.look input <;> rfl

open Classical in
theorem count_components (tree : workspace.root.shape.IsTree) (options : Options)
    (components : List Path.Component) :
    ((inputFiles workspace options).map Path.components).count components =
      options.inputs.countP fun input => Reaches workspace input components := by
  rw [(components_perm workspace options).count_eq]
  induction options.inputs with
  | nil => rfl
  | cons input rest ih =>
      rw [List.flatMap_cons, List.count_append, ih, (nodup_reached tree input).count,
        List.countP_cons, Nat.add_comm]
      simp only [mem_reached_iff tree, decide_eq_true_eq]

end

namespace SameTree

variable {first second : Workspace}

theorem symm (same : SameTree first second) : SameTree second first :=
  ⟨same.current.symm, fun location => (same.kinds location).symm⟩

theorem grows (same : SameTree first second) : first.Grows second :=
  ⟨same.current, fun location _ found => (same.kinds location).trans found⟩

theorem reaches (same : SameTree first second) {input : Path} {components : List Path.Component}
    (reaches : Reaches first input components) : Reaches second input components := by
  obtain ⟨located, isFile, spelled, json⟩ := reaches
  refine ⟨same.grows.locate located, ?_, spelled, json⟩
  rw [isSome_contentAt_iff_kindAt] at isFile ⊢
  rw [same.kinds]
  exact isFile

theorem reaches_iff (same : SameTree first second) {input : Path}
    {components : List Path.Component} :
    Reaches second input components ↔ Reaches first input components :=
  ⟨same.symm.reaches, same.reaches⟩

end SameTree

theorem components_eq_of_perm {first second : List Path} (sorted : first.Pairwise Path.AtMost)
    (sortedToo : second.Pairwise Path.AtMost)
    (perm : (first.map Path.components).Perm (second.map Path.components)) :
    first.map Path.components = second.map Path.components := by
  let inOrder (before after : List Path.Component) : Prop :=
    before = after ∨ List.Lex Path.Component.Before before after
  have antisymm (before after : List Path.Component) (_ : before ∈ first.map Path.components)
      (_ : after ∈ second.map Path.components) (here : inOrder before after)
      (back : inOrder after before) : before = after := by
    rcases here with same | earlier
    · exact same
    · exact back.elim Eq.symm fun later => absurd later (Path.not_lex_both earlier)
  exact List.Perm.eq_of_pairwise antisymm (List.pairwise_map.mpr sorted)
    (List.pairwise_map.mpr sortedToo) perm

mutual

def filesByLevel (path : Path) : Shape → List Path
  | .file => if path.isJson then [path] else []
  | .folder entries => (filesByLevelIn path entries).mergeSort Path.atMost

def filesByLevelIn (folder : Path) : List (String × Shape) → List Path
  | [] => []
  | (name, shape) :: rest => filesByLevel (folder.join name) shape ++ filesByLevelIn folder rest

end

mutual

theorem perm_filesByLevel (path : Path) (shape : Shape) :
    (filesByLevel path shape).Perm (shape.jsonFiles path) := by
  cases shape with
  | file => rw [filesByLevel, Shape.jsonFiles]
  | folder entries =>
      rw [filesByLevel, Shape.jsonFiles]
      exact (List.mergeSort_perm _ _).trans (perm_filesByLevelIn path entries)

theorem perm_filesByLevelIn (folder : Path) (entries : List (String × Shape)) :
    (filesByLevelIn folder entries).Perm (jsonFilesIn folder entries) := by
  cases entries with
  | nil => rw [filesByLevelIn, jsonFilesIn]
  | cons entry rest =>
      obtain ⟨name, shape⟩ := entry
      rw [filesByLevelIn, jsonFilesIn]
      exact (perm_filesByLevel (folder.join name) shape).append (perm_filesByLevelIn folder rest)

end

theorem components_listFiles (inputs : List (Path × Option Shape)) :
    (listFiles inputs).map Path.components =
      ((inputs.flatMap fun input => (input.2.map (filesByLevel input.1)).getD []).mergeSort
        Path.atMost).map Path.components := by
  refine components_eq_of_perm (Path.pairwise_mergeSort _) (Path.pairwise_mergeSort _) ?_
  refine List.Perm.map _ ((List.mergeSort_perm _ _).trans (List.Perm.trans ?_
    (List.mergeSort_perm _ _).symm))
  refine List.Perm.flatMap_left inputs fun input _ => ?_
  obtain ⟨path, _ | shape⟩ := input
  · exact List.Perm.refl []
  · exact (perm_filesByLevel path shape).symm

open Classical in
theorem inputFiles_counted {workspace : Workspace} (tree : workspace.root.shape.IsTree)
    (options : Options) :
    (inputFiles workspace options).Pairwise Path.AtMost ∧
      (∀ path : Path,
        (inputFiles workspace options).countP (fun file => file.components = path.components) =
          options.inputs.countP fun input => Reaches workspace input path.components) ∧
      ∀ {other : Workspace} {reordered : Options}, other.root.shape.IsTree →
        SameTree workspace other → options.inputs.Perm reordered.inputs →
        (inputFiles other reordered).map Path.components =
          (inputFiles workspace options).map Path.components := by
  refine ⟨Path.pairwise_mergeSort _, fun path => ?_, ?_⟩
  · rw [← count_components tree, List.count, List.countP_map]
    exact List.countP_congr fun file _ => by simp
  · intro other reordered otherTree same reorder
    refine components_eq_of_perm (Path.pairwise_mergeSort _) (Path.pairwise_mergeSort _) ?_
    rw [List.perm_iff_count]
    intro components
    rw [count_components tree, count_components otherTree, reorder.countP_eq]
    simp only [same.reaches_iff]

def kit : Workspace where
  root := .folder [
    ("kit", .folder [
      ("a.json", .folder [("c.JSON", .file (.text ""))]),
      ("b.json", .file (.text "")),
      ("notes.txt", .file (.text ""))]),
    ("x.json", .file (.text ""))]
  current := []

def shuffledKit : Workspace where
  root := .folder [
    ("x.json", .file (.text "")),
    ("kit", .folder [
      ("notes.txt", .file (.text "")),
      ("b.json", .file (.text "")),
      ("a.json", .folder [("c.JSON", .file (.text ""))])])]
  current := []

theorem sameTree_kit : SameTree kit shuffledKit := by
  refine ⟨rfl, fun location => ?_⟩
  rcases location with _ | ⟨outer, rest⟩
  · rfl
  · simp only [Workspace.kindAt, kit, shuffledKit, Entry.at?_folder, OrderedMap.lookup_cons]
    by_cases inKit : outer = "kit"
    · subst outer
      rcases rest with _ | ⟨inner, rest⟩
      · rfl
      · simp only [String.reduceEq, if_true, if_false, Option.bind_some, Entry.at?_folder,
          OrderedMap.lookup_cons]
        split_ifs <;> simp_all
    · split_ifs <;> simp_all

theorem isTree_kit : kit.root.shape.IsTree ∧ shuffledKit.root.shape.IsTree := by
  have single : Shape.IsTree (.folder [("c.JSON", .file)]) :=
    .folder (by decide +kernel) (by decide +kernel) (by simp [Shape.IsTree.file])
  constructor
  · refine .folder (by decide +kernel) (by decide +kernel) ?_
    have inner : Shape.IsTree (.folder [("a.json", .folder [("c.JSON", .file)]), ("b.json", .file),
        ("notes.txt", .file)]) :=
      .folder (by decide +kernel) (by decide +kernel) (by simp [Shape.IsTree.file, single])
    simp [Entry.shape, Entry.shapes, Shape.IsTree.file, inner]
  · refine .folder (by decide +kernel) (by decide +kernel) ?_
    have inner : Shape.IsTree (.folder [("notes.txt", .file), ("b.json", .file),
        ("a.json", .folder [("c.JSON", .file)])]) :=
      .folder (by decide +kernel) (by decide +kernel) (by simp [Shape.IsTree.file, single])
    simp [Entry.shape, Entry.shapes, Shape.IsTree.file, inner]

theorem inputFiles_counted_kit :
    let options := { Options.none with inputs := [⟨"kit"⟩, ⟨"x.json"⟩, ⟨"x.json"⟩] }
    let reordered := { Options.none with inputs := [⟨"x.json"⟩, ⟨"kit"⟩, ⟨"x.json"⟩] }
    kit.root.shape.IsTree ∧ shuffledKit.root.shape.IsTree ∧ SameTree kit shuffledKit ∧
      options.inputs.Perm reordered.inputs ∧
      (inputFiles shuffledKit reordered).map Path.components =
        [Path.mk "kit/a.json/c.JSON", ⟨"kit/b.json"⟩, ⟨"x.json"⟩, ⟨"x.json"⟩].map
          Path.components := by
  intro options reordered
  have collected : inputFiles kit options =
      [⟨"kit/a.json/c.JSON"⟩, ⟨"kit/b.json"⟩, ⟨"x.json"⟩, ⟨"x.json"⟩] := by
    rw [inputFiles, listFiles, List.mergeSort_of_pairwise] <;> decide +kernel
  have reorder : options.inputs.Perm reordered.inputs := .swap _ _ _
  refine ⟨isTree_kit.1, isTree_kit.2, sameTree_kit, reorder, ?_⟩
  obtain ⟨_, _, independent⟩ := inputFiles_counted isTree_kit.1 options
  rw [independent isTree_kit.2 sameTree_kit reorder, collected]

end DesignToCode.CommandLine
