import DesignToCode.Proofs.Workspace.Joining
import Mathlib.Data.List.Nodup

/-!
The JSON files that are found below a path, against what stands in the tree.
-/

namespace DesignToCode

open DesignToCode.Text

namespace Path

/-- The last component is a name that has something before its ending `json`, which may be written
in small or capital letters. -/
def EndsInJson (components : List Component) : Prop :=
  ∃ stem ending, components.getLast? = some (.name (stem ++ '.' :: ending)) ∧ stem ≠ [] ∧
    ending.map Char.toLower = "json".toList

theorem extension?_of_dot {path : Path} {stem ending : List Char}
    (named : path.components.getLast? = some (.name (stem ++ '.' :: ending)))
    (isLast : '.' ∉ ending) : path.extension? = if stem = [] then none else some ending := by
  rw [extension?, fileName?, named, Option.bind_some, pieces_append_cons (by rfl),
    pieces_of_notMem isLast, List.reverse_append, List.reverse_singleton, List.singleton_append]
  obtain ⟨next, rest, split⟩ := List.exists_cons_of_ne_nil
    (List.reverse_ne_nil_iff.mpr (pieces_ne_nil (· == '.') stem))
  have alone : (rest.isEmpty && next.isEmpty) = true ↔ stem = [] := by
    have oneEmpty : pieces (· == '.') stem = [[]] ↔ stem = [] := pieces_eq_singleton_nil_iff
    rw [← oneEmpty, ← List.reverse_inj, split]
    simp [and_comm]
  rw [split]
  simp only [alone]

theorem exists_last_dot {name : List Char} (dotted : '.' ∈ name) :
    ∃ stem ending, name = stem ++ '.' :: ending ∧ '.' ∉ ending := by
  obtain ⟨after, before, split, isFirst⟩ :=
    List.eq_append_cons_of_mem (List.mem_reverse.mpr dotted)
  refine ⟨before.reverse, after.reverse, ?_, by simpa using isFirst⟩
  rw [← List.reverse_reverse name, split]
  simp

theorem exists_of_extension? {path : Path} {ending : List Char}
    (found : path.extension? = some ending) :
    ∃ stem, path.components.getLast? = some (.name (stem ++ '.' :: ending)) ∧ stem ≠ [] := by
  cases last : path.components.getLast? with
  | none => simp [extension?, fileName?, last] at found
  | some component =>
      cases component with
      | name name =>
          by_cases dotted : '.' ∈ name
          · obtain ⟨stem, text, rfl, isLast⟩ := exists_last_dot dotted
            rw [extension?_of_dot last isLast] at found
            split at found
            · cases found
            · rename_i nonempty
              cases found
              exact ⟨stem, rfl, nonempty⟩
          · simp [extension?, fileName?, last, pieces_of_notMem dotted] at found
      | _ => simp [extension?, fileName?, last] at found

theorem isJson_iff (path : Path) : path.isJson = true ↔ EndsInJson path.components := by
  constructor
  · intro json
    rw [isJson] at json
    split at json
    · rename_i ending found
      obtain ⟨stem, named, nonempty⟩ := exists_of_extension? found
      exact ⟨stem, ending, named, nonempty, beq_iff_eq.mp json⟩
    · cases json
  · rintro ⟨stem, ending, named, nonempty, lower⟩
    have isLast : '.' ∉ ending := by
      intro dotted
      have inLower : '.'.toLower ∈ ending.map Char.toLower := List.mem_map_of_mem dotted
      rw [lower] at inLower
      revert inLower
      decide
    rw [isJson, extension?_of_dot named isLast, if_neg nonempty]
    exact beq_iff_eq.mpr lower

end Path

namespace Shape

/-- In every folder the names are distinct, and they are names that entries can have. -/
inductive IsTree : Shape → Prop
  | file : IsTree .file
  | folder {entries : List (String × Shape)} (named : ∀ entry ∈ entries, IsEntryName entry.1)
      (distinct : (entries.map Prod.fst).Nodup) (inside : ∀ entry ∈ entries, entry.2.IsTree) :
      IsTree (.folder entries)

inductive HoldsFile : Shape → List String → Prop
  | here : HoldsFile .file []
  | inside {entries : List (String × Shape)} {name : String} {shape : Shape} {rest : List String}
      (isEntry : (name, shape) ∈ entries) (holds : shape.HoldsFile rest) :
      HoldsFile (.folder entries) (name :: rest)

theorem jsonFilesIn_eq (folder : Path) (entries : List (String × Shape)) :
    jsonFilesIn folder entries =
      entries.flatMap fun entry => entry.2.jsonFiles (folder.join entry.1) := by
  induction entries with
  | nil => rw [jsonFilesIn, List.flatMap_nil]
  | cons entry rest ih =>
      obtain ⟨name, shape⟩ := entry
      rw [jsonFilesIn, ih, List.flatMap_cons]

end Shape

def namesOf (names : List String) : List Path.Component :=
  names.map fun name => .name name.toList

namespace Shape

def found (shape : Shape) (path : Path) : List (List Path.Component) :=
  (shape.jsonFiles path).map Path.components

theorem found_file (path : Path) :
    found .file path = if path.isJson then [path.components] else [] := by
  rw [found, jsonFiles]
  split <;> rfl

theorem found_folder (entries : List (String × Shape)) (path : Path) :
    found (.folder entries) path =
      entries.flatMap fun entry => entry.2.found (path.join entry.1) := by
  rw [found, jsonFiles, jsonFilesIn_eq, List.map_flatMap]
  rfl

theorem mem_found {shape : Shape} (tree : shape.IsTree) {path : Path}
    {components : List Path.Component} :
    components ∈ shape.found path ↔
      ∃ names, shape.HoldsFile names ∧ components = path.components ++ namesOf names ∧
        Path.EndsInJson components := by
  induction tree generalizing path with
  | file =>
      rw [found_file]
      constructor
      · intro member
        split at member
        · rename_i json
          cases List.mem_singleton.mp member
          exact ⟨[], .here, (List.append_nil _).symm, (Path.isJson_iff path).mp json⟩
        · cases member
      · rintro ⟨_, ⟨⟩, same, json⟩
        rw [namesOf, List.map_nil, List.append_nil] at same
        subst same
        rw [if_pos ((Path.isJson_iff path).mpr json)]
        exact List.mem_singleton_self _
  | @folder entries named distinct inside ih =>
      rw [found_folder, List.mem_flatMap]
      have longer {name : String} {shape : Shape} (isEntry : (name, shape) ∈ entries)
          (rest : List String) : (path.join name).components ++ namesOf rest =
            path.components ++ namesOf (name :: rest) := by
        rw [Path.components_join path (named _ isEntry), List.append_assoc]
        rfl
      constructor
      · rintro ⟨⟨name, shape⟩, isEntry, member⟩
        obtain ⟨rest, holds, same, json⟩ := (ih _ isEntry).mp member
        exact ⟨name :: rest, .inside isEntry holds, same.trans (longer isEntry rest), json⟩
      · rintro ⟨names, holds, same, json⟩
        cases holds with
        | @inside _ name shape rest isEntry holds =>
            exact ⟨(name, shape), isEntry,
              (ih _ isEntry).mpr ⟨rest, holds, same.trans (longer isEntry rest).symm, json⟩⟩

theorem nodup_found {shape : Shape} (tree : shape.IsTree) (path : Path) :
    (shape.found path).Nodup := by
  induction tree generalizing path with
  | file =>
      rw [found_file]
      split
      · exact List.nodup_singleton _
      · exact List.nodup_nil
  | @folder entries named distinct inside ih =>
      rw [found_folder, List.nodup_flatMap]
      refine ⟨fun entry isEntry => ih entry isEntry _, ?_⟩
      refine (List.pairwise_map.mp distinct).imp_of_mem ?_
      intro first second isFirst isSecond different components inFirst inSecond
      obtain ⟨names, -, same, -⟩ := (mem_found (inside _ isFirst)).mp inFirst
      obtain ⟨others, -, same', -⟩ := (mem_found (inside _ isSecond)).mp inSecond
      -- After the folder the one path goes on with the one name and the other with the other.
      rw [Path.components_join path (named _ isFirst), List.append_assoc] at same
      rw [Path.components_join path (named _ isSecond), List.append_assoc, same] at same'
      have goesOn := (List.cons.inj (List.append_cancel_left same')).1
      exact different (String.toList_inj.mp (Path.Component.name.inj goesOn))

end Shape

namespace Entry

open Shape (IsTree HoldsFile)

theorem shapes_eq (entries : List (String × Entry)) :
    shapes entries = entries.map fun entry => (entry.1, entry.2.shape) := by
  induction entries with
  | nil => rw [shapes, List.map_nil]
  | cons entry rest ih =>
      obtain ⟨name, inner⟩ := entry
      rw [shapes, ih, List.map_cons]

theorem isTree_folder {entries : List (String × Entry)} (tree : (folder entries).shape.IsTree) :
    (entries.map Prod.fst).Nodup ∧ ∀ entry ∈ entries, entry.2.shape.IsTree := by
  rw [shape, shapes_eq] at tree
  cases tree with
  | folder named distinct inside =>
      rw [List.map_map] at distinct
      refine ⟨distinct, fun entry isEntry => ?_⟩
      exact inside _ (List.mem_map_of_mem isEntry)

theorem mem_iff_lookup {entries : List (String × Entry)} (distinct : (entries.map Prod.fst).Nodup)
    {name : String} {entry : Entry} :
    (name, entry) ∈ entries ↔ entries.lookup name = some entry :=
  let map : OrderedMap Entry := ⟨entries, distinct⟩
  ⟨map.get?_of_mem, map.mem_of_get?⟩

theorem isTree_at? {entry inner : Entry} (tree : entry.shape.IsTree) {location : List String}
    (found : entry.at? location = some inner) : inner.shape.IsTree := by
  induction location generalizing entry with
  | nil =>
      rw [at?_nil] at found
      cases found
      exact tree
  | cons name rest ih =>
      cases entry with
      | file content => cases found
      | folder entries =>
          rw [at?_folder] at found
          obtain ⟨next, isNext, found⟩ := Option.bind_eq_some_iff.mp found
          obtain ⟨distinct, inside⟩ := isTree_folder tree
          exact ih (inside _ ((mem_iff_lookup distinct).mpr isNext)) found

theorem holdsFile_iff {entry : Entry} (tree : entry.shape.IsTree) {names : List String} :
    entry.shape.HoldsFile names ↔ ∃ content, entry.at? names = some (.file content) := by
  induction names generalizing entry with
  | nil =>
      rw [at?_nil]
      constructor
      · intro holds
        cases entry with
        | file content => exact ⟨content, rfl⟩
        | folder entries =>
            rw [shape] at holds
            cases holds
      · rintro ⟨content, isFile⟩
        cases isFile
        rw [shape]
        exact .here
  | cons name rest ih =>
      cases entry with
      | file content =>
          rw [shape]
          constructor
          · rintro ⟨⟩
          · rintro ⟨_, ⟨⟩⟩
      | folder entries =>
          obtain ⟨distinct, inside⟩ := isTree_folder tree
          rw [at?_folder, shape, shapes_eq]
          constructor
          · intro holds
            cases holds with
            | inside isEntry holds =>
                obtain ⟨⟨_, inner⟩, isInner, same⟩ := List.mem_map.mp isEntry
                cases same
                rw [(mem_iff_lookup distinct).mp isInner, Option.bind_some]
                exact (ih (inside _ isInner)).mp holds
          · rintro ⟨content, found⟩
            obtain ⟨inner, isInner, found⟩ := Option.bind_eq_some_iff.mp found
            have isEntry := (mem_iff_lookup distinct).mpr isInner
            exact .inside (List.mem_map_of_mem isEntry)
              ((ih (inside _ isEntry)).mpr ⟨content, found⟩)

end Entry

end DesignToCode
