import DesignToCode.Proofs.Text.Pieces
import DesignToCode.Proofs.Workspace.Writing

/-!
Paths made by joining.
-/

namespace DesignToCode

open DesignToCode.Text

/-- A name that an entry of a folder can have: one piece of a path, and not one that says where to
go. -/
structure IsEntryName (name : String) : Prop where
  flat : '/' ∉ name.toList
  isName : Workspace.isStep name.toList = false

instance (name : String) : Decidable (IsEntryName name) :=
  decidable_of_iff ('/' ∉ name.toList ∧ Workspace.isStep name.toList = false)
    ⟨fun ⟨flat, isName⟩ => ⟨flat, isName⟩, fun ⟨flat, isName⟩ => ⟨flat, isName⟩⟩

namespace IsEntryName

variable {name : String}

theorem noStep (entryName : IsEntryName name) :
    (name.toList.isEmpty = false ∧ (name.toList == ['.']) = false) ∧
      (name.toList == ['.', '.']) = false := by
  simpa only [Workspace.isStep, Bool.or_eq_false_iff] using entryName.isName

theorem relative (entryName : IsEntryName name) :
    ¬(name.toList.head? == some '/') = true :=
  fun slash => entryName.flat (List.mem_of_head? (beq_iff_eq.mp slash))

theorem component?_eq (entryName : IsEntryName name) :
    Path.component? name.toList = some (.name name.toList) := by
  obtain ⟨⟨notEmpty, notHere⟩, notUp⟩ := entryName.noStep
  rw [Path.component?, notEmpty, notHere, notUp]
  rfl

end IsEntryName

namespace Path

variable {folder : Path} {name : String}

theorem exists_slashed_join (folder : Path) (entryName : IsEntryName name) :
    ∃ before, (folder.join name).slashed = before ++ [name.toList] ∧
      (folder.slashed = before ∨ folder.slashed = before ++ [[]]) ∧
      (before = [] → folder.spelling = "") := by
  rw [join, if_neg entryName.relative]
  by_cases bare : folder.spelling.isEmpty = true
  · have empty : folder.spelling = "" := String.isEmpty_iff.mp bare
    refine ⟨[], ?_, Or.inr ?_, fun _ => empty⟩
    · rw [bare, Bool.true_or, if_pos rfl, slashed, empty, String.empty_append,
        pieces_of_notMem entryName.flat]
      rfl
    · rw [slashed, empty]
      rfl
  · by_cases ends : folder.spelling.toList.getLast? = some '/'
    · obtain ⟨before, spelled⟩ := List.getLast?_eq_some_iff.mp ends
      have nonempty : pieces (· == '/') before ≠ [] := pieces_ne_nil _ _
      refine ⟨pieces (· == '/') before, ?_, Or.inr ?_, fun none => absurd none nonempty⟩
      · rw [ends, beq_self_eq_true, Bool.or_true, if_pos rfl, slashed, String.toList_append,
          spelled, List.append_assoc, List.singleton_append, pieces_append_cons (by rfl),
          pieces_of_notMem entryName.flat]
      · rw [slashed, spelled, pieces_append_cons (by rfl)]
        rfl
    · refine ⟨folder.slashed, ?_, Or.inl rfl, fun none => absurd none (pieces_ne_nil _ _)⟩
      rw [if_neg (by simp [bare, ends]), slashed, String.toList_append, String.toList_append,
        List.append_assoc]
      change pieces _ (_ ++ '/' :: name.toList) = _
      rw [pieces_append_cons (by rfl), pieces_of_notMem entryName.flat]
      rfl

theorem isAbsolute_join (folder : Path) (entryName : IsEntryName name) :
    (folder.join name).isAbsolute = folder.isAbsolute := by
  rw [join, if_neg entryName.relative]
  by_cases bare : folder.spelling.isEmpty = true
  · have empty : folder.spelling = "" := String.isEmpty_iff.mp bare
    rw [bare, Bool.true_or, if_pos rfl, isAbsolute, isAbsolute, empty, String.empty_append]
    simpa using entryName.relative
  · have nonempty : folder.spelling.toList ≠ [] := by simpa using bare
    obtain ⟨first, rest, spelled⟩ := List.exists_cons_of_ne_nil nonempty
    split <;> simp [isAbsolute, String.toList_append, spelled]

theorem components_join (folder : Path) (entryName : IsEntryName name) :
    (folder.join name).components = folder.components ++ [.name name.toList] := by
  obtain ⟨before, split, whole, bare⟩ := exists_slashed_join folder entryName
  have steps : folder.slashed.filterMap component? = before.filterMap component? := by
    rcases whole with same | slash
    · rw [same]
    · rw [slash, List.filterMap_append]
      exact List.append_nil _
  have starts : ((folder.join name).slashed.head? == some ['.']) =
      (folder.slashed.head? == some ['.']) := by
    cases before with
    | nil =>
        rw [split, slashed, bare rfl, List.nil_append, List.head?_cons]
        exact entryName.noStep.1.2
    | cons first rest => rcases whole with same | slash <;> simp [*]
  simp only [components, isAbsolute_join folder entryName, starts, steps]
  rw [split, List.filterMap_append, List.append_assoc]
  congr 2
  rw [List.filterMap_cons, entryName.component?_eq]
  rfl

end Path

namespace Workspace

variable {workspace : Workspace} {name : String}

theorem stepFrom_name {location target : List String} (entryName : IsEntryName name)
    (stepped : workspace.stepFrom location name.toList = .ok target) :
    target = location ++ [name] := by
  obtain ⟨⟨notEmpty, notHere⟩, notUp⟩ := entryName.noStep
  rw [stepFrom, notEmpty, notHere, notUp] at stepped
  split at stepped
  · rw [Bool.or_self, if_neg Bool.false_ne_true, if_neg Bool.false_ne_true, String.ofList_toList,
      enter] at stepped
    split at stepped
    · cases stepped
    · split at stepped
      · exact (Except.ok.inj stepped).symm
      · cases stepped
  · cases stepped

theorem walk_join {folder : Path} {location target : List String} (entryName : IsEntryName name)
    (walked : workspace.walk location (folder.join name).slashed = .ok target) :
    ∃ base, workspace.walk location folder.slashed = .ok base ∧ target = base ++ [name] := by
  obtain ⟨before, split, whole, _⟩ := Path.exists_slashed_join folder entryName
  rw [split, walk_append_eq_ok] at walked
  obtain ⟨base, walked, onward⟩ := walked
  obtain ⟨next, stepped, arrived⟩ := walk_cons_eq_ok.mp onward
  cases arrived
  refine ⟨base, ?_, stepFrom_name entryName stepped⟩
  rcases whole with same | slash
  · rw [same]
    exact walked
  · rw [slash, walk_append_eq_ok]
    refine ⟨base, walked, walk_cons_eq_ok.mpr ⟨base, ?_, rfl⟩⟩
    rw [stepFrom] at stepped ⊢
    split at stepped
    · rename_i isFolder
      rw [if_pos isFolder]
      rfl
    · cases stepped

end Workspace

end DesignToCode
