import DesignToCode.Proofs.Decimal.Unsigned
import DesignToCode.Proofs.OrderedMap
import DesignToCode.Style.StyleMap

/-!
Style maps as they are written and patched.
-/

namespace DesignToCode

namespace StyleValue

def isNaN : StyleValue → Bool
  | .text _ => false
  | .number x => x.isNaN

theorem beq_self_of_not_isNaN {value : StyleValue} (isValue : value.isNaN = false) :
    (value == value) = true := by
  cases value with
  | text value => exact beq_self_eq_true value
  | number x => exact Decimal.beq_self_of_not_isNaN isValue

theorem not_isNaN_of_beq {left right : StyleValue} (same : (left == right) = true) :
    right.isNaN = false := by
  cases right with
  | text => rfl
  | number y =>
      cases left with
      | text => cases same
      | number x => exact Decimal.not_isNaN_of_beq same

end StyleValue

namespace StyleMap

inductive Edit where
  | insert (property : String) (value : StyleValue)
  | merge (other : StyleMap)

namespace Edit

def apply (map : StyleMap) : Edit → StyleMap
  | .insert property value => OrderedMap.insert map property value
  | .merge other => OrderedMap.merge map other

def written : Edit → List (String × StyleValue)
  | .insert property value => [(property, value)]
  | .merge other => other.entries

theorem apply_eq_insertAll (map : StyleMap) (edit : Edit) :
    edit.apply map = map.insertAll edit.written := by
  cases edit with
  | insert property value => rfl
  | merge other => rfl

end Edit

def edited (edits : List Edit) : StyleMap :=
  edits.foldl Edit.apply .empty

theorem edited_eq_ofList (edits : List Edit) :
    edited edits = .ofList (edits.flatMap Edit.written) := by
  have run (map : StyleMap) :
      edits.foldl Edit.apply map = map.insertAll (edits.flatMap Edit.written) := by
    induction edits generalizing map with
    | nil => rfl
    | cons edit rest ih =>
        rw [List.foldl_cons, ih, Edit.apply_eq_insertAll, List.flatMap_cons]
        exact List.foldl_append.symm
  exact run .empty

def HasNaN (map : StyleMap) : Prop :=
  ∃ entry ∈ map.entries, entry.2.isNaN = true

variable {map other : StyleMap}

theorem holds_merge_diff_iff :
    (∀ entry ∈ other.entries, (map.merge (map.diff other)).Holds entry) ↔ ¬other.HasNaN := by
  constructor
  · rintro all ⟨entry, isEntry, isNaN⟩
    obtain ⟨held, _, same⟩ := all entry isEntry
    rw [StyleValue.not_isNaN_of_beq same] at isNaN
    contradiction
  · intro noNaN entry isEntry
    refine OrderedMap.holds_merge_diff isEntry (StyleValue.beq_self_of_not_isNaN ?_)
    exact Bool.eq_false_iff.mpr fun isNaN => noNaN ⟨entry, isEntry, isNaN⟩

/-- A map that is made by insertions and merges lists each property once, where it first came. Its
difference to another map is laid over it without moving anything, and all of the other is then
found in it unless some value differs from itself. -/
theorem ordered_patchable (edits : List Edit) (map other : StyleMap) :
    let written := edits.flatMap Edit.written
    let patch := map.diff other
    let patched := map.merge patch
    ((edited edits).keys = (written.map Prod.fst).eraseDups ∧ (edited edits).keys.Nodup ∧
      ∀ property, (edited edits).get? property = written.reverse.lookup property) ∧
    patch.entries.Sublist other.entries ∧
    (∀ entry, entry ∈ patch.entries ↔ entry ∈ other.entries ∧ ¬map.Holds entry) ∧
    (patch.isEmpty = true ↔ ∀ entry ∈ other.entries, map.Holds entry) ∧
    patched.keys = map.keys ++ other.keys.filter (fun property => decide (property ∉ map.keys)) ∧
    (∀ property, property ∉ other.keys → patched.get? property = map.get? property) ∧
    ((∀ entry ∈ other.entries, patched.Holds entry) ↔ ¬other.HasNaN) ∧
    ((patched.diff other).isEmpty = true ↔ ¬other.HasNaN) := by
  intro written patch patched
  refine ⟨⟨?_, (edited edits).distinct, ?_⟩, OrderedMap.diff_sublist map other,
    fun entry => OrderedMap.mem_diff, OrderedMap.isEmpty_diff_iff,
    OrderedMap.keys_merge_diff map other, ?_, holds_merge_diff_iff, ?_⟩
  · rw [edited_eq_ofList, OrderedMap.keys_ofList]
  · intro property
    rw [edited_eq_ofList, OrderedMap.get?_ofList]
  · exact fun property => OrderedMap.get?_merge_diff_of_notMem map other
  · rw [OrderedMap.isEmpty_diff_iff, holds_merge_diff_iff]

def spacedRow : StyleMap :=
  .ofList [("gap", .text "8px"), ("opacity", .number 0.5), ("width", .text "10px")]

def fadedRow : StyleMap :=
  .ofList [("opacity", .number 0.25), ("color", .text "#ff0000"), ("gap", .text "8px")]

theorem ordered_patchable_fadedRow :
    let patched := spacedRow.merge (spacedRow.diff fadedRow)
    "width" ∉ fadedRow.keys ∧ ¬fadedRow.HasNaN ∧
      patched.keys = ["gap", "opacity", "width", "color"] ∧
      patched.get? "width" = some (.text "10px") ∧
      patched.Holds ("opacity", .number 0.25) ∧ (patched.diff fadedRow).isEmpty = true := by
  intro patched
  have absent : "width" ∉ fadedRow.keys := by decide +kernel
  have noNaN : ¬fadedRow.HasNaN := by
    rintro ⟨entry, isEntry, isNaN⟩
    have numbers : (fadedRow.entries.all fun entry => !entry.2.isNaN) = true := by decide +kernel
    have isNumber := List.all_eq_true.mp numbers entry isEntry
    rw [isNaN] at isNumber
    contradiction
  have isEntry : ("opacity", StyleValue.number 0.25) ∈ fadedRow.entries := List.mem_cons_self
  obtain ⟨_, _, _, _, _, kept, found, same⟩ := ordered_patchable [] spacedRow fadedRow
  exact ⟨absent, noNaN, by decide +kernel, (kept _ absent).trans rfl,
    found.mpr noNaN _ isEntry, same.mpr noNaN⟩

end StyleMap

end DesignToCode
