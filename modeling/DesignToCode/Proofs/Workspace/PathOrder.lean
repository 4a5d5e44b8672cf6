import DesignToCode.Workspace.Path
import Mathlib.Data.List.Basic

/-!
The order of paths.
-/

namespace DesignToCode.Path

/-- The root comes first, then `.`, `..` and names, which come in the order of a dictionary. -/
inductive Component.Before : Component → Component → Prop
  | root_here : Before .root .here
  | root_up : Before .root .up
  | root_name {text : List Char} : Before .root (.name text)
  | here_up : Before .here .up
  | here_name {text : List Char} : Before .here (.name text)
  | up_name {text : List Char} : Before .up (.name text)
  | names {first second : List Char} (earlier : List.Lex (· < ·) first second) :
      Before (.name first) (.name second)

def AtMost (first second : Path) : Prop :=
  first.components = second.components ∨
    List.Lex Component.Before first.components second.components

section

variable {α β : Type} {compare : β → β → Ordering} {image : α → β} {before : α → α → Prop}

theorem compareLex_map_eq_eq_iff (same : ∀ a b, compare (image a) (image b) = .eq ↔ a = b)
    (first second : List α) :
    List.compareLex compare (first.map image) (second.map image) = .eq ↔ first = second := by
  induction first generalizing second with
  | nil => cases second <;> simp [List.compareLex_nil_nil, List.compareLex_nil_cons]
  | cons a rest ih =>
      cases second with
      | nil => simp [List.compareLex_cons_nil]
      | cons b later => simp [List.compareLex_cons_cons, Ordering.then_eq_eq, same, ih]

theorem compareLex_map_eq_lt_iff (same : ∀ a b, compare (image a) (image b) = .eq ↔ a = b)
    (less : ∀ a b, compare (image a) (image b) = .lt ↔ before a b) (first second : List α) :
    List.compareLex compare (first.map image) (second.map image) = .lt ↔
      List.Lex before first second := by
  induction first generalizing second with
  | nil => cases second <;> simp [List.compareLex_nil_nil, List.compareLex_nil_cons]
  | cons a rest ih =>
      cases second with
      | nil => simp [List.compareLex_cons_nil]
      | cons b later =>
          rw [List.map_cons, List.map_cons, List.compareLex_cons_cons, Ordering.then_eq_lt, less,
            same, ih, List.cons_lex_cons_iff]

end

theorem compareNat_eq : compareNat = (Ord.compare : Nat → Nat → Ordering) := by
  funext a b
  rw [compareNat, Nat.compare_eq_ite_lt]

instance : Std.TransCmp compareNat := by
  rw [compareNat_eq]
  infer_instance

instance : Std.LawfulEqCmp compareNat := by
  rw [compareNat_eq]
  infer_instance

theorem compareNat_toNat_eq_iff (a b : Char) : compareNat a.toNat b.toNat = .eq ↔ a = b := by
  rw [Std.LawfulEqCmp.compare_eq_iff_eq]
  exact Char.toNat_inj

theorem compareNat_toNat_lt_iff (a b : Char) : compareNat a.toNat b.toNat = .lt ↔ a < b := by
  rw [compareNat_eq, Nat.compare_eq_lt]
  rfl

namespace Component

theorem key_eq_iff (a b : Component) :
    List.compareLex compareNat a.key b.key = .eq ↔ a = b := by
  cases a <;> cases b <;>
    simp [key, List.compareLex_cons_cons, compareNat,
      compareLex_map_eq_eq_iff compareNat_toNat_eq_iff]

theorem key_lt_iff (a b : Component) :
    List.compareLex compareNat a.key b.key = .lt ↔ Before a b := by
  constructor
  · intro earlier
    cases a <;> cases b
    case name.name first second =>
      simp only [key, List.compareLex_cons_cons, Std.ReflCmp.compare_self, Ordering.eq_then,
        compareLex_map_eq_lt_iff compareNat_toNat_eq_iff compareNat_toNat_lt_iff] at earlier
      exact .names earlier
    all_goals first
      | constructor
      | simp [key, List.compareLex_cons_cons, List.compareLex_nil_nil, compareNat] at earlier
  · intro earlier
    cases earlier with
    | names earlier =>
        simpa [key, List.compareLex_cons_cons, Std.ReflCmp.compare_self,
          compareLex_map_eq_lt_iff compareNat_toNat_eq_iff compareNat_toNat_lt_iff] using earlier
    | _ => rfl

end Component

def compareComponents (first second : List Component) : Ordering :=
  List.compareLex (List.compareLex compareNat) (first.map Component.key) (second.map Component.key)

theorem compareComponents_eq_iff {first second : List Component} :
    compareComponents first second = .eq ↔ first = second :=
  compareLex_map_eq_eq_iff Component.key_eq_iff first second

theorem compareComponents_lt_iff {first second : List Component} :
    compareComponents first second = .lt ↔ List.Lex Component.Before first second :=
  compareLex_map_eq_lt_iff Component.key_eq_iff Component.key_lt_iff first second

theorem compareComponents_swap (first second : List Component) :
    compareComponents second first = (compareComponents first second).swap := by
  rw [compareComponents, compareComponents]
  exact Std.OrientedCmp.eq_swap

theorem not_lex_both {first second : List Component}
    (earlier : List.Lex Component.Before first second) :
    ¬List.Lex Component.Before second first := by
  rw [← compareComponents_lt_iff] at earlier ⊢
  rw [compareComponents_swap, earlier]
  decide

theorem atMost_iff (first second : Path) : atMost first second = true ↔ AtMost first second := by
  change (compareComponents first.components second.components).isLE = true ↔ _
  rw [Ordering.isLE_iff_eq_lt_or_eq_eq, compareComponents_lt_iff, compareComponents_eq_iff, AtMost,
    Or.comm]

theorem atMost_trans (first second third : Path) (here : atMost first second = true)
    (onward : atMost second third = true) : atMost first third = true := by
  rw [atMost, compare] at here onward ⊢
  exact Std.TransCmp.isLE_trans here onward

theorem atMost_total (first second : Path) :
    (atMost first second || atMost second first) = true := by
  have swapped : compare second first = (compare first second).swap :=
    compareComponents_swap first.components second.components
  rw [atMost, atMost, swapped]
  cases compare first second <;> rfl

theorem pairwise_mergeSort (paths : List Path) : (paths.mergeSort atMost).Pairwise AtMost := by
  refine (List.pairwise_mergeSort atMost_trans atMost_total _).imp ?_
  intro first second sorted
  exact (atMost_iff first second).mp sorted

end DesignToCode.Path
