import DesignToCode.Proofs.Output.StyleRules
import Mathlib.Data.List.Induction

/-!
Which rule of a style sheet is written for which value of a variant.
-/

namespace DesignToCode.Stylesheet

open DesignToCode.Text

theorem firstOfEach_prefix (written : List String) (first second : List StyleRule) :
    firstOfEach written first <+: firstOfEach written (first ++ second) := by
  induction first generalizing written with
  | nil => exact List.nil_prefix
  | cons rule rest ih =>
      rw [List.cons_append, firstOfEach, firstOfEach]
      split
      · exact ih written
      · exact List.prefix_cons_inj rule |>.mpr (ih _)

theorem firstOfEach_concat (written : List String) (rules : List StyleRule) (rule : StyleRule) :
    firstOfEach written (rules ++ [rule]) = firstOfEach written rules ∨
      firstOfEach written (rules ++ [rule]) = firstOfEach written rules ++ [rule] := by
  induction rules generalizing written with
  | nil =>
      simp only [List.nil_append, firstOfEach]
      split
      · exact Or.inl rfl
      · exact Or.inr rfl
  | cons first rest ih =>
      rw [List.cons_append, firstOfEach, firstOfEach]
      split
      · exact ih written
      · rcases ih (first.className :: written) with same | added
        · exact Or.inl (by rw [same])
        · exact Or.inr (by rw [added, List.cons_append])

def rulesOf (changes : List (String × StyleMap)) : List StyleRule :=
  firstOfEach [] ((changes.filter fun change => !isBase change.1).map
    fun change => ⟨lower change.1, change.2⟩)

theorem rulesOf_prefix (first second : List (String × StyleMap)) :
    rulesOf first <+: rulesOf (first ++ second) := by
  rw [rulesOf, rulesOf, List.filter_append, List.map_append]
  exact firstOfEach_prefix _ _ _

theorem rulesOf_concat (changes : List (String × StyleMap)) (value : String) (change : StyleMap) :
    rulesOf (changes ++ [(value, change)]) = rulesOf changes ∨
      rulesOf (changes ++ [(value, change)]) = rulesOf changes ++ [⟨lower value, change⟩] := by
  rw [rulesOf, rulesOf, List.filter_append, List.map_append]
  cases redefinesBase : isBase value with
  | true =>
      left
      simp [redefinesBase]
  | false =>
      have kept :
          [(value, change)].filter (fun change => !isBase change.1) = [(value, change)] := by
        simp [redefinesBase]
      rw [kept]
      exact firstOfEach_concat _ _ _

/-- The rule that is added when the value has its turn. -/
def WrittenFor (component : Component) (value : String) (rule : StyleRule) : Prop :=
  ∃ before change after, changes component = before ++ (value, change) :: after ∧
    rulesOf (before ++ [(value, change)]) = rulesOf before ++ [rule]

theorem WrittenFor.className {component : Component} {value : String} {rule : StyleRule}
    (written : WrittenFor component value rule) : rule.className = lower value := by
  obtain ⟨before, change, _, _, added⟩ := written
  rcases rulesOf_concat before value change with same | grown
  · rw [same] at added
    simp at added
  · rw [grown] at added
    have equal := List.append_cancel_left added
    rw [List.cons.injEq] at equal
    rw [← equal.1]

theorem WrittenFor.mem {component : Component} {value : String} {rule : StyleRule}
    (written : WrittenFor component value rule) : rule ∈ variantRules component := by
  obtain ⟨before, change, after, split, added⟩ := written
  have isPrefix := rulesOf_prefix (before ++ [(value, change)]) after
  rw [List.append_assoc, List.singleton_append, ← split, added] at isPrefix
  exact isPrefix.subset (List.mem_append_right _ (List.mem_singleton_self rule))

theorem exists_turn_of_mem_rulesOf {rule : StyleRule} (changes : List (String × StyleMap))
    (isRule : rule ∈ rulesOf changes) :
    ∃ before value change after, changes = before ++ (value, change) :: after ∧
      rulesOf (before ++ [(value, change)]) = rulesOf before ++ [rule] := by
  -- From the end: the rule came with the last change, or was there before it.
  induction changes using List.reverseRecOn with
  | nil => cases isRule
  | append_singleton earlier last ih =>
      have fromEarlier (found : rule ∈ rulesOf earlier) :
          ∃ before value change after, earlier ++ [last] = before ++ (value, change) :: after ∧
            rulesOf (before ++ [(value, change)]) = rulesOf before ++ [rule] := by
        obtain ⟨before, value, change, after, split, added⟩ := ih found
        exact ⟨before, value, change, after ++ [last], by rw [split]; simp, added⟩
      rcases rulesOf_concat earlier last.1 last.2 with same | grown
      · rw [same] at isRule
        exact fromEarlier isRule
      · rw [grown, List.mem_append, List.mem_singleton] at isRule
        rcases isRule with old | new
        · exact fromEarlier old
        · subst rule
          exact ⟨earlier, last.1, last.2, [], rfl, grown⟩

theorem exists_writtenFor {component : Component} {rule : StyleRule}
    (isRule : rule ∈ variantRules component) : ∃ value, WrittenFor component value rule := by
  obtain ⟨before, value, change, after, split, added⟩ := exists_turn_of_mem_rulesOf _ isRule
  exact ⟨value, before, change, after, split, added⟩

end DesignToCode.Stylesheet
