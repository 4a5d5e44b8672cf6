import DesignToCode.Proofs.Component.Addresses
import DesignToCode.Proofs.Component.ClassNames
import DesignToCode.Proofs.OrderedMap
import DesignToCode.Proofs.Output.SheetReader

/-!
The rules of a style sheet and their order, for any component.
-/

namespace DesignToCode

open DesignToCode.Text

namespace Stylesheet

/-- The rule that a value of a variant asks for, at the index of the variant and then that of the
value. Variants that change nothing ask for none, and no value asks for the base class. -/
inductive ValueRuleAt (component : Component) : Place → StyleRule → Prop
  | intro {index valueIndex : Nat} {variant : Variant} {value : String}
      (isVariant : component.variants[index]? = some variant)
      (changes : (component.root.styles.diff variant.root.styles).isEmpty = false)
      (isValue : variant.values.values[valueIndex]? = some value)
      (notBase : lower value ≠ "base") :
      ValueRuleAt component [index, valueIndex]
        ⟨lower value, component.root.styles.diff variant.root.styles⟩

/-- The rule that a styled element asks for, at the index of its tree and then its place there. The
root comes before the variants, and the root of a tree itself asks for nothing. -/
inductive ElementRuleAt (component : Component) : Place → StyleRule → Prop
  | intro {index : Nat} {tree element : Element} {place : Place}
      (isTree : component.trees[index]? = some tree) (below : place ≠ [])
      (isElement : tree.at? place = some element) (styled : element.styles.isEmpty = false) :
      ElementRuleAt component (index :: place) ⟨element.className, element.styles⟩

def ChangeAt (component : Component) (variant : Variant) (place : Place)
    (change : String × StyleMap) : Prop :=
  (delta component variant).isEmpty = false ∧ ∃ index value, place = [index] ∧
    variant.values.values[index]? = some value ∧ (value, delta component variant) = change

theorem listed_changes (component : Component) :
    Listed (Within component.variants (ChangeAt component)) (changes component) := by
  refine Listed.flatMap _ fun variant _ => ?_
  cases unchanged : (delta component variant).isEmpty with
  | true =>
      simp only [unchanged, if_true]
      refine Listed.nil fun place change asked => ?_
      rw [asked.1] at unchanged
      contradiction
  | false =>
      simp only [unchanged, Bool.false_eq_true, if_false]
      refine ((Listed.self variant.values.values).map fun value =>
        (value, delta component variant)).congr fun place change => ?_
      constructor
      · rintro ⟨value, ⟨index, isPlace, isValue⟩, same⟩
        exact ⟨unchanged, index, value, isPlace, isValue, same⟩
      · rintro ⟨_, index, value, isPlace, isValue, same⟩
        exact ⟨value, ⟨index, isPlace, isValue⟩, same⟩

theorem listed_valueRules (component : Component) :
    Listed (ValueRuleAt component) (((changes component).filter fun change =>
      !isBase change.1).map fun change => ⟨lower change.1, change.2⟩) := by
  refine (((listed_changes component).filter _).map _).congr fun place rule => ?_
  constructor
  · rintro ⟨change, ⟨⟨index, variant, _, rfl, isVariant, changed, valueIndex, value, rfl, isValue,
      rfl⟩, notBase⟩, rfl⟩
    exact .intro isVariant changed isValue (by simpa [isBase, baseClass] using notBase)
  · rintro ⟨isVariant, changed, isValue, notBase⟩
    refine ⟨(_, _), ⟨⟨_, _, _, rfl, isVariant, changed, _, _, rfl, isValue, rfl⟩, ?_⟩, rfl⟩
    simpa [isBase, baseClass] using notBase

theorem trees_flatMap_descendants (component : Component) :
    component.trees.flatMap Element.descendants = component.root.descendants ++
      component.variants.flatMap fun variant => variant.root.descendants := by
  rw [Component.trees, List.flatMap_cons, List.flatMap_map]

theorem listed_elementRules (component : Component) :
    Listed (ElementRuleAt component) (styled (component.root.descendants ++
      component.variants.flatMap fun variant => variant.root.descendants)) := by
  have elements := Listed.flatMap component.trees fun tree _ => tree.listed_descendants
  rw [trees_flatMap_descendants] at elements
  refine ((elements.filter _).map _).congr fun place rule => ?_
  constructor
  · rintro ⟨element, ⟨⟨index, tree, _, rfl, isTree, below, isElement⟩, styled⟩, rfl⟩
    exact .intro isTree below isElement (by simpa using styled)
  · rintro ⟨isTree, below, isElement, styled⟩
    refine ⟨_, ⟨⟨_, _, _, rfl, isTree, below, isElement⟩, ?_⟩, rfl⟩
    simpa using styled

/-- After the base rule come those for the values of the variants: for each class one, with the
change of the first variant that changes something and has a value of the class. -/
theorem variantRules_keepsFirst (component : Component) :
    IsSheet (⟨"base", component.root.styles⟩ ::
      (variantRules component ++ elementRules component)) (render component) ∧
    KeepsFirst StyleRule.className (ValueRuleAt component) (variantRules component) ∧
    ∀ index variant, component.variants[index]? = some variant →
      variant.root.styles.agrees component.root.styles = true →
        ∀ valueIndex rule, ¬ValueRuleAt component [index, valueIndex] rule := by
  refine ⟨isSheet_render component, ?_, ?_⟩
  · rw [variantRules, firstOfEach_eq]
    exact (listed_valueRules component).keepsFirst
  · intro index variant isVariant same valueIndex rule asked
    cases asked with
    | intro isOther changes isValue notBase =>
        rw [isVariant] at isOther
        cases isOther
        rw [OrderedMap.isEmpty_diff_of_agrees same] at changes
        contradiction

def toneChip : Component :=
  let chip (color : String) : Element :=
    ⟨.block, "chip", .ofList [("color", .text color)], none, [], "Chip"⟩
  ⟨chip "red", [], [
    ⟨"Small", .ofList [("Size", "Small")], chip "red"⟩,
    ⟨"SmallBase", .ofList [("Tone", "Base"), ("Size", "SMALL")], chip "blue"⟩,
    ⟨"SmallDark", .ofList [("Size", "small"), ("Tone", "Dark")], chip "green"⟩]⟩

theorem variantRules_keepsFirst_toneChip :
    IsSheet (⟨"base", toneChip.root.styles⟩ :: (variantRules toneChip ++ elementRules toneChip))
        (render toneChip) ∧
      "small" ∈ (variantRules toneChip).map StyleRule.className ∧
      ∀ valueIndex rule, ¬ValueRuleAt toneChip [0, valueIndex] rule := by
  obtain ⟨isSheet, keeps, unchanged⟩ := variantRules_keepsFirst toneChip
  have asked := @ValueRuleAt.intro toneChip 1 1 _ "SMALL" rfl (by decide +kernel) rfl
    (by decide +kernel)
  have lowered : lower "SMALL" = "small" := by rfl
  exact ⟨isSheet, lowered ▸ keeps.complete _ _ asked, unchanged 0 _ rfl (by decide +kernel)⟩

example : SheetReader.read? (render toneChip).toList = some [("base", [("color", "red")]),
    ("small", [("color", "blue")]), ("dark", [("color", "green")])] := by
  decide +kernel

/-- The last rules are those for elements: for each class one, with the style of the first styled
element of the class below the root or else below the variants. -/
theorem elementRules_keepsFirst (component : Component) :
    IsSheet (⟨"base", component.root.styles⟩ ::
      (variantRules component ++ elementRules component)) (render component) ∧
    KeepsFirst StyleRule.className (ElementRuleAt component) (elementRules component) := by
  refine ⟨isSheet_render component, ?_⟩
  rw [elementRules, firstOfEach_eq]
  exact (listed_elementRules component).keepsFirst

end Stylesheet

end DesignToCode
