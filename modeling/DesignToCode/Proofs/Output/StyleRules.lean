import DesignToCode.Proofs.Component.ClassNames
import DesignToCode.Proofs.FirstWins
import DesignToCode.Proofs.Output.SheetReader

/-!
The rules of a style sheet.
-/

namespace DesignToCode

open DesignToCode.Naming DesignToCode.Text

namespace Stylesheet

theorem firstOfEach_sublist (written : List String) (rules : List StyleRule) :
    (firstOfEach written rules).Sublist rules := by
  rw [firstOfEach_eq]
  exact firstWins_sublist

theorem nodup_firstOfEach (written : List String) (rules : List StyleRule) :
    ((firstOfEach written rules).map StyleRule.className).Nodup := by
  rw [firstOfEach_eq]
  exact nodup_map_firstWins

theorem filter_firstOfEach (written : List String) (rules : List StyleRule) (className : String)
    (unwritten : className ∉ written) :
    (firstOfEach written rules).filter (·.className == className) =
      (rules.find? (·.className == className)).toList := by
  rw [firstOfEach_eq]
  exact filter_firstWins unwritten

theorem exists_mem_firstOfEach {rules : List StyleRule} {rule : StyleRule} (isRule : rule ∈ rules) :
    ∃ first ∈ firstOfEach [] rules, first.className = rule.className := by
  rw [firstOfEach_eq, ← List.mem_map, mem_map_firstWins]
  exact List.mem_map_of_mem isRule

theorem mem_changes {component : Component} {value : String} {change : StyleMap} :
    (value, change) ∈ changes component ↔ ∃ variant ∈ component.variants,
      value ∈ variant.values.values ∧ change = delta component variant ∧
        change.isEmpty = false := by
  rw [changes, List.mem_flatMap]
  constructor
  · rintro ⟨variant, isVariant, found⟩
    simp only at found
    split at found
    · cases found
    · rename_i changed
      obtain ⟨other, isValue, same⟩ := List.mem_map.mp found
      cases same
      exact ⟨variant, isVariant, isValue, rfl, Bool.eq_false_iff.mpr changed⟩
  · rintro ⟨variant, isVariant, isValue, rfl, changed⟩
    refine ⟨variant, isVariant, ?_⟩
    simp only [changed, Bool.false_eq_true, if_false]
    exact List.mem_map_of_mem isValue

theorem exists_change_of_mem_variantRules {component : Component} {rule : StyleRule}
    (isRule : rule ∈ variantRules component) :
    ∃ value, (value, rule.declarations) ∈ changes component ∧ rule.className = lower value ∧
      lower value ≠ baseClass := by
  have candidate := (firstOfEach_sublist _ _).subset isRule
  obtain ⟨⟨value, change⟩, kept, rfl⟩ := List.mem_map.mp candidate
  obtain ⟨isChange, notBase⟩ := List.mem_filter.mp kept
  exact ⟨value, isChange, rfl, by simpa [isBase] using notBase⟩

theorem mem_variantRules {component : Component} {rule : StyleRule}
    (member : rule ∈ variantRules component) :
    ∃ variant ∈ component.variants, ∃ value ∈ variant.values.values,
      rule.className = lower value ∧ lower value ≠ baseClass := by
  obtain ⟨value, isChange, named, notBase⟩ := exists_change_of_mem_variantRules member
  obtain ⟨variant, isVariant, isValue, _⟩ := mem_changes.mp isChange
  exact ⟨variant, isVariant, value, isValue, named, notBase⟩

theorem mem_elementRules {component : Component} {rule : StyleRule}
    (member : rule ∈ elementRules component) :
    ∃ tree ∈ component.trees, ∃ element ∈ tree.descendants,
      rule = ⟨element.className, element.styles⟩ := by
  have candidate := (firstOfEach_sublist _ _).subset member
  obtain ⟨element, kept, same⟩ := List.mem_map.mp candidate
  have isElement := (List.mem_filter.mp kept).1
  rw [List.mem_append, List.mem_flatMap] at isElement
  rcases isElement with inRoot | ⟨variant, isVariant, inVariant⟩
  · exact ⟨component.root, List.mem_cons_self, element, inRoot, same.symm⟩
  · exact ⟨variant.root, List.mem_cons_of_mem _ (List.mem_map_of_mem isVariant), element,
      inVariant, same.symm⟩

theorem className_ne_value {document member : Node} {value : String}
    (isSet : document.kind = .componentSet) (isMember : member ∈ Component.members document)
    (isValue : value ∈ (VariantName.parse member.name).values) {tree : Element}
    (built : tree ∈ (Component.ofNode document).trees) {className : String}
    (isClass : className ∈ tree.classNames) : className ≠ lower value := by
  intro same
  have free := Component.holds_documentScope_of_mem_classNames built isClass
  rw [Component.holds_documentScope_value isSet isMember isValue (by rw [same])] at free
  contradiction

theorem className_ne_of_variantRule {document : Node} {rule : StyleRule}
    (isRule : rule ∈ variantRules (Component.ofNode document)) {tree : Element}
    (built : tree ∈ (Component.ofNode document).trees) {className : String}
    (isClass : className ∈ tree.classNames) : rule.className ≠ className := by
  obtain ⟨variant, isVariant, value, isValue, named, _⟩ := mem_variantRules isRule
  obtain ⟨isSet, member, isMember, values⟩ := Component.exists_member_of_mem_variants isVariant
  rw [values] at isValue
  rw [named]
  exact (className_ne_value isSet isMember isValue built isClass).symm

theorem className_ne_base {document : Node} {tree : Element}
    (built : tree ∈ (Component.ofNode document).trees) {className : String}
    (isClass : className ∈ tree.classNames) : className ≠ baseClass := by
  intro same
  have free := Component.holds_documentScope_of_mem_classNames built isClass
  rw [Component.holds_documentScope_base (by rw [same])] at free
  contradiction

theorem mem_classNames_of_mem_descendants {tree element : Element}
    (member : element ∈ tree.descendants) : element.className ∈ tree.classNames :=
  List.mem_map_of_mem (List.mem_cons_of_mem _ member)

theorem nodup_rules (document : Node) :
    ((rules (Component.ofNode document)).map StyleRule.className).Nodup := by
  rw [rules, List.map_cons, List.nodup_cons]
  refine ⟨?_, ?_⟩
  · intro found
    obtain ⟨rule, member, isBase⟩ := List.mem_map.mp found
    rw [List.mem_append] at member
    rcases member with forValue | forElement
    · obtain ⟨_, _, value, _, named, notBase⟩ := mem_variantRules forValue
      exact notBase (named.symm.trans isBase)
    · obtain ⟨tree, built, element, below, named⟩ := mem_elementRules forElement
      rw [named] at isBase
      exact className_ne_base built (mem_classNames_of_mem_descendants below) isBase
  · rw [List.map_append, List.nodup_append]
    refine ⟨nodup_firstOfEach _ _, nodup_firstOfEach _ _, ?_⟩
    intro first isValueClass second isElementClass
    obtain ⟨valueRule, valueMember, rfl⟩ := List.mem_map.mp isValueClass
    obtain ⟨elementRule, elementMember, rfl⟩ := List.mem_map.mp isElementClass
    obtain ⟨tree, built, element, below, named⟩ := mem_elementRules elementMember
    rw [named]
    exact className_ne_of_variantRule valueMember built (mem_classNames_of_mem_descendants below)

def rulesFor (sheet : List StyleRule) (className : String) : List StyleRule :=
  sheet.filter (·.className == className)

/-- A rule with exactly the declarations of the element, none if it has no declarations. -/
def StyledAsDesigned (sheet : List StyleRule) (element : Element) : Prop :=
  rulesFor sheet element.className =
    if element.styles.isEmpty then [] else [⟨element.className, element.styles⟩]

def variantElements (component : Component) : List Element :=
  component.variants.flatMap fun variant => variant.root.descendants

theorem find?_styled {elements : List Element} {element : Element}
    (distinct : (elements.map Element.className).Nodup) (member : element ∈ elements) :
    (styled elements).find? (·.className == element.className) =
      if element.styles.isEmpty then none else some ⟨element.className, element.styles⟩ := by
  induction elements with
  | nil => simp at member
  | cons first rest ih =>
      rw [List.map_cons, List.nodup_cons] at distinct
      rcases List.mem_cons.mp member with same | later
      · subst first
        by_cases unstyled : element.styles.isEmpty = true
        · rw [if_pos unstyled, List.find?_eq_none]
          intro rule isRule
          simp only [styled, List.filter_cons, unstyled, Bool.not_true, Bool.false_eq_true,
            if_false, List.mem_map, List.mem_filter] at isRule
          obtain ⟨other, ⟨inRest, _⟩, rfl⟩ := isRule
          intro same
          exact distinct.1 (List.mem_map.mpr ⟨other, inRest, beq_iff_eq.mp same⟩)
        · simp [styled, unstyled]
      · have different : first.className ≠ element.className := by
          intro same
          exact distinct.1 (List.mem_map.mpr ⟨element, later, same.symm⟩)
        have skipped : (styled (first :: rest)).find? (·.className == element.className) =
            (styled rest).find? (·.className == element.className) := by
          by_cases unstyled : first.styles.isEmpty = true
          · simp [styled, unstyled]
          · simp [styled, unstyled, different]
        rw [skipped]
        exact ih distinct.2 later

theorem rulesFor_descendant {document : Node} {element : Element}
    (rendered : element ∈ (Component.ofNode document).root.descendants) :
    rulesFor (rules (Component.ofNode document)) element.className =
      ((if element.styles.isEmpty then none else some ⟨element.className, element.styles⟩).or
        ((styled (variantElements (Component.ofNode document))).find?
          (·.className == element.className))).toList := by
  let component := Component.ofNode document
  have built : component.root ∈ component.trees := List.mem_cons_self
  have isClass : element.className ∈ component.root.classNames :=
    mem_classNames_of_mem_descendants rendered
  have notBase : ((baseRule component).className == element.className) = false :=
    beq_eq_false_iff_ne.mpr (Ne.symm (className_ne_base built isClass))
  have noValue : (variantRules component).filter (·.className == element.className) = [] := by
    rw [List.filter_eq_nil_iff]
    intro rule member same
    exact className_ne_of_variantRule member built isClass (beq_iff_eq.mp same)
  have distinct : (component.root.descendants.map Element.className).Nodup := by
    have all : component.root.classNames.Nodup :=
      List.Pairwise.of_map lower (fun _ _ different same => different (congrArg lower same))
        (Component.nodup_classNames built)
    exact (List.nodup_cons.mp all).2
  have ofElements : (elementRules component).filter (·.className == element.className) = _ :=
    filter_firstOfEach [] _ element.className List.not_mem_nil
  simp only [styled, List.filter_append, List.map_append, List.find?_append] at ofElements
  change (rules component).filter _ = _
  rw [rules, List.filter_cons, notBase, List.filter_append, noValue, List.nil_append]
  rw [← find?_styled distinct rendered]
  exact ofElements

/-- In the emitted sheet an element of the base tree is styled as designed exactly when it has a
style of its own or no element of its class below a variant has one. -/
theorem styledAsDesigned_iff {document : Node} {element : Element}
    (rendered : element ∈ (Component.ofNode document).root.descendants) :
    let component := Component.ofNode document
    IsSheet (rules component) (render component) ∧
      (StyledAsDesigned (rules component) element ↔
        element.styles.isEmpty = false ∨
          ∀ variant ∈ component.variants, ∀ other ∈ variant.root.descendants,
            other.className = element.className → other.styles.isEmpty = true) := by
  intro component
  refine ⟨isSheet_render component, ?_⟩
  rw [StyledAsDesigned, rulesFor_descendant rendered]
  by_cases unstyled : element.styles.isEmpty = true
  · simp only [unstyled, if_true, Option.none_or, Bool.true_eq_false, false_or,
      Option.toList_eq_nil_iff, List.find?_eq_none, styled, List.mem_map, List.mem_filter,
      variantElements, List.mem_flatMap, beq_iff_eq]
    constructor
    · intro none variant isVariant other below same
      refine Classical.byContradiction fun styled => ?_
      exact none _ ⟨other, ⟨⟨variant, isVariant, below⟩, by simpa using styled⟩, rfl⟩ same
    · rintro all rule ⟨other, ⟨⟨variant, isVariant, below⟩, styled⟩, rfl⟩ same
      rw [all variant isVariant other below same] at styled
      contradiction
  · simp [unstyled]

def lateStyle : Node :=
  let frame (name : String) (mode : Option String) : Node :=
    { Node.blank with name, type := .frame, layout := { (default : AutoLayout) with mode } }
  let member (name : String) (children : List Node) : Node :=
    { Node.blank with name, type := .component, children }
  { Node.blank with
    name := "Chip", type := .componentSet
    children := [
      member "State=On" [frame "Label" none, frame "Icon" (some "HORIZONTAL")],
      member "State=Off" [frame "Label" (some "VERTICAL"), frame "Icon" (some "VERTICAL")]] }

def plainLabel : Element :=
  ⟨.block, "label", .empty, none, [], "Label"⟩

def rowIcon : Element :=
  ⟨.block, "icon", .ofList [("display", .text "flex"), ("flex-direction", .text "row")], none, [],
    "Icon"⟩

theorem descendants_lateStyle :
    (Component.ofNode lateStyle).root.descendants = [plainLabel, rowIcon] := by
  rfl

theorem styledAsDesigned_iff_rowIcon :
    rowIcon ∈ (Component.ofNode lateStyle).root.descendants ∧
      IsSheet (rules (Component.ofNode lateStyle)) (render (Component.ofNode lateStyle)) ∧
      StyledAsDesigned (rules (Component.ofNode lateStyle)) rowIcon := by
  have rendered : rowIcon ∈ (Component.ofNode lateStyle).root.descendants := by
    rw [descendants_lateStyle]
    exact List.mem_cons_of_mem _ List.mem_cons_self
  obtain ⟨isSheet, designed⟩ := styledAsDesigned_iff rendered
  exact ⟨rendered, isSheet, designed.mpr (Or.inl (by decide))⟩

theorem not_styledAsDesigned_plainLabel :
    let component := Component.ofNode lateStyle
    plainLabel ∈ component.root.descendants ∧ plainLabel.styles.isEmpty = true ∧
      IsSheet (rules component) (render component) ∧
      SheetReader.read? (render component).toList = some [("base", []),
        ("icon", [("display", "flex"), ("flex-direction", "row")]),
        ("label", [("display", "flex"), ("flex-direction", "column")])] ∧
      ¬StyledAsDesigned (rules component) plainLabel := by
  intro component
  have oneRule : (rulesFor (rules component) plainLabel.className).length = 1 := by
    decide +kernel
  refine ⟨by rw [descendants_lateStyle]; exact List.mem_cons_self, by decide,
    isSheet_render component, by decide +kernel, ?_⟩
  intro designed
  rw [designed] at oneRule
  contradiction

end Stylesheet

end DesignToCode
