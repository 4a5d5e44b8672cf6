import DesignToCode.Proofs.Component.Preorder

/-!
Class names of a component, whose trees draw them from one and the same scope.
-/

namespace DesignToCode

open DesignToCode.Naming DesignToCode.Text

namespace Component

/-- The elements that a style sheet is made for: the root and the root of each variant. -/
def trees (component : Component) : List Element :=
  component.root :: component.variants.map Variant.root

def documentScope (document : Node) : ClassScope :=
  if document.kind = .componentSet then
    scope (reservedNames (members document) (Property.ofDefinitions document.properties))
  else scope []

theorem exists_node_of_root_ofSet (document : Node) :
    ∃ node, (node ∈ members document ∨ node = document) ∧
      (ofSet document).root = (Element.ofNode (scope (reservedNames (members document)
        (Property.ofDefinitions document.properties))) node).1.renamed document.name := by
  simp only [ofSet]
  split
  · rename_i first rest firstEq
    obtain ⟨member, isMember, same⟩ := List.mem_map.mp
      (firstEq ▸ List.mem_cons_self : first ∈ (members document).map _)
    exact ⟨member, Or.inl isMember, by rw [← same]; rfl⟩
  · exact ⟨document, Or.inr rfl, rfl⟩

theorem exists_node_of_mem_trees {document : Node} {tree : Element}
    (built : tree ∈ (ofNode document).trees) :
    ∃ node source, tree = (Element.ofNode (documentScope document) node).1.renamed source := by
  by_cases isSet : document.kind = .componentSet
  · simp only [ofNode, isSet, if_true, trees, List.mem_cons, List.mem_map] at built
    simp only [documentScope, isSet, if_true]
    rcases built with root | ⟨variant, isVariant, same⟩
    · obtain ⟨node, _, rootEq⟩ := exists_node_of_root_ofSet document
      exact ⟨node, document.name, root.trans rootEq⟩
    · obtain ⟨member, _, variantEq⟩ := List.mem_map.mp isVariant
      refine ⟨member, tree.source, ?_⟩
      rw [← same, ← variantEq]
      exact (Element.renamed_source _).symm
  · simp only [ofNode, isSet, if_false, trees, List.map_nil, List.mem_singleton] at built
    simp only [documentScope, isSet, if_false]
    exact ⟨document, tree.source, by rw [built]; exact (Element.renamed_source _).symm⟩

theorem exists_member_of_mem_variants {document : Node} {variant : Variant}
    (isVariant : variant ∈ (ofNode document).variants) :
    document.kind = .componentSet ∧
      ∃ member ∈ members document, variant.values = VariantName.parse member.name := by
  unfold ofNode at isVariant
  by_cases isSet : document.kind = .componentSet
  · rw [if_pos isSet] at isVariant
    obtain ⟨member, isMember, same⟩ := List.mem_map.mp isVariant
    exact ⟨isSet, member, isMember, by rw [← same]; rfl⟩
  · simp [isSet] at isVariant

theorem variants_ofNode {document : Node} (isSet : document.kind = .componentSet) :
    (ofNode document).variants = (members document).map (variantOf (documentScope document)) := by
  rw [ofNode, if_pos isSet, documentScope, if_pos isSet]
  rfl

theorem notText_of_mem_members {document member : Node} (isMember : member ∈ members document) :
    member.kind ≠ .text := by
  have kept := (List.mem_filter.mp isMember).2
  simp only [Bool.and_eq_true, beq_iff_eq] at kept
  rw [kept.2]
  decide

theorem exists_claims_of_mem_trees {document : Node} {tree : Element}
    (built : tree ∈ (ofNode document).trees) :
    ∃ names, tree.classNames = ((documentScope document).claimAll names).1 := by
  obtain ⟨node, source, rfl⟩ := exists_node_of_mem_trees built
  refine ⟨(Element.ofNode (documentScope document) node).1.preorder.map Element.source, ?_⟩
  rw [Element.claimAll_ofNode, Element.classNames_renamed]

theorem nodup_classNames {document : Node} {tree : Element}
    (built : tree ∈ (ofNode document).trees) : (tree.classNames.map lower).Nodup := by
  obtain ⟨names, issued⟩ := exists_claims_of_mem_trees built
  rw [issued]
  exact ClassScope.nodup_claimAll _ _

theorem holds_documentScope_of_mem_classNames {document : Node} {tree : Element}
    (built : tree ∈ (ofNode document).trees) {name : String} (member : name ∈ tree.classNames) :
    (documentScope document).holds name = false := by
  obtain ⟨names, issued⟩ := exists_claims_of_mem_trees built
  rw [issued] at member
  exact ClassScope.holds_of_mem_claimAll member

theorem holds_scope (reserved : List String) (name : String) :
    (scope reserved).holds name = true ↔
      (∃ other ∈ reserved, lower name = lower other) ∨ lower name = lower baseClass := by
  simp [scope, ClassScope.holds_reserveAll, ClassScope.holds_reserve]

theorem holds_documentScope_base {document : Node} {name : String}
    (same : lower name = lower baseClass) : (documentScope document).holds name = true := by
  unfold documentScope
  split <;> exact (holds_scope _ _).mpr (Or.inr same)

theorem holds_documentScope_value {document member : Node} {value name : String}
    (isSet : document.kind = .componentSet) (isMember : member ∈ members document)
    (isValue : value ∈ (VariantName.parse member.name).values)
    (same : lower name = lower (lower value)) : (documentScope document).holds name = true := by
  rw [documentScope, if_pos isSet, holds_scope]
  refine Or.inl ⟨lower value, ?_, same⟩
  apply List.mem_append_left
  exact List.mem_flatMap.mpr ⟨member, isMember, List.mem_map.mpr ⟨value, isValue, rfl⟩⟩

theorem holds_documentScope_toggle {document : Node} {property : Property} {name : String}
    (isSet : document.kind = .componentSet)
    (declared : property ∈ Property.ofDefinitions document.properties)
    (isToggle : property.kind = .toggle) (same : lower name = lower property.identifier) :
    (documentScope document).holds name = true := by
  rw [documentScope, if_pos isSet, holds_scope]
  refine Or.inl ⟨property.identifier, ?_, same⟩
  apply List.mem_append_right
  exact List.mem_map.mpr
    ⟨property, List.mem_filter.mpr ⟨declared, by simp [isToggle]⟩, rfl⟩

/-- In each tree of a component every element has a class of its own, whatever the case of the
names, and none has the base class. Below a component set none has a class that stands for a value
of a visible member or toggles a property. -/
theorem classNames_distinct {document : Node} {tree : Element}
    (built : tree ∈ (ofNode document).trees) :
    (tree.classNames.map lower).Nodup ∧ "base" ∉ tree.classNames.map lower ∧
      (document.kind = .componentSet →
        (∀ member ∈ members document, ∀ value ∈ (VariantName.parse member.name).values,
          lower (lower value) ∉ tree.classNames.map lower) ∧
        ∀ property ∈ (ofNode document).properties, property.kind = .toggle →
          lower property.identifier ∉ tree.classNames.map lower) := by
  have notTaken {taken : String}
      (held : ∀ name, lower name = taken → (documentScope document).holds name = true) :
      taken ∉ tree.classNames.map lower := by
    intro found
    obtain ⟨name, member, same⟩ := List.mem_map.mp found
    have free := holds_documentScope_of_mem_classNames built member
    rw [held name same] at free
    contradiction
  refine ⟨nodup_classNames built, ?_, ?_⟩
  · have isLower : "base" = lower baseClass := by decide
    exact notTaken fun _ same => holds_documentScope_base (same.trans isLower)
  · intro isSet
    constructor
    · intro member isMember value isValue
      exact notTaken fun _ same => holds_documentScope_value isSet isMember isValue same
    · intro property declared isToggle
      rw [ofNode, if_pos isSet] at declared
      exact notTaken fun _ same => holds_documentScope_toggle isSet declared isToggle same

def crowdedSet : Node :=
  let child (name : String) : Node := { Node.blank with name, type := .frame }
  let member (name : String) : Node :=
    { Node.blank with
      name, type := .component
      children := [child "Label", child "label 2", child "LABEL", child "Base", child "Off",
        { child "Disabled" with children := [child "Label"] }] }
  { Node.blank with
    name := "Chip", type := .componentSet
    children := [member "State=On", member "State=Off"]
    properties := .ofList [("Disabled#1:0", ⟨.toggle, .flag false, none⟩)] }

theorem classNames_distinct_crowdedSet :
    (ofNode crowdedSet).root ∈ (ofNode crowdedSet).trees ∧
      (ofNode crowdedSet).root.classNames =
        ["stateon", "label", "label2", "label3", "base2", "off2", "disabled2", "label4"] ∧
      ((ofNode crowdedSet).root.classNames.map lower).Nodup ∧
      "base" ∉ (ofNode crowdedSet).root.classNames.map lower ∧
      (∀ member ∈ members crowdedSet, ∀ value ∈ (VariantName.parse member.name).values,
        lower (lower value) ∉ (ofNode crowdedSet).root.classNames.map lower) ∧
      ∀ property ∈ (ofNode crowdedSet).properties, property.kind = .toggle →
        lower property.identifier ∉ (ofNode crowdedSet).root.classNames.map lower := by
  have isTree : (ofNode crowdedSet).root ∈ (ofNode crowdedSet).trees := List.mem_cons_self
  have distinct := classNames_distinct isTree
  exact ⟨isTree, by decide +kernel, distinct.1, distinct.2.1, distinct.2.2 rfl⟩

end Component

end DesignToCode
