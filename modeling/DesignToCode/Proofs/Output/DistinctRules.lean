import DesignToCode.Proofs.Output.StyleRules
import DesignToCode.Proofs.Style.Readable

/-!
The classes that an emitted style sheet defines.
-/

namespace DesignToCode.Stylesheet

open DesignToCode.Text

theorem exists_styles_of_mem_trees {document : Node} {tree element : Element}
    (built : tree ∈ (Component.ofNode document).trees) (isElement : element ∈ tree.preorder) :
    ∃ node isText, element.styles = Style.styles node isText := by
  obtain ⟨node, source, rfl⟩ := Component.exists_node_of_mem_trees built
  rcases List.mem_cons.mp isElement with rfl | below
  · exact ⟨node, _, Element.styles_ofNode _ node⟩
  · rw [Element.descendants_renamed] at below
    exact Element.exists_styles_ofNode _ node element (List.mem_cons_of_mem _ below)

theorem exists_node_of_rule {document : Node} {rule : StyleRule}
    (isRule : rule ∈ rules (Component.ofNode document)) :
    ∃ node isText, rule.declarations.entries ⊆ (Style.styles node isText).entries := by
  rcases List.mem_cons.mp isRule with rfl | later
  · have built : (Component.ofNode document).root ∈ (Component.ofNode document).trees :=
      List.mem_cons_self
    obtain ⟨node, isText, same⟩ := exists_styles_of_mem_trees built List.mem_cons_self
    exact ⟨node, isText, same ▸ List.Subset.refl _⟩
  · rcases List.mem_append.mp later with forValue | forElement
    · obtain ⟨value, isChange, _⟩ := exists_change_of_mem_variantRules forValue
      obtain ⟨variant, isVariant, _, change, _⟩ := mem_changes.mp isChange
      have built : variant.root ∈ (Component.ofNode document).trees :=
        List.mem_cons_of_mem _ (List.mem_map_of_mem isVariant)
      obtain ⟨node, isText, same⟩ := exists_styles_of_mem_trees built List.mem_cons_self
      refine ⟨node, isText, ?_⟩
      rw [change, delta, same]
      exact (OrderedMap.diff_sublist _ _).subset
    · obtain ⟨tree, built, element, below, rfl⟩ := mem_elementRules forElement
      obtain ⟨node, isText, same⟩ :=
        exists_styles_of_mem_trees built (List.mem_cons_of_mem _ below)
      exact ⟨node, isText, same ▸ List.Subset.refl _⟩

theorem readable_iff {document : Node} {rule : StyleRule}
    (isRule : rule ∈ rules (Component.ofNode document)) :
    SheetReader.Readable (entryOf rule) ↔
      CssReader.isIdentifier rule.className.toList = true ∧
        ∀ family, rule.declarations.get? "font-family" = some family →
          SheetReader.isValue family.display.toList = true := by
  obtain ⟨node, isText, declares⟩ := exists_node_of_rule isRule
  constructor
  · rintro ⟨isIdentifier, declared⟩
    refine ⟨isIdentifier, fun family named => ?_⟩
    exact (declared _ (List.mem_map_of_mem (OrderedMap.mem_of_get? named))).2
  · rintro ⟨isIdentifier, family⟩
    refine ⟨isIdentifier, fun declaration found => ?_⟩
    obtain ⟨⟨property, value⟩, isEntry, rfl⟩ := List.mem_map.mp found
    refine ⟨Style.isIdentifier_of_mem_styles (declares isEntry), ?_⟩
    by_cases named : property = "font-family"
    · subst property
      exact family value (OrderedMap.get?_of_mem isEntry)
    · exact Style.readable_styles node isText _ (declares isEntry) named

/-- The emitted sheet spells out the base rule, rules for variant values and rules for elements, no
two for one class. These are the rules that are read in it exactly if every class is an identifier
and every font family ends at its semicolon. -/
theorem rules_distinct_iff (document : Node) :
    let component := Component.ofNode document
    let sheet : List StyleRule := ⟨"base", component.root.styles⟩ ::
      (variantRules component ++ elementRules component)
    IsSheet sheet (render component) ∧
    (∀ rule ∈ variantRules component, ∃ variant ∈ component.variants,
      ∃ value ∈ variant.values.values, rule.className = lower value) ∧
    (∀ rule ∈ elementRules component, ∃ tree ∈ component.trees,
      ∃ element ∈ tree.descendants, rule = ⟨element.className, element.styles⟩) ∧
    (sheet.map StyleRule.className).Nodup ∧
    (SheetReader.read? (render component).toList = some (sheet.map entryOf) ↔
      ∀ rule ∈ sheet, CssReader.isIdentifier rule.className.toList = true ∧
        ∀ family, rule.declarations.get? "font-family" = some family →
          SheetReader.isValue family.display.toList = true) := by
  intro component sheet
  have isSheet : IsSheet sheet (render component) := isSheet_render component
  refine ⟨isSheet, ?_, fun rule => mem_elementRules, nodup_rules document, ?_⟩
  · intro rule isRule
    obtain ⟨variant, isVariant, value, isValue, named, _⟩ := mem_variantRules isRule
    exact ⟨variant, isVariant, value, isValue, named⟩
  · rw [isSheet.read?_eq_some_iff]
    exact forall₂_congr fun rule isRule => readable_iff isRule

/-- The second value closes its rule and opens another for the base class. -/
def bracedSet : Node :=
  let member (name mode : String) : Node :=
    { Node.blank with
      name, type := .component, layout := { (default : AutoLayout) with mode := some mode } }
  { Node.blank with
    name := "Chip", type := .componentSet
    children := [member "State=On" "HORIZONTAL", member "State=x \x7b\x7d .base" "VERTICAL"] }

theorem not_distinct_bracedSet :
    let read := [("base", [("display", "flex"), ("flex-direction", "row")]), ("x", []),
      ("base", [("flex-direction", "column")])]
    SheetReader.read? (render (Component.ofNode bracedSet)).toList = some read ∧
      ¬(read.map Prod.fst).Nodup := by
  exact ⟨by decide +kernel, by decide⟩

end DesignToCode.Stylesheet
