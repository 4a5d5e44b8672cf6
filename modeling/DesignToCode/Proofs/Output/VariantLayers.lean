import DesignToCode.Proofs.Output.StyleRules
import DesignToCode.Proofs.Style.Aspects
import Mathlib.Data.List.Nodup
import Mathlib.Data.List.Pairwise

/-!
What a variant looks like: the declarations for its value over those of the base.
-/

namespace DesignToCode

open DesignToCode.Text

namespace Stylesheet

def declared (sheet : List StyleRule) (className : String) : StyleMap :=
  match sheet.find? (·.className == className) with
  | some rule => rule.declarations
  | none => .empty

def layered (sheet : List StyleRule) (value : String) : StyleMap :=
  (declared sheet "base").merge (declared sheet (lower value))

theorem declared_base (component : Component) :
    declared (rules component) "base" = component.root.styles := by
  rfl

theorem exists_mem_variantRules {component : Component} {value : String} {change : StyleMap}
    (changed : (value, change) ∈ changes component) (notBase : lower value ≠ baseClass) :
    ∃ rule ∈ variantRules component, rule.className = lower value := by
  have kept : (value, change) ∈ (changes component).filter fun change => !isBase change.1 := by
    rw [List.mem_filter]
    exact ⟨changed, by simpa [isBase] using notBase⟩
  exact exists_mem_firstOfEach (List.mem_map_of_mem kept)

def valueClasses (document : Node) : List String :=
  (Component.members document).flatMap fun member =>
    (VariantName.parse member.name).values.map lower

/-- No two values of a set share a class, and none has the base class. -/
structure SeparateValues (document : Node) : Prop where
  isSet : document.kind = .componentSet
  distinct : (valueClasses document).Nodup
  notBase : baseClass ∉ valueClasses document

section

variable {document member : Node} {value : String}

theorem mem_valueClasses (isMember : member ∈ Component.members document)
    (isValue : value ∈ (VariantName.parse member.name).values) :
    lower value ∈ valueClasses document :=
  List.mem_flatMap.mpr ⟨member, isMember, List.mem_map_of_mem isValue⟩

theorem SeparateValues.member_eq (separate : SeparateValues document)
    (isMember : member ∈ Component.members document)
    (isValue : value ∈ (VariantName.parse member.name).values) {other : Node}
    (isOther : other ∈ Component.members document) {otherValue : String}
    (isOtherValue : otherValue ∈ (VariantName.parse other.name).values)
    (same : lower otherValue = lower value) : other = member := by
  have apart := (List.nodup_flatMap.mp separate.distinct).2
  have : Std.Symm (Function.onFun List.Disjoint fun member : Node =>
      (VariantName.parse member.name).values.map lower) := ⟨fun _ _ => List.disjoint_symm⟩
  refine Classical.byContradiction fun different => ?_
  have disjoint := apart.forall isOther isMember different
  exact disjoint (List.mem_map_of_mem isOtherValue) (same ▸ List.mem_map_of_mem isValue)

theorem variant_eq_of_value (separate : SeparateValues document)
    (isMember : member ∈ Component.members document)
    (isValue : value ∈ (VariantName.parse member.name).values) {variant : Variant}
    (isVariant : variant ∈ (Component.ofNode document).variants) {otherValue : String}
    (isOtherValue : otherValue ∈ variant.values.values)
    (same : lower otherValue = lower value) :
    variant = Component.variantOf (Component.documentScope document) member := by
  rw [Component.variants_ofNode separate.isSet] at isVariant
  obtain ⟨other, isOther, rfl⟩ := List.mem_map.mp isVariant
  rw [separate.member_eq isMember isValue isOther isOtherValue same]

theorem get?_declared_value (separate : SeparateValues document)
    (isMember : member ∈ Component.members document)
    (isValue : value ∈ (VariantName.parse member.name).values) (property : String) :
    (declared (rules (Component.ofNode document)) (lower value)).get? property =
      (delta (Component.ofNode document)
        (Component.variantOf (Component.documentScope document) member)).get? property := by
  let component := Component.ofNode document
  let variant := Component.variantOf (Component.documentScope document) member
  have notBase : lower value ≠ baseClass := by
    intro same
    exact separate.notBase (same ▸ mem_valueClasses isMember isValue)
  have isVariant : variant ∈ component.variants := by
    rw [Component.variants_ofNode separate.isSet]
    exact List.mem_map_of_mem isMember
  unfold declared
  cases found : (rules component).find? (·.className == lower value) with
  | none =>
      have noRule := List.find?_eq_none.mp found
      have unchanged : (delta component variant).isEmpty = true := by
        refine Classical.byContradiction fun changed => ?_
        have isChange : (value, delta component variant) ∈ changes component :=
          mem_changes.mpr
            ⟨variant, isVariant, isValue, rfl, Bool.eq_false_iff.mpr changed⟩
        obtain ⟨rule, isRule, named⟩ := exists_mem_variantRules isChange notBase
        exact noRule rule (List.mem_cons_of_mem _ (List.mem_append_left _ isRule))
          (beq_iff_eq.mpr named)
      have nothing : (delta component variant).entries = [] := List.isEmpty_iff.mp unchanged
      change none = (delta component variant).entries.lookup property
      rw [nothing, List.lookup_nil]
  | some rule =>
      have named : rule.className = lower value := by
        simpa using List.find?_some found
      rcases List.mem_cons.mp (List.mem_of_find?_eq_some found) with rfl | isRule
      · exact absurd named.symm notBase
      · rcases List.mem_append.mp isRule with forValue | forElement
        · obtain ⟨otherValue, isChange, named', _⟩ :=
            exists_change_of_mem_variantRules forValue
          obtain ⟨other, isOther, isOtherValue, change, _⟩ := mem_changes.mp isChange
          have same := variant_eq_of_value separate isMember isValue isOther isOtherValue
            (named'.symm.trans named)
          simp only [change, same]
          rfl
        · obtain ⟨tree, built, element, below, rfl⟩ := mem_elementRules forElement
          exact absurd named (className_ne_value separate.isSet isMember isValue built
            (mem_classNames_of_mem_descendants below))

theorem exists_styles_root (isSet : document.kind = .componentSet) :
    ∃ node isText, (Component.ofNode document).root.styles = Style.styles node isText := by
  obtain ⟨node, _, built⟩ := Component.exists_node_of_root_ofSet document
  refine ⟨node, node.kind == .text, ?_⟩
  rw [Component.ofNode, if_pos isSet, built]
  exact Element.styles_ofNode _ node

theorem styles_variantOf (scope : Naming.ClassScope)
    (isMember : member ∈ Component.members document) :
    (Component.variantOf scope member).root.styles = Style.styles member false := by
  have shown := Element.styles_ofNode scope member
  rw [beq_eq_false_iff_ne.mpr (Component.notText_of_mem_members isMember)] at shown
  exact shown

theorem get?_layered (separate : SeparateValues document)
    (isMember : member ∈ Component.members document)
    (isValue : value ∈ (VariantName.parse member.name).values) (property : String) :
    let component := Component.ofNode document
    let sheet := rules component
    IsSheet sheet (render component) ∧
      (layered sheet value).get? property =
        ((Style.styles member false).get? property).or ((declared sheet "base").get? property) := by
  intro component sheet
  have own := styles_variantOf (Component.documentScope document) isMember
  obtain ⟨node, isText, base⟩ := exists_styles_root separate.isSet
  have exact (mine yours : StyleValue) (foundMine : component.root.styles.get? property = some mine)
      (foundYours : (Style.styles member false).get? property = some yours)
      (same : (mine == yours) = true) : mine = yours :=
    Style.eq_of_beq_styles (base ▸ foundMine) foundYours same
  refine ⟨isSheet_render component, ?_⟩
  calc (layered sheet value).get? property
      = ((delta component (Component.variantOf (Component.documentScope document)
          member)).get? property).or ((declared sheet "base").get? property) := by
        rw [layered, OrderedMap.get?_merge, get?_declared_value separate isMember isValue]
    _ = (component.root.styles.merge
          (component.root.styles.diff (Style.styles member false))).get? property := by
        rw [OrderedMap.get?_merge, declared_base, delta, own]
    _ = ((Style.styles member false).get? property).or (component.root.styles.get? property) :=
        OrderedMap.get?_merge_diff exact
    _ = _ := by rw [declared_base]

end

def layoutSet : Node :=
  let member (name : String) (mode : Option String) : Node :=
    { Node.blank with name, type := .component, layout := { (default : AutoLayout) with mode } }
  { Node.blank with
    name := "Chip", type := .componentSet
    children := [member "State=On" (some "HORIZONTAL"), member "State=Off" none,
      member "State=Open" (some "VERTICAL")] }

def plainMember : Node :=
  { Node.blank with name := "State=Off", type := .component, layout := (default : AutoLayout) }

def columnMember : Node :=
  { Node.blank with
    name := "State=Open", type := .component
    layout := { (default : AutoLayout) with mode := some "VERTICAL" } }

theorem separateValues_layoutSet : SeparateValues layoutSet :=
  ⟨rfl, by decide +kernel, by decide +kernel⟩

theorem get?_layered_columnMember :
    SeparateValues layoutSet ∧ columnMember ∈ Component.members layoutSet ∧
      "Open" ∈ (VariantName.parse columnMember.name).values ∧
      IsSheet (rules (Component.ofNode layoutSet)) (render (Component.ofNode layoutSet)) ∧
      (layered (rules (Component.ofNode layoutSet)) "Open").get? "flex-direction" =
        some (.text "column") := by
  have isMember : columnMember ∈ Component.members layoutSet :=
    List.mem_cons_of_mem _ (List.mem_cons_of_mem _ List.mem_cons_self)
  have isValue : "Open" ∈ (VariantName.parse columnMember.name).values := by decide +kernel
  obtain ⟨isSheet, layers⟩ :=
    get?_layered separateValues_layoutSet isMember isValue "flex-direction"
  refine ⟨separateValues_layoutSet, isMember, isValue, isSheet, ?_⟩
  rw [layers]
  rfl

theorem layered_ne_styles_plainMember :
    let component := Component.ofNode layoutSet
    let sheet := rules component
    SeparateValues layoutSet ∧
      (∀ member ∈ Component.members layoutSet,
        (VariantName.parse member.name).values.length = 1) ∧
      plainMember ∈ Component.members layoutSet ∧
      (VariantName.parse plainMember.name).values = ["Off"] ∧
      IsSheet sheet (render component) ∧
      SheetReader.read? (render component).toList = some [
        ("base", [("display", "flex"), ("flex-direction", "row")]),
        ("open", [("flex-direction", "column")])] ∧
      (layered sheet "Off").get? "display" = some (.text "flex") ∧
      (Style.styles plainMember false).get? "display" = none ∧
      ¬∀ property, (layered sheet "Off").get? property =
        (Style.styles plainMember false).get? property := by
  have kept : (layered (rules (Component.ofNode layoutSet)) "Off").get? "display" =
      some (.text "flex") := by rfl
  have absent : (Style.styles plainMember false).get? "display" = none := by rfl
  refine ⟨separateValues_layoutSet, by decide +kernel, List.mem_cons_of_mem _ List.mem_cons_self,
    by decide +kernel, isSheet_render _, by decide +kernel, kept, absent, ?_⟩
  intro designed
  have same := designed "display"
  rw [kept, absent] at same
  cases same

end Stylesheet

end DesignToCode
