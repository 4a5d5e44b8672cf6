import DesignToCode.Output.Artifacts
import DesignToCode.Proofs.Component.ClassNames

/-!
What is left of a document when everything that is not to show is taken out of it.
-/

namespace DesignToCode

open DesignToCode.Naming

def Box.unplaced (box : Box) : Box :=
  { box with x := 0, y := 0 }

namespace Node

mutual

/-- A node without its identity and its place, and with the children that are kept only. -/
def pruned : Node → Node
  | ⟨_, name, type, visible, children, layout, sizing, appearance, characters, typeStyle,
      properties⟩ =>
    { id := ""
      name, type, visible
      children := if type = .text then [] else prunedAll children
      layout
      sizing := { sizing with box := sizing.box.map Box.unplaced }
      appearance, characters, typeStyle, properties }

def prunedAll : List Node → List Node
  | [] => []
  | node :: rest => if node.isKept then node.pruned :: prunedAll rest else prunedAll rest

end

/-- The pruned document, and in a set with members nothing beside them. -/
def essence (document : Node) : Node :=
  { document.pruned with
    children :=
      if document.kind = .componentSet ∧ (Component.members document).isEmpty = false then
        document.pruned.children.filter (·.kind == .componentMember)
      else document.pruned.children }

@[simp] theorem name_pruned (node : Node) : node.pruned.name = node.name := by
  cases node
  rw [pruned]

@[simp] theorem kind_pruned (node : Node) : node.pruned.kind = node.kind := by
  cases node
  rw [pruned]
  rfl

@[simp] theorem visible_pruned (node : Node) : node.pruned.visible = node.visible := by
  cases node
  rw [pruned]

@[simp] theorem isKept_pruned (node : Node) : node.pruned.isKept = node.isKept := by
  rw [isKept, isKept, visible_pruned, kind_pruned]

@[simp] theorem properties_pruned (node : Node) : node.pruned.properties = node.properties := by
  cases node
  rw [pruned]

@[simp] theorem characters_pruned (node : Node) : node.pruned.characters = node.characters := by
  cases node
  rw [pruned]

theorem size_pruned (node : Node) : Style.size node.pruned = Style.size node := by
  obtain ⟨_, _, _, _, _, _, ⟨_, _, box⟩, _, _, _, _⟩ := node
  rw [pruned]
  cases box <;> rfl

theorem styles_pruned (node : Node) (isText : Bool) :
    Style.styles node.pruned isText = Style.styles node isText := by
  have sameSize := size_pruned node
  rw [Style.styles, Style.styles, Style.aspects, Style.aspects, sameSize]
  cases node
  rw [pruned]
  rfl

theorem children_pruned {node : Node} (notText : node.kind ≠ .text) :
    node.pruned.children = prunedAll node.children := by
  obtain ⟨_, _, type, _, _, _, _, _, _, _, _⟩ := node
  have otherType : type ≠ .text := by
    rintro rfl
    exact notText rfl
  rw [pruned, if_neg otherType]

end Node

namespace Element

theorem ofNode_pruned_of_children {scope : ClassScope} {node : Node}
    (below : ofNodes (scope.claim node.name).2 (Node.prunedAll node.children) =
      ofNodes (scope.claim node.name).2 node.children) :
    ofNode scope node.pruned = ofNode scope node := by
  rw [ofNode_eq scope node.pruned, ofNode_eq scope node]
  simp only [Node.kind_pruned, Node.name_pruned, Node.characters_pruned, Node.styles_pruned]
  by_cases isText : node.kind = .text
  · rw [if_pos isText, if_pos isText]
  · rw [if_neg isText, if_neg isText, Node.children_pruned isText, below]

mutual

theorem ofNode_pruned (scope : ClassScope) : ∀ node : Node,
    ofNode scope node.pruned = ofNode scope node
  | ⟨_, name, _, _, children, _, _, _, _, _, _⟩ =>
      ofNode_pruned_of_children (ofNodes_prunedAll (scope.claim name).2 children)

theorem ofNodes_prunedAll (scope : ClassScope) : ∀ nodes : List Node,
    ofNodes scope (Node.prunedAll nodes) = ofNodes scope nodes
  | [] => rfl
  | node :: rest => by
      rw [Node.prunedAll, ofNodes]
      split
      · rename_i kept
        simp only [ofNodes, Node.isKept_pruned, kept, if_true, ofNode_pruned scope node,
          ofNodes_prunedAll (ofNode scope node).2 rest]
      · exact ofNodes_prunedAll scope rest

end

end Element

namespace Component

theorem filter_prunedAll (nodes : List Node) :
    (Node.prunedAll nodes).filter (·.kind == .componentMember) =
      (nodes.filter fun child => child.visible && child.kind == .componentMember).map
        Node.pruned := by
  induction nodes with
  | nil => rfl
  | cons node rest ih =>
      rw [Node.prunedAll, List.filter_cons]
      by_cases isMember : node.kind = .componentMember
      · have kept : node.isKept = node.visible := by simp [Node.isKept, isMember]
        rw [kept]
        by_cases visible : node.visible = true
        · simp [visible, isMember, ih]
        · simp [visible, ih]
      · split <;> simp [isMember, ih]

theorem filter_children_pruned {document : Node} (isSet : document.kind = .componentSet) :
    document.pruned.children.filter (·.kind == .componentMember) =
      (members document).map Node.pruned := by
  rw [Node.children_pruned (by rw [isSet]; decide), filter_prunedAll, members]

theorem members_of_children {document node : Node}
    (children : node.children.filter (·.kind == .componentMember) =
      (members document).map Node.pruned) :
    members node = (members document).map Node.pruned := by
  have visible : ∀ member ∈ (members document).map Node.pruned, member.visible = true := by
    intro member found
    obtain ⟨original, isMember, rfl⟩ := List.mem_map.mp found
    have checked := (List.mem_filter.mp isMember).2
    rw [Node.visible_pruned]
    exact (Bool.and_eq_true _ _ ▸ checked).1
  rw [members, ← List.filter_filter, children, List.filter_eq_self]
  exact visible

theorem kind_essence (document : Node) : document.essence.kind = document.kind :=
  Node.kind_pruned document

theorem name_essence (document : Node) : document.essence.name = document.name :=
  Node.name_pruned document

theorem properties_essence (document : Node) :
    document.essence.properties = document.properties :=
  Node.properties_pruned document

theorem members_essence {document : Node} (isSet : document.kind = .componentSet) :
    members document.essence = (members document).map Node.pruned := by
  apply members_of_children
  rw [Node.essence]
  split
  · simp only [List.filter_filter, Bool.and_self]
    exact filter_children_pruned isSet
  · exact filter_children_pruned isSet

theorem essence_of_no_members {document : Node}
    (plain : document.kind = .componentSet → members document = []) :
    document.essence = document.pruned := by
  have noMembers :
      ¬(document.kind = .componentSet ∧ (members document).isEmpty = false) := by
    rintro ⟨isSet, inhabited⟩
    rw [plain isSet] at inhabited
    contradiction
  rw [Node.essence, if_neg noMembers]
  cases document.pruned
  rfl

theorem reservedNames_pruned (members : List Node) (properties : List Property) :
    reservedNames (members.map Node.pruned) properties = reservedNames members properties := by
  simp only [reservedNames, List.flatMap_map, Node.name_pruned]

theorem variantOf_pruned (scope : ClassScope) (member : Node) :
    variantOf scope member.pruned = variantOf scope member := by
  simp only [variantOf, Node.name_pruned, Element.ofNode_pruned]

theorem ofSet_essence {document : Node} (isSet : document.kind = .componentSet) :
    ofSet document.essence = ofSet document := by
  simp only [ofSet, name_essence, properties_essence, members_essence isSet,
    reservedNames_pruned, List.map_map, Function.comp_def, variantOf_pruned]
  cases listed : members document with
  | nil => rw [essence_of_no_members fun _ => listed, Element.ofNode_pruned]
  | cons first rest => rfl

theorem ofNode_essence (document : Node) : ofNode document.essence = ofNode document := by
  rw [ofNode, ofNode, kind_essence]
  by_cases isSet : document.kind = .componentSet
  · rw [if_pos isSet, if_pos isSet, ofSet_essence isSet]
  · rw [if_neg isSet, if_neg isSet, essence_of_no_members fun other => absurd other isSet,
      Element.ofNode_pruned]

end Component

namespace Artifacts

/-- Documents of one essence have the same files, by name and by content. -/
theorem generate_eq_of_essence_eq {first second : Node} (same : first.essence = second.essence)
    (url : String) (settings : Settings) :
    generate first url settings = generate second url settings := by
  have sameName : first.name = second.name := by
    rw [← Component.name_essence first, same, Component.name_essence second]
  have sameComponent : Component.ofNode first = Component.ofNode second := by
    rw [← Component.ofNode_essence first, same, Component.ofNode_essence second]
  rw [generate, generate, sameName, sameComponent]

def plainSet : Node :=
  let box : Box := ⟨0, 0, 120, 40⟩
  { Node.blank with
    name := "Chip", type := .componentSet
    children := [
      { Node.blank with
        name := "State=On", type := .component
        sizing := ⟨some "FIXED", none, some box⟩
        children := [
          { Node.blank with name := "Label", type := .text, characters := some "Go" }] }] }

def litteredSet : Node :=
  let box : Box := ⟨30, 12, 120, 40⟩
  let layer (name : String) (type : NodeType) : Node :=
    { Node.blank with id := "9:" ++ name, name, type }
  { Node.blank with
    id := "1:1", name := "Chip", type := .componentSet
    children := [
      layer "Note" .frame,
      { layer "State=Off" .component with visible := false },
      { layer "State=On" .component with
        sizing := ⟨some "FIXED", none, some box⟩
        children := [
          { layer "Label" .frame with visible := false },
          { layer "Label" .vector with children := [layer "Label" .text] },
          { layer "Label" .text with
            characters := some "Go", children := [layer "Stray" .frame] }] }] }

theorem generate_eq_of_essence_eq_litteredSet :
    litteredSet.children.length = 3 ∧ plainSet.children.length = 1 ∧
      litteredSet.essence = plainSet.essence ∧
      generate litteredSet "" .standard = generate plainSet "" .standard := by
  have same : litteredSet.essence = plainSet.essence := by rfl
  exact ⟨rfl, rfl, same, generate_eq_of_essence_eq same "" .standard⟩

end Artifacts

end DesignToCode
