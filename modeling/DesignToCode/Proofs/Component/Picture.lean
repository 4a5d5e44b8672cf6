import DesignToCode.Component.Dump
import DesignToCode.Proofs.Component.ClassNames
import Mathlib.Data.List.Forall2

/-!
What a tree of elements shows of a design.
-/

namespace DesignToCode

open DesignToCode.Naming

structure Shows (node : Node) (element : Element) : Prop where
  source : element.source = node.name
  styles : element.styles = Style.styles node (node.kind == .text)
  tag : element.tag = if node.kind = .text then .inline else .block
  text : element.text = if node.kind = .text then some (node.characters.getD "") else none

/-- The tree of an element shows the tree of a node. What is hidden or of a skipped type is left out
with all that is in it, and the rest keeps its place. -/
inductive Pictures : Node → Element → Prop
  | text {node : Node} {element : Element} (shown : Shows node element)
      (isText : node.kind = .text) (leaf : element.children = []) : Pictures node element
  | block {node : Node} {element : Element} (shown : Shows node element)
      (notText : node.kind ≠ .text)
      (below : List.Forall₂ Pictures
        (node.children.filter fun child => child.visible && child.kind != .skipped)
        element.children) :
      Pictures node element

namespace Element

theorem shows_ofNode (scope : ClassScope) (node : Node) : Shows node (ofNode scope node).1 where
  source := source_ofNode scope node
  styles := styles_ofNode scope node
  tag := tag_ofNode scope node
  text := text_ofNode scope node

theorem pictures_of_children {scope : ClassScope} {node : Node}
    (below : List.Forall₂ Pictures (node.children.filter Node.isKept)
      (ofNodes (scope.claim node.name).2 node.children).1) :
    Pictures node (ofNode scope node).1 := by
  have shown := shows_ofNode scope node
  by_cases isText : node.kind = .text
  · exact .text shown isText (by rw [children_ofNode, if_pos isText])
  · exact .block shown isText (by rw [children_ofNode, if_neg isText]; exact below)

mutual

theorem pictures_ofNode (scope : ClassScope) : ∀ node : Node, Pictures node (ofNode scope node).1
  | ⟨_, name, _, _, children, _, _, _, _, _, _⟩ =>
      pictures_of_children (pictures_ofNodes (scope.claim name).2 children)

theorem pictures_ofNodes (scope : ClassScope) : ∀ nodes : List Node,
    List.Forall₂ Pictures (nodes.filter Node.isKept) (ofNodes scope nodes).1
  | [] => .nil
  | node :: rest => by
      rw [ofNodes, List.filter_cons]
      split
      · have first := pictures_ofNode scope node
        have later := pictures_ofNodes (ofNode scope node).2 rest
        exact .cons first later
      · exact pictures_ofNodes scope rest

end

def dumpedFields (element : Element) : List String :=
  match element.toJson with
  | .record fields => fields.map Prod.fst
  | _ => []

theorem dumpedFields_eq (element : Element) :
    element.dumpedFields = ["tag", "className", "styles"] ++
      (if element.text.isSome then ["text"] else []) ++ ["children", "sourceName"] := by
  obtain ⟨tag, className, styles, text, children, source⟩ := element
  cases text <;> simp [dumpedFields, toJson, record]

end Element

namespace Component

theorem root_of_no_members {document : Node}
    (plain : document.kind = .componentSet → members document = []) :
    (ofNode document).root = (Element.ofNode (documentScope document) document).1 := by
  by_cases isSet : document.kind = .componentSet
  · have shown := Element.shows_ofNode (documentScope document) document
    rw [ofNode, if_pos isSet, ofSet, documentScope, if_pos isSet, plain isSet]
    rw [documentScope, if_pos isSet, plain isSet] at shown
    exact (congrArg (Element.renamed _) shown.source.symm).trans (Element.renamed_source _)
  · rw [ofNode, if_neg isSet, documentScope, if_neg isSet]

theorem root_of_members {document : Node} (isSet : document.kind = .componentSet)
    (inhabited : members document ≠ []) :
    ∃ first, (ofNode document).variants.head? = some first ∧
      (ofNode document).root = first.root.renamed document.name := by
  obtain ⟨member, others, listed⟩ := List.exists_cons_of_ne_nil inhabited
  refine ⟨variantOf (documentScope document) member, ?_, ?_⟩
  · rw [variants_ofNode isSet, listed, List.map_cons, List.head?_cons]
  · rw [ofNode, if_pos isSet, documentScope, if_pos isSet]
    simp only [ofSet, listed, List.map_cons]
    rfl

/-- Without members a component has the picture of its document. With members it has one variant for
each, and its root is that of the first one under the name of the set. -/
theorem pictures_document (document : Node) :
    let component := ofNode document
    ((document.kind = .componentSet → members document = []) →
      Pictures document component.root ∧ component.variants = []) ∧
    (document.kind = .componentSet → members document ≠ [] →
      List.Forall₂ (fun member variant => Pictures member variant.root ∧
          variant.values = VariantName.parse member.name)
        (members document) component.variants ∧
      (∃ first, component.variants.head? = some first ∧
        component.root = { first.root with source := document.name }) ∧
      component.properties = Property.ofDefinitions document.properties) ∧
    ∀ tree ∈ component.trees, ∀ element ∈ tree.descendants,
      "componentProps" ∉ element.dumpedFields ∧ "variants" ∉ element.dumpedFields := by
  intro component
  refine ⟨?_, ?_, ?_⟩
  · intro plain
    have noVariants : component.variants = [] := by
      by_cases isSet : document.kind = .componentSet
      · rw [variants_ofNode isSet, plain isSet, List.map_nil]
      · simp only [component, ofNode, if_neg isSet]
    exact ⟨root_of_no_members plain ▸ Element.pictures_ofNode _ document, noVariants⟩
  · intro isSet inhabited
    refine ⟨?_, root_of_members isSet inhabited, ?_⟩
    · rw [variants_ofNode isSet, List.forall₂_map_right_iff, List.forall₂_same]
      intro member _
      exact ⟨Element.pictures_ofNode _ member, rfl⟩
    · simp only [component, ofNode, if_pos isSet, ofSet]
  · intro tree _ element _
    rw [Element.dumpedFields_eq]
    cases element.text.isSome <;> decide

def hiddenGroup : Node :=
  let layer (name : String) (type : NodeType) (children : List Node) : Node :=
    { Node.blank with name, type, children }
  { layer "Root" .group [
      { layer "Hidden" .frame [layer "Deep" .text []] with visible := false },
      layer "Shape" .vector [layer "Part" .rectangle []],
      { layer "Title" .text [layer "Stray" .frame []] with characters := some "Hello" },
      layer "States" .componentSet [layer "State=On" .component [], layer "Note" .frame []]]
    with visible := false }

theorem pictures_document_hiddenGroup :
    (hiddenGroup.kind = .componentSet → members hiddenGroup = []) ∧
      Pictures hiddenGroup (ofNode hiddenGroup).root ∧
      (ofNode hiddenGroup).root.preorder.map Element.source =
        ["Root", "Title", "States", "State=On", "Note"] ∧
      crowdedSet.kind = .componentSet ∧ members crowdedSet ≠ [] ∧
      List.Forall₂ (fun member variant => Pictures member variant.root ∧
          variant.values = VariantName.parse member.name)
        (members crowdedSet) (ofNode crowdedSet).variants := by
  have noSet : hiddenGroup.kind = .componentSet → members hiddenGroup = [] := by decide
  have inhabited : members crowdedSet ≠ [] := List.cons_ne_nil _ _
  exact ⟨noSet, ((pictures_document hiddenGroup).1 noSet).1, by decide +kernel, rfl, inhabited,
    ((pictures_document crowdedSet).2.1 rfl inhabited).1⟩

end Component

end DesignToCode
