import DesignToCode.Output.Stylesheet
import DesignToCode.Proofs.Naming.Claims

/-!
Element trees in preorder.
-/

namespace DesignToCode

open DesignToCode.Naming

namespace Element

def preorder (element : Element) : List Element :=
  element :: element.descendants

def classNames (element : Element) : List String :=
  element.preorder.map className

theorem descendants_eq (element : Element) :
    element.descendants = forestElements element.children := by
  cases element
  rw [descendants]

def renamed (element : Element) (source : String) : Element :=
  { element with source }

theorem renamed_source (element : Element) : element.renamed element.source = element := by
  cases element
  rfl

@[simp] theorem descendants_renamed (element : Element) (source : String) :
    (element.renamed source).descendants = element.descendants := by
  rw [descendants_eq, descendants_eq, renamed]

@[simp] theorem classNames_renamed (element : Element) (source : String) :
    (element.renamed source).classNames = element.classNames := by
  simp only [classNames, preorder, descendants_renamed, List.map_cons]
  rfl

theorem forestElements_cons (element : Element) (rest : List Element) :
    forestElements (element :: rest) = element.preorder ++ forestElements rest := by
  rw [forestElements, preorder, List.cons_append]

theorem classNames_of_leaf {element : Element} (leaf : element.children = []) :
    element.classNames = [element.className] := by
  rw [classNames, preorder, descendants_eq, leaf, forestElements, List.map_singleton]

theorem ofNode_eq (scope : ClassScope) (node : Node) :
    ofNode scope node =
      if node.kind = .text then
        (⟨.inline, scope.issue node.name, Style.styles node true,
          some (node.characters.getD ""), [], node.name⟩, (scope.claim node.name).2)
      else
        (⟨.block, scope.issue node.name, Style.styles node false, none,
          (ofNodes (scope.claim node.name).2 node.children).1, node.name⟩,
          (ofNodes (scope.claim node.name).2 node.children).2) := by
  cases node
  rw [ofNode]
  rfl

theorem source_ofNode (scope : ClassScope) (node : Node) :
    (ofNode scope node).1.source = node.name := by
  rw [ofNode_eq]
  split <;> rfl

theorem tag_ofNode (scope : ClassScope) (node : Node) :
    (ofNode scope node).1.tag = if node.kind = .text then .inline else .block := by
  rw [ofNode_eq]
  split <;> rfl

theorem className_ofNode (scope : ClassScope) (node : Node) :
    (ofNode scope node).1.className = scope.issue node.name := by
  rw [ofNode_eq]
  split <;> rfl

theorem styles_ofNode (scope : ClassScope) (node : Node) :
    (ofNode scope node).1.styles = Style.styles node (node.kind == .text) := by
  rw [ofNode_eq]
  by_cases isText : node.kind = .text
  · rw [if_pos isText, isText]
    rfl
  · rw [if_neg isText, beq_eq_false_iff_ne.mpr isText]

theorem text_ofNode (scope : ClassScope) (node : Node) :
    (ofNode scope node).1.text =
      if node.kind = .text then some (node.characters.getD "") else none := by
  rw [ofNode_eq]
  split <;> rfl

theorem children_ofNode (scope : ClassScope) (node : Node) :
    (ofNode scope node).1.children =
      if node.kind = .text then [] else (ofNodes (scope.claim node.name).2 node.children).1 := by
  rw [ofNode_eq]
  split <;> rfl

mutual

theorem claimAll_ofNode (scope : ClassScope) : ∀ node : Node,
    scope.claimAll ((ofNode scope node).1.preorder.map source) =
      ((ofNode scope node).1.classNames, (ofNode scope node).2)
  | ⟨_, name, _, _, children, _, _, _, _, _, _⟩ => by
      rw [ofNode]
      split
      · simp [classNames, preorder, descendants_eq, forestElements, ClassScope.claimAll]
      · have below := claimAll_ofNodes (scope.claim name).2 children
        simp only [classNames, preorder, descendants_eq, List.map_cons, ClassScope.claimAll, below]

theorem claimAll_ofNodes (scope : ClassScope) : ∀ nodes : List Node,
    scope.claimAll ((forestElements (ofNodes scope nodes).1).map source) =
      ((forestElements (ofNodes scope nodes).1).map className, (ofNodes scope nodes).2)
  | [] => by simp [ofNodes, forestElements, ClassScope.claimAll]
  | node :: rest => by
      rw [ofNodes]
      split
      · have first := claimAll_ofNode scope node
        have later := claimAll_ofNodes (ofNode scope node).2 rest
        simp only [forestElements_cons, List.map_append, ClassScope.claimAll_append, first, later,
          classNames]
      · exact claimAll_ofNodes scope rest

end

mutual

theorem children_of_text_ofNode (scope : ClassScope) : ∀ node : Node,
    ∀ element ∈ (ofNode scope node).1.preorder, element.text ≠ none → element.children = []
  | ⟨_, name, _, _, children, _, _, _, _, _, _⟩ => by
      rw [ofNode]
      split
      · simp [preorder, descendants_eq, forestElements]
      · have below := children_of_text_ofNodes (scope.claim name).2 children
        simpa [preorder, descendants_eq] using below

theorem children_of_text_ofNodes (scope : ClassScope) : ∀ nodes : List Node,
    ∀ element ∈ forestElements (ofNodes scope nodes).1,
      element.text ≠ none → element.children = []
  | [] => by simp [ofNodes, forestElements]
  | node :: rest => by
      rw [ofNodes]
      split
      · have first := children_of_text_ofNode scope node
        have later := children_of_text_ofNodes (ofNode scope node).2 rest
        intro element member
        rw [forestElements_cons, List.mem_append] at member
        exact member.elim (first element) (later element)
      · exact children_of_text_ofNodes scope rest

end

mutual

theorem exists_styles_ofNode (scope : ClassScope) : ∀ node : Node,
    ∀ element ∈ (ofNode scope node).1.preorder,
      ∃ node isText, element.styles = Style.styles node isText
  | ⟨_, name, _, _, children, _, _, _, _, _, _⟩ => by
      rw [ofNode]
      split
      · simp only [preorder, descendants_eq, forestElements, List.mem_singleton]
        rintro element rfl
        exact ⟨_, true, rfl⟩
      · have below := exists_styles_ofNodes (scope.claim name).2 children
        simp only [preorder, descendants_eq, List.forall_mem_cons]
        exact ⟨⟨_, false, rfl⟩, below⟩

theorem exists_styles_ofNodes (scope : ClassScope) : ∀ nodes : List Node,
    ∀ element ∈ forestElements (ofNodes scope nodes).1,
      ∃ node isText, element.styles = Style.styles node isText
  | [] => by simp [ofNodes, forestElements]
  | node :: rest => by
      rw [ofNodes]
      split
      · have first := exists_styles_ofNode scope node
        have later := exists_styles_ofNodes (ofNode scope node).2 rest
        intro element member
        rw [forestElements_cons, List.mem_append] at member
        exact member.elim (first element) (later element)
      · exact exists_styles_ofNodes scope rest

end

end Element

end DesignToCode
