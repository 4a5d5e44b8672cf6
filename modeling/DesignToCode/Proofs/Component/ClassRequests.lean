import DesignToCode.Proofs.Component.Addresses
import DesignToCode.Proofs.Component.Outline
import DesignToCode.Proofs.Component.Picture
import DesignToCode.Proofs.Naming.Requests

/-!
Class names as the answers of one scope, which is asked for them in preorder.
-/

namespace DesignToCode

open DesignToCode.Naming

namespace Naming.ClassScope

/-- A new scope, in which some names are reserved first, answers the claims in turn so. -/
def Issues (reserved claimed issued : List String) : Prop :=
  empty.answers (reserved.map .reserve ++ claimed.map .claim) =
    reserved.map (fun _ => none) ++ issued.map some

theorem answers_reserve (scope : ClassScope) (names : List String) :
    scope.answers (names.map .reserve) = names.map fun _ => none := by
  induction names generalizing scope with
  | nil => rfl
  | cons name rest ih => simp only [List.map_cons, answers, ih]

theorem afterAll_reserve (scope : ClassScope) (names : List String) :
    scope.afterAll (names.map .reserve) = scope.reserveAll names := by
  induction names generalizing scope with
  | nil => rfl
  | cons name rest ih =>
      rw [List.map_cons, afterAll, ih, reserveAll, reserveAll, List.foldl_cons]

theorem issues_claimAll (reserved claimed : List String) :
    Issues reserved claimed ((empty.reserveAll reserved).claimAll claimed).1 := by
  rw [Issues, answers_append, answers_reserve, afterAll_reserve, map_some_claimAll]

end Naming.ClassScope

open ClassScope (Issues)

def Node.append (node child : Node) : Node :=
  { node with children := node.children ++ [child] }

namespace Element

mutual

theorem sources_ofNode (scope : ClassScope) : ∀ node : Node,
    (ofNode scope node).1.preorder.map source = node.outline.names
  | ⟨_, name, _, _, children, _, _, _, _, _, _⟩ => by
      rw [ofNode, Node.outline]
      split
      · simp [preorder, descendants_eq, forestElements, Outline.names, Outline.forestNames]
      · have below := sources_ofNodes (scope.claim name).2 children
        simp only [preorder, descendants_eq, List.map_cons, below, Outline.names]

theorem sources_ofNodes (scope : ClassScope) : ∀ nodes : List Node,
    (forestElements (ofNodes scope nodes).1).map source =
      Outline.forestNames (Node.outlines nodes)
  | [] => by simp [ofNodes, forestElements, Node.outlines, Outline.forestNames]
  | node :: rest => by
      rw [ofNodes, Node.outlines]
      split
      · have first := sources_ofNode scope node
        have later := sources_ofNodes (ofNode scope node).2 rest
        simp only [forestElements_cons, List.map_append, first, later, Outline.forestNames]
      · exact sources_ofNodes scope rest

end

theorem issues_ofNode (reserved : List String) (node : Node) :
    Issues reserved node.outline.names
      (ofNode (ClassScope.empty.reserveAll reserved) node).1.classNames := by
  let scope := ClassScope.empty.reserveAll reserved
  have issued := ClassScope.issues_claimAll reserved ((ofNode scope node).1.preorder.map source)
  rwa [claimAll_ofNode, sources_ofNode] at issued

theorem ofNodes_append (scope : ClassScope) (first second : List Node) :
    ofNodes scope (first ++ second) =
      ((ofNodes scope first).1 ++ (ofNodes (ofNodes scope first).2 second).1,
        (ofNodes (ofNodes scope first).2 second).2) := by
  induction first generalizing scope with
  | nil => rfl
  | cons node rest ih =>
      rw [List.cons_append, ofNodes, ofNodes]
      split
      · simp only [ih, List.cons_append]
      · exact ih scope

def appendAll (element : Element) (added : List Element) : Element :=
  { element with children := element.children ++ added }

theorem exists_ofNode_append (scope : ClassScope) (node child : Node) :
    ∃ added, (ofNode scope (node.append child)).1 = (ofNode scope node).1.appendAll added := by
  have sameKind : (node.append child).kind = node.kind := rfl
  rw [ofNode_eq, ofNode_eq, sameKind]
  by_cases isText : node.kind = .text
  · rw [if_pos isText, if_pos isText]
    exact ⟨[], rfl⟩
  · rw [if_neg isText, if_neg isText, Node.append, ofNodes_append]
    exact ⟨_, rfl⟩

theorem at?_appendAll {element found : Element} {place : Place} (added : List Element)
    (below : place ≠ []) (isFound : element.at? place = some found) :
    (element.appendAll added).at? place = some found := by
  obtain ⟨index, rest, rfl⟩ := List.exists_cons_of_ne_nil below
  obtain ⟨child, isChild, inChild⟩ := at?_cons.mp isFound
  refine at?_cons.mpr ⟨child, ?_, inChild⟩
  rw [appendAll, List.getElem?_append_left (List.getElem?_eq_some_iff.mp isChild).1, isChild]

end Element

namespace Component

def toggleNames (component : Component) : List String :=
  (component.properties.filter (·.kind == .toggle)).map Property.identifier

def valueNames (members : List Node) : List String :=
  members.flatMap fun member => (VariantName.parse member.name).values.map Text.lower

theorem documentScope_of_set {document : Node} (isSet : document.kind = .componentSet) :
    documentScope document = ClassScope.empty.reserveAll
      (baseClass :: (valueNames (members document) ++ (ofNode document).toggleNames)) := by
  rw [documentScope, if_pos isSet, ofNode, if_pos isSet]
  rfl

theorem documentScope_of_no_members {document : Node}
    (plain : document.kind = .componentSet → members document = []) :
    documentScope document =
      ClassScope.empty.reserveAll (baseClass :: (ofNode document).toggleNames) := by
  by_cases isSet : document.kind = .componentSet
  · rw [documentScope_of_set isSet, plain isSet]
    rfl
  · rw [documentScope, if_neg isSet, ofNode, if_neg isSet]
    rfl

theorem documentScope_append {document child : Node}
    (plain : document.kind = .componentSet → members (document.append child) = []) :
    (document.kind = .componentSet → members document = []) ∧
      documentScope (document.append child) = documentScope document := by
  have split : members (document.append child) = members document ++ _ := List.filter_append _ _
  have sameKind : (document.append child).kind = document.kind := rfl
  have before (isSet : document.kind = .componentSet) : members document = [] :=
    (List.append_eq_nil_iff.mp (split ▸ plain isSet)).1
  refine ⟨before, ?_⟩
  by_cases isSet : document.kind = .componentSet
  · rw [documentScope, sameKind, if_pos isSet, plain isSet, documentScope, if_pos isSet,
      before isSet]
    rfl
  · rw [documentScope, sameKind, if_neg isSet, documentScope, if_neg isSet]

theorem classNames_issued (document : Node) :
    let component := ofNode document
    ((document.kind = .componentSet → members document = []) →
      Issues (baseClass :: component.toggleNames) document.outline.names
        component.root.classNames ∧
      component.root.preorder.map Element.source = document.outline.names) ∧
    (document.kind = .componentSet →
      List.Forall₂ (fun member variant =>
          Issues (baseClass :: (valueNames (members document) ++ component.toggleNames))
            member.outline.names variant.root.classNames ∧
          variant.root.preorder.map Element.source = member.outline.names)
        (members document) component.variants) ∧
    ∀ child, (document.kind = .componentSet → members (document.append child) = []) →
      let longer := ofNode (document.append child)
      (∃ added, longer.root = component.root.appendAll added) ∧
      ∀ place element, place ≠ [] → component.root.at? place = some element →
        longer.root.at? place = some element := by
  intro component
  refine ⟨?_, ?_, ?_⟩
  · intro plain
    rw [root_of_no_members plain]
    refine ⟨?_, Element.sources_ofNode _ document⟩
    rw [documentScope_of_no_members plain]
    exact Element.issues_ofNode _ document
  · intro isSet
    rw [variants_ofNode isSet, List.forall₂_map_right_iff, List.forall₂_same]
    intro member _
    refine ⟨?_, Element.sources_ofNode _ member⟩
    rw [documentScope_of_set isSet]
    exact Element.issues_ofNode _ member
  · intro child plainAfter longer
    obtain ⟨plain, sameScope⟩ := documentScope_append plainAfter
    have grown : ∃ added, longer.root = component.root.appendAll added := by
      have built : longer.root = (Element.ofNode (documentScope (document.append child))
          (document.append child)).1 := root_of_no_members plainAfter
      rw [root_of_no_members plain, built, sameScope]
      exact Element.exists_ofNode_append _ document child
    refine ⟨grown, fun place element below isFound => ?_⟩
    obtain ⟨added, grows⟩ := grown
    rw [grows]
    exact Element.at?_appendAll added below isFound

def labelCard : Node :=
  let layer (name : String) (type : NodeType) : Node := { Node.blank with name, type }
  { layer "Card" .frame with
    children := [layer "Label" .text, { layer "Label" .frame with visible := false },
      layer "Label" .vector, { layer "Label" .frame with children := [layer "Base" .text] }] }

theorem classNames_issued_labelCard :
    let child : Node := { Node.blank with name := "Label 2", type := .frame }
    let longer := ofNode (labelCard.append child)
    (labelCard.kind = .componentSet → members labelCard = []) ∧
      Issues ["base"] ["Card", "Label", "Label", "Base"] ["card", "label", "label2", "base2"] ∧
      (ofNode labelCard).root.at? [1, 0] ≠ none ∧
      longer.root.at? [1, 0] = (ofNode labelCard).root.at? [1, 0] ∧
      longer.root.classNames = ["card", "label", "label2", "base2", "label22"] ∧
      crowdedSet.kind = .componentSet ∧
      List.Forall₂ (fun member variant =>
          Issues ["base", "on", "off", "disabled"] member.outline.names variant.root.classNames ∧
          variant.root.preorder.map Element.source = member.outline.names)
        (members crowdedSet) (ofNode crowdedSet).variants := by
  intro child longer
  have plain : labelCard.kind = .componentSet → members labelCard = [] := by decide
  have plainAfter : labelCard.kind = .componentSet → members (labelCard.append child) = [] := by
    decide
  obtain ⟨issued, _, grown⟩ := classNames_issued labelCard
  have names : labelCard.outline.names = ["Card", "Label", "Label", "Base"] := by decide
  have classes : (ofNode labelCard).root.classNames = ["card", "label", "label2", "base2"] := by
    decide +kernel
  have isThere : (ofNode labelCard).root.at? [1, 0] ≠ none := by
    rw [← Option.isSome_iff_ne_none]
    decide +kernel
  obtain ⟨element, isFound⟩ := Option.ne_none_iff_exists'.mp isThere
  have kept := (grown child plainAfter).2 [1, 0] element (List.cons_ne_nil _ _) isFound
  refine ⟨plain, ?_, isThere, kept.trans isFound.symm, by decide +kernel, rfl, ?_⟩
  · have first := (issued plain).1
    rw [names, classes] at first
    exact first
  · exact (classNames_issued crowdedSet).2.1 rfl

end Component

end DesignToCode
