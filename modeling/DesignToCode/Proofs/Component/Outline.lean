import DesignToCode.Proofs.Component.ClassNames
import DesignToCode.Proofs.Naming.Agreement

/-!
Outlines: the names in a tree with the shape of the tree.
-/

namespace DesignToCode

open DesignToCode.Naming DesignToCode.Text

structure Outline where
  name : String
  children : List Outline

mutual

/-- The layer names that a built tree is made from. What is left out and what stands in a text has
no part in it. -/
def Node.outline : Node → Outline
  | node@⟨_, name, _, _, children, _, _, _, _, _, _⟩ =>
    ⟨name, if node.kind = .text then [] else Node.outlines children⟩

def Node.outlines : List Node → List Outline
  | [] => []
  | node :: rest => if node.isKept then node.outline :: Node.outlines rest else Node.outlines rest

end

mutual

def Element.outline : Element → Outline
  | ⟨_, className, _, _, children, _⟩ => ⟨className, Element.outlines children⟩

def Element.outlines : List Element → List Outline
  | [] => []
  | element :: rest => element.outline :: Element.outlines rest

end

namespace Outline

mutual

def names : Outline → List String
  | ⟨name, children⟩ => name :: forestNames children

def forestNames : List Outline → List String
  | [] => []
  | outline :: rest => outline.names ++ forestNames rest

end

mutual

def claim (scope : ClassScope) : Outline → Outline × ClassScope
  | ⟨name, children⟩ =>
    let claimed := scope.claim name
    let inner := claimAll claimed.2 children
    (⟨claimed.1, inner.1⟩, inner.2)

def claimAll (scope : ClassScope) : List Outline → List Outline × ClassScope
  | [] => ([], scope)
  | outline :: rest =>
    let first := claim scope outline
    let later := claimAll first.2 rest
    (first.1 :: later.1, later.2)

end

mutual

theorem claim_eq_of_agreeExcept {first second : ClassScope} {mine yours : String}
    (both : first.AgreeExcept second mine yours) : ∀ outline : Outline,
    lower yours ∉ (outline.claim first).1.names.map lower →
    lower mine ∉ (outline.claim second).1.names.map lower →
      (outline.claim first).1 = (outline.claim second).1 ∧
        (outline.claim first).2.AgreeExcept (outline.claim second).2 mine yours
  | ⟨name, children⟩ => by
      intro notYours notMine
      simp only [claim, names, ClassScope.claim, List.map_cons, List.mem_cons, not_or]
        at notYours notMine ⊢
      have issued : first.issue name = second.issue name :=
        both.issue_eq (Ne.symm notYours.1) (Ne.symm notMine.1)
      rw [issued] at notYours ⊢
      have inner := claimAll_eq_of_agreeExcept (both.reserve (second.issue name)) children
        notYours.2 notMine.2
      exact ⟨by rw [inner.1], inner.2⟩

theorem claimAll_eq_of_agreeExcept {first second : ClassScope} {mine yours : String}
    (both : first.AgreeExcept second mine yours) : ∀ outlines : List Outline,
    lower yours ∉ (forestNames (claimAll first outlines).1).map lower →
    lower mine ∉ (forestNames (claimAll second outlines).1).map lower →
      (claimAll first outlines).1 = (claimAll second outlines).1 ∧
        (claimAll first outlines).2.AgreeExcept (claimAll second outlines).2 mine yours
  | [] => fun _ _ => ⟨rfl, both⟩
  | outline :: rest => by
      intro notYours notMine
      simp only [claimAll, forestNames, List.map_append, List.mem_append, not_or]
        at notYours notMine ⊢
      have head := claim_eq_of_agreeExcept both outline notYours.1 notMine.1
      have later := claimAll_eq_of_agreeExcept head.2 rest notYours.2 notMine.2
      exact ⟨by rw [head.1, later.1], later.2⟩

end

end Outline

namespace Element

mutual

theorem outline_ofNode (scope : ClassScope) : ∀ node : Node,
    ((ofNode scope node).1.outline, (ofNode scope node).2) = node.outline.claim scope
  | ⟨_, name, _, _, children, _, _, _, _, _, _⟩ => by
      rw [ofNode, Node.outline]
      split
      · rfl
      · have below := outlines_ofNodes (scope.claim name).2 children
        simp only [Outline.claim, outline, ← below]

theorem outlines_ofNodes (scope : ClassScope) : ∀ nodes : List Node,
    (outlines (ofNodes scope nodes).1, (ofNodes scope nodes).2) =
      Outline.claimAll scope (Node.outlines nodes)
  | [] => rfl
  | node :: rest => by
      rw [ofNodes, Node.outlines]
      split
      · have first := outline_ofNode scope node
        have later := outlines_ofNodes (ofNode scope node).2 rest
        simp only [Outline.claimAll, outlines, ← first, ← later]
      · exact outlines_ofNodes scope rest

end

mutual

theorem names_outline : ∀ element : Element, element.outline.names = element.classNames
  | ⟨_, _, _, _, children, _⟩ => by
      rw [outline, Outline.names, forestNames_outlines children, classNames, preorder,
        descendants_eq, List.map_cons]

theorem forestNames_outlines : ∀ elements : List Element,
    Outline.forestNames (outlines elements) = (forestElements elements).map className
  | [] => by simp [outlines, Outline.forestNames, forestElements]
  | element :: rest => by
      rw [outlines, Outline.forestNames, names_outline element, forestNames_outlines rest,
        forestElements_cons, List.map_append, classNames]

end

theorem outlines_children_ofNode {scope : ClassScope} {node : Node} (notText : node.kind ≠ .text) :
    outlines (ofNode scope node).1.children =
      (Outline.claimAll (scope.claim node.name).2 (Node.outlines node.children)).1 := by
  rw [children_ofNode, if_neg notText]
  exact congrArg Prod.fst (outlines_ofNodes _ _)

def lowerClassesBelow (element : Element) : List String :=
  element.descendants.map fun inner => lower inner.className

theorem lowerClassesBelow_eq (element : Element) :
    element.lowerClassesBelow = (Outline.forestNames (outlines element.children)).map lower := by
  rw [lowerClassesBelow, descendants_eq, forestNames_outlines, List.map_map]
  rfl

end Element

namespace Component

theorem mem_zip_variants {document member : Node} {variant : Variant} :
    (member, variant) ∈ (members document).zip (ofNode document).variants ↔
      document.kind = .componentSet ∧ member ∈ members document ∧
        variant = variantOf (documentScope document) member := by
  constructor
  · intro paired
    have isSet := (exists_member_of_mem_variants (List.of_mem_zip paired).2).1
    rw [variants_ofNode isSet, ← List.map_prod_left_eq_zip] at paired
    obtain ⟨other, isMember, same⟩ := List.mem_map.mp paired
    cases same
    exact ⟨isSet, isMember, rfl⟩
  · rintro ⟨isSet, isMember, rfl⟩
    rw [variants_ofNode isSet, ← List.map_prod_left_eq_zip]
    exact List.mem_map_of_mem isMember

theorem lower_className_not_mem_below {document : Node} {tree : Element}
    (built : tree ∈ (ofNode document).trees) :
    lower tree.className ∉ tree.lowerClassesBelow := by
  have distinct := nodup_classNames built
  rw [Element.classNames, Element.preorder, List.map_cons, List.map_cons, List.nodup_cons,
    List.map_map] at distinct
  exact distinct.1

/-- Two members of a set that look alike below their own names get the same classes there exactly
when the class of neither is given below the other. -/
theorem outlines_eq_iff {document first second : Node} {mine yours : Variant}
    (firstPaired : (first, mine) ∈ (members document).zip (ofNode document).variants)
    (secondPaired : (second, yours) ∈ (members document).zip (ofNode document).variants)
    (alike : Node.outlines first.children = Node.outlines second.children) :
    Element.outlines mine.root.children = Element.outlines yours.root.children ↔
      lower mine.root.className ∉ yours.root.lowerClassesBelow ∧
        lower yours.root.className ∉ mine.root.lowerClassesBelow := by
  have isTree {member : Node} {variant : Variant}
      (paired : (member, variant) ∈ (members document).zip (ofNode document).variants) :
      variant.root ∈ (ofNode document).trees :=
    List.mem_cons_of_mem _ (List.mem_map_of_mem (List.of_mem_zip paired).2)
  constructor
  · intro same
    have sameBelow : mine.root.lowerClassesBelow = yours.root.lowerClassesBelow := by
      rw [Element.lowerClassesBelow_eq, Element.lowerClassesBelow_eq, same]
    constructor
    · rw [← sameBelow]
      exact lower_className_not_mem_below (isTree firstPaired)
    · rw [sameBelow]
      exact lower_className_not_mem_below (isTree secondPaired)
  · rintro ⟨notMine, notYours⟩
    obtain ⟨_, firstMember, rfl⟩ := mem_zip_variants.mp firstPaired
    obtain ⟨_, secondMember, rfl⟩ := mem_zip_variants.mp secondPaired
    rw [Element.lowerClassesBelow_eq] at notMine notYours
    simp only [variantOf, Element.className_ofNode,
      Element.outlines_children_ofNode (notText_of_mem_members firstMember),
      Element.outlines_children_ofNode (notText_of_mem_members secondMember), alike]
      at notMine notYours ⊢
    have both := ClassScope.AgreeExcept.ofReserve (documentScope document)
      ((documentScope document).issue first.name) ((documentScope document).issue second.name)
    exact (Outline.claimAll_eq_of_agreeExcept both _ notYours notMine).1

def badgeSet : Node :=
  let layer (name : String) : Node := { Node.blank with name, type := .frame }
  let member (name : String) : Node :=
    { Node.blank with
      name, type := .component
      children := [layer "Type Icon", { layer "Hint" with visible := false }, layer "Label"] }
  { Node.blank with
    name := "Badge", type := .componentSet
    children := [member "Type=Icon", member "Type=Text", member "Type=Bare"] }

def badgeMember (index : Fin 3) : Node :=
  (members badgeSet)[index]

def badgeVariant (index : Fin 3) : Variant :=
  variantOf (documentScope badgeSet) (badgeMember index)

theorem badge_paired (index : Fin 3) :
    (badgeMember index, badgeVariant index) ∈
      (members badgeSet).zip (ofNode badgeSet).variants :=
  mem_zip_variants.mpr ⟨rfl, List.getElem_mem _, rfl⟩

theorem outlines_eq_iff_badgeSet :
    (badgeMember 1, badgeVariant 1) ∈ (members badgeSet).zip (ofNode badgeSet).variants ∧
      (badgeMember 2, badgeVariant 2) ∈ (members badgeSet).zip (ofNode badgeSet).variants ∧
      Node.outlines (badgeMember 1).children = Node.outlines (badgeMember 2).children ∧
      Element.outlines (badgeVariant 1).root.children =
        Element.outlines (badgeVariant 2).root.children := by
  have alike : Node.outlines (badgeMember 1).children = Node.outlines (badgeMember 2).children :=
    rfl
  refine ⟨badge_paired 1, badge_paired 2, alike, ?_⟩
  refine (outlines_eq_iff (badge_paired 1) (badge_paired 2) alike).mpr ?_
  decide +kernel

theorem outlines_ne_badgeSet :
    (badgeMember 0, badgeVariant 0) ∈ (members badgeSet).zip (ofNode badgeSet).variants ∧
      (badgeMember 1, badgeVariant 1) ∈ (members badgeSet).zip (ofNode badgeSet).variants ∧
      Node.outlines (badgeMember 0).children = Node.outlines (badgeMember 1).children ∧
      Outline.forestNames (Element.outlines (badgeVariant 0).root.children) =
        ["typeIcon2", "label"] ∧
      Outline.forestNames (Element.outlines (badgeVariant 1).root.children) =
        ["typeIcon", "label"] ∧
      Element.outlines (badgeVariant 0).root.children ≠
        Element.outlines (badgeVariant 1).root.children := by
  have numbered : Outline.forestNames (Element.outlines (badgeVariant 0).root.children) =
      ["typeIcon2", "label"] := by decide +kernel
  have plain : Outline.forestNames (Element.outlines (badgeVariant 1).root.children) =
      ["typeIcon", "label"] := by decide +kernel
  refine ⟨badge_paired 0, badge_paired 1, rfl, numbered, plain, ?_⟩
  intro same
  rw [same, plain] at numbered
  simp at numbered

end Component

end DesignToCode
