import DesignToCode.Proofs.Component.Preorder
import DesignToCode.Proofs.Places

/-!
Elements by their place in a tree: the indices of the children on the way down from the root.
-/

namespace DesignToCode.Element

def at? (element : Element) : Place → Option Element
  | [] => some element
  | index :: rest => element.children[index]?.bind fun child => child.at? rest

theorem at?_cons {element found : Element} {index : Nat} {rest : Place} :
    element.at? (index :: rest) = some found ↔
      ∃ child, element.children[index]? = some child ∧ child.at? rest = some found := by
  rw [at?, Option.bind_eq_some_iff]

theorem forestElements_eq (forest : List Element) :
    forestElements forest = forest.flatMap preorder := by
  induction forest with
  | nil => rw [forestElements, List.flatMap_nil]
  | cons element rest ih => rw [forestElements_cons, ih, List.flatMap_cons]

theorem within_children_iff {element found : Element} {place : Place} :
    Within element.children (fun child rest found => child.at? rest = some found) place found ↔
      place ≠ [] ∧ element.at? place = some found := by
  constructor
  · rintro ⟨index, child, rest, rfl, isChild, isFound⟩
    exact ⟨List.cons_ne_nil index rest, at?_cons.mpr ⟨child, isChild, isFound⟩⟩
  · rintro ⟨below, isFound⟩
    obtain ⟨index, rest, rfl⟩ := List.exists_cons_of_ne_nil below
    obtain ⟨child, isChild, isFound⟩ := at?_cons.mp isFound
    exact ⟨index, child, rest, rfl, isChild, isFound⟩

theorem listed_descendants_of_children {element : Element}
    (each : ∀ child ∈ element.children,
      Listed (fun place found => child.at? place = some found) child.preorder) :
    Listed (fun place found => place ≠ [] ∧ element.at? place = some found)
      element.descendants := by
  rw [descendants_eq, forestElements_eq]
  exact (Listed.flatMap _ each).congr fun _ _ => within_children_iff

mutual

theorem listed_preorder : ∀ element : Element,
    Listed (fun place found => element.at? place = some found) element.preorder
  | ⟨tag, className, styles, text, children, source⟩ => by
      have below : Listed _ (Element.mk tag className styles text children source).descendants :=
        listed_descendants_of_children (listed_preorder_of_mem children)
      refine (below.cons _ fun _ inner => inner.1 rfl).congr fun place found => ?_
      cases place with
      | nil => simp [at?, eq_comm]
      | cons index rest => simp

theorem listed_preorder_of_mem : ∀ forest : List Element, ∀ element ∈ forest,
    Listed (fun place found => element.at? place = some found) element.preorder
  | [] => by simp
  | first :: rest => by
      intro element member
      rcases List.mem_cons.mp member with same | later
      · rw [same]
        exact listed_preorder first
      · exact listed_preorder_of_mem rest element later

end

theorem listed_descendants (element : Element) :
    Listed (fun place found => place ≠ [] ∧ element.at? place = some found)
      element.descendants :=
  listed_descendants_of_children fun child _ => listed_preorder child

end DesignToCode.Element
