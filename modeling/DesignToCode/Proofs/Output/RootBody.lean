import DesignToCode.Output.ComponentFile
import DesignToCode.Proofs.Component.ClassNames
import DesignToCode.Proofs.Output.MarkupReading

/-!
What stands between the tags of the root of a rendered component.
-/

namespace DesignToCode

open DesignToCode.Naming DesignToCode.Text

mutual

/-- How a tree of elements is to be read in its markup. A property named `standIn` shows in place of
every text. -/
inductive Depicts (standIn : Option String) : Element → Markup → Prop
  | literal {element : Element} {text : String} (noProperty : standIn = none)
      (shown : element.text = some text) (nonempty : text ≠ "") (leaf : element.children = []) :
      Depicts standIn element (.textual element.tag element.className (.literal text))
  | property {element : Element} {text identifier : String} (isProperty : standIn = some identifier)
      (shown : element.text = some text) (nonempty : text ≠ "") (leaf : element.children = []) :
      Depicts standIn element (.textual element.tag element.className (.property identifier))
  | parent {element : Element} {forest : List Markup} (textless : element.text.getD "" = "")
      (inner : element.children ≠ []) (below : DepictsAll standIn element.children forest) :
      Depicts standIn element (.parent element.tag element.className forest)
  | closed {element : Element} (textless : element.text.getD "" = "")
      (leaf : element.children = []) : Depicts standIn element (.closed element.className)

inductive DepictsAll (standIn : Option String) : List Element → List Markup → Prop
  | nil : DepictsAll standIn [] []
  | cons {element : Element} {markup : Markup} {elements : List Element} {forest : List Markup}
      (first : Depicts standIn element markup) (later : DepictsAll standIn elements forest) :
      DepictsAll standIn (element :: elements) (markup :: forest)

end

theorem DepictsAll.ne_nil {standIn : Option String} {elements : List Element}
    {forest : List Markup} (all : DepictsAll standIn elements forest) (nonempty : elements ≠ []) :
    forest ≠ [] := by
  cases all with
  | nil => contradiction
  | cons first later => simp

namespace Markup

mutual

def classNames : Markup → List String
  | .textual _ className _ => [className]
  | .parent _ className children => className :: forestClassNames children
  | .closed className => [className]

def forestClassNames : List Markup → List String
  | [] => []
  | markup :: rest => markup.classNames ++ forestClassNames rest

end

mutual

theorem classNames_of_depicts {standIn : Option String} : ∀ {element : Element} {markup : Markup},
    Depicts standIn element markup → markup.classNames = element.classNames
  | _, _, .literal _ _ _ leaf => by rw [classNames, Element.classNames_of_leaf leaf]
  | _, _, .property _ _ _ leaf => by rw [classNames, Element.classNames_of_leaf leaf]
  | element, _, .parent _ _ below => by
      rw [classNames, forestClassNames_of_depictsAll below, Element.classNames, Element.preorder,
        Element.descendants_eq, List.map_cons]
  | _, _, .closed _ leaf => by rw [classNames, Element.classNames_of_leaf leaf]

theorem forestClassNames_of_depictsAll {standIn : Option String} :
    ∀ {elements : List Element} {forest : List Markup}, DepictsAll standIn elements forest →
      forestClassNames forest = (Element.forestElements elements).map Element.className
  | _, _, .nil => by simp [forestClassNames, Element.forestElements]
  | _, _, .cons first later => by
      rw [forestClassNames, classNames_of_depicts first, forestClassNames_of_depictsAll later,
        Element.forestElements_cons, List.map_append, Element.classNames]

end

theorem hasText_iff {element : Element} :
    hasText element = true ↔ ∃ text, element.text = some text ∧ text ≠ "" := by
  unfold hasText
  cases shown : element.text with
  | none => simp
  | some text => simp

theorem textless_of_hasText {element : Element} (none : hasText element = false) :
    element.text.getD "" = "" := by
  unfold hasText at none
  cases shown : element.text with
  | none => rfl
  | some text => simpa [shown] using none

def LeafTexts (elements : List Element) : Prop :=
  ∀ element ∈ elements, element.text ≠ none → element.children = []

mutual

theorem depicts_ofElement (standIn : Option String) : ∀ element : Element,
    LeafTexts element.preorder → Depicts standIn element (ofElement standIn element)
  | element@⟨tag, className, styles, text, children, source⟩ => by
      intro leaves
      have below : LeafTexts (Element.forestElements children) := by
        intro inner found
        exact leaves inner (List.mem_cons_of_mem _ (by rw [Element.descendants_eq]; exact found))
      rw [ofElement]
      by_cases shows : hasText ⟨tag, className, styles, text, children, source⟩ = true
      · obtain ⟨written, shown, nonempty⟩ := hasText_iff.mp shows
        have leaf := leaves _ List.mem_cons_self (by rw [shown]; simp)
        have same : text.getD "" = written := by
          rw [show text = some written from shown, Option.getD_some]
        rw [if_pos shows, same]
        cases standIn with
        | none => exact .literal rfl shown nonempty leaf
        | some identifier => exact .property rfl shown nonempty leaf
      · have textless := textless_of_hasText (Bool.eq_false_iff.mpr shows)
        rw [if_neg shows]
        cases children with
        | nil => exact .closed textless rfl
        | cons first rest =>
            exact .parent textless (by simp) (depictsAll_ofElements standIn (first :: rest) below)

theorem depictsAll_ofElements (standIn : Option String) : ∀ elements : List Element,
    LeafTexts (Element.forestElements elements) →
      DepictsAll standIn elements (ofElements standIn elements)
  | [] => fun _ => .nil
  | element :: rest => by
      intro leaves
      rw [Element.forestElements_cons] at leaves
      have first := depicts_ofElement standIn element
        fun inner found => leaves inner (List.mem_append_left _ found)
      have later := depictsAll_ofElements standIn rest
        fun inner found => leaves inner (List.mem_append_right _ found)
      exact .cons first later

end

def PlainStandIn (standIn : Option String) : Prop :=
  ∀ identifier, standIn = some identifier → IsPlain identifier

mutual

theorem isPrintable_of_depicts {standIn : Option String} (plainStandIn : PlainStandIn standIn) :
    ∀ {element : Element} {markup : Markup}, Depicts standIn element markup →
      (∀ name ∈ markup.classNames, IsPlain name) → markup.IsPrintable
  | _, _, .literal _ _ nonempty _ => by
      intro plain
      exact ⟨plain _ (by simp [classNames]), nonempty⟩
  | _, _, .property isProperty _ _ _ => by
      intro plain
      exact ⟨plain _ (by simp [classNames]), plainStandIn _ isProperty⟩
  | _, _, .parent _ inner below => by
      intro plain
      rw [classNames] at plain
      have printable := arePrintable_of_depictsAll plainStandIn below
        fun name found => plain name (List.mem_cons_of_mem _ found)
      exact ⟨plain _ List.mem_cons_self, below.ne_nil inner, printable⟩
  | _, _, .closed _ _ => by
      intro plain
      exact plain _ (by simp [classNames])

theorem arePrintable_of_depictsAll {standIn : Option String}
    (plainStandIn : PlainStandIn standIn) :
    ∀ {elements : List Element} {forest : List Markup}, DepictsAll standIn elements forest →
      (∀ name ∈ forestClassNames forest, IsPlain name) → ArePrintable forest
  | _, _, .nil => fun _ => trivial
  | _, _, .cons first later => by
      intro plain
      rw [forestClassNames] at plain
      exact ⟨isPrintable_of_depicts plainStandIn first
          fun name found => plain name (List.mem_append_left _ found),
        arePrintable_of_depictsAll plainStandIn later
          fun name found => plain name (List.mem_append_right _ found)⟩

end

end Markup

namespace Component

theorem leafTexts_of_mem_trees {document : Node} {tree : Element}
    (built : tree ∈ (ofNode document).trees) :
    (tree.text ≠ none → tree.children = []) ∧ Markup.LeafTexts tree.descendants := by
  obtain ⟨node, source, rfl⟩ := exists_node_of_mem_trees built
  have leaves := Element.children_of_text_ofNode (documentScope document) node
  refine ⟨leaves (Element.ofNode (documentScope document) node).1 List.mem_cons_self, ?_⟩
  intro element below
  rw [Element.descendants_renamed] at below
  exact leaves element (List.mem_cons_of_mem _ below)

theorem forestClassNames_forest (document : Node) :
    Markup.forestClassNames (ofNode document).forest =
      (ofNode document).root.descendants.map Element.className := by
  have leaves := (@leafTexts_of_mem_trees document _ List.mem_cons_self).2
  rw [Element.descendants_eq] at leaves ⊢
  exact Markup.forestClassNames_of_depictsAll (Markup.depictsAll_ofElements _ _ leaves)

theorem plainStandIn (component : Component) : Markup.PlainStandIn component.standIn := by
  intro identifier found
  obtain ⟨property, _, rfl⟩ := Option.map_eq_some_iff.mp found
  exact isPlain_camelCase property.name

end Component

namespace ComponentFile

def headLines (name : String) (component : Component) (settings : Settings) : List String :=
  ["import React from 'react';",
    "import styles from './" ++ name ++ "." ++ settings.stylesheetExtension ++ "';",
    ""] ++
  interfaceLines name component ++
  ["", "export const " ++ name ++ " = (\x7b"] ++
  parameterLines component ++
  ["\x7d: " ++ name ++ "Props) => \x7b", "  return ("]

def body (component : Component) : String :=
  join "\n" ("" :: (bodyLines component ++ ["    "]))

theorem render_eq (name : String) (component : Component) (settings : Settings) :
    render name component settings =
      join "\n" (headLines name component settings ++ [rootTag component]) ++ body component ++
        "</div>\n  );\n\x7d;\n" := by
  have head : headLines name component settings ++ [rootTag component] =
      "import React from 'react';" :: ((headLines name component settings).tail ++
        [rootTag component]) := rfl
  have whole : lines name component settings = "import React from 'react';" ::
      ((headLines name component settings).tail ++ [rootTag component] ++
        (bodyLines component ++ ["    </div>", "  );", "\x7d;", ""])) := by
    simp [lines, headLines]
  apply String.toList_inj.mp
  rw [render, whole, head, body]
  simp only [String.toList_append, toList_join, newLines_append]
  simp [newLines]

end ComponentFile

end DesignToCode
