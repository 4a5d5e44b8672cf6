import DesignToCode.Proofs.FirstWins
import DesignToCode.Proofs.Output.RootClass
import DesignToCode.Proofs.Output.SharedValues
import DesignToCode.Proofs.Output.SheetReader
import Mathlib.Data.List.Nodup

/-!
How the rules of variant values are selected.
-/

namespace DesignToCode

open DesignToCode.Naming DesignToCode.Text

namespace CssReader

def ruleClass? (rule : List Char) : Option String :=
  match rule.takeWhile (· != '\x7b') with
  | '.' :: selector =>
    if isIdentifier (selector.takeWhile isNameChar) &&
        (selector.dropWhile isNameChar).all isCssBlank then
      some (String.ofList (selector.takeWhile isNameChar))
    else none
  | _ => none

theorem ruleClass?_eq_some_iff (name : String) (block : List Char) :
    ruleClass? ('.' :: (name.toList ++ ' ' :: '\x7b' :: block)) = some name ↔
      isIdentifier name.toList = true := by
  constructor
  · intro found
    rw [ruleClass?] at found
    split at found
    · split at found
      · rename_i isClass
        rw [Bool.and_eq_true] at isClass
        rw [← Option.some.inj found, String.toList_ofList]
        exact isClass.1
      · cases found
    · cases found
  · intro isName
    have names := all_isNameChar isName
    have apart : ∀ c ∈ name.toList, (c != '\x7b') = true := by
      intro c found
      rw [bne_iff_ne]
      rintro rfl
      exact absurd (names _ found) (by decide)
    have selector : (name.toList ++ ' ' :: '\x7b' :: block).takeWhile (· != '\x7b') =
        name.toList ++ [' '] := by
      rw [List.takeWhile_append_of_pos apart]
      simp
    have ended : isNameChar ' ' = false := by decide
    rw [ruleClass?, List.takeWhile_cons_of_pos (by decide), selector]
    simp [List.takeWhile_append_of_pos names, List.dropWhile_append_of_pos names, ended, isName,
      isCssBlank]

end CssReader

/-- A rule stands in a text from the start of a line. -/
def HasRule (rule text : String) : Prop :=
  ∃ earlier later, text = lined earlier ++ rule ++ later

namespace Stylesheet

theorem hasRule_render {component : Component} {rule : StyleRule}
    (isRule : rule ∈ variantRules component) :
    HasRule (ruleText rule) (render component) := by
  have isListed : rule ∈ rules component :=
    List.mem_cons_of_mem _ (List.mem_append_left _ isRule)
  obtain ⟨earlier, later, nonempty, split⟩ := occurIn_lines isListed
  refine ⟨earlier, join "\n" later, ?_⟩
  rw [render, split, join_append _ (List.append_ne_nil_of_right_ne_nil _ nonempty),
    join_append _ nonempty, String.append_assoc]
  rfl

theorem ruleClass?_ruleText (rule : StyleRule) :
    CssReader.ruleClass? (ruleText rule).toList = some rule.className ↔
      CssReader.isIdentifier rule.className.toList = true := by
  rw [toList_ruleText]
  exact CssReader.ruleClass?_eq_some_iff rule.className _

end Stylesheet

namespace Catalog

def argumentsOf (component : Component) (variant : Variant) : List (String × Literal) :=
  variant.values.entries.map fun entry => argument component entry.1 entry.2

theorem argument_of_variant {document : Node} {property : Property} {key : String}
    (declared : property ∈ (Component.ofNode document).properties)
    (isVariant : property.kind = .variant) (named : property.identifier = camelCase key)
    (value : String) :
    argument (Component.ofNode document) key value = (camelCase key, .quoted (lower value)) := by
  refine argument_eq_quoted ?_ value
  intro other isOther isToggle same
  have equal : other = property := List.inj_on_of_nodup_map
    (Component.nodup_identifiers document) isOther declared (same.trans named.symm)
  rw [equal, isVariant] at isToggle
  cases isToggle

end Catalog

structure Reached (lookups : List String) (stories : List (List (String × Literal)))
    (rule : StyleRule) : Prop where
  selected : CssReader.ruleClass? (Stylesheet.ruleText rule).toList = some rule.className
  passed : ∃ arguments ∈ stories, ∃ name ∈ lookups, (name, .quoted rule.className) ∈ arguments

structure Reachable (component : Component) (rule : StyleRule) : Prop where
  isIdentifier : CssReader.isIdentifier rule.className.toList = true
  told : ∃ variant ∈ Catalog.firstOfEach [] component.variants,
    ∃ entry ∈ variant.values.entries, lower entry.2 = rule.className ∧
      ∃ property ∈ component.properties,
        property.kind = .variant ∧ property.identifier = camelCase entry.1

theorem reached_iff_reachable (document : Node) (rule : StyleRule) :
    let component := Component.ofNode document
    Reached ((component.properties.filter (·.kind == .variant)).map Property.identifier)
      ((Catalog.firstOfEach [] component.variants).map (Catalog.argumentsOf component)) rule ↔
        Reachable component rule := by
  intro component
  constructor
  · rintro ⟨selected, arguments, isStory, name, isLookup, isArgument⟩
    obtain ⟨variant, isTold, rfl⟩ := List.mem_map.mp isStory
    obtain ⟨property, isProperty, rfl⟩ := List.mem_map.mp isLookup
    rw [List.mem_filter, beq_iff_eq] at isProperty
    obtain ⟨declared, isVariant⟩ := isProperty
    obtain ⟨entry, isEntry, same⟩ := List.mem_map.mp isArgument
    have named : property.identifier = camelCase entry.1 := (congrArg Prod.fst same).symm
    rw [Catalog.argument_of_variant declared isVariant named] at same
    have valued : lower entry.2 = rule.className := by simpa using congrArg Prod.snd same
    exact ⟨(Stylesheet.ruleClass?_ruleText rule).mp selected, variant, isTold, entry, isEntry,
      valued, property, declared, isVariant, named⟩
  · rintro ⟨isIdentifier, variant, isTold, entry, isEntry, valued, property, declared, isVariant,
      named⟩
    refine ⟨(Stylesheet.ruleClass?_ruleText rule).mpr isIdentifier, _,
      List.mem_map_of_mem isTold, property.identifier,
      List.mem_map_of_mem (List.mem_filter.mpr ⟨declared, by simp [isVariant]⟩), ?_⟩
    refine List.mem_map.mpr ⟨entry, isEntry, ?_⟩
    rw [Catalog.argument_of_variant declared isVariant named, valued, named]

theorem variantRules_reached_iff (document : Node) (url : String) (settings : Settings) :
    let component := Component.ofNode document
    let artifacts := Artifacts.generate document url settings
    let told := Catalog.firstOfEach [] component.variants
    ∃ tokens, RootClass artifacts.component.content tokens ∧
      (∀ variant ∈ told, Tells (Catalog.storyName variant) artifacts.catalog.content
        (Catalog.argumentsOf component variant)) ∧
      ∀ rule ∈ Stylesheet.variantRules component,
        HasRule (Stylesheet.ruleText rule) artifacts.stylesheet.content ∧
        (∃ value, Stylesheet.WrittenFor component value rule ∧ rule.className = lower value) ∧
        (Reached (CodeReader.lookups tokens) (told.map (Catalog.argumentsOf component)) rule ↔
          Reachable component rule) := by
  intro component artifacts told
  refine ⟨_, ComponentFile.rootClass_render _ _ _, ?_, ?_⟩
  · intro variant isTold
    exact tells_render _ _ _ _ isTold
  · intro rule isRule
    refine ⟨Stylesheet.hasRule_render isRule, ?_, ?_⟩
    · obtain ⟨value, written⟩ := Stylesheet.exists_writtenFor isRule
      exact ⟨value, written, written.className⟩
    · rw [ComponentFile.lookups_classTokens]
      exact reached_iff_reachable document rule

theorem variantRules_reached_iff_sizeSet :
    let url := "https://www.figma.com/design/ABC123?node-id=1-1"
    let component := Component.ofNode sizeSet
    let artifacts := Artifacts.generate sizeSet url .standard
    let told := Catalog.firstOfEach [] component.variants
    smallRule ∈ Stylesheet.variantRules component ∧
      HasRule (Stylesheet.ruleText smallRule) artifacts.stylesheet.content ∧
      ∃ tokens, RootClass artifacts.component.content tokens ∧
        Reached (CodeReader.lookups tokens) (told.map (Catalog.argumentsOf component))
          smallRule := by
  intro url component artifacts told
  obtain ⟨tokens, root, _, rules⟩ := variantRules_reached_iff sizeSet url .standard
  have isRule : smallRule ∈ Stylesheet.variantRules component := writtenFor_sizeSet.mem
  obtain ⟨stands, _, reached⟩ := rules smallRule isRule
  obtain ⟨small, isTold, entries⟩ := exists_small
  have isProperty : sizeProperty ∈ component.properties := by
    rw [properties_sizeSet]
    exact List.mem_singleton_self _
  have reachable : Reachable component smallRule :=
    ⟨by decide, small, isTold, ("Size", "Small"), by simp [entries], by rfl, sizeProperty,
      isProperty, rfl, by rfl⟩
  exact ⟨isRule, stands, tokens, root, reached.mpr reachable⟩

def spacedSet : Node :=
  let member (name mode : String) : Node :=
    { Node.blank with
      name, type := .component, layout := { (default : AutoLayout) with mode := some mode } }
  { Node.blank with
    name := "Chip", type := .componentSet
    properties := .ofList [("Size", ⟨.variant, .text "Small", some ["Small", "Extra Large"]⟩)]
    children := [member "Size=Small" "HORIZONTAL", member "Size=Extra Large" "VERTICAL"] }

def spacedRule : StyleRule :=
  ⟨"extra large", .ofList [("flex-direction", .text "column")]⟩

theorem not_reached_spacedSet :
    let url := "https://www.figma.com/design/ABC123/Kit?node-id=11-4"
    let artifacts := Artifacts.generate spacedSet url .standard
    spacedRule ∈ Stylesheet.variantRules (Component.ofNode spacedSet) ∧
      HasRule (Stylesheet.ruleText spacedRule) artifacts.stylesheet.content ∧
      CssReader.ruleClass? (Stylesheet.ruleText spacedRule).toList = none := by
  intro url artifacts
  have rules : Stylesheet.variantRules (Component.ofNode spacedSet) = [spacedRule] := by rfl
  have isRule : spacedRule ∈ Stylesheet.variantRules (Component.ofNode spacedSet) := by
    rw [rules]
    exact List.mem_singleton_self _
  exact ⟨isRule, Stylesheet.hasRule_render isRule, by decide +kernel⟩

end DesignToCode
