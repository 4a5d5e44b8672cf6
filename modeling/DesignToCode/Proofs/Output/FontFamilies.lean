import DesignToCode.Proofs.Component.Preorder
import DesignToCode.Proofs.Output.FamilyReader
import DesignToCode.Proofs.Style.Aspects

/-!
The font family of a text, from the design to its declaration in the style sheet.
-/

namespace DesignToCode

open DesignToCode.Text

def familyValue (family : String) : String :=
  "'" ++ family ++ "', sans-serif"

namespace Style

open StyleMap

theorem get?_fontFamily {style : TypeStyle} {family : String}
    (named : style.fontFamily = some family) (nonempty : family ≠ "") :
    (fontFamily style).get? "font-family" = some (.text (familyValue family)) := by
  have kept : (style.fontFamily.filter fun family => !family.isEmpty) = some family := by
    simp [named, nonempty]
  rw [fontFamily, kept]
  rfl

theorem get?_textStyle {node : Node} {style : TypeStyle} (typed : node.typeStyle = some style) :
    (textStyle node).get? "font-family" = (fontFamily style).get? "font-family" := by
  simp only [textStyle, typed]
  rw [get?_merge_of_fits (fits_textWhen _ _) (by decide),
    get?_merge_of_fits (fits_textWhen _ _) (by decide),
    get?_merge_of_fits (fits_lineHeight style) (by decide),
    get?_merge_of_fits (fits_fontWeight style) (by decide),
    get?_merge_of_fits (fits_textWhen _ _) (by decide)]

end Style

theorem Element.get?_fontFamily {node : Node} {style : TypeStyle} {family : String}
    (isText : node.kind = .text) (typed : node.typeStyle = some style)
    (named : style.fontFamily = some family) (nonempty : family ≠ "")
    (scope : Naming.ClassScope) :
    (ofNode scope node).1.styles.get? "font-family" = some (.text (familyValue family)) := by
  have isAspect : Style.textStyle node ∈ Style.aspects node true := by simp [Style.aspects]
  have declared := (Style.get?_textStyle typed).trans (Style.get?_fontFamily named nonempty)
  rw [styles_ofNode, beq_iff_eq.mpr isText]
  exact Style.get?_styles isAspect declared

namespace Stylesheet

theorem hasLine_declaration {component : Component} {rule : StyleRule}
    (isRule : rule ∈ rules component) {property : String} {value : StyleValue}
    (declared : rule.declarations.get? property = some value) :
    HasLine (declarationLine (property, value)) (render component) := by
  obtain ⟨before, after, split⟩ := List.append_of_mem (OrderedMap.mem_of_get? declared)
  have written : ruleLines rule =
      (("." ++ rule.className ++ " \x7b") :: before.map declarationLine) ++
        ([declarationLine (property, value)] ++ (after.map declarationLine ++ ["\x7d"])) := by
    simp [ruleLines, split]
  have occurs := occurIn_lines isRule
  rw [written] at occurs
  exact occurs.inner.hasLine

theorem hasLine_fontFamily {component : Component} {rule : StyleRule} {value : String}
    (isRule : rule ∈ rules component)
    (declared : rule.declarations.get? "font-family" = some (.text value)) :
    HasLine ("  font-family: " ++ value ++ ";") (render component) := by
  have line : declarationLine ("font-family", .text value) =
      "  font-family: " ++ value ++ ";" := by
    rw [declarationLine, StyleValue.display]
    simp only [String.reduceAppend]
  rw [← line]
  exact hasLine_declaration isRule declared

end Stylesheet

/-- The declared list of the family and the generic one after it is read as such exactly if the
family has no single quote, no backslash, no line break and no null character. -/
theorem fontFamily_read_iff {node : Node} {style : TypeStyle} {family : String}
    (isText : node.kind = .text) (typed : node.typeStyle = some style)
    (named : style.fontFamily = some family) (nonempty : family ≠ "") :
    let value := "'" ++ family ++ "', sans-serif"
    (∀ scope, (Element.ofNode scope node).1.styles.get? "font-family" = some (.text value)) ∧
    (∀ component, ∀ rule ∈ Stylesheet.rules component,
      rule.declarations.get? "font-family" = some (.text value) →
        HasLine ("  font-family: " ++ value ++ ";") (Stylesheet.render component)) ∧
    ∀ rest : String,
      FamilyReader.declared? (value ++ ";\n" ++ rest).toList =
          some ([.quoted family, .named ["sans-serif"]],
            FamilyReader.readChars false ("\n" ++ rest).toList) ↔
        ∀ c ∈ family.toList, c ∉ ['\'', '\\', '\n', '\r', '\x0c', '\x00'] := by
  intro value
  refine ⟨Element.get?_fontFamily isText typed named nonempty, ?_, ?_⟩
  · intro component rule isRule declared
    exact Stylesheet.hasLine_fontFamily isRule declared
  · intro rest
    have broken : FamilyReader.readChars false ("\n" ++ rest).toList =
        '\n' :: FamilyReader.readChars false rest.toList := by
      simp [FamilyReader.readChars, FamilyReader.readChar]
    have written : (value ++ ";\n" ++ rest).toList =
        '\'' :: (family.toList ++ (FamilyReader.ending ++ '\n' :: rest.toList)) := by
      simp [value, FamilyReader.ending]
    rw [written, broken]
    exact FamilyReader.declared?_iff family rest.toList

def titleText (family : String) : Node :=
  { Node.blank with
    name := "Title", type := .text
    typeStyle := some { (default : TypeStyle) with fontFamily := some family } }

theorem declares_titleText {family : String} (nonempty : family ≠ "") :
    (Stylesheet.baseRule (Component.ofNode (titleText family))).declarations.get? "font-family" =
      some (.text (familyValue family)) := by
  have isText : (titleText family).kind = .text := rfl
  have declared := Element.get?_fontFamily isText rfl rfl nonempty (Component.scope [])
  simpa [Stylesheet.baseRule, Component.ofNode, isText] using declared

theorem fontFamily_read_iff_titleText :
    let artifacts := Artifacts.generate (titleText "Inter")
      "https://www.figma.com/design/ABC123?node-id=1-1" .standard
    HasLine "  font-family: 'Inter', sans-serif;" artifacts.stylesheet.content ∧
    FamilyReader.declared? "'Inter', sans-serif;\n\x7d\n".toList =
      some ([.quoted "Inter", .named ["sans-serif"]], "\n\x7d\n".toList) := by
  intro artifacts
  obtain ⟨_, written, read⟩ := @fontFamily_read_iff (titleText "Inter") _ _ rfl rfl rfl (by decide)
  have occurs := written _ _ List.mem_cons_self (declares_titleText (by decide))
  have denotes := (read "\x7d\n").mpr (by simp)
  simp only [String.reduceAppend] at occurs denotes
  exact ⟨occurs, denotes⟩

theorem not_declared_titleText :
    let artifacts := Artifacts.generate (titleText "O'Neil Sans")
      "https://www.figma.com/design/ABC123/Kit?node-id=11-4" .standard
    HasLine "  font-family: 'O'Neil Sans', sans-serif;" artifacts.stylesheet.content ∧
    ∀ rest : String,
      FamilyReader.declared? ("'O'Neil Sans', sans-serif;\n" ++ rest).toList = none := by
  intro artifacts
  have named : "O'Neil Sans" ≠ "" := by decide
  have occurs := Stylesheet.hasLine_fontFamily List.mem_cons_self (declares_titleText named)
  simp only [familyValue, String.reduceAppend] at occurs
  refine ⟨occurs, fun rest => ?_⟩
  have chars : ("'O'Neil Sans', sans-serif;\n" ++ rest).toList =
      ['\'', 'O', '\'', 'N', 'e', 'i', 'l', ' ', 'S', 'a', 'n', 's'] ++
        FamilyReader.ending ++ '\n' :: rest.toList := by
    simp [FamilyReader.ending]
  rw [chars]
  rfl

end DesignToCode
