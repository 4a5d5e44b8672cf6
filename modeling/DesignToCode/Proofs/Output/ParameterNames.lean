import DesignToCode.Proofs.FirstWins
import DesignToCode.Proofs.Output.RootClass
import DesignToCode.Proofs.Output.SharedValues

/-!
The names that the parameter pattern of a component binds.
-/

namespace DesignToCode

open DesignToCode.Naming DesignToCode.Text
open CodeReader (Scans scan)

namespace CodeReader

/-- The names that a parameter pattern binds. A name may have a default, and the last one may stand
for the rest. -/
def boundNames? : List Token → Option (List String)
  | [] => some []
  | [.sign '.', .sign '.', .sign '.', .word name] => some [name]
  | .word name :: .sign ',' :: rest => (boundNames? rest).map (name :: ·)
  | .word name :: .sign '=' :: value :: .sign ',' :: rest =>
    value.literal?.bind fun _ => (boundNames? rest).map (name :: ·)
  | .sign '=' :: value :: .sign ',' :: rest =>
    value.literal?.bind fun _ => (boundNames? rest).map ("" :: ·)
  | _ => none

theorem boundNames?_bindingTokens (binding : String × Literal) (rest : List Token) :
    boundNames? (bindingTokens '=' binding ++ rest) =
      (boundNames? rest).map (binding.1 :: ·) := by
  obtain ⟨name, literal⟩ := binding
  rw [bindingTokens, Token.ofRun_toList]
  by_cases empty : name = ""
  · simp [boundNames?, empty]
  · simp [boundNames?, empty]

theorem boundNames?_flatMap (bindings : List (String × Literal)) (rest : List Token) :
    boundNames? (bindings.flatMap (bindingTokens '=') ++ rest) =
      (boundNames? rest).map (bindings.map Prod.fst ++ ·) := by
  induction bindings with
  | nil => simp
  | cons binding later ih =>
      rw [List.flatMap_cons, List.append_assoc, boundNames?_bindingTokens, ih, Option.map_map]
      rfl

end CodeReader

def BindsNames (name text : String) (names : List String) : Prop :=
  ∃ pattern,
    Excerpt (lined ["export const " ++ name ++ " = (\x7b"]) pattern
      (lined ["\x7d: " ++ name ++ "Props) => \x7b"]) text ∧
    (scan .code [] pattern.toList).bind CodeReader.boundNames? = some names

def ImportsAs (name text : String) : Prop :=
  ∃ path, Excerpt ("import " ++ name ++ " from './") path (lined ["';"]) text

namespace ComponentFile

def boundNames (component : Component) : List String :=
  component.properties.map Property.identifier ++ [clickHandler, "props"]

theorem scan_parameterLines (component : Component) :
    scan .code [] (lined (parameterLines component)).toList =
      some (component.parameters.flatMap (CodeReader.bindingTokens '=') ++
        [.word "onClick", .sign ',', .sign '.', .sign '.', .sign '.', .word "props"]) := by
  have parameters : Scans (lined (patternLines component)).toList
      (component.parameters.flatMap (CodeReader.bindingTokens '=')) :=
    CodeReader.scans_lined fun parameter isParameter =>
      scans_patternLine (isPlain_of_mem_parameters isParameter)
  have others : Scans "  onClick,\n  ...props\n".toList
      [.word "onClick", .sign ',', .sign '.', .sign '.', .sign '.', .word "props"] :=
    CodeReader.scans_of_scan (by decide)
  have split : lined (parameterLines component) =
      lined (patternLines component) ++ "  onClick,\n  ...props\n" := by
    rw [parameterLines, lined_append]
    rfl
  rw [split, String.toList_append]
  exact (parameters.append others).scan_eq

theorem bindsNames_render (name : String) (component : Component) (settings : Settings) :
    BindsNames name (render name component settings) (boundNames component) := by
  refine ⟨lined (parameterLines component), OccurIn.excerpt_lined ?_, ?_⟩
  · simp only [lines, List.append_assoc]
    exact (((OccurIn.between (List.cons_ne_nil _ _)).later [""]).later _).later _
  · rw [scan_parameterLines, Option.bind_some, CodeReader.boundNames?_flatMap]
    simp [CodeReader.boundNames?, boundNames, clickHandler, Component.parameters]

theorem importsAs_styles (name : String) (component : Component) (settings : Settings) :
    ImportsAs "styles" (render name component settings) := by
  have occurs : OccurIn ["import styles from './" ++ name ++ "." ++ settings.stylesheetExtension ++
      "';"] (lines name component settings) := by
    simp only [lines, List.append_assoc]
    exact (OccurIn.here (by simp)).later [_]
  refine ⟨name ++ "." ++ settings.stylesheetExtension, occurs.excerpt ?_⟩
  simp [lined, String.append_assoc]

theorem styles_mem_classTokens (component : Component) :
    .word "styles" ∈ classTokens component := by
  rw [classTokens]
  split
  · simp
  · simp

theorem nodup_boundNames_iff {component : Component}
    (distinct : (component.properties.map Property.identifier).Nodup) :
    (boundNames component).Nodup ∧ "styles" ∉ boundNames component ↔
      ∀ name ∈ component.properties.map Property.identifier,
        name ∉ ["onClick", "props", "styles"] := by
  have others : [clickHandler, "props"].Nodup := by decide
  have visible : "styles" ∉ [clickHandler, "props"] := by decide
  rw [boundNames, List.nodup_append]
  constructor
  · rintro ⟨⟨_, _, apart⟩, unshadowed⟩ name isName taken
    have noOther := apart name isName
    rw [List.mem_append, not_or] at unshadowed
    simp only [List.mem_cons, List.not_mem_nil, or_false] at taken
    rcases taken with click | rest | styles
    · exact noOther clickHandler List.mem_cons_self click
    · exact noOther "props" (by simp) rest
    · rw [styles] at isName
      exact unshadowed.1 isName
  · intro free
    refine ⟨⟨distinct, others, ?_⟩, ?_⟩
    · intro name isName other isOther same
      rw [← same] at isOther
      exact free name isName (List.mem_append_left ["styles"] isOther)
    · intro shadowed
      rcases List.mem_append.mp shadowed with isName | isOther
      · exact free "styles" isName (by simp)
      · exact visible isOther

end ComponentFile

/-- The function of a component binds a name twice, or hides the style module from its body, exactly
if a declared property has one of the three names that the module uses itself. -/
theorem boundNames_distinct_iff (document : Node) (url : String) (settings : Settings) :
    let artifacts := Artifacts.generate document url settings
    let names := ComponentFile.boundNames (Component.ofNode document)
    BindsNames artifacts.name artifacts.component.content names ∧
    ImportsAs "styles" artifacts.component.content ∧
    (∃ tokens, RootClass artifacts.component.content tokens ∧ .word "styles" ∈ tokens) ∧
    (names.Nodup ∧ "styles" ∉ names ↔
      (document.kind = .componentSet →
        ∀ property ∈ Property.supported document.properties.entries,
          property.identifier ∉ ["onClick", "props", "styles"])) := by
  intro artifacts names
  refine ⟨ComponentFile.bindsNames_render _ _ _, ComponentFile.importsAs_styles _ _ _,
    ⟨_, ComponentFile.rootClass_render _ _ _, ComponentFile.styles_mem_classTokens _⟩, ?_⟩
  rw [ComponentFile.nodup_boundNames_iff (Component.nodup_identifiers document)]
  constructor
  · intro free isSet property declared
    exact free _ (Component.mem_identifiers.mpr ⟨isSet, property, declared, rfl⟩)
  · intro free name isName
    obtain ⟨isSet, property, declared, rfl⟩ := Component.mem_identifiers.mp isName
    exact free isSet property declared

def takenNamesSet : Node :=
  { Node.blank with
    name := "Chip", type := .componentSet
    properties := .ofList [("Props", ⟨.text, .text "", none⟩), ("Styles", ⟨.text, .text "", none⟩)] }

theorem not_nodup_takenNamesSet :
    let url := "https://www.figma.com/design/ABC123/Kit?node-id=11-4"
    let artifacts := Artifacts.generate takenNamesSet url .standard
    let names := ["props", "styles", "onClick", "props"]
    BindsNames artifacts.name artifacts.component.content names ∧
      ¬names.Nodup ∧ "styles" ∈ names := by
  intro url artifacts names
  have bound : ComponentFile.boundNames (Component.ofNode takenNamesSet) = names := by rfl
  refine ⟨?_, by decide, by decide⟩
  rw [← bound]
  exact ComponentFile.bindsNames_render _ _ _

end DesignToCode
