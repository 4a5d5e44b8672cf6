import DesignToCode.Output.Artifacts
import DesignToCode.Proofs.Output.SplicedNames
import DesignToCode.Proofs.Output.Stories

/-!
When the names in generated modules are identifiers.
-/

namespace DesignToCode

open DesignToCode.Naming DesignToCode.Text

theorem Component.isIdentifier_className {document : Node} {tree element : Element}
    (built : tree ∈ (ofNode document).trees) (below : element ∈ tree.descendants) :
    isIdentifier element.className = !startsWithDigit (material element.source) := by
  obtain ⟨node, source, rfl⟩ := exists_node_of_mem_trees built
  rw [Element.descendants_renamed] at below
  have claimed := ClassScope.isIdentifier_claimAll (documentScope document)
    ((Element.ofNode (documentScope document) node).1.preorder.map Element.source)
  rw [Element.claimAll_ofNode, Element.classNames, List.forall₂_map_left_iff,
    List.forall₂_map_right_iff, List.forall₂_same] at claimed
  exact claimed element (List.mem_cons_of_mem _ below)

structure LettersFirst (document : Node) : Prop where
  component : startsWithDigit (material document.name) = false
  property : ∀ property ∈ (Component.ofNode document).properties,
    startsWithLetter (material property.name) = true
  element : ∀ element ∈ (Component.ofNode document).root.descendants,
    startsWithDigit (material element.source) = false
  story : ∀ variant ∈ (Component.ofNode document).variants,
    startsWithDigit (variant.values.values.flatMap material) = false

theorem isIdentifier_of_splices {document : Node} (letters : LettersFirst document) {role : Role}
    {name : String}
    (splices : Splices (componentName document.name) (Component.ofNode document) role name)
    (noArgument : role ≠ .argument) : isIdentifier name = true := by
  have isProperty {property : Property}
      (declared : property ∈ (Component.ofNode document).properties) :
      isIdentifier property.identifier = true := by
    rw [Property.identifier, isIdentifier_camelCase, letters.property property declared]
  cases splices with
  | component => rw [isIdentifier_componentName, letters.component]; rfl
  | property declared => exact isProperty declared
  | base => decide
  | toggle declared _ => exact isProperty declared
  | element isClass =>
      rw [Component.forestClassNames_forest] at isClass
      obtain ⟨element, below, rfl⟩ := List.mem_map.mp isClass
      rw [Component.isIdentifier_className List.mem_cons_self below,
        letters.element element below]
      rfl
  | @story story isStory =>
      have named : story.name ∈ Catalog.storyNames (Component.ofNode document) :=
        List.mem_map_of_mem isStory
      rcases Catalog.mem_storyNames.mp named with ⟨_, isDefault⟩ | ⟨variant, isVariant, same⟩
      · rw [isDefault]
        decide
      · rw [same, Catalog.isIdentifier_storyName isVariant, letters.story variant isVariant]
        rfl
  | argument => contradiction

theorem lettersFirst_of_isIdentifier {document : Node}
    (identifiers : ∀ role name,
      Splices (componentName document.name) (Component.ofNode document) role name →
        role ≠ .argument → isIdentifier name = true) : LettersFirst document where
  component := by
    have named := identifiers _ _ .component (by decide)
    simpa [isIdentifier_componentName] using named
  property := by
    intro property declared
    have named := identifiers _ _ (.property declared) (by decide)
    rwa [Property.identifier, isIdentifier_camelCase] at named
  element := by
    intro element below
    have isClass : element.className ∈
        Markup.forestClassNames (Component.ofNode document).forest := by
      rw [Component.forestClassNames_forest]
      exact List.mem_map_of_mem below
    have named := identifiers _ _ (.element isClass) (by decide)
    simpa [Component.isIdentifier_className List.mem_cons_self below] using named
  story := by
    intro variant isVariant
    obtain ⟨story, isStory, same⟩ := List.mem_map.mp
      (Catalog.mem_storyNames.mpr (Or.inr ⟨variant, isVariant, rfl⟩))
    have named := identifiers _ _ (.story isStory) (by decide)
    simpa [same, Catalog.isIdentifier_storyName isVariant] using named

theorem names_isIdentifier_iff (document : Node) (url : String) (settings : Settings) :
    let component := Component.ofNode document
    let artifacts := Artifacts.generate document url settings
    let componentLines := ComponentFile.fragments artifacts.name component settings
    let catalogLines := Catalog.fragments artifacts.name component url settings
    artifacts.component.content = join "\n" (componentLines.map Fragment.line) ∧
    artifacts.catalog.content = join "\n" (catalogLines.map Fragment.line) ∧
    ((∀ role name, (role, name) ∈ namesIn componentLines ++ namesIn catalogLines →
        role ≠ .argument → isIdentifier name = true) ↔ LettersFirst document) := by
  intro component artifacts componentLines catalogLines
  refine ⟨?_, ?_, ?_, ?_⟩
  · exact congrArg (join "\n") (ComponentFile.lines_eq_fragments _ _ _)
  · exact congrArg (join "\n") (Catalog.lines_eq_fragments _ _ _ _)
  · intro identifiers
    exact lettersFirst_of_isIdentifier fun role name splices =>
      identifiers role name (mem_namesIn_iff_splices.mpr splices)
  · intro letters role name found
    exact isIdentifier_of_splices letters (mem_namesIn_iff_splices.mp found)

def numberedSet : Node :=
  { Node.blank with
    name := "404", type := .componentSet
    properties := .ofList [("%", ⟨.toggle, .flag true, none⟩)]
    children := [{ Node.blank with
      name := "Columns=2", type := .component
      children := [{ Node.blank with name := "1st", type := .frame }] }] }

theorem not_isIdentifier_numberedSet :
    let component := Component.ofNode numberedSet
    let url := "https://www.figma.com/design/ABC123/Kit?node-id=11-4"
    let artifacts := Artifacts.generate numberedSet url .standard
    let names := namesIn (ComponentFile.fragments artifacts.name component .standard) ++
      namesIn (Catalog.fragments artifacts.name component url .standard)
    (.component, "404") ∈ names ∧ (.property, "") ∈ names ∧ (.className, "1st") ∈ names ∧
      (.story, "2") ∈ names ∧
      (["404", "", "1st", "2"].all fun name => !isIdentifier name) = true ∧
      ¬∀ role name, (role, name) ∈ names → role ≠ .argument → isIdentifier name = true := by
  intro component url artifacts names
  have isComponent : (.component, "404") ∈ names := by decide +kernel
  refine ⟨isComponent, by decide +kernel, by decide +kernel, by decide +kernel, by decide, ?_⟩
  intro identifiers
  have impossible := identifiers _ _ isComponent (by decide)
  revert impossible
  decide

end DesignToCode
