import DesignToCode.Proofs.Component.ClassNames
import DesignToCode.Proofs.FirstWins
import DesignToCode.Proofs.Naming.Identifiers

/-!
The stories of a catalog by their names.
-/

namespace DesignToCode

open DesignToCode.Naming DesignToCode.Text

theorem VariantName.toList_display (values : OrderedMap String) :
    (display values).toList = values.values.flatMap pascalChars := by
  have joined (texts : List String) : (join "" texts).toList = texts.flatMap String.toList := by
    induction texts with
    | nil => rfl
    | cons first rest ih =>
        cases rest with
        | nil => simp [join]
        | cons next later => simp [join, ih]
  rw [display, joined, List.flatMap_map]
  simp only [pascalCase, String.toList_ofList]

theorem VariantName.isPlain_display (values : OrderedMap String) : IsPlain (display values) := by
  intro c found
  rw [toList_display] at found
  obtain ⟨value, _, inValue⟩ := List.mem_flatMap.mp found
  exact isAlphanum_of_mem_pascalChars inValue

namespace Catalog

def storyNames (component : Component) : List String :=
  (stories component).map Story.name

theorem storyNames_eq (component : Component) :
    storyNames component =
      if component.variants.isEmpty then [defaultStory]
      else (firstOfEach [] component.variants).map storyName := by
  rw [storyNames, stories]
  split
  · rfl
  · rw [List.map_map]
    rfl

theorem stories_ne_nil (component : Component) : stories component ≠ [] := by
  rw [stories]
  split
  · exact List.cons_ne_nil _ _
  · rename_i hasVariants
    cases variants : component.variants with
    | nil => simp [variants] at hasVariants
    | cons first rest => simp [firstOfEach]

theorem nodup_storyNames (component : Component) : (storyNames component).Nodup := by
  rw [storyNames_eq]
  split
  · exact List.pairwise_singleton _ _
  · rw [firstOfEach_eq]
    exact nodup_map_firstWins

theorem mem_storyNames {component : Component} {name : String} :
    name ∈ storyNames component ↔
      (component.variants = [] ∧ name = defaultStory) ∨
        ∃ variant ∈ component.variants, name = storyName variant := by
  rw [storyNames_eq]
  by_cases empty : component.variants = []
  · simp [empty]
  · have nonempty : ¬component.variants.isEmpty = true := by simpa using empty
    rw [if_neg nonempty, firstOfEach_eq, mem_map_firstWins, List.mem_map]
    simp only [empty, false_and, false_or, eq_comm]

end Catalog

theorem Component.displayName_of_mem_variants {document : Node} {variant : Variant}
    (isVariant : variant ∈ (ofNode document).variants) :
    variant.displayName = VariantName.display variant.values := by
  have isSet := (exists_member_of_mem_variants isVariant).1
  rw [variants_ofNode isSet] at isVariant
  obtain ⟨member, _, rfl⟩ := List.mem_map.mp isVariant
  rfl

namespace Catalog

theorem isIdentifier_storyName {document : Node} {variant : Variant}
    (isVariant : variant ∈ (Component.ofNode document).variants) :
    isIdentifier (storyName variant) =
      !startsWithDigit (variant.values.values.flatMap material) := by
  have letters := VariantName.toList_display variant.values
  have isEmpty : VariantName.display variant.values = "" ↔
      variant.values.values.flatMap material = [] := by
    rw [← String.toList_eq_nil_iff, letters]
    simp only [List.flatMap_eq_nil_iff, pascalChars_eq_nil_iff]
  rw [storyName, Component.displayName_of_mem_variants isVariant]
  by_cases empty : variant.values.values.flatMap material = []
  · have madeUp : isIdentifier defaultStory = true := by decide
    simp [isEmpty.mpr empty, empty, madeUp, startsWithDigit]
  · have named : ¬(VariantName.display variant.values).isEmpty = true := by
      rw [String.isEmpty_iff]
      exact mt isEmpty.mp empty
    rw [if_neg named, isIdentifier_of_isPlain (VariantName.isPlain_display _), letters,
      startsWithLetter_flatMap_pascalChars, startsWithLetter_flatMap_material empty]

theorem isPlain_storyName {document : Node} {variant : Variant}
    (isVariant : variant ∈ (Component.ofNode document).variants) :
    IsPlain (storyName variant) := by
  rw [storyName, Component.displayName_of_mem_variants isVariant]
  split
  · exact List.all_eq_true.mp (by decide)
  · exact VariantName.isPlain_display variant.values

theorem startsSmall_storyName {document : Node} {variant : Variant}
    (isVariant : variant ∈ (Component.ofNode document).variants) :
    startsSmall (storyName variant).toList = false := by
  rw [storyName, Component.displayName_of_mem_variants isVariant]
  split
  · decide
  · rw [VariantName.toList_display]
    exact startsSmall_flatMap_pascalChars variant.values.values

theorem startsSmall_of_mem_storyNames {document : Node} {name : String}
    (isStory : name ∈ storyNames (Component.ofNode document)) :
    startsSmall name.toList = false := by
  rcases mem_storyNames.mp isStory with ⟨_, isDefault⟩ | ⟨variant, isVariant, same⟩
  · rw [isDefault]
    decide
  · rw [same]
    exact startsSmall_storyName isVariant

theorem storyName_ne_empty (variant : Variant) : storyName variant ≠ "" := by
  rw [storyName]
  split
  · decide
  · rename_i named
    simpa using named

end Catalog

end DesignToCode
