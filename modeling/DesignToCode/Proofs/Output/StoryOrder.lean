import DesignToCode.Proofs.Output.ExportedNames
import DesignToCode.Proofs.Places
import DesignToCode.Proofs.Text.Trimming

/-!
The stories of a catalog and their order, for any component.
-/

namespace DesignToCode

open DesignToCode.Naming DesignToCode.Text

def SpellsTrue (value : String) : Prop :=
  ∃ before word after, value.toList = before ++ word ++ after ∧
    (∀ c ∈ before ++ after, Text.isBlank c = true) ∧ word.map Char.toLower = ['t', 'r', 'u', 'e']

theorem PropertyValue.isTrue_text_iff (value : String) :
    isTrue (.text value) = true ↔ SpellsTrue value := by
  rw [isTrue, beq_iff_eq]
  constructor
  · intro spelled
    obtain ⟨before, after, split, areBlank⟩ := Text.exists_trimList value.toList
    exact ⟨before, _, after, split, areBlank, spelled⟩
  · rintro ⟨before, word, after, split, areBlank, spelled⟩
    have solid {c : Char} (found : c ∈ word) : Text.isBlank c = false := by
      have letter : c.toLower ∈ ['t', 'r', 'u', 'e'] := spelled ▸ List.mem_map_of_mem found
      refine Bool.eq_false_iff.mpr fun blank => ?_
      rw [Text.toLower_of_isBlank blank] at letter
      have solidLetters : ['t', 'r', 'u', 'e'].all (fun c => !Text.isBlank c) = true := by decide
      simpa [blank] using List.all_eq_true.mp solidLetters c letter
    have nonempty : word ≠ [] := by
      rintro rfl
      cases spelled
    rw [split, Text.trimList_append areBlank]
    · exact spelled
    · exact ⟨word.head nonempty, List.head?_eq_some_head nonempty,
        solid (List.head_mem nonempty)⟩
    · exact ⟨word.getLast nonempty, List.getLast?_eq_some_getLast nonempty,
        solid (List.getLast_mem nonempty)⟩

namespace Component

def HasToggle (component : Component) (identifier : String) : Prop :=
  ∃ property ∈ component.properties,
    property.identifier = identifier ∧ property.kind = .toggle

def FirstIsToggle (component : Component) (identifier : String) : Prop :=
  ∃ before property after, component.properties = before ++ property :: after ∧
    property.identifier = identifier ∧ property.kind = .toggle ∧
    ∀ other ∈ before, other.identifier ≠ identifier

theorem firstIsToggle_iff {component : Component} {identifier : String} :
    component.FirstIsToggle identifier ↔
      ∃ property, component.findProperty? identifier = some property ∧
        property.kind = .toggle := by
  simp only [findProperty?, List.find?_eq_some_iff_append, beq_iff_eq, Bool.not_eq_true',
    beq_eq_false_iff_ne]
  constructor
  · rintro ⟨before, property, after, split, named, isToggle, apart⟩
    exact ⟨property, ⟨named, before, after, split, apart⟩, isToggle⟩
  · rintro ⟨property, ⟨named, before, after, split, apart⟩, isToggle⟩
    exact ⟨before, property, after, split, named, isToggle, apart⟩

end Component

namespace Catalog

/-- The argument for a property of a variant, where `IsToggle` holds of the identifiers whose values
are on or off. -/
inductive ArgumentFor (IsToggle : String → Prop) : String × String → String × Literal → Prop
  | on {key value : String} (isToggle : IsToggle (camelCase key)) (spelled : SpellsTrue value) :
      ArgumentFor IsToggle (key, value) (camelCase key, .flag true)
  | off {key value : String} (isToggle : IsToggle (camelCase key)) (other : ¬SpellsTrue value) :
      ArgumentFor IsToggle (key, value) (camelCase key, .flag false)
  | word {key value : String} (notToggle : ¬IsToggle (camelCase key)) :
      ArgumentFor IsToggle (key, value) (camelCase key, .quoted (lower value))

/-- The story that a variant asks for, at the index of the variant. -/
inductive StoryAt (IsToggle : String → Prop) (component : Component) : Place → Story → Prop
  | intro {index : Nat} {variant : Variant} {arguments : List (String × Literal)}
      (isVariant : component.variants[index]? = some variant)
      (given : List.Forall₂ (ArgumentFor IsToggle) variant.values.entries arguments) :
      StoryAt IsToggle component [index]
        ⟨if variant.displayName = "" then "Default" else variant.displayName, some arguments⟩

theorem ArgumentFor.notToggle {IsToggle : String → Prop} {entry : String × String}
    {given : String × Literal} (argued : ArgumentFor IsToggle entry given) {value : String}
    (isQuoted : given.2 = .quoted value) : ¬IsToggle (camelCase entry.1) := by
  cases argued with
  | on _ _ => cases isQuoted
  | off _ _ => cases isQuoted
  | word notToggle => exact notToggle

theorem StoryAt.exists_variant {IsToggle : String → Prop} {component : Component} {place : Place}
    {story : Story} (asked : StoryAt IsToggle component place story) :
    ∃ variant ∈ component.variants, ∃ arguments, story.args = some arguments ∧
      List.Forall₂ (ArgumentFor IsToggle) variant.values.entries arguments := by
  cases asked with
  | intro isVariant given => exact ⟨_, List.mem_of_getElem? isVariant, _, rfl, given⟩

theorem argument_of_firstIsToggle {component : Component} {key : String}
    (isToggle : component.FirstIsToggle (camelCase key)) (value : String) :
    argument component key value =
      (camelCase key, .flag (PropertyValue.isTrue (.text value))) := by
  obtain ⟨property, found, kind⟩ := Component.firstIsToggle_iff.mp isToggle
  simp [argument, found, kind]

theorem argument_of_not_firstIsToggle {component : Component} {key : String}
    (notToggle : ¬component.FirstIsToggle (camelCase key)) (value : String) :
    argument component key value = (camelCase key, .quoted (lower value)) := by
  refine argument_of_findProperty? (fun property found kind => ?_) value
  exact notToggle (Component.firstIsToggle_iff.mpr ⟨property, found, kind⟩)

theorem argumentFor_iff {component : Component} {entry : String × String}
    {given : String × Literal} :
    ArgumentFor component.FirstIsToggle entry given ↔
      argument component entry.1 entry.2 = given := by
  constructor
  · rintro (⟨isToggle, spelled⟩ | ⟨isToggle, other⟩ | notToggle)
    · rw [argument_of_firstIsToggle isToggle, (PropertyValue.isTrue_text_iff _).mpr spelled]
    · rw [argument_of_firstIsToggle isToggle,
        Bool.eq_false_iff.mpr (mt (PropertyValue.isTrue_text_iff _).mp other)]
    · exact argument_of_not_firstIsToggle notToggle _
  · rintro rfl
    by_cases isToggle : component.FirstIsToggle (camelCase entry.1)
    · rw [argument_of_firstIsToggle isToggle]
      cases read : PropertyValue.isTrue (.text entry.2) with
      | true => exact .on isToggle ((PropertyValue.isTrue_text_iff _).mp read)
      | false =>
          exact .off isToggle (mt (PropertyValue.isTrue_text_iff _).mpr (Bool.eq_false_iff.mp read))
    · rw [argument_of_not_firstIsToggle isToggle]
      exact .word isToggle

theorem forall₂_argumentFor_iff {component : Component} {entries : List (String × String)}
    {arguments : List (String × Literal)} :
    List.Forall₂ (ArgumentFor component.FirstIsToggle) entries arguments ↔
      (entries.map fun entry => argument component entry.1 entry.2) = arguments := by
  have same : ArgumentFor component.FirstIsToggle =
      fun entry given => argument component entry.1 entry.2 = given := by
    funext entry given
    exact propext argumentFor_iff
  rw [same, ← List.forall₂_map_left_iff, List.forall₂_eq_eq_eq]

theorem listed_stories (component : Component) :
    Listed (StoryAt component.FirstIsToggle component)
      (component.variants.map (storyOf component)) := by
  refine ((Listed.self component.variants).map _).congr fun place story => ?_
  constructor
  · rintro ⟨variant, ⟨index, rfl, isVariant⟩, rfl⟩
    have given : List.Forall₂ (ArgumentFor component.FirstIsToggle) variant.values.entries _ :=
      forall₂_argumentFor_iff.mpr rfl
    simpa only [storyOf, storyName, defaultStory, String.isEmpty_iff] using
      StoryAt.intro isVariant given
  · rintro ⟨isVariant, given⟩
    refine ⟨_, ⟨_, rfl, isVariant⟩, ?_⟩
    rw [← forall₂_argumentFor_iff.mp given, storyOf, storyName]
    simp only [defaultStory, String.isEmpty_iff]

theorem keepsFirst_stories {component : Component} (hasVariants : component.variants ≠ []) :
    KeepsFirst Story.name (StoryAt component.FirstIsToggle component) (stories component) := by
  have kept : KeepsFirst Story.name (StoryAt component.FirstIsToggle component) _ :=
    (listed_stories component).keepsFirst
  rw [firstWins_map] at kept
  rw [stories, if_neg (by simpa using hasVariants), firstOfEach_eq]
  exact kept

theorem tells_of_mem_stories (name : String) {component : Component} (url : String)
    (settings : Settings) {story : Story} {arguments : List (String × Literal)}
    (isStory : story ∈ stories component) (given : story.args = some arguments) :
    Tells story.name (render name component url settings) arguments := by
  obtain ⟨variant, isTold, rfl⟩ := exists_told_of_mem_stories isStory given
  cases given
  exact tells_render name component url settings isTold

/-- A catalog exports its stories by name and nothing else: one for each name of a variant, with the
arguments for the first variant of the name, or the default story if there are no variants. -/
theorem stories_keepsFirst (name : String) (component : Component) (url : String)
    (settings : Settings) :
    let text := render name component url settings
    text = lined (headLines name component url settings) ++
      join "\n" ((stories component).map storyText) ∧
    ('\n' ∉ name.toList →
      (∀ story ∈ stories component, '\n' ∉ story.name.toList ∧ ':' ∉ story.name.toList) →
        ModuleReader.exportedNames text = (stories component).map Story.name) ∧
    (component.variants = [] → stories component = [⟨"Default", none⟩]) ∧
    (component.variants ≠ [] →
      KeepsFirst Story.name (StoryAt component.FirstIsToggle component) (stories component)) ∧
    ∀ story ∈ stories component, ∀ arguments, story.args = some arguments →
      Tells story.name text arguments := by
  intro text
  refine ⟨render_eq name component url settings, ?_, ?_, keepsFirst_stories, ?_⟩
  · intro unbroken named
    exact exportedNames_render unbroken named url settings
  · intro noVariants
    rw [stories, noVariants]
    rfl
  · intro story isStory arguments given
    exact tells_of_mem_stories name url settings isStory given

def switchChip : Component :=
  let chip : Element := ⟨.block, "chip", .empty, none, [], "Chip"⟩
  ⟨chip, [⟨"Disabled", .toggle, .flag false, none⟩], [
    ⟨"", .ofList [("Disabled", " TRUE ")], chip⟩,
    ⟨"Default", .ofList [("Disabled", "Off")], chip⟩,
    ⟨"Large", .ofList [("Size", "LARGE"), ("disabled", "Yes")], chip⟩]⟩

theorem stories_switchChip : stories switchChip = [
    ⟨"Default", some [("disabled", .flag true)]⟩,
    ⟨"Large", some [("size", .quoted "large"), ("disabled", .flag false)]⟩] := by
  decide +kernel

theorem stories_keepsFirst_switchChip :
    let url := "https://www.figma.com/design/ABC123?node-id=1-1"
    let default : Story := ⟨"Default", some [("disabled", .flag true)]⟩
    let plainChip := { switchChip with variants := [] }
    switchChip.variants ≠ [] ∧ default ∈ stories switchChip ∧
      ModuleReader.exportedNames (render "Chip" switchChip url .standard) = ["Default", "Large"] ∧
      (∃ place, FirstAt Story.name (StoryAt switchChip.FirstIsToggle switchChip) place default) ∧
      Tells "Default" (render "Chip" switchChip url .standard) [("disabled", .flag true)] ∧
      render "Chip" plainChip url .standard =
        lined (headLines "Chip" plainChip url .standard) ++
          "export const Default: Story = \x7b\x7d;\n" := by
  intro url default plainChip
  obtain ⟨_, exported, _, keeps, tells⟩ := stories_keepsFirst "Chip" switchChip url .standard
  obtain ⟨written, _, alone, _, _⟩ := stories_keepsFirst "Chip" plainChip url .standard
  have hasVariants : switchChip.variants ≠ [] := List.cons_ne_nil _ _
  rw [stories_switchChip] at exported tells
  have isStory : default ∈ stories switchChip := by
    rw [stories_switchChip]
    exact List.mem_cons_self
  refine ⟨hasVariants, isStory, exported (by decide) (by decide), ?_,
    tells default List.mem_cons_self _ rfl, ?_⟩
  · obtain ⟨places, _, firsts⟩ := (keeps hasVariants).ordered
    rw [stories_switchChip] at firsts
    cases firsts with
    | cons first _ => exact ⟨_, first⟩
  · rw [written, alone rfl]
    rfl

def twinChip : Component :=
  let chip : Element := ⟨.block, "chip", .empty, none, [], "Chip"⟩
  ⟨chip, [⟨"Disabled", .text, .text "No", none⟩, ⟨"disabled", .toggle, .flag false, none⟩],
    [⟨"Off", .ofList [("Disabled", "true")], chip⟩]⟩

theorem not_keepsFirst_twinChip :
    twinChip.variants ≠ [] ∧ twinChip.HasToggle (camelCase "Disabled") ∧
      stories twinChip = [⟨"Off", some [("disabled", .quoted "true")]⟩] ∧
      ¬KeepsFirst Story.name (StoryAt twinChip.HasToggle twinChip) (stories twinChip) := by
  have hasToggle : twinChip.HasToggle (camelCase "Disabled") :=
    ⟨_, List.mem_cons_of_mem _ List.mem_cons_self, by rfl, rfl⟩
  have told : stories twinChip = [⟨"Off", some [("disabled", .quoted "true")]⟩] := by
    decide +kernel
  refine ⟨List.cons_ne_nil _ _, hasToggle, told, fun keeps => ?_⟩
  obtain ⟨places, _, firsts⟩ := keeps.ordered
  rw [told] at firsts
  cases firsts with
  | cons first _ =>
      obtain ⟨variant, isVariant, arguments, same, given⟩ := first.here.exists_variant
      rw [List.mem_singleton.mp isVariant] at given
      cases same
      cases given with
      | cons argued _ => exact argued.notToggle rfl hasToggle

end Catalog

end DesignToCode
