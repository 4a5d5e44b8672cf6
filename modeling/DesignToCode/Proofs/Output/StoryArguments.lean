import DesignToCode.Proofs.OrderedMap
import DesignToCode.Proofs.Output.StoryOrder
import Mathlib.Data.List.Nodup

/-!
The names of the arguments of a story.
-/

namespace DesignToCode

open DesignToCode.Naming

def VariantName.KeysApart (name : String) : Prop :=
  ∀ key ∈ (parse name).keys, ∀ other ∈ (parse name).keys,
    camelCase key = camelCase other → key = other

instance (name : String) : Decidable (VariantName.KeysApart name) :=
  inferInstanceAs (Decidable (∀ key ∈ (VariantName.parse name).keys,
    ∀ other ∈ (VariantName.parse name).keys, camelCase key = camelCase other → key = other))

namespace Catalog

/-- What a story passes on. Of the arguments of one name the last one counts. -/
def passed (arguments : List (String × Literal)) : OrderedMap Literal :=
  .ofList arguments

variable {IsToggle : String → Prop}

theorem ArgumentFor.name {entry : String × String} {given : String × Literal}
    (argued : ArgumentFor IsToggle entry given) : given.1 = camelCase entry.1 := by
  cases argued with
  | on _ _ => rfl
  | off _ _ => rfl
  | word _ => rfl

theorem argumentNames_eq {entries : List (String × String)} {arguments : List (String × Literal)}
    (given : List.Forall₂ (ArgumentFor IsToggle) entries arguments) :
    arguments.map Prod.fst = (entries.map Prod.fst).map camelCase := by
  induction given with
  | nil => rfl
  | cons first _ ih => simp only [List.map_cons, first.name, ih]

theorem nodup_argumentNames_iff {name : String} {arguments : List (String × Literal)}
    (given : List.Forall₂ (ArgumentFor IsToggle) (VariantName.parse name).entries arguments) :
    (arguments.map Prod.fst).Nodup ↔ VariantName.KeysApart name := by
  rw [argumentNames_eq given]
  exact List.nodup_map_iff_inj_on (VariantName.parse name).distinct

end Catalog

theorem Component.exists_member_of_mem_stories {document : Node} {story : Story}
    {arguments : List (String × Literal)} (isStory : story ∈ Catalog.stories (ofNode document))
    (given : story.args = some arguments) :
    ∃ member ∈ members document, List.Forall₂ (Catalog.ArgumentFor (ofNode document).FirstIsToggle)
      (VariantName.parse member.name).entries arguments := by
  obtain ⟨variant, isTold, rfl⟩ := Catalog.exists_told_of_mem_stories isStory given
  cases given
  rw [Catalog.firstOfEach_eq] at isTold
  obtain ⟨_, member, isMember, values⟩ :=
    exists_member_of_mem_variants (firstWins_sublist.subset isTold)
  refine ⟨member, isMember, ?_⟩
  rw [← values, Catalog.forall₂_argumentFor_iff]

theorem Artifacts.tells_generate {document : Node} {story : Story}
    {arguments : List (String × Literal)} (url : String) (settings : Settings)
    (isStory : story ∈ Catalog.stories (Component.ofNode document))
    (given : story.args = some arguments) :
    Tells story.name (generate document url settings).catalog.content arguments :=
  Catalog.tells_of_mem_stories _ url settings isStory given

/-- The names of the arguments of a story differ exactly if no two properties in the name of its
member have the same identifier. -/
theorem argumentNames_distinct_iff (document : Node) (url : String) (settings : Settings) :
    let component := Component.ofNode document
    let artifacts := Artifacts.generate document url settings
    ∀ story ∈ Catalog.stories component, ∀ arguments, story.args = some arguments →
      Tells story.name artifacts.catalog.content arguments ∧
      ∃ member ∈ Component.members document,
        List.Forall₂ (Catalog.ArgumentFor component.FirstIsToggle)
          (VariantName.parse member.name).entries arguments ∧
        ((arguments.map Prod.fst).Nodup ↔ VariantName.KeysApart member.name) ∧
        ((Catalog.passed arguments).entries = arguments ↔ VariantName.KeysApart member.name) := by
  intro component artifacts story isStory arguments given
  obtain ⟨member, isMember, argued⟩ := Component.exists_member_of_mem_stories isStory given
  have names := Catalog.nodup_argumentNames_iff argued
  exact ⟨Artifacts.tells_generate url settings isStory given, member, isMember, argued, names,
    OrderedMap.entries_ofList_iff.trans names⟩

def memberSet (name : String) : Node :=
  { Node.blank with
    name := "Chip", type := .componentSet
    children := [{ Node.blank with name, type := .component }] }

theorem argumentNames_distinct_iff_memberSet :
    let url := "https://www.figma.com/design/ABC123/Kit?node-id=11-4"
    let document := memberSet "Size=Large, Kind=Primary"
    let arguments := [("size", .quoted "large"), ("kind", .quoted "primary")]
    ⟨"LargePrimary", some arguments⟩ ∈ Catalog.stories (Component.ofNode document) ∧
      Tells "LargePrimary" (Artifacts.generate document url .standard).catalog.content arguments ∧
      (arguments.map Prod.fst).Nodup ∧ (Catalog.passed arguments).entries = arguments := by
  intro url document arguments
  have told : Catalog.stories (Component.ofNode document) = [⟨"LargePrimary", some arguments⟩] := by
    rfl
  have isStory : ⟨"LargePrimary", some arguments⟩ ∈ Catalog.stories (Component.ofNode document) := by
    rw [told]
    exact List.mem_singleton_self _
  obtain ⟨tells, member, isMember, _, names, kept⟩ :=
    argumentNames_distinct_iff document url .standard _ isStory arguments rfl
  have apart : VariantName.KeysApart member.name := by
    rw [List.mem_singleton.mp isMember]
    decide
  exact ⟨isStory, tells, names.mpr apart, kept.mpr apart⟩

theorem not_nodup_memberSet :
    let url := "https://www.figma.com/design/ABC123/Kit?node-id=11-4"
    let document := memberSet "Size=Large, size=Small"
    let arguments := [("size", .quoted "large"), ("size", .quoted "small")]
    ⟨"LargeSmall", some arguments⟩ ∈ Catalog.stories (Component.ofNode document) ∧
      Tells "LargeSmall" (Artifacts.generate document url .standard).catalog.content arguments ∧
      ¬(arguments.map Prod.fst).Nodup ∧
      (Catalog.passed arguments).entries = [("size", .quoted "small")] := by
  intro url document arguments
  have told : Catalog.stories (Component.ofNode document) = [⟨"LargeSmall", some arguments⟩] := by
    rfl
  have isStory : ⟨"LargeSmall", some arguments⟩ ∈ Catalog.stories (Component.ofNode document) := by
    rw [told]
    exact List.mem_singleton_self _
  have tells := Artifacts.tells_generate url .standard isStory rfl
  exact ⟨isStory, tells, by decide, by rfl⟩

end DesignToCode
