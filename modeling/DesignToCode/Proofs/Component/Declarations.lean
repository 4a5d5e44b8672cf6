import DesignToCode.Component
import DesignToCode.Proofs.Places
import Mathlib.Data.List.Nodup
import Mathlib.Data.List.TakeWhile

/-!
The properties of a component set.
-/

namespace DesignToCode

namespace Property

/-- The name is the key as far as its first `#`, or all of a key without one. -/
def IsCutFrom (name key : String) : Prop :=
  '#' ∉ name.toList ∧ (key = name ∨ ∃ rest, key = name ++ "#" ++ rest)

/-- The property that a definition stands for. There is none for a swapped instance and for a type
that is not known. -/
inductive DefinedAs : String × PropertyDefinition → Property → Prop
  | variant {key name : String} {default : PropertyValue} {options : Option (List String)}
      (named : IsCutFrom name key) :
      DefinedAs (key, ⟨.variant, default, options⟩)
        ⟨name, .variant, .text default.display, options⟩
  | toggle {key name : String} {default : PropertyValue} {options : Option (List String)}
      (named : IsCutFrom name key) :
      DefinedAs (key, ⟨.toggle, default, options⟩) ⟨name, .toggle, .flag default.isTrue, none⟩
  | text {key name : String} {default : PropertyValue} {options : Option (List String)}
      (named : IsCutFrom name key) :
      DefinedAs (key, ⟨.text, default, options⟩) ⟨name, .text, .text default.display, none⟩

def DefinedAt (definitions : OrderedMap PropertyDefinition) (place : Place)
    (property : Property) : Prop :=
  ∃ index definition, place = [index] ∧ definitions.entries[index]? = some definition ∧
    DefinedAs definition property

def supportedOnly (definitions : OrderedMap PropertyDefinition) : OrderedMap PropertyDefinition :=
  ⟨definitions.entries.filter fun definition =>
      definition.2.type ∈ [PropertyType.variant, .toggle, .text],
    definitions.distinct.sublist (List.filter_sublist.map Prod.fst)⟩

theorem isCutFrom_iff {name key : String} : IsCutFrom name key ↔ nameOfKey key = name := by
  rw [nameOfKey, ← String.toList_inj, String.toList_ofList]
  constructor
  · rintro ⟨uncut, cut⟩
    have kept (c : Char) (found : c ∈ name.toList) : (c != '#') = true := by
      rw [bne_iff_ne]
      rintro rfl
      exact uncut found
    rcases cut with rfl | ⟨rest, rfl⟩
    · exact List.takeWhile_eq_self_iff.mpr kept
    · have written : (name ++ "#" ++ rest).toList = name.toList ++ '#' :: rest.toList := by simp
      rw [written, List.takeWhile_append_of_pos kept]
      simp
  · intro taken
    refine ⟨?_, ?_⟩
    · intro sign
      rw [← taken] at sign
      simpa using List.mem_takeWhile_imp sign
    · have split := List.takeWhile_append_dropWhile (p := (· != '#')) (l := key.toList)
      have next := List.head?_dropWhile_not (· != '#') key.toList
      rw [taken] at split
      cases left : key.toList.dropWhile (· != '#') with
      | nil =>
          rw [left, List.append_nil] at split
          exact Or.inl (String.toList_inj.mp split.symm)
      | cons c rest =>
          rw [left] at next split
          obtain rfl : c = '#' := by simpa using next
          refine Or.inr ⟨String.ofList rest, String.toList_inj.mp ?_⟩
          simp [← split]

theorem ofDefinition?_eq_some_iff {key : String} {definition : PropertyDefinition}
    {property : Property} :
    ofDefinition? key definition = some property ↔ DefinedAs (key, definition) property := by
  constructor
  · intro made
    have named : IsCutFrom (nameOfKey key) key := isCutFrom_iff.mpr rfl
    obtain ⟨type, default, options⟩ := definition
    cases type with
    | variant =>
        cases made
        exact .variant named
    | toggle =>
        cases made
        exact .toggle named
    | text =>
        cases made
        exact .text named
    | instanceSwap => cases made
    | other => cases made
  · rintro (named | named | named) <;> rw [← isCutFrom_iff.mp named] <;> rfl

theorem DefinedAs.options_eq_none {definition : String × PropertyDefinition} {property : Property}
    (defined : DefinedAs definition property) (notVariant : property.kind ≠ .variant) :
    property.options = none := by
  cases defined with
  | variant _ => exact absurd rfl notVariant
  | toggle _ => rfl
  | text _ => rfl

theorem exists_definedAs_of_mem {definitions : OrderedMap PropertyDefinition} {property : Property}
    (declared : property ∈ ofDefinitions definitions) :
    ∃ definition ∈ definitions.entries, DefinedAs definition property := by
  rw [ofDefinitions_eq] at declared
  obtain ⟨definition, isDefinition, made⟩ :=
    List.mem_filterMap.mp (firstWins_sublist.subset declared)
  exact ⟨definition, isDefinition, ofDefinition?_eq_some_iff.mp made⟩

theorem listed_supported (definitions : OrderedMap PropertyDefinition) :
    Listed (DefinedAt definitions) (supported definitions.entries) := by
  refine ((Listed.self definitions.entries).filterMap _).congr fun place property => ?_
  constructor
  · rintro ⟨definition, ⟨index, isPlace, isDefinition⟩, made⟩
    exact ⟨index, definition, isPlace, isDefinition, ofDefinition?_eq_some_iff.mp made⟩
  · rintro ⟨index, definition, isPlace, isDefinition, made⟩
    exact ⟨definition, ⟨index, isPlace, isDefinition⟩, ofDefinition?_eq_some_iff.mpr made⟩

theorem keepsFirst_ofDefinitions (definitions : OrderedMap PropertyDefinition) :
    KeepsFirst identifier (DefinedAt definitions) (ofDefinitions definitions) := by
  rw [ofDefinitions_eq]
  exact (listed_supported definitions).keepsFirst

theorem ofDefinitions_supportedOnly (definitions : OrderedMap PropertyDefinition) :
    ofDefinitions (supportedOnly definitions) = ofDefinitions definitions := by
  rw [ofDefinitions_eq, ofDefinitions_eq]
  congr 1
  rw [supported, supported, supportedOnly, List.filterMap_filter]
  refine List.filterMap_congr fun definition _ => ?_
  obtain ⟨key, type, default, options⟩ := definition
  cases type <;> rfl

end Property

namespace Component

theorem findProperty?_identifier {component : Component}
    (distinct : (component.properties.map Property.identifier).Nodup) {property : Property}
    (declared : property ∈ component.properties) :
    component.findProperty? property.identifier = some property := by
  rw [findProperty?]
  cases found : component.properties.find? (·.identifier == property.identifier) with
  | none =>
      have missed := List.find?_eq_none.mp found property declared
      simp at missed
  | some other =>
      have sameName : other.identifier = property.identifier := by
        simpa using List.find?_some found
      rw [List.inj_on_of_nodup_map distinct (List.mem_of_find?_eq_some found) declared sameName]

theorem properties_ofNode {document : Node} (isSet : document.kind = .componentSet) :
    (ofNode document).properties = Property.ofDefinitions document.properties := by
  rw [ofNode, if_pos isSet]
  rfl

/-- The properties of a set are the first definitions of their identifiers, in order, among those of
the types that properties are made of. Each is found under its identifier. -/
theorem properties_keepsFirst {document : Node} (isSet : document.kind = .componentSet) :
    let component := ofNode document
    KeepsFirst Property.identifier (Property.DefinedAt document.properties)
      component.properties ∧
    (component.properties.map Property.identifier).Nodup ∧
    (∀ property ∈ component.properties,
      component.findProperty? property.identifier = some property ∧
        (property.kind ≠ .variant → property.options = none)) ∧
    (ofNode { document with properties := Property.supportedOnly document.properties }).properties =
      component.properties := by
  intro component
  have properties : component.properties = Property.ofDefinitions document.properties :=
    properties_ofNode isSet
  have keeps : KeepsFirst Property.identifier (Property.DefinedAt document.properties)
      component.properties := properties ▸ Property.keepsFirst_ofDefinitions _
  refine ⟨keeps, keeps.distinct, fun property declared => ⟨?_, ?_⟩, ?_⟩
  · exact findProperty?_identifier keeps.distinct declared
  · rw [properties] at declared
    obtain ⟨_, _, defined⟩ := Property.exists_definedAs_of_mem declared
    exact defined.options_eq_none
  · rw [properties, ← Property.ofDefinitions_supportedOnly]
    exact properties_ofNode isSet

def declaringSet : Node :=
  { Node.blank with
    name := "Chip", type := .componentSet
    properties := .ofList [("Size#1:0", ⟨.variant, .text "Small", some ["Small", "Large"]⟩),
      ("Icon", ⟨.instanceSwap, .text "3:1", none⟩), ("size", ⟨.text, .text "M", none⟩),
      ("icon#2:0", ⟨.toggle, .text " True ", some ["On"]⟩)] }

theorem properties_keepsFirst_declaringSet :
    let size : Property := ⟨"Size", .variant, .text "Small", some ["Small", "Large"]⟩
    let icon : Property := ⟨"icon", .toggle, .flag true, none⟩
    declaringSet.kind = .componentSet ∧
      (ofNode declaringSet).properties = [size, icon] ∧
      (ofNode declaringSet).findProperty? "icon" = some icon ∧
      ∃ places, List.Forall₂ (FirstAt Property.identifier
        (Property.DefinedAt declaringSet.properties)) places [size, icon] := by
  intro size icon
  have isSet : declaringSet.kind = .componentSet := rfl
  obtain ⟨keeps, _, found, _⟩ := properties_keepsFirst isSet
  have declared : (ofNode declaringSet).properties = [size, icon] := by decide +kernel
  rw [declared] at keeps found
  have identifier : icon.identifier = "icon" := by decide +kernel
  have isFound := (found icon (by simp)).1
  rw [identifier] at isFound
  obtain ⟨places, _, firsts⟩ := keeps.ordered
  exact ⟨isSet, declared, isFound, places, firsts⟩

end Component

end DesignToCode
