import DesignToCode.Component.Property
import DesignToCode.Output.Catalog
import DesignToCode.Output.Stylesheet

/-!
Lists in which the first of several items with one key wins.
-/

namespace DesignToCode

/-- The first item of each key; the keys in `seen` have come before. -/
def firstWins {α : Type} (key : α → String) (seen : List String) : List α → List α
  | [] => []
  | item :: rest =>
    if seen.contains (key item) then firstWins key seen rest
    else item :: firstWins key (key item :: seen) rest

section

variable {α : Type} {key : α → String} {seen : List String} {items : List α} {item : α}

theorem firstWins_sublist : (firstWins key seen items).Sublist items := by
  induction items generalizing seen with
  | nil => exact List.Sublist.refl []
  | cons first rest ih =>
      rw [firstWins]
      split
      · exact ih.cons first
      · exact ih.cons_cons first

theorem not_seen_of_mem_firstWins (kept : item ∈ firstWins key seen items) : key item ∉ seen := by
  induction items generalizing seen with
  | nil => simp [firstWins] at kept
  | cons first rest ih =>
      rw [firstWins] at kept
      by_cases again : seen.contains (key first) = true
      · rw [if_pos again] at kept
        exact ih kept
      · rw [if_neg again, List.mem_cons] at kept
        rcases kept with same | later
        · rw [same]
          simpa using again
        · have fresh := ih later
          simp only [List.mem_cons, not_or] at fresh
          exact fresh.2

theorem nodup_map_firstWins : ((firstWins key seen items).map key).Nodup := by
  induction items generalizing seen with
  | nil => simp [firstWins]
  | cons first rest ih =>
      rw [firstWins]
      split
      · exact ih
      · rw [List.map_cons, List.nodup_cons]
        refine ⟨?_, ih⟩
        intro again
        obtain ⟨other, kept, same⟩ := List.mem_map.mp again
        have fresh := not_seen_of_mem_firstWins kept
        rw [same] at fresh
        exact fresh List.mem_cons_self

theorem key_mem_firstWins (member : item ∈ items) :
    key item ∈ seen ∨ key item ∈ (firstWins key seen items).map key := by
  induction items generalizing seen with
  | nil => cases member
  | cons first rest ih =>
      rw [firstWins]
      by_cases again : seen.contains (key first) = true
      · rw [if_pos again]
        rcases List.mem_cons.mp member with same | later
        · rw [same]
          exact Or.inl (by simpa using again)
        · exact ih later
      · rw [if_neg again, List.map_cons, List.mem_cons]
        rcases List.mem_cons.mp member with same | later
        · exact Or.inr (Or.inl (congrArg key same))
        · rcases @ih (key first :: seen) later with before | kept
          · rcases List.mem_cons.mp before with same | old
            · exact Or.inr (Or.inl same)
            · exact Or.inl old
          · exact Or.inr (Or.inr kept)

theorem filter_firstWins {name : String} (unseen : name ∉ seen) :
    (firstWins key seen items).filter (fun item => key item == name) =
      (items.find? fun item => key item == name).toList := by
  induction items generalizing seen with
  | nil => rfl
  | cons first rest ih =>
      rw [firstWins]
      by_cases again : seen.contains (key first) = true
      · have different : (key first == name) = false := by
          rw [beq_eq_false_iff_ne]
          intro same
          rw [same] at again
          exact unseen (by simpa using again)
        rw [if_pos again, List.find?_cons, different]
        exact ih unseen
      · rw [if_neg again]
        by_cases same : key first = name
        · subst name
          have noMore : (firstWins key (key first :: seen) rest).filter
              (fun item => key item == key first) = [] := by
            rw [List.filter_eq_nil_iff]
            intro other kept equal
            have fresh := not_seen_of_mem_firstWins kept
            rw [beq_iff_eq.mp equal] at fresh
            exact fresh List.mem_cons_self
          simp only [List.filter_cons, List.find?_cons, beq_self_eq_true, if_true, noMore,
            Option.toList_some]
        · have stillUnseen : name ∉ key first :: seen := by
            simp only [List.mem_cons, not_or]
            exact ⟨Ne.symm same, unseen⟩
          have different : (key first == name) = false := beq_eq_false_iff_ne.mpr same
          rw [List.filter_cons, different, List.find?_cons, different]
          exact ih stillUnseen

theorem mem_map_firstWins {name : String} :
    name ∈ (firstWins key [] items).map key ↔ name ∈ items.map key := by
  constructor
  · intro found
    exact (firstWins_sublist.map key).subset found
  · intro found
    obtain ⟨item, member, rfl⟩ := List.mem_map.mp found
    have kept : key item ∈ [] ∨ key item ∈ (firstWins key [] items).map key :=
      key_mem_firstWins member
    exact kept.resolve_left List.not_mem_nil

end

theorem Stylesheet.firstOfEach_eq (written : List String) (rules : List StyleRule) :
    firstOfEach written rules = firstWins StyleRule.className written rules := by
  induction rules generalizing written with
  | nil => rfl
  | cons rule rest ih => simp only [firstOfEach, firstWins, ih]

theorem Catalog.firstOfEach_eq (seen : List String) (variants : List Variant) :
    firstOfEach seen variants = firstWins storyName seen variants := by
  induction variants generalizing seen with
  | nil => rfl
  | cons variant rest ih => simp only [firstOfEach, firstWins, ih]

namespace Property

def supported (definitions : List (String × PropertyDefinition)) : List Property :=
  definitions.filterMap fun definition => ofDefinition? definition.1 definition.2

theorem filterMap_rulings (seen : List String) (definitions : List (String × PropertyDefinition)) :
    (rulings seen definitions).filterMap Ruling.property? =
      firstWins identifier seen (supported definitions) := by
  induction definitions generalizing seen with
  | nil => rfl
  | cons definition rest ih =>
      obtain ⟨key, value⟩ := definition
      cases made : ofDefinition? key value with
      | none =>
          simp only [rulings, made, supported, List.filterMap_cons, Ruling.property?] at ih ⊢
          exact ih seen
      | some property =>
          simp only [rulings, made, supported, List.filterMap_cons, firstWins] at ih ⊢
          split
          · exact ih seen
          · exact congrArg (property :: ·) (ih (property.identifier :: seen))

theorem ofDefinitions_eq (definitions : OrderedMap PropertyDefinition) :
    ofDefinitions definitions = firstWins identifier [] (supported definitions.entries) :=
  filterMap_rulings [] definitions.entries

end Property

theorem Component.mem_identifiers {document : Node} {name : String} :
    name ∈ (ofNode document).properties.map Property.identifier ↔
      document.kind = .componentSet ∧
        ∃ property ∈ Property.supported document.properties.entries,
          property.identifier = name := by
  rw [ofNode]
  by_cases isSet : document.kind = .componentSet
  · simp only [isSet, if_true, true_and]
    rw [ofSet, Property.ofDefinitions_eq, mem_map_firstWins, List.mem_map]
  · simp [isSet]

theorem Component.nodup_identifiers (document : Node) :
    ((ofNode document).properties.map Property.identifier).Nodup := by
  rw [ofNode]
  split
  · rw [ofSet, Property.ofDefinitions_eq]
    exact nodup_map_firstWins
  · exact List.nodup_nil

end DesignToCode
