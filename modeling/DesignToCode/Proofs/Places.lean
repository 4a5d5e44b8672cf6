import DesignToCode.Proofs.FirstWins
import Mathlib.Data.List.Forall2
import Mathlib.Data.List.Induction

/-!
Places of items in nested lists.
-/

namespace DesignToCode

/-- The index in each list, the outermost first. Places come in the order of a dictionary: a list
comes before what is in it, and all that before its next neighbour. -/
abbrev Place := List Nat

def Listed {α : Type} (stands : Place → α → Prop) (items : List α) : Prop :=
  ∃ table : List (Place × α), table.Pairwise (fun entry later => entry.1 < later.1) ∧
    (∀ place item, (place, item) ∈ table ↔ stands place item) ∧ table.map Prod.snd = items

/-- An item of one of the sources, at the index of the source and then at its place there. -/
def Within {α β : Type} (sources : List β) (standsIn : β → Place → α → Prop) (place : Place)
    (item : α) : Prop :=
  ∃ index source rest, place = index :: rest ∧ sources[index]? = some source ∧
    standsIn source rest item

structure FirstAt {α : Type} (key : α → String) (stands : Place → α → Prop) (place : Place)
    (item : α) : Prop where
  here : stands place item
  first : ∀ earlier other, earlier < place → stands earlier other → key other ≠ key item

/-- For each key that stands somewhere there is one item, the one at the first place of the key, and
the items are in the order of these places. -/
structure KeepsFirst {α : Type} (key : α → String) (stands : Place → α → Prop)
    (kept : List α) : Prop where
  distinct : (kept.map key).Nodup
  complete : ∀ place item, stands place item → key item ∈ kept.map key
  ordered : ∃ places : List Place, places.Pairwise (· < ·) ∧
    List.Forall₂ (FirstAt key stands) places kept

namespace Listed

variable {α β : Type} {stands : Place → α → Prop} {items : List α}

theorem congr {other : Place → α → Prop} (listed : Listed stands items)
    (same : ∀ place item, stands place item ↔ other place item) : Listed other items := by
  obtain ⟨table, sorted, found, shown⟩ := listed
  exact ⟨table, sorted, fun place item => (found place item).trans (same place item), shown⟩

theorem nil (nothing : ∀ place item, ¬stands place item) : Listed stands [] :=
  ⟨[], List.Pairwise.nil, by simpa using nothing, rfl⟩

theorem cons (first : α) (listed : Listed stands items) (inner : ∀ item, ¬stands [] item) :
    Listed (fun place item => place = [] ∧ item = first ∨ stands place item) (first :: items) := by
  obtain ⟨table, sorted, found, shown⟩ := listed
  refine ⟨([], first) :: table, ?_, ?_, by simp [shown]⟩
  · rw [List.pairwise_cons]
    refine ⟨?_, sorted⟩
    rintro ⟨place, item⟩ isEntry
    cases place with
    | nil => exact absurd ((found [] item).mp isEntry) (inner item)
    | cons index rest => exact List.nil_lt_cons index rest
  · intro place item
    simp only [List.mem_cons, Prod.mk.injEq, found]

theorem filter (listed : Listed stands items) (keeps : α → Bool) :
    Listed (fun place item => stands place item ∧ keeps item = true) (items.filter keeps) := by
  obtain ⟨table, sorted, found, rfl⟩ := listed
  refine ⟨table.filter fun entry => keeps entry.2, sorted.filter _, ?_, ?_⟩
  · intro place item
    rw [List.mem_filter, found]
  · rw [List.filter_map]
    rfl

theorem map (listed : Listed stands items) (made : α → β) :
    Listed (fun place item => ∃ source, stands place source ∧ made source = item)
      (items.map made) := by
  obtain ⟨table, sorted, found, rfl⟩ := listed
  refine ⟨table.map fun entry => (entry.1, made entry.2), ?_, ?_, ?_⟩
  · rw [List.pairwise_map]
    exact sorted
  · intro place item
    simp only [List.mem_map, Prod.mk.injEq, Prod.exists, found]
    constructor
    · rintro ⟨_, source, isEntry, rfl, rfl⟩
      exact ⟨source, isEntry, rfl⟩
    · rintro ⟨source, isEntry, rfl⟩
      exact ⟨place, source, isEntry, rfl, rfl⟩
  · rw [List.map_map, List.map_map]
    rfl

theorem filterMap (listed : Listed stands items) (made? : α → Option β) :
    Listed (fun place item => ∃ source, stands place source ∧ made? source = some item)
      (items.filterMap made?) := by
  obtain ⟨table, sorted, found, rfl⟩ := listed
  refine ⟨table.filterMap fun entry => (made? entry.2).map fun item => (entry.1, item),
    ?_, ?_, ?_⟩
  · rw [List.pairwise_filterMap]
    refine sorted.imp fun before => ?_
    simp only [Option.map_eq_some_iff]
    rintro _ ⟨_, _, rfl⟩ _ ⟨_, _, rfl⟩
    exact before
  · intro place item
    simp only [List.mem_filterMap, Option.map_eq_some_iff, Prod.mk.injEq, Prod.exists, found]
    constructor
    · rintro ⟨_, source, isEntry, _, isMade, rfl, rfl⟩
      exact ⟨source, isEntry, isMade⟩
    · rintro ⟨source, isEntry, isMade⟩
      exact ⟨place, source, isEntry, item, isMade, rfl, rfl⟩
  · rw [List.map_filterMap, List.filterMap_map]
    refine List.filterMap_congr fun entry _ => ?_
    rw [Option.map_map]
    exact Option.map_id'

theorem flatMap (sources : List β) {itemsOf : β → List α} {standsIn : β → Place → α → Prop}
    (each : ∀ source ∈ sources, Listed (standsIn source) (itemsOf source)) :
    Listed (Within sources standsIn) (sources.flatMap itemsOf) := by
  -- From the end, so that the indices of the earlier sources stay what they are.
  induction sources using List.reverseRecOn with
  | nil =>
      refine nil ?_
      rintro place item ⟨index, source, rest, _, isSource, _⟩
      simp at isSource
  | append_singleton earlier last ih =>
      obtain ⟨table, sorted, found, shown⟩ :=
        ih fun source isSource => each source (List.mem_append_left _ isSource)
      obtain ⟨lastTable, lastSorted, lastFound, lastShown⟩ := each last (by simp)
      refine ⟨table ++ lastTable.map fun entry => (earlier.length :: entry.1, entry.2), ?_, ?_, ?_⟩
      · rw [List.pairwise_append, List.pairwise_map]
        refine ⟨sorted, lastSorted.imp fun before => List.cons_lt_cons_iff.mpr (by simp [before]),
          ?_⟩
        rintro ⟨place, item⟩ isEntry later isLater
        obtain ⟨index, source, rest, rfl, isSource, _⟩ := (found place item).mp isEntry
        obtain ⟨entry, _, rfl⟩ := List.mem_map.mp isLater
        have bound := (List.getElem?_eq_some_iff.mp isSource).1
        exact List.cons_lt_cons_iff.mpr (Or.inl bound)
      · intro place item
        rw [List.mem_append, found, List.mem_map]
        constructor
        · rintro (⟨index, source, rest, rfl, isSource, stands⟩ | ⟨entry, isEntry, same⟩)
          · have bound := (List.getElem?_eq_some_iff.mp isSource).1
            refine ⟨index, source, rest, rfl, ?_, stands⟩
            rw [List.getElem?_append_left bound, isSource]
          · cases same
            exact ⟨earlier.length, last, entry.1, rfl, List.getElem?_concat_length,
              (lastFound _ _).mp isEntry⟩
        · rintro ⟨index, source, rest, rfl, isSource, stands⟩
          by_cases bound : index < earlier.length
          · rw [List.getElem?_append_left bound] at isSource
            exact Or.inl ⟨index, source, rest, rfl, isSource, stands⟩
          · have isLast : index = earlier.length := by
              have inside := (List.getElem?_eq_some_iff.mp isSource).1
              simp only [List.length_append, List.length_singleton] at inside
              omega
            subst index
            rw [List.getElem?_concat_length] at isSource
            cases isSource
            exact Or.inr ⟨(rest, item), (lastFound rest item).mpr stands, rfl⟩
      · simp [shown, lastShown, Function.comp_def]

theorem self (items : List α) :
    Listed (fun place item => ∃ index, place = [index] ∧ items[index]? = some item) items := by
  have each (source : α) : Listed (fun place item => place = [] ∧ item = source) [source] := by
    have single := cons source (nil fun _ _ => not_false) fun _ => not_false
    simpa using single
  have whole := flatMap items fun source _ => each source
  rw [List.flatMap_singleton'] at whole
  refine whole.congr fun place item => ?_
  constructor
  · rintro ⟨index, source, rest, rfl, isSource, rfl, rfl⟩
    exact ⟨index, rfl, isSource⟩
  · rintro ⟨index, rfl, isItem⟩
    exact ⟨index, item, [], rfl, isItem, rfl, rfl⟩

end Listed

section

variable {α β : Type} {key : α → String} {stands : Place → α → Prop} {items : List α}

theorem firstWins_map (made : β → α) (seen : List String) (sources : List β) :
    firstWins key seen (sources.map made) =
      (firstWins (fun source => key (made source)) seen sources).map made := by
  induction sources generalizing seen with
  | nil => rfl
  | cons first rest ih =>
      rw [List.map_cons, firstWins, firstWins]
      split
      · exact ih seen
      · rw [ih, List.map_cons]

theorem mem_firstWins {seen : List String} {item : α} (kept : item ∈ firstWins key seen items) :
    ∃ before after, items = before ++ item :: after ∧ ∀ other ∈ before, key other ≠ key item := by
  induction items generalizing seen with
  | nil => cases kept
  | cons first rest ih =>
      have unseen := not_seen_of_mem_firstWins kept
      rw [firstWins] at kept
      split at kept
      · rename_i again
        obtain ⟨before, after, rfl, apart⟩ := ih kept
        refine ⟨first :: before, after, rfl, ?_⟩
        rintro other (_ | ⟨_, isOther⟩)
        · intro same
          exact unseen (same ▸ by simpa using again)
        · exact apart other isOther
      · rcases List.mem_cons.mp kept with rfl | later
        · exact ⟨[], rest, rfl, by simp⟩
        · obtain ⟨before, after, rfl, apart⟩ := ih later
          refine ⟨first :: before, after, rfl, ?_⟩
          rintro other (_ | ⟨_, isOther⟩)
          · intro same
            exact not_seen_of_mem_firstWins later (same ▸ List.mem_cons_self)
          · exact apart other isOther

theorem Listed.keepsFirst (listed : Listed stands items) :
    KeepsFirst key stands (firstWins key [] items) := by
  obtain ⟨table, sorted, found, rfl⟩ := listed
  let kept := firstWins (fun entry : Place × α => key entry.2) [] table
  have first (entry : Place × α) (isKept : entry ∈ kept) : FirstAt key stands entry.1 entry.2 := by
    obtain ⟨before, after, split, apart⟩ := mem_firstWins isKept
    refine ⟨(found _ _).mp (firstWins_sublist.subset isKept), ?_⟩
    intro earlier other before' stands
    have isEntry := (found earlier other).mpr stands
    rw [split, List.mem_append] at isEntry
    rcases isEntry with inBefore | notBefore
    · exact apart _ inBefore
    · -- The table is sorted, so an entry from here on has no earlier place.
      rw [split, List.pairwise_append] at sorted
      rcases List.mem_cons.mp notBefore with same | inAfter
      · rw [← same] at before'
        exact absurd before' (List.lt_irrefl earlier)
      · have behind := (List.pairwise_cons.mp sorted.2.1).1 _ inAfter
        exact absurd before' (List.lt_asymm behind)
  rw [firstWins_map]
  refine ⟨?_, ?_, kept.map Prod.fst, ?_, ?_⟩
  · rw [List.map_map]
    exact nodup_map_firstWins
  · intro place item stands
    have isEntry := (found place item).mpr stands
    have isKey : key item ∈ kept.map fun entry => key entry.2 :=
      mem_map_firstWins.mpr (List.mem_map_of_mem isEntry)
    rwa [List.map_map]
  · rw [List.pairwise_map]
    exact sorted.sublist firstWins_sublist
  · rw [List.forall₂_map_left_iff, List.forall₂_map_right_iff, List.forall₂_same]
    exact first

end

end DesignToCode
