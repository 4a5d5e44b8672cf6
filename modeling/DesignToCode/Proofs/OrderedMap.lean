import DesignToCode.OrderedMap
import Mathlib.Data.List.Induction

/-!
What is found in an ordered map after an operation on it, and in which order its keys stand.
-/

namespace DesignToCode.OrderedMap

variable {α : Type}

theorem lookup_cons (key other : String) (value : α) (rest : List (String × α)) :
    List.lookup other ((key, value) :: rest) =
      if other = key then some value else rest.lookup other := by
  by_cases same : other = key
  · rw [List.lookup_cons, if_pos same, beq_iff_eq.mpr same]
  · rw [List.lookup_cons, if_neg same, beq_eq_false_iff_ne.mpr same]

theorem lookup_eq_none {key : String} {entries : List (String × α)}
    (absent : key ∉ entries.map Prod.fst) : entries.lookup key = none := by
  rw [List.lookup_eq_none_iff]
  intro entry found
  rw [bne_iff_ne]
  rintro rfl
  exact absent (List.mem_map_of_mem found)

theorem lookup_put (key other : String) (value : α) (entries : List (String × α)) :
    (put key value entries).lookup other =
      if other = key then some value else entries.lookup other := by
  induction entries with
  | nil => exact lookup_cons key other value []
  | cons entry rest ih =>
      obtain ⟨held, old⟩ := entry
      rw [put, lookup_cons held]
      by_cases here : held = key
      · subst held
        rw [if_pos rfl, lookup_cons]
        by_cases same : other = key
        · rw [if_pos same, if_pos same]
        · rw [if_neg same, if_neg same, if_neg same]
      · rw [if_neg here, lookup_cons, ih]
        by_cases same : other = held
        · rw [if_pos same, if_pos same, if_neg (same ▸ here)]
        · rw [if_neg same, if_neg same]

theorem get?_insert (map : OrderedMap α) (key other : String) (value : α) :
    (map.insert key value).get? other = if other = key then some value else map.get? other :=
  lookup_put key other value map.entries

theorem get?_insertAll (map : OrderedMap α) {entries : List (String × α)}
    (distinct : (entries.map Prod.fst).Nodup) (key : String) :
    (map.insertAll entries).get? key = (entries.lookup key).or (map.get? key) := by
  induction entries generalizing map with
  | nil => rfl
  | cons entry rest ih =>
      obtain ⟨first, value⟩ := entry
      rw [List.map_cons, List.nodup_cons] at distinct
      rw [insertAll, List.foldl_cons, ← insertAll, ih _ distinct.2, get?_insert, lookup_cons]
      by_cases same : key = first
      · rw [same, lookup_eq_none distinct.1, if_pos rfl, if_pos rfl]
        rfl
      · rw [if_neg same, if_neg same]

theorem get?_merge (map other : OrderedMap α) (key : String) :
    (map.merge other).get? key = (other.get? key).or (map.get? key) :=
  get?_insertAll map other.distinct key

theorem lookup_filter {entries : List (String × α)} (distinct : (entries.map Prod.fst).Nodup)
    (kept : String × α → Bool) (key : String) :
    (entries.filter kept).lookup key =
      (entries.lookup key).filter fun value => kept (key, value) := by
  induction entries with
  | nil => rfl
  | cons entry rest ih =>
      obtain ⟨first, value⟩ := entry
      rw [List.map_cons, List.nodup_cons] at distinct
      rw [List.filter_cons, lookup_cons]
      by_cases isKept : kept (first, value) = true
      · rw [if_pos isKept, lookup_cons, ih distinct.2]
        by_cases same : key = first
        · rw [if_pos same, if_pos same, same, Option.filter_some, if_pos isKept]
        · rw [if_neg same, if_neg same]
      · rw [if_neg isKept, ih distinct.2]
        by_cases same : key = first
        · rw [if_pos same, same, lookup_eq_none distinct.1, Option.filter_none,
            Option.filter_some, if_neg isKept]
        · rw [if_neg same]

def Holds [BEq α] (map : OrderedMap α) (entry : String × α) : Prop :=
  ∃ held, map.get? entry.1 = some held ∧ (held == entry.2) = true

theorem holds_iff [BEq α] {map : OrderedMap α} {entry : String × α} :
    map.Holds entry ↔ (map.get? entry.1 == some entry.2) = true := by
  rw [Holds]
  cases map.get? entry.1 with
  | none => simp
  | some held => simp

theorem mem_diff [BEq α] {map other : OrderedMap α} {entry : String × α} :
    entry ∈ (map.diff other).entries ↔ entry ∈ other.entries ∧ ¬map.Holds entry := by
  rw [diff, List.mem_filter, holds_iff, bne, Bool.not_eq_true', Bool.not_eq_true]

theorem isEmpty_diff_iff [BEq α] {map other : OrderedMap α} :
    (map.diff other).isEmpty = true ↔ ∀ entry ∈ other.entries, map.Holds entry := by
  rw [isEmpty, List.isEmpty_iff, List.eq_nil_iff_forall_not_mem]
  simp only [mem_diff, not_and, not_not]

theorem isEmpty_diff_of_agrees [BEq α] {map other : OrderedMap α}
    (same : other.agrees map = true) : (map.diff other).isEmpty = true := by
  rw [agrees, Bool.and_eq_true, List.all_eq_true] at same
  exact isEmpty_diff_iff.mpr fun entry isEntry => holds_iff.mpr (same.2 entry isEntry)

theorem get?_diff [BEq α] (map other : OrderedMap α) (key : String) :
    (map.diff other).get? key =
      (other.get? key).filter fun value => map.get? key != some value :=
  lookup_filter other.distinct _ key

theorem get?_merge_diff [BEq α] {map other : OrderedMap α} {key : String}
    (exact : ∀ mine yours, map.get? key = some mine → other.get? key = some yours →
      (mine == yours) = true → mine = yours) :
    (map.merge (map.diff other)).get? key = (other.get? key).or (map.get? key) := by
  rw [get?_merge, get?_diff]
  cases yours : other.get? key with
  | none => rfl
  | some value =>
      rw [Option.filter_some]
      by_cases differs : (map.get? key != some value) = true
      · rw [if_pos differs]
      · rw [if_neg differs, Option.none_or, Option.some_or]
        cases mine : map.get? key with
        | none =>
            rw [mine] at differs
            exact absurd rfl differs
        | some held =>
            have same : (held == value) = true := by
              rw [mine, bne, Bool.not_eq_true, Bool.not_eq_false'] at differs
              exact differs
            rw [exact held value mine yours same]

theorem mem_put {key : String} {value : α} {entries : List (String × α)} {entry : String × α}
    (found : entry ∈ put key value entries) : entry = (key, value) ∨ entry ∈ entries := by
  induction entries with
  | nil => exact Or.inl (List.mem_singleton.mp found)
  | cons first rest ih =>
      rw [put] at found
      split at found
      · rcases List.mem_cons.mp found with same | later
        · exact Or.inl same
        · exact Or.inr (List.mem_cons_of_mem _ later)
      · rcases List.mem_cons.mp found with same | later
        · exact Or.inr (same ▸ List.mem_cons_self)
        · rcases ih later with isNew | old
          · exact Or.inl isNew
          · exact Or.inr (List.mem_cons_of_mem _ old)

theorem mem_insertAll {map : OrderedMap α} {entries : List (String × α)} {entry : String × α}
    (found : entry ∈ (map.insertAll entries).entries) :
    entry ∈ map.entries ∨ entry ∈ entries := by
  induction entries generalizing map with
  | nil => exact Or.inl found
  | cons first rest ih =>
      rw [insertAll, List.foldl_cons, ← insertAll] at found
      rcases ih found with inMap | later
      · rcases mem_put inMap with isFirst | old
        · exact Or.inr (isFirst ▸ List.mem_cons_self)
        · exact Or.inl old
      · exact Or.inr (List.mem_cons_of_mem _ later)

theorem mem_merge {map other : OrderedMap α} {entry : String × α}
    (found : entry ∈ (map.merge other).entries) :
    entry ∈ map.entries ∨ entry ∈ other.entries :=
  mem_insertAll found

theorem mem_of_get? {map : OrderedMap α} {key : String} {value : α}
    (found : map.get? key = some value) : (key, value) ∈ map.entries := by
  obtain ⟨before, after, split, _⟩ := List.lookup_eq_some_iff.mp found
  rw [split]
  exact List.mem_append_right _ List.mem_cons_self

theorem get?_of_mem {map : OrderedMap α} {entry : String × α} (isEntry : entry ∈ map.entries) :
    map.get? entry.1 = some entry.2 := by
  obtain ⟨before, after, split⟩ := List.append_of_mem isEntry
  have distinct := map.distinct
  rw [split, List.map_append, List.nodup_append] at distinct
  refine List.lookup_eq_some_iff.mpr ⟨before, after, split, ?_⟩
  intro other isOther
  rw [bne_iff_ne]
  exact fun same => distinct.2.2 _ (List.mem_map_of_mem isOther) _ List.mem_cons_self same.symm

theorem put_of_notMem {key : String} (value : α) {entries : List (String × α)}
    (new : key ∉ entries.map Prod.fst) : put key value entries = entries ++ [(key, value)] := by
  induction entries with
  | nil => rfl
  | cons entry rest ih =>
      rw [List.map_cons, List.mem_cons, not_or] at new
      rw [put, if_neg (Ne.symm new.1), ih new.2, List.cons_append]

theorem entries_insertAll (map : OrderedMap α) {entries : List (String × α)}
    (distinct : ((map.entries ++ entries).map Prod.fst).Nodup) :
    (map.insertAll entries).entries = map.entries ++ entries := by
  induction entries generalizing map with
  | nil => exact (List.append_nil _).symm
  | cons entry rest ih =>
      have new : entry.1 ∉ map.entries.map Prod.fst := by
        rw [List.map_append, List.nodup_append] at distinct
        intro held
        exact distinct.2.2 _ held _ List.mem_cons_self rfl
      have inserted : (map.insert entry.1 entry.2).entries = map.entries ++ [entry] :=
        put_of_notMem entry.2 new
      have regrouped : map.entries ++ entry :: rest = map.entries ++ [entry] ++ rest := by simp
      rw [regrouped, ← inserted] at distinct ⊢
      exact ih _ distinct

theorem entries_ofList_iff {entries : List (String × α)} :
    (ofList entries).entries = entries ↔ (entries.map Prod.fst).Nodup := by
  constructor
  · intro all
    rw [← all]
    exact (ofList entries).distinct
  · exact entries_insertAll empty

theorem keys_put (key : String) (value : α) (entries : List (String × α)) :
    (put key value entries).map Prod.fst =
      if key ∈ entries.map Prod.fst then entries.map Prod.fst
      else entries.map Prod.fst ++ [key] := by
  induction entries with
  | nil => rfl
  | cons entry rest ih =>
      by_cases here : entry.1 = key
      · simp [put, here]
      · rw [put, if_neg here, List.map_cons, ih, List.map_cons]
        by_cases held : key ∈ rest.map Prod.fst
        · rw [if_pos held, if_pos (List.mem_cons_of_mem _ held)]
        · have new : key ∉ entry.1 :: rest.map Prod.fst := by
            rw [List.mem_cons, not_or]
            exact ⟨Ne.symm here, held⟩
          rw [if_neg held, if_neg new, List.cons_append]

theorem keys_insert (map : OrderedMap α) (key : String) (value : α) :
    (map.insert key value).keys = if key ∈ map.keys then map.keys else map.keys ++ [key] :=
  keys_put key value map.entries

theorem keys_insertAll (map : OrderedMap α) {entries : List (String × α)}
    (distinct : (entries.map Prod.fst).Nodup) :
    (map.insertAll entries).keys =
      map.keys ++ (entries.map Prod.fst).filter fun key => decide (key ∉ map.keys) := by
  induction entries generalizing map with
  | nil => exact (List.append_nil _).symm
  | cons entry rest ih =>
      rw [List.map_cons, List.nodup_cons] at distinct
      rw [insertAll, List.foldl_cons, ← insertAll, ih _ distinct.2, keys_insert, List.map_cons]
      by_cases held : entry.1 ∈ map.keys
      · rw [if_pos held, List.filter_cons_of_neg (by simpa using held)]
      · rw [if_neg held, List.filter_cons_of_pos (by simpa using held), List.append_assoc,
          List.singleton_append]
        congr 2
        refine List.filter_congr fun key isKey => ?_
        have other : key ≠ entry.1 := fun same => distinct.1 (same ▸ isKey)
        simp [other]

theorem keys_merge (map other : OrderedMap α) :
    (map.merge other).keys =
      map.keys ++ other.keys.filter fun key => decide (key ∉ map.keys) :=
  keys_insertAll map other.distinct

theorem entries_foldl_merge (map : OrderedMap α) (parts : List (OrderedMap α))
    (distinct : ((map.entries ++ parts.flatMap entries).map Prod.fst).Nodup) :
    (parts.foldl merge map).entries = map.entries ++ parts.flatMap entries := by
  induction parts generalizing map with
  | nil => exact (List.append_nil _).symm
  | cons part rest ih =>
      rw [List.flatMap_cons, ← List.append_assoc] at distinct ⊢
      have both : ((map.entries ++ part.entries).map Prod.fst).Nodup :=
        distinct.sublist ((List.sublist_append_left _ _).map Prod.fst)
      have merged : (map.merge part).entries = map.entries ++ part.entries :=
        entries_insertAll map both
      rw [← merged] at distinct ⊢
      exact ih _ distinct

theorem eq_of_lookup_eq {first second : List (String × α)}
    (distinct : (first.map Prod.fst).Nodup) (sameKeys : first.map Prod.fst = second.map Prod.fst)
    (sameValues : ∀ key, first.lookup key = second.lookup key) : first = second := by
  induction first generalizing second with
  | nil => exact (List.map_eq_nil_iff.mp sameKeys.symm).symm
  | cons entry rest ih =>
      obtain ⟨key, value⟩ := entry
      obtain ⟨⟨key', value'⟩, rest', rfl, here, later⟩ := List.map_eq_cons_iff.mp sameKeys.symm
      obtain rfl : key' = key := here
      have sameHere := sameValues key'
      rw [lookup_cons, lookup_cons, if_pos rfl, if_pos rfl, Option.some.injEq] at sameHere
      rw [List.map_cons, List.nodup_cons] at distinct
      rw [sameHere, ih distinct.2 later.symm]
      intro other
      have sameOther := sameValues other
      rw [lookup_cons, lookup_cons] at sameOther
      by_cases same : other = key'
      · rw [same, lookup_eq_none distinct.1, lookup_eq_none (later ▸ distinct.1)]
      · rwa [if_neg same, if_neg same] at sameOther

theorem ext_get? {map other : OrderedMap α} (sameKeys : map.keys = other.keys)
    (sameValues : ∀ key, map.get? key = other.get? key) : map = other := by
  obtain ⟨entries, distinct⟩ := map
  obtain ⟨others, _⟩ := other
  obtain rfl : entries = others := eq_of_lookup_eq distinct sameKeys sameValues
  rfl

theorem merge_insert (map other : OrderedMap α) (key : String) (value : α) :
    map.merge (other.insert key value) = (map.merge other).insert key value := by
  refine ext_get? ?_ fun asked => ?_
  · rw [keys_merge, keys_insert, keys_insert, keys_merge]
    by_cases inOther : key ∈ other.keys
    · simp [inOther]
    · by_cases inMap : key ∈ map.keys
      · simp [inOther, inMap]
      · simp [inOther, inMap]
  · rw [get?_merge, get?_insert, get?_insert, get?_merge]
    by_cases same : asked = key
    · rw [if_pos same, if_pos same, Option.some_or]
    · rw [if_neg same, if_neg same]

theorem insertAll_concat (map : OrderedMap α) (earlier : List (String × α)) (last : String × α) :
    map.insertAll (earlier ++ [last]) = (map.insertAll earlier).insert last.1 last.2 :=
  List.foldl_append

theorem insertAll_eq_merge (map : OrderedMap α) (entries : List (String × α)) :
    map.insertAll entries = map.merge (ofList entries) := by
  induction entries using List.reverseRecOn with
  | nil => rfl
  | append_singleton earlier last ih =>
      rw [ofList, insertAll_concat, insertAll_concat, ih, ← ofList, merge_insert]

theorem ofList_append (first second : List (String × α)) :
    ofList (first ++ second) = (ofList first).merge (ofList second) := by
  rw [← insertAll_eq_merge]
  exact List.foldl_append

theorem ofList_entries (map : OrderedMap α) : ofList map.entries = map := by
  have all := entries_ofList_iff.mpr map.distinct
  refine ext_get? ?_ fun key => ?_
  · rw [keys, all, keys]
  · rw [get?, all, get?]

theorem keys_ofList (entries : List (String × α)) :
    (ofList entries).keys = (entries.map Prod.fst).eraseDups := by
  induction entries using List.reverseRecOn with
  | nil => rfl
  | append_singleton earlier last ih =>
      rw [ofList, insertAll_concat, ← ofList, keys_insert, ih, List.map_append,
        List.eraseDups_append]
      by_cases again : last.1 ∈ earlier.map Prod.fst
      · simp [List.removeAll, again]
      · simp [List.removeAll, again, List.eraseDups_cons]

theorem get?_ofList (entries : List (String × α)) (key : String) :
    (ofList entries).get? key = entries.reverse.lookup key := by
  induction entries using List.reverseRecOn with
  | nil => rfl
  | append_singleton earlier last ih =>
      rw [ofList, insertAll_concat, ← ofList, get?_insert, ih, List.reverse_append,
        List.reverse_singleton, List.singleton_append, ← lookup_cons]

section

variable [BEq α] (map other : OrderedMap α)

theorem diff_sublist : (map.diff other).entries.Sublist other.entries :=
  List.filter_sublist

theorem keys_merge_diff :
    (map.merge (map.diff other)).keys =
      map.keys ++ other.keys.filter fun key => decide (key ∉ map.keys) := by
  let isNew (key : String) : Bool := decide (key ∉ map.keys)
  have isMissing (entry : String × α) (new : isNew entry.1 = true) :
      (map.get? entry.1 != some entry.2) = true := by
    rw [get?, lookup_eq_none (of_decide_eq_true new)]
    rfl
  have sameNew : (map.diff other).keys.filter isNew = other.keys.filter isNew := by
    change ((other.entries.filter _).map Prod.fst).filter isNew =
      (other.entries.map Prod.fst).filter isNew
    rw [List.filter_map, List.filter_map, List.filter_filter]
    refine congrArg _ (List.filter_congr fun entry _ => ?_)
    by_cases new : isNew entry.1 = true
    · simp [new, isMissing entry new]
    · simp [new]
  rw [keys_merge, sameNew]

theorem get?_merge_diff_of_notMem {key : String} (absent : key ∉ other.keys) :
    (map.merge (map.diff other)).get? key = map.get? key := by
  have nothing : other.get? key = none := lookup_eq_none absent
  rw [get?_merge, get?_diff, nothing]
  rfl

variable {map other}

theorem holds_merge_diff {entry : String × α} (isEntry : entry ∈ other.entries)
    (reflexive : (entry.2 == entry.2) = true) :
    (map.merge (map.diff other)).Holds entry := by
  rw [Holds, get?_merge, get?_diff, get?_of_mem isEntry, Option.filter_some]
  by_cases differs : (map.get? entry.1 != some entry.2) = true
  · rw [if_pos differs]
    exact ⟨entry.2, rfl, reflexive⟩
  · rw [if_neg differs, Option.none_or]
    rw [bne, Bool.not_eq_true, Bool.not_eq_false'] at differs
    exact holds_iff.mpr differs

end

end DesignToCode.OrderedMap
