import DesignToCode.Proofs.OrderedMap
import DesignToCode.Workspace

/-!
What stands in a tree of files and folders after an entry has been put into one of them.
-/

namespace DesignToCode.Entry

@[simp] theorem at?_nil (entry : Entry) : entry.at? [] = some entry := by
  rw [at?]

@[simp] theorem at?_file (content : FileContent) (name : String) (rest : List String) :
    (file content).at? (name :: rest) = none := by
  rw [at?]

@[simp] theorem at?_folder (entries : List (String × Entry)) (name : String)
    (rest : List String) :
    (folder entries).at? (name :: rest) = (entries.lookup name).bind (·.at? rest) := by
  rw [at?]

theorem at?_append (entry : Entry) (location rest : List String) :
    entry.at? (location ++ rest) = (entry.at? location).bind (·.at? rest) := by
  induction location generalizing entry with
  | nil => rw [List.nil_append, at?_nil, Option.bind_some]
  | cons name later ih =>
      cases entry with
      | file content => rfl
      | folder entries =>
          rw [List.cons_append, at?_folder, at?_folder, Option.bind_assoc]
          simp only [ih]

theorem at?_below_file {entry : Entry} {location : List String} {content : FileContent}
    (found : entry.at? location = some (.file content)) (name : String) (rest : List String) :
    entry.at? (location ++ name :: rest) = none := by
  rw [at?_append, found, Option.bind_some, at?_file]

theorem exists_put_folder (new : Entry) (entries : List (String × Entry)) (name : String)
    (rest : List String) :
    ∃ after, put new (.folder entries) (name :: rest) = .folder after ∧
      after.lookup name = ((entries.lookup name).map fun inner => put new inner rest).or
        (if rest.isEmpty then some new else none) ∧
      ∀ other, other ≠ name → after.lookup other = entries.lookup other := by
  rw [put]
  cases found : entries.lookup name with
  | some inner =>
      refine ⟨_, rfl, ?_, ?_⟩
      · rw [OrderedMap.lookup_put, if_pos rfl]
        rfl
      · intro other different
        rw [OrderedMap.lookup_put, if_neg different]
  | none =>
      refine ⟨_, rfl, ?_, ?_⟩
      · by_cases last : rest.isEmpty = true
        · rw [if_pos last, if_pos last, OrderedMap.lookup_put, if_pos rfl]
          rfl
        · rw [if_neg last, if_neg last, found]
          rfl
      · intro other different
        by_cases last : rest.isEmpty = true
        · rw [if_pos last, OrderedMap.lookup_put, if_neg different]
        · rw [if_neg last]

@[simp] theorem isFolder_put (new entry : Entry) (name : String) (rest : List String) :
    (put new entry (name :: rest)).isFolder = entry.isFolder := by
  cases entry with
  | file content => rw [put]
  | folder entries =>
      obtain ⟨after, put, _⟩ := exists_put_folder new entries name rest
      rw [put]
      rfl

theorem at?_put_apart (new : Entry) {entry : Entry} {target other : List String}
    (notBelow : ¬target <+: other) (notAbove : ¬other <+: target) :
    (put new entry target).at? other = entry.at? other := by
  induction target generalizing entry other with
  | nil => exact absurd List.nil_prefix notBelow
  | cons name rest ih =>
      cases other with
      | nil => exact absurd List.nil_prefix notAbove
      | cons first later =>
          cases entry with
          | file content => rw [put]
          | folder entries =>
              obtain ⟨after, put, here, elsewhere⟩ := exists_put_folder new entries name rest
              rw [put, at?_folder, at?_folder]
              by_cases same : first = name
              · subst first
                rw [List.cons_prefix_cons] at notBelow notAbove
                have notLast : rest.isEmpty = false := by
                  cases rest with
                  | nil => exact absurd ⟨rfl, List.nil_prefix⟩ notBelow
                  | cons _ _ => rfl
                rw [here, notLast]
                cases entries.lookup name with
                | none => rfl
                | some inner =>
                    exact ih (fun below => notBelow ⟨rfl, below⟩)
                      (fun above => notAbove ⟨rfl, above⟩)
              · rw [elsewhere first same]

theorem at?_put_above (new entry : Entry) (above : List String) (name : String)
    (rest : List String) :
    (put new entry (above ++ name :: rest)).at? above =
      (entry.at? above).map fun inner => put new inner (name :: rest) := by
  induction above generalizing entry with
  | nil => simp
  | cons first later ih =>
      cases entry with
      | file content => rw [List.cons_append, put, at?_file, Option.map_none]
      | folder entries =>
          obtain ⟨after, put, here, _⟩ :=
            exists_put_folder new entries first (later ++ name :: rest)
          have notLast : (later ++ name :: rest).isEmpty = false := by simp
          rw [List.cons_append, put, at?_folder, at?_folder, here, notLast]
          cases entries.lookup first with
          | none => rfl
          | some inner => exact ih inner

theorem at?_put_below (new : Entry) {entry : Entry} {location : List String}
    {entries : List (String × Entry)} (isFolder : entry.at? location = some (.folder entries))
    (name : String) (rest : List String) :
    (put new entry (location ++ [name])).at? (location ++ name :: rest) = new.at? rest := by
  obtain ⟨after, put, here, _⟩ := exists_put_folder new entries name []
  rw [at?_append, at?_put_above, isFolder, Option.map_some, Option.bind_some, put, at?_folder,
    here]
  cases entries.lookup name <;> simp [Entry.put]

end DesignToCode.Entry
