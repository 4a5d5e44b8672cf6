import DesignToCode.Text.Blank
import Mathlib.Data.List.DropRight
import Mathlib.Data.List.TakeWhile

/-!
Texts with blanks around them.
-/

namespace DesignToCode.Text

def IsTrimmed (cs : List Char) : Prop :=
  (∀ c ∈ cs.head?, isBlank c = false) ∧ ∀ c ∈ cs.getLast?, isBlank c = false

theorem exists_trimList (cs : List Char) : ∃ before after,
    cs = before ++ trimList cs ++ after ∧ ∀ c ∈ before ++ after, isBlank c = true := by
  let rest := cs.dropWhile isBlank
  let blanks := rest.reverse.takeWhile isBlank
  refine ⟨cs.takeWhile isBlank, blanks.reverse, ?_, ?_⟩
  · have back : (blanks ++ rest.reverse.dropWhile isBlank).reverse = rest := by
      rw [List.takeWhile_append_dropWhile, List.reverse_reverse]
    rw [List.reverse_append] at back
    calc cs = cs.takeWhile isBlank ++ rest := List.takeWhile_append_dropWhile.symm
      _ = cs.takeWhile isBlank ++ (trimList cs ++ blanks.reverse) := by rw [trimList, back]
      _ = _ := (List.append_assoc _ _ _).symm
  · intro c found
    rcases List.mem_append.mp found with atStart | atEnd
    · exact List.mem_takeWhile_imp atStart
    · exact List.mem_takeWhile_imp (List.mem_reverse.mp atEnd)

theorem dropWhile_append_blank {blanks word : List Char}
    (areBlank : ∀ c ∈ blanks, isBlank c = true)
    (starts : ∃ c ∈ word.head?, isBlank c = false) :
    (blanks ++ word).dropWhile isBlank = word := by
  obtain ⟨first, isFirst, solid⟩ := starts
  rw [List.dropWhile_append_of_pos areBlank]
  cases word with
  | nil => cases isFirst
  | cons c rest =>
      cases isFirst
      rw [List.dropWhile_cons_of_neg (by simp [solid])]

theorem trimList_append {before word after : List Char}
    (areBlank : ∀ c ∈ before ++ after, isBlank c = true)
    (starts : ∃ c ∈ word.head?, isBlank c = false)
    (ends : ∃ c ∈ word.getLast?, isBlank c = false) :
    trimList (before ++ word ++ after) = word := by
  have startsAll : ∃ c ∈ (word ++ after).head?, isBlank c = false := by
    obtain ⟨first, isFirst, solid⟩ := starts
    exact ⟨first, by simp [Option.mem_def.mp isFirst], solid⟩
  have endsReversed : ∃ c ∈ word.reverse.head?, isBlank c = false := by
    rwa [List.head?_reverse]
  rw [trimList, List.append_assoc,
    dropWhile_append_blank (fun c found => areBlank c (List.mem_append_left _ found)) startsAll,
    List.reverse_append, dropWhile_append_blank ?_ endsReversed, List.reverse_reverse]
  intro c found
  exact areBlank c (List.mem_append_right _ (List.mem_reverse.mp found))

theorem mem_of_mem_trimList {cs : List Char} {c : Char} (found : c ∈ trimList cs) : c ∈ cs := by
  obtain ⟨before, after, split, _⟩ := exists_trimList cs
  rw [split]
  exact List.mem_append_left _ (List.mem_append_right _ found)

theorem isTrimmed_trimList (cs : List Char) : IsTrimmed (trimList cs) := by
  let rest := cs.dropWhile isBlank
  constructor
  · intro c isFirst
    obtain ⟨after, split⟩ : trimList cs <+: rest := List.rdropWhile_prefix isBlank rest
    have startsRest : c ∈ rest.head? := by
      rw [← split, List.head?_append, Option.mem_def.mp isFirst]
      rfl
    have solid := List.head?_dropWhile_not isBlank cs
    rw [Option.mem_def.mp startsRest] at solid
    exact solid
  · intro c isLast
    obtain ⟨nonempty, rfl⟩ := List.mem_getLast?_eq_getLast isLast
    rw [← Bool.not_eq_true]
    exact List.rdropWhile_last_not isBlank rest nonempty

theorem trimList_of_isTrimmed {cs : List Char} (trimmed : IsTrimmed cs) : trimList cs = cs := by
  cases cs with
  | nil => rfl
  | cons first rest =>
      have whole : trimList ([] ++ (first :: rest) ++ []) = first :: rest := by
        refine trimList_append (by simp) ⟨first, rfl, trimmed.1 first rfl⟩ ?_
        have isLast := List.getLast?_eq_some_getLast (List.cons_ne_nil first rest)
        exact ⟨_, isLast, trimmed.2 _ isLast⟩
      rwa [List.append_nil] at whole

theorem trimList_cons_of_isBlank {c : Char} (blank : isBlank c = true) (rest : List Char) :
    trimList (c :: rest) = trimList rest := by
  rw [trimList, List.dropWhile_cons_of_pos blank, ← trimList]

theorem toLower_of_isBlank {c : Char} (blank : isBlank c = true) : c.toLower = c := by
  refine dif_neg ?_
  rintro ⟨large, small⟩
  simp only [ge_iff_le, UInt32.le_iff_toNat_le, Char.reduceVal, UInt32.reduceToNat] at large small
  simp only [isBlank, Char.toNat, Bool.or_eq_true, Bool.and_eq_true, decide_eq_true_eq,
    beq_iff_eq] at blank
  omega

end DesignToCode.Text
