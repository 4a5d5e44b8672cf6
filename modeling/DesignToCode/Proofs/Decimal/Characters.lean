import DesignToCode.Decimal.Written
import DesignToCode.Proofs.Naming.Plain

/-!
The characters of written numbers: letters and digits, a point and a sign.
-/

namespace DesignToCode.Decimal

theorem mem_positional {whole : List Char} {d : Digits} {c : Char}
    (found : c ∈ positional whole d) : c ∈ digitText d.digits ∨ c = '0' ∨ c = '.' ∨ c ∈ whole := by
  unfold positional at found
  simp only [zeros] at found
  split at found
  · simp only [List.mem_append, List.mem_replicate] at found
    rcases found with (digit | zero) | ending
    · exact Or.inl digit
    · exact Or.inr (Or.inl zero.2)
    · exact Or.inr (Or.inr (Or.inr ending))
  · split at found
    · simp only [List.mem_append, List.mem_cons] at found
      rcases found with digit | point | digit
      · exact Or.inl (List.mem_of_mem_take digit)
      · exact Or.inr (Or.inr (Or.inl point))
      · exact Or.inl (List.mem_of_mem_drop digit)
    · simp only [List.cons_append, List.mem_append, List.mem_cons, List.mem_replicate] at found
      rcases found with zero | point | zero | digit
      · exact Or.inr (Or.inl zero)
      · exact Or.inr (Or.inr (Or.inl point))
      · exact Or.inr (Or.inl zero.2)
      · exact Or.inl digit

theorem isAlphanum_of_mem_digitText {n : Nat} {c : Char} (found : c ∈ digitText n) :
    c.isAlphanum = true := by
  have digit : c.isDigit = true := Nat.isDigit_of_mem_toDigits (by decide) (by decide) found
  simp [Char.isAlphanum, digit]

theorem eq_of_mem_signText {negative : Bool} {c : Char} (found : c ∈ signText negative) :
    c = '-' := by
  cases negative with
  | false => cases found
  | true => exact List.mem_singleton.mp found

theorem mem_plain {x : Float} {c : Char} (found : c ∈ (plain x).toList) :
    c.isAlphanum = true ∨ c = '-' ∨ c = '.' := by
  unfold plain at found
  split at found
  · have letters : "NaN".toList.all Char.isAlphanum = true := by decide
    exact Or.inl (List.all_eq_true.mp letters c found)
  · rw [String.toList_ofList] at found
    rcases List.mem_append.mp found with sign | name
    · exact Or.inr (Or.inl (eq_of_mem_signText sign))
    · have letters : ['i', 'n', 'f'].all Char.isAlphanum = true := by decide
      exact Or.inl (List.all_eq_true.mp letters c name)
  · rw [String.toList_ofList] at found
    rcases List.mem_append.mp found with sign | body
    · exact Or.inr (Or.inl (eq_of_mem_signText sign))
    · rcases mem_positional body with digit | rfl | point | nothing
      · exact Or.inl (isAlphanum_of_mem_digitText digit)
      · exact Or.inl rfl
      · exact Or.inr (Or.inr point)
      · cases nothing

theorem positional_ne_nil (whole : List Char) (d : Digits) : positional whole d ≠ [] := by
  unfold positional
  simp only
  split
  · simp [digitText, Nat.toDigits_ne_nil]
  · split <;> simp

theorem plain_ne_nil (x : Float) : (plain x).toList ≠ [] := by
  unfold plain
  split
  · decide
  · simp
  · rw [String.toList_ofList]
    exact List.append_ne_nil_of_right_ne_nil _ (positional_ne_nil _ _)

end DesignToCode.Decimal
