import DesignToCode.Component.VariantName
import DesignToCode.Proofs.Naming.Claims
import Mathlib.Data.List.Forall2

/-!
Which generated names are identifiers.
-/

namespace DesignToCode.Naming

open DesignToCode.Text

def isIdentifier (name : String) : Bool :=
  match name.toList with
  | [] => false
  | first :: rest => first.isAlpha && rest.all Char.isAlphanum

/-- What is left of a text in a name: the ASCII letters and digits of its compatibility form. -/
def material (text : String) : List Char :=
  (compatible text.toList).filter isWordChar

def startsWithLetter (cs : List Char) : Bool :=
  cs.head?.any Char.isAlpha

def startsWithDigit (cs : List Char) : Bool :=
  cs.head?.any Char.isDigit

def startsSmall (cs : List Char) : Bool :=
  cs.head?.any Char.isLower

theorem isAlpha_toLower {c : Char} (plain : c.isAlphanum = true) :
    c.toLower.isAlpha = c.isAlpha := by
  have checked := of_ascii (fun c => c.toLower.isAlpha == c.isAlpha) (by decide)
    (ascii_of_isAlphanum plain)
  exact beq_iff_eq.mp checked

theorem isAlpha_toUpper {c : Char} (plain : c.isAlphanum = true) :
    c.toUpper.isAlpha = c.isAlpha := by
  have checked := of_ascii (fun c => c.toUpper.isAlpha == c.isAlpha) (by decide)
    (ascii_of_isAlphanum plain)
  exact beq_iff_eq.mp checked

theorem not_isLower_toUpper {c : Char} (plain : c.isAlphanum = true) :
    c.toUpper.isLower = false := by
  have checked := of_ascii (fun c => !c.toUpper.isLower) (by decide) (ascii_of_isAlphanum plain)
  rwa [Bool.not_eq_true'] at checked

theorem isAlpha_eq_not_isDigit {c : Char} (plain : c.isAlphanum = true) :
    c.isAlpha = !c.isDigit := by
  have checked := of_ascii (fun c => !c.isAlphanum || c.isAlpha == !c.isDigit) (by decide)
    (ascii_of_isAlphanum plain)
  simpa [plain] using checked

theorem startsWithLetter_eq_not_startsWithDigit {cs : List Char}
    (plain : ∀ c ∈ cs, c.isAlphanum = true) (nonempty : cs ≠ []) :
    startsWithLetter cs = !startsWithDigit cs := by
  cases cs with
  | nil => exact absurd rfl nonempty
  | cons first rest => exact isAlpha_eq_not_isDigit (plain first List.mem_cons_self)

theorem isIdentifier_of_isPlain {name : String} (plain : IsPlain name) :
    isIdentifier name = startsWithLetter name.toList := by
  unfold IsPlain at plain
  unfold isIdentifier
  cases letters : name.toList with
  | nil => rfl
  | cons first rest =>
      rw [letters] at plain
      have later : rest.all Char.isAlphanum = true := by
        rw [List.all_eq_true]
        intro c found
        exact plain c (List.mem_cons_of_mem _ found)
      simp [startsWithLetter, later]

theorem flatten_words (name : String) : (words name).flatten = material name := by
  have apart (c : Char) :
      (!isSeparator c && (isWordChar c || isSeparator c)) = isWordChar c := by
    by_cases plain : c.isAlphanum = true
    · have checked := of_ascii (fun c => !c.isAlphanum || !isSeparator c) (by decide)
        (ascii_of_isAlphanum plain)
      simp only [plain, Bool.not_true, Bool.false_or] at checked
      simp [isWordChar, plain, checked]
    · simp [isWordChar, plain]
  simp only [words, wordsBy, List.flatten_filter_not_isEmpty, flatten_pieces, List.filter_filter, apart,
    material]

theorem isAlphanum_of_mem_material {text : String} {c : Char} (found : c ∈ material text) :
    c.isAlphanum = true :=
  (List.mem_filter.mp found).2

theorem head?_flatMap_capitalize (runs : List (List Char)) :
    (runs.flatMap capitalize).head? = runs.flatten.head?.map Char.toUpper := by
  induction runs with
  | nil => rfl
  | cons run rest ih =>
      cases run with
      | nil => simpa [capitalize] using ih
      | cons first later => simp [capitalize]

theorem head?_flatMap_pascalChars (texts : List String) :
    (texts.flatMap pascalChars).head? = (texts.flatMap material).head?.map Char.toUpper := by
  have runs : texts.flatMap pascalChars = (texts.flatMap words).flatMap capitalize := by
    rw [List.flatMap_assoc]
    rfl
  have letters : (texts.flatMap words).flatten = texts.flatMap material := by
    simp only [List.flatMap_def, List.flatten_flatten, List.map_map]
    congr 1
    exact List.map_congr_left fun text _ => flatten_words text
  rw [runs, head?_flatMap_capitalize, letters]

theorem isAlphanum_of_mem_flatMap_material {texts : List String} {c : Char}
    (found : c ∈ texts.flatMap material) : c.isAlphanum = true := by
  obtain ⟨text, _, inText⟩ := List.mem_flatMap.mp found
  exact isAlphanum_of_mem_material inText

theorem startsWithLetter_flatMap_pascalChars (texts : List String) :
    startsWithLetter (texts.flatMap pascalChars) = startsWithLetter (texts.flatMap material) := by
  rw [startsWithLetter, startsWithLetter, head?_flatMap_pascalChars]
  cases first : (texts.flatMap material).head? with
  | none => rfl
  | some c => exact isAlpha_toUpper (isAlphanum_of_mem_flatMap_material (List.mem_of_head? first))

theorem startsSmall_flatMap_pascalChars (texts : List String) :
    startsSmall (texts.flatMap pascalChars) = false := by
  rw [startsSmall, head?_flatMap_pascalChars]
  cases first : (texts.flatMap material).head? with
  | none => rfl
  | some c =>
      exact not_isLower_toUpper (isAlphanum_of_mem_flatMap_material (List.mem_of_head? first))

theorem startsWithLetter_pascalChars (name : String) :
    startsWithLetter (pascalChars name) = startsWithLetter (material name) := by
  simpa using startsWithLetter_flatMap_pascalChars [name]

theorem startsWithLetter_camelChars (name : String) :
    startsWithLetter (camelChars name) = startsWithLetter (material name) := by
  rw [← startsWithLetter_pascalChars, camelChars_eq]
  cases pascal : pascalChars name with
  | nil => rfl
  | cons first rest =>
      have isFirst : first ∈ pascalChars name := pascal ▸ List.mem_cons_self
      exact isAlpha_toLower (isAlphanum_of_mem_pascalChars isFirst)

theorem isIdentifier_camelCase (name : String) :
    isIdentifier (camelCase name) = startsWithLetter (material name) := by
  rw [isIdentifier_of_isPlain (isPlain_camelCase name), camelCase, String.toList_ofList,
    startsWithLetter_camelChars]

theorem isIdentifier_pascalCase (name : String) :
    isIdentifier (pascalCase name) = startsWithLetter (material name) := by
  rw [isIdentifier_of_isPlain (isPlain_pascalCase name), pascalCase, String.toList_ofList,
    startsWithLetter_pascalChars]

theorem pascalChars_eq_nil_iff (name : String) : pascalChars name = [] ↔ material name = [] := by
  have heads : (pascalChars name).head? = (material name).head?.map Char.toUpper := by
    simpa using head?_flatMap_pascalChars [name]
  rw [← List.head?_eq_none_iff, heads, Option.map_eq_none_iff, List.head?_eq_none_iff]

theorem camelChars_eq_nil_iff (name : String) : camelChars name = [] ↔ material name = [] := by
  rw [← pascalChars_eq_nil_iff, camelChars_eq]
  cases pascalChars name with
  | nil => simp
  | cons first rest => simp

theorem startsWithLetter_flatMap_material {texts : List String}
    (nonempty : texts.flatMap material ≠ []) :
    startsWithLetter (texts.flatMap material) = !startsWithDigit (texts.flatMap material) := by
  exact startsWithLetter_eq_not_startsWithDigit (fun _ => isAlphanum_of_mem_flatMap_material)
    nonempty

theorem startsWithLetter_material {text : String} (nonempty : material text ≠ []) :
    startsWithLetter (material text) = !startsWithDigit (material text) := by
  have single : [text].flatMap material = material text := by simp
  rw [← single] at nonempty ⊢
  exact startsWithLetter_flatMap_material nonempty

theorem isIdentifier_componentName (name : String) :
    isIdentifier (componentName name) = !startsWithDigit (material name) := by
  rw [componentName_eq]
  by_cases empty : material name = []
  · have madeUp : isIdentifier "Component" = true := by decide
    simp [(pascalChars_eq_nil_iff name).mpr empty, empty, madeUp, startsWithDigit]
  · have named : ¬(pascalChars name).isEmpty = true := by
      simpa [pascalChars_eq_nil_iff] using empty
    rw [if_neg named, isIdentifier_pascalCase, startsWithLetter_material empty]

theorem startsSmall_componentName (name : String) :
    startsSmall (componentName name).toList = false := by
  rw [componentName_eq]
  split
  · decide
  · have large := startsSmall_flatMap_pascalChars [name]
    simpa [pascalCase] using large

theorem isIdentifier_className (name : String) :
    isIdentifier (className name) = !startsWithDigit (material name) := by
  rw [className_eq]
  by_cases empty : material name = []
  · have madeUp : isIdentifier "element" = true := by decide
    simp [(camelChars_eq_nil_iff name).mpr empty, empty, madeUp, startsWithDigit]
  · have named : ¬(camelChars name).isEmpty = true := by
      simpa [camelChars_eq_nil_iff] using empty
    rw [if_neg named, isIdentifier_camelCase, startsWithLetter_material empty]

namespace ClassScope

theorem isIdentifier_numbered {base : String} (plain : IsPlain base) (nonempty : base ≠ "")
    (number : Nat) : isIdentifier (numbered base number) = isIdentifier base := by
  rw [isIdentifier_of_isPlain (isPlain_numbered plain number), isIdentifier_of_isPlain plain,
    numbered, String.toList_append]
  cases letters : base.toList with
  | nil => exact absurd (String.toList_eq_nil_iff.mp letters) nonempty
  | cons first rest => rfl

theorem isIdentifier_issue (scope : ClassScope) (name : String) :
    isIdentifier (scope.issue name) = !startsWithDigit (material name) := by
  rw [issue, ← isIdentifier_className]
  split
  · obtain ⟨step, _, found, _⟩ := firstFree_stops scope (className name) 2 scope.taken.length
    rw [found, isIdentifier_numbered (isPlain_className name) (className_ne_empty name)]
  · rfl

theorem isIdentifier_claimAll (scope : ClassScope) (names : List String) :
    List.Forall₂ (fun name issued => isIdentifier issued = !startsWithDigit (material name))
      names (scope.claimAll names).1 := by
  induction names generalizing scope with
  | nil => exact List.Forall₂.nil
  | cons name rest ih => exact List.Forall₂.cons (isIdentifier_issue scope name) (ih _)

end ClassScope

end DesignToCode.Naming
