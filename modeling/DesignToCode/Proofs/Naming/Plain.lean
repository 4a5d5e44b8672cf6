import DesignToCode.Naming.ClassScope
import DesignToCode.Proofs.Text.Pieces

/-!
Generated names consist of ASCII letters and digits, whatever text they are made from.
-/

namespace DesignToCode.Naming

open DesignToCode.Text

def IsPlain (name : String) : Prop :=
  ∀ c ∈ name.toList, c.isAlphanum = true

theorem of_ascii (predicate : Char → Bool)
    (checked : ∀ code : Fin 128, predicate (Char.ofNat code) = true) {c : Char}
    (ascii : c.toNat < 128) : predicate c = true := by
  have found := checked ⟨c.toNat, ascii⟩
  simpa only [Char.ofNat_toNat] using found

theorem ascii_of_isAlphanum {c : Char} (plain : c.isAlphanum = true) : c.toNat < 128 := by
  have ranges : (decide ('A'.val ≤ c.val ∧ c.val ≤ 'Z'.val) ||
      ('a'.val ≤ c.val && c.val ≤ 'z'.val) || ('0'.val ≤ c.val && c.val ≤ '9'.val)) = true := plain
  simp only [Bool.or_eq_true, Bool.and_eq_true, decide_eq_true_eq, UInt32.le_iff_toNat_le,
    UInt32.reduceToNat, Char.reduceVal] at ranges
  change c.val.toNat < 128
  omega

theorem isAlphanum_toLower {c : Char} (plain : c.isAlphanum = true) :
    c.toLower.isAlphanum = true := by
  have checked := of_ascii (fun c => !c.isAlphanum || c.toLower.isAlphanum) (by decide)
    (ascii_of_isAlphanum plain)
  simpa [plain] using checked

theorem isAlphanum_toUpper {c : Char} (plain : c.isAlphanum = true) :
    c.toUpper.isAlphanum = true := by
  have checked := of_ascii (fun c => !c.isAlphanum || c.toUpper.isAlphanum) (by decide)
    (ascii_of_isAlphanum plain)
  simpa [plain] using checked

theorem isAlphanum_of_mem_capitalize {word : List Char} {c : Char}
    (plain : ∀ c ∈ word, c.isAlphanum = true) (found : c ∈ capitalize word) :
    c.isAlphanum = true := by
  cases word with
  | nil => simp [capitalize] at found
  | cons first rest =>
      simp only [capitalize, List.mem_cons, List.mem_map] at found
      rcases found with same | ⟨letter, inRest, lowered⟩
      · rw [same]
        exact isAlphanum_toUpper (plain first List.mem_cons_self)
      · rw [← lowered]
        exact isAlphanum_toLower (plain letter (List.mem_cons_of_mem _ inRest))

section

variable {normal : List Char → List Char}

theorem isAlphanum_of_mem_wordsBy {name : String} {word : List Char} {c : Char}
    (isWord : word ∈ wordsBy normal name) (inWord : c ∈ word) : c.isAlphanum = true := by
  simp only [wordsBy, List.mem_filter] at isWord
  have kept := mem_of_mem_pieces isWord.1 inWord
  simp only [List.mem_filter, isWordChar, Bool.or_eq_true] at kept
  rcases kept.1.2 with letter | separator
  · exact letter
  · rw [kept.2] at separator
    contradiction

theorem isAlphanum_of_mem_pascalBy {name : String} {c : Char}
    (found : c ∈ pascalBy normal name) : c.isAlphanum = true := by
  obtain ⟨word, isWord, inWord⟩ := List.mem_flatMap.mp found
  exact isAlphanum_of_mem_capitalize (fun _ => isAlphanum_of_mem_wordsBy isWord) inWord

theorem isAlphanum_of_mem_camelBy {name : String} {c : Char}
    (found : c ∈ camelBy normal name) : c.isAlphanum = true := by
  unfold camelBy at found
  cases pascal : pascalBy normal name with
  | nil => simp [pascal] at found
  | cons first rest =>
      have plain : ∀ c ∈ first :: rest, c.isAlphanum = true := by
        intro c member
        rw [← pascal] at member
        exact isAlphanum_of_mem_pascalBy member
      simp only [pascal, List.mem_cons] at found
      rcases found with same | inRest
      · rw [same]
        exact isAlphanum_toLower (plain first List.mem_cons_self)
      · exact plain c (List.mem_cons_of_mem _ inRest)

theorem isPlain_ofList {cs : List Char} (plain : ∀ c ∈ cs, c.isAlphanum = true) :
    IsPlain (String.ofList cs) := by
  rwa [IsPlain, String.toList_ofList]

theorem isPlain_pascalBy (name : String) : IsPlain (String.ofList (pascalBy normal name)) :=
  isPlain_ofList fun _ => isAlphanum_of_mem_pascalBy

theorem isPlain_camelBy (name : String) : IsPlain (String.ofList (camelBy normal name)) :=
  isPlain_ofList fun _ => isAlphanum_of_mem_camelBy

theorem isPlain_classNameBy (name : String) : IsPlain (classNameBy normal name) := by
  unfold classNameBy
  split
  · exact List.all_eq_true.mp (by decide)
  · exact isPlain_camelBy name

theorem isPlain_componentNameBy (name : String) : IsPlain (componentNameBy normal name) := by
  unfold componentNameBy
  split
  · exact List.all_eq_true.mp (by decide)
  · exact isPlain_pascalBy name

theorem classNameBy_ne_empty (name : String) : classNameBy normal name ≠ "" := by
  unfold classNameBy
  split
  · decide
  · rename_i named
    simpa [String.ext_iff] using named

theorem componentNameBy_ne_empty (name : String) : componentNameBy normal name ≠ "" := by
  unfold componentNameBy
  split
  · decide
  · rename_i named
    simpa [String.ext_iff] using named

end

theorem isAlphanum_of_mem_pascalChars {name : String} {c : Char}
    (found : c ∈ pascalChars name) : c.isAlphanum = true :=
  isAlphanum_of_mem_pascalBy found

theorem isPlain_pascalCase (name : String) : IsPlain (pascalCase name) :=
  isPlain_pascalBy name

theorem isPlain_camelCase (name : String) : IsPlain (camelCase name) :=
  isPlain_camelBy name

theorem isPlain_className (name : String) : IsPlain (className name) :=
  isPlain_classNameBy name

theorem isPlain_componentName (name : String) : IsPlain (componentName name) :=
  isPlain_componentNameBy name

theorem className_ne_empty (name : String) : className name ≠ "" :=
  classNameBy_ne_empty name

theorem componentName_ne_empty (name : String) : componentName name ≠ "" :=
  componentNameBy_ne_empty name

theorem isPlain_append {first second : String} (firstPlain : IsPlain first)
    (secondPlain : IsPlain second) : IsPlain (first ++ second) := by
  intro c found
  rw [String.toList_append, List.mem_append] at found
  rcases found with inFirst | inSecond
  · exact firstPlain c inFirst
  · exact secondPlain c inSecond

theorem isPlain_natText (n : Nat) : IsPlain (Decimal.natText n) := by
  intro c found
  rw [Decimal.natText, String.toList_ofList] at found
  have digit := Nat.isDigit_of_mem_toDigits (by decide) (by decide) found
  simp [Char.isAlphanum, digit]

theorem lowerFrom_ascii {behind cs : List Char} (ascii : ∀ c ∈ cs, c.toNat < 128) :
    lowerFrom behind cs = cs.map Char.toLower := by
  induction cs generalizing behind with
  | nil => rfl
  | cons c rest ih =>
      have small := ascii c List.mem_cons_self
      have notSigma : c.toNat ≠ 0x3A3 := by omega
      simp only [lowerFrom, notSigma, if_false, lowerChar, small, if_true, List.map_cons]
      rw [ih fun c later => ascii c (List.mem_cons_of_mem _ later)]
      rfl

theorem lower_of_isPlain {name : String} (plain : IsPlain name) :
    lower name = String.ofList (name.toList.map Char.toLower) := by
  rw [lower, lowerFrom_ascii fun c found => ascii_of_isAlphanum (plain c found)]

end DesignToCode.Naming
