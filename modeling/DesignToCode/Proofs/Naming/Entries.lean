import DesignToCode.Proofs.Naming.Identifiers
import DesignToCode.Proofs.Workspace.Joining

/-!
Names that are made from any text and can name an entry of a folder.
-/

namespace DesignToCode

namespace Naming

/-- What holds of the names made from a text, whatever its normal form is. -/
structure NamedPlainly (normal : List Char → List Char) (text : String) : Prop where
  pascal : IsPlain (String.ofList (pascalBy normal text))
  camel : IsPlain (String.ofList (camelBy normal text))
  forClass : IsPlain (classNameBy normal text)
  forComponent : IsPlain (componentNameBy normal text)
  classNonempty : classNameBy normal text ≠ ""
  componentNonempty : componentNameBy normal text ≠ ""
  sameLetters : Text.lower (String.ofList (pascalBy normal text)) =
    Text.lower (String.ofList (camelBy normal text))

theorem toLower_toLower {c : Char} (plain : c.isAlphanum = true) : c.toLower.toLower = c.toLower :=
  beq_iff_eq.mp (of_ascii (fun c => c.toLower.toLower == c.toLower) (by decide)
    (ascii_of_isAlphanum plain))

theorem lower_pascalBy (normal : List Char → List Char) (text : String) :
    Text.lower (String.ofList (pascalBy normal text)) =
      Text.lower (String.ofList (camelBy normal text)) := by
  rw [lower_of_isPlain (isPlain_pascalBy text), lower_of_isPlain (isPlain_camelBy text),
    String.toList_ofList, String.toList_ofList, camelBy]
  cases pascal : pascalBy normal text with
  | nil => rfl
  | cons first rest =>
      have isFirst : first ∈ pascalBy normal text := pascal ▸ List.mem_cons_self
      simp only [List.map_cons, toLower_toLower (isAlphanum_of_mem_pascalBy isFirst)]

theorem namedPlainly (normal : List Char → List Char) (text : String) :
    NamedPlainly normal text where
  pascal := isPlain_pascalBy text
  camel := isPlain_camelBy text
  forClass := isPlain_classNameBy text
  forComponent := isPlain_componentNameBy text
  classNonempty := classNameBy_ne_empty text
  componentNonempty := componentNameBy_ne_empty text
  sameLetters := lower_pascalBy normal text

end Naming

namespace IsEntryName

open DesignToCode.Naming

theorem of_alphanum_append {plain rest : String} (isPlain : IsPlain plain) (nonempty : plain ≠ "")
    (flat : '/' ∉ rest.toList) : IsEntryName (plain ++ rest) := by
  have noSlash : '/' ∉ plain.toList := fun found => by
    have letter := isPlain '/' found
    contradiction
  obtain ⟨first, later, spelled⟩ :=
    List.exists_cons_of_ne_nil fun nothing => nonempty (String.toList_eq_nil_iff.mp nothing)
  have notDot : first ≠ '.' := by
    rintro rfl
    have letter := isPlain '.' (spelled ▸ List.mem_cons_self)
    contradiction
  refine ⟨?_, ?_⟩
  · rw [String.toList_append, List.mem_append]
    exact not_or.mpr ⟨noSlash, flat⟩
  · simp [Workspace.isStep, String.toList_append, spelled, notDot]

theorem of_isPlain {name : String} (isPlain : IsPlain name) (nonempty : name ≠ "") :
    IsEntryName name := by
  rw [← String.append_empty (s := name)]
  exact of_alphanum_append isPlain nonempty (by decide)

theorem componentName (text : String) : IsEntryName (Naming.componentName text) :=
  of_isPlain (isPlain_componentName text) (componentName_ne_empty text)

theorem fileName (text : String) {extension : String} (flat : '/' ∉ extension.toList) :
    IsEntryName (Naming.componentName text ++ "." ++ extension) := by
  rw [String.append_assoc]
  refine of_alphanum_append (isPlain_componentName text) (componentName_ne_empty text) ?_
  rw [String.toList_append, List.mem_append]
  exact not_or.mpr ⟨by decide, flat⟩

end IsEntryName

end DesignToCode
