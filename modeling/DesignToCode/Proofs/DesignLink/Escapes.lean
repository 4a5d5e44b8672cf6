import DesignToCode.Json.Literal
import DesignToCode.Proofs.DesignLink.RoundTrip
import DesignToCode.Proofs.Naming.Plain

/-!
Ids that are spelled with escapes, of which reading a link undoes those of colons.
-/

namespace DesignToCode.DesignLink

open DesignToCode.Json DesignToCode.Naming DesignToCode.Text

structure CodeDigits (c high low : Char) : Prop where
  ascii : c.toNat < 128
  high : hexValue? high = some (c.toNat / 16)
  low : hexValue? low = some (c.toNat % 16)

/-- The second text spells the first one: each character stands for itself, or is escaped if that is
allowed. -/
inductive Spelled (escapes : Char → Prop) : List Char → List Char → Prop
  | nil : Spelled escapes [] []
  | plain {c : Char} {id text : List Char} : Spelled escapes id text →
      Spelled escapes (c :: id) (c :: text)
  | escaped {c high low : Char} {id text : List Char} : escapes c → CodeDigits c high low →
      Spelled escapes id text → Spelled escapes (c :: id) ('%' :: high :: low :: text)

def isApiIdChar (c : Char) : Bool :=
  isIdChar c && c != '-' && c != '%'

theorem ascii_of_le {c last : Char} (before : c ≤ last) (ascii : last.toNat < 128) :
    c.toNat < 128 :=
  Nat.lt_of_le_of_lt (UInt32.le_iff_toNat_le.mp before) ascii

theorem isAlphanum_of_hexValue? {digit : Char} {value : Nat}
    (isDigit : hexValue? digit = some value) : digit.isAlphanum = true := by
  have ascii : digit.toNat < 128 := by
    rw [hexValue?] at isDigit
    split at isDigit
    · rename_i decimal
      exact ascii_of_isAlphanum (by simp [Char.isAlphanum, decimal])
    · split at isDigit
      · rename_i small
        simp only [Bool.and_eq_true, decide_eq_true_eq] at small
        exact ascii_of_le small.2 (by decide)
      · split at isDigit
        · rename_i capital
          simp only [Bool.and_eq_true, decide_eq_true_eq] at capital
          exact ascii_of_le capital.2 (by decide)
        · cases isDigit
  have checked := of_ascii (fun c => !(hexValue? c).isSome || c.isAlphanum) (by decide) ascii
  simpa [isDigit] using checked

namespace CodeDigits

variable {c high low : Char}

theorem isAlphanum (digits : CodeDigits c high low) :
    ∀ digit ∈ [high, low], digit.isAlphanum = true := by
  simp only [List.mem_cons, List.not_mem_nil, or_false]
  rintro digit (rfl | rfl)
  · exact isAlphanum_of_hexValue? digits.high
  · exact isAlphanum_of_hexValue? digits.low

theorem ordinary (digits : CodeDigits c high low) : ∀ digit ∈ [high, low], Ordinary digit := by
  intro digit member
  have plain := digits.isAlphanum digit member
  refine ⟨?_, ?_, ?_⟩ <;>
  · rintro rfl
    exact absurd plain (by decide)

theorem mem_colonCodes_iff (digits : CodeDigits c high low) :
    [high, low] ∈ colonCodes ↔ c = ':' := by
  constructor
  · intro isCode
    obtain ⟨isThree, isTen⟩ : hexValue? high = some 3 ∧ hexValue? low = some 10 := by
      simp only [colonCodes, List.mem_cons, List.cons.injEq, List.not_mem_nil, or_false] at isCode
      rcases isCode with ⟨rfl, rfl, _⟩ | ⟨rfl, rfl, _⟩ <;> exact ⟨rfl, rfl⟩
    have three : 3 = c.toNat / 16 := Option.some.inj (isThree.symm.trans digits.high)
    have ten : 10 = c.toNat % 16 := Option.some.inj (isTen.symm.trans digits.low)
    have code : c.toNat = 58 := by omega
    rw [← Char.ofNat_toNat c, code]
  · rintro rfl
    have three := of_ascii (fun c => hexValue? c != some 3 || c == '3') (by decide)
      (ascii_of_isAlphanum (isAlphanum_of_hexValue? digits.high))
    have ten := of_ascii (fun c => hexValue? c != some 10 || c == 'A' || c == 'a') (by decide)
      (ascii_of_isAlphanum (isAlphanum_of_hexValue? digits.low))
    have isThree : high = '3' := by simpa [digits.high] using three
    have isTen : low = 'A' ∨ low = 'a' := by simpa [digits.low] using ten
    rw [isThree]
    rcases isTen with rfl | rfl <;> decide

end CodeDigits

theorem apiForm_ordinary {word : List Char} (ordinary : ∀ c ∈ word, Ordinary c)
    (rest : List Char) : apiForm (word ++ rest) = word ++ apiForm rest := by
  induction word with
  | nil => rfl
  | cons c word ih =>
      obtain ⟨_, notPercent, notDash⟩ := ordinary c List.mem_cons_self
      rw [List.cons_append, apiForm_cons notPercent notDash,
        ih fun c member => ordinary c (List.mem_cons_of_mem _ member), List.cons_append]

theorem apiForm_percent {rest : List Char} (plain : NoEscape ('%' :: rest)) :
    apiForm ('%' :: rest) = '%' :: apiForm rest := by
  rw [apiForm, dashed_cons plain]
  rfl

theorem apiForm_escape {code : List Char} (isCode : code ∈ colonCodes) (rest : List Char) :
    apiForm ('%' :: (code ++ rest)) = ':' :: apiForm rest := by
  rw [apiForm, dashed_escape isCode]
  rfl

theorem noEscape_of_codeDigits {c high low : Char} (digits : CodeDigits c high low)
    (notColon : c ≠ ':') (rest : List Char) : NoEscape ('%' :: ([high, low] ++ rest)) := by
  intro code isCode here
  have twoDigits : ∀ code ∈ colonCodes, code.length = 2 := by decide
  have same : code = [high, low] := by
    have start := List.prefix_iff_eq_take.mp (List.cons_prefix_cons.mp here).2
    rw [twoDigits code isCode] at start
    exact start
  exact notColon (digits.mem_colonCodes_iff.mp (same ▸ isCode))

theorem apiForm_escaped {c high low : Char} (digits : CodeDigits c high low) (rest : List Char) :
    apiForm ('%' :: high :: low :: rest) =
      if c = ':' then ':' :: apiForm rest else '%' :: high :: low :: apiForm rest := by
  change apiForm ('%' :: ([high, low] ++ rest)) = _
  split
  · rename_i colon
    exact apiForm_escape (digits.mem_colonCodes_iff.mpr colon) rest
  · rename_i notColon
    rw [apiForm_percent (noEscape_of_codeDigits digits notColon rest),
      apiForm_ordinary digits.ordinary]
    rfl

theorem isIdChar_of_isAlphanum {c : Char} (plain : c.isAlphanum = true) : isIdChar c = true := by
  simp only [isIdChar, Bool.and_eq_true, bne_iff_ne]
  constructor <;>
  · rintro rfl
    exact absurd plain (by decide)

namespace Spelled

variable {escapes : Char → Prop} {id text : List Char}

theorem eq_of_never (never : ∀ c, ¬escapes c) (spelled : Spelled escapes id text) : text = id := by
  induction spelled with
  | nil => rfl
  | plain _ ih => rw [ih]
  | escaped allowed => exact absurd allowed (never _)

theorem filled (isId : Filled isApiIdChar id) (spelled : Spelled escapes id text) :
    Filled isIdChar text where
  nonempty := by
    cases spelled with
    | nil => exact isId.nonempty
    | plain => exact List.cons_ne_nil _ _
    | escaped => exact List.cons_ne_nil _ _
  accepted := by
    have accepted := isId.accepted
    clear isId
    induction spelled with
    | nil => simp
    | @plain c id text _ ih =>
        intro d found
        rcases List.mem_cons.mp found with rfl | later
        · have isPlain := accepted d List.mem_cons_self
          simp only [isApiIdChar, Bool.and_eq_true] at isPlain
          exact isPlain.1.1
        · exact ih (fun c member => accepted c (List.mem_cons_of_mem _ member)) d later
    | @escaped c high low id text _ digits _ ih =>
        intro d found
        rcases List.mem_cons.mp found with rfl | found
        · decide
        · rcases List.mem_append.mp (show d ∈ [high, low] ++ text from found) with isDigit | later
          · exact isIdChar_of_isAlphanum (digits.isAlphanum d isDigit)
          · exact ih (fun c member => accepted c (List.mem_cons_of_mem _ member)) d later

theorem spelled_apiForm (plain : ∀ c ∈ id, isApiIdChar c = true)
    (spelled : Spelled escapes id text) :
    Spelled (fun c => escapes c ∧ c ≠ ':') id (apiForm text) := by
  induction spelled with
  | nil => exact .nil
  | @plain c id text _ ih =>
      have isPlain := plain c List.mem_cons_self
      simp only [isApiIdChar, Bool.and_eq_true, bne_iff_ne] at isPlain
      rw [apiForm_cons isPlain.2 isPlain.1.2]
      exact .plain (ih fun c member => plain c (List.mem_cons_of_mem _ member))
  | @escaped c high low id text allowed digits _ ih =>
      have later := ih fun c member => plain c (List.mem_cons_of_mem _ member)
      rw [apiForm_escaped digits]
      split
      · rename_i colon
        rw [colon]
        exact .plain later
      · rename_i notColon
        exact .escaped ⟨allowed, notColon⟩ digits later

theorem onlyColons_of_apiForm_eq (plain : ∀ c ∈ id, isApiIdChar c = true)
    (spelled : Spelled escapes id text) (same : apiForm text = id) :
    Spelled (· = ':') id text := by
  induction spelled with
  | nil => exact .nil
  | @plain c id text _ ih =>
      have isPlain := plain c List.mem_cons_self
      simp only [isApiIdChar, Bool.and_eq_true, bne_iff_ne] at isPlain
      rw [apiForm_cons isPlain.2 isPlain.1.2] at same
      exact .plain (ih (fun c member => plain c (List.mem_cons_of_mem _ member))
        (List.cons.inj same).2)
  | @escaped c high low id text allowed digits _ ih =>
      rw [apiForm_escaped digits] at same
      split at same
      · rename_i colon
        exact .escaped colon digits (ih (fun c member => plain c (List.mem_cons_of_mem _ member))
          (List.cons.inj same).2)
      · have isPlain := plain c List.mem_cons_self
        rw [← (List.cons.inj same).1] at isPlain
        exact absurd isPlain (by decide)

theorem apiForm_eq_iff (plain : ∀ c ∈ id, isApiIdChar c = true)
    (spelled : Spelled escapes id text) :
    apiForm text = id ↔ Spelled (· = ':') id text := by
  constructor
  · exact spelled.onlyColons_of_apiForm_eq plain
  · intro onlyColons
    have noEscapes := onlyColons.spelled_apiForm plain
    exact noEscapes.eq_of_never fun c escaped => escaped.2 escaped.1

end Spelled

/-- A link is found whatever characters of its id are escaped. The id for the API is the one that
was meant exactly if nothing but colons was escaped. -/
theorem apiNodeId_eq_iff_onlyColons {key id text : String} (isKey : Filled isKeyChar key.toList)
    (isId : Filled isApiIdChar id.toList)
    (spelled : Spelled (fun _ => True) id.toList text.toList) :
    ∃ link, parse? ("https://www.figma.com/design/" ++ key ++ "?node-id=" ++ text) = some link ∧
      link.fileKey = key ∧ Spelled (· ≠ ':') id.toList link.apiNodeId.toList ∧
      (link.apiNodeId = id ↔ Spelled (· = ':') id.toList text.toList) := by
  refine ⟨_, parse?_address isKey (spelled.filled isId), rfl, ?_, ?_⟩
  · rw [toList_apiNodeId]
    simpa only [true_and] using spelled.spelled_apiForm isId.accepted
  · rw [← String.toList_inj, toList_apiNodeId]
    exact spelled.apiForm_eq_iff isId.accepted

def nestedId : String :=
  "I1:2;3:4"

theorem apiNodeId_eq_iff_onlyColons_nestedId :
    Spelled (· = ':') nestedId.toList "I1%3a2;3%3A4".toList ∧
    ∃ link, parse? ("https://www.figma.com/design/" ++ "ABC123" ++ "?node-id=" ++ "I1%3a2;3%3A4") =
      some link ∧ link.fileKey = "ABC123" ∧ link.apiNodeId = nestedId := by
  have colon (low : Char) (isTen : hexValue? low = some 10) : CodeDigits ':' '3' low :=
    ⟨by decide, rfl, isTen⟩
  have onlyColons : Spelled (· = ':') nestedId.toList "I1%3a2;3%3A4".toList :=
    .plain <| .plain <| .escaped rfl (colon 'a' rfl) <| .plain <| .plain <| .plain <|
      .escaped rfl (colon 'A' rfl) <| .plain .nil
  have spelled : Spelled (fun _ => True) nestedId.toList "I1%3a2;3%3A4".toList :=
    .plain <| .plain <| .escaped trivial (colon 'a' rfl) <| .plain <| .plain <| .plain <|
      .escaped trivial (colon 'A' rfl) <| .plain .nil
  have isKey : Filled isKeyChar "ABC123".toList :=
    ⟨by decide, List.all_eq_true.mp (by decide)⟩
  have isId : Filled isApiIdChar nestedId.toList :=
    ⟨by decide, List.all_eq_true.mp (by decide)⟩
  obtain ⟨link, parsed, sameKey, _, sameId⟩ := apiNodeId_eq_iff_onlyColons isKey isId spelled
  exact ⟨onlyColons, link, parsed, sameKey, sameId.mpr onlyColons⟩

theorem apiNodeId_ne_escapedNestedId :
    let url := "https://www.figma.com/design/ABC123?node-id=I1%3A2%3B3%3A4"
    Filled isApiIdChar nestedId.toList ∧
      Spelled (fun _ => True) nestedId.toList "I1%3A2%3B3%3A4".toList ∧
      url = "https://www.figma.com/design/" ++ "ABC123" ++ "?node-id=" ++ "I1%3A2%3B3%3A4" ∧
      ∃ link, parse? url = some link ∧ link.apiNodeId = "I1:2%3B3:4" ∧
        link.apiNodeId ≠ nestedId := by
  intro url
  have colon : CodeDigits ':' '3' 'A' := ⟨by decide, rfl, rfl⟩
  have semicolon : CodeDigits ';' '3' 'B' := ⟨by decide, rfl, rfl⟩
  refine ⟨⟨by decide, List.all_eq_true.mp (by decide)⟩, ?_, by decide,
    ⟨"ABC123", "I1-2%3B3-4"⟩, by decide +kernel, by decide, by decide⟩
  exact .plain <| .plain <| .escaped trivial colon <| .plain <| .escaped trivial semicolon <|
    .plain <| .escaped trivial colon <| .plain .nil

end DesignToCode.DesignLink
