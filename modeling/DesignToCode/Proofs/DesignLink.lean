import DesignToCode.DesignLink

/-!
Which texts are good links.
-/

namespace DesignToCode.DesignLink

open DesignToCode.Text

theorem afterStart?_append (start rest : List Char) :
    afterStart? start (start ++ rest) = some rest := by
  induction start with
  | nil => rfl
  | cons c start ih => simp only [List.cons_append, afterStart?, beq_self_eq_true, if_true, ih]

theorem isSome_firstMatch_cons {here : List Char → Option (List Char)} {c : Char}
    {rest : List Char} :
    (firstMatch here (c :: rest)).isSome = true ↔
      (here (c :: rest)).isSome = true ∨ (firstMatch here rest).isSome = true := by
  rw [firstMatch]
  cases here (c :: rest) <;> simp

theorem isSome_firstMatch_append {here : List Char → Option (List Char)} {before rest : List Char}
    (nonempty : rest ≠ []) (found : (here rest).isSome = true) :
    (firstMatch here (before ++ rest)).isSome = true := by
  induction before with
  | nil =>
      obtain ⟨c, later, rfl⟩ := List.exists_cons_of_ne_nil nonempty
      exact isSome_firstMatch_cons.mpr (Or.inl found)
  | cons b before ih => exact isSome_firstMatch_cons.mpr (Or.inr ih)

theorem isSome_parse? {url : String} :
    (parse? url).isSome = true ↔
      (firstMatch keyHere url.toList).isSome = true ∧
        (firstMatch idHere url.toList).isSome = true := by
  rw [parse?]
  cases firstMatch keyHere url.toList <;> cases firstMatch idHere url.toList <;> simp

theorem isSome_nonEmpty?_takeWhile {accepts : Char → Bool} {c : Char} (accepted : accepts c = true)
    (rest : List Char) : (nonEmpty? ((c :: rest).takeWhile accepts)).isSome = true := by
  simp [nonEmpty?, accepted]

theorem isSome_keyHere {c : Char} (isKey : isKeyChar c = true) (rest : List Char) :
    (keyHere ("figma.com/design/".toList ++ c :: rest)).isSome = true := by
  rw [keyHere, afterStart?_append]
  exact isSome_nonEmpty?_takeWhile isKey rest

theorem isSome_idHere {c : Char} (isId : isIdChar c = true) (rest : List Char) :
    (idHere ("?node-id=".toList ++ c :: rest)).isSome = true := by
  rw [idHere, afterStart?_append]
  exact isSome_nonEmpty?_takeWhile isId rest

theorem toList_replace (old : Char) (new : List Char) (text : String) :
    (replace old new text).toList = replaceChar old new text.toList := by
  rw [replace, String.toList_ofList]

theorem replaceChar_colon_cons {c : Char} (isId : isIdChar c = true) (rest : List Char) :
    ∃ d, isIdChar d = true ∧ replaceChar ':' ['-'] (c :: rest) =
      d :: replaceChar ':' ['-'] rest := by
  simp only [replaceChar, List.flatMap_cons]
  by_cases colon : (c == ':') = true
  · exact ⟨'-', by decide, by simp [colon]⟩
  · exact ⟨c, isId, by simp [colon]⟩

theorem linkStart_eq :
    "https://www.figma.com/design/" = "https://www." ++ "figma.com/design/" := by
  simp

theorem toList_share (key id : String) :
    (share key id).toList =
      "https://www.".toList ++ ("figma.com/design/".toList ++ (key.toList ++
        ("?node-id=".toList ++ replaceChar ':' ['-'] id.toList))) := by
  unfold share
  simp only [linkStart_eq, String.toList_append, toList_replace, List.append_assoc]

def BeginsWith (accepts : Char → Bool) (text : String) : Prop :=
  text.toList.head?.any accepts = true

instance (accepts : Char → Bool) (text : String) : Decidable (BeginsWith accepts text) :=
  inferInstanceAs (Decidable (_ = true))

theorem BeginsWith.exists_cons {accepts : Char → Bool} {text : String}
    (begins : BeginsWith accepts text) :
    ∃ c rest, text.toList = c :: rest ∧ accepts c = true := by
  rw [BeginsWith] at begins
  cases split : text.toList with
  | nil => simp [split] at begins
  | cons c rest => exact ⟨c, rest, rfl, by simpa [split] using begins⟩

theorem isSome_parse?_share {key id : String} (keyBegins : BeginsWith isKeyChar key)
    (idBegins : BeginsWith isIdChar id) : (parse? (share key id)).isSome = true := by
  obtain ⟨c, keyRest, keyIs, isKey⟩ := keyBegins.exists_cons
  obtain ⟨d, idRest, idIs, isId⟩ := idBegins.exists_cons
  obtain ⟨e, stillId, replaced⟩ := replaceChar_colon_cons isId idRest
  rw [isSome_parse?, toList_share, keyIs, idIs, replaced]
  -- The key matches after the scheme, and the id after the scheme, the host and the key.
  constructor
  · exact isSome_firstMatch_append (by simp) (isSome_keyHere isKey _)
  · rw [← List.append_assoc, ← List.append_assoc]
    exact isSome_firstMatch_append (by simp) (isSome_idHere stillId _)

end DesignToCode.DesignLink
