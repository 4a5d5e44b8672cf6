import DesignToCode.Proofs.DesignLink.Separators

/-!
Where a key and an id are found in a text.
-/

namespace DesignToCode.DesignLink

def keyMarks : List String :=
  ["figma.com/design/", "figma.com/file/"]

def idMarks : List String :=
  ["?node-id=", "&node-id="]

/-- One of the marks stands at the place, and directly after it an accepted character. -/
def MarkedAt (marks : List String) (accepts : Char → Bool) (text : List Char) (place : Nat) :
    Prop :=
  ∃ mark ∈ marks, ∃ c after, text.drop place = mark.toList ++ c :: after ∧ accepts c = true

structure Filled (accepts : Char → Bool) (value : List Char) : Prop where
  nonempty : value ≠ []
  accepted : ∀ c ∈ value, accepts c = true

/-- The accepted characters that follow a mark at the start of the text, up to the first one that is
not accepted or to the end. -/
structure ValueAtStart (marks : List String) (accepts : Char → Bool) (text value : List Char) :
    Prop where
  filled : Filled accepts value
  split : ∃ mark ∈ marks, ∃ after,
    text = mark.toList ++ (value ++ after) ∧ after.head?.any accepts = false

/-- The value at the leftmost marked place of the text. -/
def FirstValue (marks : List String) (accepts : Char → Bool) (text value : List Char) : Prop :=
  ∃ place, ValueAtStart marks accepts (text.drop place) value ∧
    ∀ earlier < place, ¬MarkedAt marks accepts text earlier

def afterEither? (first second : String) (cs : List Char) : Option (List Char) :=
  match afterStart? first.toList cs with
  | some rest => some rest
  | none => afterStart? second.toList cs

def valueHere (first second : String) (accepts : Char → Bool) (cs : List Char) :
    Option (List Char) :=
  (afterEither? first second cs).bind fun rest => nonEmpty? (rest.takeWhile accepts)

theorem keyHere_eq : keyHere = valueHere "figma.com/design/" "figma.com/file/" isKeyChar := by
  rfl

theorem idHere_eq : idHere = valueHere "?node-id=" "&node-id=" isIdChar := by
  rfl

theorem afterStart?_eq_some_iff {start cs rest : List Char} :
    afterStart? start cs = some rest ↔ cs = start ++ rest := by
  constructor
  · intro found
    induction start generalizing cs with
    | nil => exact Option.some.inj found
    | cons s start ih =>
        cases cs with
        | nil => cases found
        | cons c cs =>
            simp only [afterStart?] at found
            split at found
            · rename_i same
              rw [List.cons_append, ← ih found, beq_iff_eq.mp same]
            · cases found
  · rintro rfl
    exact afterStart?_append start rest

theorem nonEmpty?_takeWhile_eq_some_iff {accepts : Char → Bool} {cs value : List Char} :
    nonEmpty? (cs.takeWhile accepts) = some value ↔
      Filled accepts value ∧
        ∃ after, cs = value ++ after ∧ after.head?.any accepts = false := by
  constructor
  · intro found
    rw [nonEmpty?] at found
    split at found
    · cases found
    · rename_i nonempty
      obtain rfl := Option.some.inj found
      refine ⟨⟨by simpa using nonempty, List.all_eq_true.mp List.all_takeWhile⟩,
        cs.dropWhile accepts, List.takeWhile_append_dropWhile.symm, ?_⟩
      have stops := List.head?_dropWhile_not accepts cs
      cases next : (cs.dropWhile accepts).head? with
      | none => rfl
      | some c =>
          rw [next] at stops
          simpa using stops
  · rintro ⟨filled, after, rfl, stops⟩
    have run : (value ++ after).takeWhile accepts = value := by
      rw [List.takeWhile_append_of_pos filled.accepted]
      cases after with
      | nil => simp
      | cons c after => simp_all
    rw [run, nonEmpty?, if_neg (by simpa using filled.nonempty)]

def Apart (first second : String) : Prop :=
  ¬first.toList <+: second.toList ∧ ¬second.toList <+: first.toList

instance (first second : String) : Decidable (Apart first second) :=
  inferInstanceAs (Decidable (_ ∧ _))

section

variable {first second : String} {accepts : Char → Bool}

theorem afterEither?_eq_some_iff (apart : Apart first second) {cs rest : List Char} :
    afterEither? first second cs = some rest ↔
      cs = first.toList ++ rest ∨ cs = second.toList ++ rest := by
  rw [afterEither?]
  split
  · rename_i found here
    rw [afterStart?_eq_some_iff] at here
    subst here
    constructor
    · rintro ⟨rfl⟩
      exact Or.inl rfl
    · rintro (same | other)
      · rw [List.append_cancel_left same]
      · have both := List.prefix_or_prefix_of_prefix (List.prefix_append first.toList found)
          (other ▸ List.prefix_append second.toList rest)
        exact absurd both (not_or.mpr apart)
  · rename_i absent
    rw [afterStart?_eq_some_iff]
    constructor
    · exact Or.inr
    · rintro (here | there)
      · rw [here, afterStart?_append] at absent
        cases absent
      · exact there

theorem valueHere_eq_some_iff (apart : Apart first second) {cs value : List Char} :
    valueHere first second accepts cs = some value ↔
      ValueAtStart [first, second] accepts cs value := by
  rw [valueHere, Option.bind_eq_some_iff]
  simp only [afterEither?_eq_some_iff apart, nonEmpty?_takeWhile_eq_some_iff]
  constructor
  · rintro ⟨rest, here, filled, after, rfl, stops⟩
    refine ⟨filled, ?_⟩
    rcases here with here | here
    · exact ⟨first, by simp, after, here, stops⟩
    · exact ⟨second, by simp, after, here, stops⟩
  · rintro ⟨filled, mark, isMark, after, here, stops⟩
    refine ⟨value ++ after, ?_, filled, after, rfl, stops⟩
    simp only [List.mem_cons, List.not_mem_nil, or_false] at isMark
    rcases isMark with rfl | rfl
    · exact Or.inl here
    · exact Or.inr here

theorem isSome_valueHere_iff (apart : Apart first second) {text : List Char} {place : Nat} :
    (valueHere first second accepts (text.drop place)).isSome = true ↔
      MarkedAt [first, second] accepts text place := by
  constructor
  · intro found
    obtain ⟨value, isValue⟩ := Option.isSome_iff_exists.mp found
    obtain ⟨⟨nonempty, accepted⟩, mark, isMark, after, here, _⟩ :=
      (valueHere_eq_some_iff apart).mp isValue
    obtain ⟨c, rest, rfl⟩ := List.exists_cons_of_ne_nil nonempty
    exact ⟨mark, isMark, c, rest ++ after, here, accepted c List.mem_cons_self⟩
  · rintro ⟨mark, isMark, c, after, here, accepted⟩
    simp only [List.mem_cons, List.not_mem_nil, or_false] at isMark
    have marked : afterEither? first second (text.drop place) = some (c :: after) := by
      rw [afterEither?_eq_some_iff apart, here]
      rcases isMark with rfl | rfl
      · exact Or.inl rfl
      · exact Or.inr rfl
    rw [valueHere, marked]
    exact isSome_nonEmpty?_takeWhile accepted after

theorem valueHere_nil (apart : Apart first second) :
    valueHere first second accepts [] = none := by
  cases found : valueHere first second accepts [] with
  | none => rfl
  | some value =>
      obtain ⟨filled, mark, _, after, split, _⟩ := (valueHere_eq_some_iff apart).mp found
      have empty := List.append_eq_nil_iff.mp (List.append_eq_nil_iff.mp split.symm).2
      exact absurd empty.1 filled.nonempty

end

theorem firstMatch_eq_some_iff {here : List Char → Option (List Char)} (noneAtEnd : here [] = none)
    {text value : List Char} :
    firstMatch here text = some value ↔
      ∃ place, here (text.drop place) = some value ∧
        ∀ earlier < place, here (text.drop earlier) = none := by
  induction text with
  | nil => simp [firstMatch, noneAtEnd]
  | cons c rest ih =>
      rw [firstMatch]
      cases atStart : here (c :: rest) with
      | some found =>
          constructor
          · rintro ⟨rfl⟩
            exact ⟨0, atStart, by simp⟩
          · rintro ⟨place, isValue, before⟩
            cases place with
            | zero => rwa [List.drop_zero, atStart] at isValue
            | succ place =>
                have impossible := before 0 (Nat.succ_pos place)
                rw [List.drop_zero, atStart] at impossible
                cases impossible
      | none =>
          simp only [ih]
          constructor
          · rintro ⟨place, isValue, before⟩
            refine ⟨place + 1, isValue, ?_⟩
            intro earlier early
            cases earlier with
            | zero => exact atStart
            | succ earlier => exact before earlier (by omega)
          · rintro ⟨place, isValue, before⟩
            cases place with
            | zero =>
                rw [List.drop_zero, atStart] at isValue
                cases isValue
            | succ place =>
                exact ⟨place, isValue, fun earlier early => before (earlier + 1) (by omega)⟩

section

variable {first second : String} {accepts : Char → Bool} {text : List Char}

theorem firstMatch_valueHere_iff (apart : Apart first second) {value : List Char} :
    firstMatch (valueHere first second accepts) text = some value ↔
      FirstValue [first, second] accepts text value := by
  rw [firstMatch_eq_some_iff (valueHere_nil apart), FirstValue]
  simp only [valueHere_eq_some_iff apart, ← isSome_valueHere_iff apart, Bool.not_eq_true,
    Option.isSome_eq_false_iff, Option.isNone_iff_eq_none]

theorem isSome_firstMatch_valueHere_iff (apart : Apart first second) :
    (firstMatch (valueHere first second accepts) text).isSome = true ↔
      ∃ place, MarkedAt [first, second] accepts text place := by
  constructor
  · intro found
    obtain ⟨value, isFirst⟩ := Option.isSome_iff_exists.mp found
    obtain ⟨place, isValue, _⟩ := (firstMatch_eq_some_iff (valueHere_nil apart)).mp isFirst
    exact ⟨place, (isSome_valueHere_iff apart).mp (by rw [isValue]; rfl)⟩
  · rintro ⟨place, marked⟩
    have found := (isSome_valueHere_iff apart).mpr marked
    have nonempty : text.drop place ≠ [] := by
      intro atEnd
      rw [atEnd, valueHere_nil apart] at found
      cases found
    rw [← List.take_append_drop place text]
    exact isSome_firstMatch_append nonempty found

end

theorem firstMatch_keyHere_iff {text key : List Char} :
    firstMatch keyHere text = some key ↔ FirstValue keyMarks isKeyChar text key := by
  rw [keyHere_eq]
  exact firstMatch_valueHere_iff (by decide)

theorem firstMatch_idHere_iff {text id : List Char} :
    firstMatch idHere text = some id ↔ FirstValue idMarks isIdChar text id := by
  rw [idHere_eq]
  exact firstMatch_valueHere_iff (by decide)

theorem parse?_eq_some_iff {url : String} {link : DesignLink} :
    parse? url = some link ↔
      FirstValue keyMarks isKeyChar url.toList link.fileKey.toList ∧
        ∃ id, FirstValue idMarks isIdChar url.toList id ∧ link.nodeId.toList = dashed id := by
  simp only [← firstMatch_keyHere_iff, ← firstMatch_idHere_iff]
  constructor
  · intro parsed
    rw [parse?] at parsed
    split at parsed
    · rename_i key id isKey isId
      cases parsed
      exact ⟨by rwa [String.toList_ofList], id, isId, String.toList_ofList⟩
    · cases parsed
  · rintro ⟨isKey, id, isId, dashes⟩
    simp only [parse?, isKey, isId, ← dashes, String.ofList_toList]

theorem FirstValue.filled {marks : List String} {accepts : Char → Bool} {text value : List Char}
    (isFirst : FirstValue marks accepts text value) : Filled accepts value := by
  obtain ⟨_, atStart, _⟩ := isFirst
  exact atStart.filled

theorem isSome_firstMatch_keyHere_iff {text : List Char} :
    (firstMatch keyHere text).isSome = true ↔ ∃ place, MarkedAt keyMarks isKeyChar text place := by
  rw [keyHere_eq]
  exact isSome_firstMatch_valueHere_iff (by decide)

theorem isSome_firstMatch_idHere_iff {text : List Char} :
    (firstMatch idHere text).isSome = true ↔ ∃ place, MarkedAt idMarks isIdChar text place := by
  rw [idHere_eq]
  exact isSome_firstMatch_valueHere_iff (by decide)

/-- A text is a link exactly if a key and an id are marked in it. The link consists of the leftmost
of each, as far as they go, and has dashes for the separators of the id. -/
theorem parse?_iff_marked (url : String) :
    ((parse? url).isSome = true ↔
      (∃ place, MarkedAt keyMarks isKeyChar url.toList place) ∧
        ∃ place, MarkedAt idMarks isIdChar url.toList place) ∧
    ∀ link, parse? url = some link ↔
      FirstValue keyMarks isKeyChar url.toList link.fileKey.toList ∧
      (∃ id, FirstValue idMarks isIdChar url.toList id ∧
        Replaced separators ['-'] id link.nodeId.toList) ∧
      link.nodeId ≠ "" := by
  constructor
  · rw [isSome_parse?, isSome_firstMatch_keyHere_iff, isSome_firstMatch_idHere_iff]
  · intro link
    simp only [parse?_eq_some_iff, replaced_iff]
    constructor
    · rintro ⟨isKey, id, isId, dashes⟩
      refine ⟨isKey, ⟨id, isId, dashes⟩, ?_⟩
      intro empty
      rw [empty] at dashes
      exact (replaced_dashed id).ne_nil (by decide) isId.filled.nonempty dashes.symm
    · rintro ⟨isKey, isId, _⟩
      exact ⟨isKey, isId⟩

end DesignToCode.DesignLink
