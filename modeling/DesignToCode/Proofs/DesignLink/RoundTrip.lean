import DesignToCode.Proofs.DesignLink.Grammar

/-!
Links that are built and read again.
-/

namespace DesignToCode.DesignLink

open DesignToCode.Text

theorem not_markedAt_before {marks : List String} {accepts : Char → Bool} {before rest : List Char}
    (heads : ∀ mark ∈ marks, ∃ c word, mark.toList = c :: word ∧ c ∉ before) :
    ∀ earlier < before.length, ¬MarkedAt marks accepts (before ++ rest) earlier := by
  rintro earlier early ⟨mark, isMark, _, after, here, _⟩
  obtain ⟨c, word, split, absent⟩ := heads mark isMark
  rw [split, List.drop_append_of_le_length (Nat.le_of_lt early),
    List.drop_eq_getElem_cons early] at here
  have same : before[earlier] = c := (List.cons.inj here).1
  exact absent (same ▸ List.getElem_mem early)

theorem firstValue_append {marks : List String} {accepts : Char → Bool} {mark : String}
    {before value after : List Char} (isMark : mark ∈ marks)
    (heads : ∀ mark ∈ marks, ∃ c word, mark.toList = c :: word ∧ c ∉ before)
    (filled : Filled accepts value) (stops : after.head?.any accepts = false) :
    FirstValue marks accepts (before ++ (mark.toList ++ (value ++ after))) value := by
  refine ⟨before.length, ⟨filled, mark, isMark, after, ?_, stops⟩, not_markedAt_before heads⟩
  exact List.drop_left

theorem toList_address (key text : String) :
    ("https://www.figma.com/design/" ++ key ++ "?node-id=" ++ text).toList =
      "https://www.".toList ++ ("figma.com/design/".toList ++ (key.toList ++
        ("?node-id=".toList ++ text.toList))) := by
  simp only [linkStart_eq, String.toList_append, List.append_assoc]

theorem parse?_address {key text : String} (isKey : Filled isKeyChar key.toList)
    (isId : Filled isIdChar text.toList) :
    parse? ("https://www.figma.com/design/" ++ key ++ "?node-id=" ++ text) =
      some ⟨key, String.ofList (dashed text.toList)⟩ := by
  have keyHeads : ∀ mark ∈ keyMarks, ∃ c word,
      mark.toList = c :: word ∧ c ∉ "https://www.".toList := by
    intro mark isMark
    simp only [keyMarks, List.mem_cons, List.not_mem_nil, or_false] at isMark
    rcases isMark with rfl | rfl
    · exact ⟨'f', _, rfl, by decide⟩
    · exact ⟨'f', _, rfl, by decide⟩
  have apart {c : Char} (notKey : isKeyChar c = false)
      (absent : c ∉ "https://www.".toList ++ "figma.com/design/".toList) :
      c ∉ "https://www.".toList ++ "figma.com/design/".toList ++ key.toList := by
    intro found
    rcases List.mem_append.mp found with early | inKey
    · exact absent early
    · rw [isKey.accepted c inKey] at notKey
      cases notKey
  have idHeads : ∀ mark ∈ idMarks, ∃ c word, mark.toList = c :: word ∧
      c ∉ "https://www.".toList ++ "figma.com/design/".toList ++ key.toList := by
    intro mark isMark
    simp only [idMarks, List.mem_cons, List.not_mem_nil, or_false] at isMark
    rcases isMark with rfl | rfl
    · exact ⟨'?', _, rfl, apart (by decide) (by decide)⟩
    · exact ⟨'&', _, rfl, apart (by decide) (by decide)⟩
  rw [parse?_eq_some_iff, toList_address]
  refine ⟨?_, text.toList, ?_, String.toList_ofList⟩
  · exact firstValue_append List.mem_cons_self keyHeads isKey rfl
  · have isMark : "?node-id=" ∈ idMarks := List.mem_cons_self
    have atEnd : ([] : List Char).head?.any isIdChar = false := rfl
    have found := firstValue_append isMark idHeads isId atEnd
    simpa only [List.append_assoc, List.append_nil] using found

theorem Filled.of_replaced {olds : List (List Char)} {text out : List Char}
    (filled : Filled isIdChar text) (replaced : Replaced olds ['-'] text out) :
    Filled isIdChar out where
  nonempty := replaced.ne_nil (by decide) filled.nonempty
  accepted := by
    intro c found
    rcases replaced.mem_or_mem found with isDash | inText
    · rw [List.mem_singleton.mp isDash]
      decide
    · exact filled.accepted c inText

theorem dashed_replaceChar (text : List Char) :
    dashed (replaceChar ':' ['-'] text) = dashed text :=
  Replaced.dashed_eq (by decide) (by decide) (replaced_colons_iff.mpr rfl)

theorem dashed_dashed (text : List Char) : dashed (dashed text) = dashed text :=
  Replaced.dashed_eq (fun _ known => known) (by decide) (replaced_dashed text)

theorem parse?_share_eq {key id : String} (isKey : Filled isKeyChar key.toList)
    (isId : Filled isIdChar id.toList) :
    parse? (share key id) = some ⟨key, String.ofList (dashed id.toList)⟩ := by
  have isDashed : Filled isIdChar (replace ':' ['-'] id).toList := by
    rw [toList_replace]
    exact isId.of_replaced (replaced_colons_iff.mpr rfl)
  have parsed := parse?_address isKey isDashed
  rw [toList_replace, dashed_replaceChar] at parsed
  exact parsed

def apiForm (text : List Char) : List Char :=
  replaceChar '-' [':'] (dashed text)

theorem apiForm_cons {c : Char} (notPercent : c ≠ '%') (notDash : c ≠ '-') (rest : List Char) :
    apiForm (c :: rest) = c :: apiForm rest := by
  rw [apiForm, dashed_cons_of_ne notPercent, replaceChar_cons, ← apiForm]
  by_cases colon : c = ':'
  · subst c
    rfl
  · simp [colon, notDash]

theorem apiForm_of_plain {text : List Char} (noDash : '-' ∉ text) (noPercent : '%' ∉ text) :
    apiForm text = text := by
  induction text with
  | nil => rfl
  | cons c rest ih =>
      simp only [List.mem_cons, not_or] at noDash noPercent
      rw [apiForm_cons (Ne.symm noPercent.1) (Ne.symm noDash.1), ih noDash.2 noPercent.2]

theorem toList_apiNodeId (key : String) (text : List Char) :
    (DesignLink.mk key (String.ofList (dashed text))).apiNodeId.toList = apiForm text := by
  rw [apiNodeId, toList_replace, String.toList_ofList, apiForm]

/-- Reading a link gives back the key and the dashed id that it was built from, and the id itself
for the API if that has neither a dash nor a percent sign. -/
theorem parse?_share :
    (∀ key id : String, Filled isKeyChar key.toList → Filled isIdChar id.toList →
      ∃ link, parse? (share key id) = some link ∧ link.fileKey = key ∧
        Replaced separators ['-'] id.toList link.nodeId.toList ∧
        ('-' ∉ id.toList ∧ '%' ∉ id.toList → link.apiNodeId = id)) ∧
    ∀ url link, parse? url = some link →
      parse? (share link.fileKey link.nodeId) = some link := by
  constructor
  · intro key id isKey isId
    refine ⟨_, parse?_share_eq isKey isId, rfl, ?_, ?_⟩
    · rw [String.toList_ofList]
      exact replaced_dashed id.toList
    · rintro ⟨noDash, noPercent⟩
      rw [← String.toList_inj, toList_apiNodeId, apiForm_of_plain noDash noPercent]
  · intro url link parsed
    obtain ⟨isKey, id, isId, dashes⟩ := parse?_eq_some_iff.mp parsed
    have isNodeId : Filled isIdChar link.nodeId.toList := by
      rw [dashes]
      exact isId.filled.of_replaced (replaced_dashed id)
    rw [parse?_share_eq isKey.filled isNodeId, dashes, dashed_dashed, ← dashes,
      String.ofList_toList]

theorem parse?_share_nestedId :
    (∃ link, parse? (share "ABC123" "I1:2;3:4") = some link ∧ link.fileKey = "ABC123" ∧
      link.apiNodeId = "I1:2;3:4") ∧
    parse? "https://figma.com/file/XyZ9/Kit?t=abc&node-id=%%3A3A4#top" = some ⟨"XyZ9", "%-3A4"⟩ ∧
    parse? (share "XyZ9" "%-3A4") = some ⟨"XyZ9", "%-3A4"⟩ := by
  obtain ⟨built, again⟩ := parse?_share
  have parsed : parse? "https://figma.com/file/XyZ9/Kit?t=abc&node-id=%%3A3A4#top" =
      some ⟨"XyZ9", "%-3A4"⟩ := by decide +kernel
  obtain ⟨link, read, sameKey, _, sameId⟩ := built "ABC123" "I1:2;3:4"
    ⟨by decide, List.all_eq_true.mp (by decide)⟩ ⟨by decide, List.all_eq_true.mp (by decide)⟩
  have rebuilt := again _ _ parsed
  exact ⟨⟨link, read, sameKey, sameId (by decide)⟩, parsed, rebuilt⟩

end DesignToCode.DesignLink
