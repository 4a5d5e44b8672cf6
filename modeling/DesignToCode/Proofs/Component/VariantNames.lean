import DesignToCode.Component.VariantName
import DesignToCode.Proofs.OrderedMap
import DesignToCode.Proofs.Text.Pieces
import DesignToCode.Proofs.Text.Trimming

/-!
Names of variants read and written.
-/

namespace DesignToCode.VariantName

open DesignToCode.Text

/-- A text that can be the name or the value of a property in the name of a variant. -/
structure IsPart (text : String) : Prop where
  nonempty : text ≠ ""
  trimmed : IsTrimmed text.toList
  noComma : ',' ∉ text.toList
  noEquals : '=' ∉ text.toList

def HasParts (values : OrderedMap String) : Prop :=
  ∀ entry ∈ values.entries, IsPart entry.1 ∧ IsPart entry.2

def writeAssignment (entry : String × String) : String :=
  entry.1 ++ "=" ++ entry.2

def write (values : OrderedMap String) : String :=
  join ", " (values.entries.map writeAssignment)

def assignments (cs : List Char) : List (String × String) :=
  (pieces (· == ',') cs).filterMap assignment?

theorem parse_eq (name : String) : parse name = .ofList (assignments name.toList) :=
  rfl

theorem assignments_append (before after : List Char) :
    assignments (before ++ ',' :: after) = assignments before ++ assignments after := by
  rw [assignments, pieces_append_cons (by rfl), List.filterMap_append, assignments, assignments]

theorem assignment?_blank (segment : List Char) :
    assignment? (' ' :: segment) = assignment? segment := by
  obtain ⟨key, later, split, longer⟩ := @exists_pieces_cons (· == '=') ' ' (by rfl) segment
  have trimmed : trimList (' ' :: key) = trimList key := trimList_cons_of_isBlank (by rfl) key
  rw [assignment?, longer, assignment?, split]
  cases later with
  | nil => rfl
  | cons value rest => simp only [trimmed]

theorem assignments_blank (cs : List Char) : assignments (' ' :: cs) = assignments cs := by
  obtain ⟨segment, later, split, longer⟩ := @exists_pieces_cons (· == ',') ' ' (by rfl) cs
  rw [assignments, longer, assignments, split, List.filterMap_cons, List.filterMap_cons,
    assignment?_blank]

theorem isPart_trimList {cs : List Char} (nonempty : trimList cs ≠ []) (noComma : ',' ∉ cs)
    (noEquals : '=' ∉ cs) : IsPart (String.ofList (trimList cs)) where
  nonempty := by
    rw [ne_eq, String.ofList_eq_empty_iff]
    exact nonempty
  trimmed := by
    rw [String.toList_ofList]
    exact isTrimmed_trimList cs
  noComma := by
    rw [String.toList_ofList]
    exact mt mem_of_mem_trimList noComma
  noEquals := by
    rw [String.toList_ofList]
    exact mt mem_of_mem_trimList noEquals

theorem isPart_of_assignment? {segment : List Char} {entry : String × String}
    (said : assignment? segment = some entry) (noComma : ',' ∉ segment) :
    IsPart entry.1 ∧ IsPart entry.2 := by
  unfold assignment? at said
  split at said
  · rename_i key value later split
    have part {piece : List Char} (isPiece : piece ∈ key :: value :: later)
        (nonempty : trimList piece ≠ []) : IsPart (String.ofList (trimList piece)) := by
      rw [← split] at isPiece
      refine isPart_trimList nonempty ?_ ?_
      · intro comma
        exact noComma (mem_of_mem_pieces isPiece comma).1
      · intro equals
        have cut := (mem_of_mem_pieces isPiece equals).2
        contradiction
    simp only [Option.ite_none_left_eq_some, Bool.or_eq_true, List.isEmpty_iff, not_or,
      Option.some.injEq] at said
    obtain ⟨⟨hasKey, hasValue⟩, rfl⟩ := said
    exact ⟨part List.mem_cons_self hasKey,
      part (List.mem_cons_of_mem _ List.mem_cons_self) hasValue⟩
  · cases said

theorem hasParts_parse (name : String) : HasParts (parse name) := by
  intro entry isEntry
  have said : entry ∈ assignments name.toList := by
    rcases OrderedMap.mem_insertAll isEntry with none | said
    · cases none
    · exact said
  obtain ⟨segment, isSegment, given⟩ := List.mem_filterMap.mp said
  refine isPart_of_assignment? given fun comma => ?_
  have cut := (mem_of_mem_pieces isSegment comma).2
  contradiction

theorem assignments_writeAssignment {entry : String × String} (key : IsPart entry.1)
    (value : IsPart entry.2) : assignments (writeAssignment entry).toList = [entry] := by
  have written : (writeAssignment entry).toList = entry.1.toList ++ '=' :: entry.2.toList := by
    simp [writeAssignment]
  have oneSegment : pieces (· == ',') (writeAssignment entry).toList =
      [(writeAssignment entry).toList] := by
    refine pieces_of_notMem ?_
    simp [written, key.noComma, value.noComma]
  have twoSides : pieces (· == '=') (writeAssignment entry).toList =
      [entry.1.toList, entry.2.toList] := by
    rw [written, pieces_append_cons (by rfl), pieces_of_notMem key.noEquals,
      pieces_of_notMem value.noEquals]
    rfl
  have given : assignment? (writeAssignment entry).toList = some entry := by
    rw [assignment?, twoSides]
    simp [trimList_of_isTrimmed key.trimmed, trimList_of_isTrimmed value.trimmed, key.nonempty,
      value.nonempty]
  rw [assignments, oneSegment, List.filterMap_cons_some given, List.filterMap_nil]

theorem assignments_join {entries : List (String × String)}
    (parts : ∀ entry ∈ entries, IsPart entry.1 ∧ IsPart entry.2) :
    assignments (join ", " (entries.map writeAssignment)).toList = entries := by
  induction entries with
  | nil => rfl
  | cons first rest ih =>
      have isPart := parts first List.mem_cons_self
      have here := assignments_writeAssignment isPart.1 isPart.2
      have later := ih fun entry isEntry => parts entry (List.mem_cons_of_mem _ isEntry)
      cases rest with
      | nil => exact here
      | cons next others =>
          rw [List.map_cons] at later
          -- the blank after the comma is read with the next assignment and trimmed there
          have written : (join ", " ((first :: next :: others).map writeAssignment)).toList =
              (writeAssignment first).toList ++ ',' :: ' ' ::
                (join ", " (writeAssignment next :: others.map writeAssignment)).toList := by
            simp [join]
          rw [written, assignments_append, here, assignments_blank, later, List.singleton_append]

theorem parse_write {values : OrderedMap String} (parts : HasParts values) :
    parse (write values) = values := by
  rw [parse_eq, write, assignments_join parts, OrderedMap.ofList_entries]

theorem parse_append (first second : String) :
    parse (first ++ "," ++ second) = (parse first).merge (parse second) := by
  have written : (first ++ "," ++ second).toList = first.toList ++ ',' :: second.toList := by simp
  rw [parse_eq, written, assignments_append, OrderedMap.ofList_append, ← parse_eq, ← parse_eq]

theorem parse_inverts_write :
    (∀ name, HasParts (parse name)) ∧
    (∀ values, parse (write values) = values ↔ HasParts values) ∧
    (∀ name, parse (write (parse name)) = parse name) ∧
    ∀ first second,
      let both := parse (first ++ "," ++ second)
      both = (parse first).merge (parse second) ∧
      both.keys = (parse first).keys ++
        (parse second).keys.filter (fun key => decide (key ∉ (parse first).keys)) ∧
      ∀ key, both.get? key = ((parse second).get? key).or ((parse first).get? key) := by
  refine ⟨hasParts_parse, fun values => ⟨?_, parse_write⟩,
    fun name => parse_write (hasParts_parse name), fun first second => ?_⟩
  · intro same
    rw [← same]
    exact hasParts_parse _
  · intro both
    have merged : both = (parse first).merge (parse second) := parse_append first second
    rw [merged]
    exact ⟨rfl, OrderedMap.keys_merge _ _, OrderedMap.get?_merge _ _⟩

example : (parse " Size = Large=XL,Kind=, =Blue,,Size=Small ,Tone=Dark").entries =
    [("Size", "Small"), ("Tone", "Dark")] := by
  decide +kernel

end DesignToCode.VariantName
