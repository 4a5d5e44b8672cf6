import DesignToCode.Proofs.Output.CodeReader

/-!
Lines that follow one another in a generated text.
-/

namespace DesignToCode

open DesignToCode.Naming DesignToCode.Text
open CodeReader (Scans readBindings)

def lined : List String → String
  | [] => ""
  | line :: rest => line ++ "\n" ++ lined rest

theorem lined_append (first second : List String) :
    lined (first ++ second) = lined first ++ lined second := by
  induction first with
  | nil => simp [lined]
  | cons line rest ih => simp only [List.cons_append, lined, ih, String.append_assoc]

theorem join_append (first : List String) {rest : List String} (nonempty : rest ≠ []) :
    join "\n" (first ++ rest) = lined first ++ join "\n" rest := by
  induction first with
  | nil => simp [lined]
  | cons line later ih =>
      obtain ⟨next, others, split⟩ := List.exists_cons_of_ne_nil
        (List.append_ne_nil_of_right_ne_nil later nonempty)
      rw [List.cons_append, split, join, ← split, ih, lined, String.append_assoc,
        String.append_assoc, String.append_assoc]

theorem lined_eq_join {lines : List String} (nonempty : lines ≠ []) :
    lined lines = join "\n" lines ++ "\n" := by
  induction lines with
  | nil => contradiction
  | cons line rest ih =>
      cases rest with
      | nil => simp [lined, join]
      | cons next later =>
          rw [lined, ih (List.cons_ne_nil _ _), join]
          simp only [String.append_assoc]

theorem toList_lined (lines : List String) :
    (lined lines).toList = lines.flatMap fun line => line.toList ++ ['\n'] := by
  induction lines with
  | nil => rfl
  | cons line rest ih => simp [lined, ih]

def Excerpt (opening part closing text : String) : Prop :=
  ∃ before after, text = before ++ opening ++ part ++ closing ++ after

def HasLine (line text : String) : Prop :=
  ∃ earlier later, text = lined earlier ++ (line ++ "\n") ++ later

def OccurIn (middle lines : List String) : Prop :=
  ∃ before after, after ≠ [] ∧ lines = before ++ (middle ++ after)

namespace OccurIn

theorem here {middle after : List String} (nonempty : after ≠ []) :
    OccurIn middle (middle ++ after) :=
  ⟨[], after, nonempty, rfl⟩

theorem later {middle lines : List String} (occurs : OccurIn middle lines)
    (first : List String) : OccurIn middle (first ++ lines) := by
  obtain ⟨before, after, nonempty, rfl⟩ := occurs
  exact ⟨first ++ before, after, nonempty, (List.append_assoc _ _ _).symm⟩

theorem between {opening part closing after : List String} (nonempty : after ≠ []) :
    OccurIn (opening ++ (part ++ closing)) (opening ++ (part ++ (closing ++ after))) :=
  ⟨[], after, nonempty, by simp only [List.nil_append, List.append_assoc]⟩

theorem flatMap {α : Type} {items : List α} {item : α} (isItem : item ∈ items)
    {written : α → List String} {middle rest : List String}
    (occurs : ∀ more, OccurIn middle (written item ++ (more ++ rest))) :
    OccurIn middle (items.flatMap written ++ rest) := by
  obtain ⟨before, after, rfl⟩ := List.append_of_mem isItem
  rw [List.flatMap_append, List.flatMap_cons, List.append_assoc, List.append_assoc]
  exact (occurs _).later _

theorem excerpt {middle lines : List String} (occurs : OccurIn middle lines)
    {opening part closing : String} (written : lined middle = opening ++ part ++ closing) :
    Excerpt opening part closing (join "\n" lines) := by
  obtain ⟨before, after, nonempty, rfl⟩ := occurs
  refine ⟨lined before, join "\n" after, ?_⟩
  rw [join_append _ (List.append_ne_nil_of_right_ne_nil _ nonempty), join_append _ nonempty,
    written]
  simp only [String.append_assoc]

theorem inner {first middle last lines : List String}
    (occurs : OccurIn (first ++ (middle ++ last)) lines) : OccurIn middle lines := by
  obtain ⟨before, after, nonempty, rfl⟩ := occurs
  refine ⟨before ++ first, last ++ after, List.append_ne_nil_of_right_ne_nil _ nonempty, ?_⟩
  simp only [List.append_assoc]

theorem hasLine {line : String} {lines : List String} (occurs : OccurIn [line] lines) :
    HasLine line (join "\n" lines) := by
  obtain ⟨before, after, nonempty, rfl⟩ := occurs
  refine ⟨before, join "\n" after, ?_⟩
  rw [join_append _ (List.append_ne_nil_of_right_ne_nil _ nonempty), join_append _ nonempty]
  simp only [lined, String.append_assoc, String.append_empty]

theorem excerpt_lined {opening part closing lines : List String}
    (occurs : OccurIn (opening ++ (part ++ closing)) lines) :
    Excerpt (lined opening) (lined part) (lined closing) (join "\n" lines) :=
  occurs.excerpt (by rw [lined_append, lined_append, String.append_assoc])

end OccurIn

namespace CodeReader

theorem scans_blank : Scans [' '] [] :=
  scans_break (by decide) (by decide)

theorem scans_comma : Scans ", ".toList [.sign ','] :=
  scans_of_scan (by decide)

theorem scans_lineBreak : Scans ['\n'] [] :=
  scans_break (by decide) (by decide)

theorem scans_equals {name : String} (plain : IsPlain name) :
    Scans (name.toList ++ [' ', '=', ' ']) (Token.ofRun name.toList ++ [.sign '=']) := by
  have word := scans_word (c := ' ') plain (by decide) (by decide)
  have mark : Scans ['='] [.sign '='] := scans_break (by decide) (by decide)
  have whole := word.append (mark.append scans_blank)
  simpa [Token.ofBreak] using whole

theorem scans_colon {name : String} (plain : IsPlain name) :
    Scans (name.toList ++ [':', ' ']) (Token.ofRun name.toList ++ [.sign ':']) := by
  have word := scans_word (c := ':') plain (by decide) (by decide)
  have whole := word.append scans_blank
  simpa [Token.ofBreak] using whole

theorem scans_line {name : String} {indent between : List Char} {mark : Char}
    (indented : Scans indent [])
    (marked : Scans (name.toList ++ between) (Token.ofRun name.toList ++ [.sign mark]))
    (literal : Literal) :
    Scans (indent ++ (name.toList ++ between) ++ (literal.text.toList ++ [',']) ++ ['\n'])
      (bindingTokens mark (name, literal)) := by
  have whole := ((indented.append marked).append (scans_literal literal)).append scans_lineBreak
  simpa [bindingTokens] using whole

theorem scans_lined {α : Type} {items : List α} {line : α → String} {tokens : α → List Token}
    (each : ∀ item ∈ items, Scans ((line item).toList ++ ['\n']) (tokens item)) :
    Scans (lined (items.map line)).toList (items.flatMap tokens) := by
  rw [toList_lined, List.flatMap_map]
  exact scans_flatMap each

theorem readBindings_lined {mark : Char} {bindings : List (String × Literal)}
    {line : String × Literal → String}
    (each : ∀ binding ∈ bindings,
      Scans ((line binding).toList ++ ['\n']) (bindingTokens mark binding)) :
    readBindings mark (lined (bindings.map line)) = some bindings := by
  rw [readBindings, (scans_lined each).scan_eq, Option.bind_some, bindings?_flatMap]

end CodeReader

end DesignToCode
