import DesignToCode.Proofs.Output.Excerpt
import DesignToCode.Proofs.Output.Fragments

/-!
The expression for the class of the root element, read back from the generated module.
-/

namespace DesignToCode

open DesignToCode.Naming DesignToCode.Text
open CodeReader (Scans scan)

namespace CodeReader

def bracketed? : List Token → Option String
  | .sign '[' :: .word name :: .sign ']' :: _ => some name
  | .sign '[' :: .sign ']' :: _ => some ""
  | _ => none

/-- The names by whose values an expression looks up the style module. -/
def lookups : List Token → List String
  | [] => []
  | token :: rest =>
    if token = .word "styles" then (bracketed? rest).toList ++ lookups rest else lookups rest

end CodeReader

def RootClass (text : String) (tokens : List Token) : Prop :=
  ∃ expression,
    Excerpt ComponentFile.rootStart expression (lined [ComponentFile.rootEnd]) text ∧
    scan .code [] expression.toList = some tokens

namespace ComponentFile

def partTokens? (property : Property) : Option (List Token) :=
  let name := Token.ofRun property.identifier.toList
  match property.kind with
  | .variant => some ([.word "styles", .sign '['] ++ name ++ [.sign ']'])
  | .toggle =>
    some (name ++ [.sign '?', .word "styles", .sign '.'] ++ name ++ [.sign ':', .quoted ""])
  | .text => none

def partsTokens (parts : List (List Token)) : List Token :=
  parts.flatMap fun part => .sign ',' :: part

def classTokens (component : Component) : List Token :=
  let base := [.word "styles", .sign '.', .word baseClass]
  match component.properties.filterMap partTokens? with
  | [] => base
  | parts =>
    .sign '[' :: (base ++ partsTokens parts ++
      [.sign ']', .sign '.', .word "filter", .sign '(', .word "Boolean", .sign ')', .sign '.',
        .word "join", .sign '(', .quoted " ", .sign ')'])

theorem scans_part {property : Property} {part : String} {tokens : List Token}
    (written : classPart? property = some part) (read : partTokens? property = some tokens) :
    Scans part.toList tokens := by
  have plain : IsPlain property.identifier := isPlain_camelCase property.name
  rw [classPart?] at written
  rw [partTokens?] at read
  cases kind : property.kind with
  | variant =>
      simp only [kind, Option.some.injEq] at written read
      have opened : Scans "styles[".toList [.word "styles", .sign '['] :=
        CodeReader.scans_of_scan (by decide)
      have closed := CodeReader.scans_word plain (c := ']') (by decide) (by decide)
      have whole := opened.append closed
      rw [← written, ← read]
      simpa [Token.ofBreak] using whole
  | toggle =>
      simp only [kind, Option.some.injEq] at written read
      have named := CodeReader.scans_word plain (c := ' ') (by decide) (by decide)
      have test : Scans "? styles.".toList [.sign '?', .word "styles", .sign '.'] :=
        CodeReader.scans_of_scan (by decide)
      have other : Scans ": ".toList [.sign ':'] :=
        CodeReader.scans_of_scan (by decide)
      have whole := named.append (test.append (named.append
        (other.append (CodeReader.scans_quote ""))))
      rw [← written, ← read]
      simpa [Token.ofBreak, Markup.classRef, Literal.quote] using whole
  | text => simp [kind] at written

theorem isSome_partTokens? (property : Property) :
    (partTokens? property).isSome = (classPart? property).isSome := by
  rw [partTokens?, classPart?]
  cases property.kind with
  | variant => simp
  | toggle => simp
  | text => simp

theorem scans_parts (properties : List Property) {word : List Char}
    (plain : ∀ c ∈ word, c.isAlphanum = true) :
    Scans (word ++ ((properties.filterMap classPart?).flatMap
        (fun part => ", ".toList ++ part.toList) ++ [']']))
      (Token.ofRun word ++
        (partsTokens (properties.filterMap partTokens?) ++ [.sign ']'])) := by
  induction properties generalizing word with
  | nil => exact CodeReader.scans_word plain (by decide) (by decide)
  | cons property rest ih =>
      have both := isSome_partTokens? property
      cases written : classPart? property with
      | none =>
          rw [written, Option.isSome_none, Option.isSome_eq_false_iff, Option.isNone_iff_eq_none]
            at both
          rw [List.filterMap_cons_none written, List.filterMap_cons_none both]
          exact ih plain
      | some part =>
          rw [written, Option.isSome_some] at both
          obtain ⟨tokens, read⟩ := Option.isSome_iff_exists.mp both
          have comma := CodeReader.scans_word plain (c := ',') (by decide) (by decide)
          have nothing : ∀ c ∈ ([] : List Char), c.isAlphanum = true := by simp
          have whole := (comma.append CodeReader.scans_blank).append
            ((scans_part written read).append (ih nothing))
          rw [List.filterMap_cons_some written, List.filterMap_cons_some read]
          simpa [partsTokens, Token.ofBreak, Token.ofRun] using whole

theorem toList_join_comma (first : String) (rest : List String) :
    (join ", " (first :: rest)).toList =
      first.toList ++ rest.flatMap fun part => ", ".toList ++ part.toList := by
  induction rest generalizing first with
  | nil => simp [join]
  | cons next later ih =>
      rw [join, String.toList_append, String.toList_append, ih]
      simp

theorem filterMap_partTokens?_eq_nil_iff (properties : List Property) :
    properties.filterMap partTokens? = [] ↔ properties.filterMap classPart? = [] := by
  simp only [List.filterMap_eq_nil_iff, ← Option.isNone_iff_eq_none, ← Option.not_isSome,
    isSome_partTokens?]

theorem scan_classExpression (component : Component) :
    scan .code [] (classExpression component).toList = some (classTokens component) := by
  have plain : ∀ c ∈ baseClass.toList, c.isAlphanum = true := List.all_eq_true.mp (by decide)
  have bothEmpty := filterMap_partTokens?_eq_nil_iff component.properties
  rw [classExpression, classTokens]
  cases parts : component.properties.filterMap classPart? with
  | nil =>
      rw [bothEmpty.mpr parts]
      rfl
  | cons part rest =>
      obtain ⟨first, later, tokens⟩ := List.exists_cons_of_ne_nil
        (fun empty => List.cons_ne_nil part rest (parts.symm.trans (bothEmpty.mp empty)))
      have opened : Scans "[styles.".toList [.sign '[', .word "styles", .sign '.'] :=
        CodeReader.scans_of_scan (by decide)
      have listed := scans_parts component.properties plain
      have joined : Scans ".filter(Boolean).join(' ')".toList
          [.sign '.', .word "filter", .sign '(', .word "Boolean", .sign ')', .sign '.',
            .word "join", .sign '(', .quoted " ", .sign ')'] :=
        CodeReader.scans_of_scan (by decide)
      have whole := ((opened.append listed).append joined).scan_eq
      rw [parts, tokens] at whole
      rw [tokens]
      simpa [Token.ofRun, baseClass, Markup.classRef, toList_join_comma] using whole

theorem lookups_name (mark : Char) (noBracket : mark ≠ '[') (name : List Char)
    (rest : List Token) :
    CodeReader.lookups (Token.ofRun name ++ .sign mark :: rest) = CodeReader.lookups rest := by
  cases name with
  | nil => simp [Token.ofRun, CodeReader.lookups]
  | cons c later => simp [Token.ofRun, CodeReader.lookups, CodeReader.bracketed?, noBracket]

theorem bracketed?_name (name : String) (rest : List Token) :
    CodeReader.bracketed? (.sign '[' :: (Token.ofRun name.toList ++ .sign ']' :: rest)) =
      some name := by
  rw [Token.ofRun_toList]
  by_cases empty : name = ""
  · simp [CodeReader.bracketed?, empty]
  · simp [CodeReader.bracketed?, empty]

theorem lookups_partsTokens (properties : List Property) (rest : List Token) :
    CodeReader.lookups (partsTokens (properties.filterMap partTokens?) ++ .sign ']' :: rest) =
      (properties.filter (·.kind == .variant)).map Property.identifier ++
        CodeReader.lookups rest := by
  induction properties with
  | nil => simp [partsTokens, CodeReader.lookups]
  | cons property later ih =>
      have closing := lookups_name ']' (by decide) property.identifier.toList
      cases kind : property.kind with
      | text => simpa [partTokens?, kind] using ih
      | variant =>
          simp only [partsTokens] at ih
          simp [partTokens?, kind, partsTokens, CodeReader.lookups, bracketed?_name, closing, ih]
      | toggle =>
          -- A property may be called `styles` as well, but no bracket follows its name.
          have test := lookups_name '?' (by decide) property.identifier.toList
          have other := lookups_name ':' (by decide) property.identifier.toList
          simp only [partsTokens] at ih
          simp [partTokens?, kind, partsTokens, CodeReader.lookups, CodeReader.bracketed?, test,
            other, ih]

theorem lookups_classTokens (component : Component) :
    CodeReader.lookups (classTokens component) =
      (component.properties.filter (·.kind == .variant)).map Property.identifier := by
  have read := lookups_partsTokens component.properties
  rw [classTokens]
  cases parts : component.properties.filterMap partTokens? with
  | nil =>
      have noVariant := read []
      rw [parts] at noVariant
      simpa [partsTokens, CodeReader.lookups, CodeReader.bracketed?] using noVariant
  | cons first rest =>
      rw [parts] at read
      simp [CodeReader.lookups, CodeReader.bracketed?, baseClass, read]

theorem rootClass_render (name : String) (component : Component) (settings : Settings) :
    RootClass (render name component settings) (classTokens component) := by
  refine ⟨classExpression component, ?_, scan_classExpression component⟩
  have occurs : OccurIn [rootTag component] (lines name component settings) := by
    simp only [lines, List.append_assoc]
    refine (((OccurIn.later ?_ _).later _).later _).later _
    exact (OccurIn.here (by simp)).later [_, _]
  refine occurs.excerpt ?_
  rw [rootTag_eq, line_classFragments]
  simp only [lined, String.append_assoc, String.append_empty]

end ComponentFile

end DesignToCode
