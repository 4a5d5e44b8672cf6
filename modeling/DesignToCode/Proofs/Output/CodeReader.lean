import DesignToCode.Output.Literal
import DesignToCode.Proofs.Naming.Plain

/-!
A reader of the lists that stand in generated code.
-/

namespace DesignToCode

open DesignToCode.Naming DesignToCode.Text

inductive Token where
  | word (name : String)
  | quoted (value : String)
  | sign (c : Char)
  deriving DecidableEq, Repr

namespace Token

def ofRun : List Char → List Token
  | [] => []
  | c :: rest => [word (String.ofList (c :: rest))]

theorem ofRun_toList (name : String) :
    ofRun name.toList = if name = "" then [] else [word name] := by
  by_cases empty : name = ""
  · rw [if_pos empty, empty]
    rfl
  · obtain ⟨c, later, split⟩ :=
      List.exists_cons_of_ne_nil (mt String.toList_eq_nil_iff.mp empty)
    rw [if_neg empty, split, ofRun, ← split, String.ofList_toList]

def ofBreak (c : Char) : List Token :=
  if c = ' ' ∨ c = '\n' then [] else [sign c]

def literal? : Token → Option Literal
  | quoted value => some (.quoted value)
  | word name =>
    if name = "true" then some (.flag true)
    else if name = "false" then some (.flag false)
    else none
  | sign _ => none

end Token

def Literal.token : Literal → Token
  | .flag value => .word (if value then "true" else "false")
  | .quoted value => .quoted value

@[simp] theorem Literal.literal?_token (literal : Literal) :
    literal.token.literal? = some literal := by
  cases literal with
  | flag value => cases value <;> rfl
  | quoted value => rfl

namespace CodeReader

inductive Place where
  | code
  | quote
  | escape
  deriving DecidableEq, Repr

/-- The tokens of a text; `run` holds the characters of a word or of a quoted text so far. -/
def scan (place : Place) (run : List Char) : List Char → Option (List Token)
  | [] => if place = .code then some (Token.ofRun run) else none
  | c :: rest =>
    match place with
    | .code =>
      if c.isAlphanum then scan .code (run ++ [c]) rest
      else if c = '\'' then (scan .quote [] rest).map (Token.ofRun run ++ ·)
      else (scan .code [] rest).map ((Token.ofRun run ++ Token.ofBreak c) ++ ·)
    | .quote =>
      if c = '\'' then (scan .code [] rest).map (.quoted (String.ofList run) :: ·)
      else if c = '\\' then scan .escape run rest
      else if c = '\n' then none
      else scan .quote (run ++ [c]) rest
    | .escape =>
      if c = 'n' then scan .quote (run ++ ['\n']) rest
      else if c = '\\' ∨ c = '\'' then scan .quote (run ++ [c]) rest
      else none

def bindings? (mark : Char) : List Token → Option (List (String × Literal))
  | [] => some []
  | .word name :: .sign m :: value :: .sign comma :: rest =>
    if m = mark ∧ comma = ',' then
      value.literal?.bind fun literal => (bindings? mark rest).map ((name, literal) :: ·)
    else none
  | .sign m :: value :: .sign comma :: rest =>
    if m = mark ∧ comma = ',' then
      value.literal?.bind fun literal => (bindings? mark rest).map (("", literal) :: ·)
    else none
  | _ => none

def choices? (mark : Char) : List Token → Option (List Literal)
  | [value] => value.literal?.map ([·])
  | value :: .sign m :: rest =>
    if m = mark then
      value.literal?.bind fun literal => (choices? mark rest).map (literal :: ·)
    else none
  | _ => none

def readBindings (mark : Char) (text : String) : Option (List (String × Literal)) :=
  (scan .code [] text.toList).bind (bindings? mark)

def readChoices (mark : Char) (text : String) : Option (List Literal) :=
  (scan .code [] text.toList).bind (choices? mark)

/-- The text is read as the tokens wherever it stands. -/
def Scans (cs : List Char) (tokens : List Token) : Prop :=
  ∀ rest, scan .code [] (cs ++ rest) = (scan .code [] rest).map (tokens ++ ·)

theorem Scans.nil : Scans [] [] := by
  intro rest
  simp

theorem Scans.append {first second : List Char} {firstTokens secondTokens : List Token}
    (firstScans : Scans first firstTokens) (secondScans : Scans second secondTokens) :
    Scans (first ++ second) (firstTokens ++ secondTokens) := by
  intro rest
  rw [List.append_assoc, firstScans, secondScans, Option.map_map]
  simp [Function.comp_def]

theorem Scans.scan_eq {cs : List Char} {tokens : List Token} (scans : Scans cs tokens) :
    scan .code [] cs = some tokens := by
  have alone := scans []
  rw [List.append_nil] at alone
  rw [alone]
  simp [scan, Token.ofRun]

theorem scan_word {name : List Char} (plain : ∀ c ∈ name, c.isAlphanum = true)
    (run rest : List Char) : scan .code run (name ++ rest) = scan .code (run ++ name) rest := by
  induction name generalizing run with
  | nil => rw [List.nil_append, List.append_nil]
  | cons c later ih =>
      have step : scan .code run (c :: (later ++ rest)) =
          scan .code (run ++ [c]) (later ++ rest) := by
        simp only [scan, plain c List.mem_cons_self, if_true]
      rw [List.cons_append, step, ih fun c found => plain c (List.mem_cons_of_mem _ found),
        List.append_assoc, List.singleton_append]

theorem scans_word {name : List Char} (plain : ∀ c ∈ name, c.isAlphanum = true) {c : Char}
    (ends : c.isAlphanum = false) (isSign : c ≠ '\'') :
    Scans (name ++ [c]) (Token.ofRun name ++ Token.ofBreak c) := by
  intro rest
  rw [List.append_assoc, scan_word plain, List.nil_append, List.singleton_append]
  simp only [scan, ends, isSign, if_false, Bool.false_eq_true]

theorem scans_break {c : Char} (ends : c.isAlphanum = false) (isSign : c ≠ '\'') :
    Scans [c] (Token.ofBreak c) := by
  have nothing : ∀ c ∈ ([] : List Char), c.isAlphanum = true := by simp
  exact scans_word nothing ends isSign

theorem scan_append_break {c : Char} (ends : c.isAlphanum = false) (isSign : c ≠ '\'')
    {place : Place} {run cs : List Char} {tokens : List Token}
    (read : scan place run (cs ++ [c]) = some tokens) (rest : List Char) :
    scan place run (cs ++ [c] ++ rest) = (scan .code [] rest).map (tokens ++ ·) := by
  induction cs generalizing place run tokens with
  | nil =>
      cases place with
      | code =>
          simp only [List.nil_append, scan, ends, isSign, if_true, if_false, Bool.false_eq_true,
            Option.map_some, Option.some.injEq] at read
          simp [scan, ends, isSign, ← read, Token.ofRun]
      | quote => simp [scan, isSign] at read
      | escape => simp [scan] at read
  | cons first later ih =>
      have mapped {place : Place} {run : List Char} {before : List Token}
          (read : (scan place run (later ++ [c])).map (before ++ ·) = some tokens) :
          (scan place run (later ++ [c] ++ rest)).map (before ++ ·) =
            (scan .code [] rest).map (tokens ++ ·) := by
        obtain ⟨inner, found, rfl⟩ := Option.map_eq_some_iff.mp read
        rw [ih found, Option.map_map]
        simp [Function.comp_def]
      rw [List.cons_append, List.cons_append]
      rw [List.cons_append] at read
      -- One character at a time, in each place by what the character is there.
      cases place with
      | code =>
          rw [scan] at read ⊢
          split at read
          · rename_i isWord
            rw [if_pos isWord]
            exact ih read
          · rename_i isBreak
            rw [if_neg isBreak]
            split at read
            · rename_i opens
              rw [if_pos opens]
              exact mapped read
            · rename_i isSign
              rw [if_neg isSign]
              exact mapped read
      | quote =>
          rw [scan] at read ⊢
          split at read
          · rename_i closes
            rw [if_pos closes]
            exact @mapped _ _ [_] read
          · rename_i open'
            rw [if_neg open']
            split at read
            · rename_i escapes
              rw [if_pos escapes]
              exact ih read
            · rename_i plain
              rw [if_neg plain]
              split at read
              · cases read
              · rename_i sameLine
                rw [if_neg sameLine]
                exact ih read
      | escape =>
          rw [scan] at read ⊢
          split at read
          · rename_i lineBreak
            rw [if_pos lineBreak]
            exact ih read
          · rename_i other
            rw [if_neg other]
            split at read
            · rename_i kept
              rw [if_pos kept]
              exact ih read
            · cases read

def endsBroken (text : String) : Bool :=
  text.toList.getLast?.any fun c => !c.isAlphanum && c != '\''

theorem scans_of_scan {text : String} {tokens : List Token}
    (read : scan .code [] text.toList = some tokens ∧ endsBroken text = true) :
    Scans text.toList tokens := by
  obtain ⟨read, broken⟩ := read
  obtain ⟨c, isLast, ends⟩ := (Option.any_eq_true _ _).mp broken
  obtain ⟨before, split⟩ := List.getLast?_eq_some_iff.mp isLast
  simp only [Bool.and_eq_true, Bool.not_eq_true', bne_iff_ne] at ends
  intro rest
  rw [split] at read ⊢
  exact scan_append_break ends.1 ends.2 read rest

theorem scan_escapedChar (c : Char) (run rest : List Char) :
    scan .quote run (Literal.escapedChar c ++ rest) = scan .quote (run ++ [c]) rest := by
  by_cases backslash : c = '\\'
  · subst c
    rfl
  by_cases apostrophe : c = '\''
  · subst c
    rfl
  by_cases lineBreak : c = '\n'
  · subst c
    rfl
  simp only [Literal.escapedChar, backslash, apostrophe, lineBreak, if_false, List.cons_append,
    List.nil_append, scan]

theorem scan_escaped (text run rest : List Char) :
    scan .quote run (text.flatMap Literal.escapedChar ++ rest) =
      scan .quote (run ++ text) rest := by
  induction text generalizing run with
  | nil => rw [List.flatMap_nil, List.nil_append, List.append_nil]
  | cons c later ih =>
      rw [List.flatMap_cons, List.append_assoc, scan_escapedChar, ih, List.append_assoc,
        List.singleton_append]

theorem scans_quote (text : String) : Scans (Literal.quote text).toList [.quoted text] := by
  intro rest
  have opened : scan .code [] ('\'' :: (text.toList.flatMap Literal.escapedChar ++ '\'' :: rest)) =
      scan .quote [] (text.toList.flatMap Literal.escapedChar ++ '\'' :: rest) := by
    simp [scan, Token.ofRun]
  have closed : scan .quote text.toList ('\'' :: rest) =
      (scan .code [] rest).map (.quoted (String.ofList text.toList) :: ·) := by
    simp only [scan, if_true]
  rw [Literal.quote, String.toList_ofList, List.cons_append, List.cons_append, List.append_assoc,
    List.singleton_append, opened, scan_escaped, List.nil_append, closed, String.ofList_toList]
  rfl

theorem scans_literal (literal : Literal) :
    Scans (literal.text.toList ++ [',']) [literal.token, .sign ','] := by
  have comma : Scans [','] [.sign ','] := scans_break (by decide) (by decide)
  cases literal with
  | flag value =>
      cases value with
      | false =>
          have plain : "false".toList.all Char.isAlphanum = true := by decide
          exact scans_word (List.all_eq_true.mp plain) (by decide) (by decide)
      | true =>
          have plain : "true".toList.all Char.isAlphanum = true := by decide
          exact scans_word (List.all_eq_true.mp plain) (by decide) (by decide)
  | quoted value => exact (scans_quote value).append comma

def bindingTokens (mark : Char) (binding : String × Literal) : List Token :=
  Token.ofRun binding.1.toList ++ [.sign mark, binding.2.token, .sign ',']

theorem bindings?_bindingTokens (mark : Char) (binding : String × Literal) (rest : List Token) :
    bindings? mark (bindingTokens mark binding ++ rest) =
      (bindings? mark rest).map (binding :: ·) := by
  obtain ⟨name, literal⟩ := binding
  rw [bindingTokens, Token.ofRun_toList]
  by_cases empty : name = ""
  · simp [bindings?, empty]
  · simp [bindings?, empty]

theorem bindings?_flatMap (mark : Char) (bindings : List (String × Literal)) :
    bindings? mark (bindings.flatMap (bindingTokens mark)) = some bindings := by
  induction bindings with
  | nil => rfl
  | cons binding rest ih => rw [List.flatMap_cons, bindings?_bindingTokens, ih, Option.map_some]

theorem scans_flatMap {α : Type} {items : List α} {written : α → List Char}
    {tokens : α → List Token} (each : ∀ item ∈ items, Scans (written item) (tokens item)) :
    Scans (items.flatMap written) (items.flatMap tokens) := by
  induction items with
  | nil => exact Scans.nil
  | cons item rest ih =>
      rw [List.flatMap_cons, List.flatMap_cons]
      exact (each item List.mem_cons_self).append
        (ih fun other later => each other (List.mem_cons_of_mem _ later))

def choiceTokens (mark : Char) : List String → List Token
  | [] => []
  | [value] => [.quoted value]
  | value :: next :: rest => .quoted value :: .sign mark :: choiceTokens mark (next :: rest)

theorem choices?_choiceTokens (mark : Char) (first : String) (rest : List String) :
    choices? mark (choiceTokens mark (first :: rest)) =
      some ((first :: rest).map Literal.quoted) := by
  induction rest generalizing first with
  | nil => rfl
  | cons next later ih =>
      simp [choiceTokens, choices?, Token.literal?, ih next]

theorem scans_literalList {separator : String} {mark : Char}
    (apart : Scans separator.toList [.sign mark]) (values : List String) :
    Scans (literalList separator (values.map .quoted)).toList (choiceTokens mark values) := by
  induction values with
  | nil => exact Scans.nil
  | cons value rest ih =>
      cases rest with
      | nil => exact scans_quote value
      | cons next later =>
          have written : (literalList separator ((value :: next :: later).map .quoted)).toList =
              (Literal.quote value).toList ++ (separator.toList ++
                (literalList separator ((next :: later).map .quoted)).toList) := by
            simp [literalList, join, Literal.text]
          rw [written]
          exact (scans_quote value).append (apart.append ih)

theorem readChoices_literalList {separator : String} {mark : Char}
    (apart : Scans separator.toList [.sign mark]) (first : String) (rest : List String) :
    readChoices mark (literalList separator ((first :: rest).map .quoted)) =
      some ((first :: rest).map Literal.quoted) := by
  rw [readChoices, (scans_literalList apart (first :: rest)).scan_eq, Option.bind_some,
    choices?_choiceTokens]

end CodeReader

end DesignToCode
