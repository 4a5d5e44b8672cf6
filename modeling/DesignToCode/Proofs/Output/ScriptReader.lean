import DesignToCode.Json.Literal
import DesignToCode.Output.Literal
import DesignToCode.Proofs.Naming.Plain

/-!
A reader of string literals in scripts, by the rules for modules.
-/

namespace DesignToCode

open DesignToCode.Naming

namespace ScriptReader

def codeUnits (code : Nat) : List Nat :=
  if code < 0x10000 then [code]
  else [0xD800 + (code - 0x10000) / 0x400, 0xDC00 + (code - 0x10000) % 0x400]

/-- The value that a text has in a script. -/
def units (text : List Char) : List Nat :=
  text.flatMap fun c => codeUnits c.toNat

inductive Place where
  | plain
  | escape
  | lineBreak
  | zero
  | digits (left value : Nat)
  | unicode
  | braces (value : Option Nat)
  deriving DecidableEq, Repr

inductive Move where
  | close
  | go (place : Place) (units : List Nat)
  deriving DecidableEq, Repr

def movePlain (c : Char) : Option Move :=
  if c = '\'' then some .close
  else if c = '\\' then some (.go .escape [])
  else if c = '\n' ∨ c = '\r' then none
  else some (.go .plain (codeUnits c.toNat))

def controls : List (Char × Nat) :=
  [('b', 0x8), ('t', 0x9), ('n', 0xA), ('v', 0xB), ('f', 0xC), ('r', 0xD)]

def moveEscape (c : Char) : Option Move :=
  match controls.lookup c with
  | some unit => some (.go .plain [unit])
  | none =>
    if c = '0' then some (.go .zero [0])
    else if c.isDigit then none
    else if c = 'x' then some (.go (.digits 2 0) [])
    else if c = 'u' then some (.go .unicode [])
    else if c = '\r' then some (.go .lineBreak [])
    else if c = '\n' ∨ c = '\u2028' ∨ c = '\u2029' then some (.go .plain [])
    else some (.go .plain (codeUnits c.toNat))

def moveDigit (left value : Nat) (c : Char) : Option Move :=
  (Json.hexValue? c).map fun digit =>
    if left = 1 then .go .plain [16 * value + digit]
    else .go (.digits (left - 1) (16 * value + digit)) []

def moveBraces (value : Option Nat) (c : Char) : Option Move :=
  if c = '\x7d' then value.map fun code => .go .plain (codeUnits code)
  else
    (Json.hexValue? c).bind fun digit =>
      let code := 16 * value.getD 0 + digit
      if code ≤ 0x10FFFF then some (.go (.braces (some code)) []) else none

def move : Place → Char → Option Move
  | .plain, c => movePlain c
  | .escape, c => moveEscape c
  | .lineBreak, c => if c = '\n' then some (.go .plain []) else movePlain c
  | .zero, c => if c.isDigit then none else movePlain c
  | .digits left value, c => moveDigit left value c
  | .unicode, c => if c = '\x7b' then some (.go (.braces none) []) else moveDigit 4 0 c
  | .braces value, c => moveBraces value c

inductive Piece where
  | code (c : Char)
  | literal (units : List Nat)
  deriving DecidableEq, Repr

def Piece.value? : Piece → Option (List Nat)
  | code _ => none
  | literal units => some units

def startsOther (c : Char) : Bool :=
  c == '"' || c == '\x60' || c == '/'

/-- The pieces of a script; outside of literals there is no place, and `run` is the value of the
literal so far. Literals between other signs, comments and patterns are not read. -/
def scan (place : Option Place) (run : List Nat) : List Char → Option (List Piece)
  | [] => if place = none then some [] else none
  | c :: rest =>
    match place with
    | none =>
      if c = '\'' then scan (some .plain) [] rest
      else if startsOther c then none
      else (scan none [] rest).map (.code c :: ·)
    | some place =>
      match move place c with
      | none => none
      | some .close => (scan none [] rest).map (.literal run :: ·)
      | some (.go next units) => scan (some next) (run ++ units) rest

def pieces? (cs : List Char) : Option (List Piece) :=
  scan none [] cs

def literals? (cs : List Char) : Option (List (List Nat)) :=
  (pieces? cs).map (List.filterMap Piece.value?)

/-- A single literal with the text as its value, and nothing before or after it. -/
def Denotes (source text : String) : Prop :=
  pieces? source.toList = some [.literal (units text.toList)]

def hasReturn (text : String) : Bool :=
  text.toList.contains '\r'

theorem scan_none (run : List Nat) (cs : List Char) : scan none run cs = pieces? cs := by
  cases cs <;> rfl

theorem scan_escapedChar {c : Char} (notReturn : c ≠ '\r') (run : List Nat) (rest : List Char) :
    scan (some .plain) run (Literal.escapedChar c ++ rest) =
      scan (some .plain) (run ++ codeUnits c.toNat) rest := by
  by_cases backslash : c = '\\'
  · subst c
    simp [Literal.escapedChar, scan, move, movePlain, moveEscape, controls, List.lookup_cons]
  by_cases apostrophe : c = '\''
  · subst c
    simp [Literal.escapedChar, scan, move, movePlain, moveEscape, controls, List.lookup_cons]
  by_cases lineFeed : c = '\n'
  · subst c
    simp [Literal.escapedChar, scan, move, movePlain, moveEscape, controls, List.lookup_cons,
      codeUnits]
  simp [Literal.escapedChar, scan, move, movePlain, backslash, apostrophe, lineFeed, notReturn]

theorem scan_escaped (text : List Char) (run : List Nat) (rest : List Char) :
    scan (some .plain) run (text.flatMap Literal.escapedChar ++ rest) =
      if text.contains '\r' then none else scan (some .plain) (run ++ units text) rest := by
  induction text generalizing run with
  | nil => simp [units]
  | cons c later ih =>
      rw [List.flatMap_cons, List.append_assoc]
      by_cases isReturn : c = '\r'
      · subst c
        simp [Literal.escapedChar, scan, move, movePlain]
      · rw [scan_escapedChar isReturn, ih, List.append_assoc]
        simp [units, Ne.symm isReturn]

theorem pieces?_quote (text : String) (rest : List Char) :
    pieces? ((Literal.quote text).toList ++ rest) =
      if hasReturn text then none
      else (pieces? rest).map (.literal (units text.toList) :: ·) := by
  have opened : pieces? ('\'' :: (text.toList.flatMap Literal.escapedChar ++ '\'' :: rest)) =
      scan (some .plain) [] (text.toList.flatMap Literal.escapedChar ++ '\'' :: rest) := by
    rw [pieces?, scan, if_pos rfl]
  have closed : scan (some .plain) (units text.toList) ('\'' :: rest) =
      (pieces? rest).map (.literal (units text.toList) :: ·) := rfl
  rw [Literal.quote, String.toList_ofList, List.cons_append, List.cons_append, List.append_assoc,
    List.singleton_append, opened, scan_escaped, List.nil_append, closed, hasReturn]

theorem codeUnits_append_inj {c d : Char} {later others : List Nat}
    (same : codeUnits c.toNat ++ later = codeUnits d.toNat ++ others) :
    c = d ∧ later = others := by
  have cValid := c.valid
  have dValid := d.valid
  simp only [UInt32.isValidChar, Nat.isValidChar] at cValid dValid
  change (c.toNat < _ ∨ _ < c.toNat ∧ c.toNat < _) at cValid
  change (d.toNat < _ ∨ _ < d.toNat ∧ d.toNat < _) at dValid
  have equal : c.toNat = d.toNat ∧ later = others := by
    unfold codeUnits at same
    split at same <;> split at same <;>
      simp only [List.cons_append, List.nil_append, List.cons.injEq] at same
    · exact same
    · omega
    · omega
    · exact ⟨by omega, same.2.2⟩
  exact ⟨Char.toNat_inj.mp equal.1, equal.2⟩

theorem codeUnits_ne_nil (code : Nat) : codeUnits code ≠ [] := by
  unfold codeUnits
  split <;> exact List.cons_ne_nil _ _

theorem units_inj {text other : List Char} (same : units text = units other) : text = other := by
  induction text generalizing other with
  | nil =>
      cases other with
      | nil => rfl
      | cons d others =>
          rw [units, units, List.flatMap_cons] at same
          exact absurd (List.append_eq_nil_iff.mp same.symm).1 (codeUnits_ne_nil _)
  | cons c later ih =>
      cases other with
      | nil =>
          rw [units, units, List.flatMap_cons] at same
          exact absurd (List.append_eq_nil_iff.mp same).1 (codeUnits_ne_nil _)
      | cons d others =>
          rw [units, units, List.flatMap_cons, List.flatMap_cons] at same
          obtain ⟨rfl, sameLater⟩ := codeUnits_append_inj same
          rw [ih sameLater]

theorem denotes_quote_iff (text other : String) :
    Denotes (Literal.quote text) other ↔ '\r' ∉ text.toList ∧ text = other := by
  have alone := pieces?_quote text []
  rw [List.append_nil] at alone
  rw [Denotes, alone]
  by_cases broken : '\r' ∈ text.toList
  · simp [hasReturn, broken]
  · rw [if_neg (by simpa [hasReturn] using broken)]
    constructor
    · intro read
      rw [pieces?, scan, if_pos rfl, Option.map_some, Option.some.injEq, List.cons.injEq,
        Piece.literal.injEq] at read
      exact ⟨broken, String.toList_inj.mp (units_inj read.1)⟩
    · rintro ⟨_, rfl⟩
      rfl

def values (texts : List String) : List (List Nat) :=
  texts.map fun text => units text.toList

def Quotes (source : String) (texts : List String) : Prop :=
  ∀ rest, literals? (source.toList ++ rest) =
    if texts.any hasReturn then none else (literals? rest).map (values texts ++ ·)

def ReadsAs (source : String) (texts : List String) : Prop :=
  literals? source.toList = some (values texts)

namespace Quotes

theorem nil : Quotes "" [] := by
  intro rest
  simp [values]

theorem append {first second : String} {texts others : List String}
    (firstQuotes : Quotes first texts) (secondQuotes : Quotes second others) :
    Quotes (first ++ second) (texts ++ others) := by
  intro rest
  rw [String.toList_append, List.append_assoc, firstQuotes, secondQuotes, List.any_append]
  cases texts.any hasReturn with
  | true => rfl
  | false =>
      cases others.any hasReturn with
      | true => rfl
      | false => simp [values, Option.map_map, Function.comp_def]

theorem literals?_eq {source : String} {texts : List String} (quotes : Quotes source texts) :
    literals? source.toList = if texts.any hasReturn then none else some (values texts) := by
  have alone := quotes []
  have whole : (literals? []).map (values texts ++ ·) = some (values texts) := by
    rw [literals?, pieces?, scan, if_pos rfl, Option.map_some, Option.map_some, List.filterMap_nil,
      List.append_nil]
  rwa [List.append_nil, whole] at alone

end Quotes

theorem readsAs_iff_of_literals? {source : String} {texts : List String}
    (read : literals? source.toList =
      if texts.any hasReturn then none else some (values texts)) :
    ReadsAs source texts ↔ ∀ text ∈ texts, '\r' ∉ text.toList := by
  have noReturn : texts.any hasReturn = false ↔ ∀ text ∈ texts, '\r' ∉ text.toList := by
    simp [hasReturn]
  rw [ReadsAs, read, ← noReturn]
  cases texts.any hasReturn with
  | true => simp
  | false => simp

theorem Quotes.readsAs_iff {source : String} {texts : List String}
    (quotes : Quotes source texts) :
    ReadsAs source texts ↔ ∀ text ∈ texts, '\r' ∉ text.toList :=
  readsAs_iff_of_literals? quotes.literals?_eq

theorem quotes_quote (text : String) : Quotes (Literal.quote text) [text] := by
  intro rest
  rw [literals?, pieces?_quote, List.any_cons, List.any_nil, Bool.or_false]
  cases hasReturn text with
  | true => rfl
  | false => simp [literals?, values, Option.map_map, Function.comp_def, Piece.value?]

theorem scan_append {place : Option Place} {run : List Nat} {cs : List Char} {pieces : List Piece}
    (read : scan place run cs = some pieces) (rest : List Char) :
    scan place run (cs ++ rest) = (pieces? rest).map (pieces ++ ·) := by
  induction cs generalizing place run pieces with
  | nil =>
      rw [scan] at read
      split at read
      · rename_i outside
        obtain rfl := Option.some.inj read
        subst outside
        simp [scan_none]
      · cases read
  | cons c later ih =>
      have mapped {run : List Nat} {first : Piece}
          (read : (scan none run later).map (first :: ·) = some pieces) :
          (scan none run (later ++ rest)).map (first :: ·) =
            (pieces? rest).map (pieces ++ ·) := by
        obtain ⟨inner, found, rfl⟩ := Option.map_eq_some_iff.mp read
        rw [ih found, Option.map_map]
        rfl
      rw [List.cons_append]
      cases place with
      | none =>
          rw [scan] at read ⊢
          split at read
          · rename_i opens
            rw [if_pos opens]
            exact ih read
          · rename_i stays
            rw [if_neg stays]
            split at read
            · cases read
            · rename_i isCode
              rw [if_neg isCode]
              exact mapped read
      | some place =>
          rw [scan] at read ⊢
          split at read
          · cases read
          · exact mapped read
          · exact ih read

theorem move_lineFeed_ne_close (place : Place) : move place '\n' ≠ some .close := by
  cases place with
  | digits left value => simp [move, moveDigit, show Json.hexValue? '\n' = none from rfl]
  | braces value => simp [move, moveBraces, show Json.hexValue? '\n' = none from rfl]
  | _ => decide

theorem literals?_lineFeed (cs : List Char) : literals? (cs ++ ['\n']) = literals? cs := by
  have held (pieces : List Piece) (first : Piece) :
      (first :: pieces).filterMap Piece.value? =
        first.value?.toList ++ pieces.filterMap Piece.value? := by
    cases first <;> rfl
  have scanned (place : Option Place) (run : List Nat) :
      (scan place run (cs ++ ['\n'])).map (List.filterMap Piece.value?) =
        (scan place run cs).map (List.filterMap Piece.value?) := by
    induction cs generalizing place run with
    | nil =>
        cases place with
        | none => rfl
        | some place =>
            simp only [List.nil_append, scan, reduceCtorEq, if_false]
            split
            · rfl
            · rename_i closes
              exact absurd closes (move_lineFeed_ne_close place)
            · rfl
    | cons c rest ih =>
        have mapped (first : Piece) :
            ((scan none [] (rest ++ ['\n'])).map (first :: ·)).map
                (List.filterMap Piece.value?) =
              ((scan none [] rest).map (first :: ·)).map (List.filterMap Piece.value?) := by
          have same := congrArg (Option.map (first.value?.toList ++ ·)) (ih none [])
          simpa only [Option.map_map, Function.comp_def, held] using same
        rw [List.cons_append]
        cases place with
        | none =>
            simp only [scan]
            split
            · exact ih _ _
            · split
              · rfl
              · exact mapped _
        | some place =>
            simp only [scan]
            split
            · rfl
            · exact mapped _
            · exact ih _ _
  exact scanned none []

theorem quotes_of_readsAs {source : String} {texts : List String}
    (read : literals? source.toList = some (values texts) ∧ texts.any hasReturn = false) :
    Quotes source texts := by
  obtain ⟨read, noReturn⟩ := read
  obtain ⟨pieces, found, same⟩ := Option.map_eq_some_iff.mp read
  intro rest
  rw [literals?, pieces?, scan_append found, noReturn, if_neg Bool.false_ne_true, ← same]
  simp [literals?, Option.map_map, Function.comp_def]

theorem pieces?_word {cs : List Char} (plain : ∀ c ∈ cs, c.isAlphanum = true) :
    pieces? cs = some (cs.map .code) := by
  induction cs with
  | nil => rfl
  | cons c rest ih =>
      have isWord := plain c List.mem_cons_self
      have notQuote : c ≠ '\'' := by
        rintro rfl
        contradiction
      have isCode : ¬startsOther c = true := by
        intro starts
        simp only [startsOther, Bool.or_eq_true, beq_iff_eq] at starts
        rcases starts with (rfl | rfl) | rfl <;> contradiction
      rw [pieces?, scan, if_neg notQuote, if_neg isCode, ← pieces?,
        ih fun other found => plain other (List.mem_cons_of_mem _ found)]
      rfl

theorem quotes_word {name : String} (plain : IsPlain name) : Quotes name [] := by
  refine quotes_of_readsAs ⟨?_, rfl⟩
  rw [literals?, pieces?_word plain, Option.map_some, List.filterMap_map]
  simp [Function.comp_def, Piece.value?, values]

end ScriptReader

end DesignToCode
