import DesignToCode.Json.Literal
import DesignToCode.Proofs.Output.Selectors

/-!
A reader of lists of font families in style sheets, by the rules for their tokens.
-/

namespace DesignToCode

namespace FamilyReader

open CssReader (isNameStart isNameChar isCssBlank)

def readChar (c : Char) : Char :=
  if c = '\r' ∨ c = '\x0c' then '\n' else if c = '\x00' then '\uFFFD' else c

def readChars (afterReturn : Bool) : List Char → List Char
  | [] => []
  | c :: rest =>
    if afterReturn && c == '\n' then readChars false rest
    else readChar c :: readChars (c == '\r') rest

inductive Token where
  | quoted (text : String)
  | word (name : String)
  | comma
  deriving DecidableEq, Repr

inductive Place where
  | between
  | slash
  | comment (star : Bool)
  | hyphen
  | word
  | text (quote : Char)
  | escape (quote : Option Char)
  | code (quote : Option Char) (left value : Nat)
  deriving DecidableEq, Repr

inductive Move where
  | stop (tokens : List Token)
  | go (tokens : List Token) (place : Place) (run : List Char)
  deriving DecidableEq, Repr

def Move.after (token : Token) : Move → Move
  | stop tokens => .stop (token :: tokens)
  | go tokens place run => .go (token :: tokens) place run

def moveBetween (c : Char) : Option Move :=
  if c = ';' then some (.stop [])
  else if c = ',' then some (.go [.comma] .between [])
  else if isCssBlank c then some (.go [] .between [])
  else if c = '\'' ∨ c = '"' then some (.go [] (.text c) [])
  else if c = '/' then some (.go [] .slash [])
  else if c = '-' then some (.go [] .hyphen [c])
  else if c = '\\' then some (.go [] (.escape none) [])
  else if isNameStart c then some (.go [] .word [c])
  else none

def moveHyphen (run : List Char) (c : Char) : Option Move :=
  if c = '\\' then some (.go [] (.escape none) run)
  else if isNameStart c || c == '-' then some (.go [] .word (run ++ [c]))
  else none

def moveWord (run : List Char) (c : Char) : Option Move :=
  if isNameChar c then some (.go [] .word (run ++ [c]))
  else if c = '\\' then some (.go [] (.escape none) run)
  else (moveBetween c).map (Move.after (.word (String.ofList run)))

def moveText (quote : Char) (run : List Char) (c : Char) : Option Move :=
  if c = quote then some (.go [.quoted (String.ofList run)] .between [])
  else if c = '\\' then some (.go [] (.escape (some quote)) run)
  else if c = '\n' then none
  else some (.go [] (.text quote) (run ++ [c]))

def codeChar (value : Nat) : Char :=
  if value = 0 ∨ ¬value.isValidChar then '\uFFFD' else Char.ofNat value

def moveEscape (quote : Option Char) (run : List Char) (c : Char) : Option Move :=
  match Json.hexValue? c with
  | some digit => some (.go [] (.code quote 5 digit) run)
  | none =>
    if c = '\n' then quote.map fun quote => .go [] (.text quote) run
    else some (.go [] (quote.elim .word .text) (run ++ [c]))

def moveCode (quote : Option Char) (left value : Nat) (run : List Char) (c : Char) : Option Move :=
  match Json.hexValue? c, left with
  | some digit, left + 1 => some (.go [] (.code quote left (16 * value + digit)) run)
  | _, _ =>
    if isCssBlank c then some (.go [] (quote.elim .word .text) (run ++ [codeChar value]))
    else quote.elim moveWord moveText (run ++ [codeChar value]) c

def move (run : List Char) (c : Char) : Place → Option Move
  | .between => moveBetween c
  | .slash => if c = '*' then some (.go [] (.comment false) []) else none
  | .comment star =>
    some (.go [] (if star && c == '/' then .between else .comment (c == '*')) [])
  | .hyphen => moveHyphen run c
  | .word => moveWord run c
  | .text quote => moveText quote run c
  | .escape quote => moveEscape quote run c
  | .code quote left value => moveCode quote left value run c

/-- The tokens up to the semicolon that ends a declaration, and what follows it. -/
def scan (place : Place) (run : List Char) : List Char → Option (List Token × List Char)
  | [] => none
  | c :: rest =>
    match move run c place with
    | none => none
    | some (.stop tokens) => some (tokens, rest)
    | some (.go tokens next run) =>
      (scan next run rest).map fun found => (tokens ++ found.1, found.2)

inductive Family where
  | quoted (name : String)
  | named (words : List String)
  deriving DecidableEq, Repr

def grow? : Option Family → Token → Option Family
  | none, .quoted text => some (.quoted text)
  | none, .word name => some (.named [name])
  | some (.named words), .word name => some (.named (words ++ [name]))
  | _, _ => none

def families? (current : Option Family) : List Token → Option (List Family)
  | [] => current.map fun family => [family]
  | .comma :: rest => current.bind fun family => (families? none rest).map (family :: ·)
  | token :: rest => (grow? current token).bind fun grown => families? (some grown) rest

/-- The families that a declaration lists, read from its value on, and what follows it. -/
def declared? (source : List Char) : Option (List Family × List Char) :=
  (scan .between [] (readChars false source)).bind fun found =>
    (families? none found.1).map fun families => (families, found.2)

def specials : List Char :=
  ['\'', '\\', '\n', '\r', '\x0c', '\x00']

def ending : List Char :=
  ['\'', ',', ' ', 's', 'a', 'n', 's', '-', 's', 'e', 'r', 'i', 'f', ';']

theorem readChars_append {next : List Char} (noBreak : next.head? ≠ some '\n') (cs : List Char)
    (afterReturn : Bool) :
    readChars afterReturn (cs ++ next) = readChars afterReturn cs ++ readChars false next := by
  induction cs generalizing afterReturn with
  | nil =>
      cases next with
      | nil => rfl
      | cons c rest =>
          have other : c ≠ '\n' := by simpa using noBreak
          simp [readChars, other]
  | cons c rest ih =>
      rw [List.cons_append, readChars, readChars]
      split
      · exact ih false
      · rw [ih, List.cons_append]

theorem length_readChars_le (afterReturn : Bool) (cs : List Char) :
    (readChars afterReturn cs).length ≤ cs.length := by
  induction cs generalizing afterReturn with
  | nil => exact Nat.le_refl _
  | cons c rest ih =>
      rw [readChars]
      split
      · exact Nat.le_succ_of_le (ih false)
      · exact Nat.succ_le_succ (ih _)

theorem readChar_eq_self_iff (c : Char) : readChar c = c ↔ c ∉ ['\r', '\x0c', '\x00'] := by
  unfold readChar
  split
  · rename_i isBreak
    rcases isBreak with rfl | rfl <;> decide
  · split
    · subst c
      decide
    · simp_all

theorem readChar_readChar (c : Char) : readChar (readChar c) = readChar c := by
  unfold readChar
  split
  · decide
  · split
    · decide
    · simp_all

theorem readChar_of_mem_readChars {afterReturn : Bool} {cs : List Char} {c : Char}
    (found : c ∈ readChars afterReturn cs) : readChar c = c := by
  induction cs generalizing afterReturn with
  | nil => cases found
  | cons first rest ih =>
      rw [readChars] at found
      split at found
      · exact ih found
      · rcases List.mem_cons.mp found with rfl | later
        · exact readChar_readChar first
        · exact ih later

theorem readChars_plain_append {cs : List Char} (plain : ∀ c ∈ cs, readChar c = c)
    (next : List Char) : readChars false (cs ++ next) = cs ++ readChars false next := by
  induction cs with
  | nil => rfl
  | cons c rest ih =>
      have noReturn : (c == '\r') = false := by
        rw [beq_eq_false_iff_ne]
        rintro rfl
        exact absurd (plain '\r' List.mem_cons_self) (by decide)
      rw [List.cons_append, readChars, Bool.false_and, if_neg Bool.false_ne_true,
        plain c List.mem_cons_self, noReturn,
        ih fun other later => plain other (List.mem_cons_of_mem _ later), List.cons_append]

theorem readChars_eq_self_iff (cs : List Char) :
    readChars false cs = cs ↔ ∀ c ∈ cs, readChar c = c := by
  constructor
  · intro same c found
    rw [← same] at found
    exact readChar_of_mem_readChars found
  · intro plain
    have whole := readChars_plain_append plain []
    rwa [List.append_nil, readChars, List.append_nil] at whole

theorem scan_go {place next : Place} {run longer : List Char} {c : Char}
    (moves : move run c place = some (.go [] next longer)) (rest : List Char) :
    scan place run (c :: rest) = scan next longer rest := by
  rw [scan, moves]
  exact congrFun Option.map_id _

theorem scan_closes {place : Place} {run text : List Char} {c : Char}
    (moves : move run c place = some (.go [.quoted (String.ofList text)] .between []))
    (rest : List Char) :
    scan place run (c :: rest) = (scan .between [] rest).map fun found =>
      (.quoted (String.ofList text) :: found.1, found.2) := by
  rw [scan, moves]
  rfl

theorem move_text {c : Char} (plain : c ∉ ['\'', '\\', '\n']) (run : List Char) :
    move run c (.text '\'') = some (.go [] (.text '\'') (run ++ [c])) := by
  simp only [List.mem_cons, List.not_mem_nil, or_false, not_or] at plain
  simp [move, moveText, plain]

theorem scan_text {cs : List Char} (plain : ∀ c ∈ cs, c ∉ ['\'', '\\', '\n'])
    (run rest : List Char) :
    scan (.text '\'') run (cs ++ rest) = scan (.text '\'') (run ++ cs) rest := by
  induction cs generalizing run with
  | nil => rw [List.nil_append, List.append_nil]
  | cons c later ih =>
      rw [List.cons_append, scan_go (move_text (plain c List.mem_cons_self) run),
        ih fun other found => plain other (List.mem_cons_of_mem _ found), List.append_assoc]
      rfl

theorem scan_ending (run rest : List Char) :
    scan (.text '\'') run (ending ++ rest) =
      some ([.quoted (String.ofList run), .comma, .word "sans-serif"], rest) := by
  rfl

def FirstWithin (length : Nat) (read : Option (List Token × List Char)) : Prop :=
  ∀ tokens rest, read = some (tokens, rest) →
    ∃ text later, tokens = .quoted text :: later ∧ text.toList.length ≤ length

namespace FirstWithin

theorem none (length : Nat) : FirstWithin length none := by
  intro tokens rest read
  cases read

theorem mono {short long : Nat} {read : Option (List Token × List Char)}
    (within : FirstWithin short read) (le : short ≤ long) : FirstWithin long read := by
  intro tokens rest found
  obtain ⟨text, later, same, bound⟩ := within tokens rest found
  exact ⟨text, later, same, Nat.le_trans bound le⟩

theorem quoted {text : List Char} {length : Nat} (le : text.length ≤ length)
    {later : List Token} {rest : List Char} :
    FirstWithin length (some (.quoted (String.ofList text) :: later, rest)) := by
  intro tokens after found
  cases found
  exact ⟨_, _, rfl, by rwa [String.toList_ofList]⟩

theorem map_quoted {text : List Char} {length : Nat} (le : text.length ≤ length)
    (read : Option (List Token × List Char)) :
    FirstWithin length (read.map fun found => (.quoted (String.ofList text) :: found.1, found.2)) := by
  cases read with
  | none => exact .none _
  | some found => exact .quoted le

end FirstWithin

/-- The places within a text between single quotes, with the number of characters that the text gets
there whatever comes next. -/
inductive Owes : Place → Nat → Prop where
  | text : Owes (.text '\'') 0
  | escape : Owes (.escape (some '\'')) 0
  | code (left value : Nat) : Owes (.code (some '\'') left value) 1

inductive Advances (length : Nat) : Move → Prop where
  | closes {text : List Char} (le : text.length ≤ length) :
      Advances length (.go [.quoted (String.ofList text)] .between [])
  | goes {next : Place} {owed : Nat} {longer : List Char} (owes : Owes next owed)
      (le : longer.length + owed ≤ length + 1) : Advances length (.go [] next longer)

theorem advances_moveText {run : List Char} {c : Char} {step : Move}
    (moves : moveText '\'' run c = some step) : Advances run.length step := by
  unfold moveText at moves
  split at moves
  · obtain rfl := Option.some.inj moves
    exact .closes (Nat.le_refl _)
  · split at moves
    · obtain rfl := Option.some.inj moves
      exact .goes .escape (Nat.le_succ _)
    · split at moves
      · cases moves
      · obtain rfl := Option.some.inj moves
        exact .goes .text (by simp)

theorem advances_moveEscape {run : List Char} {c : Char} {step : Move}
    (moves : moveEscape (some '\'') run c = some step) : Advances run.length step := by
  unfold moveEscape at moves
  split at moves
  · obtain rfl := Option.some.inj moves
    exact .goes (.code _ _) (Nat.le_refl _)
  · split at moves
    · obtain rfl := Option.some.inj moves
      exact .goes .text (Nat.le_succ _)
    · obtain rfl := Option.some.inj moves
      exact .goes .text (by simp)

theorem advances_moveCode {left value : Nat} {run : List Char} {c : Char} {step : Move}
    (moves : moveCode (some '\'') left value run c = some step) :
    Advances (run.length + 1) step := by
  unfold moveCode at moves
  split at moves
  · obtain rfl := Option.some.inj moves
    exact .goes (.code _ _) (Nat.le_succ _)
  · split at moves
    · obtain rfl := Option.some.inj moves
      exact .goes .text (by simp)
    · simpa using advances_moveText moves

theorem advances_move {place : Place} {owed : Nat} (owes : Owes place owed) {run : List Char}
    {c : Char} {step : Move} (moves : move run c place = some step) :
    Advances (run.length + owed) step := by
  cases owes with
  | text => exact advances_moveText moves
  | escape => exact advances_moveEscape moves
  | code left value => exact advances_moveCode moves

theorem firstWithin_scan {place : Place} {owed : Nat} (owes : Owes place owed)
    (run cs rest : List Char) :
    FirstWithin (run.length + owed + cs.length)
      (scan place run (cs ++ (ending ++ '\n' :: rest))) := by
  induction cs generalizing place owed run with
  | nil =>
      cases owes with
      | text =>
          rw [List.nil_append, scan_ending]
          exact FirstWithin.quoted (Nat.le_refl _)
      | escape =>
          -- The quote that was meant to end the text is escaped, and the line ends before another.
          exact FirstWithin.none _
      | code left value =>
          have closes : scan (.code (some '\'') left value) run (ending ++ '\n' :: rest) =
              scan (.text '\'') (run ++ [codeChar value]) (ending ++ '\n' :: rest) := by
            cases left <;> rfl
          rw [List.nil_append, closes, scan_ending]
          exact FirstWithin.quoted (by simp)
  | cons c later ih =>
      rw [List.cons_append, List.length_cons]
      cases moves : move run c place with
      | none =>
          rw [scan, moves]
          exact FirstWithin.none _
      | some step =>
          cases advances_move owes moves with
          | closes le =>
              rw [scan_closes moves]
              exact FirstWithin.map_quoted (by omega) _
          | goes nextOwes le =>
              rw [scan_go moves]
              exact (ih nextOwes _).mono (by omega)

theorem firstWithin_scan_special {cs : List Char} (special : ∃ c ∈ cs, c ∈ ['\'', '\\', '\n'])
    (run rest : List Char) :
    FirstWithin (run.length + cs.length - 1)
      (scan (.text '\'') run (cs ++ (ending ++ '\n' :: rest))) := by
  induction cs generalizing run with
  | nil =>
      obtain ⟨c, found, _⟩ := special
      cases found
  | cons c later ih =>
      rw [List.cons_append, List.length_cons]
      by_cases isSpecial : c ∈ ['\'', '\\', '\n']
      · simp only [List.mem_cons, List.not_mem_nil, or_false] at isSpecial
        rcases isSpecial with rfl | rfl | rfl
        · have closes : move run '\'' (.text '\'') =
              some (.go [.quoted (String.ofList run)] .between []) := rfl
          rw [scan_closes closes]
          exact FirstWithin.map_quoted (by omega) _
        · have escapes : move run '\\' (.text '\'') =
              some (.go [] (.escape (some '\'')) run) := rfl
          rw [scan_go escapes]
          exact (firstWithin_scan .escape run later rest).mono (by omega)
        · exact FirstWithin.none _
      · have inLater : ∃ c ∈ later, c ∈ ['\'', '\\', '\n'] := by
          obtain ⟨other, found, otherSpecial⟩ := special
          rcases List.mem_cons.mp found with rfl | found
          · exact absurd otherSpecial isSpecial
          · exact ⟨other, found, otherSpecial⟩
        rw [scan_go (move_text isSpecial run)]
        exact (ih inLater _).mono (by simp)

theorem first_families? {text name : String} {tokens : List Token} {families : List Family}
    (read : families? none (.quoted text :: tokens) = some (.quoted name :: families)) :
    text = name := by
  have grown : families? (some (.quoted text)) tokens = some (.quoted name :: families) := read
  cases tokens with
  | nil =>
      rw [families?, Option.map_some, Option.some.injEq, List.cons.injEq, Family.quoted.injEq]
        at grown
      exact grown.1
  | cons token later =>
      cases token with
      | comma =>
          obtain ⟨others, _, same⟩ := Option.map_eq_some_iff.mp grown
          rw [List.cons.injEq, Family.quoted.injEq] at same
          exact same.1
      | quoted other => cases grown
      | word other => cases grown

theorem readChars_quoted (family rest : List Char) :
    readChars false ('\'' :: (family ++ (ending ++ '\n' :: rest))) =
      '\'' :: (readChars false family ++ (ending ++ '\n' :: readChars false rest)) := by
  have opened (cs : List Char) : readChars false ('\'' :: cs) = '\'' :: readChars false cs := rfl
  have ended : readChars false (ending ++ '\n' :: rest) =
      ending ++ '\n' :: readChars false rest :=
    readChars_plain_append (by simp [ending, readChar]) ('\n' :: rest)
  have noBreak : (ending ++ '\n' :: rest).head? ≠ some '\n' := by simp [ending]
  rw [opened, readChars_append noBreak, ended]

theorem declared?_iff (family : String) (rest : List Char) :
    declared? ('\'' :: (family.toList ++ (ending ++ '\n' :: rest))) =
        some ([.quoted family, .named ["sans-serif"]], '\n' :: readChars false rest) ↔
      ∀ c ∈ family.toList, c ∉ specials := by
  have opened (cs : List Char) : scan .between [] ('\'' :: cs) = scan (.text '\'') [] cs :=
    scan_go rfl cs
  have special (c : Char) : c ∉ specials ↔ c ∉ ['\'', '\\', '\n'] ∧ readChar c = c := by
    rw [readChar_eq_self_iff, ← not_or, ← List.mem_append]
    rfl
  rw [declared?, readChars_quoted, opened]
  constructor
  · intro read
    obtain ⟨⟨tokens, after⟩, scanned, listed⟩ := Option.bind_eq_some_iff.mp read
    obtain ⟨families, named, same⟩ := Option.map_eq_some_iff.mp listed
    obtain ⟨rfl, rfl⟩ := Prod.mk.inj same
    -- With a special character the text would be shorter than the family.
    have plain : ∀ c ∈ readChars false family.toList, c ∉ ['\'', '\\', '\n'] := by
      intro c found isSpecial
      obtain ⟨text, later, rfl, short⟩ :=
        firstWithin_scan_special ⟨c, found, isSpecial⟩ [] _ tokens _ scanned
      rw [first_families? named] at short
      have long := length_readChars_le false family.toList
      have nonempty := List.length_pos_of_mem found
      rw [List.length_nil] at short
      omega
    rw [scan_text plain, scan_ending, List.nil_append] at scanned
    obtain ⟨rfl, _⟩ := Prod.mk.inj (Option.some.inj scanned)
    have same := first_families? named
    rw [← String.toList_inj, String.toList_ofList] at same
    intro c found
    rw [special]
    exact ⟨plain c (by rwa [same]), (readChars_eq_self_iff _).mp same c found⟩
  · intro plain
    simp only [special] at plain
    rw [(readChars_eq_self_iff _).mpr fun c found => (plain c found).2,
      scan_text fun c found => (plain c found).1, scan_ending, List.nil_append,
      String.ofList_toList]
    rfl

end FamilyReader

end DesignToCode
