import DesignToCode.Output.Stylesheet
import DesignToCode.Proofs.Output.Excerpt

/-!
A reader of whole style sheets.
-/

namespace DesignToCode

open DesignToCode.Text

namespace CssReader

def isNameStart (c : Char) : Bool :=
  c.isAlpha || c == '_' || 0x80 ≤ c.val

def isNameChar (c : Char) : Bool :=
  isNameStart c || c.isDigit || c == '-'

def isCssBlank (c : Char) : Bool :=
  c == ' ' || c == '\t' || c == '\n' || c == '\r' || c == '\x0c'

def startsName : List Char → Bool
  | '-' :: second :: _ => isNameStart second || second == '-'
  | first :: _ => isNameStart first
  | [] => false

def isIdentifier (name : List Char) : Bool :=
  startsName name && name.all isNameChar

theorem all_isNameChar {name : List Char} (isName : isIdentifier name = true) :
    ∀ c ∈ name, isNameChar c = true := by
  rw [isIdentifier, Bool.and_eq_true, List.all_eq_true] at isName
  exact isName.2

end CssReader

namespace SheetReader

open CssReader

abbrev Entry := String × List (String × String)

inductive Nesting where
  | none
  | arguments
  | text (quote : Char)
  | escape (quote : Char)
  deriving DecidableEq

def isPlain (c : Char) : Bool :=
  isNameChar c || isCssBlank c || ['#', '.', ',', '%'].contains c

def moveValue : Nesting → Char → Option Nesting
  | .none, c =>
    if c = '\'' ∨ c = '"' then some (.text c)
    else if c = '(' then some .arguments
    else if isPlain c then some .none
    else none
  | .arguments, c =>
    if c = ')' then some .none
    else if isPlain c then some .arguments
    else none
  | .text quote, c =>
    if c = quote then some .none
    else if c = '\\' then some (.escape quote)
    else if c ∈ ['\n', '\r', '\x0c'] then none
    else some (.text quote)
  | .escape quote, _ => some (.text quote)

/-- A value that goes on up to its end, and has no blank before it. -/
def isValue (value : List Char) : Bool :=
  match value with
  | [] => false
  | c :: _ => !isCssBlank c && value.foldlM moveValue .none == some .none

inductive Place where
  | outside
  | selector (name : List Char)
  | selected (name : List Char)
  | block (entry : Entry)
  | property (entry : Entry) (name : List Char)
  | value (entry : Entry) (property : String) (nesting : Nesting) (read : List Char)
  deriving DecidableEq

def moveSelected (name : List Char) (c : Char) : Option Place :=
  if ¬isIdentifier name then none
  else if c = '\x7b' then some (.block (String.ofList name, []))
  else if isCssBlank c then some (.selected name)
  else none

def moveBlock (entry : Entry) (c : Char) : Option Place :=
  if isCssBlank c then some (.block entry)
  else if isNameChar c then some (.property entry [c])
  else none

def moveProperty (entry : Entry) (name : List Char) (c : Char) : Option Place :=
  if isNameChar c then some (.property entry (name ++ [c]))
  else if c = ':' ∧ isIdentifier name then some (.value entry (String.ofList name) .none [])
  else none

def moveWithinValue (entry : Entry) (property : String) (nesting : Nesting) (read : List Char)
    (c : Char) : Option Place :=
  if read = [] ∧ isCssBlank c then some (.value entry property nesting read)
  else
    match moveValue nesting c with
    | some next => some (.value entry property next (read ++ [c]))
    | none =>
      if c = ';' ∧ nesting = .none ∧ read ≠ [] then
        some (.block (entry.1, entry.2 ++ [(property, String.ofList read)]))
      else none

def move (c : Char) : Place → Option Place
  | .outside =>
    if isCssBlank c then some .outside else if c = '.' then some (.selector []) else none
  | .selector name =>
    if isNameChar c then some (.selector (name ++ [c])) else moveSelected name c
  | .selected name => moveSelected name c
  | .block entry => moveBlock entry c
  | .property entry name => moveProperty entry name c
  | .value entry property nesting read => moveWithinValue entry property nesting read c

/-- The rules of a sheet of single classes, none for any other text. -/
def scan : Place → List Char → Option (List Entry)
  | .outside, [] => some []
  | _, [] => none
  | .block entry, '\x7d' :: rest => (scan .outside rest).map (entry :: ·)
  | place, c :: rest => (move c place).bind fun next => scan next rest

def read? (sheet : List Char) : Option (List Entry) :=
  scan .outside sheet

structure Readable (entry : Entry) : Prop where
  isIdentifier : isIdentifier entry.1.toList = true
  declared : ∀ declaration ∈ entry.2,
    CssReader.isIdentifier declaration.1.toList = true ∧ isValue declaration.2.toList = true

theorem scan_cons {place next : Place} {c : Char} (moves : move c place = some next)
    (rest : List Char) : scan place (c :: rest) = scan next rest := by
  rw [scan, moves]
  · rfl
  · rintro entry rfl rfl
    cases moves

def run (place : Place) (cs : List Char) : Option Place :=
  cs.foldlM (fun place c => move c place) place

theorem run_cons {place next : Place} {c : Char} (moves : move c place = some next)
    (cs : List Char) : run place (c :: cs) = run next cs := by
  rw [run, List.foldlM_cons, moves]
  rfl

theorem run_append {place middle : Place} {first : List Char}
    (ran : run place first = some middle) (second : List Char) :
    run place (first ++ second) = run middle second := by
  rw [run] at ran
  rw [run, List.foldlM_append, ran]
  rfl

theorem scan_append {place next : Place} {cs : List Char} (ran : run place cs = some next)
    (rest : List Char) : scan place (cs ++ rest) = scan next rest := by
  induction cs generalizing place with
  | nil =>
      cases ran
      rfl
  | cons c later ih =>
      cases moves : move c place with
      | none =>
          rw [run, List.foldlM_cons, moves] at ran
          cases ran
      | some middle =>
          rw [run_cons moves] at ran
          rw [List.cons_append, scan_cons moves, ih ran]

theorem run_collect {place : List Char → Place} {cs : List Char}
    (collects : ∀ c ∈ cs, ∀ name, move c (place name) = some (place (name ++ [c])))
    (name : List Char) : run (place name) cs = some (place (name ++ cs)) := by
  induction cs generalizing name with
  | nil => simp [run]
  | cons c later ih =>
      have others := ih fun other found => collects other (List.mem_cons_of_mem _ found)
      rw [run_cons (collects c List.mem_cons_self name), others, List.append_assoc,
        List.singleton_append]

theorem run_selector {cs : List Char} (names : ∀ c ∈ cs, isNameChar c = true)
    (name : List Char) : run (.selector name) cs = some (.selector (name ++ cs)) := by
  refine run_collect ?_ name
  intro c found name
  exact if_pos (names c found)

theorem run_property {cs : List Char} (names : ∀ c ∈ cs, isNameChar c = true) (entry : Entry)
    (name : List Char) :
    run (.property entry name) cs = some (.property entry (name ++ cs)) := by
  refine run_collect ?_ name
  intro c found name
  exact if_pos (names c found)

theorem run_value {cs read : List Char} {nesting last : Nesting}
    (goesOn : cs.foldlM moveValue nesting = some last)
    (started : read = [] → ∀ c ∈ cs.head?, isCssBlank c = false) (entry : Entry)
    (property : String) :
    run (.value entry property nesting read) cs =
      some (.value entry property last (read ++ cs)) := by
  induction cs generalizing nesting read with
  | nil =>
      cases goesOn
      simp [run]
  | cons c later ih =>
      obtain ⟨next, stepped, more⟩ := Option.bind_eq_some_iff.mp goesOn
      have noBlank : ¬(read = [] ∧ isCssBlank c = true) := by
        rintro ⟨isFirst, isBlank⟩
        rw [started isFirst c rfl] at isBlank
        cases isBlank
      have moves : move c (.value entry property nesting read) =
          some (.value entry property next (read ++ [c])) := by
        rw [move, moveWithinValue, if_neg noBlank, stepped]
      rw [run_cons moves, ih more fun isFirst => by simp at isFirst, List.append_assoc,
        List.singleton_append]

def declarationText (declaration : String × String) : List Char :=
  ' ' :: ' ' :: (declaration.1.toList ++ ':' :: ' ' :: (declaration.2.toList ++ [';', '\n']))

def entryText (entry : Entry) : List Char :=
  '.' :: (entry.1.toList ++ ' ' :: '\x7b' :: '\n' ::
    (entry.2.flatMap declarationText ++ ['\x7d', '\n']))

theorem not_isCssBlank_of_isNameChar {c : Char} (isName : isNameChar c = true) :
    isCssBlank c = false := by
  rw [Bool.eq_false_iff]
  intro isBlank
  simp only [isCssBlank, Bool.or_eq_true, beq_iff_eq] at isBlank
  rcases isBlank with (((rfl | rfl) | rfl) | rfl) | rfl <;> cases isName

theorem isValue_iff {value : List Char} : isValue value = true ↔
    value ≠ [] ∧ (∀ c ∈ value.head?, isCssBlank c = false) ∧
      value.foldlM moveValue .none = some .none := by
  cases value with
  | nil => simp [isValue]
  | cons c rest => simp [isValue]

theorem run_declarationText {entry : Entry} {declaration : String × String}
    (isName : isIdentifier declaration.1.toList = true)
    (valued : isValue declaration.2.toList = true) :
    run (.block entry) (declarationText declaration) =
      some (.block (entry.1, entry.2 ++ [declaration])) := by
  obtain ⟨property, value⟩ := declaration
  obtain ⟨nonempty, noBlank, goesOn⟩ := isValue_iff.mp valued
  have names := all_isNameChar isName
  have named : run (.block entry) property.toList = some (.property entry property.toList) := by
    cases split : property.toList with
    | nil =>
        rw [split] at isName
        cases isName
    | cons first later =>
        rw [split] at names
        have isNameFirst := names first List.mem_cons_self
        have moves : move first (.block entry) = some (.property entry [first]) := by
          simp [move, moveBlock, isNameFirst, not_isCssBlank_of_isNameChar isNameFirst]
        exact (run_cons moves later).trans
          (run_property (fun c found => names c (List.mem_cons_of_mem _ found)) entry [first])
  have colon : move ':' (.property entry property.toList) =
      some (.value entry property .none []) := by
    have noName : isNameChar ':' = false := rfl
    simp [move, moveProperty, noName, isName]
  have semicolon : move ';' (.value entry property .none value.toList) =
      some (.block (entry.1, entry.2 ++ [(property, value)])) := by
    have ends : moveValue .none ';' = none := rfl
    simp only [move, moveWithinValue, ends]
    simp [nonempty]
  calc run (.block entry) (declarationText (property, value))
      = run (.block entry) (property.toList ++ ':' :: ' ' :: (value.toList ++ [';', '\n'])) := rfl
    _ = run (.value entry property .none []) (' ' :: (value.toList ++ [';', '\n'])) := by
        rw [run_append named, run_cons colon]
    _ = run (.value entry property .none []) (value.toList ++ [';', '\n']) := rfl
    _ = run (.value entry property .none value.toList) [';', '\n'] := by
        rw [run_append (run_value goesOn (fun _ => noBlank) entry property), List.nil_append]
    _ = some (.block (entry.1, entry.2 ++ [(property, value)])) := by
        rw [run_cons semicolon]
        rfl

theorem run_declarations {declarations : List (String × String)}
    (readable : ∀ declaration ∈ declarations,
      isIdentifier declaration.1.toList = true ∧ isValue declaration.2.toList = true)
    (entry : Entry) :
    run (.block entry) (declarations.flatMap declarationText) =
      some (.block (entry.1, entry.2 ++ declarations)) := by
  induction declarations generalizing entry with
  | nil => simp [run]
  | cons first later ih =>
      obtain ⟨isName, valued⟩ := readable first List.mem_cons_self
      rw [List.flatMap_cons, run_append (run_declarationText isName valued),
        ih fun other found => readable other (List.mem_cons_of_mem _ found), List.append_assoc,
        List.singleton_append]

theorem scan_entryText {entry : Entry} (readable : Readable entry) (rest : List Char) :
    scan .outside (entryText entry ++ rest) = (scan .outside rest).map (entry :: ·) := by
  obtain ⟨name, declarations⟩ := entry
  have names := all_isNameChar readable.isIdentifier
  have selected : move ' ' (.selector name.toList) = some (.selected name.toList) := by
    have noName : isNameChar ' ' = false := rfl
    simp [move, moveSelected, noName, readable.isIdentifier, isCssBlank]
  have opened : move '\x7b' (.selected name.toList) = some (.block (name, [])) := by
    simp [move, moveSelected, readable.isIdentifier]
  have header : run .outside ('.' :: (name.toList ++ [' ', '\x7b', '\n'])) =
      some (.block (name, [])) := by
    have dot : move '.' .outside = some (.selector []) := rfl
    rw [run_cons dot, run_append (run_selector names []), List.nil_append, run_cons selected,
      run_cons opened]
    rfl
  have declared := run_declarations readable.declared (name, [])
  have written : entryText (name, declarations) ++ rest =
      ('.' :: (name.toList ++ [' ', '\x7b', '\n'])) ++
        (declarations.flatMap declarationText ++ '\x7d' :: '\n' :: rest) := by
    simp [entryText]
  rw [written, scan_append header, scan_append declared, List.nil_append]
  rfl

def Place.Sound : Place → Prop
  | .outside => True
  | .selector _ => True
  | .selected name => isIdentifier name = true
  | .block entry => Readable entry
  | .property entry _ => Readable entry
  | .value entry name nesting read =>
    Readable entry ∧ isIdentifier name.toList = true ∧
      (∀ c ∈ read.head?, isCssBlank c = false) ∧ read.foldlM moveValue .none = some nesting

theorem sound_moveSelected {name : List Char} {c : Char} {next : Place}
    (moves : moveSelected name c = some next) : next.Sound := by
  unfold moveSelected at moves
  split at moves
  · cases moves
  · rename_i isName
    rw [Bool.not_eq_true, Bool.not_eq_false] at isName
    split at moves
    · cases moves
      exact ⟨by rwa [String.toList_ofList], by simp⟩
    · split at moves
      · cases moves
        exact isName
      · cases moves

theorem sound_moveWithinValue {entry : Entry} {property : String} {nesting : Nesting}
    {read : List Char} {c : Char} {next : Place}
    (sound : (Place.value entry property nesting read).Sound)
    (moves : moveWithinValue entry property nesting read c = some next) : next.Sound := by
  obtain ⟨readable, isName, noBlank, goesOn⟩ := sound
  unfold moveWithinValue at moves
  split at moves
  · cases moves
    exact ⟨readable, isName, noBlank, goesOn⟩
  · rename_i started
    split at moves
    · rename_i stepped
      cases moves
      refine ⟨readable, isName, ?_, ?_⟩
      · cases read with
        | nil => simpa using started
        | cons first later => exact noBlank
      · rw [List.foldlM_append, goesOn]
        simp [stepped]
    · split at moves
      · rename_i ended
        obtain ⟨rfl, rfl, nonempty⟩ := ended
        cases moves
        have valued : isValue read = true := isValue_iff.mpr ⟨nonempty, noBlank, goesOn⟩
        refine ⟨readable.isIdentifier, fun declaration found => ?_⟩
        rcases List.mem_append.mp found with old | new
        · exact readable.declared declaration old
        · obtain rfl := List.mem_singleton.mp new
          exact ⟨isName, by rwa [String.toList_ofList]⟩
      · cases moves

theorem sound_move {place next : Place} {c : Char} (sound : place.Sound)
    (moves : move c place = some next) : next.Sound := by
  cases place with
  | outside =>
      rw [move] at moves
      split at moves
      · cases moves
        trivial
      · split at moves
        · cases moves
          trivial
        · cases moves
  | selector name =>
      rw [move] at moves
      split at moves
      · cases moves
        trivial
      · exact sound_moveSelected moves
  | selected name => exact sound_moveSelected moves
  | block entry =>
      rw [move, moveBlock] at moves
      split at moves
      · cases moves
        exact sound
      · split at moves
        · cases moves
          exact sound
        · cases moves
  | property entry name =>
      rw [move, moveProperty] at moves
      split at moves
      · cases moves
        exact sound
      · split at moves
        · rename_i ended
          cases moves
          exact ⟨sound, by rw [String.toList_ofList]; exact ended.2, by simp, rfl⟩
        · cases moves
  | value entry property nesting read => exact sound_moveWithinValue sound moves

theorem readable_scan {place : Place} {cs : List Char} {entries : List Entry}
    (sound : place.Sound) (scanned : scan place cs = some entries) :
    ∀ entry ∈ entries, Readable entry := by
  induction place, cs using scan.induct generalizing entries with
  | case1 =>
      cases scanned
      simp
  | case2 place ended =>
      rw [scan] at scanned
      · cases scanned
      · exact ended
  | case3 closed rest ih =>
      rw [scan] at scanned
      obtain ⟨others, later, rfl⟩ := Option.map_eq_some_iff.mp scanned
      intro entry found
      rcases List.mem_cons.mp found with rfl | isLater
      · exact sound
      · exact ih trivial later entry isLater
  | case4 place c rest goesOn ih =>
      rw [scan] at scanned
      · obtain ⟨next, moves, later⟩ := Option.bind_eq_some_iff.mp scanned
        exact ih next (sound_move sound moves) later
      · exact goesOn

end SheetReader

namespace Stylesheet

def ruleText (rule : StyleRule) : String :=
  lined (("." ++ rule.className ++ " \x7b") ::
    (rule.declarations.entries.map (fun entry => "  " ++ entry.1 ++ ": " ++ entry.2.display ++ ";") ++
      ["\x7d"]))

def entryOf (rule : StyleRule) : SheetReader.Entry :=
  (rule.className, rule.declarations.entries.map fun entry => (entry.1, entry.2.display))

/-- The rules are spelled out in the text, with an empty line between two, and they are what is read
in it exactly if they are readable. -/
structure IsSheet (rules : List StyleRule) (text : String) : Prop where
  spelled : text = join "\n" (rules.map ruleText)
  read?_eq_some_iff : SheetReader.read? text.toList = some (rules.map entryOf) ↔
    ∀ rule ∈ rules, SheetReader.Readable (entryOf rule)

theorem toList_ruleText (rule : StyleRule) :
    (ruleText rule).toList = SheetReader.entryText (entryOf rule) := by
  have declarations (entries : List (String × StyleValue)) :
      (lined (entries.map (fun entry => "  " ++ entry.1 ++ ": " ++ entry.2.display ++ ";") ++
        ["\x7d"])).toList =
        (entries.map fun entry => (entry.1, entry.2.display)).flatMap
          SheetReader.declarationText ++ ['\x7d', '\n'] := by
    induction entries with
    | nil => rfl
    | cons entry rest ih =>
        rw [List.map_cons, List.cons_append, lined, String.toList_append, ih]
        simp [SheetReader.declarationText]
  rw [ruleText, lined, String.toList_append, declarations]
  simp [SheetReader.entryText, entryOf]

theorem scan_sheet {rules : List StyleRule}
    (readable : ∀ rule ∈ rules, SheetReader.Readable (entryOf rule)) :
    SheetReader.scan .outside (join "\n" (rules.map ruleText)).toList =
      some (rules.map entryOf) := by
  induction rules with
  | nil => rfl
  | cons rule rest ih =>
      have first := SheetReader.scan_entryText (readable rule List.mem_cons_self)
      have others := ih fun other found => readable other (List.mem_cons_of_mem _ found)
      cases rest with
      | nil =>
          have alone := first []
          rw [List.append_nil, ← toList_ruleText] at alone
          exact alone
      | cons next later =>
          rw [List.map_cons, List.map_cons, join, String.toList_append, String.toList_append,
            toList_ruleText, List.append_assoc, first]
          change (SheetReader.scan .outside _).map _ = _
          rw [List.map_cons] at others
          exact congrArg _ others

theorem join_lines {rule : StyleRule} {rest : List StyleRule} :
    join "\n" (lines (rule :: rest)) = join "\n" ((rule :: rest).map ruleText) := by
  induction rest generalizing rule with
  | nil =>
      rw [lines, join_append _ (List.cons_ne_nil _ _)]
      exact String.append_empty
  | cons next later ih =>
      have nonempty : lines (next :: later) ≠ [] := by
        cases later <;> simp [lines]
      have split : lines (rule :: next :: later) =
          (ruleLines rule ++ [""]) ++ lines (next :: later) := by
        rw [lines, List.append_assoc, List.singleton_append]
      have spelled : join "\n" ((rule :: next :: later).map ruleText) =
          ruleText rule ++ "\n" ++ join "\n" ((next :: later).map ruleText) := rfl
      rw [split, join_append _ nonempty, lined_append, ih, spelled]
      rfl

theorem isSheet_render (component : Component) : IsSheet (rules component) (render component) := by
  have spelled : render component = join "\n" ((rules component).map ruleText) := join_lines
  refine ⟨spelled, ?_, ?_⟩
  · intro read rule isRule
    have sound : SheetReader.Place.outside.Sound := trivial
    exact SheetReader.readable_scan sound read _ (List.mem_map_of_mem isRule)
  · intro readable
    rw [SheetReader.read?, spelled]
    exact scan_sheet readable

end Stylesheet

end DesignToCode
