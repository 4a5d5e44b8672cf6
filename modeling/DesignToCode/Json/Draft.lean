import DesignToCode.Json.Literal
import DesignToCode.OrderedMap

/-!
A JSON text taken apart as far as it goes, with a mark where it breaks off or goes wrong.
-/

namespace DesignToCode.Json

/-- The fault at a place for a reader that evaluates what stands there, and for one that only passes
over it. -/
structure Break where
  built : Fault
  skipped : Fault
  deriving Repr

def Break.both (fault : Fault) : Break :=
  ⟨fault, fault⟩

abbrev Key := Except Fault String

inductive Draft where
  | null
  | flag (value : Bool)
  | number (literal : NumberLiteral)
  | text (content : Key) (stop : Option Fault)
  | list (items : List Draft) (stop : Option Fault)
  | record (fields : List (Key × Draft)) (stop : Option Fault)
  | keyless (fields : List (Key × Draft)) (found : Option Draft)
  | absent
  | broken (stop : Break)
  deriving Inhabited

structure Scan (α : Type) where
  found : α
  rest : Option (List Char)

def isSpace (c : Char) : Bool :=
  c == ' ' || c == '\n' || c == '\t' || c == '\r'

def dropSpace (cs : List Char) : List Char :=
  cs.dropWhile isSpace

def scanWord : List Char → List Char → Except Fault (List Char)
  | [], cs => .ok cs
  | _ :: _, [] => .error .incomplete
  | w :: word, c :: cs => if w == c then scanWord word cs else .error .malformed

def scanLiteral (draft : Draft) (word : String) (cs : List Char) : Scan Draft :=
  match scanWord word.toList cs with
  | .ok rest => ⟨draft, some rest⟩
  | .error fault => ⟨.broken (.both fault), none⟩

def scanText (cs : List Char) : Scan Draft :=
  match skipString cs with
  | .ok rest => ⟨.text (readString [] cs) none, some rest⟩
  | .error fault => ⟨.text (readString [] cs) (some fault), none⟩

mutual

/-- Of two calls in a row one takes a character, so `fuel` of twice the length suffices. -/
def scanValue (fuel : Nat) (cs : List Char) : Scan Draft :=
  match fuel, dropSpace cs with
  | 0, _ => ⟨.absent, none⟩
  | _, [] => ⟨.absent, none⟩
  | fuel + 1, c :: rest =>
    if c == 'n' then scanLiteral .null "null" (c :: rest)
    else if c == 't' then scanLiteral (.flag true) "true" (c :: rest)
    else if c == 'f' then scanLiteral (.flag false) "false" (c :: rest)
    else if c == '"' then scanText rest
    else if c == '-' || c.isDigit then
      match scanNumber (c :: rest) with
      | .ok (literal, rest) => ⟨.number literal, some rest⟩
      | .error fault => ⟨.broken ⟨fault, .malformed⟩, none⟩
    else if c == '[' then
      match dropSpace rest with
      | [] => ⟨.list [] (some .incomplete), none⟩
      | ']' :: rest => ⟨.list [] none, some rest⟩
      | _ => scanItems fuel [] rest
    else if c == '\x7b' then
      match dropSpace rest with
      | [] => ⟨.keyless [] none, none⟩
      | '\x7d' :: rest => ⟨.record [] none, some rest⟩
      | _ => scanFields fuel [] rest
    else ⟨.broken (.both .malformed), none⟩

def scanItems (fuel : Nat) (done : List Draft) (cs : List Char) : Scan Draft :=
  match fuel with
  | 0 => ⟨.absent, none⟩
  | fuel + 1 =>
    let item := scanValue fuel cs
    let items := item.found :: done
    match item.rest with
    | none => ⟨.list items.reverse none, none⟩
    | some rest =>
      match dropSpace rest with
      | [] => ⟨.list items.reverse (some .incomplete), none⟩
      | ']' :: rest => ⟨.list items.reverse none, some rest⟩
      | ',' :: rest => scanItems fuel items rest
      | _ => ⟨.list items.reverse (some .malformed), none⟩

def scanFields (fuel : Nat) (done : List (Key × Draft)) (cs : List Char) : Scan Draft :=
  match fuel with
  | 0 => ⟨.absent, none⟩
  | fuel + 1 =>
    match dropSpace cs with
    | [] => ⟨.keyless done.reverse none, none⟩
    | '"' :: rest =>
      let key := readString [] rest
      match skipString rest with
      | .error fault =>
        ⟨.record ((key, .broken (.both fault)) :: done).reverse none, none⟩
      | .ok rest =>
        match dropSpace rest with
        | [] => ⟨.record ((key, .absent) :: done).reverse none, none⟩
        | ':' :: rest =>
          let value := scanValue fuel rest
          let fields := (key, value.found) :: done
          match value.rest with
          | none => ⟨.record fields.reverse none, none⟩
          | some rest =>
            match dropSpace rest with
            | [] => ⟨.record fields.reverse (some .incomplete), none⟩
            | '\x7d' :: rest => ⟨.record fields.reverse none, some rest⟩
            | ',' :: rest => scanFields fuel fields rest
            | _ => ⟨.record fields.reverse (some .malformed), none⟩
        | _ => ⟨.record ((key, .broken (.both .malformed)) :: done).reverse none, none⟩
    | cs => ⟨.keyless done.reverse (some (scanValue fuel cs).found), none⟩

end

mutual

def Draft.skip : Draft → Except Fault Unit
  | .text _ (some fault) => .error fault
  | .list items stop => do
    skipItems items
    if let some fault := stop then .error fault else .ok ()
  | .record fields stop => do
    skipFields fields
    if let some fault := stop then .error fault else .ok ()
  | .keyless fields found => do
    skipFields fields
    if found.isSome then .error .malformed else .error .incomplete
  | .absent => .error .incomplete
  | .broken stop => .error stop.skipped
  | _ => .ok ()

def skipItems : List Draft → Except Fault Unit
  | [] => .ok ()
  | item :: rest => do item.skip; skipItems rest

def skipFields : List (Key × Draft) → Except Fault Unit
  | [] => .ok ()
  | (_, value) :: rest => do value.skip; skipFields rest

end

def deepest : Nat := 127

mutual

def Draft.build (room : Nat) : Draft → Except Fault Json
  | .null => .ok .null
  | .flag value => .ok (.flag value)
  | .number literal => literal.value.map .number
  | .text content _ => content.map .text
  | .list items stop =>
    if room = 0 then .error .malformed
    else do
      let items ← buildItems (room - 1) items
      if let some fault := stop then .error fault else .ok (.list items)
  | .record fields stop =>
    if room = 0 then .error .malformed
    else do
      let fields ← buildFields (room - 1) [] fields
      if let some fault := stop then .error fault else .ok (.record fields)
  | .keyless fields found =>
    if room = 0 then .error .malformed
    else do
      let _ ← buildFields (room - 1) [] fields
      if found.isSome then .error .malformed else .error .incomplete
  | .absent => .error .incomplete
  | .broken stop => .error stop.built

def buildItems (room : Nat) : List Draft → Except Fault (List Json)
  | [] => .ok []
  | item :: rest => do return (← item.build room) :: (← buildItems room rest)

def buildFields (room : Nat) (done : List (String × Json)) :
    List (Key × Draft) → Except Fault (List (String × Json))
  | [] => .ok done
  | (key, value) :: rest => do
    let key ← key
    let value ← value.build room
    buildFields room (OrderedMap.put key value done) rest

end

def Draft.ofText (text : String) : Draft × Bool :=
  let cs := text.toList
  let scan := scanValue (2 * cs.length + 2) cs
  (scan.found, (dropSpace (scan.rest.getD [])).isEmpty)

def readText {α : Type} (read : Draft → Except Fault α) (text : String) : Except Fault α :=
  let (draft, atEnd) := Draft.ofText text
  match read draft with
  | .error fault => .error fault
  | .ok value => if atEnd then .ok value else .error .malformed

def parse (text : String) : Except Fault Json :=
  readText (Draft.build deepest) text

end DesignToCode.Json
