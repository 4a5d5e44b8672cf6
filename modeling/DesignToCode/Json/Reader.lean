import DesignToCode.Json.Readable

/-!
Typed reading of records, written with named fields or as the list of their values.
-/

namespace DesignToCode.Json

variable {ν : Type} [Readable ν] {α ρ : Type}

open Readable

def readString? (value : ν) : Except Fault String := do
  match ← layer value with
  | .text found => .ok found
  | other => wrongKind other "a string"

def readFlag (value : ν) : Except Fault Bool := do
  match ← layer value with
  | .flag found => .ok found
  | other => wrongKind other "a boolean"

def readNumber (value : ν) : Except Fault Float := do
  match ← layer value with
  | .number found => .ok found.toFloat
  | other => wrongKind other "f64"

def readOption (read : ν → Except Fault α) (value : ν) : Except Fault (Option α) := do
  match ← layer value with
  | .null => .ok none
  | _ => (read value).map some

def finish (stop : Option Fault) (result : α) : Except Fault α :=
  match stop with
  | some fault => .error fault
  | none => .ok result

def readAll (read : ν → Except Fault α) : List ν → Except Fault (List α)
  | [] => .ok []
  | value :: rest => do return (← read value) :: (← readAll read rest)

def readList (read : ν → Except Fault α) (value : ν) : Except Fault (List α) := do
  match ← layer value with
  | .list inside =>
    let (items, stop) ← inside
    finish stop (← readAll read items)
  | other => wrongKind other "a sequence"

def readEntries (read : ν → Except Fault α) (done : OrderedMap α) :
    List (Key × ν) → Except Fault (OrderedMap α)
  | [] => .ok done
  | (key, value) :: rest => do
    let key ← key
    let entry ← read value
    readEntries read (done.insert key entry) rest

def readMap (read : ν → Except Fault α) (value : ν) : Except Fault (OrderedMap α) := do
  match ← layer value with
  | .record inside =>
    let (fields, stop) ← inside
    finish stop (← readEntries read .empty fields)
  | other => wrongKind other "a map"

/-- What a record without some field means: an error, nothing, or the field's default. In the list
form only fields with a default may be left out. -/
inductive Need where
  | required
  | optional
  | defaulted
  deriving DecidableEq, Repr

structure Field (ν ρ : Type) where
  name : String
  need : Need
  read : ρ → ν → Except Fault ρ

def required (name : String) (read : ν → Except Fault α) (set : ρ → α → ρ) : Field ν ρ :=
  ⟨name, .required, fun result value => (read value).map (set result)⟩

def defaulted (name : String) (read : ν → Except Fault α) (set : ρ → α → ρ) : Field ν ρ :=
  ⟨name, .defaulted, fun result value => (read value).map (set result)⟩

def optional (name : String) (read : ν → Except Fault α) (set : ρ → Option α → ρ) : Field ν ρ :=
  ⟨name, .optional, fun result value => (readOption read value).map (set result)⟩

def readNamed (fields : List (Field ν ρ)) (result : ρ) (seen : List String) :
    List (Key × ν) → Except Fault (ρ × List String)
  | [] => .ok (result, seen)
  | (key, value) :: rest => do
    let key ← key
    match fields.find? (·.name == key) with
    | none => do
      skip value
      readNamed fields result seen rest
    | some field =>
      if seen.contains key then .error (.mismatch (.repeatedField key))
      else do
        let result ← field.read result value
        readNamed fields result (key :: seen) rest

def firstMissing (fields : List (Field ν ρ)) (seen : List String) : Option String :=
  (fields.find? fun field => field.need == .required && !seen.contains field.name).map (·.name)

def lengthText (title : String) (count : Nat) : String :=
  "struct " ++ title ++ " with " ++ Decimal.natText count ++
    (if count = 1 then " element" else " elements")

def readListed (expected : String) (stop : Option Fault) :
    List (Field ν ρ) → ρ → Nat → List ν → Except Fault ρ
  | [], result, index, values =>
    if values.isEmpty then finish stop result
    else .error (Readable.surplus ν (index + values.length))
  | field :: fields, result, index, value :: values => do
    let result ← field.read result value
    readListed expected stop fields result (index + 1) values
  | field :: fields, result, index, [] =>
    match stop with
    | some fault => .error fault
    | none =>
      if field.need = .defaulted then readListed expected stop fields result (index + 1) []
      else .error (.mismatch (.tooFew index expected))

def readRecord (title : String) (blank : ρ) (fields : List (Field ν ρ)) (value : ν) :
    Except Fault ρ := do
  match ← layer value with
  | .record inside =>
    let (entries, stop) ← inside
    let (result, seen) ← readNamed fields blank [] entries
    let result ← finish stop result
    match firstMissing fields seen with
    | some name => .error (.mismatch (.missingField name))
    | none => .ok result
  | .list inside =>
    let (values, stop) ← inside
    readListed (lengthText title fields.length) stop fields blank 0 values
  | other => wrongKind other ("struct " ++ title)

end DesignToCode.Json
