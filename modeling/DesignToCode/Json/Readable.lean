import DesignToCode.Json.Draft

/-!
What a typed reader needs to know of a draft or of a finished value, one layer at a time.
-/

namespace DesignToCode.Json

/-- The outermost layer of something readable, whose parts are of type `ν`. -/
inductive Layer (ν : Type) where
  | null
  | flag (value : Bool)
  | number (value : JsonNumber)
  | text (value : String)
  | list (inside : Except Fault (List ν × Option Fault))
  | record (inside : Except Fault (List (Key × ν) × Option Fault))

def Layer.found {ν : Type} : Layer ν → Found
  | .null => .null
  | .flag value => .flag value
  | .number value => .number value
  | .text value => .text value
  | .list _ => .list
  | .record _ => .record

class Readable (ν : Type) where
  layer : ν → Except Fault (Layer ν)
  skip : ν → Except Fault Unit
  whole : ν → Except Fault Json
  choice : ν → Except Fault String
  surplus : Nat → Fault

def wrongKind {α ν : Type} (layer : Layer ν) (expected : String) : Except Fault α :=
  .error (.mismatch (.wrongKind layer.found expected))

namespace Value

def layer : Json → Layer Json
  | .null => .null
  | .flag value => .flag value
  | .number value => .number value
  | .text value => .text value
  | .list items => .list (.ok (items, none))
  | .record fields => .record (.ok (fields.map fun field => (.ok field.1, field.2), none))

def choice : Json → Except Fault String
  | .text name => .ok name
  | .record [(name, value)] =>
    match value with
    | .null => .ok name
    | other => wrongKind (layer other) "unit"
  | .record _ => .error (.mismatch .notOneKey)
  | other => wrongKind (layer other) "string or map"

end Value

instance : Readable Json where
  layer value := .ok (Value.layer value)
  skip _ := .ok ()
  whole := .ok
  choice := Value.choice
  surplus count := .mismatch (.tooMany count)

structure Place where
  draft : Draft
  room : Nat

namespace Place

def enter {α : Type} (place : Place) (inside : α) : Except Fault α :=
  if place.room = 0 then .error .malformed else .ok inside

def inner (place : Place) (draft : Draft) : Place :=
  ⟨draft, place.room - 1⟩

def innerFields (place : Place) (fields : List (Key × Draft)) : List (Key × Place) :=
  fields.map fun field => (field.1, place.inner field.2)

def layer (place : Place) : Except Fault (Layer Place) :=
  match place.draft with
  | .null => .ok .null
  | .flag value => .ok (.flag value)
  | .number literal => literal.value.map .number
  | .text content _ => content.map .text
  | .list items stop => .ok (.list (place.enter (items.map place.inner, stop)))
  | .record fields stop => .ok (.record (place.enter (place.innerFields fields, stop)))
  | .keyless fields found =>
    let stop := if found.isSome then Fault.malformed else .incomplete
    .ok (.record (place.enter (place.innerFields fields, some stop)))
  | .absent => .error .incomplete
  | .broken stop => .error stop.built

def notText (place : Place) : Except Fault String := do
  match ← place.layer with
  | .text value => .ok value
  | other => wrongKind other "variant identifier"

def soleField (place : Place) (fields : List (Key × Draft)) (last : Except Fault Unit) :
    Except Fault String := do
  match fields with
  | [] => do last; .error .malformed
  | (key, value) :: more =>
    let name ← key
    match ← (place.inner value).layer with
    | .null => if more.isEmpty then do last; .ok name else .error .malformed
    | other => wrongKind other "unit"

def choice (place : Place) : Except Fault String :=
  match place.draft with
  | .text content _ => content
  | .record fields stop =>
    if place.room = 0 then .error .malformed
    else place.soleField fields (if let some fault := stop then .error fault else .ok ())
  | .keyless fields found =>
    if place.room = 0 then .error .malformed
    else
      match fields, found with
      | [], none => .error .incomplete
      | [], some draft => (place.inner draft).notText
      | _, _ => place.soleField fields (.error .malformed)
  | .absent => .error .incomplete
  | _ => .error .malformed

end Place

instance : Readable Place where
  layer := Place.layer
  skip place := place.draft.skip
  whole place := place.draft.build place.room
  choice := Place.choice
  surplus _ := .malformed

end DesignToCode.Json
