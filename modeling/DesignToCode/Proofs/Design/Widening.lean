import DesignToCode.Design.Reader

/-!
Designs with foreign fields in them.
-/

namespace DesignToCode

open Json

/-- What a value in a design stands for. Nothing is put into plain values. -/
inductive Part where
  | plain
  | node
  | box
  | color
  | paint
  | offset
  | effect
  | typeStyle
  | property
  | list (items : Part)
  | map (values : Part)

namespace Part

def nodeFields : List (String × Part) := [
  ("id", plain), ("name", plain), ("type", plain), ("visible", plain), ("children", list node),
  ("layoutMode", plain), ("layoutWrap", plain), ("primaryAxisAlignItems", plain),
  ("counterAxisAlignItems", plain), ("layoutSizingHorizontal", plain),
  ("layoutSizingVertical", plain), ("itemSpacing", plain), ("paddingLeft", plain),
  ("paddingRight", plain), ("paddingTop", plain), ("paddingBottom", plain),
  ("absoluteBoundingBox", box),
  ("fills", list paint), ("strokes", list paint), ("strokeWeight", plain),
  ("cornerRadius", plain), ("rectangleCornerRadii", plain), ("opacity", plain),
  ("effects", list effect),
  ("characters", plain), ("style", typeStyle), ("componentPropertyDefinitions", map property)]

def fields? : Part → Option (List (String × Part))
  | node => some nodeFields
  | box => some [("x", plain), ("y", plain), ("width", plain), ("height", plain)]
  | color => some [("r", plain), ("g", plain), ("b", plain), ("a", plain)]
  | paint => some [("type", plain), ("visible", plain), ("opacity", plain), ("color", color)]
  | offset => some [("x", plain), ("y", plain)]
  | effect => some [
      ("type", plain), ("visible", plain), ("color", color), ("offset", offset),
      ("radius", plain), ("spread", plain)]
  | typeStyle => some [
      ("fontFamily", plain), ("fontSize", plain), ("fontWeight", plain), ("lineHeightPx", plain),
      ("letterSpacing", plain), ("textAlignHorizontal", plain)]
  | property => some [("type", plain), ("defaultValue", plain), ("variantOptions", plain)]
  | _ => none

end Part

mutual

/-- Foreign fields may be inserted at any depth and position: in records that stand for a part of a
design, under names that are not those of the record's own fields. -/
inductive Widened : Part → Json → Json → Prop
  | same (part : Part) (value : Json) : Widened part value value
  | list {part : Part} {items wide : List Json}
      (each : WidenedEach (List.replicate items.length part) items wide) :
      Widened (.list part) (.list items) (.list wide)
  | map {part : Part} {entries wide : List (String × Json)}
      (each : WidenedFields (fun _ => some part) entries wide) :
      Widened (.map part) (.record entries) (.record wide)
  | listed {part : Part} {fields : List (String × Part)} {items wide : List Json}
      (isRecord : part.fields? = some fields)
      (each : WidenedEach (fields.map Prod.snd) items wide) :
      Widened part (.list items) (.list wide)
  | record {part : Part} {fields : List (String × Part)} {entries wide : List (String × Json)}
      (isRecord : part.fields? = some fields)
      (each : WidenedFields (fun name => fields.lookup name) entries wide) :
      Widened part (.record entries) (.record wide)

inductive WidenedEach : List Part → List Json → List Json → Prop
  | nil (parts : List Part) : WidenedEach parts [] []
  | surplus (items : List Json) : WidenedEach [] items items
  | cons {part : Part} {parts : List Part} {value wider : Json} {items wide : List Json}
      (first : Widened part value wider) (rest : WidenedEach parts items wide) :
      WidenedEach (part :: parts) (value :: items) (wider :: wide)

inductive WidenedFields :
    (String → Option Part) → List (String × Json) → List (String × Json) → Prop
  | nil (partOf : String → Option Part) : WidenedFields partOf [] []
  | own {partOf : String → Option Part} {name : String} {part : Part} {value wider : Json}
      {entries wide : List (String × Json)} (isOwn : partOf name = some part)
      (first : Widened part value wider) (rest : WidenedFields partOf entries wide) :
      WidenedFields partOf ((name, value) :: entries) ((name, wider) :: wide)
  | foreign {partOf : String → Option Part} {name : String} {value : Json}
      {entries wide : List (String × Json)} (isForeign : partOf name = none)
      (rest : WidenedFields partOf entries wide) :
      WidenedFields partOf ((name, value) :: entries) ((name, value) :: wide)
  | inserted {partOf : String → Option Part} {name : String} {value : Json}
      {entries wide : List (String × Json)} (isForeign : partOf name = none)
      (rest : WidenedFields partOf entries wide) :
      WidenedFields partOf entries ((name, value) :: wide)

end

mutual

theorem depth_le_of_widened {part : Part} {value wide : Json} :
    Widened part value wide → value.depth ≤ wide.depth
  | .same _ _ => Nat.le_refl _
  | .list each => Nat.succ_le_succ (depths_le_of_widened each)
  | .listed _ each => Nat.succ_le_succ (depths_le_of_widened each)
  | .map each => Nat.succ_le_succ (depthsOfFields_le_of_widened each)
  | .record _ each => Nat.succ_le_succ (depthsOfFields_le_of_widened each)

theorem depths_le_of_widened {parts : List Part} {items wide : List Json} :
    WidenedEach parts items wide → Json.depth.depths items ≤ Json.depth.depths wide
  | .nil _ => Nat.le_refl _
  | .surplus _ => Nat.le_refl _
  | .cons first rest => by
      have here := depth_le_of_widened first
      have later := depths_le_of_widened rest
      rw [Json.depth.depths, Json.depth.depths]
      split <;> split <;> omega

theorem depthsOfFields_le_of_widened {partOf : String → Option Part}
    {entries wide : List (String × Json)} :
    WidenedFields partOf entries wide →
      Json.depth.depthsOfFields entries ≤ Json.depth.depthsOfFields wide
  | .nil _ => Nat.le_refl _
  | .own _ first rest => by
      have here := depth_le_of_widened first
      have later := depthsOfFields_le_of_widened rest
      rw [Json.depth.depthsOfFields, Json.depth.depthsOfFields]
      split <;> split <;> omega
  | .foreign _ rest => by
      have later := depthsOfFields_le_of_widened rest
      rw [Json.depth.depthsOfFields, Json.depth.depthsOfFields]
      split <;> split <;> omega
  | .inserted _ rest => by
      have later := depthsOfFields_le_of_widened rest
      rw [Json.depth.depthsOfFields]
      split <;> omega

end

theorem WidenedFields.refl (partOf : String → Option Part) (entries : List (String × Json)) :
    WidenedFields partOf entries entries := by
  induction entries with
  | nil => exact .nil partOf
  | cons entry rest ih =>
      cases known : partOf entry.1 with
      | none => exact .foreign known ih
      | some part => exact .own known (.same part entry.2) ih

theorem WidenedEach.refl (parts : List Part) (items : List Json) :
    WidenedEach parts items items := by
  induction items generalizing parts with
  | nil => exact .nil parts
  | cons value rest ih =>
      cases parts with
      | nil => exact .surplus _
      | cons part later => exact .cons (.same part value) (ih later)

theorem Widened.eq_of_plain {value wide : Json} (widened : Widened .plain value wide) :
    wide = value := by
  cases widened with
  | same => rfl
  | listed isRecord => cases isRecord
  | record isRecord => cases isRecord

theorem Widened.null_iff {part : Part} {value wide : Json} (widened : Widened part value wide) :
    value = .null ↔ wide = .null := by
  cases widened <;> simp

end DesignToCode
