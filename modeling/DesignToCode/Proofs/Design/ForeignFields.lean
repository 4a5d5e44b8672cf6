import DesignToCode.Proofs.Design.Widening
import DesignToCode.Proofs.OrderedMap

/-!
Fields that a design has and nobody reads.
-/

namespace DesignToCode

open Json

variable {α ρ : Type}

/-- What one reader makes of a value, the other one makes of the value with foreign fields. -/
def Carries (part : Part) (read readWide : Json → Except Fault α) : Prop :=
  ∀ value wide result, Widened part value wide → read value = .ok result →
    readWide wide = .ok result

theorem carries_plain (read : Json → Except Fault α) : Carries .plain read read := by
  intro value wide result widened found
  rw [widened.eq_of_plain]
  exact found

theorem map_eq_ok {β : Type} {read : Except Fault α} {make : α → β} {made : β}
    (found : read.map make = .ok made) : ∃ result, read = .ok result ∧ make result = made := by
  cases read with
  | error fault => cases found
  | ok result => exact ⟨result, rfl, Except.ok.inj found⟩

theorem bind_eq_ok {β : Type} {read : Except Fault α} {next : α → Except Fault β} {made : β}
    (found : (read >>= next) = .ok made) :
    ∃ result, read = .ok result ∧ next result = .ok made := by
  cases read with
  | error fault => cases found
  | ok result => exact ⟨result, rfl, found⟩

theorem readOption_of_ne_null (read : Json → Except Fault α) {value : Json}
    (isValue : value ≠ .null) : readOption read value = (read value).map some := by
  cases value with
  | null => exact absurd rfl isValue
  | _ => rfl

theorem carries_readOption {part : Part} {read readWide : Json → Except Fault α}
    (inner : Carries part read readWide) :
    Carries part (readOption read) (readOption readWide) := by
  intro value wide result widened found
  by_cases isNull : value = .null
  · rw [widened.null_iff.mp isNull]
    rw [isNull] at found
    exact found
  · rw [readOption_of_ne_null read isNull] at found
    rw [readOption_of_ne_null readWide fun wideNull => isNull (widened.null_iff.mpr wideNull)]
    obtain ⟨inside, isRead, rfl⟩ := map_eq_ok found
    rw [inner value wide inside widened isRead]
    rfl

theorem readList_list (read : Json → Except Fault α) (items : List Json) :
    readList read (.list items) = readAll read items := by
  change (readAll read items >>= finish none) = readAll read items
  cases readAll read items <;> rfl

theorem readAll_cons (read : Json → Except Fault α) (value : Json) (rest : List Json) :
    readAll read (value :: rest) =
      read value >>= fun first => (readAll read rest).map (first :: ·) := by
  rw [readAll]
  cases read value with
  | error fault => rfl
  | ok first => cases readAll read rest <;> rfl

theorem readAll_of_widened {part : Part} {read readWide : Json → Except Fault α}
    (inner : Carries part read readWide) {items wide : List Json} {results : List α}
    (each : WidenedEach (List.replicate items.length part) items wide)
    (found : readAll read items = .ok results) : readAll readWide wide = .ok results := by
  induction items generalizing wide results with
  | nil =>
      cases each
      · exact found
      · exact found
  | cons value rest ih =>
      cases each with
      | cons first later =>
          rw [readAll_cons] at found ⊢
          obtain ⟨result, isRead, found⟩ := bind_eq_ok found
          obtain ⟨results, areRead, rfl⟩ := map_eq_ok found
          rw [inner _ _ _ first isRead, ih later areRead]
          rfl

theorem carries_readList {part : Part} {read readWide : Json → Except Fault α}
    (inner : Carries part read readWide) :
    Carries (.list part) (readList read) (readList readWide) := by
  intro value wide results widened found
  cases widened with
  | list each =>
      rw [readList_list] at found ⊢
      exact readAll_of_widened inner each found
  | same =>
      cases value with
      | list items =>
          rw [readList_list] at found ⊢
          exact readAll_of_widened inner (.refl _ items) found
      | _ => cases found
  | listed isRecord => cases isRecord
  | record isRecord => cases isRecord

def keyedFields (entries : List (String × Json)) : List (Key × Json) :=
  entries.map fun entry => (.ok entry.1, entry.2)

theorem readMap_record (read : Json → Except Fault α) (entries : List (String × Json)) :
    readMap read (.record entries) = readEntries read .empty (keyedFields entries) := by
  change (readEntries read .empty (keyedFields entries) >>= finish none) = _
  cases readEntries read .empty (keyedFields entries) <;> rfl

theorem readEntries_cons (read : Json → Except Fault α) (done : OrderedMap α)
    (entry : String × Json) (rest : List (String × Json)) :
    readEntries read done (keyedFields (entry :: rest)) =
      read entry.2 >>= fun result =>
        readEntries read (done.insert entry.1 result) (keyedFields rest) :=
  rfl

theorem readEntries_of_widened {part : Part} {read readWide : Json → Except Fault α}
    (inner : Carries part read readWide) {entries wide : List (String × Json)}
    {done result : OrderedMap α} (each : WidenedFields (fun _ => some part) entries wide)
    (found : readEntries read done (keyedFields entries) = .ok result) :
    readEntries readWide done (keyedFields wide) = .ok result := by
  induction entries generalizing wide done with
  | nil =>
      cases each with
      | nil => exact found
      | inserted isForeign => cases isForeign
  | cons entry rest ih =>
      cases each with
      | own isOwn first later =>
          cases isOwn
          rw [readEntries_cons] at found ⊢
          obtain ⟨value, isRead, found⟩ := bind_eq_ok found
          rw [inner _ _ _ first isRead]
          exact ih later found
      | foreign isForeign => cases isForeign
      | inserted isForeign => cases isForeign

theorem carries_readMap {part : Part} {read readWide : Json → Except Fault α}
    (inner : Carries part read readWide) :
    Carries (.map part) (readMap read) (readMap readWide) := by
  intro value wide result widened found
  cases widened with
  | map each =>
      rw [readMap_record] at found ⊢
      exact readEntries_of_widened inner each found
  | same =>
      cases value with
      | record entries =>
          rw [readMap_record] at found ⊢
          exact readEntries_of_widened inner (.refl _ entries) found
      | _ => cases found
  | listed isRecord => cases isRecord
  | record isRecord => cases isRecord

structure FieldCarries (field wider : Field Json ρ) (entry : String × Part) : Prop where
  name : field.name = entry.1
  sameName : wider.name = field.name
  sameNeed : wider.need = field.need
  carries : ∀ result, Carries entry.2 (field.read result) (wider.read result)

inductive FieldsCarry : List (Field Json ρ) → List (Field Json ρ) → List (String × Part) → Prop
  | nil : FieldsCarry [] [] []
  | cons {field wider : Field Json ρ} {entry : String × Part} {fields widers : List (Field Json ρ)}
      {entries : List (String × Part)} (first : FieldCarries field wider entry)
      (rest : FieldsCarry fields widers entries) :
      FieldsCarry (field :: fields) (wider :: widers) (entry :: entries)

section

variable {fields widers : List (Field Json ρ)} {own : List (String × Part)}

namespace FieldsCarry

theorem length_eq (carry : FieldsCarry fields widers own) : widers.length = fields.length := by
  induction carry with
  | nil => rfl
  | cons _ _ ih => exact congrArg Nat.succ ih

theorem firstMissing_eq (carry : FieldsCarry fields widers own) (seen : List String) :
    firstMissing widers seen = firstMissing fields seen := by
  unfold firstMissing
  induction carry with
  | nil => rfl
  | cons first _ ih =>
      rw [List.find?_cons, List.find?_cons, first.sameNeed, first.sameName]
      split
      · simp [first.sameName]
      · exact ih

theorem find?_foreign (carry : FieldsCarry fields widers own) {name : String}
    (isForeign : own.lookup name = none) :
    fields.find? (·.name == name) = none ∧ widers.find? (·.name == name) = none := by
  induction carry with
  | nil => exact ⟨rfl, rfl⟩
  | @cons field wider entry _ _ _ first _ ih =>
      rw [OrderedMap.lookup_cons] at isForeign
      split at isForeign
      · cases isForeign
      · rename_i different
        have apart : (field.name == name) = false := by
          rw [first.name, beq_eq_false_iff_ne]
          exact fun same => different same.symm
        simp only [List.find?_cons, first.sameName, apart]
        exact ih isForeign

theorem exists_find? (carry : FieldsCarry fields widers own) {name : String} {part : Part}
    (isOwn : own.lookup name = some part) :
    ∃ field wider, fields.find? (·.name == name) = some field ∧
      widers.find? (·.name == name) = some wider ∧
      ∀ result, Carries part (field.read result) (wider.read result) := by
  induction carry with
  | nil => cases isOwn
  | @cons field wider entry _ _ _ first _ ih =>
      rw [OrderedMap.lookup_cons] at isOwn
      split at isOwn
      · rename_i same
        have here : (field.name == name) = true := by rw [first.name, same, beq_self_eq_true]
        cases isOwn
        exact ⟨field, wider, List.find?_cons_of_pos here,
          List.find?_cons_of_pos (by rwa [first.sameName]), first.carries⟩
      · rename_i different
        have apart : (field.name == name) = false := by
          rw [first.name, beq_eq_false_iff_ne]
          exact fun same => different same.symm
        simp only [List.find?_cons, first.sameName, apart]
        exact ih isOwn

end FieldsCarry

theorem readNamed_foreign {name : String} (isForeign : fields.find? (·.name == name) = none)
    (result : ρ) (seen : List String) (value : Json) (rest : List (String × Json)) :
    readNamed fields result seen (keyedFields ((name, value) :: rest)) =
      readNamed fields result seen (keyedFields rest) := by
  change readNamed fields result seen ((.ok name, value) :: keyedFields rest) = _
  simp only [readNamed, bind, Except.bind, isForeign]
  rfl

theorem readNamed_own {name : String} {field : Field Json ρ}
    (isOwn : fields.find? (·.name == name) = some field) (result : ρ) (seen : List String)
    (value : Json) (rest : List (String × Json)) :
    readNamed fields result seen (keyedFields ((name, value) :: rest)) =
      if seen.contains name then .error (.mismatch (.repeatedField name))
      else field.read result value >>= fun result =>
        readNamed fields result (name :: seen) (keyedFields rest) := by
  change readNamed fields result seen ((.ok name, value) :: keyedFields rest) = _
  simp only [readNamed, bind, Except.bind, isOwn]

theorem readNamed_of_widened (carry : FieldsCarry fields widers own)
    {entries wide : List (String × Json)} {result : ρ} {seen : List String}
    {outcome : ρ × List String}
    (each : WidenedFields (fun name => own.lookup name) entries wide)
    (found : readNamed fields result seen (keyedFields entries) = .ok outcome) :
    readNamed widers result seen (keyedFields wide) = .ok outcome := by
  induction wide generalizing entries result seen with
  | nil =>
      cases each
      exact found
  | cons entry later ih =>
      cases each with
      | own isOwn first rest =>
          obtain ⟨field, wider, isField, isWider, carries⟩ := carry.exists_find? isOwn
          rw [readNamed_own isField] at found
          rw [readNamed_own isWider]
          split at found
          · cases found
          · rename_i unseen
            obtain ⟨next, isRead, found⟩ := bind_eq_ok found
            rw [if_neg unseen, carries result _ _ _ first isRead]
            exact ih rest found
      | foreign isForeign rest =>
          obtain ⟨noField, noWider⟩ := carry.find?_foreign isForeign
          rw [readNamed_foreign noField] at found
          rw [readNamed_foreign noWider]
          exact ih rest found
      | inserted isForeign rest =>
          rw [readNamed_foreign (carry.find?_foreign isForeign).2]
          exact ih rest found

theorem readListed_of_widened (carry : FieldsCarry fields widers own) {items wide : List Json}
    {expected : String} {start result : ρ} {index : Nat}
    (each : WidenedEach (own.map Prod.snd) items wide)
    (found : readListed expected none fields start index items = .ok result) :
    readListed expected none widers start index wide = .ok result := by
  induction carry generalizing items wide start index with
  | nil =>
      cases each
      · exact found
      · exact found
  | @cons field wider entry _ _ _ first rest ih =>
      cases each with
      | nil =>
          simp only [readListed] at found ⊢
          rw [first.sameNeed]
          split at found
          · rename_i left
            rw [if_pos left]
            exact ih (.nil _) found
          · cases found
      | cons value later =>
          simp only [readListed] at found ⊢
          obtain ⟨next, isRead, found⟩ := bind_eq_ok found
          rw [first.carries start _ _ _ value isRead]
          exact ih later found

theorem readRecord_record (title : String) (blank : ρ) (fields : List (Field Json ρ))
    (entries : List (String × Json)) :
    readRecord title blank fields (.record entries) =
      readNamed fields blank [] (keyedFields entries) >>= fun outcome =>
        match firstMissing fields outcome.2 with
        | some name => .error (.mismatch (.missingField name))
        | none => .ok outcome.1 := by
  rfl

theorem readRecord_list (title : String) (blank : ρ) (fields : List (Field Json ρ))
    (items : List Json) :
    readRecord title blank fields (.list items) =
      readListed (lengthText title fields.length) none fields blank 0 items := by
  rfl

theorem carries_readRecord {part : Part} (isRecord : part.fields? = some own)
    (carry : FieldsCarry fields widers own) (title : String) (blank : ρ) :
    Carries part (readRecord title blank fields) (readRecord title blank widers) := by
  have named {entries wide : List (String × Json)} {result : ρ}
      (each : WidenedFields (fun name => own.lookup name) entries wide)
      (found : readRecord title blank fields (.record entries) = .ok result) :
      readRecord title blank widers (.record wide) = .ok result := by
    rw [readRecord_record] at found ⊢
    obtain ⟨outcome, isRead, found⟩ := bind_eq_ok found
    rw [readNamed_of_widened carry each isRead]
    change (match firstMissing widers outcome.2 with | some name => _ | none => _) = _
    rwa [carry.firstMissing_eq]
  have listed {items wide : List Json} {result : ρ}
      (each : WidenedEach (own.map Prod.snd) items wide)
      (found : readRecord title blank fields (.list items) = .ok result) :
      readRecord title blank widers (.list wide) = .ok result := by
    rw [readRecord_list] at found ⊢
    rw [carry.length_eq]
    exact readListed_of_widened carry each found
  intro value wide result widened found
  cases widened with
  | same =>
      cases value with
      | record entries => exact named (.refl _ entries) found
      | list items => exact listed (.refl _ items) found
      | _ => cases found
  | list => cases isRecord
  | map => cases isRecord
  | listed isOwn each =>
      cases isRecord.symm.trans isOwn
      exact listed each found
  | record isOwn each =>
      cases isRecord.symm.trans isOwn
      exact named each found

theorem fieldsCarry_plain (fields : List (Field Json ρ)) :
    FieldsCarry fields fields (fields.map fun field => (field.name, .plain)) := by
  induction fields with
  | nil => exact .nil
  | cons field rest ih => exact .cons ⟨rfl, rfl, rfl, fun _ => carries_plain _⟩ ih

theorem FieldsCarry.append {laterFields laterWiders : List (Field Json ρ)}
    {later : List (String × Part)} (first : FieldsCarry fields widers own)
    (second : FieldsCarry laterFields laterWiders later) :
    FieldsCarry (fields ++ laterFields) (widers ++ laterWiders) (own ++ later) := by
  induction first with
  | nil => exact second
  | cons field _ ih => exact .cons field ih

end

section

variable {part : Part} {read readWide : Json → Except Fault α}

theorem carries_map {β : Type} (inner : Carries part read readWide) (make : α → β) :
    Carries part (fun value => (read value).map make) fun value => (readWide value).map make := by
  intro value wide made widened found
  obtain ⟨result, isRead, rfl⟩ := map_eq_ok found
  have isReadWide := inner value wide result widened isRead
  dsimp only
  rw [isReadWide]
  rfl

theorem fieldCarries_defaulted (name : String) (inner : Carries part read readWide)
    (set : ρ → α → ρ) :
    FieldCarries (defaulted name read set) (defaulted name readWide set) (name, part) :=
  ⟨rfl, rfl, rfl, fun result => carries_map inner (set result)⟩

theorem fieldCarries_optional (name : String) (inner : Carries part read readWide)
    (set : ρ → Option α → ρ) :
    FieldCarries (optional name read set) (optional name readWide set) (name, part) :=
  ⟨rfl, rfl, rfl, fun result => carries_map (carries_readOption inner) (set result)⟩

end

theorem carries_box : Carries .box Box.read Box.read :=
  carries_readRecord rfl (fieldsCarry_plain Box.fields) _ _

theorem carries_color : Carries .color Color.read Color.read :=
  carries_readRecord rfl (fieldsCarry_plain Color.fields) _ _

theorem carries_offset : Carries .offset Offset.read Offset.read :=
  carries_readRecord rfl (fieldsCarry_plain Offset.fields) _ _

theorem carries_typeStyle : Carries .typeStyle TypeStyle.read TypeStyle.read :=
  carries_readRecord rfl (fieldsCarry_plain TypeStyle.fields) _ _

theorem carries_property : Carries .property PropertyDefinition.read PropertyDefinition.read :=
  carries_readRecord rfl (fieldsCarry_plain PropertyDefinition.fields) _ _

theorem carries_paint : Carries .paint Paint.read Paint.read :=
  carries_readRecord rfl ((fieldsCarry_plain (Paint.fields.take 3)).append
    (.cons (fieldCarries_optional "color" carries_color _) .nil)) _ _

theorem carries_effect : Carries .effect Effect.read Effect.read :=
  carries_readRecord rfl ((fieldsCarry_plain (Effect.fields.take 2)).append <|
    .cons (fieldCarries_optional "color" carries_color _) <|
    .cons (fieldCarries_optional "offset" carries_offset _) <|
    fieldsCarry_plain (Effect.fields.drop 4)) _ _

theorem fieldsCarry_layout :
    FieldsCarry Node.layoutFields Node.layoutFields ((Part.nodeFields.drop 5).take 12) :=
  (fieldsCarry_plain (Node.layoutFields.take 11)).append <|
    .cons (fieldCarries_optional "absoluteBoundingBox" carries_box _) .nil

theorem fieldsCarry_appearance :
    FieldsCarry Node.appearanceFields Node.appearanceFields ((Part.nodeFields.drop 17).take 7) :=
  .cons (fieldCarries_defaulted "fills" (carries_readList carries_paint) _) <|
    .cons (fieldCarries_defaulted "strokes" (carries_readList carries_paint) _) <|
    (fieldsCarry_plain ((Node.appearanceFields.drop 2).take 4)).append <|
    .cons (fieldCarries_defaulted "effects" (carries_readList carries_effect) _) .nil

theorem fieldsCarry_node {child childWide : Json → Except Fault Node}
    (inner : Carries .node child childWide) :
    FieldsCarry (Node.fields child) (Node.fields childWide) Part.nodeFields := by
  have identity : FieldsCarry ((Node.fields child).take 5) ((Node.fields childWide).take 5)
      (Part.nodeFields.take 5) :=
    (fieldsCarry_plain ((Node.fields child).take 4)).append <|
      .cons (fieldCarries_defaulted "children" (carries_readList inner) _) .nil
  have content : FieldsCarry ((Node.fields child).drop 24) ((Node.fields childWide).drop 24)
      (Part.nodeFields.drop 24) :=
    (fieldsCarry_plain (((Node.fields child).drop 24).take 1)).append <|
      .cons (fieldCarries_optional "style" carries_typeStyle _) <|
      .cons (fieldCarries_defaulted "componentPropertyDefinitions"
        (carries_readMap carries_property) _) .nil
  exact ((identity.append fieldsCarry_layout).append fieldsCarry_appearance).append content

theorem carries_node {depth deeper : Nat} (enough : depth ≤ deeper) :
    Carries .node (Node.read depth) (Node.read deeper) := by
  induction depth generalizing deeper with
  | zero =>
      intro value wide node widened found
      cases found
  | succ depth ih =>
      cases deeper with
      | zero => omega
      | succ deeper =>
          exact carries_readRecord rfl (fieldsCarry_node (ih (by omega))) _ _

theorem ofJson_of_widened {value wide : Json} {node : Node} (found : Node.ofJson value = .ok node)
    (widened : Widened .node value wide) : Node.ofJson wide = .ok node :=
  carries_node (depth_le_of_widened widened) value wide node widened found

def Json.whole (value : Int) : Json :=
  .number (.whole value)

def filledCard : Json := .record [
  ("name", .text "Card"),
  ("absoluteBoundingBox", .record [("width", whole 8), ("height", whole 4)]),
  ("fills", .list [.record [("type", .text "SOLID"),
    ("color", .record [("r", whole 1), ("g", whole 0), ("b", whole 0)])]]),
  ("children", .list [.record [
    ("characters", .text "Hi"), ("style", .record [("fontSize", whole 14)])]])]

def exportedCard : Json := .record [
  ("blendMode", .text "PASS_THROUGH"),
  ("name", .text "Card"),
  ("absoluteBoundingBox",
    .record [("width", whole 8), ("rotation", .null), ("height", whole 4)]),
  ("fills", .list [.record [("type", .text "SOLID"),
    ("color", .record [("space", .list []), ("r", whole 1), ("g", whole 0), ("b", whole 0)]),
    ("blendMode", .text "NORMAL")]]),
  ("children", .list [.record [
    ("characters", .text "Hi"),
    ("style", .record [("fontSize", whole 14), ("fontPostScriptName", .null)])]]),
  ("constraints", .record [("vertical", .text "TOP")])]

theorem widened_exportedCard : Widened .node filledCard exportedCard := by
  have box : Widened .box (.record [("width", whole 8), ("height", whole 4)])
      (.record [("width", whole 8), ("rotation", .null), ("height", whole 4)]) :=
    .record rfl (.own rfl (.same _ _) (.inserted rfl (.refl _ _)))
  have color : Widened .color (.record [("r", whole 1), ("g", whole 0), ("b", whole 0)])
      (.record [("space", .list []), ("r", whole 1), ("g", whole 0), ("b", whole 0)]) :=
    .record rfl (.inserted rfl (.refl _ _))
  have style : Widened .typeStyle (.record [("fontSize", whole 14)])
      (.record [("fontSize", whole 14), ("fontPostScriptName", .null)]) :=
    .record rfl (.own rfl (.same _ _) (.inserted rfl (.nil _)))
  refine .record rfl (.inserted rfl (.own rfl (.same _ _) (.own rfl box (.own rfl ?fills
    (.own rfl ?children (.inserted rfl (.nil _)))))))
  case fills =>
    exact .list (.cons (.record rfl (.own rfl (.same _ _) (.own rfl color
      (.inserted rfl (.nil _))))) (.nil _))
  case children =>
    exact .list (.cons (.record rfl (.own rfl (.same _ _) (.own rfl style (.nil _)))) (.nil _))

theorem ofJson_of_widened_exportedCard :
    Widened .node filledCard exportedCard ∧
      ∃ node, Node.ofJson filledCard = .ok node ∧ node.name = "Card" ∧
        node.children.length = 1 ∧ Node.ofJson exportedCard = .ok node := by
  have isRead : ((Node.ofJson filledCard).toOption.map fun node =>
      (node.name, node.children.length)) = some ("Card", 1) := by decide +kernel
  cases found : Node.ofJson filledCard with
  | error fault =>
      rw [found] at isRead
      cases isRead
  | ok node =>
      rw [found] at isRead
      obtain ⟨name, children⟩ := Prod.mk.inj (Option.some.inj isRead)
      exact ⟨widened_exportedCard, node, rfl, name, children,
        ofJson_of_widened found widened_exportedCard⟩

end DesignToCode
