import DesignToCode.Proofs.Decimal.Unsigned
import DesignToCode.Proofs.OrderedMap
import DesignToCode.Style.Mapping

/-!
The declarations of each aspect.
-/

namespace DesignToCode

namespace StyleValue

def Unsigned : StyleValue → Prop
  | .text _ => True
  | .number x => Decimal.Unsigned x

theorem Unsigned.eq_of_beq {left right : StyleValue} (leftUnsigned : left.Unsigned)
    (rightUnsigned : right.Unsigned) (same : (left == right) = true) : left = right := by
  cases left with
  | text first =>
      cases right with
      | text second => exact congrArg text (beq_iff_eq.mp same)
      | number => cases same
  | number first =>
      cases right with
      | text => cases same
      | number second =>
          exact congrArg number (Decimal.Unsigned.eq_of_beq leftUnsigned rightUnsigned same)

end StyleValue

namespace StyleMap

def Unsigned (map : StyleMap) : Prop :=
  ∀ entry ∈ map.entries, entry.2.Unsigned

def Among (map : StyleMap) (names : List String) : Prop :=
  map.keys.Sublist names

structure Fits (map : StyleMap) (names : List String) : Prop where
  among : map.Among names
  unsigned : map.Unsigned

variable {map other : StyleMap} {names others : List String}

theorem fits_empty (names : List String) : Fits .empty names where
  among := List.nil_sublist names
  unsigned := by
    intro entry found
    cases found

theorem Fits.insert (fits : map.Fits names) (property : String) {value : StyleValue}
    (isUnsigned : value.Unsigned) : Fits (map.insert property value) (names ++ [property]) where
  among := by
    rw [Among, OrderedMap.keys_insert]
    split
    · exact fits.among.trans (List.sublist_append_left _ _)
    · exact List.Sublist.append fits.among (List.Sublist.refl _)
  unsigned := by
    intro entry found
    rcases OrderedMap.mem_put found with rfl | old
    · exact isUnsigned
    · exact fits.unsigned entry old

theorem Fits.merge (first : map.Fits names) (second : other.Fits others) :
    Fits (map.merge other) (names ++ others) where
  among := by
    rw [Among, OrderedMap.keys_merge]
    exact List.Sublist.append first.among (List.filter_sublist.trans second.among)
  unsigned := by
    intro entry found
    rcases OrderedMap.mem_merge found with inMap | inOther
    · exact first.unsigned entry inMap
    · exact second.unsigned entry inOther

theorem Fits.more (fits : map.Fits names) (others : List String) :
    map.Fits (names ++ others) where
  among := fits.among.trans (List.sublist_append_left _ _)
  unsigned := fits.unsigned

theorem get?_merge_of_fits (fits : other.Fits others) {property : String}
    (absent : property ∉ others) : (map.merge other).get? property = map.get? property := by
  have nothing : other.get? property = none :=
    OrderedMap.lookup_eq_none fun found => absent (fits.among.subset found)
  rw [OrderedMap.get?_merge, nothing, Option.none_or]

theorem fits_one (property : String) {value : StyleValue} (isUnsigned : value.Unsigned) :
    (one property value).Fits [property] :=
  (fits_empty []).insert property isUnsigned

theorem fits_text (property value : String) : (text property value).Fits [property] :=
  fits_one property trivial

theorem fits_textWhen (property : String) (value : Option String) :
    (textWhen property value).Fits [property] := by
  cases value with
  | none => exact fits_empty _
  | some value => exact fits_text property value

end StyleMap

namespace Style

open StyleMap

def fontProperties : List String :=
  ["font-family", "font-size", "font-weight", "line-height", "letter-spacing", "text-align"]

def boxProperties (isText : Bool) : List (List String) :=
  [["display", "flex-direction", "flex-wrap"], ["justify-content", "align-items"],
    ["gap", "padding"], ["width", "height"], [if isText then "color" else "background-color"],
    ["border"], ["border-radius"]]

def aspectProperties (isText : Bool) : List (List String) :=
  boxProperties isText ++ (if isText then [fontProperties] else []) ++
    [["box-shadow"], ["opacity"]]

/-- All properties, in the order in which every node writes those that it has. -/
def propertyOrder : List String :=
  ["display", "flex-direction", "flex-wrap", "justify-content", "align-items", "gap", "padding",
    "width", "height", "color", "background-color", "border", "border-radius", "font-family",
    "font-size", "font-weight", "line-height", "letter-spacing", "text-align", "box-shadow",
    "opacity"]

theorem nodup_propertyOrder : propertyOrder.Nodup := by
  decide +kernel

theorem aspectProperties_sublist (isText : Bool) :
    (aspectProperties isText).flatten.Sublist propertyOrder := by
  cases isText <;> decide +kernel

theorem fits_layout (node : Node) :
    (layout node).Fits ["display", "flex-direction", "flex-wrap"] := by
  have flex (direction : String) :
      Fits ((StyleMap.text "display" "flex").insert "flex-direction" (.text direction))
        (["display"] ++ ["flex-direction"]) :=
    (fits_text "display" "flex").insert _ trivial
  unfold layout
  split
  · exact fits_empty _
  · split
    · exact fits_empty _
    · simp only
      split
      · exact (flex _).insert "flex-wrap" trivial
      · exact (flex _).more ["flex-wrap"]

theorem fits_padding (sides : Sides) : (padding sides).Fits ["padding"] := by
  unfold padding
  split
  · exact fits_text _ _
  · exact fits_empty _

theorem fits_fill (node : Node) (isText : Bool) :
    (fill node isText).Fits [if isText then "color" else "background-color"] := by
  unfold fill
  split
  · exact fits_empty _
  · exact fits_text _ _

theorem fits_border (node : Node) : (border node).Fits ["border"] := by
  unfold border
  split
  · exact fits_text _ _
  · exact fits_empty _

theorem fits_cornerRadius (node : Node) : (cornerRadius node).Fits ["border-radius"] := by
  unfold cornerRadius
  split
  · split
    · split
      · exact fits_text _ _
      · exact fits_empty _
    · exact fits_text _ _
  · exact fits_textWhen _ _

theorem fits_fontWeight (style : TypeStyle) : (fontWeight style).Fits ["font-weight"] := by
  unfold fontWeight
  split
  · rename_i weight isWeight
    have notZero : (weight != 0) = true := (Option.filter_eq_some_iff.mp isWeight).2
    exact fits_one _ (Decimal.unsigned_of_bne_zero notZero)
  · exact fits_empty _

theorem fits_lineHeight (style : TypeStyle) : (lineHeight style).Fits ["line-height"] := by
  unfold lineHeight
  split
  · exact fits_text _ _
  · exact fits_empty _

theorem fits_textStyle (node : Node) : (textStyle node).Fits fontProperties := by
  unfold textStyle
  split
  · exact fits_empty _
  · rename_i style _
    change Fits _ (["font-family"] ++ ["font-size"] ++ ["font-weight"] ++ ["line-height"] ++
      ["letter-spacing"] ++ ["text-align"])
    exact (((((fits_textWhen _ _).merge (fits_textWhen _ _)).merge
      (fits_fontWeight style)).merge (fits_lineHeight style)).merge
      (fits_textWhen _ _)).merge (fits_textWhen _ _)

theorem fits_effects (node : Node) : (effects node).Fits ["box-shadow"] := by
  unfold effects
  simp only
  split
  · exact fits_empty _
  · exact fits_text _ _

theorem unsigned_round2 (x : Float) : Decimal.Unsigned (round2 x) :=
  Decimal.unsigned_add_zero _

theorem fits_opacity (node : Node) : (opacity node).Fits ["opacity"] := by
  unfold opacity
  split
  · rename_i x _
    exact fits_one _ (unsigned_round2 x)
  · exact fits_empty _

theorem fits_aspects (node : Node) (isText : Bool) :
    List.Forall₂ Fits (aspects node isText) (aspectProperties isText) := by
  have box : List.Forall₂ Fits [layout node, alignment node, spacing node, size node,
      fill node isText, border node, cornerRadius node] (boxProperties isText) :=
    .cons (fits_layout node) <|
    .cons ((fits_textWhen _ _).merge (fits_textWhen _ _)) <|
    .cons ((fits_textWhen _ _).merge (fits_padding _)) <|
    .cons ((fits_textWhen _ _).merge (fits_textWhen _ _)) <|
    .cons (fits_fill node isText) <| .cons (fits_border node) <|
    .cons (fits_cornerRadius node) .nil
  have font : List.Forall₂ Fits (if isText then [textStyle node] else [])
      (if isText then [fontProperties] else []) := by
    cases isText with
    | true => exact .cons (fits_textStyle node) .nil
    | false => exact .nil
  have overall : List.Forall₂ Fits [effects node, opacity node] [["box-shadow"], ["opacity"]] :=
    .cons (fits_effects node) (.cons (fits_opacity node) .nil)
  exact List.rel_append (List.rel_append box font) overall

theorem keys_flatMap_aspects (node : Node) (isText : Bool) :
    (((aspects node isText).flatMap OrderedMap.entries).map Prod.fst).Sublist
      (aspectProperties isText).flatten := by
  have gathered {parts : List StyleMap} {names : List (List String)}
      (each : List.Forall₂ Fits parts names) :
      ((parts.flatMap OrderedMap.entries).map Prod.fst).Sublist names.flatten := by
    induction each with
    | nil => exact List.Sublist.refl _
    | cons first _ later =>
        rw [List.flatMap_cons, List.map_append, List.flatten_cons]
        exact List.Sublist.append first.among later
  exact gathered (fits_aspects node isText)

theorem entries_styles (node : Node) (isText : Bool) :
    (styles node isText).entries = (aspects node isText).flatMap OrderedMap.entries := by
  have distinct := nodup_propertyOrder.sublist
    ((keys_flatMap_aspects node isText).trans (aspectProperties_sublist isText))
  exact OrderedMap.entries_foldl_merge .empty _ distinct

theorem get?_styles {node : Node} {isText : Bool} {aspect : StyleMap}
    (isAspect : aspect ∈ aspects node isText) {property : String} {value : StyleValue}
    (found : aspect.get? property = some value) :
    (styles node isText).get? property = some value := by
  have isEntry : (property, value) ∈ (styles node isText).entries := by
    rw [entries_styles]
    exact List.mem_flatMap.mpr ⟨aspect, isAspect, OrderedMap.mem_of_get? found⟩
  exact OrderedMap.get?_of_mem isEntry

theorem fits_styles (node : Node) (isText : Bool) :
    (styles node isText).Fits (aspectProperties isText).flatten where
  among := by
    rw [Among, OrderedMap.keys, entries_styles]
    exact keys_flatMap_aspects node isText
  unsigned := by
    intro entry found
    rw [entries_styles] at found
    obtain ⟨aspect, isAspect, isEntry⟩ := List.mem_flatMap.mp found
    obtain ⟨index, bound, rfl⟩ := List.getElem_of_mem isAspect
    have fits := fits_aspects node isText
    exact (fits.get bound (fits.length_eq ▸ bound)).unsigned entry isEntry

theorem eq_of_beq_styles {first second : Node} {isText isText' : Bool} {property : String}
    {mine yours : StyleValue} (foundMine : (styles first isText).get? property = some mine)
    (foundYours : (styles second isText').get? property = some yours)
    (same : (mine == yours) = true) : mine = yours :=
  ((fits_styles first isText).unsigned _ (OrderedMap.mem_of_get? foundMine)).eq_of_beq
    ((fits_styles second isText').unsigned _ (OrderedMap.mem_of_get? foundYours)) same

theorem shared_styles (first second : Node) (isText isText' : Bool) :
    let mine := (styles first isText).keys
    let yours := (styles second isText').keys
    mine.filter (fun property => decide (property ∈ yours)) =
      yours.filter fun property => decide (property ∈ mine) := by
  intro mine yours
  have mineOrdered := (fits_styles first isText).among.trans (aspectProperties_sublist isText)
  have yoursOrdered := (fits_styles second isText').among.trans (aspectProperties_sublist isText')
  -- both are sublists of one list without duplicates, so equal members are enough
  refine (nodup_propertyOrder.perm_iff_eq_of_sublist (List.filter_sublist.trans mineOrdered)
    (List.filter_sublist.trans yoursOrdered)).mp ?_
  refine (List.perm_ext_iff_of_nodup ((styles first isText).distinct.filter _)
    ((styles second isText').distinct.filter _)).mpr fun property => ?_
  simp only [List.mem_filter, decide_eq_true_eq]
  exact And.comm

theorem styles_concatenates (node : Node) (isText : Bool) :
    (styles node isText).entries =
      (layout node).entries ++ (alignment node).entries ++ (spacing node).entries ++
        (size node).entries ++ (fill node isText).entries ++ (border node).entries ++
        (cornerRadius node).entries ++ (if isText then (textStyle node).entries else []) ++
        (effects node).entries ++ (opacity node).entries ∧
    (∀ other isOtherText,
      let mine := (styles node isText).keys
      let yours := (styles other isOtherText).keys
      mine.filter (fun property => decide (property ∈ yours)) =
        yours.filter fun property => decide (property ∈ mine)) ∧
    "background-color" ∉ (styles node true).keys ∧
    (styles node false).keys.Disjoint ("color" :: fontProperties) := by
  refine ⟨?_, fun other isOtherText => shared_styles node other isText isOtherText, ?_, ?_⟩
  · rw [entries_styles, aspects]
    cases isText <;> simp
  · intro found
    exact absurd ((fits_styles node true).among.subset found) (by decide +kernel)
  · have apart : ∀ property ∈ "color" :: fontProperties,
        property ∉ (aspectProperties false).flatten := by
      decide +kernel
    intro property found ofLetters
    exact apart property ofLetters ((fits_styles node false).among.subset found)

end Style

end DesignToCode
