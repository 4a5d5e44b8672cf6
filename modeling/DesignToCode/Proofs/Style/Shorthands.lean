import DesignToCode.Proofs.Decimal.Characters
import DesignToCode.Proofs.Output.SheetReader
import DesignToCode.Proofs.Style.Aspects
import DesignToCode.Proofs.Text.Pieces

/-!
Declarations that stand for four lengths.
-/

namespace DesignToCode

open DesignToCode.Text

namespace CssReader

def values (text : String) : List String :=
  ((pieces isCssBlank text.toList).filter fun value => !value.isEmpty).map String.ofList

/-- What one to four values stand for, clockwise from the top or from the top left corner: the
second may be left out if it is the first, the third if it is the first, and the fourth if it is the
second. -/
def clockwise? : List String → Option (List String)
  | [all] => some [all, all, all, all]
  | [vertical, horizontal] => some [vertical, horizontal, vertical, horizontal]
  | [top, horizontal, bottom] => some [top, horizontal, bottom, horizontal]
  | [top, right, bottom, left] => some [top, right, bottom, left]
  | _ => none

theorem values_append (first second : String) :
    values (first ++ " " ++ second) = values first ++ values second := by
  have spaced : (first ++ " " ++ second).toList = first.toList ++ ' ' :: second.toList := by simp
  rw [values, spaced, pieces_append_cons (by decide), List.filter_append, List.map_append]
  rfl

theorem values_of_unblank {value : String} (nonempty : value.toList ≠ [])
    (unblank : ∀ c ∈ value.toList, isCssBlank c = false) : values value = [value] := by
  have kept : [value.toList].filter (fun run => !run.isEmpty) = [value.toList] := by
    simp [nonempty]
  rw [values, pieces_of_uncut unblank, kept, List.map_singleton, String.ofList_toList]

end CssReader

namespace Decimal

open CssReader

theorem not_isCssBlank_of_mem_plain {x : Float} {c : Char} (found : c ∈ (plain x).toList) :
    isCssBlank c = false := by
  rcases mem_plain found with letter | rfl | rfl
  · have checked := Naming.of_ascii (fun c => !c.isAlphanum || !isCssBlank c) (by decide)
      (Naming.ascii_of_isAlphanum letter)
    simpa [letter] using checked
  · rfl
  · rfl

end Decimal

namespace Style

open CssReader

theorem values_px (x : Float) : values (px x) = [px x] := by
  have letters : (px x).toList = (Decimal.plain x).toList ++ ['p', 'x'] := by simp [px]
  refine values_of_unblank (by simp [letters]) fun c found => ?_
  rw [letters] at found
  rcases List.mem_append.mp found with number | unit
  · exact Decimal.not_isCssBlank_of_mem_plain number
  · have checked : (['p', 'x'].all fun c => !isCssBlank c) = true := by decide
    simpa using List.all_eq_true.mp checked c unit

/-- A length in pixels whose number equals `x`; zero equals the negative zero. -/
def IsLength (value : String) (x : Float) : Prop :=
  ∃ y : Float, (y == x) = true ∧ value = px y

def StandsFor (text : String) (lengths : List Float) : Prop :=
  ∃ four, clockwise? (values text) = some four ∧ List.Forall₂ IsLength four lengths

theorem isLength_px {x y : Float} (same : (x == y) = true) : IsLength (px x) y :=
  ⟨x, same, rfl⟩

section

variable {a b c d : Float}

theorem standsFor_one (isNumber : a.isNaN = false) (second : (a == b) = true)
    (third : (a == c) = true) (fourth : (a == d) = true) : StandsFor (px a) [a, b, c, d] := by
  refine ⟨[px a, px a, px a, px a], by rw [values_px]; rfl, ?_⟩
  exact .cons (isLength_px (Decimal.beq_self_of_not_isNaN isNumber)) <|
    .cons (isLength_px second) <| .cons (isLength_px third) <| .cons (isLength_px fourth) .nil

theorem values_two (a b : Float) : values (px a ++ " " ++ px b) = [px a, px b] := by
  rw [values_append, values_px, values_px]
  rfl

theorem standsFor_two (numbers : ∀ x ∈ [a, b], x.isNaN = false) (third : (a == c) = true)
    (fourth : (b == d) = true) : StandsFor (px a ++ " " ++ px b) [a, b, c, d] := by
  refine ⟨[px a, px b, px a, px b], by rw [values_two]; rfl, ?_⟩
  have itself {x : Float} (isOne : x ∈ [a, b]) : IsLength (px x) x :=
    isLength_px (Decimal.beq_self_of_not_isNaN (numbers x isOne))
  exact .cons (itself (by simp)) <| .cons (itself (by simp)) <|
    .cons (isLength_px third) <| .cons (isLength_px fourth) .nil

theorem values_four (a b c d : Float) :
    values (px a ++ " " ++ px b ++ " " ++ px c ++ " " ++ px d) = [px a, px b, px c, px d] := by
  rw [values_append, values_append, values_two, values_px, values_px]
  rfl

theorem standsFor_four (numbers : ∀ x ∈ [a, b, c, d], x.isNaN = false) :
    StandsFor (px a ++ " " ++ px b ++ " " ++ px c ++ " " ++ px d) [a, b, c, d] := by
  refine ⟨[px a, px b, px c, px d], by rw [values_four]; rfl, ?_⟩
  have itself {x : Float} (isOne : x ∈ [a, b, c, d]) : IsLength (px x) x :=
    isLength_px (Decimal.beq_self_of_not_isNaN (numbers x isOne))
  exact .cons (itself (by simp)) <| .cons (itself (by simp)) <|
    .cons (itself (by simp)) <| .cons (itself (by simp)) .nil

end

def Sides.toList (sides : Sides) : List Float :=
  [sides.top, sides.right, sides.bottom, sides.left]

theorem standsFor_shorthand {sides : Sides} (numbers : ∀ x ∈ sides.toList, x.isNaN = false) :
    (values sides.shorthand).length ∈ [1, 2, 4] ∧ StandsFor sides.shorthand sides.toList := by
  have isNumber {x : Float} (isSide : x ∈ sides.toList) : x.isNaN = false := numbers x isSide
  unfold Sides.toList at isNumber
  unfold Sides.shorthand
  split
  · rename_i same
    simp only [Bool.and_eq_true] at same
    have bottom := Decimal.beq_trans same.1.1 same.1.2
    refine ⟨by simp [values_px], standsFor_one (isNumber (by simp)) same.1.1 bottom ?_⟩
    exact Decimal.beq_trans bottom same.2
  · split
    · rename_i opposite
      simp only [Bool.and_eq_true] at opposite
      refine ⟨by simp [values_two], standsFor_two ?_ opposite.1 (Decimal.beq_symm opposite.2)⟩
      intro x isOne
      refine isNumber ?_
      rcases List.mem_pair.mp isOne with rfl | rfl <;> simp
    · exact ⟨by simp [values_four], standsFor_four numbers⟩

theorem get?_padding (sides : Sides) :
    ((padding sides).get? "padding" = none ↔ ∀ x ∈ sides.toList, (x == 0) = true) ∧
      ∀ value, (padding sides).get? "padding" = some value → value = .text sides.shorthand := by
  have zeros : (sides.top != 0 || sides.right != 0 || sides.bottom != 0 || sides.left != 0) =
      !(sides.toList.all (· == 0)) := by
    simp [Sides.toList, bne, Bool.or_assoc]
  rw [padding, zeros, ← List.all_eq_true]
  cases sides.toList.all (· == 0) with
  | true =>
      refine ⟨iff_of_true rfl rfl, fun value found => ?_⟩
      cases found
  | false =>
      refine ⟨iff_of_false (by rintro ⟨⟩) (by rintro ⟨⟩), fun value found => ?_⟩
      cases found
      rfl

theorem get?_spacing_padding (node : Node) :
    (spacing node).get? "padding" = (padding (Sides.ofPadding node.layout)).get? "padding" := by
  have noGap : (StyleMap.textWhen "gap" ((above 0 node.layout.gap).map px)).get? "padding" = none :=
    OrderedMap.lookup_eq_none fun found =>
      absurd ((StyleMap.fits_textWhen _ _).among.subset found) (by decide)
  rw [spacing, OrderedMap.get?_merge, noGap, Option.or_none]

theorem get?_cornerRadius {node : Node} {topLeft topRight bottomRight bottomLeft : Float}
    (given : node.appearance.cornerRadii =
      some [topLeft, topRight, bottomRight, bottomLeft])
    (numbers : ∀ x ∈ [topLeft, topRight, bottomRight, bottomLeft], x.isNaN = false) :
    let radii := [topLeft, topRight, bottomRight, bottomLeft]
    ((cornerRadius node).get? "border-radius" = none ↔
        (∀ x ∈ radii, ∀ y ∈ radii, (x == y) = true) ∧ ∀ x ∈ radii, ¬x > 0) ∧
      ∀ value, (cornerRadius node).get? "border-radius" = some value →
        ∃ text, value = .text text ∧ (values text).length ∈ [1, 4] ∧ StandsFor text radii := by
  intro radii
  unfold cornerRadius
  rw [given]
  simp only
  split
  case isTrue chain =>
    simp only [Bool.and_eq_true] at chain
    have third := Decimal.beq_trans chain.1.1 chain.1.2
    have fourth := Decimal.beq_trans third chain.2
    have isNumber := numbers topLeft List.mem_cons_self
    have asFirst : ∀ x ∈ radii, (topLeft == x) = true := by
      simp only [radii, List.forall_mem_cons]
      exact ⟨Decimal.beq_self_of_not_isNaN isNumber, chain.1.1, third, fourth, by simp⟩
    have allEqual : ∀ x ∈ radii, ∀ y ∈ radii, (x == y) = true := fun x isOne y isOther =>
      Decimal.beq_trans (Decimal.beq_symm (asFirst x isOne)) (asFirst y isOther)
    by_cases positive : topLeft > 0
    · rw [if_pos positive]
      refine ⟨iff_of_false (by rintro ⟨⟩) ?_, fun value found => ?_⟩
      · exact fun none => none.2 topLeft List.mem_cons_self positive
      · cases found
        exact ⟨_, rfl, by simp [values_px], standsFor_one isNumber chain.1.1 third fourth⟩
    · rw [if_neg positive]
      refine ⟨iff_of_true rfl ⟨allEqual, fun x isOne => ?_⟩, fun value found => ?_⟩
      · exact fun above => positive ((Decimal.lt_congr_right (asFirst x isOne)).mpr above)
      · cases found
  case isFalse broken =>
    refine ⟨iff_of_false (by rintro ⟨⟩) fun none => broken ?_, fun value found => ?_⟩
    · have equal {x y : Float} (isOne : x ∈ radii) (isOther : y ∈ radii) : (x == y) = true :=
        none.1 x isOne y isOther
      simp only [Bool.and_eq_true]
      exact ⟨⟨equal (by simp [radii]) (by simp [radii]), equal (by simp [radii]) (by simp [radii])⟩,
        equal (by simp [radii]) (by simp [radii])⟩
    · cases found
      exact ⟨_, rfl, by simp [values_four], standsFor_four numbers⟩

def boxNumbers (node : Node) : List Float :=
  (Sides.ofPadding node.layout).toList ++ node.appearance.cornerRadii.getD []

/-- A node declares no padding exactly if it has none on any side, and else what stands for its four
paddings. So it is with four radii, of which nothing is declared exactly if all are equal and none
is positive. -/
theorem shorthands_lossless {node : Node} (finite : ∀ x ∈ boxNumbers node, x.isFinite = true) :
    let paddings := [node.layout.paddingTop.getD 0, node.layout.paddingRight.getD 0,
      node.layout.paddingBottom.getD 0, node.layout.paddingLeft.getD 0]
    ((spacing node).get? "padding" = none ↔ ∀ x ∈ paddings, (x == 0) = true) ∧
    (∀ value, (spacing node).get? "padding" = some value →
      ∃ text, value = .text text ∧ (values text).length ∈ [1, 2, 4] ∧
        StandsFor text paddings) ∧
    ∀ topLeft topRight bottomRight bottomLeft,
      let radii := [topLeft, topRight, bottomRight, bottomLeft]
      node.appearance.cornerRadii = some radii →
        ((cornerRadius node).get? "border-radius" = none ↔
          (∀ x ∈ radii, ∀ y ∈ radii, (x == y) = true) ∧ ∀ x ∈ radii, ¬x > 0) ∧
        ∀ value, (cornerRadius node).get? "border-radius" = some value →
          ∃ text, value = .text text ∧ (values text).length ∈ [1, 4] ∧
            StandsFor text radii := by
  intro paddings
  have isNumber {x : Float} (isOne : x ∈ boxNumbers node) : x.isNaN = false :=
    Decimal.not_isNaN_of_isFinite (finite x isOne)
  obtain ⟨absent, written⟩ := get?_padding (Sides.ofPadding node.layout)
  rw [get?_spacing_padding]
  refine ⟨absent, fun value found => ?_, ?_⟩
  · have stands := standsFor_shorthand fun x isSide => isNumber (List.mem_append_left _ isSide)
    exact ⟨_, written value found, stands⟩
  · intro topLeft topRight bottomRight bottomLeft radii given
    refine get?_cornerRadius given fun x isRadius => isNumber (List.mem_append_right _ ?_)
    rwa [given]

def tab : Node :=
  { Node.blank with
    layout := { Node.blank.layout with
      paddingTop := some 7.5, paddingBottom := some 7.5, paddingRight := some (-0.0) }
    appearance := { Node.blank.appearance with cornerRadii := some [8, 8, 0, 0] } }

theorem shorthands_lossless_tab :
    (∀ x ∈ boxNumbers tab, x.isFinite = true) ∧
      (spacing tab).get? "padding" = some (.text "7.5px -0px") ∧
      StandsFor "7.5px -0px" [7.5, -0.0, 7.5, 0] ∧
      (cornerRadius tab).get? "border-radius" = some (.text "8px 8px 0px 0px") ∧
      StandsFor "8px 8px 0px 0px" [8, 8, 0, 0] := by
  have finite : ∀ x ∈ boxNumbers tab, x.isFinite = true := by decide +kernel
  have padding : (spacing tab).get? "padding" = some (.text "7.5px -0px") := by rfl
  have corners : (cornerRadius tab).get? "border-radius" = some (.text "8px 8px 0px 0px") := by rfl
  obtain ⟨_, paddings, radii⟩ := shorthands_lossless finite
  obtain ⟨_, isText, _, sides⟩ := paddings _ padding
  obtain ⟨_, isOther, _, rounded⟩ := (radii 8 8 0 0 rfl).2 _ corners
  cases isText
  cases isOther
  exact ⟨finite, padding, sides, corners, rounded⟩

end Style

end DesignToCode
