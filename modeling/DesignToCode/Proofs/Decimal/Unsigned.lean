import DesignToCode.Decimal.Binary
import Mathlib

/-!
Floats that compare equal, which are the same float if their zero has no sign.
-/

namespace DesignToCode.Decimal

open Float.Model Float.Model.UnpackedFloat

theorem toBitVec_ofBitVec (sign : BitVec 1) : (Sign.ofBitVec sign).toBitVec = sign := by
  revert sign
  decide

theorem packComponents_unpack (bits : BitVec Format.binary64.numBits) :
    packComponents .binary64 (Sign.ofBitVec (unpackSign bits)) (unpackExponent bits)
      (unpackMantissa bits) = bits := by
  simp only [packComponents, toBitVec_ofBitVec, unpackSign, unpackExponent, unpackMantissa,
    BitVec.extractLsb]
  ext place inside
  grind

theorem packComponents_eq {bits : BitVec Format.binary64.numBits}
    {exponent : BitVec Format.binary64.exponentBits}
    {mantissa : BitVec Format.binary64.mantissaBitsWithoutImplicit}
    (sameExponent : unpackExponent bits = exponent)
    (sameMantissa : unpackMantissa bits = mantissa) :
    packComponents .binary64 (Sign.ofBitVec (unpackSign bits)) exponent mantissa = bits := by
  rw [← sameExponent, ← sameMantissa, packComponents_unpack]

theorem toNat_implicit (mantissa : BitVec 52) :
    (1#1 ++ mantissa).toNat = 2 ^ 52 + mantissa.toNat := by
  rw [BitVec.toNat_append, ← Nat.shiftLeft_add_eq_or_of_lt mantissa.isLt]
  simp [Nat.shiftLeft_eq]

theorem log2_implicit (mantissa : BitVec 52) : (1#1 ++ mantissa).toNat.log2 = 52 := by
  have small := mantissa.isLt
  rw [toNat_implicit, Nat.log2_eq_iff (by omega)]
  omega

theorem log2_subnormal {mantissa : BitVec 52} (notZero : mantissa ≠ 0#_) :
    mantissa.toNat.log2 < 52 := by
  have positive : mantissa.toNat ≠ 0 := by
    intro zero
    exact notZero (BitVec.toNat_inj.mp zero)
  exact (Nat.log2_lt positive).mpr mantissa.isLt

theorem pack_subnormal (sign : Sign) {mantissa : BitVec 52} (notZero : mantissa ≠ 0#_)
    (positive : 0 < mantissa.toNat) :
    UnpackedFloat.pack .binary64 (.finite sign mantissa.toNat (-1074) positive) =
      packComponents .binary64 sign 0#_ mantissa := by
  have short := log2_subnormal notZero
  rw [UnpackedFloat.pack, if_neg (by decide), if_neg (by simp only [Format.mantissaBits]; omega)]
  rw [BitVec.ofNat_toNat, BitVec.setWidth_eq]

theorem pack_normal (sign : Sign) {exponent : BitVec 11} (mantissa : BitVec 52)
    (notLast : exponent ≠ -1#_) (positive : 0 < (1#1 ++ mantissa).toNat) :
    UnpackedFloat.pack .binary64
        (.finite sign (1#1 ++ mantissa).toNat ((exponent.toNat : Int) - 1075) positive) =
      packComponents .binary64 sign exponent mantissa := by
  have inRange : exponent.toNat ≠ 2047 := by
    intro last
    exact notLast (BitVec.toNat_inj.mp last)
  have small := exponent.isLt
  have biased : ((exponent.toNat : Int) - 1075 + (Format.binary64.exponentBias : Nat) +
      (Format.binary64.mantissaBitsWithoutImplicit : Nat)).toNat = exponent.toNat := by
    have bias : Format.binary64.exponentBias = 1023 := rfl
    simp only [bias]
    omega
  have cut : BitVec.ofNat 52 (1#1 ++ mantissa).toNat = mantissa := by
    rw [toNat_implicit, ← BitVec.toNat_inj, BitVec.toNat_ofNat]
    have := mantissa.isLt
    omega
  rw [UnpackedFloat.pack]
  simp only [biased]
  rw [if_neg (by omega), if_pos (by rw [log2_implicit]; rfl), cut, BitVec.ofNat_toNat,
    BitVec.setWidth_eq]

theorem pack_unpack_bits {bits : BitVec Format.binary64.numBits}
    (valid : Format.binary64.Valid bits) :
    UnpackedFloat.pack .binary64 (UnpackedFloat.unpack .binary64 bits) = bits := by
  rw [UnpackedFloat.unpack]
  -- The last exponent is that of infinities and of what is no number, the first one that of zeros
  -- and subnormal numbers.
  split
  case isTrue last =>
    split
    case isTrue zero => exact packComponents_eq last zero
    case isFalse notZero => exact (valid.eq_packedNaN last notZero).symm
  case isFalse notLast =>
    split
    case isTrue first =>
      split
      case isTrue zero => exact packComponents_eq first zero
      case isFalse notZero =>
        have least : ((unpackExponent bits).toNat : Int) - ((Format.binary64.exponentBias : Nat) +
            (Format.binary64.mantissaBitsWithoutImplicit : Nat)) + 1 = -1074 := by
          rw [first]
          rfl
        simp only [least]
        rw [pack_subnormal _ notZero]
        exact packComponents_eq first rfl
    case isFalse =>
      exact (pack_normal _ _ notLast _).trans (packComponents_unpack bits)

theorem pack_unpack (model : Float.Model) : Float.Model.pack model.unpack = model := by
  obtain ⟨bits, valid⟩ := model
  have whole := pack_unpack_bits valid
  simp only [Float.Model.pack, Float.Model.unpack, whole]

def Unsigned (x : Float) : Prop :=
  x.toModel.unpack ≠ .zero .negative

theorem eq_of_compare_sign {sign other : Sign} (same : compare sign other = .eq) :
    sign = other := by
  cases sign <;> cases other <;> first | rfl | contradiction

theorem eq_of_compare_size {exponent exponent' : Int} {mantissa mantissa' : Nat}
    (same : (compare exponent exponent').then (compare mantissa mantissa') = .eq) :
    exponent = exponent' ∧ mantissa = mantissa' := by
  rw [Ordering.then_eq_eq] at same
  exact ⟨Int.compare_eq_eq.mp same.1, Nat.compare_eq_eq.mp same.2⟩

theorem eq_of_compare {x y : UnpackedFloat} (same : x.compare y = some .eq)
    (left : x ≠ .zero .negative) (right : y ≠ .zero .negative) : x = y := by
  cases x with
  | notANumber => cases y <;> cases same
  | infinity sign =>
      cases y with
      | infinity other => rw [eq_of_compare_sign (Option.some.inj same)]
      | _ => cases sign <;> cases same
  | zero sign =>
      cases y with
      | zero other => cases sign <;> cases other <;> first | rfl | contradiction
      | notANumber => cases same
      | infinity other => cases other <;> cases same
      | finite other => cases other <;> cases same
  | finite sign mantissa exponent =>
      cases y with
      | notANumber => cases sign <;> cases same
      | infinity other => cases sign <;> cases other <;> cases same
      | zero other => cases sign <;> cases same
      | finite other mantissa' exponent' =>
          have sameSize : exponent = exponent' ∧ mantissa = mantissa' := by
            cases sign <;> cases other
            · exact eq_of_compare_size (Ordering.swap_eq_eq.mp (Option.some.inj same))
            · cases same
            · cases same
            · exact eq_of_compare_size (Option.some.inj same)
          have sameSign : sign = other := by
            cases sign <;> cases other <;> first | rfl | cases same
          obtain ⟨rfl, rfl⟩ := sameSize
          rw [sameSign]

theorem eq_or_zeros_of_compare {x y : UnpackedFloat} (same : x.compare y = some .eq) :
    x = y ∨ (∃ sign, x = .zero sign) ∧ ∃ sign, y = .zero sign := by
  by_cases left : ∃ sign, x = .zero sign
  · obtain ⟨sign, rfl⟩ := left
    cases y with
    | zero other => exact Or.inr ⟨⟨sign, rfl⟩, other, rfl⟩
    | notANumber => cases same
    | infinity other => cases other <;> cases same
    | finite other => cases other <;> cases same
  · by_cases right : ∃ sign, y = .zero sign
    · obtain ⟨sign, rfl⟩ := right
      cases x with
      | zero other => exact absurd ⟨other, rfl⟩ left
      | notANumber => cases same
      | infinity other => cases other <;> cases same
      | finite other => cases other <;> cases same
    · exact Or.inl (eq_of_compare same (fun isZero => left ⟨_, isZero⟩)
        fun isZero => right ⟨_, isZero⟩)

theorem beq_iff_compare {x y : Float} :
    (x == y) = true ↔ x.toModel.unpack.compare y.toModel.unpack = some .eq := by
  change (x.toModel.unpack.compare y.toModel.unpack == some .eq) = true ↔ _
  exact beq_iff_eq

theorem Unsigned.eq_of_beq {x y : Float} (left : Unsigned x) (right : Unsigned y)
    (same : (x == y) = true) : x = y := by
  have unpacked := eq_of_compare (beq_iff_compare.mp same) left right
  have models : x.toModel = y.toModel := by
    rw [← pack_unpack x.toModel, ← pack_unpack y.toModel, unpacked]
  cases x
  cases y
  exact congrArg Float.ofModel models

theorem add_zero_of_zero {x : Float} {sign : Sign} (isZero : x.toModel.unpack = .zero sign) :
    x + 0.0 = 0.0 := by
  change Float.ofModel (Float.Model.pack (UnpackedFloat.add .binary64 x.toModel.unpack
    (.zero .positive))) = 0.0
  rw [isZero]
  cases sign <;> rfl

theorem add_zero_of_ne_zero {x : Float} (notZero : ∀ sign, x.toModel.unpack ≠ .zero sign) :
    x + 0.0 = x := by
  have whole := pack_unpack x.toModel
  change Float.ofModel (Float.Model.pack (UnpackedFloat.add .binary64 x.toModel.unpack
    (.zero .positive))) = x
  have sum : UnpackedFloat.add .binary64 x.toModel.unpack (.zero .positive) = x.toModel.unpack := by
    cases shape : x.toModel.unpack with
    | zero sign => exact absurd shape (notZero sign)
    | _ => rfl
  rw [sum, whole]

theorem unsigned_add_zero (x : Float) : Unsigned (x + 0.0) := by
  by_cases isZero : ∃ sign, x.toModel.unpack = .zero sign
  · obtain ⟨sign, isZero⟩ := isZero
    rw [add_zero_of_zero isZero]
    change UnpackedFloat.zero .positive ≠ .zero .negative
    intro same
    cases same
  · rw [not_exists] at isZero
    rw [add_zero_of_ne_zero isZero]
    exact isZero .negative

theorem unsigned_of_bne_zero {x : Float} (notZero : (x != 0) = true) : Unsigned x := by
  intro isZero
  have same : (x == 0) = true := by
    change (x.toModel.unpack.compare (.zero .positive) == some .eq) = true
    rw [isZero]
    rfl
  rw [bne, same] at notZero
  contradiction

theorem compare_self {x : UnpackedFloat} (isNumber : x ≠ .notANumber) :
    x.compare x = some .eq := by
  cases x with
  | notANumber => exact absurd rfl isNumber
  | infinity sign => cases sign <;> rfl
  | zero sign => rfl
  | finite sign mantissa exponent =>
      have sameSize : (compare exponent exponent).then (compare mantissa mantissa) = .eq := by
        rw [Ordering.then_eq_eq]
        exact ⟨Std.compare_self, Std.compare_self⟩
      cases sign with
      | positive => exact congrArg some sameSize
      | negative => exact congrArg some (Ordering.swap_eq_eq.mpr sameSize)

theorem compare_notANumber (x : UnpackedFloat) : x.compare .notANumber = none := by
  cases x with
  | notANumber => rfl
  | infinity sign => cases sign <;> rfl
  | zero sign => rfl
  | finite sign => cases sign <;> rfl

theorem beq_self_of_not_isNaN {x : Float} (isNumber : x.isNaN = false) : (x == x) = true := by
  refine beq_iff_compare.mpr (compare_self fun notNumber => ?_)
  have isNaN : x.isNaN = true := by
    change x.toModel.unpack.isNaN = true
    rw [notNumber]
    rfl
  rw [isNaN] at isNumber
  contradiction

theorem not_isNaN_of_beq {x y : Float} (same : (x == y) = true) : y.isNaN = false := by
  change y.toModel.unpack.isNaN = false
  have compared := beq_iff_compare.mp same
  cases shape : y.toModel.unpack with
  | notANumber =>
      rw [shape, compare_notANumber] at compared
      cases compared
  | _ => rfl

theorem not_isNaN_of_isFinite {x : Float} (finite : x.isFinite = true) : x.isNaN = false := by
  change x.toModel.unpack.isFinite = true at finite
  change x.toModel.unpack.isNaN = false
  cases shape : x.toModel.unpack with
  | notANumber =>
      rw [shape] at finite
      cases finite
  | _ => rfl

theorem beq_symm {x y : Float} (same : (x == y) = true) : (y == x) = true := by
  rw [beq_iff_compare] at same ⊢
  rcases eq_or_zeros_of_compare same with equal | ⟨⟨sign, left⟩, other, right⟩
  · rwa [equal] at same ⊢
  · rw [left, right]
    rfl

theorem beq_trans {x y z : Float} (first : (x == y) = true) (second : (y == z) = true) :
    (x == z) = true := by
  rw [beq_iff_compare] at first second ⊢
  rcases eq_or_zeros_of_compare first with equal | ⟨⟨sign, left⟩, other, middle⟩
  · rwa [equal]
  · rcases eq_or_zeros_of_compare second with equal | ⟨_, last, right⟩
    · rwa [← equal]
    · rw [left, right]
      rfl

theorem lt_iff_compare {x y : Float} :
    x < y ↔ x.toModel.unpack.compare y.toModel.unpack = some .lt := by
  change decide (x.toModel < y.toModel) = true ↔ _
  rw [decide_eq_true_eq]
  change (x.toModel.unpack.compare y.toModel.unpack == some .lt) = true ↔ _
  exact beq_iff_eq

theorem lt_congr_right {x y z : Float} (same : (y == z) = true) : x < y ↔ x < z := by
  rw [lt_iff_compare, lt_iff_compare]
  rcases eq_or_zeros_of_compare (beq_iff_compare.mp same) with equal | ⟨⟨sign, left⟩, other, right⟩
  · rw [equal]
  · rw [left, right]
    cases x.toModel.unpack with
    | zero => rfl
    | notANumber => rfl
    | infinity sign => cases sign <;> rfl
    | finite sign => cases sign <;> rfl

end DesignToCode.Decimal
