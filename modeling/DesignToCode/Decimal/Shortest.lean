import DesignToCode.Decimal.Binary

/-!
The fewest decimal digits that read back as a given float, and of those the nearest to it.
-/

namespace DesignToCode.Decimal

structure Digits where
  digits : Nat
  exponent : Int
  deriving DecidableEq, Repr

def countDigits (n : Nat) : Nat :=
  (Nat.toDigits 10 n).length

def Digits.strip : Nat → Digits → Digits
  | 0, d => d
  | fuel + 1, d =>
    if d.digits ≠ 0 && d.digits % 10 = 0 then strip fuel ⟨d.digits / 10, d.exponent + 1⟩ else d

/-- The reals that round to one float: all between the bounds, over one denominator, and the bounds
themselves when `closed`. -/
structure Interval where
  low : Nat
  value : Nat
  high : Nat
  denominator : Nat
  closed : Bool

/-- Halfway to the neighbouring floats on each side. Below a power of two the neighbour is twice as
near, unless the float is among the smallest. -/
def Interval.around (significand : Nat) (exponent : Int) : Interval :=
  let scale := Nat.pow 2 (exponent - 2).toNat
  let below := if significand = Nat.pow 2 52 && exponent ≠ -1074 then 1 else 2
  { low := (4 * significand - below) * scale
    value := 4 * significand * scale
    high := (4 * significand + 2) * scale
    denominator := Nat.pow 2 (2 - exponent).toNat
    closed := significand % 2 = 0 }

def Interval.leading (i : Interval) : Int :=
  if i.denominator ≤ i.value then (countDigits (i.value / i.denominator) : Int) - 1
  else -(countDigits (i.denominator / i.value) : Int)

def Interval.holds (i : Interval) (digits up down : Nat) : Bool :=
  let point := digits * up * i.denominator
  if i.closed then i.low * down ≤ point && point ≤ i.high * down
  else i.low * down < point && point < i.high * down

def Interval.onGrid (i : Interval) (exponent : Int) : Option Digits :=
  let up := Nat.pow 10 exponent.toNat
  let down := Nat.pow 10 (-exponent).toNat
  let under := i.value * down / (i.denominator * up)
  let gapUnder := i.value * down - under * up * i.denominator
  let gapOver := (under + 1) * up * i.denominator - i.value * down
  match i.holds under up down, i.holds (under + 1) up down with
  | true, true =>
    if gapUnder < gapOver || (gapUnder = gapOver && under % 2 = 0) then some ⟨under, exponent⟩
    else some ⟨under + 1, exponent⟩
  | true, false => some ⟨under, exponent⟩
  | false, true => some ⟨under + 1, exponent⟩
  | false, false => none

def Interval.search (i : Interval) (exponent : Int) : Nat → Option Digits
  | 0 => none
  | fuel + 1 =>
    match i.onGrid exponent with
    | some found => some found
    | none => search i (exponent - 1) fuel

def shortest (significand : Nat) (exponent : Int) : Digits :=
  if significand = 0 then ⟨0, 0⟩
  else
    let i := Interval.around significand exponent
    match i.search i.leading 18 with
    | some found => found.strip 20
    | none => ⟨0, 0⟩

end DesignToCode.Decimal
