/-!
The exact value behind a float, and rounding it down.
-/

namespace DesignToCode.Decimal

/-- What a float stands for: `significand * 2 ^ exponent` when it is finite. -/
inductive Binary where
  | nan
  | infinite (negative : Bool)
  | finite (negative : Bool) (significand : Nat) (exponent : Int)
  deriving DecidableEq, Repr

def Binary.ofFloat (x : Float) : Binary :=
  let bits := x.toBits.toNat
  let negative := Nat.pow 2 63 ≤ bits
  let field : Nat := bits / Nat.pow 2 52 % 2048
  let fraction : Nat := bits % Nat.pow 2 52
  if field = 2047 then
    if fraction = 0 then .infinite negative else .nan
  else if field = 0 then .finite negative fraction (-1074)
  else .finite negative (Nat.pow 2 52 + fraction) ((field : Int) - 1075)

def floor (x : Float) : Float :=
  match Binary.ofFloat x with
  | .finite negative significand exponent =>
    let unit := Nat.pow 2 (-exponent).toNat
    if 0 ≤ exponent || significand % unit = 0 then x
    else if negative then -(Float.ofNat (significand / unit + 1))
    else Float.ofNat (significand / unit)
  | _ => x

end DesignToCode.Decimal
