import DesignToCode.Decimal.Shortest

/-!
How a float is written in generated text and in JSON.
-/

namespace DesignToCode.Decimal

def digitText (n : Nat) : List Char :=
  Nat.toDigits 10 n

def natText (n : Nat) : String :=
  String.ofList (digitText n)

def zeros (n : Nat) : List Char :=
  List.replicate n '0'

def positional (whole : List Char) (d : Digits) : List Char :=
  let text := digitText d.digits
  if 0 ≤ d.exponent then text ++ zeros d.exponent.toNat ++ whole
  else
    let places := (-d.exponent).toNat
    if places < text.length then
      text.take (text.length - places) ++ '.' :: text.drop (text.length - places)
    else '0' :: '.' :: zeros (places - text.length) ++ text

def Digits.leading (d : Digits) : Int :=
  d.exponent + (digitText d.digits).length - 1

def signText (negative : Bool) : List Char :=
  if negative then ['-'] else []

def plain (x : Float) : String :=
  match Binary.ofFloat x with
  | .nan => "NaN"
  | .infinite negative => String.ofList (signText negative ++ ['i', 'n', 'f'])
  | .finite negative significand exponent =>
    String.ofList (signText negative ++ positional [] (shortest significand exponent))

def scientific (d : Digits) : List Char :=
  let mantissa :=
    match digitText d.digits with
    | first :: next :: rest => first :: '.' :: next :: rest
    | text => text
  let power := d.leading
  mantissa ++ ['e', if power < 0 then '-' else '+'] ++ digitText power.natAbs

/-- Always a point or an exponent: positional from `0.00001` up to below `10 ^ 16`, else scientific.
Numbers that are not finite have no JSON form. -/
def jsonText? (x : Float) : Option String :=
  match Binary.ofFloat x with
  | .finite negative significand exponent =>
    let d := shortest significand exponent
    let body :=
      if -5 ≤ d.leading && d.leading < 16 then positional ['.', '0'] d else scientific d
    some (String.ofList (signText negative ++ body))
  | _ => none

end DesignToCode.Decimal
