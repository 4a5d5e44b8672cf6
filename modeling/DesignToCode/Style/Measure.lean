import DesignToCode.Decimal.Written
import DesignToCode.Design.Node
import DesignToCode.Text.Pieces

/-!
Lengths and colours as CSS writes them.
-/

namespace DesignToCode.Style

open DesignToCode.Text

def px (x : Float) : String :=
  Decimal.plain x ++ "px"

/-- Two decimal places, a half goes up, and zero has no sign. -/
def round2 (x : Float) : Float :=
  Decimal.floor (x * 100.0 + 0.5) / 100.0 + 0.0

def channel (x : Float) : Nat :=
  let scaled := Decimal.floor (x * 255.0 + 0.5)
  if scaled < 0.0 then 0 else if scaled > 255.0 then 255 else scaled.toUInt8.toNat

def hexByte (n : Nat) : String :=
  String.ofList [Nat.digitChar (n / 16), Nat.digitChar (n % 16)]

def cssColor (color : Color) (alpha : Float) : String :=
  let red := channel color.red
  let green := channel color.green
  let blue := channel color.blue
  let rounded := round2 alpha
  if rounded == 1.0 then "#" ++ hexByte red ++ hexByte green ++ hexByte blue
  else
    "rgba(" ++ join ", " [Decimal.natText red, Decimal.natText green, Decimal.natText blue,
      Decimal.plain rounded] ++ ")"

end DesignToCode.Style
