import DesignToCode.Decimal.Written
import DesignToCode.OrderedMap

/-!
CSS declarations in the order in which they are written.
-/

namespace DesignToCode

inductive StyleValue where
  | text (value : String)
  | number (value : Float)
  deriving Repr, Inhabited

namespace StyleValue

/-- Numbers compare as numbers and never equal a text. -/
def same : StyleValue → StyleValue → Bool
  | .text a, .text b => a == b
  | .number a, .number b => a == b
  | _, _ => false

instance : BEq StyleValue :=
  ⟨same⟩

def display : StyleValue → String
  | .text value => value
  | .number value => Decimal.plain value

end StyleValue

abbrev StyleMap := OrderedMap StyleValue

namespace StyleMap

def one (property : String) (value : StyleValue) : StyleMap :=
  OrderedMap.empty.insert property value

def text (property value : String) : StyleMap :=
  one property (.text value)

def textWhen (property : String) (value : Option String) : StyleMap :=
  match value with
  | some value => text property value
  | none => .empty

end StyleMap

end DesignToCode
