import DesignToCode.Decimal.Written
import DesignToCode.Text.Quoted

/-!
JSON values, and what can be wrong with one or with the text of one.
-/

namespace DesignToCode

inductive JsonNumber where
  | whole (value : Int)
  | real (value : Float)
  deriving Repr

/-- A record is a list of fields in order; values that come from a text name no field twice. -/
inductive Json where
  | null
  | flag (value : Bool)
  | number (value : JsonNumber)
  | text (value : String)
  | list (items : List Json)
  | record (fields : List (String × Json))
  deriving Repr, Inhabited

namespace JsonNumber

def toFloat : JsonNumber → Float
  | .whole (.ofNat n) => n.toUInt64.toFloat
  | .whole (.negSucc n) => -(n + 1).toUInt64.toFloat
  | .real x => x

def integerText : Int → String
  | .ofNat n => Decimal.natText n
  | .negSucc n => "-" ++ Decimal.natText (n + 1)

def describe : JsonNumber → String
  | .whole value => "integer \x60" ++ integerText value ++ "\x60"
  | .real x => "floating point \x60" ++ (Decimal.jsonText? x).getD "null" ++ "\x60"

end JsonNumber

namespace Json

inductive Found where
  | null
  | flag (value : Bool)
  | number (value : JsonNumber)
  | text (value : String)
  | list
  | record
  deriving Repr

def Found.describe : Found → String
  | .null => "null"
  | .flag value => "boolean \x60" ++ (if value then "true" else "false") ++ "\x60"
  | .number value => value.describe
  | .text value => "string " ++ Text.quoted value
  | .list => "sequence"
  | .record => "map"

inductive Mismatch where
  | wrongKind (found : Found) (expected : String)
  | missingField (name : String)
  | repeatedField (name : String)
  | tooFew (count : Nat) (expected : String)
  | tooMany (count : Nat)
  | notOneKey
  | noAlternative (choices : String)
  deriving Repr

def Mismatch.message : Mismatch → String
  | .wrongKind found expected => "invalid type: " ++ found.describe ++ ", expected " ++ expected
  | .missingField name => "missing field \x60" ++ name ++ "\x60"
  | .repeatedField name => "duplicate field \x60" ++ name ++ "\x60"
  | .tooFew count expected => "invalid length " ++ Decimal.natText count ++ ", expected " ++ expected
  | .tooMany count =>
    "invalid length " ++ Decimal.natText count ++ ", expected fewer elements in array"
  | .notOneKey => "invalid value: map, expected map with a single key"
  | .noAlternative choices => "data did not match any variant of untagged enum " ++ choices

inductive Fault where
  | incomplete
  | malformed
  | mismatch (reason : Mismatch)
  deriving Repr

end Json

end DesignToCode
