import DesignToCode.Naming
import DesignToCode.OrderedMap

/-!
Names of variants, `Size=Large, Kind=Primary`, as property values.
-/

namespace DesignToCode.VariantName

open DesignToCode.Text

def segments (name : String) : List (List Char) :=
  pieces (· == ',') name.toList

/-- A key and a value around `=`, without blanks at their ends; both have to be there. What follows
a second `=` does not count. -/
def assignment? (segment : List Char) : Option (String × String) :=
  match pieces (· == '=') segment with
  | key :: value :: _ =>
    let key := trimList key
    let value := trimList value
    if key.isEmpty || value.isEmpty then none
    else some (String.ofList key, String.ofList value)
  | _ => none

def parse (name : String) : OrderedMap String :=
  OrderedMap.ofList ((segments name).filterMap assignment?)

def dropped (name : String) : List String :=
  ((segments name).filter fun segment => (assignment? segment).isNone).map String.ofList

def display (values : OrderedMap String) : String :=
  join "" (values.values.map Naming.pascalCase)

end DesignToCode.VariantName
