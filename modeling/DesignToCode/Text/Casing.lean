import DesignToCode.Text.Casing.Table

/-!
Lower-casing by the full Unicode mapping.
-/

namespace DesignToCode.Text

def isCased (c : Char) : Bool :=
  if c.toNat < 128 then c.isAlpha else casedTable.contains c.toNat

def isCaseIgnorable (c : Char) : Bool :=
  if c.toNat < 128 then c ∈ ['\'', '.', ':', '^', '\x60'] else caseIgnorableTable.contains c.toNat

def lowerChar (c : Char) : List Char :=
  if c.toNat < 128 then [c.toLower]
  else if c.toNat = 0x130 then ['i', Char.ofNat 0x307]
  else
    match lowerTable.find? c.toNat with
    | none => [c]
    | some entry =>
      match entry.image with
      | [start] => [Char.ofNat (start + (c.toNat - entry.first))]
      | start :: step :: _ =>
        if (c.toNat - entry.first) % step = 0 then
          [Char.ofNat (start + (c.toNat - entry.first))]
        else [c]
      | [] => [c]

def meetsCased (cs : List Char) : Bool :=
  match cs.dropWhile isCaseIgnorable with
  | [] => false
  | c :: _ => isCased c

/-- Lower-cases the characters ahead; `behind` holds those already passed, nearest first. -/
def lowerFrom (behind : List Char) : List Char → List Char
  | [] => []
  | c :: ahead =>
    let here :=
      if c.toNat = 0x3A3 then
        if meetsCased behind && !meetsCased ahead then [Char.ofNat 0x3C2] else [Char.ofNat 0x3C3]
      else lowerChar c
    here ++ lowerFrom (c :: behind) ahead

def lower (text : String) : String :=
  String.ofList (lowerFrom [] text.toList)

end DesignToCode.Text
