import DesignToCode.Text.Quoted.Table

/-!
A text between double quotes with everything that could not be told apart on a screen written as an
escape.
-/

namespace DesignToCode.Text

def hexText (n : Nat) : String :=
  String.ofList (Nat.toDigits 16 n)

def isShown (c : Char) : Bool :=
  if c.toNat < 128 then 32 ≤ c.toNat && c.toNat < 127
  else !graphemeExtendTable.contains c.toNat && !unprintableTable.contains c.toNat

def quotedChar (c : Char) : String :=
  if c = '"' then "\\\""
  else if c = '\\' then "\\\\"
  else if c = '\n' then "\\n"
  else if c = '\r' then "\\r"
  else if c = '\t' then "\\t"
  else if c.toNat = 0 then "\\0"
  else if isShown c then c.toString
  else "\\u\x7b" ++ hexText c.toNat ++ "\x7d"

def quoted (text : String) : String :=
  "\"" ++ join "" (text.toList.map quotedChar) ++ "\""

end DesignToCode.Text
