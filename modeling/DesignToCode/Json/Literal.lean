import DesignToCode.Json.Value

/-!
Number and string literals, which can be passed over without being evaluated.
-/

namespace DesignToCode.Json

structure NumberLiteral where
  negative : Bool
  whole : List Char
  fraction : Option (List Char)
  exponent : Option (Bool × List Char)
  deriving DecidableEq, Repr

def digitValue (c : Char) : Nat :=
  c.toNat - 48

def scanDigits (cs : List Char) : Except Fault (List Char × List Char) :=
  match cs with
  | [] => .error .incomplete
  | c :: _ =>
    if c.isDigit then .ok (cs.takeWhile Char.isDigit, cs.dropWhile Char.isDigit)
    else .error .malformed

def scanWhole (cs : List Char) : Except Fault (List Char × List Char) :=
  match cs with
  | '0' :: next :: rest =>
    if next.isDigit then .error .malformed else .ok (['0'], next :: rest)
  | _ => scanDigits cs

def scanFraction (cs : List Char) : Except Fault (Option (List Char) × List Char) :=
  match cs with
  | '.' :: rest => (scanDigits rest).map fun (digits, rest) => (some digits, rest)
  | _ => .ok (none, cs)

def scanExponent (cs : List Char) : Except Fault (Option (Bool × List Char) × List Char) :=
  let digitsOf (negative : Bool) (rest : List Char) :=
    (scanDigits rest).map fun (digits, rest) => (some (negative, digits), rest)
  match cs with
  | c :: rest =>
    if c == 'e' || c == 'E' then
      match rest with
      | '+' :: rest => digitsOf false rest
      | '-' :: rest => digitsOf true rest
      | _ => digitsOf false rest
    else .ok (none, cs)
  | [] => .ok (none, cs)

def scanNumber (cs : List Char) : Except Fault (NumberLiteral × List Char) := do
  let (negative, cs) :=
    match cs with
    | '-' :: rest => (true, rest)
    | _ => (false, cs)
  let (whole, cs) ← scanWhole cs
  let (fraction, cs) ← scanFraction cs
  let (exponent, cs) ← scanExponent cs
  return (⟨negative, whole, fraction, exponent⟩, cs)

def largestWord : Nat := Nat.pow 2 64 - 1

def gather (significand : Nat) : List Char → Nat × List Char
  | [] => (significand, [])
  | c :: rest =>
    let next := 10 * significand + digitValue c
    if largestWord < next then (significand, c :: rest) else gather next rest

def powerOfTen (n : Nat) : Float :=
  Float.ofScientific 1 false n

def scale (x : Float) (power : Int) : Nat → Option Float
  | 0 => some x
  | fuel + 1 =>
    if power.natAbs ≤ 308 then
      if 0 ≤ power then
        let scaled := x * powerOfTen power.natAbs
        if scaled.isInf then none else some scaled
      else some (x / powerOfTen power.natAbs)
    else if x == 0 then some x
    else if 0 ≤ power then none
    else scale (x / powerOfTen 308) (power + 308) fuel

def largestExponent : Nat := Nat.pow 2 31 - 1

def NumberLiteral.magnitude? (literal : NumberLiteral) : Option Float :=
  let (significand, dropped) := gather 0 literal.whole
  let (significand, unread) := gather significand (literal.fraction.getD [])
  let places := (literal.fraction.getD []).length - unread.length
  let start : Int := (dropped.length : Int) - places
  let x := significand.toUInt64.toFloat
  match literal.exponent with
  | none => scale x start (start.natAbs + 1)
  | some (negative, digits) =>
    let size := digits.foldl (fun n c => 10 * n + digitValue c) 0
    if largestExponent < size then
      if significand = 0 || negative then some 0 else none
    else
      let power := if negative then start - size else start + size
      scale x power (power.natAbs + 1)

/-- Whole literals that fit 64 bits are exact. Every other one is a significand of 64 bits scaled by
a power of ten, which need not be the nearest float. -/
def NumberLiteral.value (literal : NumberLiteral) : Except Fault JsonNumber :=
  let (significand, dropped) := gather 0 literal.whole
  let isWhole := literal.fraction.isNone && literal.exponent.isNone && dropped.isEmpty
  if isWhole && !literal.negative then .ok (.whole significand)
  else if isWhole && 0 < significand && significand ≤ Nat.pow 2 63 then
    .ok (.whole (-significand))
  else
    match literal.magnitude? with
    | none => .error .malformed
    | some x => .ok (.real (if literal.negative then -x else x))

def hexValue? (c : Char) : Option Nat :=
  if c.isDigit then some (c.toNat - 48)
  else if 'a' ≤ c && c ≤ 'f' then some (c.toNat - 87)
  else if 'A' ≤ c && c ≤ 'F' then some (c.toNat - 55)
  else none

def hexQuad? (a b c d : Char) : Option Nat := do
  return (((← hexValue? a) * 16 + (← hexValue? b)) * 16 + (← hexValue? c)) * 16 + (← hexValue? d)

def shortQuad (cs : List Char) : Fault :=
  if cs.foldl (fun n c => n + c.utf8Size) 0 < 4 then .incomplete else .malformed

def simpleEscape? : Char → Option Char
  | '"' => some '"'
  | '\\' => some '\\'
  | '/' => some '/'
  | 'b' => some '\x08'
  | 'f' => some '\x0c'
  | 'n' => some '\n'
  | 'r' => some '\r'
  | 't' => some '\t'
  | _ => none

def skipString : List Char → Except Fault (List Char)
  | [] => .error .incomplete
  | '"' :: rest => .ok rest
  | '\\' :: 'u' :: a :: b :: c :: d :: rest =>
    if (hexQuad? a b c d).isSome then skipString rest else .error (shortQuad [a, b, c, d])
  | '\\' :: 'u' :: rest => .error (shortQuad rest)
  | ['\\'] => .error .incomplete
  | '\\' :: e :: rest => if (simpleEscape? e).isSome then skipString rest else .error .malformed
  | c :: rest => if c.toNat < 32 then .error .malformed else skipString rest

def isLeading (unit : Nat) : Bool :=
  0xD800 ≤ unit && unit ≤ 0xDBFF

def isTrailing (unit : Nat) : Bool :=
  0xDC00 ≤ unit && unit ≤ 0xDFFF

def trailingUnit (cs : List Char) : Except Fault Nat :=
  match cs with
  | [] => .error .incomplete
  | ['\\'] => .error .incomplete
  | '\\' :: 'u' :: a :: b :: c :: d :: _ =>
    match hexQuad? a b c d with
    | none => .error .malformed
    | some unit => if isTrailing unit then .ok unit else .error .malformed
  | '\\' :: 'u' :: rest => .error (shortQuad rest)
  | _ => .error .malformed

def readString (done : List Char) : List Char → Except Fault String
  | [] => .error .incomplete
  | '"' :: _ => .ok (String.ofList done.reverse)
  | '\\' :: 'u' :: a :: b :: c :: d :: rest =>
    match hexQuad? a b c d with
    | none => .error (shortQuad [a, b, c, d])
    | some unit =>
      if isTrailing unit then .error .malformed
      else if isLeading unit then
        match trailingUnit rest with
        | .error fault => .error fault
        | .ok second =>
          let code := (unit - 0xD800) * 0x400 + (second - 0xDC00) + 0x10000
          readString (Char.ofNat code :: done) (rest.drop 6)
      else readString (Char.ofNat unit :: done) rest
  | '\\' :: 'u' :: rest => .error (shortQuad rest)
  | ['\\'] => .error .incomplete
  | '\\' :: e :: rest =>
    match simpleEscape? e with
    | none => .error .malformed
    | some c => readString (c :: done) rest
  | c :: rest => if c.toNat < 32 then .error .malformed else readString (c :: done) rest
termination_by cs => cs.length

end DesignToCode.Json
