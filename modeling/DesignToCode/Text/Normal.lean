import DesignToCode.Text.Normal.Table

/-!
The compatibility normal form of Unicode (NFKC).
-/

namespace DesignToCode.Text

def combiningClass (c : Char) : Nat :=
  if c.toNat < 0x300 then 0
  else
    match combiningClassTable.find? c.toNat with
    | some { image := [order], .. } => order
    | _ => 0

def decomposeHangul (index : Nat) : List Char :=
  let start := [Char.ofNat (0x1100 + index / 588), Char.ofNat (0x1161 + index % 588 / 28)]
  if index % 28 = 0 then start else start ++ [Char.ofNat (0x11A7 + index % 28)]

def decompose (c : Char) : List Char :=
  let code := c.toNat
  if code < 0xA0 then [c]
  else if 0xAC00 ≤ code && code ≤ 0xD7A3 then decomposeHangul (code - 0xAC00)
  else
    match decompositionTable.find? code with
    | none => [c]
    | some entry =>
      match entry.image with
      | [start] => [Char.ofNat (start + (code - entry.first))]
      | image => image.map Char.ofNat

def insertMark (mark : Char × Nat) : List (Char × Nat) → List (Char × Nat)
  | [] => [mark]
  | other :: rest =>
    if mark.2 < other.2 then mark :: other :: rest else other :: insertMark mark rest

def reorder (marks : List (Char × Nat)) : List Char → List (Char × Nat)
  | [] => marks
  | c :: rest =>
    let order := combiningClass c
    if order = 0 then marks ++ (c, 0) :: reorder [] rest
    else reorder (insertMark (c, order) marks) rest

def imageOfSecond (second : Nat) : List Nat → Option Nat
  | candidate :: composite :: rest =>
    if candidate = second then some composite else imageOfSecond second rest
  | _ => none

def composite? (first second : Char) : Option Char :=
  let a := first.toNat
  let b := second.toNat
  if 0x1100 ≤ a && a < 0x1113 && 0x1161 ≤ b && b < 0x1176 then
    some (Char.ofNat (0xAC00 + ((a - 0x1100) * 21 + (b - 0x1161)) * 28))
  else if 0xAC00 ≤ a && a ≤ 0xD7A3 && (a - 0xAC00) % 28 = 0 && 0x11A8 ≤ b && b < 0x11C3 then
    some (Char.ofNat (a + (b - 0x11A7)))
  else
    match compositionTable.find? a with
    | none => none
    | some entry => (imageOfSecond b entry.image).map Char.ofNat

/-- Composes each starter with the marks that follow it. `starter` is the one being built, `passed`
holds in reverse the characters kept after it, and `last` is the class of the nearest of them. -/
def composeFrom (starter : Char) (passed : List Char) (last : Nat) :
    List (Char × Nat) → List Char
  | [] => starter :: passed.reverse
  | (c, order) :: rest =>
    let reachable := passed.isEmpty || (last < order)
    match (if reachable then composite? starter c else none) with
    | some joined => composeFrom joined passed last rest
    | none =>
      if order = 0 then starter :: (passed.reverse ++ composeFrom c [] 0 rest)
      else composeFrom starter (c :: passed) order rest

def composeAll : List (Char × Nat) → List Char
  | [] => []
  | (c, order) :: rest => if order = 0 then composeFrom c [] 0 rest else c :: composeAll rest

def compatible (cs : List Char) : List Char :=
  if cs.all (·.toNat < 128) then cs else composeAll (reorder [] (cs.flatMap decompose))

end DesignToCode.Text
