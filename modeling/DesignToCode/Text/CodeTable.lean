import DesignToCode.Text.Pieces

/-!
Tables over code points, written as text in ascending order: single ones as `AD`, spans as
`600-605`, and images after them as `FB01=66.69`.
-/

namespace DesignToCode.Text

structure CodeTable.Entry where
  first : Nat
  last : Nat
  image : List Nat
  deriving Repr, Inhabited

structure CodeTable where
  entries : Array CodeTable.Entry

namespace CodeTable

def hexDigit (c : Char) : Nat :=
  if c.isDigit then c.toNat - 48 else c.toNat - 55

def hexNumber (cs : List Char) : Nat :=
  cs.foldl (fun n c => 16 * n + hexDigit c) 0

def splitAtMark (mark : Char) (cs : List Char) : List Char × List Char :=
  (cs.takeWhile (· != mark), (cs.dropWhile (· != mark)).drop 1)

def Entry.ofToken (token : List Char) : Entry :=
  let (span, image) := splitAtMark '=' token
  let (first, last) := splitAtMark '-' span
  { first := hexNumber first
    last := if last.isEmpty then hexNumber first else hexNumber last
    image := if image.isEmpty then [] else (pieces (· == '.') image).map hexNumber }

def ofText (text : String) : CodeTable :=
  let tokens := (text.splitOn "\n").flatMap fun line => pieces (· == ' ') line.toList
  ⟨((tokens.filter (!·.isEmpty)).map Entry.ofToken).toArray⟩

def search (table : CodeTable) (code low high : Nat) : Option Entry :=
  if low < high then
    let middle := (low + high) / 2
    match table.entries[middle]? with
    | none => none
    | some entry =>
      if code < entry.first then search table code low middle
      else if entry.last < code then search table code (middle + 1) high
      else some entry
  else none
termination_by high - low

def find? (table : CodeTable) (code : Nat) : Option Entry :=
  table.search code 0 table.entries.size

def contains (table : CodeTable) (code : Nat) : Bool :=
  (table.find? code).isSome

end CodeTable

end DesignToCode.Text
