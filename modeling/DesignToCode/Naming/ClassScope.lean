import DesignToCode.Decimal.Written
import DesignToCode.Naming
import DesignToCode.Text.Casing

/-!
Class names of one element tree, compared without regard to case.
-/

namespace DesignToCode.Naming

structure ClassScope where
  taken : List String
  deriving DecidableEq, Repr

namespace ClassScope

open DesignToCode.Text

def empty : ClassScope :=
  ⟨[]⟩

def holds (scope : ClassScope) (name : String) : Bool :=
  scope.taken.contains (lower name)

def reserve (scope : ClassScope) (name : String) : ClassScope :=
  ⟨lower name :: scope.taken⟩

def reserveAll (scope : ClassScope) (names : List String) : ClassScope :=
  names.foldl reserve scope

def numbered (base : String) (number : Nat) : String :=
  base ++ Decimal.natText number

/-- The first free one of `base` with `number` and the numbers after it. Among one more candidates
than there are names taken, one is free. -/
def firstFree (scope : ClassScope) (base : String) (number : Nat) : Nat → String
  | 0 => numbered base number
  | fuel + 1 =>
    if scope.holds (numbered base number) then firstFree scope base (number + 1) fuel
    else numbered base number

def issue (scope : ClassScope) (name : String) : String :=
  let base := className name
  if scope.holds base then scope.firstFree base 2 scope.taken.length else base

def claim (scope : ClassScope) (name : String) : String × ClassScope :=
  let issued := scope.issue name
  (issued, scope.reserve issued)

end ClassScope

inductive ScopeRequest where
  | reserve (name : String)
  | claim (name : String)
  deriving DecidableEq, Repr

def ClassScope.answers (scope : ClassScope) : List ScopeRequest → List (Option String)
  | [] => []
  | .reserve name :: rest => none :: answers (scope.reserve name) rest
  | .claim name :: rest =>
    let (issued, next) := scope.claim name
    some issued :: answers next rest

end DesignToCode.Naming
