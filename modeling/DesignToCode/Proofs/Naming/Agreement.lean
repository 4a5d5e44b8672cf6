import DesignToCode.Proofs.Naming.Claims

/-!
Two scopes side by side that differ in two names only.
-/

namespace DesignToCode.Naming.ClassScope

open DesignToCode.Text

def candidate (base : String) : Nat → String
  | 0 => base
  | step + 1 => numbered base (step + 2)

theorem issue_first_free (scope : ClassScope) (name : String) :
    ∃ step, scope.issue name = candidate (className name) step ∧
      ∀ earlier < step, scope.holds (candidate (className name) earlier) = true := by
  rw [issue]
  by_cases taken : scope.holds (className name) = true
  · obtain ⟨step, _, found, before, _⟩ :=
      firstFree_stops scope (className name) 2 scope.taken.length
    refine ⟨step + 1, ?_, ?_⟩
    · rw [if_pos taken, found, candidate, Nat.add_comm]
    · intro earlier early
      cases earlier with
      | zero => exact taken
      | succ earlier =>
          rw [candidate, Nat.add_comm]
          exact before earlier (by omega)
  · refine ⟨0, by rw [if_neg taken, candidate], ?_⟩
    intro earlier impossible
    omega

theorem issue_eq_of_free {first second : ClassScope} {name : String}
    (freeInSecond : second.holds (first.issue name) = false)
    (freeInFirst : first.holds (second.issue name) = false) :
    first.issue name = second.issue name := by
  obtain ⟨step, found, before⟩ := issue_first_free first name
  obtain ⟨step', found', before'⟩ := issue_first_free second name
  rw [found] at freeInSecond
  rw [found'] at freeInFirst
  have notLater : ¬step' < step := by
    intro early
    rw [before step' early] at freeInFirst
    contradiction
  have notEarlier : ¬step < step' := by
    intro early
    rw [before' step early] at freeInSecond
    contradiction
  have same : step = step' := by omega
  rw [found, found', same]

/-- One scope holds `mine` and the other `yours`, and in all else they agree. -/
structure AgreeExcept (first second : ClassScope) (mine yours : String) : Prop where
  holdsMine : first.holds mine = true
  holdsYours : second.holds yours = true
  agree : ∀ name, lower name ≠ lower mine → lower name ≠ lower yours →
    first.holds name = second.holds name

namespace AgreeExcept

variable {first second : ClassScope} {mine yours : String}

theorem ofReserve (scope : ClassScope) (mine yours : String) :
    AgreeExcept (scope.reserve mine) (scope.reserve yours) mine yours where
  holdsMine := (holds_reserve scope mine mine).mpr (Or.inl rfl)
  holdsYours := (holds_reserve scope yours yours).mpr (Or.inl rfl)
  agree := by
    intro name notMine notYours
    rw [Bool.eq_iff_iff, holds_reserve, holds_reserve]
    simp only [notMine, notYours, false_or]

theorem reserve (both : AgreeExcept first second mine yours) (issued : String) :
    AgreeExcept (first.reserve issued) (second.reserve issued) mine yours where
  holdsMine := (holds_reserve first issued mine).mpr (Or.inr both.holdsMine)
  holdsYours := (holds_reserve second issued yours).mpr (Or.inr both.holdsYours)
  agree := by
    intro name notMine notYours
    rw [Bool.eq_iff_iff, holds_reserve, holds_reserve, both.agree name notMine notYours]

theorem symm (both : AgreeExcept first second mine yours) :
    AgreeExcept second first yours mine where
  holdsMine := both.holdsYours
  holdsYours := both.holdsMine
  agree := fun name notYours notMine => (both.agree name notMine notYours).symm

theorem holds_issue (both : AgreeExcept first second mine yours) {name : String}
    (notYours : lower (first.issue name) ≠ lower yours) :
    second.holds (first.issue name) = false := by
  have free := ClassScope.holds_issue first name
  have notMine : lower (first.issue name) ≠ lower mine := by
    intro same
    rw [(holds_iff _ _).mpr (same ▸ (holds_iff _ _).mp both.holdsMine)] at free
    contradiction
  rw [← both.agree _ notMine notYours]
  exact free

theorem issue_eq (both : AgreeExcept first second mine yours) {name : String}
    (notYours : lower (first.issue name) ≠ lower yours)
    (notMine : lower (second.issue name) ≠ lower mine) :
    first.issue name = second.issue name :=
  issue_eq_of_free (both.holds_issue notYours) (both.symm.holds_issue notMine)

end AgreeExcept

end DesignToCode.Naming.ClassScope
