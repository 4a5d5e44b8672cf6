import DesignToCode.Proofs.Naming.Claims

/-!
Reservations and claims in any order.
-/

namespace DesignToCode.Naming

open DesignToCode.Text

def IsFree (used : List String) (name : String) : Prop :=
  ∀ other ∈ used, lower other ≠ lower name

/-- The first free one of a name and the same name with the numbers from 2 on. -/
inductive FirstFree (used : List String) (base : String) : String → Prop
  | unnumbered : IsFree used base → FirstFree used base base
  | numbered {number : Nat} : ¬IsFree used base → 2 ≤ number → number ≤ used.length + 2 →
      IsFree used (ClassScope.numbered base number) →
      (∀ smaller, 2 ≤ smaller → smaller < number →
        ¬IsFree used (ClassScope.numbered base smaller)) →
      FirstFree used base (ClassScope.numbered base number)

theorem FirstFree.isFree {used : List String} {base issued : String}
    (first : FirstFree used base issued) : IsFree used issued := by
  cases first with
  | unnumbered free => exact free
  | numbered _ _ _ free _ => exact free

def spent : List ScopeRequest → List (Option String) → List String
  | .reserve name :: requests, _ :: answers => name :: spent requests answers
  | .claim _ :: requests, some issued :: answers => issued :: spent requests answers
  | _, _ => []

namespace ClassScope

def afterAll (scope : ClassScope) : List ScopeRequest → ClassScope
  | [] => scope
  | .reserve name :: rest => (scope.reserve name).afterAll rest
  | .claim name :: rest => (scope.claim name).2.afterAll rest

theorem answers_append (scope : ClassScope) (first second : List ScopeRequest) :
    scope.answers (first ++ second) =
      scope.answers first ++ (scope.afterAll first).answers second := by
  induction first generalizing scope with
  | nil => rfl
  | cons request rest ih =>
      cases request with
      | reserve name => simp only [List.cons_append, answers, afterAll, ih]
      | claim name => simp only [List.cons_append, answers, afterAll, ih]

theorem length_answers (scope : ClassScope) (requests : List ScopeRequest) :
    (scope.answers requests).length = requests.length := by
  induction requests generalizing scope with
  | nil => rfl
  | cons request rest ih =>
      cases request with
      | reserve name => simp only [answers, List.length_cons, ih]
      | claim name => simp only [answers, List.length_cons, ih]

theorem mem_spent_of_reserve {scope : ClassScope} {requests : List ScopeRequest} {name : String}
    (member : .reserve name ∈ requests) : name ∈ spent requests (scope.answers requests) := by
  induction requests generalizing scope with
  | nil => cases member
  | cons request rest ih =>
      cases request with
      | reserve other =>
          simp only [List.mem_cons, ScopeRequest.reserve.injEq] at member
          rcases member with rfl | later
          · exact List.mem_cons_self
          · exact List.mem_cons_of_mem _ (ih later)
      | claim other =>
          simp only [List.mem_cons, reduceCtorEq, false_or] at member
          exact List.mem_cons_of_mem _ (ih member)

theorem spent_answers_append (scope : ClassScope) (requests : List ScopeRequest)
    (later : List (Option String)) :
    spent requests (scope.answers requests ++ later) = spent requests (scope.answers requests) := by
  induction requests generalizing scope with
  | nil => cases later <;> rfl
  | cons request rest ih =>
      cases request with
      | reserve name => simp only [answers, List.cons_append, spent, ih]
      | claim name => simp only [answers, List.cons_append, spent, ih]

theorem taken_afterAll (scope : ClassScope) (requests : List ScopeRequest) :
    (scope.afterAll requests).taken =
      ((spent requests (scope.answers requests)).map lower).reverse ++ scope.taken := by
  induction requests generalizing scope with
  | nil => rfl
  | cons request rest ih =>
      cases request with
      | reserve name => simp [answers, afterAll, spent, ih, reserve]
      | claim name => simp [answers, afterAll, spent, ih, claim, reserve]

theorem holds_afterAll_empty (requests : List ScopeRequest) (name : String) :
    (empty.afterAll requests).holds name = false ↔
      IsFree (spent requests (empty.answers requests)) name := by
  rw [Bool.eq_false_iff, ne_eq, holds_iff, taken_afterAll]
  simp [empty, IsFree]

theorem issue_firstFree {scope : ClassScope} {used : List String}
    (same : ∀ name, scope.holds name = false ↔ IsFree used name)
    (size : scope.taken.length = used.length) (name : String) :
    FirstFree used (className name) (scope.issue name) := by
  rw [issue]
  by_cases taken : scope.holds (className name) = true
  · rw [if_pos taken]
    obtain ⟨step, bound, found, before, _⟩ :=
      firstFree_stops scope (className name) 2 scope.taken.length
    have free := holds_firstFree scope (isPlain_className name) 2
    rw [found] at free ⊢
    have isTaken {other : String} (holds : scope.holds other = true) : ¬IsFree used other := by
      rw [← same, holds]
      decide
    refine .numbered (isTaken taken) (by omega) (by omega) ((same _).mp free) ?_
    intro smaller atLeast early
    have earlier := before (smaller - 2) (by omega)
    rw [Nat.add_sub_cancel' atLeast] at earlier
    exact isTaken earlier
  · rw [if_neg taken]
    exact .unnumbered ((same _).mp (by simpa using taken))

end ClassScope

open ClassScope

/-- Every claim is answered with the first free form of its class name, so the issued names differ
from each other and from every name reserved before, ignoring case. -/
theorem answers_firstFree (requests : List ScopeRequest) :
    let answers := ClassScope.empty.answers requests
    answers.length = requests.length ∧ ((answers.filterMap id).map lower).Nodup ∧
    ∀ before name after, requests = before ++ .claim name :: after →
      ∃ issued, answers[before.length]? = some (some issued) ∧
        (∀ reserved, .reserve reserved ∈ before → lower reserved ≠ lower issued) ∧
        FirstFree (spent before answers) (className name) issued := by
  intro answers
  refine ⟨length_answers empty requests, nodup_answers empty requests, ?_⟩
  rintro before name after rfl
  have split : answers = empty.answers before ++
      (empty.afterAll before).answers (.claim name :: after) := answers_append empty before _
  have first : FirstFree (spent before (empty.answers before)) (className name)
      ((empty.afterAll before).issue name) := by
    refine issue_firstFree (holds_afterAll_empty before) ?_ name
    rw [taken_afterAll]
    simp [empty]
  refine ⟨(empty.afterAll before).issue name, ?_, ?_, ?_⟩
  · rw [split, ← length_answers empty before, List.getElem?_append_right (Nat.le_refl _),
      Nat.sub_self]
    rfl
  · intro reserved member
    exact first.isFree reserved (mem_spent_of_reserve member)
  · rw [split, spent_answers_append]
    exact first

def labelRequests : List ScopeRequest :=
  [.claim "label", .reserve "LABEL2", .claim "Label!", .claim "label 3", .claim "LABEL"]

theorem answers_firstFree_labels :
    labelRequests = [.claim "label", .reserve "LABEL2"] ++ .claim "Label!" ::
      [.claim "label 3", .claim "LABEL"] ∧
    ClassScope.empty.answers labelRequests =
      [some "label", none, some "label3", some "label32", some "label4"] ∧
    FirstFree ["label", "LABEL2"] "label" "label3" := by
  have answered : ClassScope.empty.answers labelRequests =
      [some "label", none, some "label3", some "label32", some "label4"] := by
    decide +kernel
  have split : labelRequests = [.claim "label", .reserve "LABEL2"] ++ .claim "Label!" ::
      [.claim "label 3", .claim "LABEL"] := by rfl
  obtain ⟨_, _, claims⟩ := answers_firstFree labelRequests
  obtain ⟨issued, isAnswer, _, first⟩ := claims _ _ _ split
  rw [answered] at isAnswer first
  obtain rfl : "label3" = issued := by simpa using isAnswer
  have base : className "Label!" = "label" := by decide +kernel
  rw [base] at first
  exact ⟨split, answered, first⟩

end DesignToCode.Naming
