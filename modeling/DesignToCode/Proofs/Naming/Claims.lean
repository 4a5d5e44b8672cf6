import DesignToCode.Proofs.Naming.Plain

/-!
What a scope issues.
-/

namespace DesignToCode.Naming.ClassScope

open DesignToCode.Text

theorem holds_iff (scope : ClassScope) (name : String) :
    scope.holds name = true ↔ lower name ∈ scope.taken := by
  simp [holds]

@[simp] theorem holds_empty (name : String) : empty.holds name = false := by
  simp [holds, empty]

theorem holds_reserve (scope : ClassScope) (name other : String) :
    (scope.reserve name).holds other = true ↔
      lower other = lower name ∨ scope.holds other = true := by
  simp [holds_iff, reserve]

theorem holds_reserveAll (scope : ClassScope) (names : List String) (other : String) :
    (scope.reserveAll names).holds other = true ↔
      (∃ name ∈ names, lower other = lower name) ∨ scope.holds other = true := by
  induction names generalizing scope with
  | nil => simp [reserveAll]
  | cons name rest ih =>
      rw [reserveAll, List.foldl_cons, ← reserveAll, ih, holds_reserve]
      simp only [List.mem_cons, exists_eq_or_imp]
      constructor
      · rintro (later | same | before)
        · exact Or.inl (Or.inr later)
        · exact Or.inl (Or.inl same)
        · exact Or.inr before
      · rintro ((same | later) | before)
        · exact Or.inr (Or.inl same)
        · exact Or.inl later
        · exact Or.inr (Or.inr before)

theorem isPlain_numbered {base : String} (plain : IsPlain base) (number : Nat) :
    IsPlain (numbered base number) :=
  isPlain_append plain (isPlain_natText number)

theorem numbered_injective {base : String} {first second : Nat}
    (same : numbered base first = numbered base second) : first = second := by
  have texts := congrArg String.toList same
  simp only [numbered, Decimal.natText, Decimal.digitText, String.toList_append,
    String.toList_ofList, List.append_cancel_left_eq] at texts
  have values := congrArg (fun digits => Nat.ofDigitChars 10 digits 0) texts
  simpa using values

theorem map_toLower_toDigits (number : Nat) :
    (Nat.toDigits 10 number).map Char.toLower = Nat.toDigits 10 number := by
  have fixed : ∀ c ∈ Nat.toDigits 10 number, c.toLower = id c := by
    intro c found
    have digit := Nat.isDigit_of_mem_toDigits (by decide) (by decide) found
    have plain : c.isAlphanum = true := by simp [Char.isAlphanum, digit]
    have checked := of_ascii (fun c => !c.isDigit || c.toLower == c) (by decide)
      (ascii_of_isAlphanum plain)
    simpa [digit] using checked
  rw [List.map_congr_left fixed, List.map_id]

theorem lower_numbered {base : String} (plain : IsPlain base) (number : Nat) :
    lower (numbered base number) = numbered (lower base) number := by
  rw [lower_of_isPlain (isPlain_numbered plain number), lower_of_isPlain plain]
  simp only [numbered, Decimal.natText, Decimal.digitText, String.toList_append,
    String.toList_ofList, List.map_append, map_toLower_toDigits, String.ofList_append]

theorem firstFree_stops (scope : ClassScope) (base : String) (number fuel : Nat) :
    ∃ step ≤ fuel, scope.firstFree base number fuel = numbered base (number + step) ∧
      (∀ earlier < step, scope.holds (numbered base (number + earlier)) = true) ∧
      (step < fuel → scope.holds (numbered base (number + step)) = false) := by
  induction fuel generalizing number with
  | zero =>
      refine ⟨0, Nat.le_refl 0, rfl, ?_, ?_⟩
      · intro earlier impossible
        omega
      · intro impossible
        omega
  | succ fuel ih =>
      rw [firstFree]
      by_cases taken : scope.holds (numbered base number) = true
      · obtain ⟨step, bound, found, before, free⟩ := ih (number + 1)
        have shift (step : Nat) : number + 1 + step = number + (step + 1) := by omega
        simp only [shift] at found before free
        refine ⟨step + 1, by omega, ?_, ?_, ?_⟩
        · rw [if_pos taken, found]
        · intro earlier early
          cases earlier with
          | zero => exact taken
          | succ earlier => exact before earlier (by omega)
        · intro inside
          exact free (by omega)
      · refine ⟨0, by omega, ?_, ?_, ?_⟩
        · rw [if_neg taken]
          rfl
        · intro earlier impossible
          omega
        · intro _
          simpa using taken

theorem exists_free_number (scope : ClassScope) {base : String} (plain : IsPlain base)
    (number : Nat) :
    ∃ step ≤ scope.taken.length, scope.holds (numbered base (number + step)) = false := by
  refine Classical.byContradiction fun none => ?_
  let candidates := (List.range (scope.taken.length + 1)).map fun step =>
    lower (numbered base (number + step))
  have distinct : candidates.Nodup := by
    rw [List.nodup_iff_pairwise_ne, List.pairwise_map]
    refine List.Pairwise.imp ?_ (List.nodup_range (n := scope.taken.length + 1))
    intro first second different same
    rw [lower_numbered plain, lower_numbered plain] at same
    have equal := numbered_injective same
    omega
  have allTaken : candidates ⊆ scope.taken := by
    intro candidate member
    obtain ⟨step, inRange, rfl⟩ := List.mem_map.mp member
    have bound := List.mem_range.mp inRange
    rw [← holds_iff]
    refine Classical.byContradiction fun free => none ⟨step, by omega, ?_⟩
    simpa using free
  have tooMany := distinct.length_le_of_subset allTaken
  simp only [candidates, List.length_map, List.length_range] at tooMany
  omega

theorem holds_firstFree (scope : ClassScope) {base : String} (plain : IsPlain base)
    (number : Nat) :
    scope.holds (scope.firstFree base number scope.taken.length) = false := by
  obtain ⟨step, bound, found, before, free⟩ :=
    firstFree_stops scope base number scope.taken.length
  rw [found]
  by_cases inside : step < scope.taken.length
  · exact free inside
  · obtain ⟨other, otherBound, isFree⟩ := exists_free_number scope plain number
    have notEarlier : ¬other < step := by
      intro early
      rw [before other early] at isFree
      contradiction
    have same : other = step := by omega
    rw [← same]
    exact isFree

theorem holds_issue (scope : ClassScope) (name : String) :
    scope.holds (scope.issue name) = false := by
  rw [issue]
  split
  · exact holds_firstFree scope (isPlain_className name) 2
  · rename_i free
    simpa using free

theorem free_before_reserve {scope : ClassScope} {name other : String}
    (free : (scope.reserve name).holds other = false) :
    lower other ≠ lower name ∧ scope.holds other = false := by
  simp only [Bool.eq_false_iff, ne_eq, holds_reserve, not_or] at free
  exact ⟨free.1, Bool.eq_false_iff.mpr free.2⟩

theorem free_before_claim {scope : ClassScope} {name other : String}
    (free : (scope.claim name).2.holds other = false) :
    lower other ≠ lower (scope.claim name).1 ∧ scope.holds other = false :=
  free_before_reserve free

theorem holds_of_mem_answers {scope : ClassScope} {requests : List ScopeRequest} {issued : String}
    (member : some issued ∈ scope.answers requests) : scope.holds issued = false := by
  induction requests generalizing scope with
  | nil => simp [answers] at member
  | cons request rest ih =>
      cases request with
      | reserve name =>
          simp only [answers, List.mem_cons, reduceCtorEq, false_or] at member
          exact (free_before_reserve (ih member)).2
      | claim name =>
          simp only [answers, List.mem_cons, Option.some.injEq] at member
          rcases member with same | later
          · rw [same]
            exact holds_issue scope name
          · exact (free_before_claim (ih later)).2

theorem nodup_answers (scope : ClassScope) (requests : List ScopeRequest) :
    (((scope.answers requests).filterMap id).map lower).Nodup := by
  induction requests generalizing scope with
  | nil => simp [answers]
  | cons request rest ih =>
      cases request with
      | reserve name => simpa [answers] using ih (scope.reserve name)
      | claim name =>
          change (lower (scope.claim name).1 ::
            (((scope.claim name).2.answers rest).filterMap id).map lower).Nodup
          rw [List.nodup_cons]
          refine ⟨?_, ih _⟩
          intro again
          obtain ⟨issued, member, same⟩ := List.mem_map.mp again
          have issuedLater : some issued ∈ (scope.claim name).2.answers rest := by
            simpa using member
          exact (free_before_claim (holds_of_mem_answers issuedLater)).1 same

def claimAll (scope : ClassScope) : List String → List String × ClassScope
  | [] => ([], scope)
  | name :: rest =>
    let first := scope.claim name
    let later := first.2.claimAll rest
    (first.1 :: later.1, later.2)

theorem claimAll_append (scope : ClassScope) (first second : List String) :
    scope.claimAll (first ++ second) =
      ((scope.claimAll first).1 ++ ((scope.claimAll first).2.claimAll second).1,
        ((scope.claimAll first).2.claimAll second).2) := by
  induction first generalizing scope with
  | nil => rfl
  | cons name rest ih => simp only [List.cons_append, claimAll, ih]

theorem map_some_claimAll (scope : ClassScope) (names : List String) :
    (scope.claimAll names).1.map some = scope.answers (names.map .claim) := by
  induction names generalizing scope with
  | nil => rfl
  | cons name rest ih =>
      change some (scope.claim name).1 :: ((scope.claim name).2.claimAll rest).1.map some =
        some (scope.claim name).1 :: (scope.claim name).2.answers (rest.map .claim)
      rw [ih]

theorem holds_of_mem_claimAll {scope : ClassScope} {names : List String} {issued : String}
    (member : issued ∈ (scope.claimAll names).1) : scope.holds issued = false := by
  have isAnswer := List.mem_map_of_mem (f := some) member
  rw [map_some_claimAll] at isAnswer
  exact holds_of_mem_answers isAnswer

theorem nodup_claimAll (scope : ClassScope) (names : List String) :
    ((scope.claimAll names).1.map lower).Nodup := by
  have distinct := nodup_answers scope (names.map .claim)
  rw [← map_some_claimAll] at distinct
  simpa using distinct

end DesignToCode.Naming.ClassScope
