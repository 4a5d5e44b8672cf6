import DesignToCode.Text.Pieces

/-!
Cutting a text at separators.
-/

namespace DesignToCode.Text

variable {cut : Char → Bool} {c : Char}

theorem pieces_cons_of_cut (isCut : cut c = true) (rest : List Char) :
    pieces cut (c :: rest) = [] :: pieces cut rest := by
  rw [pieces, if_pos isCut]

theorem exists_pieces_cons (kept : cut c = false) (rest : List Char) :
    ∃ run runs, pieces cut rest = run :: runs ∧ pieces cut (c :: rest) = (c :: run) :: runs := by
  obtain ⟨run, runs, split⟩ := List.exists_cons_of_ne_nil (pieces_ne_nil cut rest)
  refine ⟨run, runs, split, ?_⟩
  rw [pieces, kept, split]
  rfl

theorem pieces_append_cons (isCut : cut c = true) (before after : List Char) :
    pieces cut (before ++ c :: after) = pieces cut before ++ pieces cut after := by
  induction before with
  | nil => exact pieces_cons_of_cut isCut after
  | cons first rest ih =>
      rw [List.cons_append]
      by_cases firstCut : cut first = true
      · rw [pieces_cons_of_cut firstCut, pieces_cons_of_cut firstCut, ih, List.cons_append]
      · rw [Bool.not_eq_true] at firstCut
        obtain ⟨run, runs, split, longer⟩ := exists_pieces_cons firstCut rest
        obtain ⟨run', runs', split', longer'⟩ := exists_pieces_cons firstCut (rest ++ c :: after)
        rw [ih, split, List.cons_append, List.cons.injEq] at split'
        rw [longer', longer, split'.1, ← split'.2, List.cons_append]

theorem pieces_of_uncut {cs : List Char} (uncut : ∀ c ∈ cs, cut c = false) :
    pieces cut cs = [cs] := by
  induction cs with
  | nil => rfl
  | cons first rest ih =>
      have later := ih fun c found => uncut c (List.mem_cons_of_mem _ found)
      rw [pieces, uncut first List.mem_cons_self, later]
      rfl

theorem pieces_of_notMem {mark : Char} {cs : List Char} (absent : mark ∉ cs) :
    pieces (· == mark) cs = [cs] := by
  refine pieces_of_uncut fun c found => beq_eq_false_iff_ne.mpr ?_
  rintro rfl
  exact absent found

theorem pieces_eq_singleton_nil_iff {cs : List Char} : pieces cut cs = [[]] ↔ cs = [] := by
  constructor
  · intro empty
    cases cs with
    | nil => rfl
    | cons first rest =>
        by_cases isCut : cut first = true
        · rw [pieces_cons_of_cut isCut, List.cons.injEq] at empty
          exact absurd empty.2 (pieces_ne_nil cut rest)
        · obtain ⟨run, runs, -, longer⟩ := exists_pieces_cons (Bool.not_eq_true _ ▸ isCut) rest
          rw [longer] at empty
          cases empty
  · rintro rfl
    rfl

theorem mem_of_mem_pieces {cs run : List Char} (inRuns : run ∈ pieces cut cs) (inRun : c ∈ run) :
    c ∈ cs ∧ cut c = false := by
  induction cs generalizing run with
  | nil =>
      rw [List.mem_singleton.mp inRuns] at inRun
      cases inRun
  | cons first rest ih =>
      have ofLater {later : List Char} (inRuns : later ∈ pieces cut rest) (inRun : c ∈ later) :
          c ∈ first :: rest ∧ cut c = false :=
        ⟨List.mem_cons_of_mem _ (ih inRuns inRun).1, (ih inRuns inRun).2⟩
      by_cases isCut : cut first = true
      · rw [pieces_cons_of_cut isCut] at inRuns
        rcases List.mem_cons.mp inRuns with rfl | later
        · cases inRun
        · exact ofLater later inRun
      · rw [Bool.not_eq_true] at isCut
        obtain ⟨start, runs, split, longer⟩ := exists_pieces_cons isCut rest
        rw [longer] at inRuns
        rw [split] at ofLater
        rcases List.mem_cons.mp inRuns with rfl | later
        · rcases List.mem_cons.mp inRun with rfl | inStart
          · exact ⟨List.mem_cons_self, isCut⟩
          · exact ofLater List.mem_cons_self inStart
        · exact ofLater (List.mem_cons_of_mem _ later) inRun

theorem flatten_pieces (cut : Char → Bool) (cs : List Char) :
    (pieces cut cs).flatten = cs.filter fun c => !cut c := by
  induction cs with
  | nil => rfl
  | cons first rest ih =>
      by_cases isCut : cut first = true
      · simp [pieces_cons_of_cut isCut, isCut, ih]
      · rw [Bool.not_eq_true] at isCut
        obtain ⟨run, runs, split, longer⟩ := exists_pieces_cons isCut rest
        rw [split, List.flatten_cons] at ih
        simp [longer, isCut, ← ih]

end DesignToCode.Text
